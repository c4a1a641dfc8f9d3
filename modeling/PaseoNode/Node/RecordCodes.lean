import PaseoNode.Node.PnsRpc

/-!
# Record-type codes across the RPC

`lookup` and `lookup_by_name` take `u32` codes, cast them to `u16` and hand out the codes of the types they found.
`codes_survive_iff` says for which requests the codes that come back are codes that were asked for: exactly when every
code is below `2 ^ 16`.
-/

namespace PaseoNode.Node

open PaseoNode.Lib PaseoNode.Runtime

variable {RT Label E Hickory : Type}

/-! ### The conversions -/

namespace RecordTypes

variable (T : RecordTypes Hickory RT)

/-- The way in: `hickory_proto::rr::RecordType::from(code as u16).into()`. -/
def ofRequest (code : UInt32) : RT := T.intoPns (T.fromCode code.toUInt16)

/-- The way out: `u16::from(hickory_proto::rr::RecordType::from(rt)) as u32`. -/
def toReply (rt : RT) : UInt32 := (T.toCode (T.fromPns rt)).toUInt32

/-- The conversions compose to the identity on `u16`. -/
def RoundTrip : Prop := ∀ code, T.toCode (T.fromPns (T.intoPns (T.fromCode code))) = code

variable {T}

theorem RoundTrip.toReply_ofRequest (hT : T.RoundTrip) (code : UInt32) :
    T.toReply (T.ofRequest code) = code.toUInt16.toUInt32 := by
  rw [toReply, ofRequest, hT]

theorem toUInt16_toUInt32_eq_iff (code : UInt32) : code.toUInt16.toUInt32 = code ↔ code.toNat < 2 ^ 16 := by
  rw [← UInt32.toNat_inj, UInt16.toNat_toUInt32, UInt32.toNat_toUInt16]
  omega

theorem RoundTrip.toReply_of_lt (hT : T.RoundTrip) {code : UInt32} (h : code.toNat < 2 ^ 16) :
    T.toReply (T.ofRequest code) = code := by
  rw [hT.toReply_ofRequest, (toUInt16_toUInt32_eq_iff code).mpr h]

theorem ofRequest_low (code : UInt32) : T.ofRequest code.toUInt16.toUInt32 = T.ofRequest code := by
  rw [ofRequest, UInt16.toUInt16_toUInt32, ofRequest]

def reference : RecordTypes UInt16 UInt16 where
  fromCode := id
  intoPns := id
  fromPns := id
  toCode := id

theorem reference_roundTrip : reference.RoundTrip := fun _ => rfl

end RecordTypes

/-! ### The lookups -/

section Lookups

variable {P : Pallets RT Label E} {T : RecordTypes Hickory RT} {S : BlockStore RT} {head : Head S}
  {codes : List UInt32}

def lookupReply (T : RecordTypes Hickory RT) (_ : ChainInfo) :
    Except ApiError (List (RT × Bytes)) → RpcResult (List (UInt32 × Bytes))
  | .error e => .error (runtimeError e)
  | .ok records => .ok (records.map fun p => (T.toReply p.1, p.2))

theorem lookup_eq (h : codes.length ≤ 50) (node : DomainHash) :
    PnsRpc.lookup T node codes = readAtBest (.lookup node (codes.map T.ofRequest)) (lookupReply T) := by
  rw [PnsRpc.lookup, if_neg (by omega)]
  refine congrArg (Prog.ask _) (funext fun chain => congrArg (Prog.ask _) (funext fun answer => ?_))
  cases answer <;> rfl

theorem lookupByName_eq (h : codes.length ≤ 50) {name : String} (hname : name.utf8ByteSize ≤ 128) :
    PnsRpc.lookupByName T name codes =
      readAtBest (.lookupByName (intoBytes name) (codes.map T.ofRequest)) (lookupReply T) := by
  rw [PnsRpc.lookupByName, if_neg (by omega), if_neg (by omega)]
  refine congrArg (Prog.ask _) (funext fun chain => congrArg (Prog.ask _) (funext fun answer => ?_))
  cases answer <;> rfl

/-- What comes back from the rows of requested types is requested, when all codes are below `2 ^ 16`. -/
theorem mem_codes_of_reply (hT : T.RoundTrip) (hcodes : ∀ code ∈ codes, code.toNat < 2 ^ 16)
    {records : List (RT × Bytes)} (hrecords : ∀ p ∈ records, p.1 ∈ codes.map T.ofRequest) :
    ∀ p ∈ records.map (fun p => (T.toReply p.1, p.2)), p.1 ∈ codes := by
  intro p hp
  obtain ⟨r, hr, rfl⟩ := List.mem_map.mp hp
  obtain ⟨code, hcode, htype⟩ := List.mem_map.mp (hrecords r hr)
  have : T.toReply r.1 = code := by rw [← htype, hT.toReply_of_lt (hcodes code hcode)]
  rwa [this]

theorem type_requested (hP : ResolversLookup P) {st : Storage RT} {node : DomainHash} {types : List RT} :
    ∀ p ∈ P.resolversLookup st node types, p.1 ∈ types :=
  fun p hp => ((hP st node types p.1 p.2).mp hp).1

variable {tr : List (Exchange (Head S) (Request RT) Request.Response)} {pairs : List (UInt32 × Bytes)}

theorem lookup_codes (hP : ResolversLookup P) (hT : T.RoundTrip) (hcodes : ∀ code ∈ codes, code.toNat < 2 ^ 16)
    {node : DomainHash} (h : Run (clientEnv P S) head (PnsRpc.lookup T node codes) tr (.ok pairs)) :
    ∀ p ∈ pairs, p.1 ∈ codes := by
  by_cases hlen : codes.length ≤ 50
  · rw [lookup_eq hlen] at h
    obtain ⟨x, -, hreply⟩ := ok_of_run_readAtBest (fun _ _ => rfl) h
    cases hreply
    exact mem_codes_of_reply hT hcodes (type_requested hP)
  · rw [PnsRpc.lookup, if_pos (by omega)] at h
    cases h.of_ret.2

theorem lookupByName_codes (hP : ResolversLookup P) (hT : T.RoundTrip)
    (hcodes : ∀ code ∈ codes, code.toNat < 2 ^ 16) {name : String}
    (h : Run (clientEnv P S) head (PnsRpc.lookupByName T name codes) tr (.ok pairs)) : ∀ p ∈ pairs, p.1 ∈ codes := by
  by_cases hname : name.utf8ByteSize ≤ 128
  · by_cases hlen : codes.length ≤ 50
    · rw [lookupByName_eq hlen hname] at h
      obtain ⟨x, -, hreply⟩ := ok_of_run_readAtBest (fun _ _ => rfl) h
      cases hreply
      exact mem_codes_of_reply hT hcodes (type_requested hP)
    · rw [PnsRpc.lookupByName, if_neg (by omega), if_pos (by omega)] at h
      cases h.of_ret.2
  · rw [PnsRpc.lookupByName, if_pos (by omega)] at h
    cases h.of_ret.2

end Lookups

/-! ### Codes survive -/

/-- The record-type codes of a request survive the RPC: on every chain, whatever the head does, both lookups reply with
requested codes only, and different codes of the request are different types. -/
structure CodesSurvive (P : Pallets RT Label E) (T : RecordTypes Hickory RT) (codes : List UInt32) : Prop where
  lookup : ∀ (S : BlockStore RT) (head : Head S) node tr pairs,
    Run (clientEnv P S) head (PnsRpc.lookup T node codes) tr (.ok pairs) → ∀ p ∈ pairs, p.1 ∈ codes
  lookupByName : ∀ (S : BlockStore RT) (head : Head S) name tr pairs,
    Run (clientEnv P S) head (PnsRpc.lookupByName T name codes) tr (.ok pairs) → ∀ p ∈ pairs, p.1 ∈ codes
  apart : ∀ code ∈ codes, ∀ code' ∈ codes, code ≠ code' → T.ofRequest code ≠ T.ofRequest code'

theorem RecordTypes.RoundTrip.injective {T : RecordTypes Hickory RT} (hT : T.RoundTrip) {code code' : UInt32}
    (h : code.toNat < 2 ^ 16) (h' : code'.toNat < 2 ^ 16) (heq : T.ofRequest code = T.ofRequest code') :
    code = code' := by
  rw [← hT.toReply_of_lt h, heq, hT.toReply_of_lt h']

/-- A chain of one block, on which `node` has a row of every type. -/
def fullStore (RT : Type) (node : DomainHash) : BlockStore RT :=
  .ofList [⟨1, 1, .single 0 node { records := fun _ => some [] }⟩]

def fullHead (RT : Type) (node : DomainHash) : Head (fullStore RT node) :=
  ⟨⟨1, 1, .single 0 node { records := fun _ => some [] }⟩, rfl⟩

theorem exists_low_reply {P : Pallets RT Label E} (hP : ResolversLookup P) {T : RecordTypes Hickory RT}
    (hT : T.RoundTrip) {codes : List UInt32} (hlen : codes.length ≤ 50) {code : UInt32} (hcode : code ∈ codes) :
    ∃ tr pairs, Run (clientEnv P (fullStore RT 0)) (fullHead RT 0) (PnsRpc.lookup T 0 codes) tr (.ok pairs) ∧
      (code.toUInt16.toUInt32, []) ∈ pairs := by
  obtain ⟨tr, hrun⟩ := exists_run_readAtBest P (fullHead RT 0) (.lookup 0 (codes.map T.ofRequest)) (lookupReply T)
  rw [← lookup_eq hlen] at hrun
  refine ⟨tr, _, hrun, List.mem_map.mpr ⟨(T.ofRequest code, []), ?_, ?_⟩⟩
  · exact (hP _ _ _ _ _).mpr ⟨List.mem_map_of_mem hcode, by simp [fullHead]⟩
  · rw [hT.toReply_ofRequest]

/-- **When record-type codes survive the RPC**: when every requested code is below `2 ^ 16`. -/
theorem codes_survive_iff (P : Pallets RT Label E) (hP : ResolversLookup P) (T : RecordTypes Hickory RT)
    (hT : T.RoundTrip) (codes : List UInt32) (hlen : codes.length ≤ 50) :
    CodesSurvive P T codes ↔ ∀ code ∈ codes, code.toNat < 2 ^ 16 := by
  constructor
  · intro h code hcode
    by_contra hwide
    obtain ⟨tr, pairs, hrun, hmem⟩ := exists_low_reply hP hT hlen hcode
    -- the code that comes back is requested too, and is another code of the same type
    have hlow := h.lookup _ _ _ _ _ hrun _ hmem
    have hne : code.toUInt16.toUInt32 ≠ code := mt (RecordTypes.toUInt16_toUInt32_eq_iff code).mp hwide
    exact h.apart _ hlow code hcode hne (RecordTypes.ofRequest_low code)
  · intro hcodes
    constructor
    · exact fun S head node tr pairs hrun => lookup_codes hP hT hcodes hrun
    · exact fun S head name tr pairs hrun => lookupByName_codes hP hT hcodes hrun
    · exact fun code hcode code' hcode' hne heq => hne (hT.injective (hcodes code hcode) (hcodes code' hcode') heq)

theorem codes_survive_iff_address :
    CodesSurvive Pallets.reference RecordTypes.reference [1, 28] ↔ ∀ code ∈ [(1 : UInt32), 28], code.toNat < 2 ^ 16 :=
  codes_survive_iff Pallets.reference Pallets.reference.resolversLookup RecordTypes.reference
    RecordTypes.reference_roundTrip [1, 28] (by decide)

/-- A request for the code 65537 is answered with an address record, whose code 1 was not requested; 65537 and 1 are one
type. -/
theorem wide_code_comes_back_narrow :
    (∃ tr, Run (clientEnv Pallets.reference (fullStore UInt16 giftNode)) (fullHead UInt16 giftNode)
      (PnsRpc.lookup RecordTypes.reference giftNode [65537]) tr (.ok [(1, [])])) ∧
    (1 : UInt32) ∉ [(65537 : UInt32)] ∧
    RecordTypes.reference.ofRequest 65537 = RecordTypes.reference.ofRequest 1 := by
  refine ⟨?_, by decide, rfl⟩
  obtain ⟨tr, hrun⟩ := exists_run_readAtBest Pallets.reference (fullHead UInt16 giftNode) (.lookup giftNode [1])
    (lookupReply RecordTypes.reference)
  have hrows : Runtime.lookup Pallets.reference (fullHead UInt16 giftNode).best.state giftNode [1] = [(1, [])] := by
    simp [Runtime.lookup, Pallets.reference, fullHead]
  rw [ApiCall.eval, hrows] at hrun
  have htypes : [(65537 : UInt32)].map RecordTypes.reference.ofRequest = [1] := rfl
  refine ⟨tr, ?_⟩
  rw [lookup_eq (by decide), htypes]
  exact hrun

end PaseoNode.Node
