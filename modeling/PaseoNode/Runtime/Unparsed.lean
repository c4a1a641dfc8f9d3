import PaseoNode.Runtime.ReadApi

/-!
# Names that do not parse

`get_listing` and `resolve_name` stop at a name that is no label; `lookup_by_name` goes on with the all-zero node.  Two
states that agree on the rows of all named nodes get the same answers to the first two, always.  To the third they get
the same answer, and the empty one for a name that does not parse, exactly when the name parses or the all-zero node has
no row of a requested type (`unparsed_names_reveal_nothing_iff`).
-/

namespace PaseoNode.Runtime

open PaseoNode.Lib

variable {RT Label E : Type}

/-! ### States that agree on the named nodes -/

/-- The states have the same rows at the node. -/
structure AgreeAt (st st' : Storage RT) (node : DomainHash) : Prop where
  offeredNames : st.offeredNames node = st'.offeredNames node
  registrarInfos : st.registrarInfos node = st'.registrarInfos node
  tokens : ∀ c, st.tokens c node = st'.tokens c node
  listings : st.listings node = st'.listings node
  records : st.records node = st'.records node
  approvals : st.approvals node = st'.approvals node
  runtimeOrigins : st.runtimeOrigins node = st'.runtimeOrigins node

/-- The states have the same rows at every node that some name parses to.  They are read at the same time. -/
structure AgreeOnNames (P : Pallets RT Label E) (st st' : Storage RT) : Prop where
  now : st.now = st'.now
  rows : ∀ name node, P.parseNameToNode name P.nativeBasenode = some node → AgreeAt st st' node

/-- `resolvers::lookup` reads only the records of the node. -/
def LookupReadsRecords (P : Pallets RT Label E) : Prop :=
  ∀ st st' node types, st.records node = st'.records node →
    P.resolversLookup st node types = P.resolversLookup st' node types

/-- No name parses to the all-zero node. -/
def ZeroUnnamed (P : Pallets RT Label E) : Prop := ∀ name, P.parseNameToNode name P.nativeBasenode ≠ some default

section Agree

variable {P : Pallets RT Label E} {st st' : Storage RT} {node : DomainHash} {name : Bytes}

theorem AgreeAt.offerLive_iff (h : AgreeAt st st' node) (hnow : st.now = st'.now) :
    OfferLive st node ↔ OfferLive st' node := by
  unfold OfferLive
  rw [h.offeredNames, hnow]

theorem AgreeAt.getInfo_eq (h : AgreeAt st st' node) (hnow : st.now = st'.now) : getInfo st node = getInfo st' node := by
  by_cases hlive : OfferLive st node
  · rw [getInfo_of_offerLive hlive, getInfo_of_offerLive ((h.offerLive_iff hnow).mp hlive)]
  · have hrecord : nameRecord st node = nameRecord st' node := by
      funext info token
      unfold nameRecord
      rw [h.listings]
    rw [getInfo_of_not_offerLive hlive, getInfo_of_not_offerLive (mt (h.offerLive_iff hnow).mpr hlive), h.registrarInfos,
      h.tokens, hnow, hrecord]

theorem AgreeOnNames.resolveName_eq (hP : ParsersAgree P) (h : AgreeOnNames P st st') (name : Bytes) :
    resolveName P st name = resolveName P st' name := by
  rw [Runtime.resolveName_eq, Runtime.resolveName_eq]
  cases hnode : labelNode P name with
  | none => rw [Option.bind_none, Option.bind_none]
  | some node =>
    have hrows : AgreeAt st st' node := h.rows name node (hP.parse_of_label hnode)
    rw [Option.bind_some, Option.bind_some]
    exact hrows.getInfo_eq h.now

theorem AgreeOnNames.getListing_eq (hP : ParsersAgree P) (h : AgreeOnNames P st st') (name : Bytes) :
    getListing P st name = getListing P st' name := by
  unfold getListing
  cases hlabel : P.newWithLen name with
  | none => rfl
  | some p =>
    obtain ⟨label, len⟩ := p
    have hrows := h.rows name _ (hP name label len hlabel)
    simp [hrows.listings]

theorem AgreeOnNames.lookupByName_eq (hR : LookupReadsRecords P) (h : AgreeOnNames P st st')
    (hname : P.parseNameToNode name P.nativeBasenode = some node) (types : List RT) :
    lookupByName P st name types = lookupByName P st' name types := by
  have hrows : AgreeAt st st' node := h.rows name node hname
  rw [lookupByName_of_parse hname, lookupByName_of_parse hname]
  exact hR st st' node types hrows.records

theorem lookupByName_of_no_parse (h : P.parseNameToNode name P.nativeBasenode = none) (types : List RT) :
    lookupByName P st name types = lookup P st default types := by
  simp [lookupByName, lookup, h]

end Agree

/-! ### What an unparsed name reveals -/

/-- **When by-name queries reveal nothing for names that do not parse**: when the name parses, or no requested type has a
row at the all-zero node. -/
theorem unparsed_names_reveal_nothing_iff (P : Pallets RT Label E) (hP : ParsersAgree P) (hL : ResolversLookup P)
    (hR : LookupReadsRecords P) (st st' : Storage RT) (h : AgreeOnNames P st st') (name : Bytes) (types : List RT) :
    (resolveName P st name = resolveName P st' name ∧ getListing P st name = getListing P st' name ∧
      lookupByName P st name types = lookupByName P st' name types ∧
      (P.parseNameToNode name P.nativeBasenode = none →
        lookupByName P st name types = [] ∧ lookupByName P st' name types = [])) ↔
    P.parseNameToNode name P.nativeBasenode ≠ none ∨
      ∀ t ∈ types, st.records default t = none ∧ st'.records default t = none := by
  have hresolve := h.resolveName_eq hP name
  have hlisting := h.getListing_eq hP name
  cases hname : P.parseNameToNode name P.nativeBasenode with
  | some node =>
    have hlookup := h.lookupByName_eq hR hname types
    constructor
    · intro _
      exact Or.inl (Option.some_ne_none node)
    · intro _
      exact ⟨hresolve, hlisting, hlookup, fun hnone => absurd hnone (Option.some_ne_none node)⟩
  | none =>
    -- both lookups are made at the all-zero node
    have hempty : (lookupByName P st name types = [] ∧ lookupByName P st' name types = []) ↔
        ∀ t ∈ types, st.records default t = none ∧ st'.records default t = none := by
      rw [lookupByName_of_no_parse hname, lookupByName_of_no_parse hname, lookup_eq_nil_iff hL, lookup_eq_nil_iff hL]
      exact forall₂_and.symm
    constructor
    · rintro ⟨-, -, -, hnil⟩
      exact Or.inr (hempty.mp (hnil rfl))
    · rintro (hparse | hrows)
      · exact absurd rfl hparse
      · have hnil := hempty.mpr hrows
        exact ⟨hresolve, hlisting, hnil.1.trans hnil.2.symm, fun _ => hnil⟩

namespace Pallets.reference

theorem lookupReadsRecords : LookupReadsRecords reference := by
  intro st st' node types h
  simp only [reference, h]

theorem hashLabel_ne_zero (label : Bytes) (node : DomainHash) : hashLabel label node ≠ default := by
  intro h
  have htoNat := congrArg BitVec.toNat h
  rw [hashLabel, BitVec.toNat_ofNat] at htoNat
  have hzero : (default : DomainHash).toNat = 0 := rfl
  omega

theorem zeroUnnamed : ZeroUnnamed reference := by
  intro name
  simp only [reference, parseName]
  cases hsplit : name.splitOn 46 with
  | nil => exact absurd hsplit (List.splitOn_ne_nil 46 name)
  | cons part parts =>
    rw [List.foldr_cons]
    intro h
    simp only [Option.bind_eq_bind, Option.bind_eq_some_iff, Option.pure_def, Option.some_inj] at h
    obtain ⟨⟨label, len⟩, -, node, -, hhash⟩ := h
    exact hashLabel_ne_zero label node hhash

end Pallets.reference

/-- `b"a..b"` -/
def dottedName : Bytes := [97, 46, 46, 98]

/-- An address record at the all-zero node, or none. -/
def zeroStorage (data : Option Bytes) : Storage UInt16 :=
  .single 3 default { records := fun t => if t = 1 then data else none }

theorem zeroStorage_agree (data data' : Option Bytes) :
    AgreeOnNames Pallets.reference (zeroStorage data) (zeroStorage data') where
  now := rfl
  rows name node hname := by
    have hne : node ≠ default := by
      rintro rfl
      exact Pallets.reference.zeroUnnamed name hname
    constructor <;> simp [zeroStorage, Storage.single, hne]

theorem parse_dotted :
    Pallets.reference.parseNameToNode dottedName Pallets.reference.nativeBasenode = none := by decide +kernel

/-- The all-zero node has no row of type 28 in either state, so nothing is revealed of that type; for the type of the
address the condition fails. -/
theorem unparsed_names_reveal_nothing_iff_dotted :
    (lookupByName Pallets.reference (zeroStorage none) dottedName [28] = [] ∧
      lookupByName Pallets.reference (zeroStorage (some [1])) dottedName [28] = []) ∧
    ((resolveName Pallets.reference (zeroStorage none) dottedName =
        resolveName Pallets.reference (zeroStorage (some [1])) dottedName ∧
      getListing Pallets.reference (zeroStorage none) dottedName =
        getListing Pallets.reference (zeroStorage (some [1])) dottedName ∧
      lookupByName Pallets.reference (zeroStorage none) dottedName [1] =
        lookupByName Pallets.reference (zeroStorage (some [1])) dottedName [1] ∧
      (Pallets.reference.parseNameToNode dottedName Pallets.reference.nativeBasenode = none →
        lookupByName Pallets.reference (zeroStorage none) dottedName [1] = [] ∧
          lookupByName Pallets.reference (zeroStorage (some [1])) dottedName [1] = [])) ↔
    Pallets.reference.parseNameToNode dottedName Pallets.reference.nativeBasenode ≠ none ∨
      ∀ t ∈ [(1 : UInt16)], (zeroStorage none).records default t = none ∧
        (zeroStorage (some [1])).records default t = none) := by
  have hiff : ∀ types, _ := unparsed_names_reveal_nothing_iff Pallets.reference Pallets.reference.parsersAgree
    Pallets.reference.resolversLookup Pallets.reference.lookupReadsRecords (zeroStorage none) (zeroStorage (some [1]))
    (zeroStorage_agree none (some [1])) dottedName
  have hempty : ∀ t ∈ [(28 : UInt16)], (zeroStorage none).records default t = none ∧
      (zeroStorage (some [1])).records default t = none := by
    intro t ht
    rw [List.mem_singleton.mp ht]
    simp [zeroStorage]
  obtain ⟨-, -, -, hnil⟩ := (hiff [28]).mpr (Or.inr hempty)
  exact ⟨hnil parse_dotted, hiff [1]⟩

/-- A name that does not parse is answered with the record at the all-zero node, though no name parses to that node and
the states agree everywhere else. -/
theorem unparsed_name_reveals_zero_node :
    ZeroUnnamed Pallets.reference ∧
    AgreeOnNames Pallets.reference (zeroStorage none) (zeroStorage (some [192, 0, 2, 1])) ∧
    Pallets.reference.parseNameToNode dottedName Pallets.reference.nativeBasenode = none ∧
    lookupByName Pallets.reference (zeroStorage none) dottedName [1] = [] ∧
    lookupByName Pallets.reference (zeroStorage (some [192, 0, 2, 1])) dottedName [1] = [(1, [192, 0, 2, 1])] := by
  refine ⟨Pallets.reference.zeroUnnamed, zeroStorage_agree _ _, parse_dotted, ?_, ?_⟩
  · rw [lookupByName_of_no_parse parse_dotted]
    simp [lookup, Pallets.reference, zeroStorage]
  · rw [lookupByName_of_no_parse parse_dotted]
    simp [lookup, Pallets.reference, zeroStorage]

end PaseoNode.Runtime
