import PaseoNode.Lib.Interleave
import PaseoNode.Runtime.ReadApi

/-!
# The PNS RPC methods

`PnsRpc`'s five methods are programs that ask the client: for a snapshot of the best block, and for a runtime call at a
block.  The head of the chain may move between any two questions, and a runtime call may fail at any time (`clientEnv`).

All five read once at the best block (`readAtBest`).  A runtime call names its block by hash, so it is a timeless
question, and each method takes effect at the moment of its snapshot (`run_readAtBest`).  It gives
`records_stamped_with_their_block`.
-/

namespace PaseoNode.Node

open PaseoNode.Lib PaseoNode.Runtime

/-! ### Questions to the client -/

/-- `sp_blockchain::Info`, of which the best block is read. -/
structure ChainInfo where
  bestHash : Hash
  bestNumber : BlockNumber
  deriving DecidableEq

/-- `sp_api::ApiError`, by its `Debug` text. -/
structure ApiError where
  debug : String
  deriving DecidableEq

inductive ApiCall (RT : Type) where
  | getInfo (node : DomainHash)
  | lookup (node : DomainHash) (recordTypes : List RT)
  | getListing (name : Bytes)
  | resolveName (name : Bytes)
  | lookupByName (name : Bytes) (recordTypes : List RT)

variable {RT Label E : Type}

@[reducible] def ApiCall.Answer : ApiCall RT → Type
  | .getInfo _ | .resolveName _ => Option NameRecord
  | .getListing _ => Option ListingInfo
  | .lookup _ _ | .lookupByName _ _ => List (RT × Bytes)

/-- The runtime's answer to a call on a state. -/
def ApiCall.eval (P : Pallets RT Label E) (st : Storage RT) : (call : ApiCall RT) → call.Answer
  | .getInfo node => Runtime.getInfo st node
  | .lookup node recordTypes => Runtime.lookup P st node recordTypes
  | .getListing name => Runtime.getListing P st name
  | .resolveName name => Runtime.resolveName P st name
  | .lookupByName name recordTypes => Runtime.lookupByName P st name recordTypes

/-- What a method asks: `client.info()`, or a runtime call at the block with a given hash. -/
inductive Request (RT : Type) where
  | info
  | call (hash : Hash) (c : ApiCall RT)

@[reducible] def Request.Response : Request RT → Type
  | .info => ChainInfo
  | .call _ c => Except ApiError c.Answer

/-! ### The methods -/

structure ErrorObject where
  code : Int
  message : String
  data : Option String
  deriving DecidableEq

def internalErrorCode : Int := -32603
def invalidParamsCode : Int := -32602

abbrev RpcResult (α : Type) : Type := Except ErrorObject α

/-- Programs that ask the client. -/
abbrev Rpc (RT : Type) : Type → Type := Prog (Request RT) Request.Response

def clientInfo : Rpc RT ChainInfo := .ask .info .ret

def runtimeApi (hash : Hash) (c : ApiCall RT) : Rpc RT (Except ApiError c.Answer) := .ask (.call hash c) .ret

def runtimeError (e : ApiError) : ErrorObject where
  code := internalErrorCode
  message := "Runtime error"
  data := some e.debug

def invalidParams (message : String) : ErrorObject where
  code := invalidParamsCode
  message := message
  data := none

def intoBytes (name : String) : Bytes := name.toUTF8.toList

/-- The conversions between the codes and the types of DNS records: from `u16` to `hickory_proto`'s type (`fromCode`) and
back (`toCode`), and from that type to the one of `pns_types` (`intoPns`) and back (`fromPns`). -/
structure RecordTypes (Hickory RT : Type) where
  fromCode : UInt16 → Hickory
  intoPns : Hickory → RT
  fromPns : RT → Hickory
  toCode : Hickory → UInt16

namespace PnsRpc

variable {Hickory : Type}

def getInfo (node : DomainHash) : Rpc RT (RpcResult (Option NameRecord)) := do
  let chain ← clientInfo
  let answer ← runtimeApi chain.bestHash (.getInfo node)
  return (answer.mapError runtimeError).map fun opt => opt.map fun r =>
    { r with readBlockHash := chain.bestHash, readBlockNumber := chain.bestNumber }

def resolveName (name : String) : Rpc RT (RpcResult (Option NameRecord)) := do
  if name.utf8ByteSize > 128 then
    return .error (invalidParams "name too long")
  let chain ← clientInfo
  let answer ← runtimeApi chain.bestHash (.resolveName (intoBytes name))
  return (answer.mapError runtimeError).map fun opt => opt.map fun r =>
    { r with readBlockHash := chain.bestHash, readBlockNumber := chain.bestNumber }

/-- `PnsRpc::lookup`.  The cast `code as u16` keeps the low 16 bits. -/
def lookup (T : RecordTypes Hickory RT) (node : DomainHash) (recordTypes : List UInt32) :
    Rpc RT (RpcResult (List (UInt32 × Bytes))) := do
  if recordTypes.length > 50 then
    return .error (invalidParams "too many record types (max 50)")
  let best := (← clientInfo).bestHash
  let pnsTypes := recordTypes.map fun code => T.intoPns (T.fromCode code.toUInt16)
  match ← runtimeApi best (.lookup node pnsTypes) with
  | .error e => return .error (runtimeError e)
  | .ok records => return .ok (records.map fun (rt, data) => ((T.toCode (T.fromPns rt)).toUInt32, data))

def getListing (name : String) : Rpc RT (RpcResult (Option ListingInfo)) := do
  if name.utf8ByteSize > 128 then
    return .error (invalidParams "name too long")
  let chain ← clientInfo
  let answer ← runtimeApi chain.bestHash (.getListing (intoBytes name))
  return (answer.mapError runtimeError).map fun opt => opt.map fun r =>
    { r with readBlockHash := chain.bestHash, readBlockNumber := chain.bestNumber }

def lookupByName (T : RecordTypes Hickory RT) (name : String) (recordTypes : List UInt32) :
    Rpc RT (RpcResult (List (UInt32 × Bytes))) := do
  if name.utf8ByteSize > 128 then
    return .error (invalidParams "name too long")
  if recordTypes.length > 50 then
    return .error (invalidParams "too many record types (max 50)")
  let best := (← clientInfo).bestHash
  let pnsTypes := recordTypes.map fun code => T.intoPns (T.fromCode code.toUInt16)
  match ← runtimeApi best (.lookupByName (intoBytes name) pnsTypes) with
  | .error e => return .error (runtimeError e)
  | .ok records => return .ok (records.map fun (rt, data) => ((T.toCode (T.fromPns rt)).toUInt32, data))

end PnsRpc

/-! ### The client -/

structure Block (RT : Type) where
  hash : Hash
  number : BlockNumber
  state : Storage RT

/-- Blocks found by their hash. -/
structure BlockStore (RT : Type) where
  get : Hash → Option (Block RT)
  hash_get : ∀ h b, get h = some b → b.hash = h

def BlockStore.ofList (blocks : List (Block RT)) : BlockStore RT where
  get h := blocks.find? fun b => b.hash = h
  hash_get h b hb := by simpa using List.find?_some hb

structure Head (S : BlockStore RT) where
  best : Block RT
  get_best : S.get best.hash = some best

def Head.info {S : BlockStore RT} (head : Head S) : ChainInfo where
  bestHash := head.best.hash
  bestNumber := head.best.number

/-- The client: `info` is one snapshot of the head, a runtime call fails or is evaluated on the state of its block, and
imports and reorganisations may make any block the best one. -/
def clientEnv (P : Pallets RT Label E) (S : BlockStore RT) : Env (Head S) (Request RT) Request.Response where
  move _ _ := True
  answer head
    | .info, r => r = head.info
    | .call hash call, r => (∃ e, r = .error e) ∨ ∃ b, S.get hash = some b ∧ r = .ok (call.eval P b.state)

/-- The exchange is a runtime call that failed. -/
def Failed {W : Type} : Exchange W (Request RT) Request.Response → Prop
  | ⟨_, .info, _⟩ => False
  | ⟨_, .call _ _, r⟩ => ∃ e, r = .error e

/-! ### One read at the best block -/

/-- A snapshot, one runtime call at its best block, and an answer made from the two. -/
def readAtBest {β : Type} (call : ApiCall RT) (g : ChainInfo → Except ApiError call.Answer → β) :
    Rpc RT β :=
  .ask .info fun chain => .ask (.call chain.bestHash call) fun answer => .ret (g chain answer)

section Read

variable {P : Pallets RT Label E} {S : BlockStore RT} {head : Head S} {β : Type}
  {tr : List (Exchange (Head S) (Request RT) Request.Response)}

theorem timeless_call (hash : Hash) (call : ApiCall RT) : (clientEnv P S).Timeless (.call hash call) :=
  fun _ _ _ h => h

theorem failed_map {W W' : Type} {f : W → W'} {x : Exchange W (Request RT) Request.Response} :
    Failed (x.map f) ↔ Failed x := by
  obtain ⟨_, q, r⟩ := x
  cases q <;> exact Iff.rfl

/-- A block that was the best one during the run is read, whatever the head does. -/
theorem run_readAtBest {call : ApiCall RT} {g : ChainInfo → Except ApiError call.Answer → β} {res : β}
    (h : Run (clientEnv P S) head (readAtBest call g) tr res) :
    ∃ x ∈ tr, ∃ answer, res = g x.world.info answer ∧
      ((∃ e, answer = .error e) ∨ answer = .ok (call.eval P x.world.best.state)) ∧
      ((∃ y ∈ tr, Failed y) → ∃ e, answer = .error e) := by
  obtain ⟨x, hx, hrun⟩ := h.linearize fun chain => .ask (timeless_call _ _) fun _ => .ret _
  obtain ⟨chain, tr₁, htr, hchain, hrun⟩ := hrun.ask_of_frozen
  obtain ⟨answer, tr₂, rfl, hanswer, hrun⟩ := hrun.ask_of_frozen
  obtain ⟨rfl, rfl⟩ := hrun.of_ret
  obtain rfl : chain = x.world.info := hchain
  refine ⟨x, hx, answer, rfl, ?_, ?_⟩
  · rcases hanswer with herr | ⟨b, hb, hok⟩
    · exact Or.inl herr
    · have hbest : S.get x.world.info.bestHash = some x.world.best := x.world.get_best
      obtain rfl : x.world.best = b := Option.some_inj.mp (hbest.symm.trans hb)
      exact Or.inr hok
  · rintro ⟨y, hy, hfailed⟩
    -- in the frozen world the exchanges are the snapshot and the call
    have hmem : y.inWorld x.world ∈ tr.map fun y => y.inWorld x.world := List.mem_map_of_mem hy
    have hfailed' : Failed (y.map fun _ => x.world) := failed_map.mpr hfailed
    change Failed (y.inWorld x.world) at hfailed'
    rw [htr] at hmem
    rcases List.mem_cons.mp hmem with heq | hmem
    · rw [heq] at hfailed'
      exact hfailed'.elim
    · rw [List.mem_singleton.mp hmem] at hfailed'
      exact hfailed'

theorem ok_of_run_readAtBest {call : ApiCall RT} {g : ChainInfo → Except ApiError call.Answer → RpcResult β} {b : β}
    (herror : ∀ chain e, g chain (.error e) = .error (runtimeError e))
    (h : Run (clientEnv P S) head (readAtBest call g) tr (.ok b)) :
    ∃ x ∈ tr, g x.world.info (.ok (call.eval P x.world.best.state)) = .ok b := by
  obtain ⟨x, hx, answer, hres, hanswer, -⟩ := run_readAtBest h
  rcases hanswer with ⟨e, rfl⟩ | rfl
  · rw [herror] at hres
    cases hres
  · exact ⟨x, hx, hres.symm⟩

theorem exists_run_readAtBest (P : Pallets RT Label E) (head : Head S) (c : ApiCall RT)
    (g : ChainInfo → Except ApiError c.Answer → β) :
    ∃ tr, Run (clientEnv P S) head (readAtBest c g) tr (g head.info (.ok (c.eval P head.best.state))) :=
  ⟨_, .ask rfl (.ask (Or.inr ⟨head.best, head.get_best, rfl⟩) .ret)⟩

end Read

/-! ### Stamped answers -/

section Stamps

variable {P : Pallets RT Label E} {S : BlockStore RT} {head : Head S} {ρ : Type}

def stampRecord (chain : ChainInfo) (r : NameRecord) : NameRecord :=
  { r with readBlockHash := chain.bestHash, readBlockNumber := chain.bestNumber }

def stampListing (chain : ChainInfo) (l : ListingInfo) : ListingInfo :=
  { l with readBlockHash := chain.bestHash, readBlockNumber := chain.bestNumber }

/-- The result of a call is stamped with its block: a record in it is the runtime's answer on the state of a block that
was the best one during the call, with the hash and the number of that block; and it is an error when the runtime call
failed. -/
structure Stamped (stamp : ChainInfo → ρ → ρ) (query : Storage RT → Option ρ)
    (tr : List (Exchange (Head S) (Request RT) Request.Response)) (res : RpcResult (Option ρ)) : Prop where
  of_some : ∀ r, res = .ok (some r) →
    ∃ x ∈ tr, ∃ r₀, query x.world.best.state = some r₀ ∧ r = stamp x.world.info r₀
  of_failed : (∃ x ∈ tr, Failed x) → ∃ e, res = .error e

/-- A read at the best block that passes errors on and stamps what it gets. -/
theorem stamped_readAtBest {c : ApiCall RT} {v : c.Answer → Option ρ} {stamp : ChainInfo → ρ → ρ}
    {g : ChainInfo → Except ApiError c.Answer → RpcResult (Option ρ)}
    (hok : ∀ chain a, g chain (.ok a) = .ok ((v a).map (stamp chain)))
    (herror : ∀ chain e, g chain (.error e) = .error (runtimeError e))
    {tr : List (Exchange (Head S) (Request RT) Request.Response)} {res : RpcResult (Option ρ)}
    (h : Run (clientEnv P S) head (readAtBest c g) tr res) :
    Stamped stamp (fun st => v (c.eval P st)) tr res := by
  constructor
  · rintro r rfl
    obtain ⟨x, hx, hr⟩ := ok_of_run_readAtBest herror h
    rw [hok, Except.ok.injEq, Option.map_eq_some_iff] at hr
    obtain ⟨r₀, hr₀, rfl⟩ := hr
    exact ⟨x, hx, r₀, hr₀, rfl⟩
  · intro hex
    obtain ⟨x, -, answer, rfl, -, hfailed⟩ := run_readAtBest h
    obtain ⟨e, rfl⟩ := hfailed hex
    exact ⟨runtimeError e, herror _ _⟩

theorem stamped_refused {stamp : ChainInfo → ρ → ρ} {query : Storage RT → Option ρ} {e : ErrorObject}
    {tr : List (Exchange (Head S) (Request RT) Request.Response)} {res : RpcResult (Option ρ)}
    (h : Run (clientEnv P S) head (.ret (.error e)) tr res) : Stamped stamp query tr res := by
  obtain ⟨rfl, rfl⟩ := h.of_ret
  constructor
  · intro r hr
    cases hr
  · intro _
    exact ⟨e, rfl⟩

end Stamps

/-- **Every record is stamped with the block it was read from**, whatever the head does during the call. -/
theorem records_stamped_with_their_block (P : Pallets RT Label E) (S : BlockStore RT) (head : Head S)
    (tr : List (Exchange (Head S) (Request RT) Request.Response)) :
    (∀ node res, Run (clientEnv P S) head (PnsRpc.getInfo node) tr res →
      Stamped stampRecord (fun st => Runtime.getInfo st node) tr res) ∧
    (∀ name res, Run (clientEnv P S) head (PnsRpc.resolveName name) tr res →
      Stamped stampRecord (fun st => Runtime.resolveName P st (intoBytes name)) tr res) ∧
    ∀ name res, Run (clientEnv P S) head (PnsRpc.getListing name) tr res →
      Stamped stampListing (fun st => Runtime.getListing P st (intoBytes name)) tr res := by
  refine ⟨fun node res h => ?_, fun name res h => ?_, fun name res h => ?_⟩
  · exact stamped_readAtBest (c := .getInfo node) (v := id) (fun _ _ => rfl) (fun _ _ => rfl) h
  · unfold PnsRpc.resolveName at h
    split_ifs at h with hlen
    · exact stamped_refused h
    · exact stamped_readAtBest (c := .resolveName (intoBytes name)) (v := id) (fun _ _ => rfl) (fun _ _ => rfl) h
  · unfold PnsRpc.getListing at h
    split_ifs at h with hlen
    · exact stamped_refused h
    · exact stamped_readAtBest (c := .getListing (intoBytes name)) (v := id) (fun _ _ => rfl) (fun _ _ => rfl) h

/-- `b"gift"` for sale in block 1, and sold in block 2. -/
def giftBlocks : BlockStore UInt16 :=
  .ofList [⟨101, 1, listedStorage 3 8⟩, ⟨102, 2, soldStorage⟩]

def headOne : Head giftBlocks := ⟨⟨101, 1, listedStorage 3 8⟩, rfl⟩
def headTwo : Head giftBlocks := ⟨⟨102, 2, soldStorage⟩, rfl⟩

def saleRecord : NameRecord := nameRecord (listedStorage 3 8) giftNode (registration 10) ⟨7⟩
def saleListing : ListingInfo := listingInfo ⟨7, 1000, 8⟩

theorem intoBytes_gift : intoBytes "gift" = giftName := by decide +kernel

/-- The head moves to block 2 during each call, and each answers from block 1. -/
theorem records_stamped_with_their_block_moved :
    let info : RpcResult (Option NameRecord) := .ok (some (stampRecord ⟨101, 1⟩ saleRecord))
    let listing : RpcResult (Option ListingInfo) := .ok (some (stampListing ⟨101, 1⟩ saleListing))
    (∃ tr, Run (clientEnv Pallets.reference giftBlocks) headOne (PnsRpc.getInfo giftNode) tr info ∧
      tr.map (fun x => x.world.best.number) = [1, 2] ∧
      Stamped stampRecord (fun st => Runtime.getInfo st giftNode) tr info) ∧
    (∃ tr, Run (clientEnv Pallets.reference giftBlocks) headOne (PnsRpc.resolveName "gift") tr info ∧
      tr.map (fun x => x.world.best.number) = [1, 2] ∧
      Stamped stampRecord (fun st => Runtime.resolveName Pallets.reference st (intoBytes "gift")) tr info) ∧
    ∃ tr, Run (clientEnv Pallets.reference giftBlocks) headOne (PnsRpc.getListing "gift") tr listing ∧
      tr.map (fun x => x.world.best.number) = [1, 2] ∧
      Stamped stampListing (fun st => Runtime.getListing Pallets.reference st (intoBytes "gift")) tr listing := by
  intro info listing
  have hinfo : Runtime.getInfo headOne.best.state giftNode = some saleRecord := getInfo_listed (by decide)
  have hname : Runtime.resolveName Pallets.reference headOne.best.state (intoBytes "gift") = some saleRecord := by
    rw [intoBytes_gift, resolveName_of_label labelNode_gift, hinfo]
  have hlisting : Runtime.getListing Pallets.reference headOne.best.state (intoBytes "gift") = some saleListing := by
    rw [intoBytes_gift, getListing_of_label labelNode_gift]
    simp [headOne, listedStorage, saleListing]
  have hlen : ¬ "gift".utf8ByteSize > 128 := by decide
  refine ⟨?_, ?_, ?_⟩
  · have hrun : Run (clientEnv Pallets.reference giftBlocks) headOne (PnsRpc.getInfo giftNode)
        [⟨headOne, .info, headOne.info⟩, ⟨headTwo, .call 101 (.getInfo giftNode), .ok (some saleRecord)⟩] info :=
      .ask rfl (.move trivial (.ask (Or.inr ⟨headOne.best, rfl, by rw [ApiCall.eval, hinfo]⟩) .ret))
    exact ⟨_, hrun, rfl, (records_stamped_with_their_block Pallets.reference giftBlocks headOne _).1 giftNode info hrun⟩
  · have hrun : Run (clientEnv Pallets.reference giftBlocks) headOne (PnsRpc.resolveName "gift")
        [⟨headOne, .info, headOne.info⟩,
          ⟨headTwo, .call 101 (.resolveName (intoBytes "gift")), .ok (some saleRecord)⟩] info := by
      rw [PnsRpc.resolveName, if_neg hlen]
      exact .ask rfl (.move trivial (.ask (Or.inr ⟨headOne.best, rfl, by rw [ApiCall.eval, hname]⟩) .ret))
    exact ⟨_, hrun, rfl,
      (records_stamped_with_their_block Pallets.reference giftBlocks headOne _).2.1 "gift" info hrun⟩
  · have hrun : Run (clientEnv Pallets.reference giftBlocks) headOne (PnsRpc.getListing "gift")
        [⟨headOne, .info, headOne.info⟩,
          ⟨headTwo, .call 101 (.getListing (intoBytes "gift")), .ok (some saleListing)⟩] listing := by
      rw [PnsRpc.getListing, if_neg hlen]
      exact .ask rfl (.move trivial (.ask (Or.inr ⟨headOne.best, rfl, by rw [ApiCall.eval, hlisting]⟩) .ret))
    exact ⟨_, hrun, rfl,
      (records_stamped_with_their_block Pallets.reference giftBlocks headOne _).2.2 "gift" listing hrun⟩

end PaseoNode.Node
