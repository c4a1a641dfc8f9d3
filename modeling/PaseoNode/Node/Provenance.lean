import PaseoNode.Node.Sessions
import PaseoNode.Runtime.Genesis
import PaseoNode.Runtime.Records

/-!
# Where the served records come from

The blocks that the server reads are blocks of a chain: their states are reached from one genesis by record
operations (`BlockStore.GrownFrom`).  So a pair in a reply is a row of the block that was read, and in the history of that
block it was set by the owner or an approved operator of the token, or written by the chain itself
(`served_rows_have_provenance`).
-/

namespace PaseoNode.Node

open PaseoNode.Lib PaseoNode.Runtime

variable {RT Label E Hickory AuraId GrandpaId Record : Type}

/-- The state of every block is reached from the genesis state by record operations. -/
def BlockStore.GrownFrom (S : BlockStore RT) (P : Pallets RT Label E) (R : Resolvers RT E) (genesis : Storage RT) :
    Prop :=
  ∀ hash b, S.get hash = some b → ∃ ops, Log (RecordStep P R) genesis ops b.state

/-- Where the data of a row come from in a run: a user who may write the records of the node set them, or the last
operation of the chain on the row wrote them. -/
inductive Provenance (P : Pallets RT Label E) (R : Resolvers RT E) [DecidableEq RT]
    (run : List (RecordOp RT × Storage RT)) (node : DomainHash) (t : RT) (data : Bytes) : Prop where
  | user (who : AccountId) : R.userSettable t = true → SetBy P R run node t data who → Provenance P R run node t data
  | chain (op : RecordOp RT) : t = R.ss58 ∨ t = R.origin →
      ((run.map Prod.fst).filter fun op => op.ByChain R node t).getLast? = some op → op.value R = some data →
      Provenance P R run node t data

section Rows

variable [DecidableEq RT] {P : Pallets RT Label E} {R : Resolvers RT E} {genesis st : Storage RT}
  {run : List (RecordOp RT × Storage RT)} {node : DomainHash} {t : RT} {data : Bytes}

/-- **On a chain that starts without records, every row has its provenance.** -/
theorem provenance_of_row (hv : RegistryVerify P) (he : ExpiresUseable P) (hR : R.Lawful P) (hclean : R.CleanersRemove)
    (hgenesis : ∀ n t, genesis.records n t = none) (h : RecordRun P R genesis run st)
    (hrow : st.records node t = some data) : Provenance P R run node t data := by
  rcases written_of_row hR hclean h.forget hgenesis hrow with ht | ht
  · -- a type that users may set
    rcases writer_of_row hv he hR h ht hrow with ⟨hstart, -⟩ | ⟨who, hset⟩
    · rw [hgenesis] at hstart
      cases hstart
    · exact .user who ht hset
  · -- a type that the chain manages
    rw [managedRow_eq hR h.forget ht, hgenesis] at hrow
    cases hlast : ((run.map Prod.fst).filter fun op => op.ByChain R node t).getLast? with
    | none =>
      rw [hlast] at hrow
      cases hrow
    | some op =>
      rw [hlast] at hrow
      exact .chain op ht hlast hrow

end Rows

theorem row_of_mem_reply {P : Pallets RT Label E} (hP : ResolversLookup P) {T : RecordTypes Hickory RT}
    {S : BlockStore RT} {head : Head S} {c : PnsCall} {node : DomainHash} {codes : List UInt32}
    {pairs : List (UInt32 × Bytes)} (hc : c.lookupOf P = some (node, codes))
    (hreply : replyAt P T head c = .records pairs) {code : UInt32} {data : Bytes} (hmem : (code, data) ∈ pairs) :
    ∃ t ∈ codes.map T.ofRequest, T.toReply t = code ∧ head.best.state.records node t = some data := by
  rw [replyAt_of_lookupOf hc, Reply.records.injEq] at hreply
  rw [← hreply] at hmem
  obtain ⟨⟨t, d⟩, hrow, heq⟩ := List.mem_map.mp hmem
  obtain ⟨rfl, rfl⟩ := Prod.mk.inj heq
  obtain ⟨htype, hdata⟩ := (hP head.best.state node _ t d).mp hrow
  exact ⟨t, htype, rfl, hdata⟩

/-- **Served records have a provenance.**  On a chain that grows from a genesis configuration, every pair in a
reply to a lookup, whatever calls ran beside it, is a row of one best block, of a requested type; and in every history of
that block the row was set by an account that was then the owner or an approved operator of the token of the node, or was
written last by the chain. -/
theorem served_rows_have_provenance {ι : Type} [DecidableEq ι] [DecidableEq RT] (P : Pallets RT Label E)
    (hP : ResolversLookup P) (hv : RegistryVerify P) (he : ExpiresUseable P) (R : Resolvers RT E) (hR : R.Lawful P)
    (hclean : R.CleanersRemove) (T : RecordTypes Hickory RT) (g : GenesisConfig AuraId GrandpaId Record)
    (built : GenesisState AuraId RT) (hbuilt : g.BuiltFrom built) (S : BlockStore RT)
    (hS : S.GrownFrom P R built.storage) (s s' : Server ι S) (evs : List (ServerEvent ι S))
    (h : History (clientEnv P S) (serve T) s evs s') (A : ServerCall ι S) (hA : A.In evs)
    (node : DomainHash) (codes : List UInt32) (hlookup : A.request.lookupOf P = some (node, codes))
    (pairs : List (UInt32 × Bytes)) (hres : A.result = .ok (.records pairs)) :
    ∃ x ∈ A.exchanges, (∃ run, RecordRun P R built.storage run x.world.best.state) ∧
      ∀ code data, (code, data) ∈ pairs →
        ∃ t ∈ codes.map T.ofRequest, T.toReply t = code ∧ x.world.best.state.records node t = some data ∧
          ∀ run, RecordRun P R built.storage run x.world.best.state → Provenance P R run node t data := by
  obtain ⟨x, hx, hreply⟩ := reply_from_head h hA hres
  obtain ⟨ops, hops⟩ := hS _ _ x.world.get_best
  obtain ⟨run, -, hrun⟩ := hops.recorded
  refine ⟨x, hx, ⟨run, hrun⟩, fun code data hmem => ?_⟩
  obtain ⟨t, htype, hcode, hrow⟩ := row_of_mem_reply hP hlookup hreply hmem
  exact ⟨t, htype, hcode, hrow, fun run hrun => provenance_of_row hv he hR hclean hbuilt.records hrun hrow⟩

/-! ### A young chain

The token and the registration of `b"gift"` appear, and then its owner sets an address. -/

def youngBlock : Block UInt16 := ⟨301, 2, withAddress (giftStorage 10 3)⟩

def youngBlocks : BlockStore UInt16 := .ofList [youngBlock]

def youngHead : Head youngBlocks := ⟨youngBlock, rfl⟩

theorem useable_gift : checkNodeUseable Pallets.reference (giftStorage 10 3) giftNode 7 = true := by
  rw [checkNodeUseable_iff Pallets.reference.registryVerify Pallets.reference.expiresUseable]
  refine ⟨⟨⟨7⟩, by simp [giftStorage], Or.inl rfl⟩, fun info hinfo => ?_⟩
  have hreg : (giftStorage 10 3).registrarInfos giftNode = some (registration 10) := by simp [giftStorage]
  obtain rfl : registration 10 = info := Option.some_inj.mp (hreg.symm.trans hinfo)
  decide

theorem youngBlock_run : RecordRun Pallets.reference Resolvers.reference youngGenesis.storage
    [(.other, youngGenesis.storage), (setAddress, giftStorage 10 3)] youngBlock.state := by
  have hrecords : (giftStorage 10 3).records = youngGenesis.storage.records := by
    funext n t
    show (if n = giftNode then fun _ => none else fun _ => none : UInt16 → Option Bytes) t = none
    split_ifs <;> rfl
  exact .cons ⟨rfl, .other hrecords⟩ (.cons ⟨rfl, setAddress_ok useable_gift⟩ .nil)

theorem youngBlocks_grown : youngBlocks.GrownFrom Pallets.reference Resolvers.reference youngGenesis.storage := by
  intro hash b hb
  have hfind : ([youngBlock].find? fun b => b.hash = hash) = some b := hb
  have hmem : b ∈ [youngBlock] := List.mem_of_find?_eq_some hfind
  rw [List.mem_singleton.mp hmem]
  exact ⟨_, youngBlock_run.forget⟩

def youngServer : Server ℕ youngBlocks where
  world := youngHead

def youngCall : ServerCall ℕ youngBlocks :=
  callAlone Pallets.reference RecordTypes.reference youngHead (.lookup giftNode [1]) [] []

theorem youngCall_result : youngCall.result = .ok (.records [(1, [192, 0, 2, 9])]) := by
  have hlookup : (PnsCall.lookup giftNode [1]).lookupOf Pallets.reference = some (giftNode, [1]) := rfl
  change Except.ok (replyAt Pallets.reference RecordTypes.reference youngHead (.lookup giftNode [1])) = _
  rw [replyAt_of_lookupOf hlookup]
  rfl

/-- The address in the reply is a row of the young block, and account 7 set it. -/
theorem served_rows_have_provenance_young :
    ∃ t, RecordTypes.reference.toReply t = 1 ∧ youngBlock.state.records giftNode t = some [192, 0, 2, 9] ∧
      Provenance Pallets.reference Resolvers.reference
        [(.other, youngGenesis.storage), (setAddress, giftStorage 10 3)] giftNode t [192, 0, 2, 9] := by
  obtain ⟨s', h, -, -⟩ := history_callEvents (P := Pallets.reference) (T := RecordTypes.reference)
    (s := youngServer) (c := .lookup giftNode [1]) rfl rfl (typesRefusal_eq_none_iff.mpr (by decide))
  have hin : youngCall.In
      (callEvents Pallets.reference RecordTypes.reference youngServer.world (.lookup giftNode [1])) :=
    callAlone_in youngHead (.lookup giftNode [1]) [] []
  obtain ⟨x, hx, -, hpairs⟩ := served_rows_have_provenance Pallets.reference Pallets.reference.resolversLookup
    Pallets.reference.registryVerify Pallets.reference.expiresUseable Resolvers.reference Resolvers.reference_lawful
    Resolvers.reference_cleanersRemove RecordTypes.reference youngConfig youngGenesis
    (youngConfig.builtFrom_build youngConfig_ok) youngBlocks youngBlocks_grown youngServer s' _ h youngCall hin giftNode
    [1] rfl _ youngCall_result
  obtain ⟨t, -, hcode, hrow, hprovenance⟩ := hpairs 1 [192, 0, 2, 9] (by simp)
  have hbest : x.world.best = youngBlock := by
    have hget : ([youngBlock].find? fun b => b.hash = x.world.best.hash) = some x.world.best := x.world.get_best
    exact List.mem_singleton.mp (List.mem_of_find?_eq_some hget)
  rw [hbest] at hrow hprovenance
  exact ⟨t, hcode, hrow, hprovenance _ youngBlock_run⟩

end PaseoNode.Node
