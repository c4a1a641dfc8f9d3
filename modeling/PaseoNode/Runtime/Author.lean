import PaseoNode.Lib.Memo
import PaseoNode.Runtime.Types

/-!
# The block author

`AuraAccountFinder::find_author` computes the author of a block from its pre-runtime digests and the Aura authorities.
The ZK-PKI and Secret Squirrel pallets ask it each time; the PNS pallets ask `pallet_authorship`, which keeps the answer
in a memo that lives in the storage of the chain, under the storage layers of the extrinsics.

`AuthorInv` is the invariant of a chain of blocks: the memo is coherent with the block that is open, and empty between
blocks.  It gives `every_fee_path_pays_the_author`.
-/

namespace PaseoNode.Runtime

open PaseoNode.Lib

/-! ### Finding the author -/

structure BoundedVec (α : Type) (S : UInt32) where
  toList : List α
  length_le : toList.length ≤ S.toNat

def maxAuthorities : UInt32 := 32

abbrev ConsensusEngineId : Type := Vector UInt8 4

/-- What the runtime uses of the Aura crates: the engine id of their digests, the decoder of a slot, and the account of an
authority key. -/
structure Aura (AuraId : Type) where
  auraEngineId : ConsensusEngineId
  slotDecode : Bytes → Option UInt64
  accountFrom : AuraId → AccountId

variable {AuraId σ : Type}

/-- `AuraAccountFinder::find_author`.  The first Aura digest decides, whether it decodes or not. -/
def findAuthor (A : Aura AuraId) (authorities : BoundedVec AuraId maxAuthorities) :
    List (ConsensusEngineId × Bytes) → Option AccountId
  | [] => none
  | (engine, data) :: digests =>
    if engine = A.auraEngineId then do
      let slot ← A.slotDecode data
      if authorities.toList.isEmpty then
        failure
      let idx := slot % UInt64.ofNat authorities.toList.length
      let authority ← authorities.toList[idx.toNat]?
      return A.accountFrom authority
    else
      findAuthor A authorities digests

/-! ### A chain of blocks -/

/-- What an author query of a block depends on: the pre-runtime digests of the block, and the authorities during it. -/
structure BlockContext (AuraId : Type) where
  digests : List (ConsensusEngineId × Bytes)
  authorities : BoundedVec AuraId maxAuthorities

def BlockContext.author (A : Aura AuraId) (b : BlockContext AuraId) : Option AccountId :=
  findAuthor A b.authorities b.digests

/-- `PnsBlockAuthor::author`: `pallet_authorship`'s memo over `AuraAccountFinder`. -/
def pnsBlockAuthor (A : Aura AuraId) (C : Cell σ AccountId) (b : BlockContext AuraId) (store : σ) :
    Option AccountId × σ :=
  C.ask (b.author A) store

/-- The pallets that pay the author of the block. -/
inductive FeePath where
  | pns
  | zkPki
  | secretSquirrel
  deriving DecidableEq

/-- The answer a pallet gets to its author query, and the store afterwards. -/
def FeePath.author (A : Aura AuraId) (C : Cell σ AccountId) (b : BlockContext AuraId) (store : σ) :
    FeePath → Option AccountId × σ
  | .pns => pnsBlockAuthor A C b store
  | .zkPki | .secretSquirrel => (b.author A, store)

/-- A block, and the author queries made inside it, the latest first. -/
structure BlockLog (AuraId : Type) where
  context : BlockContext AuraId
  answers : List (FeePath × Option AccountId) := []

/-- The chain: the store of `pallet_authorship`, the block that is open, and the blocks before it, the latest first. -/
structure Chain (AuraId σ : Type) where
  store : Layered σ
  current : Option (BlockLog AuraId) := none
  past : List (BlockLog AuraId) := []

def Chain.blocks (s : Chain AuraId σ) : List (BlockLog AuraId) := s.current.toList ++ s.past

/-- The operations of a chain.  A pallet queries the author in a hook, an inherent or an extrinsic. -/
inductive Op (AuraId : Type) where
  | initializeBlock (context : BlockContext AuraId)
  | query (who : FeePath)
  | openLayer
  | commitLayer
  | rollbackLayer
  | finalizeBlock

/-- One operation.  Nothing but `initializeBlock` happens outside a block, and a block is finalized after all of its
layers are closed. -/
def step (A : Aura AuraId) (C : Cell σ AccountId) (s : Chain AuraId σ) : Op AuraId → Option (Chain AuraId σ)
  | .initializeBlock context =>
    match s.current with
    | none => some { s with current := some { context := context } }
    | some _ => none
  | .query who => do
    let block ← s.current
    let (answer, top) := who.author A C block.context s.store.top
    return { s with
      store := { s.store with top := top }
      current := some { block with answers := (who, answer) :: block.answers } }
  | .openLayer => do
    let _ ← s.current
    return { s with store := s.store.openLayer }
  | .commitLayer => do
    let _ ← s.current
    let store ← s.store.commitLayer
    return { s with store := store }
  | .rollbackLayer => do
    let _ ← s.current
    let store ← s.store.rollbackLayer
    return { s with store := store }
  | .finalizeBlock => do
    let block ← s.current
    if !s.store.saved.isEmpty then
      failure
    -- `on_finalize` of `pallet_authorship`
    return { store := { top := C.clear s.store.top }, current := none, past := block :: s.past }

def run (A : Aura AuraId) (C : Cell σ AccountId) (s : Chain AuraId σ) (ops : List (Op AuraId)) :
    Option (Chain AuraId σ) :=
  ops.foldlM (step A C) s

/-! ### The invariant -/

def BlockLog.Sound (A : Aura AuraId) (b : BlockLog AuraId) : Prop :=
  ∀ p ∈ b.answers, p.2 = b.context.author A

/-- The blocks are answered with their own authors; the memo is coherent with the open block under every layer, and empty
between blocks. -/
structure AuthorInv (A : Aura AuraId) (C : Cell σ AccountId) (s : Chain AuraId σ) : Prop where
  past : ∀ b ∈ s.past, b.Sound A
  current : ∀ b, s.current = some b → b.Sound A
  coherent : ∀ b, s.current = some b → s.store.All (C.Coherent (b.context.author A))
  idle : s.current = none → s.store.All fun store => C.stored store = none

variable {A : Aura AuraId} {C : Cell σ AccountId} {s s' : Chain AuraId σ}

theorem authorInv_genesis {store : σ} (h : C.stored store = none) : AuthorInv A C { store := { top := store } } where
  past b hb := by simp at hb
  current b hb := by simp at hb
  coherent b hb := by simp at hb
  idle _ s hs := by
    rcases List.mem_cons.mp hs with rfl | hs
    · exact h
    · simp at hs

/-- Every fee path gets the author of the block from a coherent memo, and leaves it coherent. -/
theorem FeePath.author_spec (hC : C.Lawful) {b : BlockContext AuraId} {store : σ} (h : C.Coherent (b.author A) store)
    (who : FeePath) :
    (who.author A C b store).1 = b.author A ∧ C.Coherent (b.author A) (who.author A C b store).2 := by
  cases who with
  | pns => exact ⟨Cell.ask_answer hC h, Cell.ask_coherent hC h⟩
  | zkPki => exact ⟨rfl, h⟩
  | secretSquirrel => exact ⟨rfl, h⟩

theorem AuthorInv.setStore (hi : AuthorInv A C s) {b : BlockLog AuraId} (hb : s.current = some b) {store : Layered σ}
    (h : store.All (C.Coherent (b.context.author A))) : AuthorInv A C { s with store := store } where
  past := hi.past
  current := hi.current
  coherent b' hb' := by
    obtain rfl : b = b' := Option.some_inj.mp (hb.symm.trans hb')
    exact h
  idle hnone := by
    rw [hb] at hnone
    cases hnone

theorem AuthorInv.initializeBlock (hi : AuthorInv A C s) (hs : s.current = none) (context : BlockContext AuraId) :
    AuthorInv A C { s with current := some { context := context } } where
  past := hi.past
  current b hb := by
    cases hb
    intro p hp
    simp at hp
  coherent b hb store hstore := Cell.coherent_of_empty (hi.idle hs store hstore)
  idle h := by cases h

theorem AuthorInv.query (hC : C.Lawful) (hi : AuthorInv A C s) {b : BlockLog AuraId} (hb : s.current = some b)
    (who : FeePath) :
    AuthorInv A C { s with
      store := { s.store with top := (who.author A C b.context s.store.top).2 }
      current := some { b with answers := (who, (who.author A C b.context s.store.top).1) :: b.answers } } := by
  have hcoh := hi.coherent b hb
  obtain ⟨hanswer, htop⟩ := FeePath.author_spec hC hcoh.top who
  refine ⟨hi.past, fun b' hb' => ?_, fun b' hb' => ?_, fun h => by cases h⟩
  · -- the new answer is right, since the memo was coherent
    cases hb'
    intro p hp
    rcases List.mem_cons.mp hp with rfl | hp
    · exact hanswer
    · exact hi.current b hb p hp
  · cases hb'
    exact hcoh.setTop htop

theorem AuthorInv.finalizeBlock (hC : C.Lawful) (hi : AuthorInv A C s) {b : BlockLog AuraId}
    (hb : s.current = some b) :
    AuthorInv A C { store := { top := C.clear s.store.top }, current := none, past := b :: s.past } where
  past b' hb' := by
    rcases List.mem_cons.mp hb' with rfl | hb'
    · exact hi.current b' hb
    · exact hi.past b' hb'
  current b' hb' := by cases hb'
  coherent b' hb' := by cases hb'
  idle _ store hstore := by
    rcases List.mem_cons.mp hstore with rfl | hstore
    · exact hC.clear_stored s.store.top
    · simp at hstore

/-- What an operation does, and when it can happen. -/
theorem step_spec {op : Op AuraId} (h : step A C s op = some s') :
    match op with
    | .initializeBlock context => s.current = none ∧ s' = { s with current := some { context := context } }
    | .query who => ∃ b, s.current = some b ∧
        s' = { s with
          store := { s.store with top := (who.author A C b.context s.store.top).2 }
          current := some { b with answers := (who, (who.author A C b.context s.store.top).1) :: b.answers } }
    | .openLayer => ∃ b, s.current = some b ∧ s' = { s with store := s.store.openLayer }
    | .commitLayer => ∃ b store, s.current = some b ∧ s.store.commitLayer = some store ∧
        s' = { s with store := store }
    | .rollbackLayer => ∃ b store, s.current = some b ∧ s.store.rollbackLayer = some store ∧
        s' = { s with store := store }
    | .finalizeBlock => ∃ b, s.current = some b ∧ s.store.saved = [] ∧
        s' = { store := { top := C.clear s.store.top }, current := none, past := b :: s.past } := by
  cases op with
  | initializeBlock context =>
    cases hs : s.current with
    | none => exact ⟨rfl, by simpa [step, hs] using h.symm⟩
    | some b => simp [step, hs] at h
  | query who =>
    cases hb : s.current with
    | none => simp [step, hb] at h
    | some b => exact ⟨b, rfl, by simpa [step, hb] using h.symm⟩
  | openLayer =>
    cases hb : s.current with
    | none => simp [step, hb] at h
    | some b => exact ⟨b, rfl, by simpa [step, hb] using h.symm⟩
  | commitLayer =>
    simp only [step, Option.bind_eq_bind, Option.bind_eq_some_iff, Option.pure_def, Option.some_inj] at h
    obtain ⟨b, hb, store, hstore, rfl⟩ := h
    exact ⟨b, store, hb, hstore, rfl⟩
  | rollbackLayer =>
    simp only [step, Option.bind_eq_bind, Option.bind_eq_some_iff, Option.pure_def, Option.some_inj] at h
    obtain ⟨b, hb, store, hstore, rfl⟩ := h
    exact ⟨b, store, hb, hstore, rfl⟩
  | finalizeBlock =>
    cases hb : s.current with
    | none => simp [step, hb] at h
    | some b =>
      by_cases hsaved : s.store.saved = []
      · exact ⟨b, rfl, hsaved, by simpa [step, hb, hsaved] using h.symm⟩
      · simp [step, hb, hsaved] at h

/-- **One operation keeps the invariant.** -/
theorem step_inv (hC : C.Lawful) {op : Op AuraId} (h : step A C s op = some s') (hi : AuthorInv A C s) :
    AuthorInv A C s' := by
  have hspec := step_spec h
  cases op with
  | initializeBlock context =>
    obtain ⟨hs, rfl⟩ := hspec
    exact hi.initializeBlock hs context
  | query who =>
    obtain ⟨b, hb, rfl⟩ := hspec
    exact hi.query hC hb who
  | openLayer =>
    obtain ⟨b, hb, rfl⟩ := hspec
    exact hi.setStore hb (hi.coherent b hb).openLayer
  | commitLayer =>
    obtain ⟨b, store, hb, hstore, rfl⟩ := hspec
    exact hi.setStore hb ((hi.coherent b hb).commitLayer hstore)
  | rollbackLayer =>
    obtain ⟨b, store, hb, hstore, rfl⟩ := hspec
    exact hi.setStore hb ((hi.coherent b hb).rollbackLayer hstore)
  | finalizeBlock =>
    obtain ⟨b, hb, -, rfl⟩ := hspec
    exact hi.finalizeBlock hC hb

theorem run_inv (hC : C.Lawful) {ops : List (Op AuraId)} (h : run A C s ops = some s') (hi : AuthorInv A C s) :
    AuthorInv A C s' := by
  induction ops generalizing s with
  | nil =>
    obtain rfl : s = s' := Option.some_inj.mp h
    exact hi
  | cons op ops ih =>
    simp only [run, List.foldlM_cons, Option.bind_eq_bind, Option.bind_eq_some_iff] at h
    obtain ⟨s₁, hstep, hrest⟩ := h
    exact ih hrest (step_inv hC hstep hi)

/-! ### One author for every fee path -/

/-- **Every author query of a block is answered with the author of that block**, so all pallets pay the same account. -/
theorem every_fee_path_pays_the_author (A : Aura AuraId) (C : Cell σ AccountId) (hC : C.Lawful) (genesis : σ)
    (hgenesis : C.stored genesis = none) (ops : List (Op AuraId)) (s : Chain AuraId σ)
    (hrun : run A C { store := { top := genesis } } ops = some s) :
    ∀ b ∈ s.blocks,
      (∀ who answer, (who, answer) ∈ b.answers → answer = findAuthor A b.context.authorities b.context.digests) ∧
      ∀ who who' answer answer', (who, answer) ∈ b.answers → (who', answer') ∈ b.answers → answer = answer' := by
  have hinv := run_inv hC hrun (authorInv_genesis hgenesis)
  intro b hb
  have hsound : b.Sound A := by
    rcases List.mem_append.mp hb with hb | hb
    · exact hinv.current b (Option.mem_toList.mp hb)
    · exact hinv.past b hb
  refine ⟨fun who answer h => hsound _ h, fun who who' answer answer' h h' => ?_⟩
  exact (hsound _ h).trans (hsound _ h').symm

/-- The Aura crates on byte strings: a slot is eight bytes, little-endian, and an authority key is an account. -/
def Aura.reference : Aura (BitVec 256) where
  auraEngineId := ⟨#[97, 117, 114, 97], rfl⟩
  slotDecode data :=
    if 8 ≤ data.length then some (UInt64.ofNat ((data.take 8).foldr (fun b n => b.toNat + 256 * n) 0)) else none
  accountFrom key := key

def slotContext (slot : UInt8) (authorities : BoundedVec (BitVec 256) maxAuthorities) : BlockContext (BitVec 256) where
  digests := [(Aura.reference.auraEngineId, [slot, 0, 0, 0, 0, 0, 0, 0])]
  authorities := authorities

/-- Two blocks with different authorities.  The first rolls back the extrinsic that asked first. -/
def twoBlocks : List (Op (BitVec 256)) :=
  [.initializeBlock (slotContext 5 ⟨[11, 12], by decide⟩), .openLayer, .query .pns, .rollbackLayer, .query .zkPki,
    .query .pns, .query .pns, .finalizeBlock,
   .initializeBlock (slotContext 6 ⟨[21, 22, 23], by decide⟩), .query .pns, .query .secretSquirrel, .finalizeBlock]

theorem every_fee_path_pays_the_author_twoBlocks :
    ∃ s, run Aura.reference (Cell.direct AccountId) { store := { top := none } } twoBlocks = some s ∧
      s.blocks.map (fun b => b.answers.map Prod.snd) = [[some 21, some 21], [some 12, some 12, some 12, some 12]] ∧
      ∀ b ∈ s.blocks,
        (∀ who answer, (who, answer) ∈ b.answers →
          answer = findAuthor Aura.reference b.context.authorities b.context.digests) ∧
        ∀ who who' answer answer', (who, answer) ∈ b.answers → (who', answer') ∈ b.answers → answer = answer' :=
  ⟨_, rfl, by decide +kernel, every_fee_path_pays_the_author Aura.reference (Cell.direct AccountId) Cell.direct_lawful
    none rfl twoBlocks _ rfl⟩

end PaseoNode.Runtime
