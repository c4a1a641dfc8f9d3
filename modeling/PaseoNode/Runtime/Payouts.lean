import PaseoNode.Runtime.Rotation

/-!
# The author answers and the payments of a chain

`Ledger` is a chain without the memo of `pallet_authorship`: it counts the open layers, and every author query
recomputes.  The chain with the memo refines it, whatever the memo and whatever is rolled back
(`memo_refines_recomputation`): the pallets of both are answered the same.

`Payroll` is the chain with what the pallets pay.  A payment is in the storage of the chain, so the rollback of the layer
it was made in undoes it.  While the authorities stay the same and the blocks carry consecutive slots, the payments that
the finalized blocks keep give every account its share (`fees_rotate_fairly`).
-/

namespace PaseoNode.Runtime

open PaseoNode.Lib

variable {AuraId σ : Type}

/-! ### The chain without the memo -/

structure Ledger (AuraId : Type) where
  depth : ℕ := 0
  current : Option (BlockLog AuraId) := none
  past : List (BlockLog AuraId) := []

namespace Ledger

def step (A : Aura AuraId) (l : Ledger AuraId) : Op AuraId → Option (Ledger AuraId)
  | .initializeBlock context =>
    match l.current with
    | none => some { l with current := some { context := context } }
    | some _ => none
  | .query who => do
    let block ← l.current
    return { l with current := some { block with answers := (who, block.context.author A) :: block.answers } }
  | .openLayer => do
    let _ ← l.current
    return { l with depth := l.depth + 1 }
  | .commitLayer | .rollbackLayer => do
    let _ ← l.current
    if l.depth = 0 then
      failure
    return { l with depth := l.depth - 1 }
  | .finalizeBlock => do
    let block ← l.current
    if l.depth ≠ 0 then
      failure
    return { past := block :: l.past }

def run (A : Aura AuraId) (l : Ledger AuraId) (ops : List (Op AuraId)) : Option (Ledger AuraId) :=
  ops.foldlM (step A) l

end Ledger

/-- What is left of a chain without its memo. -/
def Chain.ledger (s : Chain AuraId σ) : Ledger AuraId where
  depth := s.store.saved.length
  current := s.current
  past := s.past

/-! ### Refinement -/

section Refinement

variable {A : Aura AuraId} {C : Cell σ AccountId} {s : Chain AuraId σ}

/-- **One operation of the chain is one operation of the ledger.** -/
theorem step_refines (hC : C.Lawful) (hi : AuthorInv A C s) (op : Op AuraId) :
    (step A C s op).map Chain.ledger = s.ledger.step A op := by
  cases hb : s.current with
  | none =>
    cases op with
    | initializeBlock context => simp [step, Ledger.step, hb, Chain.ledger]
    | _ => simp [step, Ledger.step, hb, Chain.ledger]
  | some b =>
    cases op with
    | initializeBlock context => simp [step, Ledger.step, hb, Chain.ledger]
    | query who =>
      -- the memo is coherent with the open block, so it answers as the recomputation does
      obtain ⟨hanswer, -⟩ := FeePath.author_spec hC (hi.coherent b hb).top who
      simp [step, Ledger.step, hb, Chain.ledger, hanswer]
    | openLayer => simp [step, Ledger.step, hb, Chain.ledger, Layered.openLayer]
    | commitLayer =>
      cases hsaved : s.store.saved <;>
        simp [step, Ledger.step, hb, Chain.ledger, Layered.commitLayer, hsaved]
    | rollbackLayer =>
      cases hsaved : s.store.saved <;>
        simp [step, Ledger.step, hb, Chain.ledger, Layered.rollbackLayer, hsaved]
    | finalizeBlock =>
      cases hsaved : s.store.saved <;>
        simp [step, Ledger.step, hb, Chain.ledger, hsaved]

theorem run_refines (hC : C.Lawful) (hi : AuthorInv A C s) (ops : List (Op AuraId)) :
    (run A C s ops).map Chain.ledger = s.ledger.run A ops := by
  induction ops generalizing s with
  | nil => rfl
  | cons op ops ih =>
    have hstep := step_refines hC hi op
    rw [run, Ledger.run, List.foldlM_cons, List.foldlM_cons, ← hstep]
    cases hs : step A C s op with
    | none => rfl
    | some s' => exact ih (step_inv hC hs hi)

end Refinement

/-- **The memo of `pallet_authorship` is invisible.**  A chain from genesis can make exactly the operations that
a chain that recomputes every author can make, and logs exactly the same answers for the same blocks. -/
theorem memo_refines_recomputation (A : Aura AuraId) (C : Cell σ AccountId) (hC : C.Lawful) (genesis : σ)
    (hgenesis : C.stored genesis = none) (ops : List (Op AuraId)) :
    (run A C { store := { top := genesis } } ops).map Chain.ledger = Ledger.run A {} ops :=
  run_refines hC (authorInv_genesis hgenesis) ops

theorem memo_refines_recomputation_twoBlocks :
    (run Aura.reference (Cell.direct AccountId) { store := { top := none } } twoBlocks).map Chain.ledger =
      Ledger.run Aura.reference {} twoBlocks :=
  memo_refines_recomputation Aura.reference (Cell.direct AccountId) Cell.direct_lawful none rfl twoBlocks

/-! ### The payments -/

structure Payment where
  who : FeePath
  payee : AccountId
  deriving DecidableEq

/-- A finalized block, with the payments that no rollback undid, the latest first. -/
structure PaidBlock (AuraId : Type) where
  context : BlockContext AuraId
  payments : List Payment

def PaidBlock.Pays (b : PaidBlock AuraId) (account : AccountId) : Prop := ∃ x ∈ b.payments, x.payee = account

instance (b : PaidBlock AuraId) (account : AccountId) : Decidable (b.Pays account) :=
  inferInstanceAs (Decidable (∃ x ∈ b.payments, x.payee = account))

/-- A pallet pays the author it is answered with; without an answer nobody is paid. -/
def FeePath.pay (who : FeePath) (answer : Option AccountId) (payments : List Payment) : List Payment :=
  match answer with
  | none => payments
  | some payee => { who := who, payee := payee } :: payments

/-- A chain, the payments of its open block under their layers, and the blocks before it, the latest first. -/
structure Payroll (AuraId σ : Type) where
  chain : Chain AuraId σ
  payments : Layered (List Payment) := { top := [] }
  paid : List (PaidBlock AuraId) := []

namespace Payroll

/-- One operation of the chain, with the payments it makes, keeps and undoes. -/
def step (A : Aura AuraId) (C : Cell σ AccountId) (p : Payroll AuraId σ) (op : Op AuraId) :
    Option (Payroll AuraId σ) := do
  let chain ← Runtime.step A C p.chain op
  match op with
  | .initializeBlock _ => return { p with chain := chain }
  | .query who =>
    let block ← p.chain.current
    let (answer, _) := who.author A C block.context p.chain.store.top
    return { p with chain := chain, payments := { p.payments with top := who.pay answer p.payments.top } }
  | .openLayer => return { p with chain := chain, payments := p.payments.openLayer }
  | .commitLayer =>
    let payments ← p.payments.commitLayer
    return { p with chain := chain, payments := payments }
  | .rollbackLayer =>
    let payments ← p.payments.rollbackLayer
    return { p with chain := chain, payments := payments }
  | .finalizeBlock =>
    let block ← p.chain.current
    return { chain := chain, paid := { context := block.context, payments := p.payments.top } :: p.paid }

def run (A : Aura AuraId) (C : Cell σ AccountId) (p : Payroll AuraId σ) (ops : List (Op AuraId)) :
    Option (Payroll AuraId σ) :=
  ops.foldlM (step A C) p

end Payroll

/-- All payments go to the author of the block. -/
def PaysAuthor (A : Aura AuraId) (context : BlockContext AuraId) (payments : List Payment) : Prop :=
  ∀ x ∈ payments, context.author A = some x.payee

/-- The payments are layered as the store of the chain is, and there are none between blocks.  In the open block and in
the finalized ones they go to the author. -/
structure PayrollInv (A : Aura AuraId) (C : Cell σ AccountId) (p : Payroll AuraId σ) : Prop where
  chain : AuthorInv A C p.chain
  layers : p.payments.saved.length = p.chain.store.saved.length
  current : ∀ b, p.chain.current = some b → p.payments.All (PaysAuthor A b.context)
  idle : p.chain.current = none → p.payments.All (· = [])
  past : p.paid.map PaidBlock.context = p.chain.past.map BlockLog.context
  paid : ∀ b ∈ p.paid, PaysAuthor A b.context b.payments

section Payments

variable {A : Aura AuraId} {C : Cell σ AccountId} {p p' : Payroll AuraId σ}

theorem payrollInv_genesis {store : σ} (h : C.stored store = none) :
    PayrollInv A C { chain := { store := { top := store } } } where
  chain := authorInv_genesis h
  layers := rfl
  current b hb := by cases hb
  idle _ payments hp := by simpa using hp
  past := rfl
  paid b hb := by simp at hb

theorem PaysAuthor.pay {context : BlockContext AuraId} {payments : List Payment} (h : PaysAuthor A context payments)
    (who : FeePath) : PaysAuthor A context (who.pay (context.author A) payments) := by
  cases hauthor : context.author A with
  | none => exact h
  | some payee =>
    intro x hx
    rcases List.mem_cons.mp hx with rfl | hx
    · exact hauthor
    · exact h x hx

/-- **One operation keeps the invariant of the payments.** -/
theorem Payroll.step_inv (hC : C.Lawful) {op : Op AuraId} (h : p.step A C op = some p') (hi : PayrollInv A C p) :
    PayrollInv A C p' := by
  simp only [Payroll.step, Option.bind_eq_bind, Option.bind_eq_some_iff] at h
  obtain ⟨chain, hchain, hrest⟩ := h
  have hauthor := Runtime.step_inv hC hchain hi.chain
  have hspec := step_spec hchain
  cases op with
  | initializeBlock context =>
    obtain ⟨hs, rfl⟩ := hspec
    cases hrest
    refine ⟨hauthor, hi.layers, fun b _ payments hp => ?_, fun hidle => (by cases hidle), hi.past, hi.paid⟩
    -- there was no open block, so no version holds a payment
    rw [hi.idle hs payments hp]
    intro x hx
    simp at hx
  | query who =>
    obtain ⟨b, hb, rfl⟩ := hspec
    simp only [hb, Option.bind_some, Option.pure_def, Option.some_inj] at hrest
    subst hrest
    refine ⟨hauthor, hi.layers, fun b' hb' => ?_, fun hidle => (by cases hidle), hi.past, hi.paid⟩
    cases hb'
    -- the memo is coherent with the open block, so the pallet pays the author
    obtain ⟨hanswer, -⟩ := FeePath.author_spec hC (hi.chain.coherent b hb).top who
    rw [hanswer]
    exact (hi.current b hb).setTop ((hi.current b hb).top.pay who)
  | openLayer =>
    obtain ⟨b, hb, rfl⟩ := hspec
    cases hrest
    exact ⟨hauthor, by simp [Layered.openLayer, hi.layers], fun b' hb' => (hi.current b' hb').openLayer,
      fun h => (hi.idle h).openLayer, hi.past, hi.paid⟩
  | commitLayer =>
    obtain ⟨b, store, hb, hstore, rfl⟩ := hspec
    simp only [Option.bind_eq_some_iff, Option.pure_def, Option.some_inj] at hrest
    obtain ⟨payments, hpayments, rfl⟩ := hrest
    have hlayers := hi.layers
    rw [Layered.commitLayer_length hpayments, Layered.commitLayer_length hstore] at hlayers
    exact ⟨hauthor, Nat.succ_inj.mp hlayers, fun b' hb' => (hi.current b' hb').commitLayer hpayments,
      fun h => (hi.idle h).commitLayer hpayments, hi.past, hi.paid⟩
  | rollbackLayer =>
    obtain ⟨b, store, hb, hstore, rfl⟩ := hspec
    simp only [Option.bind_eq_some_iff, Option.pure_def, Option.some_inj] at hrest
    obtain ⟨payments, hpayments, rfl⟩ := hrest
    have hlayers := hi.layers
    rw [Layered.rollbackLayer_length hpayments, Layered.rollbackLayer_length hstore] at hlayers
    exact ⟨hauthor, Nat.succ_inj.mp hlayers, fun b' hb' => (hi.current b' hb').rollbackLayer hpayments,
      fun h => (hi.idle h).rollbackLayer hpayments, hi.past, hi.paid⟩
  | finalizeBlock =>
    obtain ⟨b, hb, -, rfl⟩ := hspec
    simp only [hb, Option.bind_some, Option.pure_def, Option.some_inj] at hrest
    subst hrest
    refine ⟨hauthor, rfl, fun b' hb' => (by cases hb'), fun _ payments hp => by simpa using hp, ?_, fun b' hb' => ?_⟩
    · simp [hi.past]
    · rcases List.mem_cons.mp hb' with rfl | hb'
      · exact (hi.current b hb).top
      · exact hi.paid b' hb'

theorem Payroll.run_inv (hC : C.Lawful) {ops : List (Op AuraId)} (h : p.run A C ops = some p') (hi : PayrollInv A C p) :
    PayrollInv A C p' := by
  induction ops generalizing p with
  | nil =>
    obtain rfl : p = p' := Option.some_inj.mp h
    exact hi
  | cons op ops ih =>
    simp only [Payroll.run, List.foldlM_cons, Option.bind_eq_bind, Option.bind_eq_some_iff] at h
    obtain ⟨p₁, hstep, hrest⟩ := h
    exact ih hrest (Payroll.step_inv hC hstep hi)

/-- The payments stop no operation of the chain. -/
theorem Payroll.step_chain (hi : PayrollInv A C p) (op : Op AuraId) :
    (p.step A C op).map Payroll.chain = Runtime.step A C p.chain op := by
  cases hchain : Runtime.step A C p.chain op with
  | none => simp [Payroll.step, hchain]
  | some chain =>
    have hspec := step_spec hchain
    cases op with
    | initializeBlock context => simp [Payroll.step, hchain]
    | openLayer => simp [Payroll.step, hchain]
    | query who =>
      obtain ⟨b, hb, -⟩ := hspec
      simp [Payroll.step, hchain, hb]
    | finalizeBlock =>
      obtain ⟨b, hb, -, -⟩ := hspec
      simp [Payroll.step, hchain, hb]
    | commitLayer =>
      -- the payments are layered as the store is, so there is a layer to close
      obtain ⟨b, store, -, hstore, -⟩ := hspec
      obtain ⟨payments, hpayments⟩ : ∃ payments, p.payments.commitLayer = some payments := by
        apply Layered.exists_commitLayer
        rw [hi.layers, Layered.commitLayer_length hstore]
        exact Nat.succ_pos _
      simp [Payroll.step, hchain, hpayments]
    | rollbackLayer =>
      obtain ⟨b, store, -, hstore, -⟩ := hspec
      obtain ⟨payments, hpayments⟩ : ∃ payments, p.payments.rollbackLayer = some payments := by
        apply Layered.exists_rollbackLayer
        rw [hi.layers, Layered.rollbackLayer_length hstore]
        exact Nat.succ_pos _
      simp [Payroll.step, hchain, hpayments]

theorem Payroll.run_chain (hC : C.Lawful) (hi : PayrollInv A C p) (ops : List (Op AuraId)) :
    (p.run A C ops).map Payroll.chain = Runtime.run A C p.chain ops := by
  induction ops generalizing p with
  | nil => rfl
  | cons op ops ih =>
    have hstep := Payroll.step_chain hi op
    rw [Payroll.run, Runtime.run, List.foldlM_cons, List.foldlM_cons, ← hstep]
    cases hs : p.step A C op with
    | none => rfl
    | some p₁ => exact ih (Payroll.step_inv hC hs hi)

theorem PaysAuthor.author_of_pays {b : PaidBlock AuraId} (h : PaysAuthor A b.context b.payments) {account : AccountId}
    (hpays : b.Pays account) : b.context.author A = some account := by
  obtain ⟨x, hx, rfl⟩ := hpays
  exact h x hx

theorem PaysAuthor.pays_of_author {b : PaidBlock AuraId} (h : PaysAuthor A b.context b.payments) {account : AccountId}
    (hne : b.payments ≠ []) (hauthor : b.context.author A = some account) : b.Pays account := by
  obtain ⟨x, hx⟩ := List.exists_mem_of_ne_nil _ hne
  exact ⟨x, hx, Option.some_inj.mp ((h x hx).symm.trans hauthor)⟩

end Payments

/-- **The fees of the finalized blocks rotate fairly.**  The chain makes any run from genesis, and `p` is where it ends with
the payments that no rollback undid.  If the authorities of the `k` finalized blocks were the same `n` and their slots
consecutive, at most `k ⌈/⌉ n * m` of the blocks pay an account with `m` of the `n` seats, and at least `k / n * m` of them
do when every block keeps a payment. -/
theorem fees_rotate_fairly (A : Aura AuraId) (C : Cell σ AccountId) (hC : C.Lawful) (genesis : σ)
    (hgenesis : C.stored genesis = none) (ops : List (Op AuraId)) (s : Chain AuraId σ)
    (hrun : run A C { store := { top := genesis } } ops = some s) (authorities : BoundedVec AuraId maxAuthorities)
    (hne : authorities.toList ≠ []) (hauthorities : ∀ b ∈ s.past, b.context.authorities = authorities) (slot : ℕ)
    (hslot : slot + s.past.length ≤ 2 ^ 64)
    (hslots : CarriesSlots A slot (s.past.reverse.map fun b => b.context.digests)) (account : AccountId) :
    let n := authorities.toList.length
    let m := authorities.toList.countP fun authority => A.accountFrom authority = account
    let k := s.past.length
    ∃ p, Payroll.run A C { chain := { store := { top := genesis } } } ops = some p ∧ p.chain = s ∧
      p.paid.map PaidBlock.context = s.past.map BlockLog.context ∧
      p.paid.countP (fun b => b.Pays account) ≤ k ⌈/⌉ n * m ∧
      ((∀ b ∈ p.paid, b.payments ≠ []) → k / n * m ≤ p.paid.countP fun b => b.Pays account) := by
  intro n m k
  have hstart : PayrollInv A C { chain := { store := { top := genesis } } } := payrollInv_genesis hgenesis
  obtain ⟨p, hp, rfl⟩ := Option.map_eq_some_iff.mp ((Payroll.run_chain hC hstart ops).trans hrun)
  have hinv := Payroll.run_inv hC hp hstart
  refine ⟨p, hp, rfl, hinv.past, ?_⟩
  -- the share of the account, counted over the digests of the finalized blocks
  have hlen : (p.chain.past.reverse.map fun b => b.context.digests).length = k := by simp [k]
  have hfair := hslots.account_fair hne (by rw [hlen]; exact hslot) account
  rw [hlen] at hfair
  have hauthored : (p.chain.past.reverse.map fun b => b.context.digests).countP
      (fun digests => findAuthor A authorities digests = some account) =
      p.chain.past.countP fun b => b.context.author A = some account := by
    rw [List.countP_map, List.countP_reverse]
    refine List.countP_congr fun b hb => ?_
    simp [BlockContext.author, hauthorities b hb]
  have hpaid : p.chain.past.countP (fun b => b.context.author A = some account) =
      p.paid.countP fun b => b.context.author A = some account :=
    (countP_of_map_eq hinv.past fun context => context.author A = some account).symm
  rw [hauthored, hpaid] at hfair
  constructor
  · -- whoever is paid is the author
    refine le_trans (List.countP_mono_left fun b hb hpays => ?_) hfair.2
    exact decide_eq_true ((hinv.paid b hb).author_of_pays (of_decide_eq_true hpays))
  · -- a payment that is kept goes to the author
    intro hkept
    refine le_trans hfair.1 (List.countP_mono_left fun b hb hauthor => ?_)
    exact decide_eq_true ((hinv.paid b hb).pays_of_author (hkept b hb) (of_decide_eq_true hauthor))

/-- Blocks of the slots 5 and 6 under two authorities; in the first, a pallet pays in an extrinsic that is rolled
back. -/
def pairBlocks : List (Op (BitVec 256)) :=
  [.initializeBlock (slotContext 5 twoAuthorities), .openLayer, .query .pns, .rollbackLayer, .query .zkPki,
    .finalizeBlock,
   .initializeBlock (slotContext 6 twoAuthorities), .query .secretSquirrel, .query .pns, .finalizeBlock]

theorem fees_rotate_fairly_pairBlocks :
    ∃ p, Payroll.run Aura.reference (Cell.direct AccountId) { chain := { store := { top := none } } } pairBlocks =
        some p ∧
      p.paid.map (fun b => b.payments.map fun x => (x.who, x.payee)) =
        [[(.pns, 31), (.secretSquirrel, 31)], [(.zkPki, 32)]] ∧
      1 ≤ p.paid.countP (fun b => b.Pays 31) ∧ p.paid.countP (fun b => b.Pays 31) ≤ 1 := by
  have hrun : run Aura.reference (Cell.direct AccountId) { store := { top := none } } pairBlocks = some _ := rfl
  obtain ⟨p, hp, -, -, hle, hge⟩ := fees_rotate_fairly Aura.reference (Cell.direct AccountId) Cell.direct_lawful none rfl
    pairBlocks _ hrun twoAuthorities (by decide)
    (by
      intro b hb
      rcases List.mem_cons.mp hb with rfl | hb
      · rfl
      · rw [List.mem_singleton.mp hb]
        rfl)
    5 (by decide)
    (by
      intro i hi
      have hlt : i < 2 := hi
      interval_cases i <;> rfl)
    31
  have hpaid : (Payroll.run Aura.reference (Cell.direct AccountId) { chain := { store := { top := none } } }
      pairBlocks).map (fun p => p.paid.map fun b => b.payments.map fun x => (x.who, x.payee)) =
      some [[(.pns, 31), (.secretSquirrel, 31)], [(.zkPki, 32)]] := by decide +kernel
  rw [hp, Option.map_some, Option.some_inj] at hpaid
  refine ⟨p, hp, hpaid, hge fun b hb hnone => ?_, hle⟩
  have hmem := List.mem_map_of_mem (f := fun b => b.payments.map fun x => (x.who, x.payee)) hb
  rw [hpaid, hnone] at hmem
  simp at hmem

end PaseoNode.Runtime
