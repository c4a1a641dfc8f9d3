import Mathlib.Tactic

/-!
# Memos, and stores with layers

* `Cell σ α` — a memo of an `α` kept in a store `σ`: what is stored, how it is asked for, how it is cleared;
* `Cell.Coherent` — the stored answer, if there is one, is the answer a recomputation would give.  A coherent memo
  answers as the recomputation does (`Cell.ask_answer`) and stays coherent (`Cell.ask_coherent`);
* `Layered σ` — a store under a stack of layers, each of which is committed or rolled back.  A property of all versions
  of the store survives every operation on the stack.
-/

namespace PaseoNode.Lib

variable {σ α : Type*}

/-! ### Memos -/

/-- A memo.  `ask fresh s` asks in the store `s`, where `fresh` is the answer that a recomputation gives now. -/
structure Cell (σ α : Type*) where
  stored : σ → Option α
  ask : Option α → σ → Option α × σ
  clear : σ → σ

namespace Cell

/-- A memo answers what it stores; with nothing stored it recomputes, and stores what it finds. -/
structure Lawful (C : Cell σ α) : Prop where
  hit : ∀ fresh s a, C.stored s = some a → C.ask fresh s = (some a, s)
  miss_answer : ∀ fresh s, C.stored s = none → (C.ask fresh s).1 = fresh
  miss_stored : ∀ fresh s, C.stored s = none → C.stored (C.ask fresh s).2 = fresh
  clear_stored : ∀ s, C.stored (C.clear s) = none

/-- What is stored is what a recomputation gives. -/
def Coherent (C : Cell σ α) (fresh : Option α) (s : σ) : Prop := ∀ a, C.stored s = some a → fresh = some a

variable {C : Cell σ α} {fresh : Option α} {s : σ}

theorem coherent_of_empty (h : C.stored s = none) : C.Coherent fresh s := by
  intro a ha
  rw [h] at ha
  cases ha

/-- **A coherent memo answers as the recomputation does.** -/
theorem ask_answer (hC : C.Lawful) (h : C.Coherent fresh s) : (C.ask fresh s).1 = fresh := by
  cases hs : C.stored s with
  | none => exact hC.miss_answer fresh s hs
  | some a => rw [hC.hit fresh s a hs, h a hs]

theorem ask_coherent (hC : C.Lawful) (h : C.Coherent fresh s) : C.Coherent fresh (C.ask fresh s).2 := by
  cases hs : C.stored s with
  | none =>
    intro a ha
    rwa [hC.miss_stored fresh s hs] at ha
  | some a => rwa [hC.hit fresh s a hs]

/-- The memo whose store is the stored answer itself. -/
def direct (α : Type*) : Cell (Option α) α where
  stored s := s
  ask fresh s :=
    match s with
    | some a => (some a, some a)
    | none => (fresh, fresh)
  clear _ := none

theorem direct_lawful : (direct α).Lawful where
  hit fresh s a h := by
    obtain rfl : s = some a := h
    rfl
  miss_answer fresh s h := by
    obtain rfl : s = none := h
    rfl
  miss_stored fresh s h := by
    obtain rfl : s = none := h
    rfl
  clear_stored _ := rfl

end Cell

/-! ### Layers -/

/-- A store, and the versions it goes back to when its open layers are rolled back, innermost first. -/
structure Layered (σ : Type*) where
  top : σ
  saved : List σ := []

namespace Layered

variable {p : σ → Prop} {v v' : Layered σ} {s : σ}

def openLayer (v : Layered σ) : Layered σ := { v with saved := v.top :: v.saved }

def commitLayer (v : Layered σ) : Option (Layered σ) :=
  match v.saved with
  | [] => none
  | _ :: rest => some { v with saved := rest }

def rollbackLayer (v : Layered σ) : Option (Layered σ) :=
  match v.saved with
  | [] => none
  | s :: rest => some { top := s, saved := rest }

theorem commitLayer_length (h : v.commitLayer = some v') : v.saved.length = v'.saved.length + 1 := by
  obtain ⟨top, _ | ⟨s, rest⟩⟩ := v <;> simp only [Layered.commitLayer, Option.some_inj, reduceCtorEq] at h
  subst h
  rfl

theorem rollbackLayer_length (h : v.rollbackLayer = some v') : v.saved.length = v'.saved.length + 1 := by
  obtain ⟨top, _ | ⟨s, rest⟩⟩ := v <;> simp only [Layered.rollbackLayer, Option.some_inj, reduceCtorEq] at h
  subst h
  rfl

theorem exists_commitLayer (h : 0 < v.saved.length) : ∃ v', v.commitLayer = some v' := by
  obtain ⟨top, _ | ⟨s, rest⟩⟩ := v
  · cases h
  · exact ⟨_, rfl⟩

theorem exists_rollbackLayer (h : 0 < v.saved.length) : ∃ v', v.rollbackLayer = some v' := by
  obtain ⟨top, _ | ⟨s, rest⟩⟩ := v
  · cases h
  · exact ⟨_, rfl⟩

/-- Every version of the store has the property. -/
def All (p : σ → Prop) (v : Layered σ) : Prop := ∀ s ∈ v.top :: v.saved, p s

theorem All.top (h : All p v) : p v.top := h v.top List.mem_cons_self

theorem All.setTop (h : All p v) (hs : p s) : All p { v with top := s } := by
  intro t ht
  rcases List.mem_cons.mp ht with rfl | ht
  · exact hs
  · exact h t (List.mem_cons_of_mem _ ht)

theorem All.openLayer (h : All p v) : All p v.openLayer := by
  intro t ht
  rcases List.mem_cons.mp ht with rfl | ht
  · exact h.top
  · exact h t ht

theorem All.commitLayer (h : All p v) (hv : v.commitLayer = some v') : All p v' := by
  obtain ⟨top, _ | ⟨s, rest⟩⟩ := v <;> simp only [Layered.commitLayer, Option.some_inj, reduceCtorEq] at hv
  subst hv
  intro t ht
  rcases List.mem_cons.mp ht with rfl | ht
  · exact h.top
  · exact h t (List.mem_cons_of_mem _ (List.mem_cons_of_mem _ ht))

theorem All.rollbackLayer (h : All p v) (hv : v.rollbackLayer = some v') : All p v' := by
  obtain ⟨top, _ | ⟨s, rest⟩⟩ := v <;> simp only [Layered.rollbackLayer, Option.some_inj, reduceCtorEq] at hv
  subst hv
  exact fun t ht => h t (List.mem_cons_of_mem _ ht)

end Layered

end PaseoNode.Lib
