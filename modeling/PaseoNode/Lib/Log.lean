import Mathlib.Tactic

/-!
# Logs of operations

* `Log step s os s'` — the operations `os` lead from the state `s` to `s'`;
* `Recorded step` — the steps of `step` as operations with the states they ran on, so that a log of them has the states
  of its run;
* `Log.invariant` — what every operation preserves, a log preserves;
* `Log.last_write` — a cell of the state is as at the start, or as the last operation that wrote it left it;
* `Log.cell_eq` — the value of a cell in closed form, when a write leaves a value that the operation determines.
-/

namespace PaseoNode.Lib

variable {S O V : Type*} {step : S → O → S → Prop}

inductive Log (step : S → O → S → Prop) : S → List O → S → Prop where
  | nil {s : S} : Log step s [] s
  | cons {s s' s'' : S} {o : O} {os : List O} : step s o s' → Log step s' os s'' → Log step s (o :: os) s''

/-- A step, as an operation together with the state it ran on. -/
def Recorded (step : S → O → S → Prop) (s : S) (e : O × S) (s' : S) : Prop := e.2 = s ∧ step s e.1 s'

namespace Log

variable {s s' : S} {os : List O}

/-- Every log is that of a recorded run. -/
theorem recorded (h : Log step s os s') : ∃ es, es.map Prod.fst = os ∧ Log (Recorded step) s es s' := by
  induction h with
  | nil => exact ⟨[], rfl, .nil⟩
  | @cons s s₁ s' o os hstep _ ih =>
    obtain ⟨es, rfl, hes⟩ := ih
    exact ⟨(o, s) :: es, rfl, .cons ⟨rfl, hstep⟩ hes⟩

theorem forget {es : List (O × S)} (h : Log (Recorded step) s es s') : Log step s (es.map Prod.fst) s' := by
  induction h with
  | nil => exact .nil
  | cons hstep _ ih => exact .cons hstep.2 ih

theorem invariant {I : S → Prop} (hI : ∀ s o s', step s o s' → I s → I s') (h : Log step s os s') (hs : I s) :
    I s' := by
  induction h with
  | nil => exact hs
  | cons hstep _ ih => exact ih (hI _ _ _ hstep hs)

section Cells

variable {cell : S → V} {writes : O → Prop}

/-- **The last write decides.**  Either no operation wrote the cell, or one wrote its value and none wrote it after. -/
theorem last_write (hkeep : ∀ s o s', step s o s' → ¬ writes o → cell s' = cell s) (h : Log step s os s') :
    (∀ o ∈ os, ¬ writes o) ∧ cell s' = cell s ∨
      ∃ before o after s₁ s₂, os = before ++ o :: after ∧ step s₁ o s₂ ∧ writes o ∧ (∀ o' ∈ after, ¬ writes o') ∧
        cell s' = cell s₂ := by
  induction h with
  | nil => exact Or.inl ⟨by simp, rfl⟩
  | @cons s s₁ s' o os hstep _ ih =>
    rcases ih with ⟨hnone, hcell⟩ | ⟨before, o', after, s₂, s₃, rfl, hlast⟩
    · by_cases ho : writes o
      · exact Or.inr ⟨[], o, os, s, s₁, rfl, hstep, ho, hnone, hcell⟩
      · refine Or.inl ⟨fun o' ho' => ?_, hcell.trans (hkeep _ _ _ hstep ho)⟩
        rcases List.mem_cons.mp ho' with rfl | ho'
        · exact ho
        · exact hnone o' ho'
    · exact Or.inr ⟨o :: before, o', after, s₂, s₃, rfl, hlast⟩

theorem cell_eq [DecidablePred writes] {value : O → V}
    (hwrite : ∀ s o s', step s o s' → writes o → cell s' = value o)
    (hkeep : ∀ s o s', step s o s' → ¬ writes o → cell s' = cell s) (h : Log step s os s') :
    cell s' = (os.filter fun o => writes o).getLast?.elim (cell s) value := by
  induction h with
  | nil => rfl
  | @cons s s₁ s' o os hstep _ ih =>
    rw [ih]
    by_cases ho : writes o
    · rw [List.filter_cons_of_pos (by simpa using ho), List.getLast?_cons]
      cases (os.filter fun o => writes o).getLast? with
      | none => exact hwrite _ _ _ hstep ho
      | some o' => rfl
    · rw [List.filter_cons_of_neg (by simpa using ho), hkeep _ _ _ hstep ho]

end Cells

end Log

end PaseoNode.Lib
