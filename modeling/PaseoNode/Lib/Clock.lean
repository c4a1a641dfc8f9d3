import Mathlib.Order.Interval.Set.OrdConnected
import Mathlib.Tactic

/-!
# Clocks: saturating deadlines, and queries that answer during one interval

* `saturatingAdd` — addition of `u64` values that stops at the top of the range;
* `AnswersDuring clock q lo hi` — the query `q` of a moment answers exactly while the clock is in `[lo, hi)`, and
  always with the same answer.

Two consequences hold of every such query: it is silent for good once `hi` is reached
(`AnswersDuring.never_after`), and the moments it answers at have no gap (`AnswersDuring.no_gap`).
-/

namespace PaseoNode.Lib

/-! ### Saturating addition -/

/-- `u64::saturating_add`. -/
def saturatingAdd (a b : UInt64) : UInt64 :=
  if a.toNat + b.toNat < 2 ^ 64 then a + b else UInt64.ofNat (2 ^ 64 - 1)

theorem toNat_saturatingAdd (a b : UInt64) :
    (saturatingAdd a b).toNat = min (a.toNat + b.toNat) (2 ^ 64 - 1) := by
  unfold saturatingAdd
  split_ifs with h
  · rw [UInt64.toNat_add, Nat.mod_eq_of_lt h]
    omega
  · rw [UInt64.toNat_ofNat']
    omega

/-- `u64::saturating_mul`. -/
def saturatingMul (a b : UInt64) : UInt64 :=
  if a.toNat * b.toNat < 2 ^ 64 then a * b else UInt64.ofNat (2 ^ 64 - 1)

/-! ### Queries of a moment -/

variable {τ T α : Type*} [LinearOrder T]

/-- The query `q` answers exactly while the clock is in `[lo, hi)`, and with one answer. -/
structure AnswersDuring (clock : τ → T) (q : τ → Option α) (lo hi : T) : Prop where
  isSome_iff : ∀ t, (q t).isSome ↔ lo ≤ clock t ∧ clock t < hi
  constant : ∀ t t', (q t).isSome → (q t').isSome → q t = q t'

theorem AnswersDuring.of_ite {clock : τ → T} {q : τ → Option α} {lo hi : T} {x : Option α}
    (hq : ∀ t, q t = if lo ≤ clock t ∧ clock t < hi then x else none)
    (hx : lo < hi → x.isSome) : AnswersDuring clock q lo hi where
  isSome_iff t := by
    rw [hq t]
    split_ifs with h
    · simp only [h, and_self, iff_true]
      exact hx (h.1.trans_lt h.2)
    · simp [h]
  constant t t' h h' := by
    have inside : ∀ s, (q s).isSome → q s = x := fun s hs => by
      rw [hq s] at hs ⊢
      split_ifs at hs ⊢
      · rfl
      · simp at hs
    rw [inside t h, inside t' h']

namespace AnswersDuring

variable {clock : τ → T} {q : τ → Option α} {lo hi : T} (h : AnswersDuring clock q lo hi)
include h

/-- **Once the upper bound is reached, the query stays silent.** -/
theorem never_after {t t' : τ} (ht : hi ≤ clock t) (htt' : clock t ≤ clock t') : q t' = none := by
  rw [← Option.not_isSome_iff_eq_none, h.isSome_iff t']
  rintro ⟨-, hlt⟩
  exact absurd hlt (not_lt.mpr (ht.trans htt'))

/-- **The moments of an answer have no gap**, so silence turns into an answer at most once. -/
theorem no_gap {t₁ t₂ t₃ : τ} (h₁₂ : clock t₁ ≤ clock t₂) (h₂₃ : clock t₂ ≤ clock t₃)
    (h₁ : (q t₁).isSome) (h₃ : (q t₃).isSome) : (q t₂).isSome := by
  rw [h.isSome_iff] at h₁ h₃ ⊢
  exact Set.OrdConnected.out (Set.ordConnected_Ico (a := lo) (b := hi)) h₁ h₃ ⟨h₁₂, h₂₃⟩

/-- **Along a clock that does not go back, a query is silent, then answers, then is silent.** -/
theorem split {ts : List τ} (hts : ts.Pairwise fun t t' => clock t ≤ clock t') :
    ∃ before during after, ts = before ++ during ++ after ∧ (∀ t ∈ before, q t = none) ∧
      (∀ t ∈ during, (q t).isSome) ∧ ∀ t ∈ after, q t = none := by
  induction ts with
  | nil => exact ⟨[], [], [], rfl, by simp, by simp, by simp⟩
  | cons t ts ih =>
    obtain ⟨hfirst, hrest⟩ := List.pairwise_cons.mp hts
    obtain ⟨before, during, after, rfl, hbefore, hduring, hafter⟩ := ih hrest
    cases ht : q t with
    | none =>
      refine ⟨t :: before, during, after, rfl, fun u hu => ?_, hduring, hafter⟩
      rcases List.mem_cons.mp hu with rfl | hu
      · exact ht
      · exact hbefore u hu
    | some a =>
      have hsome : (q t).isSome := by rw [ht]; rfl
      cases during with
      | nil =>
        refine ⟨[], [t], before ++ after, by simp, by simp, fun u hu => ?_, fun u hu => ?_⟩
        · rwa [List.mem_singleton.mp hu]
        · rcases List.mem_append.mp hu with hu | hu
          · exact hbefore u hu
          · exact hafter u hu
      | cons d during =>
        -- what lies between two answers is an answer, so nothing silent stands before `d`
        have hnil : before = [] := by
          by_contra hne
          obtain ⟨u, hu⟩ := List.exists_mem_of_ne_nil before hne
          have htu : clock t ≤ clock u := hfirst u (by simp [hu])
          have hud : clock u ≤ clock d := by
            rw [List.append_assoc, List.pairwise_append] at hrest
            exact hrest.2.2 u hu d (by simp)
          have hgap := h.no_gap htu hud hsome (hduring d List.mem_cons_self)
          rw [hbefore u hu] at hgap
          cases hgap
        subst hnil
        refine ⟨[], t :: d :: during, after, rfl, by simp, fun u hu => ?_, hafter⟩
        rcases List.mem_cons.mp hu with rfl | hu
        · exact hsome
        · exact hduring u hu

end AnswersDuring

end PaseoNode.Lib
