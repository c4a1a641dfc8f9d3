import Mathlib.Algebra.Order.Floor.Div
import Mathlib.Data.Nat.Periodic
import Mathlib.Tactic

/-!
# Periodic predicates over a window

A predicate on the naturals with period `n` that holds `c` times in a period holds between `k / n * c` and
`k ⌈/⌉ n * c` times in a window of `k` consecutive numbers, wherever the window starts (`window_fair`).  An increasing list
of numbers of the window has at most that share, whatever it leaves out (`window_share`).
-/

namespace PaseoNode.Lib

open Finset Function

variable {p : ℕ → Prop} [DecidablePred p] {n : ℕ}

theorem countP_of_map_eq {α β γ : Type*} {xs : List α} {ys : List β} {f : α → γ} {g : β → γ}
    (h : xs.map f = ys.map g) (q : γ → Prop) [DecidablePred q] :
    xs.countP (fun x => q (f x)) = ys.countP fun y => q (g y) := by
  have hcount := congrArg (List.countP fun c => q c) h
  rw [List.countP_map, List.countP_map] at hcount
  exact hcount

theorem countP_range' (s k : ℕ) : (List.range' s k).countP p = #{t ∈ Ico s (s + k) | p t} := by
  rw [List.countP_eq_length_filter, Nat.Ico_eq_range', Nat.add_sub_cancel_left]
  rfl

theorem count_mul_period (hp : Periodic p n) (q : ℕ) : Nat.count p (n * q) = q * Nat.count p n := by
  induction q with
  | zero => simp
  | succ q ih =>
    have hshift : (fun t => p (n * q + t)) = p := by
      funext t
      rw [add_comm, mul_comm]
      exact hp.nat_mul q t
    rw [Nat.mul_succ, Nat.count_add, ih]
    simp only [hshift]
    ring

theorem countP_periods (hp : Periodic p n) (s q : ℕ) : (List.range' s (n * q)).countP p = q * Nat.count p n := by
  have hq : Periodic p (n * q) := by
    rw [mul_comm]
    exact hp.nat_mul q
  rw [countP_range', Nat.filter_Ico_card_eq_of_periodic s (n * q) p hq, count_mul_period hp]

theorem countP_window_mono (s : ℕ) {k k' : ℕ} (h : k ≤ k') :
    (List.range' s k).countP p ≤ (List.range' s k').countP p :=
  (List.range'_sublist_right.mpr h).countP_le

/-- **Every window has its share**: at least the periods that fit into it, at most the periods that cover it. -/
theorem window_fair (hp : Periodic p n) (hn : 0 < n) (s k : ℕ) :
    k / n * Nat.count p n ≤ (List.range' s k).countP p ∧
      (List.range' s k).countP p ≤ k ⌈/⌉ n * Nat.count p n := by
  have hcover : k ≤ n * (k ⌈/⌉ n) := by
    have := le_smul_ceilDiv (b := k) hn
    rwa [smul_eq_mul] at this
  constructor
  · rw [← countP_periods hp s (k / n)]
    exact countP_window_mono s (Nat.mul_div_le k n)
  · rw [← countP_periods hp s (k ⌈/⌉ n)]
    exact countP_window_mono s hcover

section Increasing

variable {ts : List ℕ} {s k : ℕ}

theorem sublist_range' (h : ts.Pairwise (· < ·)) (hts : ∀ t ∈ ts, s ≤ t ∧ t < s + k) : ts.Sublist (List.range' s k) := by
  have hsubset : ts ⊆ List.range' s k := fun t ht => List.mem_range'_1.mpr (hts t ht)
  exact List.sublist_of_subperm_of_pairwise (List.subperm_of_subset h.nodup hsubset) h List.pairwise_lt_range'

theorem length_le_window (h : ts.Pairwise (· < ·)) (hts : ∀ t ∈ ts, s ≤ t ∧ t < s + k) : ts.length ≤ k := by
  have hle := (sublist_range' h hts).length_le
  rwa [List.length_range'] at hle

/-- **No part of a window has more than the share of the window.** -/
theorem window_share (hp : Periodic p n) (hn : 0 < n) (h : ts.Pairwise (· < ·)) (hts : ∀ t ∈ ts, s ≤ t ∧ t < s + k) :
    ts.countP p ≤ k ⌈/⌉ n * Nat.count p n :=
  (sublist_range' h hts).countP_le.trans (window_fair hp hn s k).2

end Increasing

theorem div_lt_of_lt_add {t u d : ℕ} (hn : 0 < n) (h : u < t + d) : u / n < t / n + (d ⌈/⌉ n + 1) := by
  have hcover : d ≤ n * (d ⌈/⌉ n) := by
    have := le_smul_ceilDiv (b := d) hn
    rwa [smul_eq_mul] at this
  have hu : n * (u / n) ≤ u := Nat.mul_div_le u n
  have ht : t < n * (t / n) + n := by
    have := Nat.div_add_mod t n
    have := Nat.mod_lt t hn
    omega
  -- all bounds in multiples of `n`
  have hlt : n * (u / n) < n * (t / n + (d ⌈/⌉ n + 1)) := by
    rw [Nat.mul_add, Nat.mul_add, Nat.mul_one]
    omega
  exact lt_of_mul_lt_mul_left hlt (Nat.zero_le n)

theorem count_mod_eq {v : ℕ} (hv : v < n) : Nat.count (fun t => t % n = v) n = 1 := by
  rw [Nat.count_eq_card_filter_range, card_eq_one]
  refine ⟨v, ?_⟩
  ext t
  simp only [mem_filter, mem_range, mem_singleton]
  constructor
  · rintro ⟨ht, hmod⟩
    rw [← hmod, Nat.mod_eq_of_lt ht]
  · rintro rfl
    exact ⟨hv, Nat.mod_eq_of_lt hv⟩

end PaseoNode.Lib
