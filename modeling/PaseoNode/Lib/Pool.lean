import Mathlib.Logic.Relation
import Mathlib.Tactic
import PaseoNode.Lib.Interleave

/-!
# Calls that run side by side

* `Pool` — a world, and the calls in flight in it, each with what is left of its program;
* `Step E body` — one event of a pool: the world moves, a call is invoked, asks one question, or returns.  The
  program of the call `c` is `body c`;
* `History E body s evs s'` — the events `evs` lead from `s` to `s'`.  They say where the world is after each of them
  (`worldAfter`);
* `Pending` — an invocation in a history, and the events since; `Call` — an invocation with its return.

A call that other calls run beside is a run of its program (`History.begun_of_pending`, `History.run_of_call`), and
calls that do not overlap ask their questions in the order of the calls (`History.ordered`).
-/

namespace PaseoNode.Lib

universe u v w x

variable {ι κ : Type*} {W : Type x} {Q : Type u} {R : Q → Type v} {α : Type w}

/-! ### Pools and their events -/

structure Pool (ι : Type*) (W : Type x) (Q : Type u) (R : Q → Type v) (α : Type w) where
  world : W
  running : ι → Option (Prog Q R α) := fun _ => none

def Pool.set [DecidableEq ι] (s : Pool ι W Q R α) (i : ι) (p : Option (Prog Q R α)) : Pool ι W Q R α :=
  { s with running := Function.update s.running i p }

inductive Event (ι κ : Type*) (W : Type x) (Q : Type u) (R : Q → Type v) (α : Type w) where
  | moved (w : W)
  | invoked (i : ι) (c : κ)
  | asked (i : ι) (x : Exchange W Q R)
  | returned (i : ι) (a : α)

section Events

variable [DecidableEq ι] (E : Env W Q R) (body : κ → Prog Q R α)

/-- One event.  The questions of a call do not move the world. -/
inductive Step : Pool ι W Q R α → Event ι κ W Q R α → Pool ι W Q R α → Prop where
  | moved {s : Pool ι W Q R α} {w : W} : E.move s.world w → Step s (.moved w) { s with world := w }
  | invoked {s : Pool ι W Q R α} {i : ι} (c : κ) :
      s.running i = none → Step s (.invoked i c) (s.set i (some (body c)))
  | asked {s : Pool ι W Q R α} {i : ι} {q : Q} {k : R q → Prog Q R α} {r : R q} :
      s.running i = some (.ask q k) → E.answer s.world q r →
        Step s (.asked i ⟨s.world, q, r⟩) (s.set i (some (k r)))
  | returned {s : Pool ι W Q R α} {i : ι} {a : α} :
      s.running i = some (.ret a) → Step s (.returned i a) (s.set i none)

inductive History : Pool ι W Q R α → List (Event ι κ W Q R α) → Pool ι W Q R α → Prop where
  | nil {s : Pool ι W Q R α} : History s [] s
  | cons {s s' s'' : Pool ι W Q R α} {e : Event ι κ W Q R α} {evs : List (Event ι κ W Q R α)} :
      Step E body s e s' → History s' evs s'' → History s (e :: evs) s''

end Events

section Pools

variable [DecidableEq ι] {s s' : Pool ι W Q R α} {i j : ι} {p : Prog Q R α}

@[simp] theorem Pool.set_world (q : Option (Prog Q R α)) : (s.set i q).world = s.world := rfl
@[simp] theorem Pool.set_running (q : Option (Prog Q R α)) : (s.set i q).running i = q := Function.update_self ..

theorem Pool.set_running_of_ne (h : i ≠ j) (q : Option (Prog Q R α)) : (s.set j q).running i = s.running i :=
  Function.update_of_ne h ..

/-- What the call `i` asks in the course of the events. -/
def exchangesOf (i : ι) : List (Event ι κ W Q R α) → List (Exchange W Q R)
  | [] => []
  | .asked j x :: evs => if j = i then x :: exchangesOf i evs else exchangesOf i evs
  | _ :: evs => exchangesOf i evs

/-- The world after the events: where the last move led. -/
def worldAfter (w : W) : List (Event ι κ W Q R α) → W
  | [] => w
  | .moved w' :: evs => worldAfter w' evs
  | _ :: evs => worldAfter w evs

variable {e : Event ι κ W Q R α} {evs evs' : List (Event ι κ W Q R α)} {x : Exchange W Q R}

theorem exchangesOf_cons_of_ne (h : ∀ x, e ≠ .asked i x) : exchangesOf i (e :: evs) = exchangesOf i evs := by
  cases e with
  | asked j x =>
    have hne : j ≠ i := by
      rintro rfl
      exact h x rfl
    exact if_neg hne
  | _ => rfl

theorem exchangesOf_append : exchangesOf i (evs ++ evs') = exchangesOf i evs ++ exchangesOf i evs' := by
  induction evs with
  | nil => rfl
  | cons e evs ih =>
    cases e with
    | asked j x =>
      by_cases h : j = i
      · simp [exchangesOf, h, ih]
      · simp [exchangesOf, h, ih]
    | _ => exact ih

end Pools

/-! ### Histories -/

namespace History

variable [DecidableEq ι] {E : Env W Q R} {body : κ → Prog Q R α} {s s' : Pool ι W Q R α} {i : ι}
  {evs evs' : List (Event ι κ W Q R α)} {x : Exchange W Q R}

theorem append_iff :
    History E body s (evs ++ evs') s' ↔ ∃ m, History E body s evs m ∧ History E body m evs' s' := by
  induction evs generalizing s with
  | nil =>
    constructor
    · intro h
      exact ⟨s, .nil, h⟩
    · rintro ⟨m, hm, h⟩
      cases hm
      exact h
  | cons e evs ih =>
    constructor
    · intro h
      cases h with
      | cons hstep hrest =>
        obtain ⟨m, hm, h⟩ := ih.mp hrest
        exact ⟨m, .cons hstep hm, h⟩
    · rintro ⟨m, hm, h⟩
      cases hm with
      | cons hstep hrest => exact .cons hstep (ih.mpr ⟨m, hrest, h⟩)

theorem world_eq (h : History E body s evs s') : s'.world = worldAfter s.world evs := by
  induction h with
  | nil => rfl
  | cons hstep _ ih =>
    rw [ih]
    cases hstep <;> rfl

theorem reaches (h : History E body s evs s') : Relation.ReflTransGen E.move s.world s'.world := by
  induction h with
  | nil => exact .refl
  | cons hstep _ ih =>
    cases hstep with
    | moved hmove => exact .head hmove ih
    | invoked => exact ih
    | asked => exact ih
    | returned => exact ih

theorem reaches_exchange (h : History E body s evs s') (hx : x ∈ exchangesOf i evs) :
    Relation.ReflTransGen E.move s.world x.world ∧ Relation.ReflTransGen E.move x.world s'.world := by
  induction h with
  | nil => cases hx
  | @cons s _ _ e evs hstep hrest ih =>
    cases hstep with
    | moved hmove => exact ⟨.head hmove (ih hx).1, (ih hx).2⟩
    | invoked => exact ih hx
    | returned => exact ih hx
    | @asked j q k r hrun hr =>
      by_cases hj : j = i
      · rw [exchangesOf, if_pos hj] at hx
        rcases List.mem_cons.mp hx with rfl | hx
        · -- the question asked now: its world is that of the state before
          exact ⟨.refl, hrest.reaches⟩
        · exact ih hx
      · rw [exchangesOf, if_neg hj] at hx
        exact ih hx

theorem mono {E' : Env W Q R} (hmove : ∀ w w', E.move w w' → E'.move w w')
    (hanswer : ∀ w q r, E.answer w q r → E'.answer w q r) (h : History E body s evs s') : History E' body s evs s' := by
  induction h with
  | nil => exact .nil
  | cons hstep _ ih =>
    cases hstep with
    | moved hm => exact .cons (.moved (hmove _ _ hm)) ih
    | invoked c hnone => exact .cons (.invoked c hnone) ih
    | asked hrun hr => exact .cons (.asked hrun (hanswer _ _ _ hr)) ih
    | returned hrun => exact .cons (.returned hrun) ih

/-- A question is asked at a moment of the history. -/
theorem moment (h : History E body s evs s') (hx : x ∈ exchangesOf i evs) :
    ∃ n m, n < evs.length ∧ History E body s (evs.take n) m ∧ m.world = x.world := by
  induction h with
  | nil => cases hx
  | @cons s s₁ _ e evs hstep hrest ih =>
    -- a question of a later event, one moment further along
    have later : x ∈ exchangesOf i evs →
        ∃ n m, n < (e :: evs).length ∧ History E body s ((e :: evs).take n) m ∧ m.world = x.world := by
      intro hx
      obtain ⟨n, m, hn, hm, hworld⟩ := ih hx
      exact ⟨n + 1, m, Nat.succ_lt_succ hn, .cons hstep hm, hworld⟩
    cases hstep with
    | moved => exact later hx
    | invoked => exact later hx
    | returned => exact later hx
    | @asked j q k r hrun hr =>
      by_cases hj : j = i
      · rw [exchangesOf, if_pos hj] at hx
        rcases List.mem_cons.mp hx with rfl | hx
        · exact ⟨0, s, Nat.succ_pos _, .nil, rfl⟩
        · exact later hx
      · rw [exchangesOf, if_neg hj] at hx
        exact later hx

/-- **A call in flight goes on with what is left of it**, whatever the other calls do. -/
theorem begun_of_running {p : Prog Q R α} (h : History E body s evs s') (hp : s.running i = some p)
    (hret : ∀ b, .returned i b ∉ evs) :
    ∃ p', s'.running i = some p' ∧ Begun E s.world p (exchangesOf i evs) s'.world p' := by
  induction h generalizing p with
  | nil => exact ⟨p, hp, .start⟩
  | @cons s s₁ s' e evs hstep _ ih =>
    have hret' : ∀ b, .returned i b ∉ evs := fun b hb => hret b (List.mem_cons_of_mem _ hb)
    -- an event of another call leaves the call as it is
    have other : ∀ j q, i ≠ j → s₁ = s.set j q →
        ∃ p', s'.running i = some p' ∧ Begun E s.world p (exchangesOf i evs) s'.world p' := by
      rintro j q hne rfl
      have hbegun := ih ((Pool.set_running_of_ne hne q).trans hp) hret'
      exact hbegun
    cases hstep with
    | moved hmove =>
      obtain ⟨p', hp', hbegun⟩ := ih hp hret'
      exact ⟨p', hp', .move hmove hbegun⟩
    | @invoked j c hnone =>
      apply other j _ _ rfl
      rintro rfl
      rw [hp] at hnone
      cases hnone
    | @asked j q k r hask hr =>
      by_cases hj : j = i
      · subst hj
        obtain rfl : p = .ask q k := Option.some_inj.mp (hp.symm.trans hask)
        obtain ⟨p', hp', hbegun⟩ := ih (Pool.set_running _) hret'
        rw [exchangesOf, if_pos rfl]
        exact ⟨p', hp', .ask hr hbegun⟩
      · rw [exchangesOf, if_neg hj]
        exact other j _ (Ne.symm hj) rfl
    | @returned j b hdone =>
      apply other j _ _ rfl
      rintro rfl
      exact hret b List.mem_cons_self

variable (body) in
theorem of_frozen_run {p : Prog Q R α} {tr : List (Exchange W Q R)} {a : α} (hp : s.running i = some p)
    (h : Run E.frozen s.world p tr a) :
    ∃ s', History E body s (tr.map (.asked i) ++ [.returned i a]) s' := by
  induction tr generalizing s p with
  | nil =>
    cases h with
    | ret => exact ⟨_, .cons (.returned hp) .nil⟩
    | move hmove => exact hmove.elim
  | cons x tr ih =>
    cases h with
    | move hmove => exact hmove.elim
    | ask hr hrest =>
      obtain ⟨s', hs'⟩ := ih (Pool.set_running _) hrest
      exact ⟨s', .cons (.asked hp hr) hs'⟩

end History

/-! ### Calls -/

/-- A call in flight: its invocation, and the events before and after it. -/
structure Pending (ι κ : Type*) (W : Type x) (Q : Type u) (R : Q → Type v) (α : Type w) where
  before : List (Event ι κ W Q R α)
  id : ι
  request : κ
  during : List (Event ι κ W Q R α)

/-- The history is that of the call, which has not returned. -/
structure Pending.In (A : Pending ι κ W Q R α) (evs : List (Event ι κ W Q R α)) : Prop where
  events : A.before ++ .invoked A.id A.request :: A.during = evs
  first : ∀ b, .returned A.id b ∉ A.during

def Pending.exchanges [DecidableEq ι] (A : Pending ι κ W Q R α) : List (Exchange W Q R) := exchangesOf A.id A.during

/-- A call that returned: its invocation and its return, and the events before, between and after them. -/
structure Call (ι κ : Type*) (W : Type x) (Q : Type u) (R : Q → Type v) (α : Type w) extends
    Pending ι κ W Q R α where
  result : α
  after : List (Event ι κ W Q R α)

namespace Call

variable (A B : Call ι κ W Q R α) (evs : List (Event ι κ W Q R α))

def upToReturn : List (Event ι κ W Q R α) :=
  A.before ++ .invoked A.id A.request :: (A.during ++ [.returned A.id A.result])

/-- The history is that of the call. -/
structure In : Prop where
  events : A.upToReturn ++ A.after = evs
  first : ∀ b, .returned A.id b ∉ A.during

/-- `A` returned before `B` was invoked. -/
def Precedes : Prop := A.upToReturn <+: B.before

end Call

section Calls

variable {evs : List (Event ι κ W Q R α)} {A B : Call ι κ W Q R α}

theorem Call.In.events_eq (hA : A.In evs) :
    evs = A.before ++ .invoked A.id A.request :: (A.during ++ .returned A.id A.result :: A.after) := by
  rw [← hA.events, Call.upToReturn]
  simp

theorem Call.Precedes.length_lt (h : A.Precedes B) : A.before.length + A.during.length < B.before.length := by
  have hle := h.length_le
  rw [Call.upToReturn] at hle
  simp only [List.length_append, List.length_cons, List.length_nil] at hle
  omega

theorem Call.Precedes.trans {C : Call ι κ W Q R α} (hAB : A.Precedes B) (hBC : B.Precedes C) : A.Precedes C :=
  List.IsPrefix.trans hAB ((List.prefix_append B.before _).trans hBC)

variable [DecidableEq ι] {E : Env W Q R} {body : κ → Prog Q R α} {s s' : Pool ι W Q R α}

/-- **A call in flight has begun a run of its program**, whatever runs beside it. -/
theorem History.begun_of_pending {A : Pending ι κ W Q R α} (h : History E body s evs s') (hA : A.In evs) :
    ∃ w p, s'.running A.id = some p ∧ Begun E w (body A.request) A.exchanges s'.world p := by
  rw [← hA.events, History.append_iff] at h
  obtain ⟨m, -, h⟩ := h
  cases h with
  | cons hstep hrest =>
    cases hstep with
    | invoked => exact ⟨_, hrest.begun_of_running (Pool.set_running _) hA.first⟩

/-- **Every call is a run of its program**: it was in flight, and only its result was left. -/
theorem History.run_of_call (h : History E body s evs s') (hA : A.In evs) :
    ∃ w, Run E w (body A.request) A.exchanges A.result := by
  have hfront : A.before ++ .invoked A.id A.request :: A.during ++ .returned A.id A.result :: A.after = evs := by
    rw [hA.events_eq]
    simp
  rw [← hfront, History.append_iff] at h
  obtain ⟨m, hmid, h⟩ := h
  obtain ⟨w, p, hp, hbegun⟩ := hmid.begun_of_pending (A := A.toPending) ⟨rfl, hA.first⟩
  cases h with
  | cons hstep _ =>
    cases hstep with
    | returned hret =>
      obtain rfl : p = .ret A.result := Option.some_inj.mp (hp.symm.trans hret)
      exact ⟨w, hbegun.run⟩

theorem History.moment_of_call (h : History E body s evs s') (hA : A.In evs) {x : Exchange W Q R}
    (hx : x ∈ A.exchanges) :
    ∃ n m, A.before.length < n ∧ n ≤ A.before.length + A.during.length ∧ History E body s (evs.take n) m ∧
      m.world = x.world := by
  have hfront : A.before ++ [.invoked A.id A.request] ++ (A.during ++ .returned A.id A.result :: A.after) = evs := by
    rw [hA.events_eq]
    simp
  rw [← hfront, History.append_iff] at h
  obtain ⟨m₁, h₁, h₂⟩ := h
  obtain ⟨m₂, h₂, -⟩ := History.append_iff.mp h₂
  obtain ⟨n, m, hn, hm, hworld⟩ := h₂.moment hx
  have htake : evs.take (A.before.length + 1 + n) =
      A.before ++ [.invoked A.id A.request] ++ A.during.take n := by
    rw [← hfront, List.take_append, List.take_of_length_le (by simp)]
    simp [List.take_append, show n - A.during.length = 0 by omega]
  exact ⟨A.before.length + 1 + n, m, by omega, by omega, htake ▸ History.append_iff.mpr ⟨m₁, h₁, hm⟩, hworld⟩

/-- **Linearizability.**  Where each run of a program that takes effect (`D`) does what `F` says of the world at
one of its questions, the calls of a history take effect at moments between their invocation and their return,
and one after the other when they do not overlap. -/
theorem History.linearizable {D : κ → α → Prop} {F : κ → W → α → Prop}
    (hbody : ∀ w c tr a, Run E w (body c) tr a → D c a → ∃ x ∈ tr, F c x.world a) (h : History E body s evs s') :
    ∃ point : Call ι κ W Q R α → ℕ,
      (∀ A, A.In evs → D A.request A.result →
        A.before.length < point A ∧ point A ≤ A.before.length + A.during.length ∧
          F A.request (worldAfter s.world (evs.take (point A))) A.result) ∧
      ∀ A B, A.In evs → B.In evs → D A.request A.result → D B.request B.result → A.Precedes B → point A < point B := by
  classical
  -- a call that takes effect has a question whose world its result is about, and that question has a moment
  have hpoint : ∀ A : Call ι κ W Q R α, A.In evs → D A.request A.result → ∃ n,
      A.before.length < n ∧ n ≤ A.before.length + A.during.length ∧
        F A.request (worldAfter s.world (evs.take n)) A.result := by
    intro A hA hD
    obtain ⟨w, hrun⟩ := h.run_of_call hA
    obtain ⟨x, hx, hspec⟩ := hbody w A.request A.exchanges A.result hrun hD
    obtain ⟨n, m, hlo, hhi, hm, hworld⟩ := h.moment_of_call hA hx
    rw [← hworld, hm.world_eq] at hspec
    exact ⟨n, hlo, hhi, hspec⟩
  let point : Call ι κ W Q R α → ℕ := fun A =>
    if hA : A.In evs ∧ D A.request A.result then (hpoint A hA.1 hA.2).choose else 0
  have hspec : ∀ A (hA : A.In evs) (hD : D A.request A.result), A.before.length < point A ∧
      point A ≤ A.before.length + A.during.length ∧
        F A.request (worldAfter s.world (evs.take (point A))) A.result := by
    intro A hA hD
    have heq : point A = (hpoint A hA hD).choose := dif_pos ⟨hA, hD⟩
    rw [heq]
    exact (hpoint A hA hD).choose_spec
  -- `A` takes effect before it returns, and `B` after it is invoked
  refine ⟨point, hspec, fun A B hA hB hDA hDB hAB => ?_⟩
  have hend := (hspec A hA hDA).2.1
  have hstart := (hspec B hB hDB).1
  have hlt := hAB.length_lt
  omega

theorem Call.mem_exchangesOf_upToReturn {x : Exchange W Q R} (hx : x ∈ A.exchanges) :
    x ∈ exchangesOf A.id A.upToReturn := by
  rw [Call.upToReturn, exchangesOf_append, exchangesOf_cons_of_ne (by simp), exchangesOf_append]
  exact List.mem_append_right _ (List.mem_append_left _ hx)

/-- **The worlds that calls see are in the order of the calls.** -/
theorem History.ordered (h : History E body s evs s') (hB : B.In evs) (hAB : A.Precedes B)
    {x y : Exchange W Q R} (hx : x ∈ A.exchanges) (hy : y ∈ B.exchanges) :
    Relation.ReflTransGen E.move x.world y.world := by
  obtain ⟨gap, hgap⟩ := hAB
  rw [hB.events_eq, ← hgap, List.append_assoc, History.append_iff] at h
  obtain ⟨m, hfront, hback⟩ := h
  have hy' : y ∈ exchangesOf B.id
      (gap ++ .invoked B.id B.request :: (B.during ++ .returned B.id B.result :: B.after)) := by
    rw [exchangesOf_append, exchangesOf_cons_of_ne (by simp), exchangesOf_append]
    exact List.mem_append_right _ (List.mem_append_left _ hy)
  exact (hfront.reaches_exchange (A.mem_exchangesOf_upToReturn hx)).2.trans (hback.reaches_exchange hy').1

end Calls

end PaseoNode.Lib
