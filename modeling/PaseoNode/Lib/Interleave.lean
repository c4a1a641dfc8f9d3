import Mathlib.Tactic

/-!
# Programs that ask a world that moves

* `Prog Q R α` — a program that asks questions `q : Q`, gets answers in `R q`, and ends with an `α`;
* `Env W Q R` — a world: how it moves, and what it may answer;
* `Run E w p tr a` — a run of `p` that starts in the world `w`, makes the exchanges `tr` and ends with `a`.  The world may
  move between any two exchanges;
* `Run.linearize` — when all questions after the first are `Timeless`, the run is a run of a world that stands still, at
  the moment of the first question;
* `Begun E w p tr w' p'` — a run that has not ended, and what is left of the program.
-/

namespace PaseoNode.Lib

universe u v w x

inductive Prog (Q : Type u) (R : Q → Type v) (α : Type w) : Type (max u v w) where
  | ret (a : α)
  | ask (q : Q) (k : R q → Prog Q R α)

variable {Q : Type u} {R : Q → Type v} {α β : Type w} {W : Type x}

namespace Prog

protected def bind : Prog Q R α → (α → Prog Q R β) → Prog Q R β
  | .ret a, f => f a
  | .ask q k, f => .ask q fun r => (k r).bind f

instance : Monad (Prog Q R) where
  pure := .ret
  bind := .bind

end Prog

/-- A world: how it moves, and which answers it may give to a question. -/
structure Env (W : Type x) (Q : Type u) (R : Q → Type v) where
  move : W → W → Prop
  answer : W → (q : Q) → R q → Prop

structure Exchange (W : Type x) (Q : Type u) (R : Q → Type v) where
  world : W
  question : Q
  answer : R question

def Exchange.inWorld (x : Exchange W Q R) (w : W) : Exchange W Q R := { x with world := w }

/-- The exchange, as seen in another kind of world. -/
def Exchange.map {W' : Type x} (f : W → W') (x : Exchange W Q R) : Exchange W' Q R := ⟨f x.world, x.question, x.answer⟩

inductive Run (E : Env W Q R) : W → Prog Q R α → List (Exchange W Q R) → α → Prop where
  | ret {w : W} {a : α} : Run E w (.ret a) [] a
  | move {w w' : W} {p : Prog Q R α} {tr : List (Exchange W Q R)} {a : α} :
      E.move w w' → Run E w' p tr a → Run E w p tr a
  | ask {w : W} {q : Q} {k : R q → Prog Q R α} {r : R q} {tr : List (Exchange W Q R)} {a : α} :
      E.answer w q r → Run E w (k r) tr a → Run E w (.ask q k) (⟨w, q, r⟩ :: tr) a

namespace Env

variable (E : Env W Q R)

/-- The world that answers the same and never moves. -/
def frozen : Env W Q R where
  move _ _ := False
  answer := E.answer

/-- A question that may get the same answers at all times. -/
def Timeless (q : Q) : Prop := ∀ w w' r, E.answer w q r → E.answer w' q r

/-- All questions of the program are timeless. -/
inductive Steady : Prog Q R α → Prop where
  | ret (a : α) : Steady (.ret a)
  | ask {q : Q} {k : R q → Prog Q R α} : E.Timeless q → (∀ r, Steady (k r)) → Steady (.ask q k)

end Env

namespace Run

variable {E : Env W Q R} {w : W} {q : Q} {k : R q → Prog Q R α} {tr : List (Exchange W Q R)} {a b : α}

theorem of_ret (h : Run E w (.ret a) tr b) : tr = [] ∧ b = a := by
  generalize hp : Prog.ret a = p at h
  induction h with
  | ret =>
    cases hp
    exact ⟨rfl, rfl⟩
  | move _ _ ih => exact ih hp
  | ask _ _ _ => cases hp

theorem of_ask (h : Run E w (.ask q k) tr a) :
    ∃ w' r tr', tr = ⟨w', q, r⟩ :: tr' ∧ E.answer w' q r ∧ Run E w' (k r) tr' a := by
  generalize hp : Prog.ask q k = p at h
  induction h with
  | ret => cases hp
  | move _ _ ih => exact ih hp
  | ask hr hrest =>
    cases hp
    exact ⟨_, _, _, rfl, hr, hrest⟩

/-! ### Runs of a world that stands still -/

theorem ask_of_frozen (h : Run E.frozen w (.ask q k) tr a) :
    ∃ r tr', tr = ⟨w, q, r⟩ :: tr' ∧ E.answer w q r ∧ Run E.frozen w (k r) tr' a := by
  cases h with
  | move hmove => exact hmove.elim
  | ask hr hrest => exact ⟨_, _, rfl, hr, hrest⟩

/-! ### Linearisation -/

/-- A steady program could have run at any one moment. -/
theorem freeze {p : Prog Q R α} (h : Run E w p tr a) (hp : E.Steady p) (w' : W) :
    Run E.frozen w' p (tr.map fun x => x.inWorld w') a := by
  induction h with
  | ret => exact .ret
  | move _ _ ih => exact ih hp
  | ask hr _ ih =>
    cases hp with
    | ask hq hk => exact .ask (hq _ w' _ hr) (ih (hk _))

/-- **A program that is steady after its first question takes effect at the moment of that question.** -/
theorem linearize (h : Run E w (.ask q k) tr a) (hk : ∀ r, E.Steady (k r)) :
    ∃ x ∈ tr, Run E.frozen x.world (.ask q k) (tr.map fun y => y.inWorld x.world) a := by
  generalize hp : Prog.ask q k = p at h
  induction h with
  | ret => cases hp
  | move _ _ ih => exact ih hp
  | @ask w q' k' r tr a hr hrest =>
    cases hp
    exact ⟨⟨w, q, r⟩, List.mem_cons_self, .ask hr (hrest.freeze (hk r) w)⟩

end Run

/-! ### Runs that have not ended -/

/-- The program `p` began in the world `w`, made the exchanges `tr` and got to the world `w'`, where `p'` is left of
it. -/
inductive Begun (E : Env W Q R) : W → Prog Q R α → List (Exchange W Q R) → W → Prog Q R α → Prop where
  | start {w : W} {p : Prog Q R α} : Begun E w p [] w p
  | move {w w' w'' : W} {p p' : Prog Q R α} {tr : List (Exchange W Q R)} :
      E.move w w' → Begun E w' p tr w'' p' → Begun E w p tr w'' p'
  | ask {w w' : W} {q : Q} {k : R q → Prog Q R α} {r : R q} {tr : List (Exchange W Q R)} {p' : Prog Q R α} :
      E.answer w q r → Begun E w (k r) tr w' p' → Begun E w (.ask q k) (⟨w, q, r⟩ :: tr) w' p'

namespace Begun

variable {E : Env W Q R} {w w' : W} {q : Q} {k : R q → Prog Q R α} {p p' : Prog Q R α} {tr : List (Exchange W Q R)}
  {a : α}

theorem run (h : Begun E w p tr w' (.ret a)) : Run E w p tr a := by
  generalize hp : Prog.ret a = p' at h
  induction h with
  | start =>
    subst hp
    exact .ret
  | move hmove _ ih => exact .move hmove (ih hp)
  | ask hr _ ih => exact .ask hr (ih hp)

theorem of_run (h : Run E w p tr a) : ∃ w', Begun E w p tr w' (.ret a) := by
  induction h with
  | ret => exact ⟨_, .start⟩
  | move hmove _ ih =>
    obtain ⟨w', hbegun⟩ := ih
    exact ⟨w', .move hmove hbegun⟩
  | ask hr _ ih =>
    obtain ⟨w', hbegun⟩ := ih
    exact ⟨w', .ask hr hbegun⟩

theorem of_ret (h : Begun E w (.ret a) tr w' p') : tr = [] ∧ p' = .ret a := by
  generalize hp : Prog.ret a = p at h
  induction h with
  | start =>
    subst hp
    exact ⟨rfl, rfl⟩
  | move _ _ ih => exact ih hp
  | ask _ _ _ => cases hp

theorem of_ask (h : Begun E w (.ask q k) tr w' p') :
    tr = [] ∧ p' = .ask q k ∨
      ∃ w₁ r tr', tr = ⟨w₁, q, r⟩ :: tr' ∧ E.answer w₁ q r ∧ Begun E w₁ (k r) tr' w' p' := by
  generalize hp : Prog.ask q k = p at h
  induction h with
  | start =>
    subst hp
    exact Or.inl ⟨rfl, rfl⟩
  | move _ _ ih => exact ih hp
  | ask hr hrest =>
    cases hp
    exact Or.inr ⟨_, _, _, rfl, hr, hrest⟩

/-- A program cannot tell a world from one that moves and answers alike. -/
theorem map {W' : Type x} {E' : Env W' Q R} {f : W → W'} (hmove : ∀ w w', E.move w w' → E'.move (f w) (f w'))
    (hanswer : ∀ w q r, E.answer w q r → E'.answer (f w) q r) (h : Begun E w p tr w' p') :
    Begun E' (f w) p (tr.map (Exchange.map f)) (f w') p' := by
  induction h with
  | start => exact .start
  | move hm _ ih => exact .move (hmove _ _ hm) ih
  | ask hr _ ih => exact .ask (hanswer _ _ _ hr) ih

end Begun

end PaseoNode.Lib
