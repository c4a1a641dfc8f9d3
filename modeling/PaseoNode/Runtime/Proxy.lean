import PaseoNode.Lib.Log
import PaseoNode.Runtime.Author

/-!
# Who has a proxy

ZK-PKI admits the registration of a root or an issuer only to a caller that has a proxy, and asks
`PalletProxyValidator::has_proxy`, which looks for a definition in `pallet_proxy::Proxies`.

* `Proxies` — the storage of `pallet_proxy`; `ProxyPallet.Lawful` — what its calls do to it;
* `has_proxy_iff_delegated` — an account has a proxy exactly while one of its delegations stands, whatever its
  delay.
-/

namespace PaseoNode.Runtime

open PaseoNode.Lib

variable {E : Type}

/-! ### Definitions of proxies -/

inductive ProxyType where
  | any
  deriving DecidableEq

structure ProxyDefinition where
  delegate : AccountId
  proxyType : ProxyType
  delay : BlockNumber
  deriving DecidableEq

/-- `MaxProxies`. -/
def maxProxies : UInt32 := 32

/-- `pallet_proxy::Proxies`: the definitions of a delegator, and its deposit. -/
abbrev Proxies : Type := AccountId → BoundedVec ProxyDefinition maxProxies × Balance

/-- `PalletProxyValidator::has_proxy`. -/
def hasProxy (proxies : Proxies) (delegator delegatee : AccountId) : Bool :=
  let (definitions, _deposit) := proxies delegator
  definitions.toList.any fun d => d.delegate = delegatee

/-- The definition stands for the delegator. -/
def Delegates (proxies : Proxies) (delegator : AccountId) (d : ProxyDefinition) : Prop :=
  d ∈ (proxies delegator).1.toList

theorem hasProxy_iff {proxies : Proxies} {delegator delegatee : AccountId} :
    hasProxy proxies delegator delegatee = true ↔ ∃ d, Delegates proxies delegator d ∧ d.delegate = delegatee := by
  simp [hasProxy, Delegates]

/-! ### The calls of the pallet -/

/-- The calls of `pallet_proxy` that change `Proxies`.  `remove_proxies` and `kill_pure` both remove all
definitions of an account, and `create_pure` adds one to a new account. -/
structure ProxyPallet (E : Type) where
  addProxy : Proxies → AccountId → ProxyDefinition → Except E Proxies
  removeProxy : Proxies → AccountId → ProxyDefinition → Except E Proxies
  removeProxies : Proxies → AccountId → Proxies

inductive ProxyOp where
  | addProxy (delegator : AccountId) (d : ProxyDefinition)
  | removeProxy (delegator : AccountId) (d : ProxyDefinition)
  | removeProxies (delegator : AccountId)
  deriving DecidableEq

/-- What the calls do: `add_proxy` refuses an account as its own proxy, and adds its definition and no other;
`remove_proxy` removes exactly its definition; no call touches the definitions of another delegator. -/
structure ProxyPallet.Lawful (M : ProxyPallet E) : Prop where
  addProxy : ∀ ps delegator d ps', M.addProxy ps delegator d = .ok ps' → d.delegate ≠ delegator ∧
    ∀ a d', Delegates ps' a d' ↔ (a = delegator ∧ d' = d) ∨ Delegates ps a d'
  removeProxy : ∀ ps delegator d ps', M.removeProxy ps delegator d = .ok ps' →
    ∀ a d', Delegates ps' a d' ↔ ¬ (a = delegator ∧ d' = d) ∧ Delegates ps a d'
  removeProxies : ∀ ps delegator a d', Delegates (M.removeProxies ps delegator) a d' ↔ a ≠ delegator ∧ Delegates ps a d'

inductive ProxyStep (M : ProxyPallet E) : Proxies → ProxyOp → Proxies → Prop where
  | addProxy {ps ps' : Proxies} {delegator : AccountId} {d : ProxyDefinition} :
      M.addProxy ps delegator d = .ok ps' → ProxyStep M ps (.addProxy delegator d) ps'
  | removeProxy {ps ps' : Proxies} {delegator : AccountId} {d : ProxyDefinition} :
      M.removeProxy ps delegator d = .ok ps' → ProxyStep M ps (.removeProxy delegator d) ps'
  | removeProxies {ps : Proxies} {delegator : AccountId} :
      ProxyStep M ps (.removeProxies delegator) (M.removeProxies ps delegator)

/-- The operation adds or removes the definition for the delegator. -/
def ProxyOp.Touches (delegator : AccountId) (d : ProxyDefinition) : ProxyOp → Prop
  | .addProxy a d' | .removeProxy a d' => delegator = a ∧ d = d'
  | .removeProxies a => delegator = a

/-- The operation leaves what it touches in place. -/
def ProxyOp.Adds : ProxyOp → Prop
  | .addProxy _ _ => True
  | .removeProxy _ _ | .removeProxies _ => False

instance (delegator : AccountId) (d : ProxyDefinition) : DecidablePred (ProxyOp.Touches delegator d)
  | .addProxy a d' | .removeProxy a d' => inferInstanceAs (Decidable (delegator = a ∧ d = d'))
  | .removeProxies a => inferInstanceAs (Decidable (delegator = a))

/-- **One call on one definition.** -/
theorem proxyStep_delegates {M : ProxyPallet E} (hM : M.Lawful) {ps ps' : Proxies} {op : ProxyOp}
    (h : ProxyStep M ps op ps') (delegator : AccountId) (d : ProxyDefinition) :
    (op.Touches delegator d → (Delegates ps' delegator d ↔ op.Adds)) ∧
      (¬ op.Touches delegator d → (Delegates ps' delegator d ↔ Delegates ps delegator d)) := by
  cases h with
  | addProxy h =>
    rw [(hM.addProxy _ _ _ _ h).2 delegator d]
    exact ⟨fun htouch => iff_of_true (Or.inl htouch) trivial, fun hno => or_iff_right hno⟩
  | removeProxy h =>
    rw [hM.removeProxy _ _ _ _ h delegator d]
    exact ⟨fun htouch => iff_of_false (fun hdel => hdel.1 htouch) not_false, fun hno => and_iff_right hno⟩
  | removeProxies =>
    rw [hM.removeProxies _ _ delegator d]
    exact ⟨fun htouch => iff_of_false (fun hdel => hdel.1 htouch) not_false, fun hno => and_iff_right hno⟩

/-- No account is its own proxy. -/
def NoSelfProxy (proxies : Proxies) : Prop := ∀ account, hasProxy proxies account account = false

theorem NoSelfProxy.step {M : ProxyPallet E} (hM : M.Lawful) {ps ps' : Proxies} {op : ProxyOp}
    (h : ProxyStep M ps op ps') (hps : NoSelfProxy ps) : NoSelfProxy ps' := by
  intro account
  rw [← Bool.not_eq_true, hasProxy_iff]
  rintro ⟨d, hd, rfl⟩
  -- the definition is new, and no new definition names its own delegator
  have hold : ¬ Delegates ps d.delegate d := by
    intro hdel
    have := hasProxy_iff.mpr ⟨d, hdel, rfl⟩
    rw [hps d.delegate] at this
    cases this
  cases h with
  | addProxy hadd =>
    obtain ⟨hne, hdef⟩ := hM.addProxy _ _ _ _ hadd
    rcases (hdef d.delegate d).mp hd with ⟨heq, rfl⟩ | hdel
    · exact hne heq
    · exact hold hdel
  | removeProxy hremove => exact hold ((hM.removeProxy _ _ _ _ hremove d.delegate d).mp hd).2
  | removeProxies => exact hold ((hM.removeProxies _ _ d.delegate d).mp hd).2

/-! ### Runs -/

/-- After any run, a definition stands exactly when the last operation on it was its addition, or it stood at
the start and there was none. -/
theorem delegates_eq {M : ProxyPallet E} (hM : M.Lawful) {ps ps' : Proxies} {ops : List ProxyOp}
    (h : Log (ProxyStep M) ps ops ps') (delegator : AccountId) (d : ProxyDefinition) :
    Delegates ps' delegator d =
      (ops.filter fun op => op.Touches delegator d).getLast?.elim (Delegates ps delegator d) ProxyOp.Adds := by
  have hwrite : ∀ s o s', ProxyStep M s o s' → o.Touches delegator d → Delegates s' delegator d = o.Adds :=
    fun s o s' hstep htouch => propext ((proxyStep_delegates hM hstep delegator d).1 htouch)
  have hkeep : ∀ s o s', ProxyStep M s o s' → ¬ o.Touches delegator d →
      Delegates s' delegator d = Delegates s delegator d :=
    fun s o s' hstep hno => propext ((proxyStep_delegates hM hstep delegator d).2 hno)
  exact h.cell_eq hwrite hkeep

/-- **An account has a proxy exactly while it delegates.**  After any run, `has_proxy` answers `true` exactly
when for some definition of the delegatee the last operation on it was its addition, or it stood at the start
and there was none; and no account has become its own proxy. -/
theorem has_proxy_iff_delegated (M : ProxyPallet E) (hM : M.Lawful) (ps ps' : Proxies) (ops : List ProxyOp)
    (h : Log (ProxyStep M) ps ops ps') :
    (∀ delegator delegatee, hasProxy ps' delegator delegatee = true ↔ ∃ d, d.delegate = delegatee ∧
      (ops.filter fun op => op.Touches delegator d).getLast?.elim (Delegates ps delegator d) ProxyOp.Adds) ∧
      (NoSelfProxy ps → NoSelfProxy ps') := by
  constructor
  · intro delegator delegatee
    rw [hasProxy_iff]
    refine exists_congr fun d => ?_
    rw [and_comm, delegates_eq hM h delegator d]
  · intro hps
    exact h.invariant (fun s o s' hstep => NoSelfProxy.step hM hstep) hps

/-! ### A pallet that does so -/

/-- Definitions in the order of their addition. -/
def ProxyPallet.reference : ProxyPallet Unit where
  addProxy ps delegator d :=
    if h : (ps delegator).1.toList.length < maxProxies.toNat then
      if d.delegate = delegator ∨ d ∈ (ps delegator).1.toList then .error ()
      else .ok (Function.update ps delegator (⟨d :: (ps delegator).1.toList, h⟩, (ps delegator).2))
    else .error ()
  removeProxy ps delegator d :=
    if d ∈ (ps delegator).1.toList then
      .ok (Function.update ps delegator (⟨(ps delegator).1.toList.filter (· ≠ d),
        (List.length_filter_le _ _).trans (ps delegator).1.length_le⟩, (ps delegator).2))
    else .error ()
  removeProxies ps delegator := Function.update ps delegator (⟨[], Nat.zero_le _⟩, 0)

theorem ProxyPallet.reference_lawful : ProxyPallet.reference.Lawful where
  addProxy ps delegator d ps' h := by
    simp only [ProxyPallet.reference] at h
    split_ifs at h with hlen hbad
    cases h
    refine ⟨fun hself => hbad (Or.inl hself), fun a d' => ?_⟩
    unfold Delegates
    by_cases ha : a = delegator
    · subst ha
      simp
    · simp [ha]
  removeProxy ps delegator d ps' h := by
    simp only [ProxyPallet.reference] at h
    split_ifs at h
    cases h
    intro a d'
    unfold Delegates
    by_cases ha : a = delegator
    · subst ha
      simp [and_comm]
    · simp [ha]
  removeProxies ps delegator a d' := by
    unfold Delegates
    by_cases ha : a = delegator
    · subst ha
      simp [ProxyPallet.reference]
    · simp [ProxyPallet.reference, ha]

def noProxies : Proxies := fun _ => (⟨[], Nat.zero_le _⟩, 0)

/-- Account 1 delegates to 2 with a delay and to 3, and takes the second back. -/
def delegations : List ProxyOp :=
  [.addProxy 1 ⟨2, .any, 10⟩, .addProxy 1 ⟨3, .any, 0⟩, .removeProxy 1 ⟨3, .any, 0⟩]

theorem delegations_log : ∃ ps, Log (ProxyStep ProxyPallet.reference) noProxies delegations ps :=
  ⟨_, .cons (.addProxy rfl) (.cons (.addProxy rfl) (.cons (.removeProxy rfl) .nil))⟩

theorem has_proxy_iff_delegated_delegations :
    ∃ ps, Log (ProxyStep ProxyPallet.reference) noProxies delegations ps ∧
      hasProxy ps 1 2 = true ∧ hasProxy ps 1 3 = false ∧ NoSelfProxy ps := by
  obtain ⟨ps, h⟩ := delegations_log
  obtain ⟨hproxy, hself⟩ := has_proxy_iff_delegated ProxyPallet.reference ProxyPallet.reference_lawful noProxies ps
    delegations h
  refine ⟨ps, h, (hproxy 1 2).mpr ⟨⟨2, .any, 10⟩, rfl, ?_⟩, ?_, hself fun _ => rfl⟩
  · -- the last operation on the definition of account 2 added it
    have hlast : (delegations.filter fun op => op.Touches 1 ⟨2, .any, 10⟩).getLast? =
        some (.addProxy 1 ⟨2, .any, 10⟩) := rfl
    rw [hlast]
    exact trivial
  · -- that of account 3 was removed last, and it has no other
    rw [← Bool.not_eq_true, hproxy]
    rintro ⟨d, hd, hdelegates⟩
    by_cases hany : d = ⟨3, .any, 0⟩
    · have hlast : (delegations.filter fun op => op.Touches 1 ⟨3, .any, 0⟩).getLast? =
          some (.removeProxy 1 ⟨3, .any, 0⟩) := rfl
      rw [hany, hlast] at hdelegates
      exact hdelegates
    · have hother : d ≠ ⟨2, .any, 10⟩ := by
        rintro rfl
        cases hd
      have hnone : (delegations.filter fun op => op.Touches 1 d) = [] := by
        simp only [delegations, ProxyOp.Touches]
        simpa using ⟨hother, hany⟩
      rw [hnone] at hdelegates
      simp [Delegates, noProxies] at hdelegates

end PaseoNode.Runtime
