import PaseoNode.Runtime.ReadApi

/-!
# The write gate

`PnsRegistryChecker::check_node_useable` decides who may edit the records of a node.  It asks the registry about the
token, then the registrar about the expiry of nodes that have a registrar entry (`checkNodeUseable_iff`).  It reads
neither `OfferedNames` nor `RuntimeOrigin`:

* `useable_visible_iff_not_offered` — the gate and `get_info` part exactly over live offers;
* `subname_useable_whatever_parent` — a subname answers to its own rows, not to the expiry of the name above it;
* `owner_can_use` — the owner that the read API reports passes.
-/

namespace PaseoNode.Runtime

open PaseoNode.Lib

variable {RT Label E : Type}

/-- `PnsRegistryChecker::check_node_useable`. -/
def checkNodeUseable (P : Pallets RT Label E) (st : Storage RT) (node : DomainHash) (owner : AccountId) : Bool :=
  if !(P.registryVerify st owner node).isOk then
    false
  else
    -- a node without a registrar entry (a subname) has no expiry of its own
    ((st.registrarInfos node).map fun _ => (P.checkExpiresUseable st node).isOk).getD true

section Gate

variable {P : Pallets RT Label E} {st : Storage RT} {node : DomainHash} {account : AccountId}

theorem checkNodeUseable_eq_true : checkNodeUseable P st node account = true ↔
    (P.registryVerify st account node).isOk = true ∧
      ∀ info, st.registrarInfos node = some info → (P.checkExpiresUseable st node).isOk = true := by
  unfold checkNodeUseable
  cases (P.registryVerify st account node).isOk <;> cases st.registrarInfos node <;> simp

/-- **Who passes the gate**: the holders of the token, while the node's own registration, if it has one, runs. -/
theorem checkNodeUseable_iff (hv : RegistryVerify P) (he : ExpiresUseable P) :
    checkNodeUseable P st node account = true ↔
      HoldsToken st account node ∧ ∀ info, st.registrarInfos node = some info → st.now < info.expire := by
  rw [checkNodeUseable_eq_true, hv st account node]
  refine and_congr_right fun _ => forall₂_congr fun info hinfo => ?_
  exact he st node info hinfo

theorem checkNodeUseable_congr (hv : RegistryVerify P) (he : ExpiresUseable P) {st' : Storage RT}
    (htoken : st'.tokens 0 node = st.tokens 0 node) (happr : st'.approvals node = st.approvals node)
    (hinfo : st'.registrarInfos node = st.registrarInfos node)
    (hnow : st.registrarInfos node = none ∨ st'.now = st.now) :
    checkNodeUseable P st' node account = checkNodeUseable P st node account := by
  rw [Bool.eq_iff_iff, checkNodeUseable_iff hv he, checkNodeUseable_iff hv he, HoldsToken, HoldsToken, htoken, happr,
    hinfo]
  rcases hnow with hnone | hnow
  · simp [hnone]
  · rw [hnow]

end Gate

/-! ### The gate and the view -/

/-- **The gate follows the expiry of a name and not its offers.**  An account that passes sees the name exactly when no
live offer stands on it; after the expiry no account passes; no row of `OfferedNames` changes the answer. -/
theorem useable_visible_iff_not_offered (P : Pallets RT Label E) (hv : RegistryVerify P) (he : ExpiresUseable P)
    (st : Storage RT) (node : DomainHash) (account : AccountId) (info : RegistrarInfo)
    (hinfo : st.registrarInfos node = some info) :
    (checkNodeUseable P st node account = true → ((getInfo st node).isSome = true ↔ ¬ OfferLive st node)) ∧
      (info.expire ≤ st.now → checkNodeUseable P st node account = false) ∧
      ∀ offers, checkNodeUseable P { st with offeredNames := offers } node account =
        checkNodeUseable P st node account := by
  refine ⟨fun h => ?_, fun hexp => ?_, fun offers => ?_⟩
  · rw [checkNodeUseable_iff hv he] at h
    obtain ⟨⟨token, htoken, -⟩, hlt⟩ := h
    have hregistered : Registered st node := ⟨info, hinfo, hlt info hinfo⟩
    have hsome : (st.tokens 0 node).isSome = true := by rw [htoken]; rfl
    rw [getInfo_isSome_iff]
    exact ⟨fun hvis => hvis.1, fun hno => ⟨hno, hregistered, hsome⟩⟩
  · rw [← Bool.not_eq_true, checkNodeUseable_iff hv he]
    rintro ⟨-, hlt⟩
    exact absurd hexp (UInt64.not_le.mpr (hlt info hinfo))
  · exact checkNodeUseable_congr hv he rfl rfl rfl (Or.inr rfl)

theorem useable_visible_iff_not_offered_sold :
    soldStorage.registrarInfos giftNode = some (registration 10) ∧
    (checkNodeUseable Pallets.reference soldStorage giftNode 7 = true →
      ((getInfo soldStorage giftNode).isSome = true ↔ ¬ OfferLive soldStorage giftNode)) ∧
    ((registration 10).expire ≤ soldStorage.now → checkNodeUseable Pallets.reference soldStorage giftNode 7 = false) ∧
    ∀ offers, checkNodeUseable Pallets.reference { soldStorage with offeredNames := offers } giftNode 7 =
      checkNodeUseable Pallets.reference soldStorage giftNode 7 :=
  have hinfo : soldStorage.registrarInfos giftNode = some (registration 10) := by simp [soldStorage]
  ⟨hinfo, useable_visible_iff_not_offered Pallets.reference Pallets.reference.registryVerify
    Pallets.reference.expiresUseable soldStorage giftNode 7 (registration 10) hinfo⟩

/-- The seller of a gift passes the gate while the pending offer hides the name. -/
theorem seller_useable_while_offered :
    soldStorage.registrarInfos giftNode = some (registration 10) ∧ OfferLive soldStorage giftNode ∧
      checkNodeUseable Pallets.reference soldStorage giftNode 7 = true ∧ getInfo soldStorage giftNode = none := by
  have hinfo : soldStorage.registrarInfos giftNode = some (registration 10) := by simp [soldStorage]
  have hlive : OfferLive soldStorage giftNode := ⟨⟨2⟩, by simp [soldStorage], by decide⟩
  have hholds : HoldsToken soldStorage 7 giftNode := ⟨⟨7⟩, by simp [soldStorage], Or.inl rfl⟩
  refine ⟨hinfo, hlive, ?_, getInfo_of_offerLive hlive⟩
  rw [checkNodeUseable_iff Pallets.reference.registryVerify Pallets.reference.expiresUseable]
  refine ⟨hholds, fun info hinfo' => ?_⟩
  obtain rfl : registration 10 = info := Option.some_inj.mp (hinfo.symm.trans hinfo')
  decide

/-! ### Subnames -/

/-- **A subname answers to its own rows.**  It is useable by the holders of its token while its own registration, if it
has one, runs; the registration of another node, such as the one its `RuntimeOrigin` row names, does not matter, and
without a registration of its own neither does the time. -/
theorem subname_useable_whatever_parent (P : Pallets RT Label E) (hv : RegistryVerify P) (he : ExpiresUseable P)
    (st : Storage RT) (s : DomainHash) (account : AccountId) :
    (checkNodeUseable P st s account = true ↔
      HoldsToken st account s ∧ ∀ info, st.registrarInfos s = some info → st.now < info.expire) ∧
    (∀ p info, p ≠ s →
      checkNodeUseable P (st.setRegistrarInfo p info) s account = checkNodeUseable P st s account) ∧
    (st.registrarInfos s = none → ∀ now,
      checkNodeUseable P (st.withNow now) s account = checkNodeUseable P st s account) := by
  refine ⟨checkNodeUseable_iff hv he, fun p info hne => ?_, fun hnone now => ?_⟩
  · exact checkNodeUseable_congr hv he rfl rfl (if_neg hne.symm) (Or.inr rfl)
  · exact checkNodeUseable_congr hv he rfl rfl rfl (Or.inl hnone)

/-- The node of `b"sub.gift"`. -/
def subNode : DomainHash := hashLabel [115, 117, 98] giftNode

theorem subNode_ne_giftNode : subNode ≠ giftNode := by decide +kernel

/-- `b"gift"` has expired; `b"sub.gift"` was accepted under it by account 9. -/
def subnameStorage : Storage UInt16 :=
  { expiredStorage with
    tokens := fun c n => if c = 0 ∧ n = subNode then some ⟨9⟩ else expiredStorage.tokens c n
    runtimeOrigins := fun n => if n = subNode then some giftNode else none }

theorem subnameStorage_no_entry : subnameStorage.registrarInfos subNode = none := by
  simp [subnameStorage, expiredStorage, Storage.single, subNode_ne_giftNode]

theorem subname_useable_whatever_parent_gift :
    (checkNodeUseable Pallets.reference subnameStorage subNode 9 = true ↔
      HoldsToken subnameStorage 9 subNode ∧
        ∀ info, subnameStorage.registrarInfos subNode = some info → subnameStorage.now < info.expire) ∧
    (∀ p info, p ≠ subNode → checkNodeUseable Pallets.reference (subnameStorage.setRegistrarInfo p info) subNode 9 =
      checkNodeUseable Pallets.reference subnameStorage subNode 9) ∧
    (subnameStorage.registrarInfos subNode = none → ∀ now,
      checkNodeUseable Pallets.reference (subnameStorage.withNow now) subNode 9 =
        checkNodeUseable Pallets.reference subnameStorage subNode 9) :=
  subname_useable_whatever_parent Pallets.reference Pallets.reference.registryVerify Pallets.reference.expiresUseable
    subnameStorage subNode 9

/-- A subname under an expired parent is still useable by its holder. -/
theorem subname_useable_under_expired_parent :
    subnameStorage.runtimeOrigins subNode = some giftNode ∧
      subnameStorage.registrarInfos giftNode = some (registration 10) ∧
      (Pallets.reference.checkExpiresUseable subnameStorage giftNode).isOk = false ∧
      checkNodeUseable Pallets.reference subnameStorage subNode 9 = true := by
  have hparent : subnameStorage.registrarInfos giftNode = some (registration 10) := by
    simp [subnameStorage, expiredStorage]
  refine ⟨by simp [subnameStorage], hparent, ?_, ?_⟩
  · rw [← Bool.not_eq_true, Pallets.reference.expiresUseable subnameStorage giftNode (registration 10) hparent]
    decide
  · rw [checkNodeUseable_iff Pallets.reference.registryVerify Pallets.reference.expiresUseable]
    refine ⟨⟨⟨9⟩, by simp [subnameStorage], Or.inl rfl⟩, fun info hinfo => ?_⟩
    rw [subnameStorage_no_entry] at hinfo
    cases hinfo

/-! ### Owners -/

theorem checkNodeUseable_of_getInfo {P : Pallets RT Label E} (hv : VerifiesOwner P) (he : UseableBeforeExpiry P)
    {st : Storage RT} {node : DomainHash} {r : NameRecord} (h : getInfo st node = some r) :
    checkNodeUseable P st node r.owner = true := by
  obtain ⟨-, info, token, hinfo, hlt, htoken, rfl⟩ := getInfo_eq_some_iff.mp h
  rw [checkNodeUseable_eq_true]
  exact ⟨hv st node token htoken, fun _ _ => he st node info hinfo hlt⟩

/-- **The owner that the read API reports can use the name.** -/
theorem owner_can_use (P : Pallets RT Label E) (hv : VerifiesOwner P) (he : UseableBeforeExpiry P) (st : Storage RT) :
    (∀ node r, getInfo st node = some r → checkNodeUseable P st node r.owner = true) ∧
      ∀ name r, resolveName P st name = some r →
        ∃ label len, P.newWithLen name = some (label, len) ∧
          checkNodeUseable P st (P.encodeWithNode label P.nativeBasenode) r.owner = true := by
  refine ⟨fun node r h => checkNodeUseable_of_getInfo hv he h, fun name r h => ?_⟩
  rw [resolveName_eq, Option.bind_eq_some_iff] at h
  obtain ⟨node, hnode, hr⟩ := h
  simp only [labelNode, Option.map_eq_some_iff] at hnode
  obtain ⟨⟨label, len⟩, hlabel, rfl⟩ := hnode
  exact ⟨label, len, hlabel, checkNodeUseable_of_getInfo hv he hr⟩

/-- The owner that `get_info` reports for `b"gift"` passes, and nobody else does. -/
theorem owner_can_use_gift :
    getInfo (giftStorage 10 3) giftNode = some giftRecord ∧
      resolveName Pallets.reference (giftStorage 10 3) giftName = some giftRecord ∧
      checkNodeUseable Pallets.reference (giftStorage 10 3) giftNode giftRecord.owner = true ∧
      (∃ label len, Pallets.reference.newWithLen giftName = some (label, len) ∧
        checkNodeUseable Pallets.reference (giftStorage 10 3)
          (Pallets.reference.encodeWithNode label Pallets.reference.nativeBasenode) giftRecord.owner = true) ∧
      ∀ account, account ≠ giftRecord.owner →
        checkNodeUseable Pallets.reference (giftStorage 10 3) giftNode account = false := by
  have hresolve : resolveName Pallets.reference (giftStorage 10 3) giftName = some giftRecord := by
    rw [resolveName_of_label labelNode_gift, getInfo_gift]
  obtain ⟨hnode, hname⟩ := owner_can_use Pallets.reference Pallets.reference.registryVerify.verifiesOwner
    Pallets.reference.expiresUseable.useableBeforeExpiry (giftStorage 10 3)
  refine ⟨getInfo_gift, hresolve, hnode giftNode giftRecord getInfo_gift, hname giftName giftRecord hresolve,
    fun account hne => ?_⟩
  rw [← Bool.not_eq_true, checkNodeUseable_iff Pallets.reference.registryVerify Pallets.reference.expiresUseable]
  -- the token is the owner's, and nobody is approved
  rintro ⟨⟨token, htoken, howner | happroved⟩, -⟩
  · have htoken' : (giftStorage 10 3).tokens 0 giftNode = some ⟨7⟩ := by simp [giftStorage]
    rw [htoken', Option.some_inj] at htoken
    subst htoken
    exact hne howner
  · simp [giftStorage, Storage.single] at happroved

end PaseoNode.Runtime
