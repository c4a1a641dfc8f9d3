import PaseoNode.Runtime.ReadApi

/-!
# Visibility over time

With the rows fixed, the clock decides when a node is visible: from `visibleFrom` (the end of the offer window, or the
beginning of time) until just before `visibleUntil` (the expiry), and the record it shows then is `shownRecord`
(`getInfo_withNow`).  So the queries of a name are `AnswersDuring` one interval (`visible_during_one_interval`).
-/

namespace PaseoNode.Runtime

open PaseoNode.Lib

variable {RT Label E : Type} (st : Storage RT) (node : DomainHash)

/-- The end of the offer window, at most the last moment there is; 0 when there is no offer. -/
def visibleFrom : ℕ :=
  match st.offeredNames node with
  | some offer => min (offer.offeredAt.toNat + offerWindow.toNat) (2 ^ 64 - 1)
  | none => 0

/-- The expiry of a registered node that has a token; 0 for other nodes. -/
def visibleUntil : ℕ :=
  match st.registrarInfos node, st.tokens 0 node with
  | some info, some _ => info.expire.toNat
  | _, _ => 0

/-- What a node shows while it is visible. -/
def shownRecord : Option NameRecord := do
  let info ← st.registrarInfos node
  let token ← st.tokens 0 node
  return nameRecord st node info token

/-- `lo` and `hi` are the bounds that the rows of the node set. -/
structure VisibilityBounds (lo hi : ℕ) : Prop where
  hi_expire : ∀ info token, st.registrarInfos node = some info → st.tokens 0 node = some token →
    hi = info.expire.toNat
  empty : st.registrarInfos node = none ∨ st.tokens 0 node = none → hi ≤ lo
  lo_offer : ∀ offer, st.offeredNames node = some offer →
    lo = min (offer.offeredAt.toNat + offerWindow.toNat) (2 ^ 64 - 1)
  lo_no_offer : st.offeredNames node = none → lo = 0

theorem visibilityBounds : VisibilityBounds st node (visibleFrom st node) (visibleUntil st node) where
  hi_expire info token hinfo htoken := by simp [visibleUntil, hinfo, htoken]
  empty h := by
    have : visibleUntil st node = 0 := by
      rcases h with h | h
      · simp [visibleUntil, h]
      · cases hinfo : st.registrarInfos node <;> simp [visibleUntil, hinfo, h]
    omega
  lo_offer offer h := by simp [visibleFrom, h]
  lo_no_offer h := by simp [visibleFrom, h]

/-! ### The answer as a function of time -/

theorem offerLive_withNow_iff (now : Moment) :
    OfferLive (st.withNow now) node ↔ now.toNat < visibleFrom st node := by
  cases hoffer : st.offeredNames node with
  | none =>
    have : ¬ OfferLive (st.withNow now) node := not_offerLive_of_no_row hoffer
    simp [this, visibleFrom, hoffer]
  | some offer =>
    have : OfferLive (st.withNow now) node ↔ now < saturatingAdd offer.offeredAt offerWindow :=
      offerLive_of_row hoffer
    rw [this, UInt64.lt_iff_toNat_lt, toNat_saturatingAdd]
    simp [visibleFrom, hoffer]

/-- **The answer of `get_info` over time.** -/
theorem getInfo_withNow (now : Moment) :
    getInfo (st.withNow now) node =
      if visibleFrom st node ≤ now.toNat ∧ now.toNat < visibleUntil st node then shownRecord st node else none := by
  by_cases hoffer : OfferLive (st.withNow now) node
  · have hlo := (offerLive_withNow_iff st node now).mp hoffer
    rw [getInfo_of_offerLive hoffer, if_neg (by omega)]
  · have hlo := mt (offerLive_withNow_iff st node now).mpr hoffer
    rw [getInfo_of_not_offerLive hoffer]
    cases hinfo : st.registrarInfos node with
    | none => simp [visibleUntil, hinfo]
    | some info =>
      cases htoken : st.tokens 0 node with
      | none => simp [visibleUntil, hinfo, htoken]
      | some token =>
        simp only [Storage.withNow_registrarInfos, Storage.withNow_tokens, Storage.withNow_now, hinfo, htoken,
          visibleUntil, shownRecord, Option.bind_some, Option.map_some, UInt64.le_iff_toNat_le]
        by_cases hexp : info.expire.toNat ≤ now.toNat
        · rw [if_pos hexp, if_neg (by omega)]
        · rw [if_neg hexp, if_pos (by omega)]
          rfl

theorem shownRecord_isSome (h : visibleFrom st node < visibleUntil st node) :
    (shownRecord st node).isSome = true := by
  unfold visibleUntil at h
  unfold shownRecord
  cases hinfo : st.registrarInfos node <;> cases htoken : st.tokens 0 node <;> simp [hinfo, htoken] at h ⊢

/-- The states have the same rows of those that decide whether the node is visible. -/
structure SameTitle (st st' : Storage RT) (node : DomainHash) : Prop where
  offeredNames : st.offeredNames node = st'.offeredNames node
  registrarInfos : st.registrarInfos node = st'.registrarInfos node
  tokens : st.tokens 0 node = st'.tokens 0 node

/-- The fields of a record that its title gives: all but the sale and the stamp. -/
def NameRecord.title (r : NameRecord) : AccountId × Moment × UInt32 × Balance × BlockNumber :=
  (r.owner, r.expire, r.capacity, r.registerFee, r.lastBlock)

section Title

variable {st node} {st' st'' : Storage RT}

theorem SameTitle.refl : SameTitle st st node := ⟨rfl, rfl, rfl⟩

theorem SameTitle.trans (h : SameTitle st st' node) (h' : SameTitle st' st'' node) : SameTitle st st'' node where
  offeredNames := h.offeredNames.trans h'.offeredNames
  registrarInfos := h.registrarInfos.trans h'.registrarInfos
  tokens := h.tokens.trans h'.tokens

theorem SameTitle.shownRecord_eq (h : SameTitle st st' node) :
    (shownRecord st' node).map NameRecord.title = (shownRecord st node).map NameRecord.title := by
  unfold shownRecord
  rw [h.registrarInfos, h.tokens]
  cases st'.registrarInfos node with
  | none => rfl
  | some info => cases st'.tokens 0 node <;> rfl

theorem SameTitle.getInfo_title (h : SameTitle st st' node) : (getInfo st' node).map NameRecord.title =
    if visibleFrom st node ≤ st'.now.toNat ∧ st'.now.toNat < visibleUntil st node then
      (shownRecord st node).map NameRecord.title else none := by
  have hfrom : visibleFrom st' node = visibleFrom st node := by
    unfold visibleFrom
    rw [h.offeredNames]
  have huntil : visibleUntil st' node = visibleUntil st node := by
    unfold visibleUntil
    rw [h.registrarInfos, h.tokens]
  have hnow : getInfo st' node = getInfo (st'.withNow st'.now) node := rfl
  rw [hnow, getInfo_withNow, hfrom, huntil, ← h.shownRecord_eq]
  split_ifs <;> rfl

/-- **A title is visible during one interval** of the states that share it. -/
theorem answersDuring_title (st : Storage RT) (node : DomainHash) :
    AnswersDuring (fun t : { st' // SameTitle st st' node } => t.val.now.toNat)
      (fun t => (getInfo t.val node).map NameRecord.title) (visibleFrom st node) (visibleUntil st node) :=
  AnswersDuring.of_ite (fun t => t.property.getInfo_title) fun h => by
    rw [Option.isSome_map]
    exact shownRecord_isSome st node h

/-- Of three states in the order of their times that share a title, the middle one shows it when the others do. -/
theorem SameTitle.no_gap {st₁ st₂ st₃ : Storage RT} (h₁₂ : SameTitle st₁ st₂ node) (h₂₃ : SameTitle st₂ st₃ node)
    (hnow₁₂ : st₁.now ≤ st₂.now) (hnow₂₃ : st₂.now ≤ st₃.now) {r₁ r₃ : NameRecord} (hr₁ : getInfo st₁ node = some r₁)
    (hr₃ : getInfo st₃ node = some r₃) :
    ∃ r₂, getInfo st₂ node = some r₂ ∧ r₂.title = r₁.title ∧ r₃.title = r₁.title := by
  have hduring := answersDuring_title st₁ node
  have hsome₁ : ((getInfo st₁ node).map NameRecord.title).isSome = true := by rw [hr₁]; rfl
  have hsome₃ : ((getInfo st₃ node).map NameRecord.title).isSome = true := by rw [hr₃]; rfl
  -- the three states as times at which one title is asked for
  let t₁ : { st' // SameTitle st₁ st' node } := ⟨st₁, .refl⟩
  let t₂ : { st' // SameTitle st₁ st' node } := ⟨st₂, h₁₂⟩
  let t₃ : { st' // SameTitle st₁ st' node } := ⟨st₃, h₁₂.trans h₂₃⟩
  have hsome₂ : ((getInfo st₂ node).map NameRecord.title).isSome = true :=
    @AnswersDuring.no_gap _ _ _ _ _ _ _ _ hduring t₁ t₂ t₃ (UInt64.le_iff_toNat_le.mp hnow₁₂)
      (UInt64.le_iff_toNat_le.mp hnow₂₃) hsome₁ hsome₃
  have h₂₁ := hduring.constant t₂ t₁ hsome₂ hsome₁
  have h₃₁ := hduring.constant t₃ t₁ hsome₃ hsome₁
  simp only [t₁, t₂, t₃, hr₁, hr₃, Option.map_some, Option.map_eq_some_iff, Option.some_inj] at h₂₁ h₃₁
  obtain ⟨r₂, hr₂, htitle⟩ := h₂₁
  exact ⟨r₂, hr₂, htitle, h₃₁⟩

end Title

/-- A query of the node over time: it answers during `[lo, hi)`, never again after the expiry, and once it falls silent
after an answer it stays silent. -/
structure OneInterval (q : Moment → Option NameRecord) (lo hi : ℕ) : Prop where
  during : AnswersDuring UInt64.toNat q lo hi
  expired : ∀ info, st.registrarInfos node = some info → ∀ now now', info.expire ≤ now → now ≤ now' → q now' = none
  once : ∀ t₁ t₂ t₃, t₁ ≤ t₂ → t₂ ≤ t₃ → (q t₁).isSome = true → q t₂ = none → q t₃ = none

theorem visibleUntil_le {info : RegistrarInfo} (h : st.registrarInfos node = some info) :
    visibleUntil st node ≤ info.expire.toNat := by
  cases htoken : st.tokens 0 node <;> simp [visibleUntil, h, htoken]

theorem oneInterval_of_answersDuring {q : Moment → Option NameRecord}
    (hq : AnswersDuring UInt64.toNat q (visibleFrom st node) (visibleUntil st node)) :
    OneInterval st node q (visibleFrom st node) (visibleUntil st node) where
  during := hq
  expired info hinfo now now' hexp hle :=
    hq.never_after ((visibleUntil_le st node hinfo).trans (UInt64.le_iff_toNat_le.mp hexp))
      (UInt64.le_iff_toNat_le.mp hle)
  once t₁ t₂ t₃ h₁₂ h₂₃ h₁ h₂ := by
    by_contra h₃
    have := hq.no_gap (UInt64.le_iff_toNat_le.mp h₁₂) (UInt64.le_iff_toNat_le.mp h₂₃) h₁
      (Option.isSome_iff_ne_none.mpr h₃)
    rw [h₂] at this
    cases this

/-- **Visibility is one half-open interval**, for the node and for every name of the node. -/
theorem visible_during_one_interval (P : Pallets RT Label E) :
    ∃ lo hi, VisibilityBounds st node lo hi ∧
      OneInterval st node (fun now => getInfo (st.withNow now) node) lo hi ∧
      ∀ name, labelNode P name = some node →
        OneInterval st node (fun now => resolveName P (st.withNow now) name) lo hi := by
  have hnode : OneInterval st node (fun now => getInfo (st.withNow now) node) (visibleFrom st node)
      (visibleUntil st node) :=
    oneInterval_of_answersDuring st node
      (AnswersDuring.of_ite (getInfo_withNow st node) (shownRecord_isSome st node))
  refine ⟨visibleFrom st node, visibleUntil st node, visibilityBounds st node, hnode, fun name hname => ?_⟩
  simpa only [resolveName_of_label hname] using hnode

end PaseoNode.Runtime
