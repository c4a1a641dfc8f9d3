import PaseoNode.Runtime.Rotation
import PaseoNode.Runtime.Visibility

/-!
# Blocks in time

The configuration counts times in blocks (`DAYS` blocks a day, one every `MILLI_SECS_PER_BLOCK`), the storage
keeps them in milliseconds, and the authors follow the slots.  The slot of a block is its timestamp divided by
the slot duration; its Aura digest carries the slot (`findAuthor_of_slot`), and there is at most one block in a
slot (`AuraChain`).

* `no_account_exceeds_its_share` — a bound on the blocks that an account authors in a stretch of time, though
  authorities skip their slots;
* `visibility_along_chain` — along a chain a name is silent, then shows one record, then is silent;
* `offer_hides_at_most_window` — an offer hides a name for `90 * DAYS` blocks, plus the one it starts in.
-/

namespace PaseoNode.Runtime

open PaseoNode.Lib

variable {AuraId RT : Type}

/-! ### Slots -/

def slotDuration : UInt64 := milliSecsPerBlock

/-- `MinimumPeriod` of `pallet_timestamp`. -/
def minimumPeriod : UInt64 := slotDuration / 2

/-- What node and runtime use of the Aura crates for their slots: the slot duration of a minimum period, the slot of a time,
and the encoding of a slot. -/
structure AuraSlots where
  minimumPeriodTimesTwo : UInt64 → UInt64
  fromTimestamp : Moment → UInt64 → UInt64
  encode : UInt64 → Bytes

/-- The bytes of a number, least significant first. -/
def leBytes : ℕ → ℕ → Bytes
  | 0, _ => []
  | k + 1, n => UInt8.ofNat (n % 256) :: leBytes k (n / 256)

/-- The slot of a time is the number of whole durations in it, and slots are encoded as SCALE encodes a `u64`. -/
structure AuraSlots.Lawful (K : AuraSlots) : Prop where
  minimumPeriodTimesTwo : ∀ period, K.minimumPeriodTimesTwo period = saturatingMul period 2
  fromTimestamp : ∀ now duration, 0 < duration → K.fromTimestamp now duration = now / duration
  encode : ∀ slot, K.encode slot = leBytes 8 slot.toNat

def AuraSlots.reference : AuraSlots where
  minimumPeriodTimesTwo period := saturatingMul period 2
  fromTimestamp now duration := now / duration
  encode slot := leBytes 8 slot.toNat

theorem AuraSlots.reference_lawful : AuraSlots.reference.Lawful where
  minimumPeriodTimesTwo _ := rfl
  fromTimestamp _ _ _ := rfl
  encode _ := rfl

variable {K : AuraSlots}

namespace AuraSlots

/-- The slot duration of `pallet_aura`. -/
def duration (K : AuraSlots) : UInt64 := K.minimumPeriodTimesTwo minimumPeriod

/-- The slot of a time. -/
def slotAt (K : AuraSlots) (now : Moment) : UInt64 := K.fromTimestamp now K.duration

theorem Lawful.duration_eq (hK : K.Lawful) : K.duration = slotDuration := by
  rw [duration, hK.minimumPeriodTimesTwo]
  decide

theorem Lawful.toNat_slotAt (hK : K.Lawful) (now : Moment) : (K.slotAt now).toNat = now.toNat / 6000 := by
  rw [slotAt, hK.duration_eq, hK.fromTimestamp now slotDuration (by decide), UInt64.toNat_div]
  rfl

theorem Lawful.lt_of_slotAt_lt (hK : K.Lawful) {now now' : Moment} (h : K.slotAt now < K.slotAt now') : now < now' := by
  rw [UInt64.lt_iff_toNat_lt] at h ⊢
  rw [hK.toNat_slotAt, hK.toNat_slotAt] at h
  by_contra hle
  have := Nat.div_le_div_right (c := 6000) (Nat.not_lt.mp hle)
  omega

end AuraSlots

/-! ### Slots in digests -/

theorem length_leBytes (k n : ℕ) : (leBytes k n).length = k := by
  induction k generalizing n with
  | zero => rfl
  | succ k ih => rw [leBytes, List.length_cons, ih]

theorem leNat_leBytes (k n : ℕ) : leNat (leBytes k n) = n % 256 ^ k := by
  induction k generalizing n with
  | zero => rw [pow_zero, Nat.mod_one]; rfl
  | succ k ih =>
    have hcons : leNat (leBytes (k + 1) n) = (UInt8.ofNat (n % 256)).toNat + 256 * leNat (leBytes k (n / 256)) := rfl
    have hbyte : (UInt8.ofNat (n % 256)).toNat = n % 256 := by
      rw [UInt8.toNat_ofNat', Nat.mod_eq_of_lt (by omega)]
    rw [hcons, hbyte, ih, pow_succ', Nat.mod_mul]

theorem leBytes_leNat (bytes : Bytes) : leBytes bytes.length (leNat bytes) = bytes := by
  induction bytes with
  | nil => rfl
  | cons b bytes ih =>
    have hcons : leNat (b :: bytes) = b.toNat + 256 * leNat bytes := rfl
    have hb : b.toNat < 256 := b.toNat_lt
    have hlow : leNat (b :: bytes) % 256 = b.toNat := by omega
    have hhigh : leNat (b :: bytes) / 256 = leNat bytes := by omega
    rw [List.length_cons, leBytes, hlow, hhigh, ih, UInt8.ofNat_toNat]

theorem AuraSlots.Lawful.leNat_encode (hK : K.Lawful) (slot : UInt64) : leNat (K.encode slot) = slot.toNat := by
  have hlt : slot.toNat < 256 ^ 8 := slot.toNat_lt
  rw [hK.encode, leNat_leBytes, Nat.mod_eq_of_lt hlt]

theorem slotOf_encode {A : Aura AuraId} (hA : DecodesSlot A) (hK : K.Lawful)
    {front : List (ConsensusEngineId × Bytes)} (hfront : ∀ entry ∈ front, entry.1 ≠ A.auraEngineId) (slot : UInt64)
    (tail : Bytes) (rest : List (ConsensusEngineId × Bytes)) :
    slotOf A (front ++ (A.auraEngineId, K.encode slot ++ tail) :: rest) = some slot := by
  have hlen : (K.encode slot).length = 8 := by rw [hK.encode, length_leBytes]
  have htake : (K.encode slot ++ tail).take 8 = K.encode slot := by
    rw [List.take_append_of_le_length (by omega), List.take_of_length_le (by omega)]
  rw [slotOf, firstAura_append A hfront, firstAura_cons_aura, Option.bind_some, hA, if_pos (by simp [hlen]), htake,
    hK.leNat_encode, UInt64.ofNat_toNat]

/-- **Slots round-trip through the digests.**  `find_author` decodes the slot that the author of a block
encoded, and picks the authority whose turn it is; and the bytes it decodes a slot from are the encoding of that
slot. -/
theorem findAuthor_of_slot (A : Aura AuraId) (hA : DecodesSlot A) (K : AuraSlots) (hK : K.Lawful)
    (authorities : BoundedVec AuraId maxAuthorities) (hne : 0 < authorities.toList.length) :
    (∀ (slot : UInt64) (front rest : List (ConsensusEngineId × Bytes)) (tail : Bytes),
      (∀ entry ∈ front, entry.1 ≠ A.auraEngineId) →
        findAuthor A authorities (front ++ (A.auraEngineId, K.encode slot ++ tail) :: rest) =
          some (A.accountFrom (authorities.toList.get ⟨slot.toNat % authorities.toList.length, Nat.mod_lt _ hne⟩))) ∧
    ∀ (data : Bytes) (slot : UInt64), A.slotDecode data = some slot → data.take 8 = K.encode slot := by
  constructor
  · -- what was encoded is decoded
    intro slot front rest tail hfront
    have hempty : ¬ authorities.toList.isEmpty = true := by
      rw [List.isEmpty_iff]
      exact List.length_pos_iff.mp hne
    rw [findAuthor_eq_bind, authorPosition, slotOf_encode hA hK hfront, Option.bind_some, if_neg hempty,
      Option.bind_some, accountAt_slot A hne]
  · -- what is decoded was encoded
    intro data slot hslot
    rw [hA, Option.ite_none_right_eq_some, Option.some_inj] at hslot
    obtain ⟨hlen, rfl⟩ := hslot
    have htake : (data.take 8).length = 8 := List.length_take_of_le hlen
    have hbytes := leBytes_leNat (data.take 8)
    rw [htake] at hbytes
    rw [hK.encode, toNat_slot hlen, hbytes]

/-- A foreign entry, and slot 5 with a byte after it. -/
theorem findAuthor_of_slot_five :
    findAuthor Aura.reference twoAuthorities
        ([(babeEngineId, [1])] ++ (Aura.reference.auraEngineId, AuraSlots.reference.encode 5 ++ [9]) :: []) = some 32 ∧
      ([5, 0, 0, 0, 0, 0, 0, 0, 9] : Bytes).take 8 = AuraSlots.reference.encode 5 := by
  have h := findAuthor_of_slot Aura.reference Aura.reference_decodesSlot AuraSlots.reference AuraSlots.reference_lawful
    twoAuthorities (by decide)
  have hforeign : ∀ entry ∈ [(babeEngineId, ([1] : Bytes))], entry.1 ≠ Aura.reference.auraEngineId := by decide
  exact ⟨h.1 5 [(babeEngineId, [1])] [] [9] hforeign, h.2 [5, 0, 0, 0, 0, 0, 0, 0, 9] 5 (by decide)⟩

/-! ### Chains of blocks -/

structure TimedBlock where
  timestamp : Moment
  digests : List (ConsensusEngineId × Bytes)

/-- What `pallet_aura` checks of the blocks of a chain, the earliest first: the slot of a block is the slot of
its timestamp, and slots increase (`AllowMultipleBlocksPerSlot` is `false`). -/
structure AuraChain (A : Aura AuraId) (K : AuraSlots) (blocks : List TimedBlock) : Prop where
  slot : ∀ b ∈ blocks, slotOf A b.digests = some (K.slotAt b.timestamp)
  increasing : blocks.Pairwise fun b b' => K.slotAt b.timestamp < K.slotAt b'.timestamp

namespace AuraChain

variable {A : Aura AuraId} {blocks : List TimedBlock}

theorem sublist (h : AuraChain A K blocks) {part : List TimedBlock} (hpart : part.Sublist blocks) :
    AuraChain A K part where
  slot b hb := h.slot b (hpart.subset hb)
  increasing := h.increasing.sublist hpart

theorem slots_increasing (h : AuraChain A K blocks) :
    (blocks.map fun b => (K.slotAt b.timestamp).toNat).Pairwise (· < ·) := by
  rw [List.pairwise_map]
  exact h.increasing.imp fun hlt => UInt64.lt_iff_toNat_lt.mp hlt

theorem timestamps_increasing (h : AuraChain A K blocks) (hK : K.Lawful) :
    blocks.Pairwise fun b b' => b.timestamp.toNat ≤ b'.timestamp.toNat := by
  refine h.increasing.imp fun hlt => ?_
  exact (UInt64.lt_iff_toNat_lt.mp (hK.lt_of_slotAt_lt hlt)).le

theorem slots_in_window (hK : K.Lawful) {t d : ℕ}
    (htime : ∀ b ∈ blocks, t ≤ b.timestamp.toNat ∧ b.timestamp.toNat < t + d) :
    ∀ slot ∈ blocks.map fun b => (K.slotAt b.timestamp).toNat,
      t / 6000 ≤ slot ∧ slot < t / 6000 + (d ⌈/⌉ 6000 + 1) := by
  intro slot hslot
  obtain ⟨b, hb, rfl⟩ := List.mem_map.mp hslot
  obtain ⟨hlo, hhi⟩ := htime b hb
  rw [hK.toNat_slotAt]
  exact ⟨Nat.div_le_div_right hlo, div_lt_of_lt_add (by decide) hhi⟩

/-- **Blocks are at least a slot apart**: so many fit into a stretch of time. -/
theorem length_le (h : AuraChain A K blocks) (hK : K.Lawful) {t d : ℕ}
    (htime : ∀ b ∈ blocks, t ≤ b.timestamp.toNat ∧ b.timestamp.toNat < t + d) : blocks.length ≤ d ⌈/⌉ 6000 + 1 := by
  have hle := length_le_window h.slots_increasing (slots_in_window hK htime)
  rwa [List.length_map] at hle

theorem author (h : AuraChain A K blocks) {authorities : BoundedVec AuraId maxAuthorities}
    (hne : authorities.toList ≠ []) {b : TimedBlock} (hb : b ∈ blocks) : findAuthor A authorities b.digests =
      accountAt A authorities ((K.slotAt b.timestamp).toNat % authorities.toList.length) := by
  have hempty : ¬ authorities.toList.isEmpty = true := by
    rw [List.isEmpty_iff]
    exact hne
  rw [findAuthor_eq_bind, authorPosition, h.slot b hb, Option.bind_some, if_neg hempty, Option.bind_some]

end AuraChain

/-- A block that an authority of the node makes at a time: the slot of its digest is computed from its timestamp. -/
def sealBlock (A : Aura AuraId) (K : AuraSlots) (now : Moment) : TimedBlock where
  timestamp := now
  digests := [(A.auraEngineId, K.encode (K.slotAt now))]

theorem auraChain_sealBlock {A : Aura AuraId} (hA : DecodesSlot A) (hK : K.Lawful) {times : List Moment}
    (h : times.Pairwise fun t t' => K.slotAt t < K.slotAt t') : AuraChain A K (times.map (sealBlock A K)) where
  slot b hb := by
    obtain ⟨now, -, rfl⟩ := List.mem_map.mp hb
    have hnil : ∀ entry ∈ ([] : List (ConsensusEngineId × Bytes)), entry.1 ≠ A.auraEngineId := by simp
    have hslot := slotOf_encode hA hK hnil (K.slotAt now) [] []
    rwa [List.append_nil, List.nil_append] at hslot
  increasing := List.pairwise_map.mpr h

/-- Three blocks; the slot of the second authority goes by without one. -/
def skippedBlocks : List TimedBlock := [12000, 24500, 36001].map (sealBlock Aura.reference AuraSlots.reference)

theorem skippedBlocks_chain : AuraChain Aura.reference AuraSlots.reference skippedBlocks :=
  auraChain_sealBlock Aura.reference_decodesSlot AuraSlots.reference_lawful (by decide)

/-- **No account exceeds its share.**  In a stretch of `d` milliseconds of a chain, an account with `m` of the
`n` seats authors at most its share of the slots that the stretch meets, whichever authorities skip theirs. -/
theorem no_account_exceeds_its_share (A : Aura AuraId) (K : AuraSlots) (hK : K.Lawful)
    (authorities : BoundedVec AuraId maxAuthorities) (hne : authorities.toList ≠ []) (blocks : List TimedBlock)
    (h : AuraChain A K blocks) (t d : ℕ)
    (htime : ∀ b ∈ blocks, t ≤ b.timestamp.toNat ∧ b.timestamp.toNat < t + d) (account : AccountId) :
    let n := authorities.toList.length
    let m := authorities.toList.countP fun authority => A.accountFrom authority = account
    blocks.countP (fun b => findAuthor A authorities b.digests = some account) ≤ (d ⌈/⌉ 6000 + 1) ⌈/⌉ n * m := by
  intro n m
  have hpos : 0 < n := List.length_pos_iff.mpr hne
  have hcount : blocks.countP (fun b => findAuthor A authorities b.digests = some account) =
      (blocks.map fun b => (K.slotAt b.timestamp).toNat).countP (AtSeat A authorities account) := by
    rw [List.countP_map]
    refine List.countP_congr fun b hb => ?_
    simp only [h.author hne hb, Function.comp, decide_eq_true_eq]
    rfl
  have hseats : Nat.count (AtSeat A authorities account) n = m := AtSeat.count hne account
  rw [hcount, ← hseats]
  exact window_share (AtSeat.periodic account) hpos h.slots_increasing (AuraChain.slots_in_window hK htime)

theorem no_account_exceeds_its_share_skipped :
    skippedBlocks.countP (fun b => findAuthor Aura.reference twoAuthorities b.digests = some 31) ≤
      (24002 ⌈/⌉ 6000 + 1) ⌈/⌉ 2 * twoAuthorities.toList.countP fun authority => authority = 31 :=
  no_account_exceeds_its_share Aura.reference AuraSlots.reference AuraSlots.reference_lawful twoAuthorities (by decide)
    skippedBlocks skippedBlocks_chain 12000 24002 (by decide) 31

/-! ### Names along a chain -/

section Names

variable (A : Aura AuraId) (st : Storage RT) (node : DomainHash)

/-- **A name is shown in one stretch of a chain.**  While the rows stand, the blocks of a chain fall into three
parts: in the first and the last the name is silent, in the middle it shows one record; and the middle is no
longer than the blocks that fit between the bounds of its visibility. -/
theorem visibility_along_chain (hK : K.Lawful) (blocks : List TimedBlock) (h : AuraChain A K blocks) :
    ∃ before during after, blocks = before ++ during ++ after ∧
      (∀ b ∈ before, getInfo (st.withNow b.timestamp) node = none) ∧
      (∀ b ∈ during, getInfo (st.withNow b.timestamp) node = shownRecord st node ∧ (shownRecord st node).isSome = true) ∧
      (∀ b ∈ after, getInfo (st.withNow b.timestamp) node = none) ∧
      during.length ≤ (visibleUntil st node - visibleFrom st node) ⌈/⌉ 6000 + 1 := by
  have hanswers : AnswersDuring (fun b : TimedBlock => b.timestamp.toNat)
      (fun b => getInfo (st.withNow b.timestamp) node) (visibleFrom st node) (visibleUntil st node) :=
    AnswersDuring.of_ite (fun b => getInfo_withNow st node b.timestamp) (shownRecord_isSome st node)
  obtain ⟨before, during, after, rfl, hbefore, hduring, hafter⟩ := hanswers.split (h.timestamps_increasing hK)
  have hpart : during.Sublist (before ++ during ++ after) :=
    (List.sublist_append_right before during).trans (List.sublist_append_left _ after)
  have hshown : ∀ b ∈ during, visibleFrom st node ≤ b.timestamp.toNat ∧ b.timestamp.toNat < visibleUntil st node :=
    fun b hb => (hanswers.isSome_iff b).mp (hduring b hb)
  refine ⟨before, during, after, rfl, hbefore, fun b hb => ?_, hafter, ?_⟩
  · -- inside the interval the answer is the shown record
    have hb' := hshown b hb
    rw [getInfo_withNow, if_pos hb']
    exact ⟨rfl, shownRecord_isSome st node (by omega)⟩
  · -- the middle blocks are a stretch of the chain
    refine (h.sublist hpart).length_le hK (t := visibleFrom st node) fun b hb => ?_
    have hb' := hshown b hb
    omega

/-- **An offer hides a name for the offer window**, counted in blocks: `90 * DAYS` of them, plus the one it
starts in. -/
theorem offer_hides_at_most_window (offer : OfferedName) (hoffer : st.offeredNames node = some offer)
    (hK : K.Lawful) (blocks : List TimedBlock) (h : AuraChain A K blocks)
    (hstart : ∀ b ∈ blocks, offer.offeredAt ≤ b.timestamp) :
    (blocks.filter fun b => OfferLive (st.withNow b.timestamp) node).length ≤ 90 * days.toNat + 1 := by
  have hwindow : offerWindow.toNat ⌈/⌉ 6000 = 90 * days.toNat := by decide
  rw [← hwindow]
  refine (h.sublist List.filter_sublist).length_le hK (t := offer.offeredAt.toNat) fun b hb => ?_
  obtain ⟨hb, hlive⟩ := List.mem_filter.mp hb
  have hlt := (offerLive_withNow_iff st node b.timestamp).mp (of_decide_eq_true hlive)
  rw [visibleFrom, hoffer] at hlt
  exact ⟨UInt64.le_iff_toNat_le.mp (hstart b hb), hlt.trans_le (min_le_left _ _)⟩

end Names

theorem visibility_along_chain_gift :
    ∃ before during after, skippedBlocks = before ++ during ++ after ∧
      (∀ b ∈ before, getInfo ((giftStorage 36000 3).withNow b.timestamp) giftNode = none) ∧
      (∀ b ∈ during, getInfo ((giftStorage 36000 3).withNow b.timestamp) giftNode =
        shownRecord (giftStorage 36000 3) giftNode ∧ (shownRecord (giftStorage 36000 3) giftNode).isSome = true) ∧
      (∀ b ∈ after, getInfo ((giftStorage 36000 3).withNow b.timestamp) giftNode = none) ∧
      during.length ≤
        (visibleUntil (giftStorage 36000 3) giftNode - visibleFrom (giftStorage 36000 3) giftNode) ⌈/⌉ 6000 + 1 :=
  visibility_along_chain Aura.reference (giftStorage 36000 3) giftNode AuraSlots.reference_lawful skippedBlocks
    skippedBlocks_chain

theorem offer_hides_at_most_window_sold :
    (skippedBlocks.filter fun b => OfferLive (soldStorage.withNow b.timestamp) giftNode).length ≤
      90 * days.toNat + 1 :=
  offer_hides_at_most_window Aura.reference soldStorage giftNode ⟨2⟩ (by simp [soldStorage]) AuraSlots.reference_lawful
    skippedBlocks skippedBlocks_chain (by decide)

end PaseoNode.Runtime
