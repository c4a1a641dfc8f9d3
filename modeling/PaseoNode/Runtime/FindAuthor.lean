import PaseoNode.Runtime.Author

/-!
# The author that `find_author` picks

The first Aura digest of a block decides (`findAuthor_eq_bind`): it selects a position in the authority list
(`authorPosition`), and the author is the account of the authority there.  `findAuthor_first_aura` says when there is an
author and which one, and that no other entry of the digests matters.

`findAuthorChecked` is the same loop with the two steps that could go wrong, the division and the index, made to fail.
-/

namespace PaseoNode.Runtime

open PaseoNode.Lib

variable {AuraId : Type}

/-! ### Little-endian slots -/

/-- The number that bytes spell, least significant first. -/
def leNat (bytes : Bytes) : ℕ := bytes.foldr (fun b n => b.toNat + 256 * n) 0

theorem leNat_lt (bytes : Bytes) : leNat bytes < 256 ^ bytes.length := by
  induction bytes with
  | nil => simp [leNat]
  | cons b bytes ih =>
    have hb : b.toNat < 256 := b.toNat_lt
    have hcons : leNat (b :: bytes) = b.toNat + 256 * leNat bytes := rfl
    rw [hcons, List.length_cons, pow_succ]
    omega

/-- `Slot` decodes as a SCALE `u64`: eight bytes, little-endian, whatever follows them. -/
def DecodesSlot (A : Aura AuraId) : Prop :=
  ∀ data, A.slotDecode data = if 8 ≤ data.length then some (UInt64.ofNat (leNat (data.take 8))) else none

theorem Aura.reference_decodesSlot : DecodesSlot Aura.reference := fun _ => rfl

theorem toNat_slot {data : Bytes} (h : 8 ≤ data.length) :
    (UInt64.ofNat (leNat (data.take 8))).toNat = leNat (data.take 8) := by
  have hlen : (data.take 8).length = 8 := List.length_take_of_le h
  have hlt := leNat_lt (data.take 8)
  rw [hlen] at hlt
  rw [UInt64.toNat_ofNat', Nat.mod_eq_of_lt (by omega)]

/-! ### The authorities -/

section Authorities

variable (authorities : BoundedVec AuraId maxAuthorities)

theorem BoundedVec.length_le_32 : authorities.toList.length ≤ 32 := authorities.length_le

theorem toNat_length : (UInt64.ofNat authorities.toList.length).toNat = authorities.toList.length := by
  have := authorities.length_le_32
  rw [UInt64.toNat_ofNat', Nat.mod_eq_of_lt (by omega)]

theorem toNat_slot_mod (slot : UInt64) :
    (slot % UInt64.ofNat authorities.toList.length).toNat = slot.toNat % authorities.toList.length := by
  rw [UInt64.toNat_mod, toNat_length]

variable {authorities}

theorem slot_mod_lt (h : authorities.toList ≠ []) (slot : UInt64) :
    slot.toNat % authorities.toList.length < authorities.toList.length :=
  Nat.mod_lt _ (List.length_pos_iff.mpr h)

end Authorities

/-! ### The first Aura digest -/

section First

variable (A : Aura AuraId) (authorities : BoundedVec AuraId maxAuthorities)

/-- The bytes of the first entry with the Aura engine id. -/
def firstAura (digests : List (ConsensusEngineId × Bytes)) : Option Bytes :=
  (digests.find? fun entry => entry.1 = A.auraEngineId).map Prod.snd

/-- The slot that the first Aura digest carries. -/
def slotOf (digests : List (ConsensusEngineId × Bytes)) : Option UInt64 := (firstAura A digests).bind A.slotDecode

/-- The position in the authority list that the digests select. -/
def authorPosition (digests : List (ConsensusEngineId × Bytes)) : Option ℕ :=
  (slotOf A digests).bind fun slot =>
    if authorities.toList.isEmpty then none else some (slot.toNat % authorities.toList.length)

/-- The account of the authority at a position. -/
def accountAt (p : ℕ) : Option AccountId := authorities.toList[p]?.map A.accountFrom

theorem firstAura_cons_aura (data : Bytes) (digests : List (ConsensusEngineId × Bytes)) :
    firstAura A ((A.auraEngineId, data) :: digests) = some data := by
  simp [firstAura]

theorem firstAura_cons_foreign {engine : ConsensusEngineId} (h : engine ≠ A.auraEngineId) (data : Bytes)
    (digests : List (ConsensusEngineId × Bytes)) : firstAura A ((engine, data) :: digests) = firstAura A digests := by
  simp [firstAura, h]

theorem firstAura_append {front : List (ConsensusEngineId × Bytes)} (h : ∀ entry ∈ front, entry.1 ≠ A.auraEngineId)
    (digests : List (ConsensusEngineId × Bytes)) : firstAura A (front ++ digests) = firstAura A digests := by
  induction front with
  | nil => rfl
  | cons entry front ih =>
    rw [List.cons_append, firstAura_cons_foreign A (h entry List.mem_cons_self)]
    exact ih fun e he => h e (List.mem_cons_of_mem _ he)

theorem firstAura_filter (digests : List (ConsensusEngineId × Bytes)) :
    firstAura A (digests.filter fun entry => entry.1 = A.auraEngineId) = firstAura A digests := by
  simp [firstAura, List.find?_filter]

/-- **The first Aura digest decides**: the author is the account at the position it selects. -/
theorem findAuthor_eq_bind (digests : List (ConsensusEngineId × Bytes)) :
    findAuthor A authorities digests = (authorPosition A authorities digests).bind (accountAt A authorities) := by
  induction digests with
  | nil => rfl
  | cons entry digests ih =>
    obtain ⟨engine, data⟩ := entry
    unfold findAuthor
    by_cases hengine : engine = A.auraEngineId
    · subst hengine
      rw [if_pos rfl, authorPosition, slotOf, firstAura_cons_aura, Option.bind_some]
      cases A.slotDecode data with
      -- a digest that does not decode ends the search
      | none => rfl
      | some slot =>
        by_cases hempty : authorities.toList.isEmpty = true
        · simp [hempty]
        · simp only [hempty, toNat_slot_mod, accountAt, Option.bind_some, Bool.false_eq_true, if_false]
          cases hauthority : authorities.toList[slot.toNat % authorities.toList.length]? <;> simp [hauthority]
    · rw [if_neg hengine, ih, authorPosition, authorPosition, slotOf, slotOf, firstAura_cons_foreign A hengine]

theorem findAuthor_congr {digests digests' : List (ConsensusEngineId × Bytes)}
    (h : firstAura A digests = firstAura A digests') :
    findAuthor A authorities digests = findAuthor A authorities digests' := by
  simp only [findAuthor_eq_bind, authorPosition, slotOf, h]

theorem accountAt_slot {authorities : BoundedVec AuraId maxAuthorities} (h : 0 < authorities.toList.length)
    (slot : ℕ) : accountAt A authorities (slot % authorities.toList.length) =
      some (A.accountFrom (authorities.toList.get ⟨slot % authorities.toList.length, Nat.mod_lt _ h⟩)) := by
  rw [accountAt, List.getElem?_eq_getElem (Nat.mod_lt _ h)]
  rfl

variable {A authorities} in
/-- Digests select a position exactly when the first Aura digest is long enough and there is an authority. -/
theorem authorPosition_eq_some_iff (hA : DecodesSlot A) {digests : List (ConsensusEngineId × Bytes)} {p : ℕ} :
    authorPosition A authorities digests = some p ↔ ∃ d, firstAura A digests = some d ∧ 8 ≤ d.length ∧
      0 < authorities.toList.length ∧ leNat (d.take 8) % authorities.toList.length = p := by
  unfold authorPosition slotOf
  simp only [Option.bind_eq_some_iff, Option.ite_none_left_eq_some, hA _, Option.ite_none_right_eq_some,
    Option.some_inj, List.isEmpty_iff, ← ne_eq, ← List.length_pos_iff]
  constructor
  · rintro ⟨slot, ⟨d, hd, hlen, rfl⟩, hpos, rfl⟩
    exact ⟨d, hd, hlen, hpos, by rw [toNat_slot hlen]⟩
  · rintro ⟨d, hd, hlen, hpos, rfl⟩
    exact ⟨_, ⟨d, hd, hlen, rfl⟩, hpos, by rw [toNat_slot hlen]⟩

end First

/-! ### Division and index -/

/-- What could go wrong in the arithmetic of `find_author`. -/
inductive Fault where
  | divisionByZero
  | indexOutOfRange
  deriving DecidableEq

/-- `a % b` on `u64`. -/
def checkedRem (a b : UInt64) : Except Fault UInt64 :=
  if b = 0 then .error .divisionByZero else .ok (a % b)

/-- `find_author` with faults.  The `usize` of the index is the 32-bit one of the runtime. -/
def findAuthorChecked (A : Aura AuraId) (authorities : BoundedVec AuraId maxAuthorities) :
    List (ConsensusEngineId × Bytes) → Except Fault (Option AccountId)
  | [] => .ok none
  | (engine, data) :: digests =>
    if engine = A.auraEngineId then
      match A.slotDecode data with
      | none => .ok none
      | some slot =>
        if authorities.toList.isEmpty then
          .ok none
        else
          match checkedRem slot (UInt64.ofNat authorities.toList.length) with
          | .error fault => .error fault
          | .ok idx =>
            match authorities.toList[idx.toUInt32.toNat]? with
            | none => .error .indexOutOfRange
            | some authority => .ok (some (A.accountFrom authority))
    else
      findAuthorChecked A authorities digests

section Checked

variable (A : Aura AuraId) (authorities : BoundedVec AuraId maxAuthorities)

variable {authorities} in
theorem checkedRem_length (h : authorities.toList ≠ []) (slot : UInt64) :
    checkedRem slot (UInt64.ofNat authorities.toList.length) =
      .ok (slot % UInt64.ofNat authorities.toList.length) := by
  have hpos : 0 < authorities.toList.length := List.length_pos_iff.mpr h
  have hne : UInt64.ofNat authorities.toList.length ≠ 0 := by
    intro hzero
    have := congrArg UInt64.toNat hzero
    rw [toNat_length] at this
    exact absurd this (by simpa using h)
  rw [checkedRem, if_neg hne]

variable {authorities} in
theorem toNat_index (h : authorities.toList ≠ []) (slot : UInt64) :
    (slot % UInt64.ofNat authorities.toList.length).toUInt32.toNat = slot.toNat % authorities.toList.length := by
  have hlt := slot_mod_lt h slot
  have hle := authorities.length_le_32
  rw [UInt64.toNat_toUInt32, toNat_slot_mod, Nat.mod_eq_of_lt (by omega)]

/-- **Neither the division nor the index fails.** -/
theorem findAuthorChecked_eq (digests : List (ConsensusEngineId × Bytes)) :
    findAuthorChecked A authorities digests = .ok (findAuthor A authorities digests) := by
  induction digests with
  | nil => rfl
  | cons entry digests ih =>
    obtain ⟨engine, data⟩ := entry
    by_cases hengine : engine = A.auraEngineId
    · subst hengine
      rw [findAuthor_eq_bind, authorPosition, slotOf, firstAura_cons_aura, Option.bind_some, findAuthorChecked,
        if_pos rfl]
      cases A.slotDecode data with
      | none => rfl
      | some slot =>
        by_cases hempty : authorities.toList = []
        · simp [hempty]
        · -- the divisor is not zero, and the remainder is an index
          have hpos : 0 < authorities.toList.length := List.length_pos_iff.mpr hempty
          have hlt := slot_mod_lt hempty slot
          simp only [List.isEmpty_iff, hempty, if_false, checkedRem_length hempty, toNat_index hempty,
            Option.bind_some, accountAt_slot A hpos, List.getElem?_eq_getElem hlt]
          rfl
    · rw [findAuthorChecked, findAuthor, if_neg hengine, if_neg hengine, ih]

end Checked

/-! ### Which author -/

/-- **`find_author` picks the author of the first Aura digest and nothing else.**  There is an author exactly when a first
Aura digest of at least eight bytes meets a non-empty authority list, and it is the one its slot selects; entries of other
engines and entries after the first Aura digest do not matter, a malformed first Aura digest is not skipped, and no step
fails. -/
theorem findAuthor_first_aura (A : Aura AuraId) (hA : DecodesSlot A) (authorities : BoundedVec AuraId maxAuthorities) :
    (∀ digests a, findAuthor A authorities digests = some a ↔
      ∃ d, firstAura A digests = some d ∧ 8 ≤ d.length ∧ ∃ h : 0 < authorities.toList.length,
        a = A.accountFrom (authorities.toList.get ⟨leNat (d.take 8) % authorities.toList.length, Nat.mod_lt _ h⟩)) ∧
    (∀ digests digests' : List (ConsensusEngineId × Bytes),
      (digests.filter fun entry => entry.1 = A.auraEngineId) =
        (digests'.filter fun entry => entry.1 = A.auraEngineId) →
      findAuthor A authorities digests = findAuthor A authorities digests') ∧
    (∀ front d rest rest', (∀ entry ∈ front, entry.1 ≠ A.auraEngineId) →
      findAuthor A authorities (front ++ (A.auraEngineId, d) :: rest) =
        findAuthor A authorities (front ++ (A.auraEngineId, d) :: rest')) ∧
    (∀ front d rest, (∀ entry ∈ front, entry.1 ≠ A.auraEngineId) → d.length < 8 →
      findAuthor A authorities (front ++ (A.auraEngineId, d) :: rest) = none) ∧
    ∀ digests, findAuthorChecked A authorities digests = .ok (findAuthor A authorities digests) := by
  refine ⟨fun digests a => ?_, fun digests digests' h => ?_, fun front d rest rest' h => ?_, fun front d rest h hd => ?_,
    findAuthorChecked_eq A authorities⟩
  · -- which author
    rw [findAuthor_eq_bind, Option.bind_eq_some_iff]
    constructor
    · rintro ⟨p, hp, ha⟩
      obtain ⟨d, hd, hlen, hpos, rfl⟩ := (authorPosition_eq_some_iff hA).mp hp
      rw [accountAt_slot A hpos, Option.some_inj] at ha
      exact ⟨d, hd, hlen, hpos, ha.symm⟩
    · rintro ⟨d, hd, hlen, hpos, rfl⟩
      have hp := (authorPosition_eq_some_iff hA).mpr ⟨d, hd, hlen, hpos, rfl⟩
      exact ⟨_, hp, accountAt_slot A hpos _⟩
  · -- entries of other engines
    apply findAuthor_congr
    rw [← firstAura_filter, h, firstAura_filter]
  · -- entries after the first Aura digest
    apply findAuthor_congr
    rw [firstAura_append A h, firstAura_append A h, firstAura_cons_aura, firstAura_cons_aura]
  · -- a malformed first Aura digest
    have hfirst : firstAura A (front ++ (A.auraEngineId, d) :: rest) = some d := by
      rw [firstAura_append A h, firstAura_cons_aura]
    rw [findAuthor_eq_bind, authorPosition, slotOf, hfirst, Option.bind_some, hA, if_neg (by omega)]
    rfl

/-- `b"BABE"` -/
def babeEngineId : ConsensusEngineId := ⟨#[66, 65, 66, 69], rfl⟩

/-- A foreign entry and a second Aura digest around slot 5, and around a digest that is too short. -/
theorem findAuthor_first_aura_mixed :
    findAuthor Aura.reference ⟨[11, 12], by decide⟩
      [(babeEngineId, [1]), (Aura.reference.auraEngineId, [5, 0, 0, 0, 0, 0, 0, 0, 9]),
        (Aura.reference.auraEngineId, [])] = some 12 ∧
    findAuthor Aura.reference ⟨[11, 12], by decide⟩
      [(babeEngineId, [1]), (Aura.reference.auraEngineId, [5]),
        (Aura.reference.auraEngineId, [5, 0, 0, 0, 0, 0, 0, 0])] = none := by
  have h := findAuthor_first_aura Aura.reference Aura.reference_decodesSlot ⟨[11, 12], by decide⟩
  obtain ⟨hpick, -, -, hshort, -⟩ := h
  have hforeign : ∀ entry ∈ [(babeEngineId, ([1] : Bytes))], entry.1 ≠ Aura.reference.auraEngineId := by decide
  refine ⟨?_, hshort [(babeEngineId, [1])] [5] _ hforeign (by decide)⟩
  rw [hpick]
  exact ⟨[5, 0, 0, 0, 0, 0, 0, 0, 9], by decide, by decide, by decide, by decide⟩

end PaseoNode.Runtime
