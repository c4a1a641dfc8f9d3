import PaseoNode.Lib.RoundRobin
import PaseoNode.Runtime.FindAuthor

/-!
# The rotation of the authors

While the authority list stays the same, blocks of consecutive slots select its positions in turn: every position is
selected for `k / n` to `k ⌈/⌉ n` of `k` blocks, where `n` is the number of authorities (`authors_rotate_fairly`).
-/

namespace PaseoNode.Runtime

open PaseoNode.Lib

variable {AuraId : Type}

/-- The blocks carry the consecutive slots from `s` on in their Aura digests. -/
def CarriesSlots (A : Aura AuraId) (s : ℕ) (blocks : List (List (ConsensusEngineId × Bytes))) : Prop :=
  ∀ (i : ℕ) (h : i < blocks.length), slotOf A blocks[i] = some (UInt64.ofNat (s + i))

section Window

variable {A : Aura AuraId} {authorities : BoundedVec AuraId maxAuthorities} {s : ℕ}
  {blocks : List (List (ConsensusEngineId × Bytes))}

theorem CarriesSlots.position (h : CarriesSlots A s blocks) (hne : authorities.toList ≠ [])
    (hs : s + blocks.length ≤ 2 ^ 64) {i : ℕ} (hi : i < blocks.length) :
    authorPosition A authorities blocks[i] = some ((s + i) % authorities.toList.length) := by
  have hslot : (UInt64.ofNat (s + i)).toNat = s + i := by
    rw [UInt64.toNat_ofNat', Nat.mod_eq_of_lt (by omega)]
  rw [authorPosition, h i hi, Option.bind_some, if_neg (by simpa using hne), hslot]

theorem CarriesSlots.positions (h : CarriesSlots A s blocks) (hne : authorities.toList ≠ [])
    (hs : s + blocks.length ≤ 2 ^ 64) : blocks.map (authorPosition A authorities) =
      (List.range' s blocks.length).map fun t => some (t % authorities.toList.length) := by
  apply List.ext_getElem
  · simp
  · intro i hi _
    rw [List.length_map] at hi
    simp [h.position hne hs hi]

theorem CarriesSlots.window {front window back : List (List (ConsensusEngineId × Bytes))}
    (h : CarriesSlots A s (front ++ window ++ back)) : CarriesSlots A (s + front.length) window := by
  intro i hi
  have hlen : front.length + i < (front ++ window ++ back).length := by
    simp only [List.length_append]
    omega
  have hslot := h (front.length + i) hlen
  have hget : (front ++ window ++ back)[front.length + i] = window[i] := by
    rw [List.getElem_append_left (by simp only [List.length_append]; omega),
      List.getElem_append_right (Nat.le_add_right _ _)]
    simp
  rw [hget] at hslot
  rw [hslot, Nat.add_assoc]

theorem CarriesSlots.authors (h : CarriesSlots A s blocks) (hne : authorities.toList ≠ [])
    (hs : s + blocks.length ≤ 2 ^ 64) : blocks.map (findAuthor A authorities) =
      (List.range' s blocks.length).map fun t => accountAt A authorities (t % authorities.toList.length) := by
  apply List.ext_getElem
  · simp
  · intro i hi _
    rw [List.length_map] at hi
    rw [List.getElem_map, findAuthor_eq_bind, h.position hne hs hi, Option.bind_some]
    simp

theorem periodic_mod_eq (n p : ℕ) : Function.Periodic (fun t => t % n = p) n := by
  intro t
  simp

/-- **Every position is selected for its share of the blocks.** -/
theorem CarriesSlots.position_fair (h : CarriesSlots A s blocks) (hne : authorities.toList ≠ [])
    (hs : s + blocks.length ≤ 2 ^ 64) {p : ℕ} (hp : p < authorities.toList.length) :
    blocks.length / authorities.toList.length ≤
        blocks.countP (fun digests => authorPosition A authorities digests = some p) ∧
      blocks.countP (fun digests => authorPosition A authorities digests = some p) ≤
        blocks.length ⌈/⌉ authorities.toList.length := by
  have hpos : 0 < authorities.toList.length := List.length_pos_iff.mpr hne
  have hcount : blocks.countP (fun digests => authorPosition A authorities digests = some p) =
      (List.range' s blocks.length).countP fun t => some (t % authorities.toList.length) = some p :=
    countP_of_map_eq (h.positions hne hs) fun x => x = some p
  have hfair := window_fair (periodic_mod_eq authorities.toList.length p) hpos s blocks.length
  rw [count_mod_eq hp, mul_one, mul_one] at hfair
  rw [hcount]
  simpa only [Option.some_inj] using hfair

theorem map_accountAt_range (hne : authorities.toList ≠ []) :
    (List.range authorities.toList.length).map (fun t => accountAt A authorities (t % authorities.toList.length)) =
      authorities.toList.map fun authority => some (A.accountFrom authority) := by
  have hpos : 0 < authorities.toList.length := List.length_pos_iff.mpr hne
  apply List.ext_getElem
  · simp
  · intro t ht _
    rw [List.length_map, List.length_range] at ht
    have hmod : t % authorities.toList.length = t := Nat.mod_eq_of_lt ht
    simp [accountAt_slot A hpos, hmod]

/-- The seat of the slot is one of the account's. -/
def AtSeat (A : Aura AuraId) (authorities : BoundedVec AuraId maxAuthorities) (account : AccountId) (slot : ℕ) : Prop :=
  accountAt A authorities (slot % authorities.toList.length) = some account

instance (account : AccountId) : DecidablePred (AtSeat A authorities account) :=
  fun slot => inferInstanceAs (Decidable (accountAt A authorities (slot % authorities.toList.length) = some account))

theorem AtSeat.periodic (account : AccountId) :
    Function.Periodic (AtSeat A authorities account) authorities.toList.length := by
  intro slot
  simp [AtSeat]

/-- In a period the account has the seats it has in the authority list. -/
theorem AtSeat.count (hne : authorities.toList ≠ []) (account : AccountId) :
    Nat.count (AtSeat A authorities account) authorities.toList.length =
      authorities.toList.countP fun authority => A.accountFrom authority = account := by
  have hlist := countP_of_map_eq (map_accountAt_range (A := A) hne) fun x => x = some account
  simp only [Option.some_inj] at hlist
  exact hlist

/-- **Every account has its share of the blocks**: an account that holds `m` positions of the authority list is the author
of at least `k / n * m` and at most `k ⌈/⌉ n * m` of `k` blocks of consecutive slots. -/
theorem CarriesSlots.account_fair (h : CarriesSlots A s blocks) (hne : authorities.toList ≠ [])
    (hs : s + blocks.length ≤ 2 ^ 64) (account : AccountId) :
    let n := authorities.toList.length
    let m := authorities.toList.countP fun authority => A.accountFrom authority = account
    blocks.length / n * m ≤ blocks.countP (fun digests => findAuthor A authorities digests = some account) ∧
      blocks.countP (fun digests => findAuthor A authorities digests = some account) ≤ blocks.length ⌈/⌉ n * m := by
  intro n m
  have hpos : 0 < n := List.length_pos_iff.mpr hne
  have hcount : blocks.countP (fun digests => findAuthor A authorities digests = some account) =
      (List.range' s blocks.length).countP (AtSeat A authorities account) :=
    countP_of_map_eq (h.authors hne hs) fun x => x = some account
  have hseats : Nat.count (AtSeat A authorities account) n = m := AtSeat.count hne account
  rw [hcount, ← hseats]
  exact window_fair (AtSeat.periodic account) hpos s blocks.length

end Window

/-- **Author rewards rotate fairly.**  While the authority list stays the same, each of its `n` positions is the one that
`find_author` selects for at least `k / n` and at most `k ⌈/⌉ n` of `k` blocks of consecutive slots, and for exactly one of
any `n` blocks in a row. -/
theorem authors_rotate_fairly (A : Aura AuraId) (authorities : BoundedVec AuraId maxAuthorities)
    (hne : authorities.toList ≠ []) (s : ℕ) (blocks : List (List (ConsensusEngineId × Bytes)))
    (hs : s + blocks.length ≤ 2 ^ 64) (hslots : CarriesSlots A s blocks) :
    let n := authorities.toList.length
    (∀ digests ∈ blocks, ∃ p, ∃ hp : p < n, authorPosition A authorities digests = some p ∧
      findAuthor A authorities digests = some (A.accountFrom (authorities.toList.get ⟨p, hp⟩))) ∧
    (∀ p < n, blocks.length / n ≤ blocks.countP (fun digests => authorPosition A authorities digests = some p) ∧
      blocks.countP (fun digests => authorPosition A authorities digests = some p) ≤ blocks.length ⌈/⌉ n) ∧
    ∀ front window back, blocks = front ++ window ++ back → window.length = n →
      ∀ p < n, window.countP (fun digests => authorPosition A authorities digests = some p) = 1 := by
  intro n
  have hpos : 0 < n := List.length_pos_iff.mpr hne
  refine ⟨fun digests hmem => ?_, fun p hp => hslots.position_fair hne hs hp, ?_⟩
  · -- the position of a block, and its author
    obtain ⟨i, hi, rfl⟩ := List.getElem_of_mem hmem
    have hposition : authorPosition A authorities blocks[i] = some ((s + i) % n) := hslots.position hne hs hi
    refine ⟨(s + i) % n, Nat.mod_lt _ hpos, hposition, ?_⟩
    rw [findAuthor_eq_bind, hposition]
    exact accountAt_slot A hpos (s + i)
  · -- a window of one period, where both bounds are 1
    rintro front window back rfl hlen p hp
    have hwindow : CarriesSlots A (s + front.length) window := hslots.window
    have hbound : s + front.length + window.length ≤ 2 ^ 64 := by
      simp only [List.length_append] at hs
      omega
    have hfair := hwindow.position_fair hne hbound hp
    have hceil : n ⌈/⌉ n = 1 := by
      rw [Nat.ceilDiv_eq_add_pred_div]
      exact Nat.div_eq_of_lt_le (by omega) (by omega)
    rw [hlen, Nat.div_self hpos, hceil] at hfair
    omega

/-- Blocks of the last three slots there are. -/
def lastBlocks : List (List (ConsensusEngineId × Bytes)) :=
  [253, 254, 255].map fun b => [(Aura.reference.auraEngineId, [b, 255, 255, 255, 255, 255, 255, 255])]

def twoAuthorities : BoundedVec (BitVec 256) maxAuthorities := ⟨[31, 32], by decide⟩

theorem carriesSlots_lastBlocks : CarriesSlots Aura.reference (2 ^ 64 - 3) lastBlocks := by
  intro i hi
  have hlt : i < 3 := hi
  interval_cases i <;> rfl

theorem authors_rotate_fairly_lastBlocks :
    CarriesSlots Aura.reference (2 ^ 64 - 3) lastBlocks ∧
    ∀ p < 2, 1 ≤ lastBlocks.countP (fun digests => authorPosition Aura.reference twoAuthorities digests = some p) ∧
      lastBlocks.countP (fun digests => authorPosition Aura.reference twoAuthorities digests = some p) ≤ 2 := by
  have hne : twoAuthorities.toList ≠ [] := by decide
  have hfair := authors_rotate_fairly Aura.reference twoAuthorities hne (2 ^ 64 - 3) lastBlocks (by decide)
    carriesSlots_lastBlocks
  exact ⟨carriesSlots_lastBlocks, hfair.2.1⟩

end PaseoNode.Runtime
