import PaseoNode.Lib.Log
import PaseoNode.Runtime.Author
import PaseoNode.Runtime.Gate

/-!
# The records of the names

The resolver pallet keeps the records.  The runtime hands it the write gate (`pnsRegistryChecker`), and hands
the other pallets the only ways to its rows that they have: `PnsSs58Updater`, `PnsOriginRecorder` and
`PnsRecordCleaner`.

* `Resolvers RT E` — the functions of the resolver pallet, as parameters; `Resolvers.Lawful` — what the runtime
  relies on;
* `RecordOp`, `RecordStep`, `RecordRun` — what happens to the rows: records set by users, the writers of the
  runtime, and anything else that leaves the rows alone;
* `served_records_have_a_writer` — a record that the lookup serves was set by the owner or an approved operator of
  the token;
* `nothing_is_inherited` — after the cleaner has run at a handover, only what was set since is served;
* `managed_rows_are_unforgeable` — the rows that the chain writes itself hold what the chain wrote last.
-/

namespace PaseoNode.Runtime

open PaseoNode.Lib

variable {RT Label E : Type}

/-! ### The resolver and its configuration -/

/-- `MaxContentLen`. -/
def maxContentLen : UInt32 := 1024

/-- `Content`: a `BoundedVec<u8, MaxContentLen>`. -/
abbrev Content : Type := BoundedVec UInt8 maxContentLen

/-- The trait `RegistryChecker` of the resolver. -/
structure RegistryChecker (RT : Type) where
  checkNodeUseable : Storage RT → DomainHash → AccountId → Bool
  baseNode : DomainHash

/-- The functions of the resolver pallet.  `ss58` and `origin` are the two record types that the chain manages, and
`ss58Content` is what the first holds. -/
structure Resolvers (RT E : Type) where
  ss58 : RT
  origin : RT
  userSettable : RT → Bool
  ss58Content : AccountId → Bytes
  setRecord : RegistryChecker RT → Storage RT → AccountId → Bytes → RT → Content → Except E (Storage RT)
  setSs58Record : Storage RT → DomainHash → AccountId → Except E (Storage RT)
  setOriginRecord : Storage RT → DomainHash → Vector UInt8 32 → Except E (Storage RT)
  clearRecordsExceptSs58 : Storage RT → DomainHash → Storage RT
  clearAllRecords : Storage RT → DomainHash → Storage RT

/-- `PnsRegistryChecker`. -/
def pnsRegistryChecker (P : Pallets RT Label E) : RegistryChecker RT where
  checkNodeUseable := checkNodeUseable P
  baseNode := P.nativeBasenode

section Adapters

variable (R : Resolvers RT E) (st : Storage RT) (node : DomainHash)

/-- `PnsSs58Updater::update_ss58`. -/
def updateSs58 (owner : AccountId) : Except E (Storage RT) := R.setSs58Record st node owner

/-- `PnsOriginRecorder::record_origin`. -/
def recordOrigin (blockHash : Vector UInt8 32) : Except E (Storage RT) := R.setOriginRecord st node blockHash

/-- `PnsRecordCleaner::clear_records_except_ss58`. -/
def clearRecordsExceptSs58 : Storage RT := R.clearRecordsExceptSs58 st node

/-- `PnsRecordCleaner::clear_all_records`. -/
def clearAllRecords : Storage RT := R.clearAllRecords st node

end Adapters

/-! ### What the resolver promises -/

abbrev Rows (RT : Type) : Type := DomainHash → RT → Option Bytes

/-- The rows with one row replaced. -/
def Rows.set [DecidableEq RT] (rows : Rows RT) (node : DomainHash) (t : RT) (data : Bytes) : Rows RT :=
  fun n t' => if n = node ∧ t' = t then some data else rows n t'

theorem Rows.set_self [DecidableEq RT] (rows : Rows RT) (node : DomainHash) (t : RT) (data : Bytes) :
    rows.set node t data node t = some data := if_pos ⟨rfl, rfl⟩

theorem Rows.set_of_ne [DecidableEq RT] (rows : Rows RT) {node n : DomainHash} {t t' : RT} (data : Bytes)
    (h : ¬ (n = node ∧ t' = t)) : rows.set node t data n t' = rows n t' := if_neg h

/-- The record types that have a writer. -/
def Resolvers.Written (R : Resolvers RT E) (t : RT) : Prop := R.userSettable t = true ∨ t = R.ss58 ∨ t = R.origin

/-- What the runtime relies on.  A record is set only for a name that parses, a type that users may set and an
account that passes the gate; each writer touches the rows of its node alone; and of those the cleaner that
keeps `SS58` removes the rows that users may set. -/
structure Resolvers.Lawful [DecidableEq RT] (R : Resolvers RT E) (P : Pallets RT Label E) : Prop where
  setRecord : ∀ checker st who name t data st', R.setRecord checker st who name t data = .ok st' →
    ∃ node, P.parseNameToNode name checker.baseNode = some node ∧ checker.checkNodeUseable st node who = true ∧
      R.userSettable t = true ∧ st'.records = Rows.set st.records node t data.toList
  setSs58Record : ∀ st node owner st', R.setSs58Record st node owner = .ok st' →
    st'.records = Rows.set st.records node R.ss58 (R.ss58Content owner)
  setOriginRecord : ∀ st node blockHash st', R.setOriginRecord st node blockHash = .ok st' →
    st'.records = Rows.set st.records node R.origin blockHash.toList
  clearRecordsExceptSs58 : ∀ st node n t, R.Written t → (R.clearRecordsExceptSs58 st node).records n t =
    if n = node ∧ R.userSettable t = true then none else st.records n t
  clearAllRecords : ∀ st node n t, R.Written t → (R.clearAllRecords st node).records n t =
    if n = node then none else st.records n t
  ss58_managed : R.userSettable R.ss58 = false
  origin_managed : R.userSettable R.origin = false

/-- A cleaner adds no rows, of any type. -/
structure Resolvers.CleanersRemove (R : Resolvers RT E) : Prop where
  clearRecordsExceptSs58 : ∀ st node n t data,
    (R.clearRecordsExceptSs58 st node).records n t = some data → st.records n t = some data
  clearAllRecords : ∀ st node n t data, (R.clearAllRecords st node).records n t = some data → st.records n t = some data

/-! ### Operations -/

inductive RecordOp (RT : Type) where
  | setRecord (who : AccountId) (name : Bytes) (t : RT) (data : Content)
  | updateSs58 (node : DomainHash) (owner : AccountId)
  | recordOrigin (node : DomainHash) (blockHash : Vector UInt8 32)
  | clearRecordsExceptSs58 (node : DomainHash)
  | clearAllRecords (node : DomainHash)
  /-- Time passes, tokens and registrations change, … -/
  | other

inductive RecordStep (P : Pallets RT Label E) (R : Resolvers RT E) : Storage RT → RecordOp RT → Storage RT → Prop where
  | setRecord {st st' : Storage RT} {who : AccountId} {name : Bytes} {t : RT} {data : Content} :
      R.setRecord (pnsRegistryChecker P) st who name t data = .ok st' →
        RecordStep P R st (.setRecord who name t data) st'
  | updateSs58 {st st' : Storage RT} {node : DomainHash} {owner : AccountId} :
      updateSs58 R st node owner = .ok st' → RecordStep P R st (.updateSs58 node owner) st'
  | recordOrigin {st st' : Storage RT} {node : DomainHash} {blockHash : Vector UInt8 32} :
      recordOrigin R st node blockHash = .ok st' → RecordStep P R st (.recordOrigin node blockHash) st'
  | clearRecordsExceptSs58 {st : Storage RT} {node : DomainHash} :
      RecordStep P R st (.clearRecordsExceptSs58 node) (clearRecordsExceptSs58 R st node)
  | clearAllRecords {st : Storage RT} {node : DomainHash} :
      RecordStep P R st (.clearAllRecords node) (clearAllRecords R st node)
  | other {st st' : Storage RT} : st'.records = st.records → RecordStep P R st .other st'

/-- A run of record operations: its entries are the operations, each with the state it ran on. -/
abbrev RecordRun (P : Pallets RT Label E) (R : Resolvers RT E) :
    Storage RT → List (RecordOp RT × Storage RT) → Storage RT → Prop :=
  Log (Recorded (RecordStep P R))

/-- The operation writes or removes the row of the node with this type. -/
def RecordOp.Writes (P : Pallets RT Label E) (R : Resolvers RT E) (node : DomainHash) (t : RT) : RecordOp RT → Prop
  | .setRecord _ name t' _ => P.parseNameToNode name P.nativeBasenode = some node ∧ t = t'
  | .updateSs58 n _ => node = n ∧ t = R.ss58
  | .recordOrigin n _ => node = n ∧ t = R.origin
  | .clearRecordsExceptSs58 n => node = n ∧ R.userSettable t = true
  | .clearAllRecords n => node = n
  | .other => False

/-- What the rows that the operation writes hold after it. -/
def RecordOp.value (R : Resolvers RT E) : RecordOp RT → Option Bytes
  | .setRecord _ _ _ data => some data.toList
  | .updateSs58 _ owner => some (R.ss58Content owner)
  | .recordOrigin _ blockHash => some blockHash.toList
  | .clearRecordsExceptSs58 _ | .clearAllRecords _ | .other => none

section Steps

variable [DecidableEq RT] {P : Pallets RT Label E} {R : Resolvers RT E} {st st' : Storage RT} {op : RecordOp RT}
  {node : DomainHash} {t : RT}

/-- **A step writes its rows and no others.** -/
theorem recordStep_row (hR : R.Lawful P) (h : RecordStep P R st op st') (ht : R.Written t) :
    (op.Writes P R node t → st'.records node t = op.value R) ∧
      (¬ op.Writes P R node t → st'.records node t = st.records node t) := by
  cases h with
  | setRecord h =>
    -- the node of the operation is the one its name parses to
    obtain ⟨n, hn, -, -, hrows⟩ := hR.setRecord _ _ _ _ _ _ _ h
    rw [hrows]
    constructor
    · rintro ⟨hnode, rfl⟩
      obtain rfl : n = node := Option.some_inj.mp (hn.symm.trans hnode)
      exact Rows.set_self ..
    · intro hno
      apply Rows.set_of_ne
      rintro ⟨rfl, rfl⟩
      exact hno ⟨hn, rfl⟩
  | updateSs58 h =>
    rw [hR.setSs58Record _ _ _ _ h]
    constructor
    · rintro ⟨rfl, rfl⟩
      exact Rows.set_self ..
    · exact Rows.set_of_ne _ _
  | recordOrigin h =>
    rw [hR.setOriginRecord _ _ _ _ h]
    constructor
    · rintro ⟨rfl, rfl⟩
      exact Rows.set_self ..
    · exact Rows.set_of_ne _ _
  | clearRecordsExceptSs58 =>
    unfold clearRecordsExceptSs58
    rw [hR.clearRecordsExceptSs58 _ _ _ _ ht]
    exact ⟨fun hw => if_pos hw, fun hw => if_neg hw⟩
  | clearAllRecords =>
    unfold clearAllRecords
    rw [hR.clearAllRecords _ _ _ _ ht]
    exact ⟨fun hw => if_pos hw, fun hw => if_neg hw⟩
  | other h =>
    rw [h]
    exact ⟨fun hw => hw.elim, fun _ => rfl⟩

/-- **The row at the end of a run**: as at the start, or as its last writer left it. -/
theorem row_of_run (hR : R.Lawful P) {run : List (RecordOp RT × Storage RT)} (h : RecordRun P R st run st')
    (ht : R.Written t) :
    (∀ e ∈ run, ¬ e.1.Writes P R node t) ∧ st'.records node t = st.records node t ∨
      ∃ before op after mid mid', run = before ++ (op, mid) :: after ∧ RecordStep P R mid op mid' ∧
        op.Writes P R node t ∧ (∀ e ∈ after, ¬ e.1.Writes P R node t) ∧ st'.records node t = op.value R := by
  have hkeep : ∀ s e s', Recorded (RecordStep P R) s e s' → ¬ e.1.Writes P R node t →
      s'.records node t = s.records node t :=
    fun s e s' hstep => (recordStep_row hR hstep.2 ht).2
  rcases h.last_write hkeep with hnone | ⟨before, ⟨op, mid₀⟩, after, mid, mid', hrun, ⟨hmid, hstep⟩, hw, hlast, hrow⟩
  · exact Or.inl hnone
  · obtain rfl : mid₀ = mid := hmid
    refine Or.inr ⟨before, op, after, mid₀, mid', hrun, hstep, hw, hlast, ?_⟩
    rw [hrow]
    exact (recordStep_row hR hstep ht).1 hw

theorem Rows.written_of_set {rows : Rows RT} {t' : RT} {data : Bytes} (hrows : ∀ n t, rows n t ≠ none → R.Written t)
    (ht' : R.Written t') {n : DomainHash} (hrow : rows.set node t' data n t ≠ none) : R.Written t := by
  by_cases hset : n = node ∧ t = t'
  · obtain ⟨-, rfl⟩ := hset
    exact ht'
  · rw [Rows.set_of_ne rows data hset] at hrow
    exact hrows n t hrow

/-- From a state without rows, all rows are of the types that have a writer. -/
theorem written_of_row (hR : R.Lawful P) (hclean : R.CleanersRemove) {ops : List (RecordOp RT)}
    (h : Log (RecordStep P R) st ops st') (hstart : ∀ n t, st.records n t = none) {data : Bytes}
    (hrow : st'.records node t = some data) : R.Written t := by
  have hstep : ∀ s o s', RecordStep P R s o s' → (∀ n t, s.records n t ≠ none → R.Written t) →
      ∀ n t, s'.records n t ≠ none → R.Written t := by
    intro s o s' hstep hs n t hne
    cases hstep with
    | setRecord h =>
      obtain ⟨node, -, -, hsettable, hrows⟩ := hR.setRecord _ _ _ _ _ _ _ h
      rw [hrows] at hne
      exact Rows.written_of_set hs (Or.inl hsettable) hne
    | updateSs58 h =>
      rw [hR.setSs58Record _ _ _ _ h] at hne
      exact Rows.written_of_set hs (Or.inr (Or.inl rfl)) hne
    | recordOrigin h =>
      rw [hR.setOriginRecord _ _ _ _ h] at hne
      exact Rows.written_of_set hs (Or.inr (Or.inr rfl)) hne
    | clearRecordsExceptSs58 =>
      obtain ⟨data, hdata⟩ := Option.ne_none_iff_exists'.mp hne
      exact hs n t (by rw [hclean.clearRecordsExceptSs58 _ _ _ _ _ hdata]; exact Option.some_ne_none data)
    | clearAllRecords =>
      obtain ⟨data, hdata⟩ := Option.ne_none_iff_exists'.mp hne
      exact hs n t (by rw [hclean.clearAllRecords _ _ _ _ _ hdata]; exact Option.some_ne_none data)
    | other h =>
      rw [h] at hne
      exact hs n t hne
  refine h.invariant hstep (fun n t hne => absurd (hstart n t) hne) node t ?_
  rw [hrow]
  exact Option.some_ne_none data

end Steps

/-! ### A resolver that keeps the promises -/

/-- The 32 bytes of an account. -/
def accountBytes (account : AccountId) : Bytes :=
  (List.range 32).map fun i => UInt8.ofNat (account.toNat / 256 ^ (31 - i))

/-- The rows decide everything; the two managed types lie above those that users may set. -/
def Resolvers.reference : Resolvers UInt16 Unit where
  ss58 := 65280
  origin := 65281
  userSettable t := t < 65280
  ss58Content := accountBytes
  setRecord checker st who name t data :=
    match parseName name checker.baseNode with
    | some node =>
      if checker.checkNodeUseable st node who ∧ t < 65280 then
        .ok { st with records := Rows.set st.records node t data.toList }
      else .error ()
    | none => .error ()
  setSs58Record st node owner := .ok { st with records := Rows.set st.records node 65280 (accountBytes owner) }
  setOriginRecord st node blockHash := .ok { st with records := Rows.set st.records node 65281 blockHash.toList }
  clearRecordsExceptSs58 st node :=
    { st with records := fun n t => if n = node ∧ decide (t < 65280) = true then none else st.records n t }
  clearAllRecords st node := { st with records := fun n t => if n = node then none else st.records n t }

theorem Resolvers.reference_lawful : Resolvers.reference.Lawful Pallets.reference where
  setRecord checker st who name t data st' h := by
    simp only [Resolvers.reference] at h
    cases hnode : parseName name checker.baseNode with
    | none => simp [hnode] at h
    | some node =>
      simp only [hnode] at h
      split_ifs at h with hok
      cases h
      exact ⟨node, hnode, hok.1, decide_eq_true hok.2, rfl⟩
  setSs58Record st node owner st' h := by
    cases h
    rfl
  setOriginRecord st node blockHash st' h := by
    cases h
    rfl
  clearRecordsExceptSs58 _ _ _ _ _ := rfl
  clearAllRecords _ _ _ _ _ := rfl
  ss58_managed := by decide
  origin_managed := by decide

theorem Resolvers.reference_cleanersRemove : Resolvers.reference.CleanersRemove where
  clearRecordsExceptSs58 _ _ _ _ _ h := (Option.ite_none_left_eq_some.mp h).2
  clearAllRecords _ _ _ _ _ h := (Option.ite_none_left_eq_some.mp h).2

/-- The address that account 7 sets for `b"gift"` after the cleaner has run. -/
def setAddress : RecordOp UInt16 := .setRecord 7 giftName 1 ⟨[192, 0, 2, 9], by decide⟩

def cleanedStorage : Storage UInt16 := clearRecordsExceptSs58 Resolvers.reference soldStorage giftNode

/-- The state after the address is set. -/
def withAddress (st : Storage UInt16) : Storage UInt16 :=
  { st with records := Rows.set st.records giftNode 1 [192, 0, 2, 9] }

theorem setAddress_ok {st : Storage UInt16} (hgate : checkNodeUseable Pallets.reference st giftNode 7 = true) :
    RecordStep Pallets.reference Resolvers.reference st setAddress (withAddress st) := by
  have hparse : parseName giftName Pallets.reference.nativeBasenode = some giftNode := parse_gift
  apply RecordStep.setRecord
  simp only [Resolvers.reference, pnsRegistryChecker, hparse, hgate]
  rfl

theorem address_served (st : Storage UInt16) :
    ((1 : UInt16), [192, 0, 2, 9]) ∈ lookup Pallets.reference (withAddress st) giftNode [1] := by
  refine (Pallets.reference.resolversLookup (withAddress st) giftNode [1] 1 [192, 0, 2, 9]).mpr ⟨by simp, ?_⟩
  exact Rows.set_self st.records giftNode 1 [192, 0, 2, 9]

theorem holdsToken_cleaned {who : AccountId} : HoldsToken cleanedStorage who giftNode ↔ who = 7 := by
  have htoken : cleanedStorage.tokens 0 giftNode = some ⟨7⟩ := by
    show soldStorage.tokens 0 giftNode = some ⟨7⟩
    simp [soldStorage]
  have happr : cleanedStorage.approvals giftNode who = false := rfl
  simp [HoldsToken, htoken, happr]

theorem useable_cleaned : checkNodeUseable Pallets.reference cleanedStorage giftNode 7 = true := by
  rw [checkNodeUseable_iff Pallets.reference.registryVerify Pallets.reference.expiresUseable]
  refine ⟨holdsToken_cleaned.mpr rfl, fun info hinfo => ?_⟩
  have hsold : soldStorage.registrarInfos giftNode = some info := hinfo
  have hreg : soldStorage.registrarInfos giftNode = some (registration 10) := by simp [soldStorage]
  obtain rfl : registration 10 = info := Option.some_inj.mp (hreg.symm.trans hsold)
  decide

theorem setAddress_run : RecordRun Pallets.reference Resolvers.reference cleanedStorage [(setAddress, cleanedStorage)]
    (withAddress cleanedStorage) :=
  .cons ⟨rfl, setAddress_ok useable_cleaned⟩ .nil

/-! ### Records of users -/

section Users

variable [DecidableEq RT]

theorem writer_of_value {P : Pallets RT Label E} (hv : RegistryVerify P) (he : ExpiresUseable P) {R : Resolvers RT E}
    (hR : R.Lawful P) {st st' : Storage RT} {op : RecordOp RT} {node : DomainHash} {t : RT} {data : Bytes}
    (hstep : RecordStep P R st op st') (hw : op.Writes P R node t) (ht : R.userSettable t = true)
    (hval : op.value R = some data) :
    ∃ who name content, op = .setRecord who name t content ∧ content.toList = data ∧
      P.parseNameToNode name P.nativeBasenode = some node ∧ HoldsToken st who node ∧
      ∀ info, st.registrarInfos node = some info → st.now < info.expire := by
  cases hstep with
  | @setRecord _ who name t' content hset =>
    obtain ⟨hnode, rfl⟩ := hw
    obtain ⟨n, hn, hgate, -, -⟩ := hR.setRecord _ _ _ _ _ _ _ hset
    obtain rfl : n = node := Option.some_inj.mp (hn.symm.trans hnode)
    obtain ⟨hholds, hruns⟩ := (checkNodeUseable_iff hv he).mp hgate
    exact ⟨who, name, content, rfl, Option.some_inj.mp hval, hnode, hholds, hruns⟩
  -- the chain writes no settable type, and the cleaners leave no value
  | updateSs58 _ =>
    obtain ⟨-, rfl⟩ := hw
    rw [hR.ss58_managed] at ht
    cases ht
  | recordOrigin _ =>
    obtain ⟨-, rfl⟩ := hw
    rw [hR.origin_managed] at ht
    cases ht
  | clearRecordsExceptSs58 => cases hval
  | clearAllRecords => cases hval
  | other _ => exact hw.elim

/-- In the run, the account was the last to write the row of the node with this type.  It set `data` in a state in which it
was the owner or an approved operator of the token of the node, and in which the registration of the node, if it has one,
had not expired. -/
def SetBy (P : Pallets RT Label E) (R : Resolvers RT E) (run : List (RecordOp RT × Storage RT)) (node : DomainHash)
    (t : RT) (data : Bytes) (who : AccountId) : Prop :=
  ∃ before name content after mid, run = before ++ (.setRecord who name t content, mid) :: after ∧
    content.toList = data ∧ P.parseNameToNode name P.nativeBasenode = some node ∧ HoldsToken mid who node ∧
    (∀ info, mid.registrarInfos node = some info → mid.now < info.expire) ∧ ∀ e ∈ after, ¬ e.1.Writes P R node t

theorem writer_of_row {P : Pallets RT Label E} (hv : RegistryVerify P) (he : ExpiresUseable P) {R : Resolvers RT E}
    (hR : R.Lawful P) {st st' : Storage RT} {run : List (RecordOp RT × Storage RT)} (h : RecordRun P R st run st')
    {node : DomainHash} {t : RT} {data : Bytes} (ht : R.userSettable t = true)
    (hrow : st'.records node t = some data) :
    (st.records node t = some data ∧ ∀ e ∈ run, ¬ e.1.Writes P R node t) ∨ ∃ who, SetBy P R run node t data who := by
  rcases row_of_run hR h (Or.inl ht) with ⟨hnone, hsame⟩ | ⟨before, op, after, mid, mid', rfl, hstep, hw, hlast, hval⟩
  · exact Or.inl ⟨by rw [← hsame, hrow], hnone⟩
  · -- the last write left the data, so it was no cleaning
    right
    rw [hrow] at hval
    obtain ⟨who, name, content, rfl, hdata, hnode, hholds, hruns⟩ := writer_of_value hv he hR hstep hw ht hval.symm
    exact ⟨who, before, name, content, after, mid, rfl, hdata, hnode, hholds, hruns, hlast⟩

/-- **A record that is served has a writer.**  After any run, a record of a user-settable type that `lookup`
serves either stood there at the start and was never written, or was set by an account that was then the owner or an
approved operator of the token of the node, while the registration of the node, if it has one, was unexpired; and
nothing wrote the row after. -/
theorem served_records_have_a_writer (P : Pallets RT Label E) (hP : ResolversLookup P) (hv : RegistryVerify P)
    (he : ExpiresUseable P) (R : Resolvers RT E) (hR : R.Lawful P) (st st' : Storage RT)
    (run : List (RecordOp RT × Storage RT)) (h : RecordRun P R st run st') (node : DomainHash) (types : List RT) (t : RT)
    (data : Bytes) (ht : R.userSettable t = true) (hserved : (t, data) ∈ lookup P st' node types) :
    (st.records node t = some data ∧ ∀ e ∈ run, ¬ e.1.Writes P R node t) ∨ ∃ who, SetBy P R run node t data who :=
  writer_of_row hv he hR h ht ((hP st' node types t data).mp hserved).2

theorem served_records_have_a_writer_address :
    ∃ who, SetBy Pallets.reference Resolvers.reference [(setAddress, cleanedStorage)] giftNode 1 [192, 0, 2, 9] who := by
  rcases served_records_have_a_writer Pallets.reference Pallets.reference.resolversLookup
    Pallets.reference.registryVerify Pallets.reference.expiresUseable Resolvers.reference Resolvers.reference_lawful
    cleanedStorage (withAddress cleanedStorage) [(setAddress, cleanedStorage)] setAddress_run giftNode [1] 1
    [192, 0, 2, 9] rfl (address_served cleanedStorage) with ⟨hstart, -⟩ | hset
  · have hcleared : cleanedStorage.records giftNode 1 = none :=
      (Resolvers.reference_lawful.clearRecordsExceptSs58 soldStorage giftNode giftNode 1 (Or.inl rfl)).trans
        (if_pos ⟨rfl, rfl⟩)
    rw [hcleared] at hstart
    cases hstart
  · exact hset

/-- **Nothing is inherited.**  After the cleaner has run for a node, as it does at a handover, every user-settable
record that `lookup` serves was set since, by an account that was the owner or an approved operator of the token at that
time: if all these accounts have been of a team since, then by one of the team. -/
theorem nothing_is_inherited (P : Pallets RT Label E) (hP : ResolversLookup P) (hv : RegistryVerify P)
    (he : ExpiresUseable P) (R : Resolvers RT E) (hR : R.Lawful P) (st st' : Storage RT) (node : DomainHash)
    (run : List (RecordOp RT × Storage RT)) (h : RecordRun P R (clearRecordsExceptSs58 R st node) run st')
    (team : AccountId → Prop) (hteam : ∀ e ∈ run, ∀ who, HoldsToken e.2 who node → team who)
    (types : List RT) (t : RT) (data : Bytes) (ht : R.userSettable t = true)
    (hserved : (t, data) ∈ lookup P st' node types) :
    ∃ who, team who ∧ SetBy P R run node t data who := by
  have hcleared : (clearRecordsExceptSs58 R st node).records node t = none := by
    unfold clearRecordsExceptSs58
    rw [hR.clearRecordsExceptSs58 _ _ _ _ (Or.inl ht), if_pos ⟨rfl, ht⟩]
  have hrow : st'.records node t = some data := ((hP st' node types t data).mp hserved).2
  rcases writer_of_row hv he hR h ht hrow with ⟨hstart, -⟩ | ⟨who, hset⟩
  · rw [hcleared] at hstart
    cases hstart
  · -- the writer held the token at its write, so it is of the team
    obtain ⟨before, name, content, after, mid, hrun, -, -, hholds, -, -⟩ := id hset
    have hmem : (RecordOp.setRecord who name t content, mid) ∈ run := by
      rw [hrun]
      exact List.mem_append_right before List.mem_cons_self
    exact ⟨who, hteam _ hmem who hholds, hset⟩

theorem nothing_is_inherited_address :
    ∃ who, who = 7 ∧
      SetBy Pallets.reference Resolvers.reference [(setAddress, cleanedStorage)] giftNode 1 [192, 0, 2, 9] who := by
  refine nothing_is_inherited Pallets.reference Pallets.reference.resolversLookup Pallets.reference.registryVerify
    Pallets.reference.expiresUseable Resolvers.reference Resolvers.reference_lawful soldStorage
    (withAddress cleanedStorage) giftNode [(setAddress, cleanedStorage)] setAddress_run (· = 7) ?_ [1] 1
    [192, 0, 2, 9] rfl (address_served cleanedStorage)
  intro e he who hholds
  rw [List.mem_singleton.mp he] at hholds
  exact holdsToken_cleaned.mp hholds

end Users

/-! ### Records of the chain -/

section Managed

/-- The chain itself writes or removes the row of the node with this type. -/
def RecordOp.ByChain (R : Resolvers RT E) (node : DomainHash) (t : RT) : RecordOp RT → Prop
  | .updateSs58 n _ => node = n ∧ t = R.ss58
  | .recordOrigin n _ => node = n ∧ t = R.origin
  | .clearAllRecords n => node = n
  | _ => False

variable {P : Pallets RT Label E} {R : Resolvers RT E} {node : DomainHash} {t : RT} {op : RecordOp RT}

theorem RecordOp.ByChain.writes (h : op.ByChain R node t) : op.Writes P R node t := by
  cases op with
  | updateSs58 n owner => exact h
  | recordOrigin n blockHash => exact h
  | clearAllRecords n => exact h
  | setRecord who name t' data => exact h.elim
  | clearRecordsExceptSs58 n => exact h.elim
  | other => exact h.elim

variable [DecidableEq RT]

instance (R : Resolvers RT E) (node : DomainHash) (t : RT) : DecidablePred (RecordOp.ByChain R node t)
  | .updateSs58 n _ => inferInstanceAs (Decidable (node = n ∧ t = R.ss58))
  | .recordOrigin n _ => inferInstanceAs (Decidable (node = n ∧ t = R.origin))
  | .clearAllRecords n => inferInstanceAs (Decidable (node = n))
  | .setRecord _ _ _ _ | .clearRecordsExceptSs58 _ | .other => inferInstanceAs (Decidable False)

theorem byChain_of_writes (hR : R.Lawful P) {st st' : Storage RT} (hstep : RecordStep P R st op st')
    (ht : R.userSettable t = false) (hw : op.Writes P R node t) : op.ByChain R node t := by
  cases hstep with
  | setRecord hset =>
    obtain ⟨-, rfl⟩ := hw
    obtain ⟨-, -, -, hsettable, -⟩ := hR.setRecord _ _ _ _ _ _ _ hset
    rw [ht] at hsettable
    cases hsettable
  | clearRecordsExceptSs58 =>
    have hsettable := hw.2
    rw [ht] at hsettable
    cases hsettable
  | updateSs58 _ => exact hw
  | recordOrigin _ => exact hw
  | clearAllRecords => exact hw
  | other _ => exact hw.elim

/-- A managed row is as the last operation of the chain on it left it. -/
theorem managedRow_eq (hR : R.Lawful P) {st st' : Storage RT} {ops : List (RecordOp RT)}
    (h : Log (RecordStep P R) st ops st') (ht : t = R.ss58 ∨ t = R.origin) :
    st'.records node t =
      (ops.filter fun op => op.ByChain R node t).getLast?.elim (st.records node t) (RecordOp.value R) := by
  have hmanaged : R.userSettable t = false := by
    rcases ht with rfl | rfl
    · exact hR.ss58_managed
    · exact hR.origin_managed
  have hwrite : ∀ s o s', RecordStep P R s o s' → o.ByChain R node t → s'.records node t = o.value R :=
    fun s o s' hstep hby => (recordStep_row hR hstep (Or.inr ht)).1 hby.writes
  have hkeep : ∀ s o s', RecordStep P R s o s' → ¬ o.ByChain R node t → s'.records node t = s.records node t := by
    intro s o s' hstep hby
    apply (recordStep_row hR hstep (Or.inr ht)).2
    exact mt (byChain_of_writes hR hstep hmanaged) hby
  exact h.cell_eq hwrite hkeep

/-- **Managed rows are unforgeable.**  After any run, `lookup` serves the `SS58` or `ORIGIN` record that the
last operation of the chain on it left, or the one of the start: no record that a user sets, and no cleaning at
a handover, has a part in it. -/
theorem managed_rows_are_unforgeable (P : Pallets RT Label E) (hP : ResolversLookup P) (R : Resolvers RT E)
    (hR : R.Lawful P) (st st' : Storage RT) (ops : List (RecordOp RT)) (h : Log (RecordStep P R) st ops st')
    (node : DomainHash) (types : List RT) (t : RT) (ht : t = R.ss58 ∨ t = R.origin) (data : Bytes) :
    (t, data) ∈ lookup P st' node types ↔ t ∈ types ∧
      (ops.filter fun op => op.ByChain R node t).getLast?.elim (st.records node t) (RecordOp.value R) = some data := by
  rw [← managedRow_eq hR h ht]
  exact hP st' node types t data

/-- A user sets an address; the chain writes both of its rows, clears all rows, and writes the `SS58` row again. -/
def chainOps : List (RecordOp UInt16) :=
  [setAddress, .recordOrigin giftNode (.replicate 32 5), .updateSs58 giftNode 7, .clearAllRecords giftNode,
    .updateSs58 giftNode 9]

theorem chainOps_log : ∃ st', Log (RecordStep Pallets.reference Resolvers.reference) cleanedStorage chainOps st' :=
  ⟨_, .cons (setAddress_ok useable_cleaned) (.cons (.recordOrigin rfl) (.cons (.updateSs58 rfl) (.cons .clearAllRecords
    (.cons (.updateSs58 rfl) .nil))))⟩

theorem managed_rows_are_unforgeable_address :
    ∃ st', Log (RecordStep Pallets.reference Resolvers.reference) cleanedStorage chainOps st' ∧
      ((65280 : UInt16), accountBytes 9) ∈ lookup Pallets.reference st' giftNode [65280, 65281] ∧
      ∀ data, ((65281 : UInt16), data) ∉ lookup Pallets.reference st' giftNode [65280, 65281] := by
  obtain ⟨st', h⟩ := chainOps_log
  have hserved := fun t ht data => managed_rows_are_unforgeable Pallets.reference Pallets.reference.resolversLookup
    Resolvers.reference Resolvers.reference_lawful cleanedStorage st' chainOps h giftNode [65280, 65281] t ht data
  have hss58 : (chainOps.filter fun op => op.ByChain Resolvers.reference giftNode 65280).getLast? =
      some (.updateSs58 giftNode 9) := rfl
  have horigin : (chainOps.filter fun op => op.ByChain Resolvers.reference giftNode 65281).getLast? =
      some (.clearAllRecords giftNode) := rfl
  refine ⟨st', h, (hserved 65280 (Or.inl rfl) (accountBytes 9)).mpr ⟨by decide, ?_⟩, fun data hmem => ?_⟩
  · -- the row was written again after the clearing
    rw [hss58]
    rfl
  · -- the row was cleared, and not written again
    obtain ⟨-, hdata⟩ := (hserved 65281 (Or.inr rfl) data).mp hmem
    rw [horigin] at hdata
    cases hdata

end Managed

end PaseoNode.Runtime
