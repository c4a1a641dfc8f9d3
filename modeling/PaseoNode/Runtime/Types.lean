import PaseoNode.Lib.Clock
import Mathlib.Tactic

/-!
# The storage the runtime reads, and the pallets it calls

* the fixed-width types of the runtime (`DomainHash`, `AccountId`, `Moment`, …) and its constants;
* `Storage RT` — the rows of the PNS pallets that the runtime API and the write gate read, and the timestamp;
* `Pallets RT Label E` — the functions of the sibling repositories that this code calls, as parameters.  `RT` is the
  record type of `pns_types`, `Label` the parsed label of `pns_registrar`, `E` the dispatch error;
* `ResolversLookup`, `RegistryVerify`, `ExpiresUseable`, … — what the code relies on of these functions;
* `Pallets.reference` — one choice of the functions that meets all of it.
-/

namespace PaseoNode.Runtime

open PaseoNode.Lib

/-! ### Types and constants -/

/-- `pns_types::DomainHash`, an `H256`.  Its `default()` is the all-zero hash. -/
abbrev DomainHash : Type := BitVec 256

/-- `AccountId32`: 32 bytes. -/
abbrev AccountId : Type := BitVec 256

abbrev Hash : Type := BitVec 256

abbrev Balance : Type := BitVec 128
abbrev BlockNumber : Type := UInt32

/-- `pallet_timestamp`'s moment: milliseconds. -/
abbrev Moment : Type := UInt64

abbrev Bytes : Type := List UInt8

def milliSecsPerBlock : UInt64 := 6000
def minutes : BlockNumber := 60000 / milliSecsPerBlock.toUInt32
def hours : BlockNumber := minutes * 60
def days : BlockNumber := hours * 24

/-- `OfferWindow`: 90 days. -/
def offerWindow : Moment := 90 * days.toUInt64 * milliSecsPerBlock

example : offerWindow.toNat = 90 * 24 * 60 * 60 * 1000 := by decide

/-! ### The rows

`OfferedName`, `RegistrarInfo`, `TokenInfo` and `Listing` are the rows of `registrar::OfferedNames`,
`registrar::RegistrarInfos`, `nft::Tokens` and `pns_marketplace::Listings`.  An `OfferedName` is a name sold as a gift that
its recipient has not accepted.  `NameRecord` and `ListingInfo` are the answers of the API. -/

structure OfferedName where
  offeredAt : Moment
  deriving DecidableEq

structure RegistrarInfo where
  expire : Moment
  capacity : UInt32
  registerFee : Balance
  lastBlock : BlockNumber
  deriving DecidableEq

structure TokenInfo where
  owner : AccountId
  deriving DecidableEq

structure Listing where
  seller : AccountId
  price : Balance
  expiresAt : Moment
  deriving DecidableEq

structure NameRecord where
  owner : AccountId
  expire : Moment
  capacity : UInt32
  registerFee : Balance
  forSale : Bool
  lastBlock : BlockNumber
  readBlockNumber : BlockNumber
  readBlockHash : Hash
  deriving DecidableEq

structure ListingInfo where
  seller : AccountId
  price : Balance
  expiresAt : Moment
  readBlockNumber : BlockNumber
  readBlockHash : Hash
  deriving DecidableEq

/-- The state of the chain as the modelled code sees it.  `approvals node account` says that the registry holds an
operator approval of `account` for `node`; `runtimeOrigins node = some parent` that the registry's `RuntimeOrigin` row
of `node` is `RuntimeOrigin(parent)`. -/
structure Storage (RT : Type) where
  now : Moment
  offeredNames : DomainHash → Option OfferedName
  registrarInfos : DomainHash → Option RegistrarInfo
  tokens : UInt32 → DomainHash → Option TokenInfo
  listings : DomainHash → Option Listing
  records : DomainHash → RT → Option Bytes
  approvals : DomainHash → AccountId → Bool
  runtimeOrigins : DomainHash → Option DomainHash

namespace Storage

variable {RT : Type}

structure NodeRows (RT : Type) where
  offer : Option OfferedName := none
  info : Option RegistrarInfo := none
  token : Option TokenInfo := none
  listing : Option Listing := none
  records : RT → Option Bytes := fun _ => none

/-- The chain at time `now` on which `node` has the given rows and no other node has any. -/
def single (now : Moment) (node : DomainHash) (rows : NodeRows RT) : Storage RT where
  now := now
  offeredNames n := if n = node then rows.offer else none
  registrarInfos n := if n = node then rows.info else none
  tokens c n := if c = 0 ∧ n = node then rows.token else none
  listings n := if n = node then rows.listing else none
  records n := if n = node then rows.records else fun _ => none
  approvals _ _ := false
  runtimeOrigins _ := none

section Single

variable (now : Moment) (node : DomainHash) (rows : NodeRows RT)

@[simp] theorem single_now : (single now node rows).now = now := rfl
@[simp] theorem single_offeredNames : (single now node rows).offeredNames node = rows.offer := if_pos rfl
@[simp] theorem single_registrarInfos : (single now node rows).registrarInfos node = rows.info := if_pos rfl
@[simp] theorem single_tokens : (single now node rows).tokens 0 node = rows.token := if_pos ⟨rfl, rfl⟩
@[simp] theorem single_listings : (single now node rows).listings node = rows.listing := if_pos rfl
@[simp] theorem single_records : (single now node rows).records node = rows.records := if_pos rfl

end Single

def withNow (st : Storage RT) (now : Moment) : Storage RT := { st with now := now }

@[simp] theorem withNow_now (st : Storage RT) (now : Moment) : (st.withNow now).now = now := rfl
@[simp] theorem withNow_offeredNames (st : Storage RT) (now : Moment) :
    (st.withNow now).offeredNames = st.offeredNames := rfl
@[simp] theorem withNow_registrarInfos (st : Storage RT) (now : Moment) :
    (st.withNow now).registrarInfos = st.registrarInfos := rfl
@[simp] theorem withNow_tokens (st : Storage RT) (now : Moment) : (st.withNow now).tokens = st.tokens := rfl
@[simp] theorem withNow_listings (st : Storage RT) (now : Moment) : (st.withNow now).listings = st.listings := rfl

def setRegistrarInfo (st : Storage RT) (node : DomainHash) (info : Option RegistrarInfo) : Storage RT :=
  { st with registrarInfos := fun n => if n = node then info else st.registrarInfos n }

end Storage

/-! ### The pallets -/

abbrev DispatchResult (E : Type) : Type := Except E Unit

/-- The functions of the PNS crates that the runtime calls: the parsers of names (`Label::new_with_len`,
`Label::encode_with_node`, `parse_name_to_node`), `resolvers::lookup`, `registry::verify` and
`registrar::check_expires_useable`. -/
structure Pallets (RT Label E : Type) where
  nativeBasenode : DomainHash
  newWithLen : Bytes → Option (Label × ℕ)
  encodeWithNode : Label → DomainHash → DomainHash
  parseNameToNode : Bytes → DomainHash → Option DomainHash
  resolversLookup : Storage RT → DomainHash → List RT → List (RT × Bytes)
  registryVerify : Storage RT → AccountId → DomainHash → DispatchResult E
  checkExpiresUseable : Storage RT → DomainHash → DispatchResult E

section Assumptions

variable {RT Label E : Type} (P : Pallets RT Label E)

/-- `account` owns the class-0 token of `node`, or is an approved operator of a token that exists. -/
def HoldsToken (st : Storage RT) (account : AccountId) (node : DomainHash) : Prop :=
  ∃ token, st.tokens 0 node = some token ∧ (account = token.owner ∨ st.approvals node account = true)

/-- `resolvers::lookup` returns the stored rows of the node for the requested types, and nothing else. -/
def ResolversLookup : Prop :=
  ∀ st node types t data, (t, data) ∈ P.resolversLookup st node types ↔ t ∈ types ∧ st.records node t = some data

/-- `registry::verify` accepts exactly the owner and the approved operators of the token. -/
def RegistryVerify : Prop :=
  ∀ st account node, (P.registryVerify st account node).isOk = true ↔ HoldsToken st account node

/-- `registry::verify` accepts the owner of the token. -/
def VerifiesOwner : Prop :=
  ∀ st node token, st.tokens 0 node = some token → (P.registryVerify st token.owner node).isOk = true

/-- `check_expires_useable` accepts a registered node exactly before its expiry. -/
def ExpiresUseable : Prop :=
  ∀ st node info, st.registrarInfos node = some info →
    ((P.checkExpiresUseable st node).isOk = true ↔ st.now < info.expire)

/-- `check_expires_useable` accepts a registered node before its expiry. -/
def UseableBeforeExpiry : Prop :=
  ∀ st node info, st.registrarInfos node = some info → st.now < info.expire →
    (P.checkExpiresUseable st node).isOk = true

/-- The two parsers agree: a name that is a label parses to the node of that label. -/
def ParsersAgree : Prop :=
  ∀ name label len, P.newWithLen name = some (label, len) →
    P.parseNameToNode name P.nativeBasenode = some (P.encodeWithNode label P.nativeBasenode)

end Assumptions

/-! ### Functions that meet the assumptions -/

def isLabelByte (b : UInt8) : Bool :=
  (97 ≤ b && b ≤ 122) || (65 ≤ b && b ≤ 90) || (48 ≤ b && b ≤ 57) || b = 45

def toLowercase (b : UInt8) : UInt8 := if 65 ≤ b && b ≤ 90 then b + 32 else b

def parseLabel (name : Bytes) : Option (Bytes × ℕ) :=
  if name ≠ [] ∧ name.length ≤ 63 ∧ name.all isLabelByte then some (name.map toLowercase, name.length) else none

/-- A stand-in for the hash of a label under a node.  It is odd, so never the all-zero hash. -/
def hashLabel (label : Bytes) (node : DomainHash) : DomainHash :=
  BitVec.ofNat 256 (2 * label.foldl (fun h b => h * 256 + b.toNat) node.toNat + 1)

/-- A dotted name is hashed from its last label to its first. -/
def parseName (name : Bytes) (base : DomainHash) : Option DomainHash :=
  (name.splitOn 46).foldr (fun part node => do
    let (label, _) ← parseLabel part
    return hashLabel label (← node)) (some base)

/-- One choice of the functions: the rows decide everything. -/
def Pallets.reference : Pallets UInt16 Bytes Unit where
  nativeBasenode := 1
  newWithLen := parseLabel
  encodeWithNode := hashLabel
  parseNameToNode := parseName
  resolversLookup st node types := types.filterMap fun t => (st.records node t).map fun data => (t, data)
  registryVerify st account node :=
    match st.tokens 0 node with
    | some token => if account = token.owner ∨ st.approvals node account then .ok () else .error ()
    | none => .error ()
  checkExpiresUseable st node :=
    match st.registrarInfos node with
    | some info => if st.now < info.expire then .ok () else .error ()
    | none => .error ()

namespace Pallets.reference

theorem resolversLookup : ResolversLookup reference := by
  intro st node types t data
  simp only [reference, List.mem_filterMap, Option.map_eq_some_iff, Prod.mk.injEq]
  constructor
  · rintro ⟨t', ht', d', hd', rfl, rfl⟩
    exact ⟨ht', hd'⟩
  · rintro ⟨ht, hd⟩
    exact ⟨t, ht, data, hd, rfl, rfl⟩

theorem registryVerify : RegistryVerify reference := by
  intro st account node
  simp only [reference, HoldsToken]
  cases st.tokens 0 node with
  | none => simp [Except.isOk, Except.toBool]
  | some token =>
    by_cases h : account = token.owner ∨ st.approvals node account = true <;>
      simp [Except.isOk, Except.toBool, h]

theorem expiresUseable : ExpiresUseable reference := by
  intro st node info hinfo
  simp only [reference, hinfo]
  split_ifs with h <;> simp [Except.isOk, Except.toBool, h]

theorem parsersAgree : ParsersAgree reference := by
  intro name label len h
  have hne : ∀ b ∈ name, b ≠ 46 := by
    simp only [reference, parseLabel, Option.ite_none_right_eq_some] at h
    obtain ⟨⟨-, -, hall⟩, -⟩ := h
    rintro b hb rfl
    exact absurd (List.all_eq_true.mp hall _ hb) (by decide)
  have hsplit : name.splitOn 46 = [name] := List.splitOnP_eq_singleton (by simpa using hne)
  simp only [reference] at h ⊢
  simp [parseName, hsplit, h]

end Pallets.reference

theorem RegistryVerify.verifiesOwner {RT Label E : Type} {P : Pallets RT Label E} (h : RegistryVerify P) :
    VerifiesOwner P :=
  fun st node token htoken => (h st token.owner node).mpr ⟨token, htoken, Or.inl rfl⟩

theorem ExpiresUseable.useableBeforeExpiry {RT Label E : Type} {P : Pallets RT Label E} (h : ExpiresUseable P) :
    UseableBeforeExpiry P :=
  fun st node info hinfo hlt => (h st node info hinfo).mpr hlt

end PaseoNode.Runtime
