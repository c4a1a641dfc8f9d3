import PaseoNode.Runtime.Types

/-!
# The PNS runtime API

`impl PnsStorageApi for Runtime`, method by method.  `get_info` and `resolve_name` are separate copies of one body in
the source, and are here too; `resolveName_of_label` proves that the copies agree.

A name is *visible* when no live offer stands on it, it is registered and not expired, and its token exists
(`Visible`).  `getInfo_eq_some_iff` says that `get_info` answers exactly for visible names, and with what.
-/

namespace PaseoNode.Runtime

open PaseoNode.Lib

variable {RT Label E : Type}

/-! ### The methods -/

def getInfo (st : Storage RT) (id : DomainHash) : Option NameRecord := do
  if let some offer := st.offeredNames id then
    -- a pending offer hides the name for the whole window
    if st.now < saturatingAdd offer.offeredAt offerWindow then
      failure
  let info ← st.registrarInfos id
  if st.now ≥ info.expire then
    failure
  let token ← st.tokens 0 id
  let forSale := (st.listings id).isSome
  return {
    owner := token.owner
    expire := info.expire
    capacity := info.capacity
    registerFee := info.registerFee
    forSale := forSale
    lastBlock := info.lastBlock
    readBlockNumber := 0
    readBlockHash := default }

def lookup (P : Pallets RT Label E) (st : Storage RT) (id : DomainHash) (recordTypes : List RT) : List (RT × Bytes) :=
  P.resolversLookup st id recordTypes

def getListing (P : Pallets RT Label E) (st : Storage RT) (name : Bytes) : Option ListingInfo := do
  let (label, _) ← P.newWithLen name
  let node := P.encodeWithNode label P.nativeBasenode
  let l ← st.listings node
  return {
    seller := l.seller
    price := l.price
    expiresAt := l.expiresAt
    readBlockNumber := 0
    readBlockHash := default }

def resolveName (P : Pallets RT Label E) (st : Storage RT) (name : Bytes) : Option NameRecord := do
  let (label, _) ← P.newWithLen name
  let baseNode := P.nativeBasenode
  let node := P.encodeWithNode label baseNode
  if let some offer := st.offeredNames node then
    if st.now < saturatingAdd offer.offeredAt offerWindow then
      failure
  let info ← st.registrarInfos node
  if st.now ≥ info.expire then
    failure
  let token ← st.tokens 0 node
  let forSale := (st.listings node).isSome
  return {
    owner := token.owner
    expire := info.expire
    capacity := info.capacity
    registerFee := info.registerFee
    forSale := forSale
    lastBlock := info.lastBlock
    readBlockNumber := 0
    readBlockHash := default }

/-- `lookup_by_name`.  A name that does not parse is looked up at the all-zero hash. -/
def lookupByName (P : Pallets RT Label E) (st : Storage RT) (name : Bytes) (recordTypes : List RT) :
    List (RT × Bytes) :=
  let node := (P.parseNameToNode name P.nativeBasenode).getD default
  P.resolversLookup st node recordTypes

/-! ### What makes a name visible -/

/-- A pending offer stands on the node and its window is open. -/
def OfferLive (st : Storage RT) (node : DomainHash) : Prop :=
  ∃ offer, st.offeredNames node = some offer ∧ st.now < saturatingAdd offer.offeredAt offerWindow

/-- The node is registered, and its registration has not expired. -/
def Registered (st : Storage RT) (node : DomainHash) : Prop :=
  ∃ info, st.registrarInfos node = some info ∧ st.now < info.expire

/-- The node is registered, but expired or under a live offer. -/
def Hidden (st : Storage RT) (node : DomainHash) : Prop :=
  ∃ info, st.registrarInfos node = some info ∧ (info.expire ≤ st.now ∨ OfferLive st node)

/-- The node is registered and owned, and nothing hides it. -/
def Visible (st : Storage RT) (node : DomainHash) : Prop :=
  ¬ OfferLive st node ∧ Registered st node ∧ (st.tokens 0 node).isSome = true

def nameRecord (st : Storage RT) (node : DomainHash) (info : RegistrarInfo) (token : TokenInfo) : NameRecord where
  owner := token.owner
  expire := info.expire
  capacity := info.capacity
  registerFee := info.registerFee
  forSale := (st.listings node).isSome
  lastBlock := info.lastBlock
  readBlockNumber := 0
  readBlockHash := default

instance (st : Storage RT) (node : DomainHash) : Decidable (OfferLive st node) :=
  match h : st.offeredNames node with
  | some offer => decidable_of_iff (st.now < saturatingAdd offer.offeredAt offerWindow) (by simp [OfferLive, h])
  | none => isFalse (by simp [OfferLive, h])

theorem offerLive_of_row {st : Storage RT} {node : DomainHash} {offer : OfferedName}
    (h : st.offeredNames node = some offer) :
    OfferLive st node ↔ st.now < saturatingAdd offer.offeredAt offerWindow := by
  simp [OfferLive, h]

theorem not_offerLive_of_no_row {st : Storage RT} {node : DomainHash} (h : st.offeredNames node = none) :
    ¬ OfferLive st node := by
  simp [OfferLive, h]

/-! ### What the methods answer -/

theorem getInfo_of_offerLive {st : Storage RT} {node : DomainHash} (h : OfferLive st node) :
    getInfo st node = none := by
  obtain ⟨offer, hoffer, hlt⟩ := h
  simp [getInfo, hoffer, hlt]

theorem getInfo_of_not_offerLive {st : Storage RT} {node : DomainHash} (h : ¬ OfferLive st node) :
    getInfo st node = (st.registrarInfos node).bind fun info =>
      if info.expire ≤ st.now then none else (st.tokens 0 node).map (nameRecord st node info) := by
  have tail : ∀ info : RegistrarInfo, (if info.expire ≤ st.now then none else
      (st.tokens 0 node).map (nameRecord st node info)) =
      if info.expire ≤ st.now then none else
        (st.tokens 0 node).bind fun token => some (nameRecord st node info token) := by
    intro info
    cases st.tokens 0 node <;> rfl
  simp only [tail]
  unfold getInfo
  cases hoffer : st.offeredNames node with
  | none => cases st.registrarInfos node <;> simp [nameRecord]
  | some offer =>
    rw [offerLive_of_row hoffer] at h
    cases st.registrarInfos node <;> simp [h, nameRecord]

/-- **`get_info` answers exactly for visible nodes**, with the record of the node. -/
theorem getInfo_eq_some_iff {st : Storage RT} {node : DomainHash} {r : NameRecord} :
    getInfo st node = some r ↔ ¬ OfferLive st node ∧ ∃ info token, st.registrarInfos node = some info ∧
      st.now < info.expire ∧ st.tokens 0 node = some token ∧ nameRecord st node info token = r := by
  by_cases h : OfferLive st node
  · simp [getInfo_of_offerLive h, h]
  · simp only [getInfo_of_not_offerLive h, h, not_false_eq_true, true_and, Option.bind_eq_some_iff,
      Option.ite_none_left_eq_some, Option.map_eq_some_iff, UInt64.not_le]
    constructor
    · rintro ⟨info, hinfo, hlt, token, htoken, hr⟩
      exact ⟨info, token, hinfo, hlt, htoken, hr⟩
    · rintro ⟨info, token, hinfo, hlt, htoken, hr⟩
      exact ⟨info, hinfo, hlt, token, htoken, hr⟩

theorem getInfo_isSome_iff {st : Storage RT} {node : DomainHash} :
    (getInfo st node).isSome = true ↔ Visible st node := by
  simp only [Option.isSome_iff_exists, getInfo_eq_some_iff, Visible, Registered]
  constructor
  · rintro ⟨r, hoffer, info, token, hinfo, hlt, htoken, -⟩
    exact ⟨hoffer, ⟨info, hinfo, hlt⟩, token, htoken⟩
  · rintro ⟨hoffer, ⟨info, hinfo, hlt⟩, token, htoken⟩
    exact ⟨_, hoffer, info, token, hinfo, hlt, htoken, rfl⟩

theorem not_visible_of_hidden {st : Storage RT} {node : DomainHash} (h : Hidden st node) : ¬ Visible st node := by
  rintro ⟨hoffer, ⟨info, hinfo, hlt⟩, -⟩
  obtain ⟨info', hinfo', hexp | hlive⟩ := h
  · obtain rfl : info = info' := Option.some_inj.mp (hinfo.symm.trans hinfo')
    exact absurd hexp (UInt64.not_le.mpr hlt)
  · exact hoffer hlive

theorem getInfo_eq_none_of_hidden {st : Storage RT} {node : DomainHash} (h : Hidden st node) :
    getInfo st node = none := by
  rw [← Option.not_isSome_iff_eq_none, getInfo_isSome_iff]
  exact not_visible_of_hidden h

/-! ### Queries by name -/

section Names

variable (P : Pallets RT Label E) (st : Storage RT) (name : Bytes)

/-- The node of a name, as the label parser gives it. -/
def labelNode : Option DomainHash :=
  (P.newWithLen name).map fun p => P.encodeWithNode p.1 P.nativeBasenode

/-- **The two copies agree**: `resolve_name` is `get_info` of the node of the label. -/
theorem resolveName_eq : resolveName P st name = (labelNode P name).bind (getInfo st) := by
  unfold resolveName labelNode
  cases P.newWithLen name <;> rfl

variable {P st name}

theorem resolveName_of_label {node : DomainHash} (h : labelNode P name = some node) :
    resolveName P st name = getInfo st node := by
  rw [resolveName_eq, h, Option.bind_some]

def listingInfo (l : Listing) : ListingInfo where
  seller := l.seller
  price := l.price
  expiresAt := l.expiresAt
  readBlockNumber := 0
  readBlockHash := default

theorem getListing_of_label {node : DomainHash} (h : labelNode P name = some node) :
    getListing P st name = (st.listings node).map listingInfo := by
  simp only [labelNode, Option.map_eq_some_iff] at h
  obtain ⟨⟨label, len⟩, hlabel, rfl⟩ := h
  simp only [getListing, hlabel]
  cases hlisting : st.listings (P.encodeWithNode label P.nativeBasenode) <;> simp [hlisting, listingInfo]

theorem getListing_isSome_of_label {node : DomainHash} (h : labelNode P name = some node) :
    (getListing P st name).isSome = (st.listings node).isSome := by
  simp only [labelNode, Option.map_eq_some_iff] at h
  obtain ⟨⟨label, len⟩, hlabel, rfl⟩ := h
  simp only [getListing, hlabel]
  cases hlisting : st.listings (P.encodeWithNode label P.nativeBasenode) <;> simp [hlisting]

theorem getListing_of_no_label (h : labelNode P name = none) : getListing P st name = none := by
  simp only [labelNode, Option.map_eq_none_iff] at h
  simp [getListing, h]

theorem lookupByName_of_parse {node : DomainHash} (h : P.parseNameToNode name P.nativeBasenode = some node)
    (types : List RT) : lookupByName P st name types = lookup P st node types := by
  simp [lookupByName, lookup, h]

theorem ParsersAgree.parse_of_label (hP : ParsersAgree P) {node : DomainHash} (h : labelNode P name = some node) :
    P.parseNameToNode name P.nativeBasenode = some node := by
  simp only [labelNode, Option.map_eq_some_iff] at h
  obtain ⟨⟨label, len⟩, hlabel, rfl⟩ := h
  exact hP name label len hlabel

end Names

/-! ### Record lookups -/

theorem lookup_eq_nil_iff {P : Pallets RT Label E} (hP : ResolversLookup P) {st : Storage RT} {node : DomainHash}
    {types : List RT} : lookup P st node types = [] ↔ ∀ t ∈ types, st.records node t = none := by
  rw [List.eq_nil_iff_forall_not_mem]
  constructor
  · intro h t ht
    by_contra hne
    obtain ⟨data, hdata⟩ := Option.ne_none_iff_exists'.mp hne
    exact h (t, data) ((hP st node types t data).mpr ⟨ht, hdata⟩)
  · rintro h ⟨t, data⟩ hmem
    obtain ⟨ht, hdata⟩ := (hP st node types t data).mp hmem
    rw [h t ht] at hdata
    cases hdata

end PaseoNode.Runtime
