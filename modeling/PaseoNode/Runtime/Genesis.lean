import PaseoNode.Runtime.FindAuthor
import PaseoNode.Runtime.Gate

/-!
# The genesis of a chain

* `testnetGenesis` — the genesis configuration, populated with its authorities, its endowed accounts and its
  root;
* `developmentConfigGenesis`, `localConfigGenesis`, `getPreset`, `presetNames` — the presets, by their ids;
* `GenesisConfig.Ok` — what the pallets insist on when they build their genesis, and `testnetGenesis_ok`;
* `GenesisConfig.BuiltFrom` — the state that they build;
* `genesis_admits_only_root` — who may use which name at genesis: the root account its base node, and nobody
  anything else.
-/

namespace PaseoNode.Runtime

open PaseoNode.Lib

variable {AuraId GrandpaId Record RT Label E : Type}

/-! ### The configuration -/

/-- One token, of 12 decimal places. -/
def unit : Balance := 1000000000000

def milliUnit : Balance := 1000000000

def existentialDeposit : Balance := milliUnit

/-- A token of `nft::GenesisConfig`: its owner, its metadata, its data and its id. -/
structure GenesisToken (Record : Type) where
  owner : AccountId
  metadata : Bytes
  data : Record
  id : DomainHash

/-- A class of `nft::GenesisConfig`.  The data of a class is `()`. -/
structure GenesisClass (Record : Type) where
  owner : AccountId
  metadata : Bytes
  tokens : List (GenesisToken Record)

/-- The fields of `RuntimeGenesisConfig` that the patch sets.  `Record` is the token data of `pns_types`. -/
structure GenesisConfig (AuraId GrandpaId Record : Type) where
  balances : List (AccountId × Balance)
  auraAuthorities : List AuraId
  grandpaAuthorities : List (GrandpaId × UInt64)
  sudoKey : Option AccountId
  nftTokens : List (GenesisClass Record)
  basePrices : Vector Balance 11
  rentPrices : Vector Balance 11
  initRate : Balance
  official : Option AccountId
  origin : List (DomainHash × DomainHash)
  infos : List (DomainHash × RegistrarInfo)
  reservedList : List DomainHash
  reservedNames : List Bytes

/-- What an endowed account starts with. -/
def endowment : Balance := (1 : Balance) <<< 60

def testnetGenesis [Inhabited Record] (nativeBasenode : DomainHash) (initialAuthorities : List (AuraId × GrandpaId))
    (endowedAccounts : List AccountId) (root : AccountId) : GenesisConfig AuraId GrandpaId Record where
  balances := endowedAccounts.map fun k => (k, endowment)
  auraAuthorities := initialAuthorities.map fun x => x.1
  grandpaAuthorities := initialAuthorities.map fun x => (x.2, 1)
  sudoKey := some root
  -- the base node of the native top-level domain
  nftTokens := [{
    owner := root
    metadata := []
    tokens := [{ owner := root, metadata := [], data := default, id := nativeBasenode }] }]
  basePrices := #v[1000 * unit, 100 * unit, 45 * unit, 25 * unit, 10 * unit, unit / 2, unit / 2, unit / 2, unit / 2,
    unit / 2, unit / 2]
  rentPrices := #v[0, 0, 0, 0, 0, 0, 0, 0, 0, 0, 0]
  initRate := 1
  official := some root
  origin := []
  infos := []
  reservedList := []
  reservedNames := ["polkadot", "kusama", "paseo", "westend", "fellowship", "hub", "polkadothub", "assethub",
    "collectives", "pusd", "pop", "revive", "jam", "people", "dap"].map fun name => name.toUTF8.toList

/-! ### Keys -/

inductive Sr25519Keyring where
  | alice | bob | charlie | dave | eve | ferdie
  | aliceStash | bobStash | charlieStash | daveStash | eveStash | ferdieStash
  | one | two
  deriving DecidableEq

namespace Sr25519Keyring

def iter : List Sr25519Keyring :=
  [alice, bob, charlie, dave, eve, ferdie, aliceStash, bobStash, charlieStash, daveStash, eveStash, ferdieStash,
    one, two]

theorem iter_nodup : iter.Nodup := by decide

end Sr25519Keyring

/-- The accounts of the keyring, and the public keys of the pairs that a secret string gives. -/
structure Keys (AuraId GrandpaId : Type) where
  toAccountId : Sr25519Keyring → AccountId
  sr25519FromString : String → Option AuraId
  ed25519FromString : String → Option GrandpaId

/-- The keyring is that of the well-known seeds: its accounts differ, the seeds of the two authorities give
keys, and these are the keys of the accounts. -/
structure Keys.WellKnown (K : Keys AuraId GrandpaId) (A : Aura AuraId) : Prop where
  injective : Function.Injective K.toAccountId
  alice : ∃ key grandpa, K.sr25519FromString "//Alice" = some key ∧ K.ed25519FromString "//Alice" = some grandpa ∧
    A.accountFrom key = K.toAccountId .alice
  bob : ∃ key grandpa, K.sr25519FromString "//Bob" = some key ∧ K.ed25519FromString "//Bob" = some grandpa ∧
    A.accountFrom key = K.toAccountId .bob

/-! ### The presets -/

/-- An `unwrap` of `None`. -/
inductive Panic where
  | unwrapNone
  deriving DecidableEq

def unwrap {α : Type} : Option α → Except Panic α
  | some a => .ok a
  | none => .error .unwrapNone

def authorityKeysFromSeed (K : Keys AuraId GrandpaId) (s : String) : Except Panic (AuraId × GrandpaId) := do
  let aura ← unwrap (K.sr25519FromString ("//" ++ s))
  let grandpa ← unwrap (K.ed25519FromString ("//" ++ s))
  return (aura, grandpa)

section Presets

variable [Inhabited Record] (nativeBasenode : DomainHash) (K : Keys AuraId GrandpaId)

def developmentConfigGenesis : Except Panic (GenesisConfig AuraId GrandpaId Record) := do
  let alice ← authorityKeysFromSeed K "Alice"
  return testnetGenesis nativeBasenode [alice]
    [K.toAccountId .alice, K.toAccountId .bob, K.toAccountId .aliceStash, K.toAccountId .bobStash]
    (K.toAccountId .alice)

def localConfigGenesis : Except Panic (GenesisConfig AuraId GrandpaId Record) := do
  let alice ← authorityKeysFromSeed K "Alice"
  let bob ← authorityKeysFromSeed K "Bob"
  return testnetGenesis nativeBasenode [alice, bob]
    ((Sr25519Keyring.iter.filter fun v => v ≠ .one && v ≠ .two).map K.toAccountId) (K.toAccountId .alice)

/-- The ids of `sp_genesis_builder`. -/
structure PresetIds where
  devRuntimePreset : String
  localTestnetRuntimePreset : String

variable (ids : PresetIds)

/-- `get_preset`, before the patch is written out as JSON. -/
def getPreset (id : String) : Except Panic (Option (GenesisConfig AuraId GrandpaId Record)) :=
  if id = ids.devRuntimePreset then do
    return some (← developmentConfigGenesis nativeBasenode K)
  else if id = ids.localTestnetRuntimePreset then do
    return some (← localConfigGenesis nativeBasenode K)
  else
    return none

def presetNames : List String := [ids.devRuntimePreset, ids.localTestnetRuntimePreset]

end Presets

/-! ### What the pallets insist on -/

/-- The balances are of different accounts, not below the existential deposit and with a total that a `Balance`
holds; the authorities are different and no more than `MaxAuthorities`. -/
structure GenesisConfig.Ok (g : GenesisConfig AuraId GrandpaId Record) : Prop where
  accounts_nodup : (g.balances.map fun p => p.1).Nodup
  balances_ge : ∀ p ∈ g.balances, existentialDeposit ≤ p.2
  issuance_lt : (g.balances.map fun p => p.2.toNat).sum < 2 ^ 128
  authorities_nodup : g.auraAuthorities.Nodup
  authorities_le : g.auraAuthorities.length ≤ maxAuthorities.toNat
  grandpa_le : g.grandpaAuthorities.length ≤ maxAuthorities.toNat

section Testnet

variable [Inhabited Record] {nativeBasenode : DomainHash} {initialAuthorities : List (AuraId × GrandpaId)}
  {endowedAccounts : List AccountId} {root : AccountId}

theorem toNat_endowment : endowment.toNat = 2 ^ 60 := by decide

theorem existentialDeposit_le_endowment : existentialDeposit ≤ endowment := by decide

/-- **A testnet configuration is sound** when the accounts and the authorities given to it are different and not
too many. -/
theorem testnetGenesis_ok (haccounts : endowedAccounts.Nodup) (hcount : endowedAccounts.length < 2 ^ 68)
    (hauthorities : (initialAuthorities.map fun x => x.1).Nodup)
    (hle : initialAuthorities.length ≤ maxAuthorities.toNat) :
    (testnetGenesis nativeBasenode initialAuthorities endowedAccounts root :
      GenesisConfig AuraId GrandpaId Record).Ok where
  accounts_nodup := by
    have hfst : (endowedAccounts.map fun k => (k, endowment)).map (fun p => p.1) = endowedAccounts := by
      rw [List.map_map]
      exact List.map_id _
    unfold testnetGenesis
    rw [hfst]
    exact haccounts
  balances_ge p hp := by
    obtain ⟨k, -, rfl⟩ := List.mem_map.mp hp
    exact existentialDeposit_le_endowment
  issuance_lt := by
    have hsum : ((endowedAccounts.map fun k => (k, endowment)).map fun p => p.2.toNat).sum =
        endowedAccounts.length * 2 ^ 60 := by
      rw [List.map_map]
      have hconst : ((fun p : AccountId × Balance => p.2.toNat) ∘ fun k => (k, endowment)) = fun _ => 2 ^ 60 := by
        funext k
        exact toNat_endowment
      rw [hconst, List.map_const', List.sum_replicate, smul_eq_mul]
    unfold testnetGenesis
    rw [hsum]
    omega
  authorities_nodup := hauthorities
  authorities_le := by simpa [testnetGenesis] using hle
  grandpa_le := by simpa [testnetGenesis] using hle

end Testnet

/-- A configuration whose authorities can author: there is one, and the account of each is endowed. -/
structure GenesisConfig.Staffed (g : GenesisConfig AuraId GrandpaId Record) (A : Aura AuraId) : Prop where
  nonempty : g.auraAuthorities ≠ []
  endowed : ∀ authority ∈ g.auraAuthorities, (A.accountFrom authority, endowment) ∈ g.balances

theorem testnetGenesis_staffed [Inhabited Record] {nativeBasenode : DomainHash} {A : Aura AuraId}
    {initialAuthorities : List (AuraId × GrandpaId)} {endowedAccounts : List AccountId} {root : AccountId}
    (hne : initialAuthorities ≠ []) (h : ∀ x ∈ initialAuthorities, A.accountFrom x.1 ∈ endowedAccounts) :
    (testnetGenesis nativeBasenode initialAuthorities endowedAccounts root :
      GenesisConfig AuraId GrandpaId Record).Staffed A where
  nonempty := by
    unfold testnetGenesis
    exact fun hnil => hne (List.map_eq_nil_iff.mp hnil)
  endowed authority hauthority := by
    obtain ⟨x, hx, rfl⟩ := List.mem_map.mp hauthority
    exact List.mem_map_of_mem (h x hx)

section Presets

variable [Inhabited Record] {nativeBasenode : DomainHash} {K : Keys AuraId GrandpaId} {A : Aura AuraId}
  {ids : PresetIds}

theorem authorityKeysFromSeed_ok {s : String} {key : AuraId} {grandpa : GrandpaId}
    (hkey : K.sr25519FromString ("//" ++ s) = some key) (hgrandpa : K.ed25519FromString ("//" ++ s) = some grandpa) :
    authorityKeysFromSeed K s = .ok (key, grandpa) := by
  rw [authorityKeysFromSeed, hkey, hgrandpa]
  rfl

theorem developmentConfigGenesis_spec (hK : K.WellKnown A) :
    ∃ g : GenesisConfig AuraId GrandpaId Record, developmentConfigGenesis nativeBasenode K = .ok g ∧ g.Ok ∧
      g.Staffed A := by
  obtain ⟨key, grandpa, hkey, hgrandpa, haccount⟩ := hK.alice
  have halice : authorityKeysFromSeed K "Alice" = .ok (key, grandpa) := authorityKeysFromSeed_ok hkey hgrandpa
  have hdev : (developmentConfigGenesis nativeBasenode K : Except Panic (GenesisConfig AuraId GrandpaId Record)) =
      .ok (testnetGenesis nativeBasenode [(key, grandpa)]
        ([.alice, .bob, .aliceStash, .bobStash].map K.toAccountId) (K.toAccountId .alice)) := by
    rw [developmentConfigGenesis, halice]
    rfl
  refine ⟨_, hdev, testnetGenesis_ok ?_ ?_ ?_ ?_, testnetGenesis_staffed ?_ ?_⟩
  · exact List.Nodup.map hK.injective (by decide)
  · simp
  · exact List.nodup_singleton key
  · simp [maxAuthorities]
  · exact List.cons_ne_nil _ _
  · intro x hx
    rw [List.mem_singleton.mp hx, haccount]
    exact List.mem_map_of_mem List.mem_cons_self

theorem localConfigGenesis_spec (hK : K.WellKnown A) :
    ∃ g : GenesisConfig AuraId GrandpaId Record, localConfigGenesis nativeBasenode K = .ok g ∧ g.Ok ∧ g.Staffed A := by
  obtain ⟨key, grandpa, hkey, hgrandpa, haccount⟩ := hK.alice
  obtain ⟨key', grandpa', hkey', hgrandpa', haccount'⟩ := hK.bob
  have halice : authorityKeysFromSeed K "Alice" = .ok (key, grandpa) := authorityKeysFromSeed_ok hkey hgrandpa
  have hbob : authorityKeysFromSeed K "Bob" = .ok (key', grandpa') := authorityKeysFromSeed_ok hkey' hgrandpa'
  have hlocal : (localConfigGenesis nativeBasenode K : Except Panic (GenesisConfig AuraId GrandpaId Record)) =
      .ok (testnetGenesis nativeBasenode [(key, grandpa), (key', grandpa')]
        ((Sr25519Keyring.iter.filter fun v => v ≠ .one && v ≠ .two).map K.toAccountId) (K.toAccountId .alice)) := by
    rw [localConfigGenesis, halice, hbob]
    rfl
  -- two accounts of the keyring that differ have keys that differ
  have hne : key ≠ key' := by
    rintro rfl
    have := hK.injective (haccount.symm.trans haccount')
    cases this
  refine ⟨_, hlocal, testnetGenesis_ok ?_ ?_ ?_ ?_, testnetGenesis_staffed ?_ ?_⟩
  · exact List.Nodup.map hK.injective (Sr25519Keyring.iter_nodup.filter _)
  · rw [List.length_map]
    exact (List.length_filter_le _ _).trans_lt (by decide)
  · simpa using hne
  · simp [maxAuthorities]
  · exact List.cons_ne_nil _ _
  · intro x hx
    rcases List.mem_cons.mp hx with rfl | hx
    · rw [haccount]
      exact List.mem_map_of_mem (by decide)
    · rw [List.mem_singleton.mp hx, haccount']
      exact List.mem_map_of_mem (by decide)

/-- **Every listed preset exists and is sound**, and no other id has one. -/
theorem getPreset_spec (hK : K.WellKnown A) (id : String) :
    (id ∈ presetNames ids → ∃ g : GenesisConfig AuraId GrandpaId Record,
      getPreset nativeBasenode K ids id = .ok (some g) ∧ g.Ok ∧ g.Staffed A) ∧
    (id ∉ presetNames ids →
      (getPreset nativeBasenode K ids id : Except Panic (Option (GenesisConfig AuraId GrandpaId Record))) =
        .ok none) := by
  unfold getPreset
  by_cases hdev : id = ids.devRuntimePreset
  · have hspec : ∃ g : GenesisConfig AuraId GrandpaId Record, developmentConfigGenesis nativeBasenode K = .ok g ∧ g.Ok ∧
        g.Staffed A := developmentConfigGenesis_spec hK
    obtain ⟨g, hg, hok, hstaffed⟩ := hspec
    rw [if_pos hdev, hg]
    exact ⟨fun _ => ⟨g, rfl, hok, hstaffed⟩, fun hno => absurd (by simp [presetNames, hdev]) hno⟩
  · rw [if_neg hdev]
    by_cases hlocal : id = ids.localTestnetRuntimePreset
    · have hspec : ∃ g : GenesisConfig AuraId GrandpaId Record, localConfigGenesis nativeBasenode K = .ok g ∧ g.Ok ∧
          g.Staffed A := localConfigGenesis_spec hK
      obtain ⟨g, hg, hok, hstaffed⟩ := hspec
      rw [if_pos hlocal, hg]
      exact ⟨fun _ => ⟨g, rfl, hok, hstaffed⟩, fun hno => absurd (by simp [presetNames, hlocal]) hno⟩
    · rw [if_neg hlocal]
      exact ⟨fun hmem => absurd hmem (by simp [presetNames, hdev, hlocal]), fun _ => rfl⟩

end Presets

/-! ### The state at genesis -/

/-- What the pallets build of a configuration, as far as the names and the authors go. -/
structure GenesisState (AuraId RT : Type) where
  storage : Storage RT
  authorities : BoundedVec AuraId maxAuthorities
  freeBalance : AccountId → Balance

/-- The state has the rows of the configuration, and no others: tokens in the class of their position,
registrations, and nothing offered, listed, recorded or approved. -/
structure GenesisConfig.BuiltFrom (g : GenesisConfig AuraId GrandpaId Record) (s : GenesisState AuraId RT) : Prop where
  freeBalance : ∀ p ∈ g.balances, s.freeBalance p.1 = p.2
  authorities : s.authorities.toList = g.auraAuthorities
  tokens : ∀ c n, s.storage.tokens c n = g.nftTokens[c.toNat]?.bind fun cls =>
    (cls.tokens.find? fun token => token.id = n).map fun token => ⟨token.owner⟩
  registrarInfos : ∀ n, s.storage.registrarInfos n = (g.infos.find? fun entry => entry.1 = n).map fun entry => entry.2
  offeredNames : ∀ n, s.storage.offeredNames n = none
  listings : ∀ n, s.storage.listings n = none
  records : ∀ n t, s.storage.records n t = none
  approvals : ∀ n account, s.storage.approvals n account = false

/-- A state with exactly the rows of a sound configuration. -/
def GenesisConfig.build (g : GenesisConfig AuraId GrandpaId Record) (hok : g.Ok) : GenesisState AuraId RT where
  storage := {
    now := 0
    offeredNames := fun _ => none
    registrarInfos := fun n => (g.infos.find? fun entry => entry.1 = n).map fun entry => entry.2
    tokens := fun c n => g.nftTokens[c.toNat]?.bind fun cls =>
      (cls.tokens.find? fun token => token.id = n).map fun token => ⟨token.owner⟩
    listings := fun _ => none
    records := fun _ _ => none
    approvals := fun _ _ => false
    runtimeOrigins := fun _ => none }
  authorities := ⟨g.auraAuthorities, hok.authorities_le⟩
  freeBalance account := (g.balances.find? fun p => p.1 = account).elim 0 fun p => p.2

theorem find?_of_nodup_keys {α β : Type} [DecidableEq α] {l : List (α × β)} (h : (l.map fun p => p.1).Nodup)
    {p : α × β} (hp : p ∈ l) : (l.find? fun q => q.1 = p.1) = some p := by
  induction l with
  | nil => cases hp
  | cons q l ih =>
    rw [List.map_cons, List.nodup_cons] at h
    rcases List.mem_cons.mp hp with rfl | hp
    · simp
    · have hne : ¬ q.1 = p.1 := by
        intro heq
        apply h.1
        rw [heq]
        exact List.mem_map_of_mem hp
      rw [List.find?_cons_of_neg (by simpa using hne)]
      exact ih h.2 hp

theorem GenesisConfig.builtFrom_build (g : GenesisConfig AuraId GrandpaId Record) (hok : g.Ok) :
    g.BuiltFrom (g.build hok : GenesisState AuraId RT) where
  freeBalance p hp := by
    show (g.balances.find? fun q => q.1 = p.1).elim 0 (fun q => q.2) = p.2
    rw [find?_of_nodup_keys hok.accounts_nodup hp]
    rfl
  authorities := rfl
  tokens _ _ := rfl
  registrarInfos _ := rfl
  offeredNames _ := rfl
  listings _ := rfl
  records _ _ := rfl
  approvals _ _ := rfl

/-- On a staffed genesis, every block whose first Aura digest carries a slot has an author, who is endowed. -/
theorem author_endowed {A : Aura AuraId} (hA : DecodesSlot A) {g : GenesisConfig AuraId GrandpaId Record}
    (hstaffed : g.Staffed A) {s : GenesisState AuraId RT} (hs : g.BuiltFrom s)
    {digests : List (ConsensusEngineId × Bytes)} {data : Bytes} (hdata : firstAura A digests = some data)
    (hlen : 8 ≤ data.length) :
    ∃ account, findAuthor A s.authorities digests = some account ∧ s.freeBalance account = endowment := by
  have hpos : 0 < s.authorities.toList.length := by
    rw [hs.authorities]
    exact List.length_pos_iff.mpr hstaffed.nonempty
  have hposition := (authorPosition_eq_some_iff hA).mpr ⟨data, hdata, hlen, hpos, rfl⟩
  have hauthor := findAuthor_eq_bind A s.authorities digests
  rw [hposition, Option.bind_some, accountAt_slot A hpos] at hauthor
  refine ⟨_, hauthor, ?_⟩
  apply hs.freeBalance (_, endowment)
  apply hstaffed.endowed
  rw [← hs.authorities]
  exact List.get_mem _ _

section State

variable [Inhabited Record] {P : Pallets RT Label E} {initialAuthorities : List (AuraId × GrandpaId)}
  {endowedAccounts : List AccountId} {root : AccountId} {s : GenesisState AuraId RT}

theorem tokens_genesis (hs : (testnetGenesis P.nativeBasenode initialAuthorities endowedAccounts root :
      GenesisConfig AuraId GrandpaId Record).BuiltFrom s) (node : DomainHash) :
    s.storage.tokens 0 node = if node = P.nativeBasenode then some ⟨root⟩ else none := by
  rw [hs.tokens]
  unfold testnetGenesis
  by_cases h : node = P.nativeBasenode
  · simp [h]
  · have hne : ¬ P.nativeBasenode = node := fun heq => h heq.symm
    simp [h, hne]

theorem holdsToken_genesis (hs : (testnetGenesis P.nativeBasenode initialAuthorities endowedAccounts root :
      GenesisConfig AuraId GrandpaId Record).BuiltFrom s) {account : AccountId} {node : DomainHash} :
    HoldsToken s.storage account node ↔ node = P.nativeBasenode ∧ account = root := by
  unfold HoldsToken
  rw [tokens_genesis hs, hs.approvals]
  by_cases h : node = P.nativeBasenode <;> simp [h]

theorem registrarInfos_genesis (hs : (testnetGenesis P.nativeBasenode initialAuthorities endowedAccounts root :
      GenesisConfig AuraId GrandpaId Record).BuiltFrom s) (node : DomainHash) :
    s.storage.registrarInfos node = none := by
  rw [hs.registrarInfos]
  rfl

end State

/-- **At genesis the names belong to root.**  On the state of a testnet configuration, at any time, an account
passes the write gate of a node exactly when it is root and the node is the base node; no node and no name has a
record to show or a listing, and no lookup returns a row. -/
theorem genesis_admits_only_root [Inhabited Record] (P : Pallets RT Label E) (hv : RegistryVerify P)
    (he : ExpiresUseable P) (hP : ResolversLookup P) (initialAuthorities : List (AuraId × GrandpaId))
    (endowedAccounts : List AccountId) (root : AccountId) (s : GenesisState AuraId RT)
    (hs : (testnetGenesis P.nativeBasenode initialAuthorities endowedAccounts root :
      GenesisConfig AuraId GrandpaId Record).BuiltFrom s) (now : Moment) :
    (∀ node account, checkNodeUseable P (s.storage.withNow now) node account = true ↔
      node = P.nativeBasenode ∧ account = root) ∧
    (∀ node, getInfo (s.storage.withNow now) node = none) ∧
    (∀ name, resolveName P (s.storage.withNow now) name = none ∧ getListing P (s.storage.withNow now) name = none) ∧
    ∀ node types, lookup P (s.storage.withNow now) node types = [] := by
  have hregistered : ∀ node, (s.storage.withNow now).registrarInfos node = none := registrarInfos_genesis hs
  have hhidden : ∀ node, getInfo (s.storage.withNow now) node = none := by
    intro node
    rw [← Option.not_isSome_iff_eq_none, getInfo_isSome_iff]
    rintro ⟨-, ⟨info, hinfo, -⟩, -⟩
    rw [hregistered] at hinfo
    cases hinfo
  refine ⟨fun node account => ?_, hhidden, fun name => ⟨?_, ?_⟩, fun node types => ?_⟩
  · -- the gate: no node is registered, so only the token decides
    have hholds : HoldsToken (s.storage.withNow now) account node ↔ node = P.nativeBasenode ∧ account = root :=
      holdsToken_genesis hs
    rw [checkNodeUseable_iff hv he, hholds]
    refine and_iff_left fun info hinfo => ?_
    rw [hregistered] at hinfo
    cases hinfo
  · -- resolve_name
    rw [resolveName_eq]
    cases labelNode P name with
    | none => rfl
    | some node => exact hhidden node
  · -- get_listing
    cases hnode : labelNode P name with
    | none => exact getListing_of_no_label hnode
    | some node =>
      have hlisting : (s.storage.withNow now).listings node = none := hs.listings node
      rw [getListing_of_label hnode, hlisting]
      rfl
  · -- lookup
    rw [lookup_eq_nil_iff hP]
    exact fun t _ => hs.records node t

/-- One authority, and one account that is endowed and root. -/
def youngConfig : GenesisConfig (BitVec 256) Unit Unit := testnetGenesis 1 [(31, ())] [7] 7

theorem youngConfig_ok : youngConfig.Ok :=
  testnetGenesis_ok (by simp) (by simp) (by simp) (by simp [maxAuthorities])

def youngGenesis : GenesisState (BitVec 256) UInt16 := youngConfig.build youngConfig_ok

theorem genesis_admits_only_root_young :
    (∀ node account, checkNodeUseable Pallets.reference (youngGenesis.storage.withNow 5) node account = true ↔
      node = Pallets.reference.nativeBasenode ∧ account = 7) ∧
    (∀ node, getInfo (youngGenesis.storage.withNow 5) node = none) ∧
    (∀ name, resolveName Pallets.reference (youngGenesis.storage.withNow 5) name = none ∧
      getListing Pallets.reference (youngGenesis.storage.withNow 5) name = none) ∧
    ∀ node types, lookup Pallets.reference (youngGenesis.storage.withNow 5) node types = [] := by
  have hbuilt : (testnetGenesis Pallets.reference.nativeBasenode [(31, ())] [7] 7 :
      GenesisConfig (BitVec 256) Unit Unit).BuiltFrom youngGenesis := youngConfig.builtFrom_build youngConfig_ok
  exact genesis_admits_only_root Pallets.reference Pallets.reference.registryVerify Pallets.reference.expiresUseable
    Pallets.reference.resolversLookup [(31, ())] [7] 7 youngGenesis hbuilt 5

end PaseoNode.Runtime
