import PaseoNode.Runtime.Genesis

/-!
# Chain specs

`load_spec` makes the specs of the development chain and of the local testnet, and reads any other from a file.
`specs_start_chains` follows the specs that the node makes by itself through the genesis presets of the runtime
to the author of the first block.
-/

namespace PaseoNode.Node

open PaseoNode.Lib PaseoNode.Runtime

variable {AuraId GrandpaId Record : Type}

inductive ChainType where
  | development
  | «local»
  | live
  | custom (name : String)
  deriving DecidableEq

/-- `GenericChainSpec`: the genesis state comes from the preset of the runtime in `code`, or from elsewhere in
the spec. -/
structure ChainSpec where
  name : String
  id : String
  chainType : ChainType
  code : Bytes
  genesisConfigPresetName : Option String
  deriving DecidableEq

/-- What the specs depend on: the runtime that was built into the node, if any, and the reader of spec files. -/
structure SpecSources where
  wasmBinary : Option Bytes
  fromJsonFile : String → Except String ChainSpec

section Specs

variable (sources : SpecSources) (ids : PresetIds)

/-- `WASM_BINARY.ok_or_else(..)`. -/
def wasmBinary : Except String Bytes :=
  match sources.wasmBinary with
  | some code => .ok code
  | none => .error "Development wasm not available"

def developmentChainSpec : Except String ChainSpec := do
  let code ← wasmBinary sources
  return {
    name := "Development"
    id := "dev"
    chainType := .development
    code := code
    genesisConfigPresetName := some ids.devRuntimePreset }

def localChainSpec : Except String ChainSpec := do
  let code ← wasmBinary sources
  return {
    name := "Local Testnet"
    id := "local_testnet"
    chainType := .local
    code := code
    genesisConfigPresetName := some ids.localTestnetRuntimePreset }

def loadSpec (id : String) : Except String ChainSpec :=
  if id = "dev" then
    developmentChainSpec sources ids
  else if id = "" ∨ id = "local" then
    localChainSpec sources ids
  else
    sources.fromJsonFile id

end Specs

section Load

variable {sources : SpecSources} (ids : PresetIds) {id : String}

/-- The ids of the specs that the node makes by itself. -/
def builtIn : List String := ["dev", "", "local"]

/-- A built-in spec runs the built-in runtime and names one of its presets. -/
theorem loadSpec_builtIn (hid : id ∈ builtIn) {code : Bytes} (hcode : sources.wasmBinary = some code) :
    ∃ spec preset, loadSpec sources ids id = .ok spec ∧ spec.code = code ∧
      spec.genesisConfigPresetName = some preset ∧ preset ∈ presetNames ids := by
  have hwasm : wasmBinary sources = .ok code := by rw [wasmBinary, hcode]
  unfold loadSpec
  by_cases hdev : id = "dev"
  · rw [if_pos hdev, developmentChainSpec, hwasm]
    exact ⟨_, ids.devRuntimePreset, rfl, rfl, rfl, List.mem_cons_self⟩
  · have hlocal : id = "" ∨ id = "local" := by simpa [builtIn, hdev] using hid
    rw [if_neg hdev, if_pos hlocal, localChainSpec, hwasm]
    exact ⟨_, ids.localTestnetRuntimePreset, rfl, rfl, rfl, List.mem_cons_of_mem _ List.mem_cons_self⟩

theorem loadSpec_no_wasm (hid : id ∈ builtIn) (hcode : sources.wasmBinary = none) :
    loadSpec sources ids id = .error "Development wasm not available" := by
  have hwasm : wasmBinary sources = .error "Development wasm not available" := by rw [wasmBinary, hcode]
  unfold loadSpec
  by_cases hdev : id = "dev"
  · rw [if_pos hdev, developmentChainSpec, hwasm]
    rfl
  · have hlocal : id = "" ∨ id = "local" := by simpa [builtIn, hdev] using hid
    rw [if_neg hdev, if_pos hlocal, localChainSpec, hwasm]
    rfl

end Load

/-- **The built-in specs start chains.**  Without a built-in runtime each of them is refused.  With one, each
names a preset that the runtime lists and has; its configuration is sound; and on every state built from it,
every block whose first Aura digest carries a slot has an author, who holds at least the existential deposit. -/
theorem specs_start_chains [Inhabited Record] (nativeBasenode : DomainHash) (K : Keys AuraId GrandpaId)
    (A : Aura AuraId) (hK : K.WellKnown A) (hA : DecodesSlot A) (sources : SpecSources) (ids : PresetIds) (id : String)
    (hid : id ∈ builtIn) :
    (sources.wasmBinary = none → loadSpec sources ids id = .error "Development wasm not available") ∧
    ∀ code, sources.wasmBinary = some code →
      ∃ spec preset, ∃ g : GenesisConfig AuraId GrandpaId Record, loadSpec sources ids id = .ok spec ∧
        spec.code = code ∧ spec.genesisConfigPresetName = some preset ∧ preset ∈ presetNames ids ∧
        getPreset nativeBasenode K ids preset = .ok (some g) ∧ g.Ok ∧
        ∀ (RT : Type) (s : GenesisState AuraId RT), g.BuiltFrom s → ∀ digests data, firstAura A digests = some data →
          8 ≤ data.length → ∃ account, findAuthor A s.authorities digests = some account ∧
            existentialDeposit ≤ s.freeBalance account := by
  refine ⟨loadSpec_no_wasm ids hid, fun code hcode => ?_⟩
  obtain ⟨spec, preset, hspec, hrun, hname, hmem⟩ := loadSpec_builtIn ids hid hcode
  have hpreset : ∃ g : GenesisConfig AuraId GrandpaId Record,
      getPreset nativeBasenode K ids preset = .ok (some g) ∧ g.Ok ∧ g.Staffed A := (getPreset_spec hK preset).1 hmem
  obtain ⟨g, hg, hok, hstaffed⟩ := hpreset
  refine ⟨spec, preset, g, hspec, hrun, hname, hmem, hg, hok, fun RT s hs digests data hdata hlen => ?_⟩
  obtain ⟨account, hauthor, hbalance⟩ := author_endowed hA hstaffed hs hdata hlen
  refine ⟨account, hauthor, ?_⟩
  rw [hbalance]
  exact existentialDeposit_le_endowment

/-! ### A keyring -/

/-- Accounts by their positions in the keyring, and keys that are accounts. -/
def positionKeys : Keys (BitVec 256) Unit where
  toAccountId k := BitVec.ofNat 256 (Sr25519Keyring.iter.idxOf k + 1)
  sr25519FromString s := if s = "//Alice" then some 1 else if s = "//Bob" then some 2 else none
  ed25519FromString _ := some ()

theorem positionKeys_wellKnown : positionKeys.WellKnown Aura.reference where
  injective k k' h := by
    have hlt : ∀ k : Sr25519Keyring, Sr25519Keyring.iter.idxOf k + 1 < 2 ^ 256 := by
      intro k
      have := List.idxOf_le_length (a := k) (l := Sr25519Keyring.iter)
      have hlen : Sr25519Keyring.iter.length = 14 := rfl
      omega
    have hnat := congrArg BitVec.toNat h
    simp only [positionKeys, BitVec.toNat_ofNat, Nat.mod_eq_of_lt (hlt k), Nat.mod_eq_of_lt (hlt k')] at hnat
    have hmem : k ∈ Sr25519Keyring.iter := by cases k <;> decide
    exact (List.idxOf_inj hmem).mp (by omega)
  alice := ⟨1, (), rfl, rfl, rfl⟩
  bob := ⟨2, (), rfl, rfl, rfl⟩

def positionIds : PresetIds := ⟨"development", "local_testnet"⟩

def wasmSources : SpecSources where
  wasmBinary := some [0, 97, 115, 109]
  fromJsonFile _ := .error "no such file"

theorem specs_start_chains_dev :
    (wasmSources.wasmBinary = none →
      loadSpec wasmSources positionIds "dev" = .error "Development wasm not available") ∧
    ∀ code, wasmSources.wasmBinary = some code →
      ∃ spec preset, ∃ g : GenesisConfig (BitVec 256) Unit Unit, loadSpec wasmSources positionIds "dev" = .ok spec ∧
        spec.code = code ∧ spec.genesisConfigPresetName = some preset ∧ preset ∈ presetNames positionIds ∧
        getPreset 1 positionKeys positionIds preset = .ok (some g) ∧ g.Ok ∧
        ∀ (RT : Type) (s : GenesisState (BitVec 256) RT), g.BuiltFrom s → ∀ digests data,
          firstAura Aura.reference digests = some data → 8 ≤ data.length →
            ∃ account, findAuthor Aura.reference s.authorities digests = some account ∧
              existentialDeposit ≤ s.freeBalance account :=
  specs_start_chains 1 positionKeys Aura.reference positionKeys_wellKnown Aura.reference_decodesSlot wasmSources
    positionIds "dev" List.mem_cons_self

end PaseoNode.Node
