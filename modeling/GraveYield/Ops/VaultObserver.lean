import GraveYield.Lib.InsertionMap
import GraveYield.Sdk.Accounts

/-!
# The vault observer

One sweep over the accounts of the vault program : `tryDecodeVaultAccount` decodes each with the
SDK by its discriminator, `observeAccounts` sorts them into receipts, claim records and
registries, and `buildClaimRollups` reconciles them pool by pool. The addresses are compared as
texts; `toBase58` is the text of a key.
-/

namespace GraveYield.Ops

open Machine Checked Sdk

/-! ## The source -/

/-- A program-owned account of a sweep. -/
structure OwnedAccount where
  pubkey : Pubkey
  data : List Byte
  deriving DecidableEq

/-- `DecodedVaultAccount`. -/
inductive DecodedVaultAccount where
  | salvageReceipt (receipt : SalvageReceipt)
  | claimRecord (claim : ClaimRecord)
  | poolRegistry (registry : PoolRegistry)
  | vaultConfig (config : VaultProtocolConfig)

/-- `ReceiptChecks`. -/
structure ReceiptChecks where
  r1Sum : Bool
  r2Shares : Bool
  deriving DecidableEq

/-- `ObservedReceipt`. -/
structure ObservedReceipt where
  address : String
  receipt : SalvageReceipt
  checks : ReceiptChecks

/-- `ObservedClaim`. -/
structure ObservedClaim where
  address : String
  claim : ClaimRecord

/-- `ObservedRegistry`. -/
structure ObservedRegistry where
  address : String
  registry : PoolRegistry

/-- `RollupChecks`. -/
structure RollupChecks where
  c1Accounted : Bool
  c2WithinCeiling : Bool
  c3Agrees : Bool
  deriving DecidableEq

/-- `PoolClaimRollup`. -/
structure PoolClaimRollup where
  poolAddress : String
  claims : ℕ
  claimedLamports : ℕ
  registryClaimedLamports : Option ℕ
  receiptLpHolderLamports : Option ℕ
  checks : RollupChecks

/-- What the accounts of a sweep decode to, and how many are unknown. -/
structure Accounts where
  receipts : List ObservedReceipt
  claims : List ObservedClaim
  registries : List ObservedRegistry
  vaultConfig : Option VaultProtocolConfig
  unknownAccounts : ℕ

/-- What is observed before the first account. -/
def Accounts.none : Accounts :=
  ⟨[], [], [], .none, 0⟩

/-- The part of `VaultObservation` that the accounts decide. -/
structure VaultObservation extends Accounts where
  rollups : List PoolClaimRollup
  anomalousReceipts : ℕ
  anomalousRollups : ℕ

/-- The share of the LP holders. -/
def lpHolderShareBps : ℕ := 4000

/-- The share of the salvor. -/
def salvorShareBps : ℕ := 4000

/-- The share of the protocol. -/
def protocolShareBps : ℕ := 2000

/-- Within one lamport of the share. -/
def shareMatches (amount total bps : ℕ) : Bool :=
  let share := total * bps / 10000
  let diff := if share < amount then amount - share else share - amount
  diff ≤ 1

/-- `checkReceiptSums`. -/
def checkReceiptSums (receipt : SalvageReceipt) : ReceiptChecks where
  r1Sum := receipt.lpHolderAmountLamports.val + receipt.salvorAmountLamports.val +
    receipt.protocolAmountLamports.val = receipt.totalProceedsLamports.val
  r2Shares :=
    shareMatches receipt.lpHolderAmountLamports.val receipt.totalProceedsLamports.val
      lpHolderShareBps &&
    shareMatches receipt.salvorAmountLamports.val receipt.totalProceedsLamports.val
      salvorShareBps &&
    shareMatches receipt.protocolAmountLamports.val receipt.totalProceedsLamports.val
      protocolShareBps

section Sweep

variable (toBase58 : Pubkey → String) (sha256 : List Byte → Hash)

/-- `none` for an unknown account. -/
def tryDecodeVaultAccount (data : List Byte) : Except BorshError (Option DecodedVaultAccount) :=
  let disc := data.take 8
  if data.length < 8 then .ok none
  else if disc = accountDiscriminator sha256 "SalvageReceipt" then
    (some ∘ .salvageReceipt) <$> decodeSalvageReceipt sha256 data
  else if disc = accountDiscriminator sha256 "ClaimRecord" then
    (some ∘ .claimRecord) <$> decodeClaimRecord sha256 data
  else if disc = accountDiscriminator sha256 "PoolRegistry" then
    (some ∘ .poolRegistry) <$> decodePoolRegistry sha256 data
  else if disc = accountDiscriminator sha256 "ProtocolConfig" then
    (some ∘ .vaultConfig) <$> decodeVaultProtocolConfig sha256 data
  else .ok none

/-- Where an account of the sweep goes. -/
def Accounts.push (accounts : Accounts) (pubkey : Pubkey) : Option DecodedVaultAccount → Accounts
  | some (.salvageReceipt receipt) => { accounts with
      receipts := accounts.receipts ++ [⟨toBase58 pubkey, receipt, checkReceiptSums receipt⟩] }
  | some (.claimRecord claim) => { accounts with
      claims := accounts.claims ++ [⟨toBase58 pubkey, claim⟩] }
  | some (.poolRegistry registry) => { accounts with
      registries := accounts.registries ++ [⟨toBase58 pubkey, registry⟩] }
  | some (.vaultConfig config) => { accounts with vaultConfig := some config }
  | .none => { accounts with unknownAccounts := accounts.unknownAccounts + 1 }

/-- One turn of the loop over the accounts. -/
def observeAccount (accounts : Accounts) (account : OwnedAccount) : Except BorshError Accounts := do
  return accounts.push toBase58 account.pubkey (← tryDecodeVaultAccount sha256 account.data)

/-- The accounts of the program, one after the other. -/
def observeAccounts (owned : List OwnedAccount) : Except BorshError Accounts :=
  owned.foldlM (observeAccount toBase58 sha256) .none

/-- The rollup of one pool. -/
def claimRollup (receiptByPool : InsertionMap String SalvageReceipt)
    (registryByPool : InsertionMap String PoolRegistry) (claims : List ObservedClaim)
    (pool : String) : PoolClaimRollup :=
  let poolClaims := claims.filter fun c => toBase58 c.claim.poolAddress = pool
  let claimedLamports := (poolClaims.map fun c => c.claim.amountLamports.val).sum
  let receipt := receiptByPool.get? pool
  let registry := registryByPool.get? pool
  let receiptLpHolder := receipt.map fun r => r.lpHolderAmountLamports.val
  let registryClaimed := registry.map fun r => r.lpHolderPoolClaimedLamports.val
  { poolAddress := pool
    claims := poolClaims.length
    claimedLamports
    registryClaimedLamports := registryClaimed
    receiptLpHolderLamports := receiptLpHolder
    checks := {
      c1Accounted :=
        match registryClaimed with
        | none => poolClaims.length = 0
        | some claimed => claimed = claimedLamports
      c2WithinCeiling :=
        match receiptLpHolder with
        | none => poolClaims.length = 0
        | some ceiling => claimedLamports ≤ ceiling
      c3Agrees :=
        match registry, receipt with
        | some registry, some receipt =>
          registry.lpHolderPoolTotalLamports = receipt.lpHolderAmountLamports
        | _, _ => true } }

/-- The receipts under their pools. -/
def receiptByPool (receipts : List ObservedReceipt) : InsertionMap String SalvageReceipt :=
  .ofEntries (receipts.map fun r => (toBase58 r.receipt.poolAddress, r.receipt))

/-- The registries under their pools. -/
def registryByPool (registries : List ObservedRegistry) : InsertionMap String PoolRegistry :=
  .ofEntries (registries.map fun r => (toBase58 r.registry.poolAddress, r.registry))

/-- The pools of all accounts, without repetition. -/
def rollupPools (receipts : List ObservedReceipt) (claims : List ObservedClaim)
    (registries : List ObservedRegistry) : List String :=
  (receipts.map (fun r => toBase58 r.receipt.poolAddress) ++
    claims.map (fun c => toBase58 c.claim.poolAddress) ++
    registries.map fun r => toBase58 r.registry.poolAddress).dedup

/-- `buildClaimRollups`: one for each pool, in the order of the addresses. -/
def buildClaimRollups (receipts : List ObservedReceipt) (claims : List ObservedClaim)
    (registries : List ObservedRegistry) : List PoolClaimRollup :=
  ((rollupPools toBase58 receipts claims registries).mergeSort fun a b => a ≤ b).map
    (claimRollup toBase58 (receiptByPool toBase58 receipts) (registryByPool toBase58 registries)
      claims)

/-- Whether both checks of a receipt pass. -/
def ReceiptChecks.pass (checks : ReceiptChecks) : Bool :=
  checks.r1Sum && checks.r2Shares

/-- Whether all checks of a rollup pass. -/
def RollupChecks.pass (checks : RollupChecks) : Bool :=
  checks.c1Accounted && checks.c2WithinCeiling && checks.c3Agrees

/-- What `runOnce` makes of the accounts. -/
def observe (owned : List OwnedAccount) : Except BorshError VaultObservation := do
  let accounts ← observeAccounts toBase58 sha256 owned
  let rollups := buildClaimRollups toBase58 accounts.receipts accounts.claims accounts.registries
  return { accounts with
    rollups
    anomalousReceipts := (accounts.receipts.filter fun r => !r.checks.pass).length
    anomalousRollups := (rollups.filter fun r => !r.checks.pass).length }

end Sweep

end GraveYield.Ops
