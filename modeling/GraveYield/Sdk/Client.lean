import GraveYield.Sdk.Attestation
import GraveYield.Sdk.LastSwap

/-!
# The client of the SDK

`evaluatePool` is a dry run of the six criteria over what the node serves. `buildPhase1Ix` and
`buildPhase2Ix` pair an evaluation with its verify instruction, and `buildCertifyAndSalvageIxs`
puts a Phase 2 evaluation before a salvage.
-/

namespace GraveYield.Sdk

open Machine Checked

/-! ## The source -/

/-- What the client asks beside the accounts and the history. None is a throw. -/
structure ClientConnection extends Connection, HistoryConnection where
  /-- The time of the block at a slot, if it has one. -/
  getBlockTime : ℕ → Option (Option ℤ)
  localUnixTs : ℤ
  getEpoch : Option ℕ

/-- What the client throws. -/
inductive ClientError where
  | poolNotFound (poolAddress : Pubkey)
  | scannerConfigNotInitialized
  | vaultConfigNotInitialized
  | epochUnavailable
  | read (e : ReadError)
  | decode (e : BorshError)
  | attestation (e : AttestationError)
  | build (e : BuildError)
  deriving DecidableEq

/-- The fetchers of the accounts. None is an account that is absent. -/
def fetchAccount {α : Type} (decode : List Byte → Except BorshError α) (conn : Connection)
    (pda : Pubkey) : Except BorshError (Option α) :=
  match conn.getAccountInfo pda with
  | none => .ok none
  | some info => some <$> decode info.data

section Fetch

variable (sha256 : List Byte → Hash)

/-- `fetchScannerProtocolConfig`. -/
def fetchScannerProtocolConfig : Connection → Pubkey →
    Except BorshError (Option ScannerProtocolConfig) :=
  fetchAccount (decodeScannerProtocolConfig sha256)

/-- `fetchVaultProtocolConfig`. -/
def fetchVaultProtocolConfig : Connection → Pubkey →
    Except BorshError (Option VaultProtocolConfig) :=
  fetchAccount (decodeVaultProtocolConfig sha256)

/-- `fetchEligibilityAnchor`. -/
def fetchEligibilityAnchor : Connection → Pubkey → Except BorshError (Option EligibilityAnchor) :=
  fetchAccount (decodeEligibilityAnchor sha256)

/-- `fetchLaunchPrice`. -/
def fetchLaunchPrice : Connection → Pubkey → Except BorshError (Option LaunchPriceAccount) :=
  fetchAccount (decodeLaunchPrice sha256)

end Fetch

/-- `CriteriaOutcome`. -/
structure CriteriaOutcome where
  c1Inactivity : Bool
  c2PriceCollapse : Bool
  c3MinTvl : Bool
  c4LpNotBurned : Bool
  c5NoLock : Bool
  c6EpochConfirmed : Bool
  deriving DecidableEq

/-- The pool as the outcome shows it. -/
structure PoolOutcome where
  coinVault : Pubkey
  pcVault : Pubkey
  baseMint : Pubkey
  quoteMint : Pubkey
  lpMint : Pubkey
  coinReserve : U64
  pcReserve : U64
  lpSupply : U64
  deriving DecidableEq

/-- `EvaluatePoolOutcome`. -/
structure EvaluatePoolOutcome where
  poolAddress : Pubkey
  ammProgramId : Pubkey
  eligible : Bool
  criteria : CriteriaOutcome
  failedCriteria : List String
  anchorPda : Pubkey
  certPda : Pubkey
  launchPricePda : Pubkey
  pool : PoolOutcome
  uncxMarkerPresent : Bool
  deriving DecidableEq

/-- The names of the criteria that do not hold, in order. -/
def CriteriaOutcome.failed (c : CriteriaOutcome) : List String :=
  [(c.c1Inactivity, "C1-inactivity"), (c.c2PriceCollapse, "C2-price-collapse"),
    (c.c3MinTvl, "C3-min-tvl"), (c.c4LpNotBurned, "C4-lp-not-burned"), (c.c5NoLock, "C5-no-lock"),
    (c.c6EpochConfirmed, "C6-epoch-confirmed")].filterMap fun (holds, name) =>
      if holds then none else some name

/-- The two program ids, the node, and the configurations read so far. -/
structure GraveYieldClient where
  connection : ClientConnection
  graveScannerProgramId : Pubkey
  graveVaultProgramId : Pubkey
  scannerConfig : Option ScannerProtocolConfig
  vaultConfig : Option VaultProtocolConfig

/-- Criterion 1. A throw on the way counts as a recent swap. -/
def inactive (conn : ClientConnection) (scanner : ScannerProtocolConfig)
    (ammProgramId poolAddress : Pubkey) : Bool :=
  let checked : Option Bool := do
    match ← (deriveLastSwapV4 conn.toHistoryConnection ammProgramId poolAddress none).toOption with
    | none => return false
    | some lastSwap =>
      let slot ← conn.getSlot
      let blockTime ← conn.getBlockTime slot
      let now := blockTime.getD conn.localUnixTs
      let elapsed := now - lastSwap.lastSwapUnixTs
      return toNumber scanner.inactivitySeconds.val ≤ elapsed
  checked.getD false

/-- Criterion 2, for a recorded launch price. -/
def priceCollapsed (scanner : ScannerProtocolConfig) (launchPrice : Option LaunchPriceAccount)
    (coinReserve pcReserve : U64) : Bool :=
  match launchPrice with
  | none => false
  | some launchPrice =>
    let launch : ℤ := launchPrice.launchPriceQ64x64.val
    let current := quotePerBaseQ64x64 coinReserve.val pcReserve.val
    if 0 < launch ∧ current < launch then
      let dropBps := toNumber ((launch - current) * 10000 / launch)
      (scanner.priceCollapseBps.val : ℤ) ≤ dropBps
    else false

/-- Criterion 3. The side that is not the coin counts where it is wrapped SOL. -/
def tvl (pool : V4PoolAccount) (coinReserve pcReserve : U64) : U64 :=
  if pool.quoteMint = wsolMint then pcReserve else coinReserve

/-- Criterion 6, from the anchor if there is one. -/
def epochConfirmed (conn : ClientConnection) (anchor : Option EligibilityAnchor) :
    Except ClientError Bool :=
  match anchor with
  | none => return false
  | some anchor => do
    let currentEpoch ← okOr conn.getEpoch .epochUnavailable
    return 2 ≤ (currentEpoch : ℤ) - toNumber anchor.firstEligibleEpoch.val

/-- A configuration from the cache, or else from its account. -/
def loadConfig {α : Type} (cached : Option α) (fetched : Except BorshError (Option α))
    (absent : ClientError) : Except ClientError α :=
  match cached with
  | some cfg => .ok cfg
  | none => do
    let cfg ← fetched.mapError .decode
    okOr cfg absent

namespace GraveYieldClient

variable (rt : Runtime) (spl : SplToken)

/-- `ensureConfigs`. -/
def ensureConfigs (client : GraveYieldClient) :
    Except ClientError (ScannerProtocolConfig × VaultProtocolConfig) := do
  let conn := client.connection.toConnection
  let scanner ← loadConfig client.scannerConfig
    (fetchScannerProtocolConfig rt.sha256 conn
      (scannerProtocolConfigPda rt client.graveScannerProgramId)) .scannerConfigNotInitialized
  let vault ← loadConfig client.vaultConfig
    (fetchVaultProtocolConfig rt.sha256 conn
      (vaultProtocolConfigPda rt client.graveVaultProgramId)) .vaultConfigNotInitialized
  return (scanner, vault)

/-- `evaluatePool`. -/
def evaluatePool (client : GraveYieldClient) (poolAddress : Pubkey)
    (optsAmmProgramId : Option Pubkey) : Except ClientError EvaluatePoolOutcome := do
  let conn := client.connection.toConnection
  let scannerProgramId := client.graveScannerProgramId
  let ammProgramId ← okOr
    (optsAmmProgramId.or ((conn.getAccountInfo poolAddress).map AccountInfo.owner))
    (.poolNotFound poolAddress)
  let (scanner, _) ← client.ensureConfigs rt
  let pool ← (fetchV4Pool conn poolAddress).mapError .read
  let coinReserve ← (readVaultReserve spl conn pool.coinVault).mapError .read
  let pcReserve ← (readVaultReserve spl conn pool.pcVault).mapError .read
  let lpSupply ← (readLpMintSupply spl conn pool.lpMint).mapError .read
  let launchPrice ← (fetchLaunchPrice rt.sha256 conn
    (launchPricePda rt scannerProgramId ammProgramId poolAddress)).mapError .decode
  let anchor ← (fetchEligibilityAnchor rt.sha256 conn
    (eligibilityAnchorPda rt scannerProgramId ammProgramId poolAddress)).mapError .decode
  let c6EpochConfirmed ← epochConfirmed client.connection anchor
  let criteria : CriteriaOutcome := {
    c1Inactivity := inactive client.connection scanner ammProgramId poolAddress
    c2PriceCollapse := priceCollapsed scanner launchPrice coinReserve pcReserve
    c3MinTvl := scanner.minTvlLamports.val ≤ (tvl pool coinReserve pcReserve).val
    c4LpNotBurned := scanner.lpBurnDustThreshold.val < lpSupply.val
    c5NoLock := true
    c6EpochConfirmed }
  return {
    poolAddress
    ammProgramId
    eligible := criteria.failed.length = 0
    criteria
    failedCriteria := criteria.failed
    anchorPda := eligibilityAnchorPda rt scannerProgramId ammProgramId poolAddress
    certPda := eligibilityCertPda rt scannerProgramId ammProgramId poolAddress
    launchPricePda := launchPricePda rt scannerProgramId ammProgramId poolAddress
    pool := {
      coinVault := pool.coinVault
      pcVault := pool.pcVault
      baseMint := pool.baseMint
      quoteMint := pool.quoteMint
      lpMint := pool.lpMint
      coinReserve, pcReserve, lpSupply }
    uncxMarkerPresent := false }

end GraveYieldClient

/-! ### Instruction lists -/

/-- `Phase1Input`. -/
structure Phase1Input where
  ammProgramId : Pubkey
  poolAddress : Pubkey
  derivation : LastSwapDerivation
  slotHash : List Byte
  signature : List Byte
  oraclePublicKey : Pubkey
  writer : Pubkey
  remainingAccounts : Option (List AccountMeta)

/-- `Phase2Input`. -/
abbrev Phase2Input := Phase1Input

/-- The attestation of an input, issued at the slot of its derivation. -/
def Phase1Input.attestation (input : Phase1Input) : LastSwapAttestation where
  ammProgramId := input.ammProgramId
  poolAddress := input.poolAddress
  lastSwapUnixTs := input.derivation.lastSwapUnixTs
  issuedSlot := input.derivation.slot
  slotHash := input.slotHash

/-- The verify instruction and the evaluation that `build` makes of an input. The verify
instruction is for an evaluation at position one. -/
def buildPhaseIx (build : EvaluatePoolOpts → Except BuildError TransactionInstruction)
    (scannerProgramId : Pubkey) (input : Phase1Input) :
    Except ClientError (TransactionInstruction × TransactionInstruction) := do
  let msg ← (buildAttestationMessage input.attestation).mapError .attestation
  let phaseIx ← (build {
    scannerProgramId
    ammProgramId := input.ammProgramId
    poolAddress := input.poolAddress
    msg
    writer := input.writer
    remainingAccounts := input.remainingAccounts }).mapError .build
  let precompileIx ← (buildEd25519VerifyInstruction {
    signature := input.signature
    oraclePublicKey := input.oraclePublicKey
    message := msg
    scannerInstructionIndex := 1
    messageAddressOffset := some 72 }).mapError .attestation
  return (precompileIx, phaseIx)

/-- The two instructions that are returned. -/
structure CertifyAndSalvageIxs where
  certifyIx : TransactionInstruction
  salvageIx : TransactionInstruction

/-- The three that are built. -/
structure CertifyAndSalvageOutput where
  precompileIx : TransactionInstruction
  certifyIx : TransactionInstruction
  salvageIx : TransactionInstruction

section Lists

variable (rt : Runtime) (client : GraveYieldClient)

/-- `buildPhase1Ix`. -/
def GraveYieldClient.buildPhase1Ix :
    Phase1Input → Except ClientError (TransactionInstruction × TransactionInstruction) :=
  buildPhaseIx (buildEvaluatePoolPhase1Ix rt) client.graveScannerProgramId

/-- `buildPhase2Ix`. -/
def GraveYieldClient.buildPhase2Ix :
    Phase2Input → Except ClientError (TransactionInstruction × TransactionInstruction) :=
  buildPhaseIx (buildEvaluatePoolPhase2Ix rt) client.graveScannerProgramId

/-- The verify instruction is built and dropped. -/
def GraveYieldClient.buildCertifyAndSalvageIxs (phase2 : Phase2Input)
    (salvage : SalvagePoolIxInput) : Except ClientError CertifyAndSalvageIxs := do
  let (_, certifyIx) ← client.buildPhase2Ix rt phase2
  let salvageIx ← (buildSalvagePoolIx rt salvage).mapError .build
  return { certifyIx, salvageIx }

/-- `buildCertifyAndSalvage` of `certifyAndSalvage.ts`, which keeps the verify instruction. -/
def buildCertifyAndSalvage (phase2 : Phase2Input) (salvage : SalvagePoolIxInput) :
    Except ClientError CertifyAndSalvageOutput := do
  let (precompileIx, certifyIx) ← client.buildPhase2Ix rt phase2
  let salvageIx ← (buildSalvagePoolIx rt salvage).mapError .build
  return { precompileIx, certifyIx, salvageIx }

end Lists

end GraveYield.Sdk
