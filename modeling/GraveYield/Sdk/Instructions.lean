import GraveYield.Sdk.Accounts
import GraveYield.Sdk.RaydiumV4

/-!
# The instruction builders of the SDK

Twelve builders, eleven of `instructions.ts` and `buildSalvagePoolIx`. Each fills a buffer of a
precomputed size behind the discriminator, and lists the accounts. `BuildersAgree` says that the
data is that of the on-chain parameters.
-/

namespace GraveYield.Sdk

open Machine Checked Wire

/-! ## Addresses -/

/-- `Sysvar1nstructions1111111111111111111111111`. -/
def SYSVAR_INSTRUCTIONS_PUBKEY : Pubkey :=
  Bytes.ofNat 32 0x06a7d517187bd16635dad40455fdc2c0c124c68f215675a5dbbacb5f08000000

/-- `SysvarS1otHashes111111111111111111111111111`. -/
def SYSVAR_SLOT_HASHES_PUBKEY : Pubkey :=
  Bytes.ofNat 32 0x06a7d517192f0aafc6f265e3fb77cc7ada82c529d0be3b136e2d005520000000

/-- `ATokenGPvbdGVxr1b2hvZbsiqW5xWH25efTNsLJA8knL`. -/
def ASSOCIATED_TOKEN_PROGRAM_ID : Pubkey :=
  Bytes.ofNat 32 0x8c97258f4e2489f1bb3d1029148e0d830b5a1399daff1084048e7bd8dbe9f859

/-- The System program's id, of 32 zero bytes. -/
def SYSTEM_PROGRAM_ID : Pubkey :=
  defaultPubkey

section Pdas

variable (rt : Runtime)

/-- The address of the scanner's configuration. -/
def scannerProtocolConfigPda (scannerProgramId : Pubkey) : Pubkey :=
  rt.findProgramAddress [ascii "protocol_config"] scannerProgramId

/-- The address of the anchor of a pool. -/
def eligibilityAnchorPda (scannerProgramId ammProgramId poolAddress : Pubkey) : Pubkey :=
  rt.findProgramAddress [ascii "eligibility_anchor", ammProgramId.val, poolAddress.val]
    scannerProgramId

/-- The address of the cert of a pool. -/
def eligibilityCertPda (scannerProgramId ammProgramId poolAddress : Pubkey) : Pubkey :=
  rt.findProgramAddress [ascii "eligibility_cert", ammProgramId.val, poolAddress.val]
    scannerProgramId

/-- The address of the launch price of a pool. -/
def launchPricePda (scannerProgramId ammProgramId poolAddress : Pubkey) : Pubkey :=
  rt.findProgramAddress [ascii "launch_price", ammProgramId.val, poolAddress.val] scannerProgramId

/-- The address of the vault's configuration. -/
def vaultProtocolConfigPda (vaultProgramId : Pubkey) : Pubkey :=
  rt.findProgramAddress [ascii "protocol_config"] vaultProgramId

/-- The address of the registry of a pool. -/
def poolRegistryPda (vaultProgramId poolAddress : Pubkey) : Pubkey :=
  rt.findProgramAddress [ascii "pool_registry", poolAddress.val] vaultProgramId

/-- The address of the salvage receipt of a pool. -/
def salvageReceiptPda (vaultProgramId poolAddress : Pubkey) : Pubkey :=
  rt.findProgramAddress [ascii "salvage_receipt", poolAddress.val] vaultProgramId

/-- The address of the LP-holder vault of a pool. -/
def lpHolderPoolVaultPda (vaultProgramId poolAddress : Pubkey) : Pubkey :=
  rt.findProgramAddress [ascii "lp_holder_pool", poolAddress.val] vaultProgramId

/-- The address of a holder's claim record for a pool. -/
def claimRecordPda (vaultProgramId poolAddress lpHolder : Pubkey) : Pubkey :=
  rt.findProgramAddress [ascii "claim_record", poolAddress.val, lpHolder.val] vaultProgramId

/-- The address of the treasury. -/
def protocolTreasuryPda (vaultProgramId : Pubkey) : Pubkey :=
  rt.findProgramAddress [ascii "protocol_treasury"] vaultProgramId

/-- The address of the vault authority. -/
def vaultAuthorityPda (vaultProgramId : Pubkey) : Pubkey :=
  rt.findProgramAddress [ascii "vault_authority"] vaultProgramId

/-- The address of the account that a salvage of the pool is settled through. -/
def vaultSolHoldingPda (vaultProgramId poolAddress : Pubkey) : Pubkey :=
  rt.findProgramAddress [ascii "vault_sol_holding", poolAddress.val] vaultProgramId

/-- The associated token account of `owner` for `mint`, which may lie off the curve. -/
def getAssociatedTokenAddressSync (mint owner : Pubkey) : Pubkey :=
  rt.findProgramAddress [owner.val, tokenProgramId.val, mint.val] ASSOCIATED_TOKEN_PROGRAM_ID

end Pdas

/-! ## Instructions -/

/-- `AccountMeta` of web3. -/
structure AccountMeta where
  pubkey : Pubkey
  isSigner : Bool
  isWritable : Bool
  deriving DecidableEq

/-- `TransactionInstruction` of web3. -/
structure TransactionInstruction where
  programId : Pubkey
  keys : List AccountMeta
  data : List Byte
  deriving DecidableEq

/-- What the builders throw. -/
inductive BuildError where
  | borsh (e : BorshError)
  | recordMsgLength (length : ℕ)
  | phase1MsgLength (length : ℕ)
  | phase2MsgLength (length : ℕ)
  | rootLength (length : ℕ)
  | raydiumAccounts (length : ℕ)
  | jupiterRouteAccount (i : ℕ)
  deriving DecidableEq

/-- An account that is only read. -/
def metaReadOnly (pubkey : Pubkey) : AccountMeta := ⟨pubkey, false, false⟩
/-- An account that is written. -/
def metaWritable (pubkey : Pubkey) : AccountMeta := ⟨pubkey, false, true⟩
/-- An account that signs. -/
def metaSigner (pubkey : Pubkey) (writable : Bool) : AccountMeta := ⟨pubkey, true, writable⟩

/-- `globalDiscriminator`. -/
def globalDiscriminator (sha256 : List Byte → Hash) (snakeName : String) : List Byte :=
  (sha256 (ascii "global:" ++ ascii snakeName)).val.take 8

/-- `writer(size)`, the writes, and `done`. -/
def dataOf (size : ℕ) (writes : List (Write BorshError)) : Except BuildError (List Byte) :=
  (writer size writes).mapError .borsh

variable (rt : Runtime)

open Writer

/-! ### The scanner -/

/-- `ScannerInitializeOpts`. A number that is left out is zero. -/
structure ScannerInitializeOpts where
  scannerProgramId : Pubkey
  authority : Pubkey
  payer : Pubkey
  inactivitySeconds : Option ℤ
  priceCollapseBps : Option ℤ
  minTvlLamports : Option ℤ
  anchorStalenessSeconds : Option ℤ
  lpBurnDustThreshold : Option ℤ
  certTtlSeconds : Option ℤ

/-- `initialize` of the scanner, signed by the payer. -/
def buildScannerInitializeIx (opts : ScannerInitializeOpts) :
    Except BuildError TransactionInstruction := do
  let data ← dataOf (8 + 74) [
    bytes (globalDiscriminator rt.sha256 "initialize"),
    bytes opts.authority.val,
    u64 (opts.inactivitySeconds.getD 0),
    u16 (opts.priceCollapseBps.getD 0),
    u64 (opts.minTvlLamports.getD 0),
    u64 (opts.anchorStalenessSeconds.getD 0),
    u64 (opts.lpBurnDustThreshold.getD 0),
    i64 (opts.certTtlSeconds.getD 0)]
  return {
    programId := opts.scannerProgramId
    keys := [
      metaWritable (scannerProtocolConfigPda rt opts.scannerProgramId),
      metaSigner opts.payer true,
      metaReadOnly SYSTEM_PROGRAM_ID]
    data }

/-- `RecordLaunchPriceOpts`. -/
structure RecordLaunchPriceOpts where
  scannerProgramId : Pubkey
  ammProgramId : Pubkey
  poolAddress : Pubkey
  baseMint : Pubkey
  quoteMint : Pubkey
  launchPriceQ64x64 : ℤ
  msg : List Byte
  payer : Pubkey

/-- `record_launch_price`. A message that has not 168 bytes throws. -/
def buildRecordLaunchPriceIx (opts : RecordLaunchPriceOpts) :
    Except BuildError TransactionInstruction := do
  require (opts.msg.length = 168) (.recordMsgLength opts.msg.length)
  let data ← dataOf (8 + 32 * 4 + 16 + 168) [
    bytes (globalDiscriminator rt.sha256 "record_launch_price"),
    bytes opts.ammProgramId.val,
    bytes opts.poolAddress.val,
    bytes opts.baseMint.val,
    bytes opts.quoteMint.val,
    u128 opts.launchPriceQ64x64,
    bytes opts.msg]
  return {
    programId := opts.scannerProgramId
    keys := [
      metaWritable (launchPricePda rt opts.scannerProgramId opts.ammProgramId opts.poolAddress),
      metaReadOnly (scannerProtocolConfigPda rt opts.scannerProgramId),
      metaReadOnly SYSVAR_INSTRUCTIONS_PUBKEY,
      metaSigner opts.payer true,
      metaReadOnly SYSTEM_PROGRAM_ID]
    data }

/-- `EvaluatePoolOpts`. -/
structure EvaluatePoolOpts where
  scannerProgramId : Pubkey
  ammProgramId : Pubkey
  poolAddress : Pubkey
  msg : List Byte
  writer : Pubkey
  remainingAccounts : Option (List AccountMeta)

/-- `evaluate_pool_phase_1`. A message that has not 112 bytes throws. -/
def buildEvaluatePoolPhase1Ix (opts : EvaluatePoolOpts) :
    Except BuildError TransactionInstruction := do
  require (opts.msg.length = 112) (.phase1MsgLength opts.msg.length)
  let data ← dataOf (8 + 32 + 32 + 112) [
    bytes (globalDiscriminator rt.sha256 "evaluate_pool_phase_1"),
    bytes opts.ammProgramId.val,
    bytes opts.poolAddress.val,
    bytes opts.msg]
  return {
    programId := opts.scannerProgramId
    keys := [
      metaReadOnly (scannerProtocolConfigPda rt opts.scannerProgramId),
      metaWritable
        (eligibilityAnchorPda rt opts.scannerProgramId opts.ammProgramId opts.poolAddress),
      metaReadOnly (launchPricePda rt opts.scannerProgramId opts.ammProgramId opts.poolAddress),
      metaWritable opts.poolAddress,
      metaReadOnly SYSVAR_INSTRUCTIONS_PUBKEY,
      metaReadOnly SYSVAR_SLOT_HASHES_PUBKEY,
      metaSigner opts.writer true,
      metaReadOnly SYSTEM_PROGRAM_ID] ++ opts.remainingAccounts.getD []
    data }

/-- `evaluate_pool_phase_2`, with the cert among its accounts. -/
def buildEvaluatePoolPhase2Ix (opts : EvaluatePoolOpts) :
    Except BuildError TransactionInstruction := do
  require (opts.msg.length = 112) (.phase2MsgLength opts.msg.length)
  let data ← dataOf (8 + 32 + 32 + 112) [
    bytes (globalDiscriminator rt.sha256 "evaluate_pool_phase_2"),
    bytes opts.ammProgramId.val,
    bytes opts.poolAddress.val,
    bytes opts.msg]
  return {
    programId := opts.scannerProgramId
    keys := [
      metaReadOnly (scannerProtocolConfigPda rt opts.scannerProgramId),
      metaReadOnly
        (eligibilityAnchorPda rt opts.scannerProgramId opts.ammProgramId opts.poolAddress),
      metaWritable
        (eligibilityCertPda rt opts.scannerProgramId opts.ammProgramId opts.poolAddress),
      metaReadOnly (launchPricePda rt opts.scannerProgramId opts.ammProgramId opts.poolAddress),
      metaWritable opts.poolAddress,
      metaReadOnly SYSVAR_INSTRUCTIONS_PUBKEY,
      metaReadOnly SYSVAR_SLOT_HASHES_PUBKEY,
      metaSigner opts.writer true,
      metaReadOnly SYSTEM_PROGRAM_ID] ++ opts.remainingAccounts.getD []
    data }

/-- `emergency_pause` of the scanner. -/
def buildScannerEmergencyPauseIx (scannerProgramId authority : Pubkey) (paused : Bool) :
    Except BuildError TransactionInstruction := do
  let data ← dataOf 9 [bytes (globalDiscriminator rt.sha256 "emergency_pause"), bool paused]
  return {
    programId := scannerProgramId
    keys := [
      metaWritable (scannerProtocolConfigPda rt scannerProgramId),
      metaSigner authority false]
    data }

/-- `invalidate_anchor`. -/
def buildInvalidateAnchorIx (scannerProgramId ammProgramId poolAddress authority : Pubkey) :
    Except BuildError TransactionInstruction := do
  let data ← dataOf (8 + 32 + 32) [
    bytes (globalDiscriminator rt.sha256 "invalidate_anchor"),
    bytes ammProgramId.val,
    bytes poolAddress.val]
  return {
    programId := scannerProgramId
    keys := [
      metaReadOnly (scannerProtocolConfigPda rt scannerProgramId),
      metaWritable (eligibilityAnchorPda rt scannerProgramId ammProgramId poolAddress),
      metaSigner authority false]
    data }

/-- `sweep_stale_anchor`. It has no arguments, so nothing throws. -/
def buildSweepStaleAnchorIx (scannerProgramId ammProgramId poolAddress refundTo : Pubkey)
    (caller : Option Pubkey) : TransactionInstruction where
  programId := scannerProgramId
  keys := [
    metaReadOnly (scannerProtocolConfigPda rt scannerProgramId),
    metaWritable (eligibilityAnchorPda rt scannerProgramId ammProgramId poolAddress),
    metaWritable refundTo,
    metaSigner (caller.getD refundTo) false,
    metaReadOnly SYSTEM_PROGRAM_ID]
  data := globalDiscriminator rt.sha256 "sweep_stale_anchor"

/-! ### The vault -/

/-- `VaultInitializeOpts`. A number that is left out is zero. -/
structure VaultInitializeOpts where
  vaultProgramId : Pubkey
  authority : Pubkey
  payer : Pubkey
  lpHolderShareBps : Option ℤ
  salvorShareBps : Option ℤ
  protocolShareBps : Option ℤ
  maxPriorityFeeCeilingLamports : Option ℤ
  maxSlippageBps : Option ℤ
  jupiterDustThresholdLamports : Option ℤ
  timelockSeconds : Option ℤ

/-- `initialize` of the vault, signed by the payer. -/
def buildVaultInitializeIx (opts : VaultInitializeOpts) :
    Except BuildError TransactionInstruction := do
  let data ← dataOf (8 + 64) [
    bytes (globalDiscriminator rt.sha256 "initialize"),
    bytes opts.authority.val,
    u16 (opts.lpHolderShareBps.getD 0),
    u16 (opts.salvorShareBps.getD 0),
    u16 (opts.protocolShareBps.getD 0),
    u64 (opts.maxPriorityFeeCeilingLamports.getD 0),
    u16 (opts.maxSlippageBps.getD 0),
    u64 (opts.jupiterDustThresholdLamports.getD 0),
    i64 (opts.timelockSeconds.getD 0)]
  return {
    programId := opts.vaultProgramId
    keys := [
      metaWritable (vaultProtocolConfigPda rt opts.vaultProgramId),
      metaSigner opts.payer true,
      metaReadOnly SYSTEM_PROGRAM_ID]
    data }

/-- `emergency_pause` of the vault. -/
def buildVaultEmergencyPauseIx (vaultProgramId authority : Pubkey) (paused : Bool) :
    Except BuildError TransactionInstruction := do
  let data ← dataOf 9 [bytes (globalDiscriminator rt.sha256 "emergency_pause"), bool paused]
  return {
    programId := vaultProgramId
    keys := [
      metaWritable (vaultProtocolConfigPda rt vaultProgramId),
      metaSigner authority false]
    data }

/-- `ClaimLpProceedsOpts`. -/
structure ClaimLpProceedsOpts where
  vaultProgramId : Pubkey
  poolAddress : Pubkey
  lpHolder : Pubkey
  lpBalanceAtSnapshot : ℤ
  merkleProof : List (List Byte)

/-- One iteration of the loop over the proof. -/
def proofElement (elem : List Byte) : Write BorshError := fun w => do
  require (elem.length = 32) (.proofElementLength elem.length)
  bytes elem w

/-- `claim_lp_proceeds`. A proof element that has not 32 bytes throws. -/
def buildClaimLpProceedsIx (opts : ClaimLpProceedsOpts) :
    Except BuildError TransactionInstruction := do
  let proofLen := opts.merkleProof.length
  let data ← dataOf (8 + 32 + 8 + 4 + 32 * proofLen) ([
    bytes (globalDiscriminator rt.sha256 "claim_lp_proceeds"),
    bytes opts.poolAddress.val,
    u64 opts.lpBalanceAtSnapshot,
    u32 proofLen] ++ opts.merkleProof.map proofElement)
  return {
    programId := opts.vaultProgramId
    keys := [
      metaWritable (poolRegistryPda rt opts.vaultProgramId opts.poolAddress),
      metaWritable (claimRecordPda rt opts.vaultProgramId opts.poolAddress opts.lpHolder),
      metaWritable (lpHolderPoolVaultPda rt opts.vaultProgramId opts.poolAddress),
      metaSigner opts.lpHolder true,
      metaReadOnly SYSTEM_PROGRAM_ID]
    data }

/-- `sweep_dust`. -/
def buildSweepDustIx (vaultProgramId poolAddress memecoinMint sweeper : Pubkey) :
    Except BuildError TransactionInstruction := do
  let data ← dataOf (8 + 32) [
    bytes (globalDiscriminator rt.sha256 "sweep_dust"),
    bytes poolAddress.val]
  let vaultAuthority := vaultAuthorityPda rt vaultProgramId
  let treasury := protocolTreasuryPda rt vaultProgramId
  return {
    programId := vaultProgramId
    keys := [
      metaWritable (salvageReceiptPda rt vaultProgramId poolAddress),
      metaWritable vaultAuthority,
      metaWritable (getAssociatedTokenAddressSync rt memecoinMint vaultAuthority),
      metaReadOnly treasury,
      metaWritable (getAssociatedTokenAddressSync rt memecoinMint treasury),
      metaReadOnly memecoinMint,
      metaSigner sweeper true,
      metaReadOnly tokenProgramId,
      metaReadOnly ASSOCIATED_TOKEN_PROGRAM_ID,
      metaReadOnly SYSTEM_PROGRAM_ID]
    data }

/-- `SalvagePoolIxInput`. -/
structure SalvagePoolIxInput where
  vaultProgramId : Pubkey
  scannerProgramId : Pubkey
  ammProgramId : Pubkey
  poolAddress : Pubkey
  salvor : Pubkey
  salvorLpTokenAccount : Pubkey
  lpMint : Pubkey
  memecoinMint : Pubkey
  lpSnapshotMerkleRoot : List Byte
  lpTotalSupplyAtSnapshot : ℤ
  salvorLpAmount : ℤ
  minQuoteOutputLamports : ℤ
  maxSlippageBpsOverride : Option ℤ
  jupiterRouteData : List Byte
  jupiterRouteAccountsLen : ℤ
  raydiumV4RemainingAccounts : List AccountMeta
  jupiterRouteAccounts : List AccountMeta

/-- The precomputed size of the data. -/
def SalvagePoolIxInput.dataSize (opts : SalvagePoolIxInput) : ℕ :=
  8 + 32 + 32 + 32 + 8 + 8 + 8 + (4 + opts.jupiterRouteData.length) +
    (if opts.maxSlippageBpsOverride.isSome then 3 else 1) + 1

/-- `salvage_pool`, with the accounts of the withdrawal and as many of the route as are
announced. -/
def buildSalvagePoolIx (opts : SalvagePoolIxInput) : Except BuildError TransactionInstruction := do
  require (opts.lpSnapshotMerkleRoot.length = 32) (.rootLength opts.lpSnapshotMerkleRoot.length)
  require (opts.raydiumV4RemainingAccounts.length = 13)
    (.raydiumAccounts opts.raydiumV4RemainingAccounts.length)
  let data ← dataOf opts.dataSize [
    bytes (globalDiscriminator rt.sha256 "salvage_pool"),
    bytes opts.ammProgramId.val,
    bytes opts.poolAddress.val,
    bytes opts.lpSnapshotMerkleRoot,
    u64 opts.lpTotalSupplyAtSnapshot,
    u64 opts.minQuoteOutputLamports,
    u64 opts.salvorLpAmount,
    vec opts.jupiterRouteData fun b => u8 b.val,
    option opts.maxSlippageBpsOverride u16,
    u8 opts.jupiterRouteAccountsLen]
  let vaultAuthority := vaultAuthorityPda rt opts.vaultProgramId
  -- `u8` has bounded the count
  let route ← (List.range opts.jupiterRouteAccountsLen.toNat).mapM fun i =>
    okOr opts.jupiterRouteAccounts[i]? (.jupiterRouteAccount i)
  return {
    programId := opts.vaultProgramId
    keys := [
      metaReadOnly (vaultProtocolConfigPda rt opts.vaultProgramId),
      metaReadOnly
        (eligibilityCertPda rt opts.scannerProgramId opts.ammProgramId opts.poolAddress),
      metaWritable (poolRegistryPda rt opts.vaultProgramId opts.poolAddress),
      metaWritable (salvageReceiptPda rt opts.vaultProgramId opts.poolAddress),
      metaWritable (lpHolderPoolVaultPda rt opts.vaultProgramId opts.poolAddress),
      metaWritable (protocolTreasuryPda rt opts.vaultProgramId),
      metaSigner opts.salvor true,
      metaWritable opts.poolAddress,
      metaReadOnly opts.ammProgramId,
      metaReadOnly Vault.jupiterV6ProgramId,
      metaWritable vaultAuthority,
      metaWritable (vaultSolHoldingPda rt opts.vaultProgramId opts.poolAddress),
      metaWritable opts.salvorLpTokenAccount,
      metaWritable (getAssociatedTokenAddressSync rt wsolMint vaultAuthority),
      metaWritable (getAssociatedTokenAddressSync rt opts.memecoinMint vaultAuthority),
      metaWritable opts.lpMint,
      metaReadOnly opts.memecoinMint,
      metaReadOnly wsolMint,
      metaReadOnly tokenProgramId,
      metaReadOnly ASSOCIATED_TOKEN_PROGRAM_ID,
      metaReadOnly SYSTEM_PROGRAM_ID] ++ opts.raydiumV4RemainingAccounts ++ route
    data }

/-! ## Agreement with the parameters -/

/-- The builder returns an instruction with this data. -/
def HasData (result : Except BuildError TransactionInstruction) (data : List Byte) : Prop :=
  ∃ ix, result = .ok ix ∧ ix.data = data

variable {rt}

theorem globalDiscriminator_eq (sha256 : List Byte → Hash) (snakeName : String) :
    globalDiscriminator sha256 snakeName = discriminator sha256 "global" snakeName := by
  have hprefix : ascii "global:" = ascii "global" ++ ascii ":" := by decide
  rw [globalDiscriminator, discriminator, hprefix]

/-- The discriminator is appended whole. -/
theorem appends_disc (sha256 : List Byte → Hash) (snakeName : String) :
    Appends (bytes (globalDiscriminator sha256 snakeName))
      (discriminator sha256 "global" snakeName) := by
  rw [globalDiscriminator_eq]
  exact appends_bytes _

/-- A buffer of the right size takes the encodings one after the other. -/
theorem dataOf_eq {size : ℕ} {writes : List (Write BorshError)} {encs : List (List Byte)}
    (h : List.Forall₂ Appends writes encs) (hsize : size = encs.flatten.length) :
    dataOf size writes = .ok encs.flatten := by
  rw [dataOf, writer_eq h hsize]
  rfl

/-- Elements that are appended one by one are appended as a list. -/
theorem forall₂_map {α : Type} {f : α → Write BorshError} {enc : α → List Byte}
    (h : ∀ a, Appends (f a) (enc a)) (l : List α) :
    List.Forall₂ Appends (l.map f) (l.map enc) := by
  rw [List.forall₂_map_left_iff, List.forall₂_map_right_iff, List.forall₂_same]
  exact fun a _ => h a

theorem appends_proofElement (elem : Hash) : Appends (proofElement elem.val) elem.val := by
  intro pre n
  rw [proofElement, require_of elem.2]
  exact appends_bytes elem.val pre n

/-- A field that is left out is zero. -/
structure ScannerInitializeOpts.Encodes (opts : ScannerInitializeOpts)
    (p : Scanner.InitializeParams) : Prop where
  authority : opts.authority = p.authority
  inactivitySeconds : opts.inactivitySeconds.getD 0 = p.inactivitySeconds.val
  priceCollapseBps : opts.priceCollapseBps.getD 0 = p.priceCollapseBps.val
  minTvlLamports : opts.minTvlLamports.getD 0 = p.minTvlLamports.val
  anchorStalenessSeconds : opts.anchorStalenessSeconds.getD 0 = p.anchorStalenessSeconds.val
  lpBurnDustThreshold : opts.lpBurnDustThreshold.getD 0 = p.lpBurnDustThreshold.val
  certTtlSeconds : opts.certTtlSeconds.getD 0 = p.certTtlSeconds
  inRange : Borsh.InI64 p.certTtlSeconds

/-- `initialize` of the scanner carries its parameters. -/
theorem hasData_scannerInitialize {opts : ScannerInitializeOpts} {p : Scanner.InitializeParams}
    (h : opts.Encodes p) :
    HasData (buildScannerInitializeIx rt opts) (p.instructionData rt.sha256) := by
  have hdata := @dataOf_eq (8 + 74) _ _ (.cons (appends_disc rt.sha256 "initialize") <|
    .cons (appends_bytes p.authority.val) <| .cons (appends_u64 p.inactivitySeconds) <|
    .cons (appends_u16 p.priceCollapseBps) <| .cons (appends_u64 p.minTvlLamports) <|
    .cons (appends_u64 p.anchorStalenessSeconds) <| .cons (appends_u64 p.lpBurnDustThreshold) <|
    .cons (appends_i64 h.inRange) .nil) (by simp)
  rw [buildScannerInitializeIx, h.authority, h.inactivitySeconds, h.priceCollapseBps,
    h.minTvlLamports, h.anchorStalenessSeconds, h.lpBurnDustThreshold, h.certTtlSeconds, hdata]
  exact ⟨_, rfl, rfl⟩

/-- The options name these parameters, field by field. -/
structure RecordLaunchPriceOpts.Encodes (opts : RecordLaunchPriceOpts)
    (p : Scanner.RecordLaunchPriceParams) : Prop where
  ammProgramId : opts.ammProgramId = p.ammProgramId
  poolAddress : opts.poolAddress = p.poolAddress
  baseMint : opts.baseMint = p.baseMint
  quoteMint : opts.quoteMint = p.quoteMint
  launchPriceQ64x64 : opts.launchPriceQ64x64 = p.launchPriceQ64x64.val
  msg : opts.msg = p.msg.val

/-- `record_launch_price` carries its parameters. -/
theorem hasData_recordLaunchPrice {opts : RecordLaunchPriceOpts}
    {p : Scanner.RecordLaunchPriceParams} (h : opts.Encodes p) :
    HasData (buildRecordLaunchPriceIx rt opts) (p.instructionData rt.sha256) := by
  have hlength : opts.msg.length = 168 := by rw [h.msg, p.msg.2]
  have hdata := @dataOf_eq (8 + 32 * 4 + 16 + 168) _ _
    (.cons (appends_disc rt.sha256 "record_launch_price") <|
    .cons (appends_bytes p.ammProgramId.val) <| .cons (appends_bytes p.poolAddress.val) <|
    .cons (appends_bytes p.baseMint.val) <| .cons (appends_bytes p.quoteMint.val) <|
    .cons (appends_u128 p.launchPriceQ64x64) <| .cons (appends_bytes p.msg.val) .nil) (by simp)
  rw [buildRecordLaunchPriceIx, require_of hlength, ok_bind, h.ammProgramId, h.poolAddress,
    h.baseMint, h.quoteMint, h.launchPriceQ64x64, h.msg, hdata]
  exact ⟨_, rfl, rfl⟩

/-- The options name these parameters, field by field. -/
structure EvaluatePoolOpts.Encodes (opts : EvaluatePoolOpts) (p : Scanner.EvaluatePoolParams) :
    Prop where
  ammProgramId : opts.ammProgramId = p.ammProgramId
  poolAddress : opts.poolAddress = p.poolAddress
  msg : opts.msg = p.msg.val

/-- Both phases have one encoding behind their discriminators. -/
theorem evaluatePoolData_eq (name : String) (p : Scanner.EvaluatePoolParams) :
    dataOf (8 + 32 + 32 + 112) [bytes (globalDiscriminator rt.sha256 name),
      bytes p.ammProgramId.val, bytes p.poolAddress.val, bytes p.msg.val] =
        .ok (p.instructionData rt.sha256 name) :=
  dataOf_eq (.cons (appends_disc rt.sha256 name) <| .cons (appends_bytes p.ammProgramId.val) <|
    .cons (appends_bytes p.poolAddress.val) <| .cons (appends_bytes p.msg.val) .nil) (by simp)

theorem hasData_evaluatePoolPhase1 {opts : EvaluatePoolOpts} {p : Scanner.EvaluatePoolParams}
    (h : opts.Encodes p) : HasData (buildEvaluatePoolPhase1Ix rt opts)
      (p.instructionData rt.sha256 "evaluate_pool_phase_1") := by
  have hlength : opts.msg.length = 112 := by rw [h.msg, p.msg.2]
  rw [buildEvaluatePoolPhase1Ix, require_of hlength, ok_bind, h.ammProgramId, h.poolAddress, h.msg,
    evaluatePoolData_eq]
  exact ⟨_, rfl, rfl⟩

theorem hasData_evaluatePoolPhase2 {opts : EvaluatePoolOpts} {p : Scanner.EvaluatePoolParams}
    (h : opts.Encodes p) : HasData (buildEvaluatePoolPhase2Ix rt opts)
      (p.instructionData rt.sha256 "evaluate_pool_phase_2") := by
  have hlength : opts.msg.length = 112 := by rw [h.msg, p.msg.2]
  rw [buildEvaluatePoolPhase2Ix, require_of hlength, ok_bind, h.ammProgramId, h.poolAddress, h.msg,
    evaluatePoolData_eq]
  exact ⟨_, rfl, rfl⟩

/-- Both pauses have one encoding. -/
theorem pauseData_eq (paused : Bool) :
    dataOf 9 [bytes (globalDiscriminator rt.sha256 "emergency_pause"), bool paused] =
      .ok (Scanner.emergencyPauseData rt.sha256 paused) :=
  dataOf_eq (.cons (appends_disc rt.sha256 "emergency_pause") <|
    .cons (appends_bool paused) .nil) (by simp)

theorem hasData_invalidateAnchor (scannerProgramId ammProgramId poolAddress authority : Pubkey) :
    HasData (buildInvalidateAnchorIx rt scannerProgramId ammProgramId poolAddress authority)
      (Scanner.invalidateAnchorData rt.sha256 ammProgramId poolAddress) := by
  have hdata := @dataOf_eq (8 + 32 + 32) _ _
    (.cons (appends_disc rt.sha256 "invalidate_anchor") <|
    .cons (appends_bytes ammProgramId.val) <| .cons (appends_bytes poolAddress.val) .nil) (by simp)
  rw [buildInvalidateAnchorIx, hdata]
  exact ⟨_, rfl, rfl⟩

/-- A field that is left out is zero. -/
structure VaultInitializeOpts.Encodes (opts : VaultInitializeOpts) (p : Vault.InitializeParams) :
    Prop where
  authority : opts.authority = p.authority
  lpHolderShareBps : opts.lpHolderShareBps.getD 0 = p.lpHolderShareBps.val
  salvorShareBps : opts.salvorShareBps.getD 0 = p.salvorShareBps.val
  protocolShareBps : opts.protocolShareBps.getD 0 = p.protocolShareBps.val
  maxPriorityFeeCeilingLamports :
    opts.maxPriorityFeeCeilingLamports.getD 0 = p.maxPriorityFeeCeilingLamports.val
  maxSlippageBps : opts.maxSlippageBps.getD 0 = p.maxSlippageBps.val
  jupiterDustThresholdLamports :
    opts.jupiterDustThresholdLamports.getD 0 = p.jupiterDustThresholdLamports.val
  timelockSeconds : opts.timelockSeconds.getD 0 = p.timelockSeconds
  inRange : Borsh.InI64 p.timelockSeconds

/-- `initialize` of the vault carries its parameters. -/
theorem hasData_vaultInitialize {opts : VaultInitializeOpts} {p : Vault.InitializeParams}
    (h : opts.Encodes p) :
    HasData (buildVaultInitializeIx rt opts) (p.instructionData rt.sha256) := by
  have hdata := @dataOf_eq (8 + 64) _ _ (.cons (appends_disc rt.sha256 "initialize") <|
    .cons (appends_bytes p.authority.val) <| .cons (appends_u16 p.lpHolderShareBps) <|
    .cons (appends_u16 p.salvorShareBps) <| .cons (appends_u16 p.protocolShareBps) <|
    .cons (appends_u64 p.maxPriorityFeeCeilingLamports) <| .cons (appends_u16 p.maxSlippageBps) <|
    .cons (appends_u64 p.jupiterDustThresholdLamports) <|
    .cons (appends_i64 h.inRange) .nil) (by simp)
  rw [buildVaultInitializeIx, h.authority, h.lpHolderShareBps, h.salvorShareBps,
    h.protocolShareBps, h.maxPriorityFeeCeilingLamports, h.maxSlippageBps,
    h.jupiterDustThresholdLamports, h.timelockSeconds, hdata]
  exact ⟨_, rfl, rfl⟩

/-- The proof is an array, so it has fewer than `2 ^ 32` elements. -/
structure ClaimLpProceedsOpts.Encodes (opts : ClaimLpProceedsOpts)
    (p : Vault.ClaimLpProceedsParams) : Prop where
  poolAddress : opts.poolAddress = p.poolAddress
  lpBalanceAtSnapshot : opts.lpBalanceAtSnapshot = p.lpBalanceAtSnapshot.val
  merkleProof : opts.merkleProof = p.merkleProof.map Subtype.val
  inRange : p.merkleProof.length < 2 ^ 32

/-- `claim_lp_proceeds` carries its parameters, the proof behind its length. -/
theorem hasData_claimLpProceeds {opts : ClaimLpProceedsOpts} {p : Vault.ClaimLpProceedsParams}
    (h : opts.Encodes p) :
    HasData (buildClaimLpProceedsIx rt opts) (p.instructionData rt.sha256) := by
  have hlength : opts.merkleProof.length = p.merkleProof.length := by
    rw [h.merkleProof, List.length_map]
  have hsize := Borsh.length_vec (fun e : Hash => e.2) p.merkleProof
  have helements : List.Forall₂ Appends (opts.merkleProof.map proofElement)
      (p.merkleProof.map Subtype.val) := by
    rw [h.merkleProof, List.map_map]
    exact forall₂_map appends_proofElement p.merkleProof
  have hcount : Appends (u32 p.merkleProof.length) (leBytes 4 p.merkleProof.length) :=
    appends_unsigned .u32 h.inRange
  have hflatten : (discriminator rt.sha256 "global" "claim_lp_proceeds" :: p.poolAddress.val ::
      Borsh.u64 p.lpBalanceAtSnapshot :: leBytes 4 p.merkleProof.length ::
        p.merkleProof.map Subtype.val).flatten = p.instructionData rt.sha256 := by
    simp [Vault.ClaimLpProceedsParams.instructionData, Borsh.vec]
  have hdata := @dataOf_eq (8 + 32 + 8 + 4 + 32 * p.merkleProof.length) _ _
    (.cons (appends_disc rt.sha256 "claim_lp_proceeds") <|
    .cons (appends_bytes p.poolAddress.val) <| .cons (appends_u64 p.lpBalanceAtSnapshot) <|
    .cons hcount helements) (by
      rw [hflatten]
      simp [Vault.ClaimLpProceedsParams.instructionData, hsize]
      omega)
  rw [hflatten] at hdata
  rw [buildClaimLpProceedsIx, h.poolAddress, h.lpBalanceAtSnapshot, hlength, List.cons_append,
    List.cons_append, List.cons_append, List.cons_append, List.nil_append, hdata]
  exact ⟨_, rfl, rfl⟩

theorem hasData_sweepDust (vaultProgramId poolAddress memecoinMint sweeper : Pubkey) :
    HasData (buildSweepDustIx rt vaultProgramId poolAddress memecoinMint sweeper)
      (Vault.sweepDustData rt.sha256 poolAddress) := by
  have hdata := @dataOf_eq (8 + 32) _ _ (.cons (appends_disc rt.sha256 "sweep_dust") <|
    .cons (appends_bytes poolAddress.val) .nil) (by simp)
  rw [buildSweepDustIx, hdata]
  exact ⟨_, rfl, rfl⟩

/-- The route data is copied to an array, so it has fewer than `2 ^ 32` bytes. There are 13
accounts for the withdrawal and at least as many for the route as the parameters say. -/
structure SalvagePoolIxInput.Encodes (opts : SalvagePoolIxInput) (p : Vault.SalvagePoolParams) :
    Prop where
  ammProgramId : opts.ammProgramId = p.ammProgramId
  poolAddress : opts.poolAddress = p.poolAddress
  lpSnapshotMerkleRoot : opts.lpSnapshotMerkleRoot = p.lpSnapshotMerkleRoot.val
  lpTotalSupplyAtSnapshot : opts.lpTotalSupplyAtSnapshot = p.lpTotalSupplyAtSnapshot.val
  minQuoteOutputLamports : opts.minQuoteOutputLamports = p.minQuoteOutputLamports.val
  salvorLpAmount : opts.salvorLpAmount = p.salvorLpAmount.val
  jupiterRouteData : opts.jupiterRouteData = p.jupiterRouteData
  maxSlippageBpsOverride :
    opts.maxSlippageBpsOverride = p.maxSlippageBpsOverride.map fun v => (v.val : ℤ)
  jupiterRouteAccountsLen : opts.jupiterRouteAccountsLen = p.jupiterRouteAccountsLen.val
  inRange : p.jupiterRouteData.length < 2 ^ 32
  raydiumAccounts : opts.raydiumV4RemainingAccounts.length = 13
  routeAccounts : p.jupiterRouteAccountsLen.val ≤ opts.jupiterRouteAccounts.length

/-- An option of a number is a tag and the number. -/
theorem appends_override (v : Option U16) :
    Appends (option (v.map fun v => (v.val : ℤ)) u16) (Borsh.option Borsh.u16 v) := by
  have h : Appends (option v fun v => u16 v.val) (Borsh.option Borsh.u16 v) :=
    appends_option appends_u16 v
  cases v with
  | none => exact h
  | some v => exact h

theorem length_override (v : Option U16) : (Borsh.option Borsh.u16 v).length =
    if (v.map fun v => (v.val : ℤ)).isSome then 3 else 1 := by
  cases v with
  | none => rfl
  | some v => simp [Borsh.option]

/-- `salvage_pool` carries its parameters, whatever it has for an override. -/
theorem hasData_salvagePool {opts : SalvagePoolIxInput} {p : Vault.SalvagePoolParams}
    (h : opts.Encodes p) :
    HasData (buildSalvagePoolIx rt opts) (p.instructionData rt.sha256) := by
  have hroot : opts.lpSnapshotMerkleRoot.length = 32 := by
    rw [h.lpSnapshotMerkleRoot, Bytes.length_val]
  have hsize := Borsh.length_vec Borsh.length_u8 p.jupiterRouteData
  have hdata := @dataOf_eq opts.dataSize _ _ (.cons (appends_disc rt.sha256 "salvage_pool") <|
    .cons (appends_bytes p.ammProgramId.val) <| .cons (appends_bytes p.poolAddress.val) <|
    .cons (appends_bytes p.lpSnapshotMerkleRoot.val) <|
    .cons (appends_u64 p.lpTotalSupplyAtSnapshot) <|
    .cons (appends_u64 p.minQuoteOutputLamports) <| .cons (appends_u64 p.salvorLpAmount) <|
    .cons (appends_vec appends_u8 h.inRange) <|
    .cons (appends_override p.maxSlippageBpsOverride) <|
    .cons (appends_u8 p.jupiterRouteAccountsLen) .nil) (by
      simp only [SalvagePoolIxInput.dataSize, h.jupiterRouteData, h.maxSlippageBpsOverride,
        List.flatten_cons, List.flatten_nil, List.append_nil, List.length_append,
        length_discriminator, Bytes.length_val, Borsh.length_u64, Borsh.length_u8, hsize,
        length_override]
      omega)
  have hroute : ∃ route, ((List.range p.jupiterRouteAccountsLen.val).mapM fun i =>
      okOr opts.jupiterRouteAccounts[i]? (BuildError.jupiterRouteAccount i)) = .ok route := by
    refine ⟨_, mapM_eq_map
      (g := fun i => opts.jupiterRouteAccounts[i]?.getD (metaReadOnly wsolMint)) fun i hi => ?_⟩
    have hlt := (List.mem_range.1 hi).trans_le h.routeAccounts
    rw [List.getElem?_eq_getElem hlt, okOr_some, Option.getD_some]
  obtain ⟨route, hroute⟩ := hroute
  rw [buildSalvagePoolIx, require_of hroot, ok_bind, require_of h.raydiumAccounts, ok_bind,
    h.ammProgramId, h.poolAddress, h.lpSnapshotMerkleRoot, h.lpTotalSupplyAtSnapshot,
    h.minQuoteOutputLamports, h.salvorLpAmount, h.jupiterRouteData, h.maxSlippageBpsOverride,
    h.jupiterRouteAccountsLen, hdata, ok_bind, Int.toNat_natCast, hroute]
  exact ⟨_, rfl, rfl⟩

/-- Every builder, given options in the ranges of the parameters, returns an instruction whose
data is the discriminator and the Borsh encoding of the parameters. -/
structure BuildersAgree (rt : Runtime) : Prop where
  scannerInitialize : ∀ opts (p : Scanner.InitializeParams), opts.Encodes p →
    HasData (buildScannerInitializeIx rt opts) (p.instructionData rt.sha256)
  recordLaunchPrice : ∀ opts (p : Scanner.RecordLaunchPriceParams), opts.Encodes p →
    HasData (buildRecordLaunchPriceIx rt opts) (p.instructionData rt.sha256)
  evaluatePoolPhase1 : ∀ opts (p : Scanner.EvaluatePoolParams), opts.Encodes p →
    HasData (buildEvaluatePoolPhase1Ix rt opts)
      (p.instructionData rt.sha256 "evaluate_pool_phase_1")
  evaluatePoolPhase2 : ∀ opts (p : Scanner.EvaluatePoolParams), opts.Encodes p →
    HasData (buildEvaluatePoolPhase2Ix rt opts)
      (p.instructionData rt.sha256 "evaluate_pool_phase_2")
  scannerEmergencyPause : ∀ program authority paused,
    HasData (buildScannerEmergencyPauseIx rt program authority paused)
      (Scanner.emergencyPauseData rt.sha256 paused)
  invalidateAnchor : ∀ program ammProgramId poolAddress authority,
    HasData (buildInvalidateAnchorIx rt program ammProgramId poolAddress authority)
      (Scanner.invalidateAnchorData rt.sha256 ammProgramId poolAddress)
  sweepStaleAnchor : ∀ program ammProgramId poolAddress refundTo caller,
    (buildSweepStaleAnchorIx rt program ammProgramId poolAddress refundTo caller).data =
      Scanner.sweepStaleAnchorData rt.sha256
  vaultInitialize : ∀ opts (p : Vault.InitializeParams), opts.Encodes p →
    HasData (buildVaultInitializeIx rt opts) (p.instructionData rt.sha256)
  vaultEmergencyPause : ∀ program authority paused,
    HasData (buildVaultEmergencyPauseIx rt program authority paused)
      (Vault.emergencyPauseData rt.sha256 paused)
  claimLpProceeds : ∀ opts (p : Vault.ClaimLpProceedsParams), opts.Encodes p →
    HasData (buildClaimLpProceedsIx rt opts) (p.instructionData rt.sha256)
  sweepDust : ∀ program poolAddress memecoinMint sweeper,
    HasData (buildSweepDustIx rt program poolAddress memecoinMint sweeper)
      (Vault.sweepDustData rt.sha256 poolAddress)
  salvagePool : ∀ opts (p : Vault.SalvagePoolParams), opts.Encodes p →
    HasData (buildSalvagePoolIx rt opts) (p.instructionData rt.sha256)

theorem buildersAgree (rt : Runtime) : BuildersAgree rt where
  scannerInitialize _ _ h := hasData_scannerInitialize h
  recordLaunchPrice _ _ h := hasData_recordLaunchPrice h
  evaluatePoolPhase1 _ _ h := hasData_evaluatePoolPhase1 h
  evaluatePoolPhase2 _ _ h := hasData_evaluatePoolPhase2 h
  scannerEmergencyPause program authority paused := by
    rw [buildScannerEmergencyPauseIx, pauseData_eq]
    exact ⟨_, rfl, rfl⟩
  invalidateAnchor program amm pool authority := hasData_invalidateAnchor program amm pool authority
  sweepStaleAnchor _ _ _ _ _ := globalDiscriminator_eq rt.sha256 "sweep_stale_anchor"
  vaultInitialize _ _ h := hasData_vaultInitialize h
  vaultEmergencyPause program authority paused := by
    rw [buildVaultEmergencyPauseIx, pauseData_eq]
    exact ⟨_, rfl, rfl⟩
  claimLpProceeds _ _ h := hasData_claimLpProceeds h
  sweepDust program pool mint sweeper := hasData_sweepDust program pool mint sweeper
  salvagePool _ _ h := hasData_salvagePool h

/-- Wire format : the builders write, and the decoders read, the Borsh encodings of the on-chain
structs behind their discriminators. -/
theorem wireFormat_agrees (rt : Runtime) : BuildersAgree rt ∧ DecodersAgree rt.sha256 :=
  ⟨buildersAgree rt, decodersAgree rt.sha256⟩

/-! ## A claim, a salvage and a claim record -/

/-- A runtime of which only the hash is used. -/
def hashRuntime : Runtime :=
  ⟨Machine.sha256, fun _ _ => defaultPubkey, fun _ => 0⟩

/-- A claim with a proof of two elements. -/
def wireClaim : Vault.ClaimLpProceedsParams :=
  ⟨Pubkey.fill 1, 300, [Pubkey.fill 2, Pubkey.fill 3]⟩

/-- The options of that claim. -/
def wireClaimOpts : ClaimLpProceedsOpts :=
  ⟨Pubkey.fill 9, Pubkey.fill 1, Pubkey.fill 4, 300, [(Pubkey.fill 2).val, (Pubkey.fill 3).val]⟩

/-- A salvage with an override, route data and two accounts of the route. -/
def wireSalvage : Vault.SalvagePoolParams where
  ammProgramId := raydiumV4ProgramId
  poolAddress := Pubkey.fill 1
  lpSnapshotMerkleRoot := Pubkey.fill 2
  lpTotalSupplyAtSnapshot := 1000
  minQuoteOutputLamports := 18446744073709551615
  salvorLpAmount := 900
  jupiterRouteData := [1, 2, 3]
  maxSlippageBpsOverride := some 250
  jupiterRouteAccountsLen := 2

/-- The input of that salvage. -/
def wireSalvageInput : SalvagePoolIxInput where
  vaultProgramId := Pubkey.fill 9
  scannerProgramId := Pubkey.fill 8
  ammProgramId := raydiumV4ProgramId
  poolAddress := Pubkey.fill 1
  salvor := Pubkey.fill 4
  salvorLpTokenAccount := Pubkey.fill 5
  lpMint := Pubkey.fill 6
  memecoinMint := Pubkey.fill 7
  lpSnapshotMerkleRoot := (Pubkey.fill 2).val
  lpTotalSupplyAtSnapshot := 1000
  salvorLpAmount := 900
  minQuoteOutputLamports := 18446744073709551615
  maxSlippageBpsOverride := some 250
  jupiterRouteData := [1, 2, 3]
  jupiterRouteAccountsLen := 2
  raydiumV4RemainingAccounts := List.replicate 13 (metaReadOnly (Pubkey.fill 10))
  jupiterRouteAccounts := [metaReadOnly (Pubkey.fill 11), metaWritable (Pubkey.fill 12)]

/-- A claim record from before 1970. -/
def wireRecord : Vault.ClaimRecord :=
  ⟨Pubkey.fill 1, Pubkey.fill 4, 108000000, 300, 900000, -5⟩

/-- A claim of two proof elements and a salvage with an override are written, and a record is
read. -/
theorem wireFormat_agrees_demo :
    HasData (buildClaimLpProceedsIx hashRuntime wireClaimOpts)
      (wireClaim.instructionData Machine.sha256) ∧
    HasData (buildSalvagePoolIx hashRuntime wireSalvageInput)
      (wireSalvage.instructionData Machine.sha256) ∧
    decodeClaimRecord Machine.sha256
      (wireRecord.accountData Machine.sha256 254 (Bytes.ofNat 32 0)) =
        .ok { wireRecord with bump := 254 } := by
  obtain ⟨hbuilders, hdecoders⟩ := wireFormat_agrees hashRuntime
  refine ⟨hbuilders.claimLpProceeds _ wireClaim ⟨rfl, rfl, rfl, by decide⟩,
    hbuilders.salvagePool _ wireSalvage
      ⟨rfl, rfl, rfl, rfl, rfl, rfl, rfl, rfl, rfl, by decide, by decide, by decide⟩, ?_⟩
  have hrange : wireRecord.InRange := (by decide : Borsh.InI64 (-5))
  exact hdecoders.claimRecord wireRecord 254 (Bytes.ofNat 32 0) hrange

end GraveYield.Sdk
