import GraveYield.Layout
import GraveYield.Sdk.Borsh

/-!
# The account decoders of the SDK

Each decoder asserts the discriminator, seeks behind it and reads the fields in the order of the
on-chain struct, up to the bump. `DecodersAgree` says that on the bytes of an account they
return the account.
-/

namespace GraveYield.Sdk

open Machine Checked Wire

/-! ## The source -/

/-- The account discriminator. -/
def accountDiscriminator (sha256 : List Byte → Hash) (pascalName : String) : List Byte :=
  (sha256 (ascii "account:" ++ ascii pascalName)).val.take 8

/-- The first eight bytes are compared with those expected. -/
def assertDiscriminator (data expected : List Byte) : Except BorshError Unit := do
  require (8 ≤ data.length) (.tooShort data.length)
  require (data.take 8 = expected) .discriminatorMismatch

/-- The reads of a decoder, behind the discriminator. -/
def reader {α : Type} (data : List Byte) (fields : Read BorshError α) : Except BorshError α :=
  Prod.fst <$> (do
    Reader.seek 8
    fields : Read BorshError α) data 0

/-- `ScannerProtocolConfig`. -/
structure ScannerProtocolConfig extends Scanner.ProtocolConfig where
  accountDiscriminator : List Byte
  bump : U8
  deriving DecidableEq

/-- `EligibilityAnchor`. -/
structure EligibilityAnchor extends Scanner.EligibilityAnchor where
  bump : U8
  deriving DecidableEq

/-- `EligibilityCert`. -/
structure EligibilityCert extends Scanner.EligibilityCert where
  bump : U8
  deriving DecidableEq

/-- `LaunchPriceAccount`. -/
structure LaunchPriceAccount extends Scanner.LaunchPrice where
  bump : U8
  deriving DecidableEq

/-- `VaultProtocolConfig`. -/
structure VaultProtocolConfig extends Vault.ProtocolConfig where
  accountDiscriminator : List Byte
  bump : U8
  deriving DecidableEq

/-- `PoolRegistry`. -/
structure PoolRegistry extends Vault.PoolRegistry where
  bump : U8
  deriving DecidableEq

/-- `SalvageReceipt`. -/
structure SalvageReceipt extends Vault.SalvageReceipt where
  bump : U8
  deriving DecidableEq

/-- `ClaimRecord`. -/
structure ClaimRecord extends Vault.ClaimRecord where
  bump : U8
  deriving DecidableEq

variable (sha256 : List Byte → Hash) (data : List Byte)

open Reader

/-- The decoder of the scanner's configuration. -/
def decodeScannerProtocolConfig : Except BorshError ScannerProtocolConfig := do
  assertDiscriminator data (accountDiscriminator sha256 "ProtocolConfig")
  reader data do
    let authority ← publicKey
    let pendingAuthority ← publicKey
    let pendingAuthorityEta ← i64
    let inactivitySeconds ← u64
    let priceCollapseBps ← u16
    let minTvlLamports ← u64
    let anchorStalenessSeconds ← u64
    let lpBurnDustThreshold ← u64
    let certTtlSeconds ← i64
    let paused ← bool
    let activityOracle ← publicKey
    let launchPriceOracle ← publicKey
    let bump ← u8
    return {
      accountDiscriminator := data.take 8
      authority, pendingAuthority, pendingAuthorityEta, inactivitySeconds, priceCollapseBps,
      minTvlLamports, anchorStalenessSeconds, lpBurnDustThreshold, certTtlSeconds, paused,
      activityOracle, launchPriceOracle, bump }

/-- The decoder of an anchor. -/
def decodeEligibilityAnchor : Except BorshError EligibilityAnchor := do
  assertDiscriminator data (accountDiscriminator sha256 "EligibilityAnchor")
  reader data do
    let ammProgramId ← publicKey
    let poolAddress ← publicKey
    let writer ← publicKey
    let firstEligibleEpoch ← u64
    let writtenAt ← i64
    let invalidated ← bool
    let criteriaBitmap ← u8
    let bump ← u8
    return {
      ammProgramId, poolAddress, writer, firstEligibleEpoch, writtenAt, invalidated,
      criteriaBitmap, bump }

/-- The decoder of a cert. -/
def decodeEligibilityCert : Except BorshError EligibilityCert := do
  assertDiscriminator data (accountDiscriminator sha256 "EligibilityCert")
  reader data do
    let ammProgramId ← publicKey
    let poolAddress ← publicKey
    let writer ← publicKey
    let anchorEpoch ← u64
    let certEpoch ← u64
    let issuedAt ← i64
    let expiresAt ← i64
    let criteriaBitmap ← u8
    let reissueGeneration ← u64
    let bump ← u8
    return {
      ammProgramId, poolAddress, writer, anchorEpoch, certEpoch, issuedAt, expiresAt,
      criteriaBitmap, reissueGeneration, bump }

/-- The decoder of a launch price. -/
def decodeLaunchPrice : Except BorshError LaunchPriceAccount := do
  assertDiscriminator data (accountDiscriminator sha256 "LaunchPrice")
  reader data do
    let ammProgramId ← publicKey
    let poolAddress ← publicKey
    let baseMint ← publicKey
    let quoteMint ← publicKey
    let launchPriceQ64x64 ← u128
    let firstSwapSlot ← u64
    let firstSwapUnixTs ← i64
    let recordedSlot ← u64
    let recordedAt ← i64
    let bump ← u8
    return {
      ammProgramId, poolAddress, baseMint, quoteMint, launchPriceQ64x64, firstSwapSlot,
      firstSwapUnixTs, recordedSlot, recordedAt, bump }

/-- The decoder of the vault's configuration. -/
def decodeVaultProtocolConfig : Except BorshError VaultProtocolConfig := do
  assertDiscriminator data (accountDiscriminator sha256 "ProtocolConfig")
  reader data do
    let authority ← publicKey
    let pendingAuthority ← publicKey
    let pendingAuthorityEta ← i64
    let lpHolderShareBps ← u16
    let salvorShareBps ← u16
    let protocolShareBps ← u16
    let maxPriorityFeeCeilingLamports ← u64
    let maxSlippageBps ← u16
    let jupiterDustThresholdLamports ← u64
    let timelockSeconds ← i64
    let emergencyPaused ← bool
    let bump ← u8
    return {
      accountDiscriminator := data.take 8
      authority, pendingAuthority, pendingAuthorityEta, lpHolderShareBps, salvorShareBps,
      protocolShareBps, maxPriorityFeeCeilingLamports, maxSlippageBps,
      jupiterDustThresholdLamports, timelockSeconds, emergencyPaused, bump }

/-- The decoder of a pool registry. -/
def decodePoolRegistry : Except BorshError PoolRegistry := do
  assertDiscriminator data (accountDiscriminator sha256 "PoolRegistry")
  reader data do
    let ammProgramId ← publicKey
    let poolAddress ← publicKey
    let salvor ← publicKey
    let lpSnapshotMerkleRoot ← publicKey
    let lpTotalSupplyAtSnapshot ← u64
    let lpHolderPoolTotalLamports ← u64
    let lpHolderPoolClaimedLamports ← u64
    let salvagedAtSlot ← u64
    let salvagedAtTs ← i64
    let bump ← u8
    return {
      ammProgramId, poolAddress, salvor, lpSnapshotMerkleRoot, lpTotalSupplyAtSnapshot,
      lpHolderPoolTotalLamports, lpHolderPoolClaimedLamports, salvagedAtSlot, salvagedAtTs, bump }

/-- The decoder of a salvage receipt. -/
def decodeSalvageReceipt : Except BorshError SalvageReceipt := do
  assertDiscriminator data (accountDiscriminator sha256 "SalvageReceipt")
  reader data do
    let poolAddress ← publicKey
    let salvor ← publicKey
    let lpHolderAmountLamports ← u64
    let salvorAmountLamports ← u64
    let protocolAmountLamports ← u64
    let totalProceedsLamports ← u64
    let issuedAtSlot ← u64
    let issuedAtTs ← i64
    let memecoinMint ← publicKey
    let dustMemecoinLamports ← u64
    let dustSweptAtTs ← i64
    let bump ← u8
    return {
      poolAddress, salvor, lpHolderAmountLamports, salvorAmountLamports, protocolAmountLamports,
      totalProceedsLamports, issuedAtSlot, issuedAtTs, memecoinMint, dustMemecoinLamports,
      dustSweptAtTs, bump }

/-- The decoder of a claim record. -/
def decodeClaimRecord : Except BorshError ClaimRecord := do
  assertDiscriminator data (accountDiscriminator sha256 "ClaimRecord")
  reader data do
    let poolAddress ← publicKey
    let lpHolder ← publicKey
    let amountLamports ← u64
    let lpBalanceAtSnapshot ← u64
    let claimedAtSlot ← u64
    let claimedAtTs ← i64
    let bump ← u8
    return {
      poolAddress, lpHolder, amountLamports, lpBalanceAtSnapshot, claimedAtSlot, claimedAtTs,
      bump }

/-! ## Agreement with the accounts -/

/-- The SDK computes the discriminators of the programs. -/
theorem accountDiscriminator_eq (pascalName : String) :
    accountDiscriminator sha256 pascalName = discriminator sha256 "account" pascalName := by
  have hprefix : ascii "account:" = ascii "account" ++ ascii ":" := by decide
  rw [accountDiscriminator, discriminator, hprefix]

variable {sha256 data}

/-- A decoder whose reads are the fields between the discriminator and the reserved bytes. -/
theorem decode_eq (reserved : List Byte) {α : Type} {fields : Read BorshError α}
    {pascalName : String} {encs : List (List Byte)} {v : α}
    (hdata : data = (discriminator sha256 "account" pascalName :: (encs ++ [reserved])).flatten)
    (h : Reads fields encs.flatten v) :
    (do
      assertDiscriminator data (accountDiscriminator sha256 pascalName)
      reader data fields) = .ok v := by
  have hdisc := length_discriminator sha256 "account" pascalName
  have hsplit : data =
      discriminator sha256 "account" pascalName ++ encs.flatten ++ (reserved ++ []) := by
    rw [hdata, List.flatten_cons, List.flatten_append, List.append_assoc]
    rfl
  have hlength : 8 ≤ data.length := by
    rw [hsplit, List.length_append, List.length_append, hdisc]
    omega
  have htake : data.take 8 = accountDiscriminator sha256 pascalName := by
    rw [hsplit, List.append_assoc, accountDiscriminator_eq, List.take_left' hdisc]
  have hread := h (discriminator sha256 "account" pascalName) (reserved ++ [])
  rw [← hsplit, hdisc] at hread
  rw [assertDiscriminator, require_of hlength, ok_bind, require_of htake, ok_bind]
  change Prod.fst <$> ((require (8 ≤ data.length) _ >>= fun _ => pure ((), 8)) >>=
    fun x => fields data x.2) = _
  rw [require_of hlength]
  change Prod.fst <$> fields data 8 = _
  rw [hread]
  rfl

/-- An account starts with its discriminator. -/
theorem take_eq {pascalName : String} {encs : List (List Byte)}
    (hdata : data = (discriminator sha256 "account" pascalName :: encs).flatten) :
    data.take 8 = accountDiscriminator sha256 pascalName := by
  rw [hdata, List.flatten_cons, accountDiscriminator_eq,
    List.take_left' (length_discriminator sha256 "account" pascalName)]

section Accounts

variable (bump : U8)

/-- A configuration of the scanner is read back. -/
theorem decodeScannerProtocolConfig_eq {c : Scanner.ProtocolConfig} (h : c.InRange)
    (reserved : Bytes 64) :
    decodeScannerProtocolConfig sha256 (c.accountData sha256 bump reserved) =
      .ok { c with
        accountDiscriminator := accountDiscriminator sha256 "ProtocolConfig"
        bump } := by
  have hdisc : (c.accountData sha256 bump reserved).take 8 =
      accountDiscriminator sha256 "ProtocolConfig" := take_eq rfl
  rw [← hdisc]
  refine decode_eq reserved.val rfl (.cons (reads_publicKey _) <|
    .cons (reads_publicKey _) <| .cons (reads_i64 h.1) <| .cons (reads_u64 _) <|
    .cons (reads_u16 _) <| .cons (reads_u64 _) <| .cons (reads_u64 _) <| .cons (reads_u64 _) <|
    .cons (reads_i64 h.2) <| .cons (reads_bool _) <| .cons (reads_publicKey _) <|
    .cons (reads_publicKey _) <| .cons (reads_u8 _) <| .nil _)

/-- An anchor is read back. -/
theorem decodeEligibilityAnchor_eq {a : Scanner.EligibilityAnchor} (h : a.InRange)
    (reserved : Bytes 64) : decodeEligibilityAnchor sha256 (a.accountData sha256 bump reserved) =
      .ok { a with bump } := by
  refine decode_eq reserved.val rfl (.cons (reads_publicKey _) <|
    .cons (reads_publicKey _) <| .cons (reads_publicKey _) <| .cons (reads_u64 _) <|
    .cons (reads_i64 h) <| .cons (reads_bool _) <| .cons (reads_u8 _) <| .cons (reads_u8 _) <|
    .nil _)

/-- A cert is read back. -/
theorem decodeEligibilityCert_eq {c : Scanner.EligibilityCert} (h : c.InRange)
    (reserved : Bytes 56) : decodeEligibilityCert sha256 (c.accountData sha256 bump reserved) =
      .ok { c with bump } := by
  refine decode_eq reserved.val rfl (.cons (reads_publicKey _) <|
    .cons (reads_publicKey _) <| .cons (reads_publicKey _) <| .cons (reads_u64 _) <|
    .cons (reads_u64 _) <| .cons (reads_i64 h.1) <| .cons (reads_i64 h.2) <| .cons (reads_u8 _) <|
    .cons (reads_u64 _) <| .cons (reads_u8 _) <| .nil _)

/-- A launch price is read back. -/
theorem decodeLaunchPrice_eq {l : Scanner.LaunchPrice} (h : l.InRange)
    (reserved : Bytes 16) : decodeLaunchPrice sha256 (l.accountData sha256 bump reserved) =
      .ok { l with bump } := by
  refine decode_eq reserved.val rfl (.cons (reads_publicKey _) <|
    .cons (reads_publicKey _) <| .cons (reads_publicKey _) <| .cons (reads_publicKey _) <|
    .cons (reads_u128 _) <| .cons (reads_u64 _) <| .cons (reads_i64 h.1) <| .cons (reads_u64 _) <|
    .cons (reads_i64 h.2) <| .cons (reads_u8 _) <| .nil _)

/-- A configuration of the vault is read back. -/
theorem decodeVaultProtocolConfig_eq {c : Vault.ProtocolConfig} (h : c.InRange)
    (reserved : Bytes 96) : decodeVaultProtocolConfig sha256 (c.accountData sha256 bump reserved) =
      .ok { c with
        accountDiscriminator := accountDiscriminator sha256 "ProtocolConfig"
        bump } := by
  have hdisc : (c.accountData sha256 bump reserved).take 8 =
      accountDiscriminator sha256 "ProtocolConfig" := take_eq rfl
  rw [← hdisc]
  refine decode_eq reserved.val rfl (.cons (reads_publicKey _) <|
    .cons (reads_publicKey _) <| .cons (reads_i64 h.1) <| .cons (reads_u16 _) <|
    .cons (reads_u16 _) <| .cons (reads_u16 _) <| .cons (reads_u64 _) <| .cons (reads_u16 _) <|
    .cons (reads_u64 _) <| .cons (reads_i64 h.2) <| .cons (reads_bool _) <| .cons (reads_u8 _) <|
    .nil _)

/-- A pool registry is read back. -/
theorem decodePoolRegistry_eq {r : Vault.PoolRegistry} (h : r.InRange)
    (reserved : Bytes 64) : decodePoolRegistry sha256 (r.accountData sha256 bump reserved) =
      .ok { r with bump } := by
  refine decode_eq reserved.val rfl (.cons (reads_publicKey _) <|
    .cons (reads_publicKey _) <| .cons (reads_publicKey _) <| .cons (reads_publicKey _) <|
    .cons (reads_u64 _) <| .cons (reads_u64 _) <| .cons (reads_u64 _) <| .cons (reads_u64 _) <|
    .cons (reads_i64 h) <| .cons (reads_u8 _) <| .nil _)

/-- A salvage receipt is read back. -/
theorem decodeSalvageReceipt_eq {r : Vault.SalvageReceipt} (h : r.InRange)
    (reserved : Bytes 32) : decodeSalvageReceipt sha256 (r.accountData sha256 bump reserved) =
      .ok { r with bump } := by
  refine decode_eq reserved.val rfl (.cons (reads_publicKey _) <|
    .cons (reads_publicKey _) <| .cons (reads_u64 _) <| .cons (reads_u64 _) <|
    .cons (reads_u64 _) <| .cons (reads_u64 _) <| .cons (reads_u64 _) <| .cons (reads_i64 h.1) <|
    .cons (reads_publicKey _) <| .cons (reads_u64 _) <| .cons (reads_i64 h.2) <|
    .cons (reads_u8 _) <| .nil _)

/-- A claim record is read back. -/
theorem decodeClaimRecord_eq {r : Vault.ClaimRecord} (h : r.InRange)
    (reserved : Bytes 32) : decodeClaimRecord sha256 (r.accountData sha256 bump reserved) =
      .ok { r with bump } := by
  refine decode_eq reserved.val rfl (.cons (reads_publicKey _) <|
    .cons (reads_publicKey _) <| .cons (reads_u64 _) <| .cons (reads_u64 _) <|
    .cons (reads_u64 _) <| .cons (reads_i64 h) <| .cons (reads_u8 _) <| .nil _)

/-! A time that does not fit in its field is read back wrapped. -/

theorem decodeVaultProtocolConfig_wrap (c : Vault.ProtocolConfig) (reserved : Bytes 96) :
    decodeVaultProtocolConfig sha256 (c.accountData sha256 bump reserved) = .ok { c with
      pendingAuthorityEta := Borsh.wrap64 c.pendingAuthorityEta
      timelockSeconds := Borsh.wrap64 c.timelockSeconds
      accountDiscriminator := accountDiscriminator sha256 "ProtocolConfig"
      bump } := by
  have h := @decodeVaultProtocolConfig_eq sha256 bump { c with
    pendingAuthorityEta := Borsh.wrap64 c.pendingAuthorityEta
    timelockSeconds := Borsh.wrap64 c.timelockSeconds }
      ⟨Borsh.inI64_wrap64 _, Borsh.inI64_wrap64 _⟩ reserved
  simpa only [Vault.ProtocolConfig.accountData, Borsh.i64_wrap64] using h

theorem decodePoolRegistry_wrap (r : Vault.PoolRegistry) (reserved : Bytes 64) :
    decodePoolRegistry sha256 (r.accountData sha256 bump reserved) =
      .ok { r with salvagedAtTs := Borsh.wrap64 r.salvagedAtTs, bump } := by
  have h := @decodePoolRegistry_eq sha256 bump
    { r with salvagedAtTs := Borsh.wrap64 r.salvagedAtTs } (Borsh.inI64_wrap64 _) reserved
  simpa only [Vault.PoolRegistry.accountData, Borsh.i64_wrap64] using h

theorem decodeSalvageReceipt_wrap (r : Vault.SalvageReceipt) (reserved : Bytes 32) :
    decodeSalvageReceipt sha256 (r.accountData sha256 bump reserved) = .ok { r with
      issuedAtTs := Borsh.wrap64 r.issuedAtTs
      dustSweptAtTs := Borsh.wrap64 r.dustSweptAtTs
      bump } := by
  have h := @decodeSalvageReceipt_eq sha256 bump { r with
    issuedAtTs := Borsh.wrap64 r.issuedAtTs
    dustSweptAtTs := Borsh.wrap64 r.dustSweptAtTs }
      ⟨Borsh.inI64_wrap64 _, Borsh.inI64_wrap64 _⟩ reserved
  simpa only [Vault.SalvageReceipt.accountData, Borsh.i64_wrap64] using h

theorem decodeClaimRecord_wrap (r : Vault.ClaimRecord) (reserved : Bytes 32) :
    decodeClaimRecord sha256 (r.accountData sha256 bump reserved) =
      .ok { r with claimedAtTs := Borsh.wrap64 r.claimedAtTs, bump } := by
  have h := @decodeClaimRecord_eq sha256 bump
    { r with claimedAtTs := Borsh.wrap64 r.claimedAtTs } (Borsh.inI64_wrap64 _) reserved
  simpa only [Vault.ClaimRecord.accountData, Borsh.i64_wrap64] using h

end Accounts

/-- On the bytes of an account, whatever its bump and its reserved bytes, each decoder returns
the fields of the account. -/
structure DecodersAgree (sha256 : List Byte → Hash) : Prop where
  scannerProtocolConfig : ∀ (c : Scanner.ProtocolConfig) bump reserved, c.InRange →
    decodeScannerProtocolConfig sha256 (c.accountData sha256 bump reserved) =
      .ok { c with
        accountDiscriminator := accountDiscriminator sha256 "ProtocolConfig"
        bump }
  eligibilityAnchor : ∀ (a : Scanner.EligibilityAnchor) bump reserved, a.InRange →
    decodeEligibilityAnchor sha256 (a.accountData sha256 bump reserved) = .ok { a with bump }
  eligibilityCert : ∀ (c : Scanner.EligibilityCert) bump reserved, c.InRange →
    decodeEligibilityCert sha256 (c.accountData sha256 bump reserved) = .ok { c with bump }
  launchPrice : ∀ (l : Scanner.LaunchPrice) bump reserved, l.InRange →
    decodeLaunchPrice sha256 (l.accountData sha256 bump reserved) = .ok { l with bump }
  vaultProtocolConfig : ∀ (c : Vault.ProtocolConfig) bump reserved, c.InRange →
    decodeVaultProtocolConfig sha256 (c.accountData sha256 bump reserved) =
      .ok { c with
        accountDiscriminator := accountDiscriminator sha256 "ProtocolConfig"
        bump }
  poolRegistry : ∀ (r : Vault.PoolRegistry) bump reserved, r.InRange →
    decodePoolRegistry sha256 (r.accountData sha256 bump reserved) = .ok { r with bump }
  salvageReceipt : ∀ (r : Vault.SalvageReceipt) bump reserved, r.InRange →
    decodeSalvageReceipt sha256 (r.accountData sha256 bump reserved) = .ok { r with bump }
  claimRecord : ∀ (r : Vault.ClaimRecord) bump reserved, r.InRange →
    decodeClaimRecord sha256 (r.accountData sha256 bump reserved) = .ok { r with bump }

theorem decodersAgree (sha256 : List Byte → Hash) : DecodersAgree sha256 where
  scannerProtocolConfig _ bump reserved h := decodeScannerProtocolConfig_eq bump h reserved
  eligibilityAnchor _ bump reserved h := decodeEligibilityAnchor_eq bump h reserved
  eligibilityCert _ bump reserved h := decodeEligibilityCert_eq bump h reserved
  launchPrice _ bump reserved h := decodeLaunchPrice_eq bump h reserved
  vaultProtocolConfig _ bump reserved h := decodeVaultProtocolConfig_eq bump h reserved
  poolRegistry _ bump reserved h := decodePoolRegistry_eq bump h reserved
  salvageReceipt _ bump reserved h := decodeSalvageReceipt_eq bump h reserved
  claimRecord _ bump reserved h := decodeClaimRecord_eq bump h reserved

end GraveYield.Sdk
