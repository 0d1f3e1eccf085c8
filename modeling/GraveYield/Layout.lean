import GraveYield.Lib.Borsh
import GraveYield.Salvage
import GraveYield.Scanner

/-!
# The bytes of instructions and accounts

Anchor dispatches on the first eight bytes of instruction data and of account data, and derives
Borsh for the parameters and the accounts : the fields in the order of the struct. The accounts
end with the bump of their address and a reserved array.
-/

namespace GraveYield

open Machine

/-- The bytes of an ASCII text. -/
def ascii (s : String) : List Byte :=
  s.toList.map fun c => Fin.ofNat (2 ^ 8) c.toNat

/-- The first eight bytes of the hash of `space:name`. -/
def discriminator (sha256 : List Byte → Hash) (space name : String) : List Byte :=
  (sha256 (ascii space ++ ascii ":" ++ ascii name)).val.take 8

@[simp] theorem length_discriminator (sha256 : List Byte → Hash) (space name : String) :
    (discriminator sha256 space name).length = 8 := by
  rw [discriminator, List.length_take, Bytes.length_val]
  rfl

variable (sha256 : List Byte → Hash)

/-! ## The scanner -/

namespace Scanner

open Borsh

/-- The data of `initialize` of the scanner. -/
def InitializeParams.instructionData (p : InitializeParams) : List Byte :=
  [discriminator sha256 "global" "initialize", p.authority.val, u64 p.inactivitySeconds,
    u16 p.priceCollapseBps, u64 p.minTvlLamports, u64 p.anchorStalenessSeconds,
    u64 p.lpBurnDustThreshold, i64 p.certTtlSeconds].flatten

/-- The data of `record_launch_price`. -/
def RecordLaunchPriceParams.instructionData (p : RecordLaunchPriceParams) : List Byte :=
  [discriminator sha256 "global" "record_launch_price", p.ammProgramId.val, p.poolAddress.val,
    p.baseMint.val, p.quoteMint.val, u128 p.launchPriceQ64x64, p.msg.val].flatten

/-- Of the instruction `name`, one of the two phases. -/
def EvaluatePoolParams.instructionData (name : String) (p : EvaluatePoolParams) : List Byte :=
  [discriminator sha256 "global" name, p.ammProgramId.val, p.poolAddress.val, p.msg.val].flatten

/-- The data of `emergency_pause` of the scanner. -/
def emergencyPauseData (paused : Bool) : List Byte :=
  [discriminator sha256 "global" "emergency_pause", bool paused].flatten

/-- The parameters are the seeds of the anchor. -/
def invalidateAnchorData (ammProgramId poolAddress : Pubkey) : List Byte :=
  [discriminator sha256 "global" "invalidate_anchor", ammProgramId.val, poolAddress.val].flatten

/-- The data of `sweep_stale_anchor`. -/
def sweepStaleAnchorData : List Byte :=
  discriminator sha256 "global" "sweep_stale_anchor"

/-- The times of a configuration are values of an `i64`. -/
def ProtocolConfig.InRange (c : ProtocolConfig) : Prop :=
  InI64 c.pendingAuthorityEta ∧ InI64 c.certTtlSeconds

/-- The bytes of the scanner's configuration. -/
def ProtocolConfig.accountData (c : ProtocolConfig) (bump : U8) (reserved : Bytes 64) :
    List Byte :=
  [discriminator sha256 "account" "ProtocolConfig", c.authority.val, c.pendingAuthority.val,
    i64 c.pendingAuthorityEta, u64 c.inactivitySeconds, u16 c.priceCollapseBps,
    u64 c.minTvlLamports, u64 c.anchorStalenessSeconds, u64 c.lpBurnDustThreshold,
    i64 c.certTtlSeconds, bool c.paused, c.activityOracle.val, c.launchPriceOracle.val, u8 bump,
    reserved.val].flatten

/-- The time of an anchor is a value of an `i64`. -/
def EligibilityAnchor.InRange (a : EligibilityAnchor) : Prop :=
  InI64 a.writtenAt

/-- The bytes of an anchor. -/
def EligibilityAnchor.accountData (a : EligibilityAnchor) (bump : U8) (reserved : Bytes 64) :
    List Byte :=
  [discriminator sha256 "account" "EligibilityAnchor", a.ammProgramId.val, a.poolAddress.val,
    a.writer.val, u64 a.firstEligibleEpoch, i64 a.writtenAt, bool a.invalidated,
    u8 a.criteriaBitmap, u8 bump, reserved.val].flatten

/-- The times of a cert are values of an `i64`. -/
def EligibilityCert.InRange (c : EligibilityCert) : Prop :=
  InI64 c.issuedAt ∧ InI64 c.expiresAt

/-- The bytes of a cert. -/
def EligibilityCert.accountData (c : EligibilityCert) (bump : U8) (reserved : Bytes 56) :
    List Byte :=
  [discriminator sha256 "account" "EligibilityCert", c.ammProgramId.val, c.poolAddress.val,
    c.writer.val, u64 c.anchorEpoch, u64 c.certEpoch, i64 c.issuedAt, i64 c.expiresAt,
    u8 c.criteriaBitmap, u64 c.reissueGeneration, u8 bump, reserved.val].flatten

/-- The times of a launch price are values of an `i64`. -/
def LaunchPrice.InRange (l : LaunchPrice) : Prop :=
  InI64 l.firstSwapUnixTs ∧ InI64 l.recordedAt

/-- The bytes of a launch price. -/
def LaunchPrice.accountData (l : LaunchPrice) (bump : U8) (reserved : Bytes 16) : List Byte :=
  [discriminator sha256 "account" "LaunchPrice", l.ammProgramId.val, l.poolAddress.val,
    l.baseMint.val, l.quoteMint.val, u128 l.launchPriceQ64x64, u64 l.firstSwapSlot,
    i64 l.firstSwapUnixTs, u64 l.recordedSlot, i64 l.recordedAt, u8 bump, reserved.val].flatten

end Scanner

/-! ## The vault -/

namespace Vault

open Borsh

/-- The data of `initialize` of the vault. -/
def InitializeParams.instructionData (p : InitializeParams) : List Byte :=
  [discriminator sha256 "global" "initialize", p.authority.val, u16 p.lpHolderShareBps,
    u16 p.salvorShareBps, u16 p.protocolShareBps, u64 p.maxPriorityFeeCeilingLamports,
    u16 p.maxSlippageBps, u64 p.jupiterDustThresholdLamports, i64 p.timelockSeconds].flatten

/-- The data of `emergency_pause` of the vault. -/
def emergencyPauseData (paused : Bool) : List Byte :=
  [discriminator sha256 "global" "emergency_pause", bool paused].flatten

/-- The data of `salvage_pool`. -/
def SalvagePoolParams.instructionData (p : SalvagePoolParams) : List Byte :=
  [discriminator sha256 "global" "salvage_pool", p.ammProgramId.val, p.poolAddress.val,
    p.lpSnapshotMerkleRoot.val, u64 p.lpTotalSupplyAtSnapshot, u64 p.minQuoteOutputLamports,
    u64 p.salvorLpAmount, vec u8 p.jupiterRouteData, option u16 p.maxSlippageBpsOverride,
    u8 p.jupiterRouteAccountsLen].flatten

/-- The data of `claim_lp_proceeds`. -/
def ClaimLpProceedsParams.instructionData (p : ClaimLpProceedsParams) : List Byte :=
  [discriminator sha256 "global" "claim_lp_proceeds", p.poolAddress.val, u64 p.lpBalanceAtSnapshot,
    vec Subtype.val p.merkleProof].flatten

/-- The only parameter is the pool. -/
def sweepDustData (poolAddress : Pubkey) : List Byte :=
  [discriminator sha256 "global" "sweep_dust", poolAddress.val].flatten

/-- The times of a configuration are values of an `i64`. -/
def ProtocolConfig.InRange (c : ProtocolConfig) : Prop :=
  InI64 c.pendingAuthorityEta ∧ InI64 c.timelockSeconds

/-- The bytes of the vault's configuration. -/
def ProtocolConfig.accountData (c : ProtocolConfig) (bump : U8) (reserved : Bytes 96) :
    List Byte :=
  [discriminator sha256 "account" "ProtocolConfig", c.authority.val, c.pendingAuthority.val,
    i64 c.pendingAuthorityEta, u16 c.lpHolderShareBps, u16 c.salvorShareBps,
    u16 c.protocolShareBps, u64 c.maxPriorityFeeCeilingLamports, u16 c.maxSlippageBps,
    u64 c.jupiterDustThresholdLamports, i64 c.timelockSeconds, bool c.emergencyPaused, u8 bump,
    reserved.val].flatten

/-- The time of a registry is a value of an `i64`. -/
def PoolRegistry.InRange (r : PoolRegistry) : Prop :=
  InI64 r.salvagedAtTs

/-- The bytes of a registry. -/
def PoolRegistry.accountData (r : PoolRegistry) (bump : U8) (reserved : Bytes 64) : List Byte :=
  [discriminator sha256 "account" "PoolRegistry", r.ammProgramId.val, r.poolAddress.val,
    r.salvor.val, r.lpSnapshotMerkleRoot.val, u64 r.lpTotalSupplyAtSnapshot,
    u64 r.lpHolderPoolTotalLamports, u64 r.lpHolderPoolClaimedLamports, u64 r.salvagedAtSlot,
    i64 r.salvagedAtTs, u8 bump, reserved.val].flatten

/-- The times of a receipt are values of an `i64`. -/
def SalvageReceipt.InRange (r : SalvageReceipt) : Prop :=
  InI64 r.issuedAtTs ∧ InI64 r.dustSweptAtTs

/-- The bytes of a receipt. -/
def SalvageReceipt.accountData (r : SalvageReceipt) (bump : U8) (reserved : Bytes 32) :
    List Byte :=
  [discriminator sha256 "account" "SalvageReceipt", r.poolAddress.val, r.salvor.val,
    u64 r.lpHolderAmountLamports, u64 r.salvorAmountLamports, u64 r.protocolAmountLamports,
    u64 r.totalProceedsLamports, u64 r.issuedAtSlot, i64 r.issuedAtTs, r.memecoinMint.val,
    u64 r.dustMemecoinLamports, i64 r.dustSweptAtTs, u8 bump, reserved.val].flatten

/-- The time of a claim record is a value of an `i64`. -/
def ClaimRecord.InRange (r : ClaimRecord) : Prop :=
  InI64 r.claimedAtTs

/-- The bytes of a claim record. -/
def ClaimRecord.accountData (r : ClaimRecord) (bump : U8) (reserved : Bytes 32) : List Byte :=
  [discriminator sha256 "account" "ClaimRecord", r.poolAddress.val, r.lpHolder.val,
    u64 r.amountLamports, u64 r.lpBalanceAtSnapshot, u64 r.claimedAtSlot, i64 r.claimedAtTs,
    u8 bump, reserved.val].flatten

/-- The bytes of the accounts that the vault program owns, by their addresses. -/
inductive State.Stores (v : State) : Account → List Byte → Prop where
  | vaultConfig {c : ProtocolConfig} (h : v.protocolConfig = some c) (bump : U8)
    (reserved : Bytes 96) : v.Stores .vaultConfig (c.accountData sha256 bump reserved)
  | poolRegistry {pool : Pubkey} {r : PoolRegistry} (h : v.registries pool = some r) (bump : U8)
    (reserved : Bytes 64) : v.Stores (.poolRegistry pool) (r.accountData sha256 bump reserved)
  | salvageReceipt {pool : Pubkey} {r : SalvageReceipt} (h : v.receipts pool = some r) (bump : U8)
    (reserved : Bytes 32) : v.Stores (.salvageReceipt pool) (r.accountData sha256 bump reserved)
  | claimRecord {pool holder : Pubkey} {r : ClaimRecord}
    (h : v.claimRecords (pool, holder) = some r) (bump : U8) (reserved : Bytes 32) :
    v.Stores (.claimRecord pool holder) (r.accountData sha256 bump reserved)

end Vault

end GraveYield
