import GraveYield.Layout
import GraveYield.Lib.Codec
import GraveYield.Lib.Sha256

/-!
# Dispatch

How the programs read instruction data and accounts : the first eight bytes select the instruction,
or have to be those of the account's type, and Borsh decodes the rest. Bytes after the last field
are ignored.

`wire_exact` is about every byte string. What the programs accept is the encoding of one value,
followed by ignored bytes; every value is accepted as itself; and nothing else is accepted, whatever
tags, counts or lengths it carries. Anchor's own instructions for the interface description are
not part of it.
-/

namespace GraveYield

open Machine Wire

/-! ## The scanner -/

namespace Scanner

/-- The parameters are the tuple of their fields, in the order of the source. -/
def InitializeParams.fields :
    Pubkey × U64 × U16 × U64 × U64 × U64 × ℤ ≃ InitializeParams where
  toFun | (a, b, c, d, e, f, g) => ⟨a, b, c, d, e, f, g⟩
  invFun p := (p.authority, p.inactivitySeconds, p.priceCollapseBps, p.minTvlLamports,
    p.anchorStalenessSeconds, p.lpBurnDustThreshold, p.certTtlSeconds)

/-- The Borsh codec of the parameters. -/
def InitializeParams.codec : Codec InitializeParams :=
  ((Codec.bytes 32).pair (Codec.u64.pair (Codec.u16.pair (Codec.u64.pair
    (Codec.u64.pair (Codec.u64.pair .i64)))))).map fields

/-- The parameters are the tuple of their fields. -/
def RecordLaunchPriceParams.fields :
    Pubkey × Pubkey × Pubkey × Pubkey × U128 × Bytes 168 ≃ RecordLaunchPriceParams where
  toFun | (a, b, c, d, e, f) => ⟨a, b, c, d, e, f⟩
  invFun p := (p.ammProgramId, p.poolAddress, p.baseMint, p.quoteMint, p.launchPriceQ64x64, p.msg)

/-- The Borsh codec of the parameters. -/
def RecordLaunchPriceParams.codec : Codec RecordLaunchPriceParams :=
  ((Codec.bytes 32).pair ((Codec.bytes 32).pair ((Codec.bytes 32).pair ((Codec.bytes 32).pair
    (Codec.u128.pair (.bytes 168)))))).map fields

/-- The parameters are the tuple of their fields. -/
def EvaluatePoolParams.fields : Pubkey × Pubkey × Bytes 112 ≃ EvaluatePoolParams where
  toFun | (a, b, c) => ⟨a, b, c⟩
  invFun p := (p.ammProgramId, p.poolAddress, p.msg)

/-- Of either phase. -/
def EvaluatePoolParams.codec : Codec EvaluatePoolParams :=
  ((Codec.bytes 32).pair ((Codec.bytes 32).pair (.bytes 112))).map fields

/-- The parameters are the tuple of their fields. -/
def UpdateProtocolConfigParams.fields :
    Option U64 × Option U16 × Option U64 × Option U64 × Option U64 × Option ℤ × Option Pubkey ×
      Option Pubkey ≃ UpdateProtocolConfigParams where
  toFun | (a, b, c, d, e, f, g, h) => ⟨a, b, c, d, e, f, g, h⟩
  invFun p := (p.inactivitySeconds, p.priceCollapseBps, p.minTvlLamports, p.anchorStalenessSeconds,
    p.lpBurnDustThreshold, p.certTtlSeconds, p.activityOracle, p.launchPriceOracle)

/-- The Borsh codec of the parameters. -/
def UpdateProtocolConfigParams.codec : Codec UpdateProtocolConfigParams :=
  (Codec.u64.option.pair (Codec.u16.option.pair (Codec.u64.option.pair (Codec.u64.option.pair
    (Codec.u64.option.pair (Codec.i64.option.pair ((Codec.bytes 32).option.pair
      (Codec.bytes 32).option))))))).map fields

/-- `UpdateProtocolConfigParams`, as the other instruction data. -/
def UpdateProtocolConfigParams.instructionData (sha256 : List Byte → Hash)
    (p : UpdateProtocolConfigParams) : List Byte :=
  [discriminator sha256 "global" "update_protocol_config",
    Borsh.option Borsh.u64 p.inactivitySeconds, Borsh.option Borsh.u16 p.priceCollapseBps,
    Borsh.option Borsh.u64 p.minTvlLamports,
    Borsh.option Borsh.u64 p.anchorStalenessSeconds, Borsh.option Borsh.u64 p.lpBurnDustThreshold,
    Borsh.option Borsh.i64 p.certTtlSeconds, Borsh.option Subtype.val p.activityOracle,
    Borsh.option Subtype.val p.launchPriceOracle].flatten

/-- What instruction data asks the scanner for. -/
inductive Request where
  | initializeProtocol (params : InitializeParams)
  | recordLaunchPrice (params : RecordLaunchPriceParams)
  | evaluatePoolPhase1 (params : EvaluatePoolParams)
  | evaluatePoolPhase2 (params : EvaluatePoolParams)
  | invalidateAnchor (key : PoolKey)
  | sweepStaleAnchor
  | updateProtocolConfig (params : UpdateProtocolConfigParams)
  | emergencyPause (paused : Bool)

namespace Request

/-- The instructions in the order of the program. -/
def entries : List (Entry Request) := [
  ⟨"initialize", _, InitializeParams.codec, .initializeProtocol⟩,
  ⟨"record_launch_price", _, RecordLaunchPriceParams.codec, .recordLaunchPrice⟩,
  ⟨"evaluate_pool_phase_1", _, EvaluatePoolParams.codec, .evaluatePoolPhase1⟩,
  ⟨"evaluate_pool_phase_2", _, EvaluatePoolParams.codec, .evaluatePoolPhase2⟩,
  ⟨"invalidate_anchor", _, (Codec.bytes 32).pair (.bytes 32), .invalidateAnchor⟩,
  ⟨"sweep_stale_anchor", _, .unit, fun _ => .sweepStaleAnchor⟩,
  ⟨"update_protocol_config", _, UpdateProtocolConfigParams.codec, .updateProtocolConfig⟩,
  ⟨"emergency_pause", _, .bool, .emergencyPause⟩]

variable (sha256 : List Byte → Hash)

/-- The entry point of the program. -/
def dispatch (data : List Byte) : Except DispatchError (Request × List Byte) :=
  Wire.dispatch (discriminator sha256 "global") entries data

/-- The instruction data of a request. -/
def data : Request → List Byte
  | .initializeProtocol params => params.instructionData sha256
  | .recordLaunchPrice params => params.instructionData sha256
  | .evaluatePoolPhase1 params => params.instructionData sha256 "evaluate_pool_phase_1"
  | .evaluatePoolPhase2 params => params.instructionData sha256 "evaluate_pool_phase_2"
  | .invalidateAnchor key => invalidateAnchorData sha256 key.1 key.2
  | .sweepStaleAnchor => sweepStaleAnchorData sha256
  | .updateProtocolConfig params => params.instructionData sha256
  | .emergencyPause paused => emergencyPauseData sha256 paused

/-- The timestamps are 64-bit integers. -/
def InRange : Request → Prop
  | .initializeProtocol params => Borsh.InI64 params.certTtlSeconds
  | .updateProtocolConfig params => ∀ v ∈ params.certTtlSeconds, Borsh.InI64 v
  | _ => True

variable {sha256}

/-- What an entry encodes is the instruction data of the request it makes. -/
theorem encoded_iff {r : Request} {data rest : List Byte} :
    (∃ e ∈ entries, ∃ a, e.wrap a = r ∧ e.codec.Valid a ∧
      data = discriminator sha256 "global" e.name ++ e.codec.encode a ++ rest) ↔
      r.InRange ∧ data = r.data sha256 ++ rest := by
  simp only [entries, List.mem_cons, List.not_mem_nil, or_false, or_and_right, exists_or,
    exists_eq_left]
  cases r <;>
    simp only [initializeProtocol.injEq, recordLaunchPrice.injEq, evaluatePoolPhase1.injEq,
      evaluatePoolPhase2.injEq, invalidateAnchor.injEq, updateProtocolConfig.injEq,
      emergencyPause.injEq, reduceCtorEq, false_and, exists_false, or_false, false_or,
      exists_eq_left, InRange, Request.data, true_and]
  case initializeProtocol params =>
    simp [InitializeParams.codec, InitializeParams.fields, InitializeParams.instructionData]
  case recordLaunchPrice params =>
    simp [RecordLaunchPriceParams.codec, RecordLaunchPriceParams.fields,
      RecordLaunchPriceParams.instructionData]
  case updateProtocolConfig params =>
    simp [UpdateProtocolConfigParams.codec, UpdateProtocolConfigParams.fields,
      UpdateProtocolConfigParams.instructionData]
  case invalidateAnchor key =>
    simp [invalidateAnchorData]
  case sweepStaleAnchor =>
    simp [sweepStaleAnchorData]
  case emergencyPause paused =>
    simp [emergencyPauseData]
  all_goals
    simp [EvaluatePoolParams.codec, EvaluatePoolParams.fields, EvaluatePoolParams.instructionData]

end Request

/-! ### Accounts -/

/-- The configuration is the tuple of its fields, in the order of the account. -/
def ProtocolConfig.fields :
    Pubkey × Pubkey × ℤ × U64 × U16 × U64 × U64 × U64 × ℤ × Bool × Pubkey × Pubkey ≃
      ProtocolConfig where
  toFun | (a, b, c, d, e, f, g, h, i, j, k, l) => ⟨a, b, c, d, e, f, g, h, i, j, k, l⟩
  invFun c := (c.authority, c.pendingAuthority, c.pendingAuthorityEta, c.inactivitySeconds,
    c.priceCollapseBps, c.minTvlLamports, c.anchorStalenessSeconds, c.lpBurnDustThreshold,
    c.certTtlSeconds, c.paused, c.activityOracle, c.launchPriceOracle)

/-- The Borsh codec of the configuration. -/
def ProtocolConfig.codec : Codec ProtocolConfig :=
  ((Codec.bytes 32).pair ((Codec.bytes 32).pair (Codec.i64.pair (Codec.u64.pair (Codec.u16.pair
    (Codec.u64.pair (Codec.u64.pair (Codec.u64.pair (Codec.i64.pair (Codec.bool.pair
      ((Codec.bytes 32).pair (.bytes 32)))))))))))).map fields

/-- The anchor is the tuple of its fields. -/
def EligibilityAnchor.fields :
    Pubkey × Pubkey × Pubkey × U64 × ℤ × Bool × U8 ≃ EligibilityAnchor where
  toFun | (a, b, c, d, e, f, g) => ⟨a, b, c, d, e, f, g⟩
  invFun a := (a.ammProgramId, a.poolAddress, a.writer, a.firstEligibleEpoch, a.writtenAt,
    a.invalidated, a.criteriaBitmap)

/-- The Borsh codec of the anchor. -/
def EligibilityAnchor.codec : Codec EligibilityAnchor :=
  ((Codec.bytes 32).pair ((Codec.bytes 32).pair ((Codec.bytes 32).pair (Codec.u64.pair
    (Codec.i64.pair (Codec.bool.pair .u8)))))).map fields

/-- The cert is the tuple of its fields. -/
def EligibilityCert.fields :
    Pubkey × Pubkey × Pubkey × U64 × U64 × ℤ × ℤ × U8 × U64 ≃ EligibilityCert where
  toFun | (a, b, c, d, e, f, g, h, i) => ⟨a, b, c, d, e, f, g, h, i⟩
  invFun c := (c.ammProgramId, c.poolAddress, c.writer, c.anchorEpoch, c.certEpoch, c.issuedAt,
    c.expiresAt, c.criteriaBitmap, c.reissueGeneration)

/-- The Borsh codec of the cert. -/
def EligibilityCert.codec : Codec EligibilityCert :=
  ((Codec.bytes 32).pair ((Codec.bytes 32).pair ((Codec.bytes 32).pair (Codec.u64.pair
    (Codec.u64.pair (Codec.i64.pair (Codec.i64.pair (Codec.u8.pair .u64)))))))).map fields

/-- The launch price is the tuple of its fields. -/
def LaunchPrice.fields :
    Pubkey × Pubkey × Pubkey × Pubkey × U128 × U64 × ℤ × U64 × ℤ ≃ LaunchPrice where
  toFun | (a, b, c, d, e, f, g, h, i) => ⟨a, b, c, d, e, f, g, h, i⟩
  invFun l := (l.ammProgramId, l.poolAddress, l.baseMint, l.quoteMint, l.launchPriceQ64x64,
    l.firstSwapSlot, l.firstSwapUnixTs, l.recordedSlot, l.recordedAt)

/-- The Borsh codec of the launch price. -/
def LaunchPrice.codec : Codec LaunchPrice :=
  ((Codec.bytes 32).pair ((Codec.bytes 32).pair ((Codec.bytes 32).pair ((Codec.bytes 32).pair
    (Codec.u128.pair (Codec.u64.pair (Codec.i64.pair (Codec.u64.pair .i64)))))))).map fields

/-- What an account of the scanner holds, with its bump and its reserved bytes. -/
inductive Stored where
  | protocolConfig (c : ProtocolConfig × U8 × Bytes 64)
  | eligibilityAnchor (a : EligibilityAnchor × U8 × Bytes 64)
  | eligibilityCert (c : EligibilityCert × U8 × Bytes 56)
  | launchPrice (l : LaunchPrice × U8 × Bytes 16)

namespace Stored

/-- The account types of the scanner, each with the codec of its fields, its bump and its
reserve. -/
def entries : List (Entry Stored) := [
  ⟨"ProtocolConfig", _, ProtocolConfig.codec.pair (Codec.u8.pair (.bytes 64)), .protocolConfig⟩,
  ⟨"EligibilityAnchor", _, EligibilityAnchor.codec.pair (Codec.u8.pair (.bytes 64)),
    .eligibilityAnchor⟩,
  ⟨"EligibilityCert", _, EligibilityCert.codec.pair (Codec.u8.pair (.bytes 56)),
    .eligibilityCert⟩,
  ⟨"LaunchPrice", _, LaunchPrice.codec.pair (Codec.u8.pair (.bytes 16)), .launchPrice⟩]

variable (sha256 : List Byte → Hash)

/-- Each type reads the accounts with its own discriminator. -/
def load (data : List Byte) : Except DispatchError (Stored × List Byte) :=
  Wire.dispatch (discriminator sha256 "account") entries data

/-- The bytes of an account. -/
def data : Stored → List Byte
  | .protocolConfig (c, bump, reserved) => c.accountData sha256 bump reserved
  | .eligibilityAnchor (a, bump, reserved) => a.accountData sha256 bump reserved
  | .eligibilityCert (c, bump, reserved) => c.accountData sha256 bump reserved
  | .launchPrice (l, bump, reserved) => l.accountData sha256 bump reserved

/-- The times of an account are values of an `i64`. -/
def InRange : Stored → Prop
  | .protocolConfig c => c.1.InRange
  | .eligibilityAnchor a => a.1.InRange
  | .eligibilityCert c => c.1.InRange
  | .launchPrice l => l.1.InRange

variable {sha256}

/-- What the codecs of the scanner's accounts write are their bytes. -/
theorem encoded_iff {s : Stored} {data rest : List Byte} :
    (∃ e ∈ entries, ∃ a, e.wrap a = s ∧ e.codec.Valid a ∧
      data = discriminator sha256 "account" e.name ++ e.codec.encode a ++ rest) ↔
      s.InRange ∧ data = s.data sha256 ++ rest := by
  simp only [entries, List.mem_cons, List.not_mem_nil, or_false, or_and_right, exists_or,
    exists_eq_left]
  cases s <;>
    simp only [protocolConfig.injEq, eligibilityAnchor.injEq, eligibilityCert.injEq,
      launchPrice.injEq, reduceCtorEq, false_and, exists_false, or_false, false_or,
      exists_eq_left, InRange, Stored.data]
  case protocolConfig c =>
    simp [ProtocolConfig.codec, ProtocolConfig.fields, ProtocolConfig.InRange,
      ProtocolConfig.accountData]
  case eligibilityAnchor a =>
    simp [EligibilityAnchor.codec, EligibilityAnchor.fields, EligibilityAnchor.InRange,
      EligibilityAnchor.accountData]
  case eligibilityCert c =>
    simp [EligibilityCert.codec, EligibilityCert.fields, EligibilityCert.InRange,
      EligibilityCert.accountData]
  case launchPrice l =>
    simp [LaunchPrice.codec, LaunchPrice.fields, LaunchPrice.InRange, LaunchPrice.accountData]

end Stored

end Scanner

/-! ## The vault -/

namespace Vault

/-- The parameters are the tuple of their fields, in the order of the source. -/
def InitializeParams.fields :
    Pubkey × U16 × U16 × U16 × U64 × U16 × U64 × ℤ ≃ InitializeParams where
  toFun | (a, b, c, d, e, f, g, h) => ⟨a, b, c, d, e, f, g, h⟩
  invFun p := (p.authority, p.lpHolderShareBps, p.salvorShareBps, p.protocolShareBps,
    p.maxPriorityFeeCeilingLamports, p.maxSlippageBps, p.jupiterDustThresholdLamports,
    p.timelockSeconds)

/-- The Borsh codec of the parameters. -/
def InitializeParams.codec : Codec InitializeParams :=
  ((Codec.bytes 32).pair (Codec.u16.pair (Codec.u16.pair (Codec.u16.pair (Codec.u64.pair
    (Codec.u16.pair (Codec.u64.pair .i64))))))).map fields

/-- The parameters are the tuple of their fields. -/
def UpdateProtocolConfigParams.fields :
    Option U16 × Option U16 × Option U16 × Option U64 × Option U16 × Option U64 × Option ℤ ≃
      UpdateProtocolConfigParams where
  toFun | (a, b, c, d, e, f, g) => ⟨a, b, c, d, e, f, g⟩
  invFun p := (p.lpHolderShareBps, p.salvorShareBps, p.protocolShareBps,
    p.maxPriorityFeeCeilingLamports, p.maxSlippageBps, p.jupiterDustThresholdLamports,
    p.timelockSeconds)

/-- The Borsh codec of the parameters. -/
def UpdateProtocolConfigParams.codec : Codec UpdateProtocolConfigParams :=
  (Codec.u16.option.pair (Codec.u16.option.pair (Codec.u16.option.pair (Codec.u64.option.pair
    (Codec.u16.option.pair (Codec.u64.option.pair Codec.i64.option)))))).map fields

/-- `UpdateProtocolConfigParams`, as the other instruction data. -/
def UpdateProtocolConfigParams.instructionData (sha256 : List Byte → Hash)
    (p : UpdateProtocolConfigParams) : List Byte :=
  [discriminator sha256 "global" "update_protocol_config",
    Borsh.option Borsh.u16 p.lpHolderShareBps, Borsh.option Borsh.u16 p.salvorShareBps,
    Borsh.option Borsh.u16 p.protocolShareBps,
    Borsh.option Borsh.u64 p.maxPriorityFeeCeilingLamports,
    Borsh.option Borsh.u16 p.maxSlippageBps,
    Borsh.option Borsh.u64 p.jupiterDustThresholdLamports,
    Borsh.option Borsh.i64 p.timelockSeconds].flatten

/-- The parameters are the tuple of their fields. -/
def SalvagePoolParams.fields :
    Pubkey × Pubkey × Hash × U64 × U64 × U64 × List Byte × Option U16 × U8 ≃
      SalvagePoolParams where
  toFun | (a, b, c, d, e, f, g, h, i) => ⟨a, b, c, d, e, f, g, h, i⟩
  invFun p := (p.ammProgramId, p.poolAddress, p.lpSnapshotMerkleRoot, p.lpTotalSupplyAtSnapshot,
    p.minQuoteOutputLamports, p.salvorLpAmount, p.jupiterRouteData, p.maxSlippageBpsOverride,
    p.jupiterRouteAccountsLen)

/-- The Borsh codec of the parameters. -/
def SalvagePoolParams.codec : Codec SalvagePoolParams :=
  ((Codec.bytes 32).pair ((Codec.bytes 32).pair ((Codec.bytes 32).pair (Codec.u64.pair
    (Codec.u64.pair (Codec.u64.pair (Codec.u8.vec.pair (Codec.u16.option.pair .u8)))))))).map fields

/-- The parameters are the tuple of their fields. -/
def ClaimLpProceedsParams.fields : Pubkey × U64 × List Hash ≃ ClaimLpProceedsParams where
  toFun | (a, b, c) => ⟨a, b, c⟩
  invFun p := (p.poolAddress, p.lpBalanceAtSnapshot, p.merkleProof)

/-- The Borsh codec of the parameters. -/
def ClaimLpProceedsParams.codec : Codec ClaimLpProceedsParams :=
  ((Codec.bytes 32).pair (Codec.u64.pair (Codec.bytes 32).vec)).map fields

/-- What instruction data asks the vault for. -/
inductive Request where
  | initializeProtocol (params : InitializeParams)
  | updateProtocolConfig (params : UpdateProtocolConfigParams)
  | emergencyPause (paused : Bool)
  | salvagePool (params : SalvagePoolParams)
  | claimLpProceeds (params : ClaimLpProceedsParams)
  | sweepDust (poolAddress : Pubkey)

namespace Request

/-- The instructions in the order of the program. -/
def entries : List (Entry Request) := [
  ⟨"initialize", _, InitializeParams.codec, .initializeProtocol⟩,
  ⟨"update_protocol_config", _, UpdateProtocolConfigParams.codec, .updateProtocolConfig⟩,
  ⟨"emergency_pause", _, .bool, .emergencyPause⟩,
  ⟨"salvage_pool", _, SalvagePoolParams.codec, .salvagePool⟩,
  ⟨"claim_lp_proceeds", _, ClaimLpProceedsParams.codec, .claimLpProceeds⟩,
  ⟨"sweep_dust", _, .bytes 32, .sweepDust⟩]

variable (sha256 : List Byte → Hash)

/-- The entry point of the program. -/
def dispatch (data : List Byte) : Except DispatchError (Request × List Byte) :=
  Wire.dispatch (discriminator sha256 "global") entries data

/-- The instruction data of a request. -/
def data : Request → List Byte
  | .initializeProtocol params => params.instructionData sha256
  | .updateProtocolConfig params => params.instructionData sha256
  | .emergencyPause paused => emergencyPauseData sha256 paused
  | .salvagePool params => params.instructionData sha256
  | .claimLpProceeds params => params.instructionData sha256
  | .sweepDust poolAddress => sweepDustData sha256 poolAddress

/-- The timestamps are 64-bit integers, and the sequences can be counted on four bytes. -/
def InRange : Request → Prop
  | .initializeProtocol params => Borsh.InI64 params.timelockSeconds
  | .updateProtocolConfig params => ∀ v ∈ params.timelockSeconds, Borsh.InI64 v
  | .salvagePool params => params.jupiterRouteData.length < 2 ^ 32
  | .claimLpProceeds params => params.merkleProof.length < 2 ^ 32
  | _ => True

variable {sha256}

/-- What an entry encodes is the instruction data of the request it makes. -/
theorem encoded_iff {r : Request} {data rest : List Byte} :
    (∃ e ∈ entries, ∃ a, e.wrap a = r ∧ e.codec.Valid a ∧
      data = discriminator sha256 "global" e.name ++ e.codec.encode a ++ rest) ↔
      r.InRange ∧ data = r.data sha256 ++ rest := by
  simp only [entries, List.mem_cons, List.not_mem_nil, or_false, or_and_right, exists_or,
    exists_eq_left]
  cases r <;>
    simp only [initializeProtocol.injEq, updateProtocolConfig.injEq, emergencyPause.injEq,
      salvagePool.injEq, claimLpProceeds.injEq, sweepDust.injEq, reduceCtorEq, false_and,
      exists_false, or_false, false_or, exists_eq_left, InRange, Request.data, true_and]
  case initializeProtocol params =>
    simp [InitializeParams.codec, InitializeParams.fields, InitializeParams.instructionData]
  case updateProtocolConfig params =>
    simp [UpdateProtocolConfigParams.codec, UpdateProtocolConfigParams.fields,
      UpdateProtocolConfigParams.instructionData]
  case emergencyPause paused =>
    simp [emergencyPauseData]
  case salvagePool params =>
    simp [SalvagePoolParams.codec, SalvagePoolParams.fields, SalvagePoolParams.instructionData]
  case claimLpProceeds params =>
    simp [ClaimLpProceedsParams.codec, ClaimLpProceedsParams.fields,
      ClaimLpProceedsParams.instructionData]
  case sweepDust poolAddress =>
    simp [sweepDustData]

end Request

/-! ### Accounts -/

/-- The configuration is the tuple of its fields, in the order of the account. -/
def ProtocolConfig.fields :
    Pubkey × Pubkey × ℤ × U16 × U16 × U16 × U64 × U16 × U64 × ℤ × Bool ≃ ProtocolConfig where
  toFun | (a, b, c, d, e, f, g, h, i, j, k) => ⟨a, b, c, d, e, f, g, h, i, j, k⟩
  invFun c := (c.authority, c.pendingAuthority, c.pendingAuthorityEta, c.lpHolderShareBps,
    c.salvorShareBps, c.protocolShareBps, c.maxPriorityFeeCeilingLamports, c.maxSlippageBps,
    c.jupiterDustThresholdLamports, c.timelockSeconds, c.emergencyPaused)

/-- The Borsh codec of the configuration. -/
def ProtocolConfig.codec : Codec ProtocolConfig :=
  ((Codec.bytes 32).pair ((Codec.bytes 32).pair (Codec.i64.pair (Codec.u16.pair (Codec.u16.pair
    (Codec.u16.pair (Codec.u64.pair (Codec.u16.pair (Codec.u64.pair (Codec.i64.pair
      .bool)))))))))).map fields

/-- The registry is the tuple of its fields. -/
def PoolRegistry.fields :
    Pubkey × Pubkey × Pubkey × Hash × U64 × U64 × U64 × U64 × ℤ ≃ PoolRegistry where
  toFun | (a, b, c, d, e, f, g, h, i) => ⟨a, b, c, d, e, f, g, h, i⟩
  invFun r := (r.ammProgramId, r.poolAddress, r.salvor, r.lpSnapshotMerkleRoot,
    r.lpTotalSupplyAtSnapshot, r.lpHolderPoolTotalLamports, r.lpHolderPoolClaimedLamports,
    r.salvagedAtSlot, r.salvagedAtTs)

/-- The Borsh codec of the registry. -/
def PoolRegistry.codec : Codec PoolRegistry :=
  ((Codec.bytes 32).pair ((Codec.bytes 32).pair ((Codec.bytes 32).pair ((Codec.bytes 32).pair
    (Codec.u64.pair (Codec.u64.pair (Codec.u64.pair (Codec.u64.pair .i64)))))))).map fields

/-- The receipt is the tuple of its fields. -/
def SalvageReceipt.fields :
    Pubkey × Pubkey × U64 × U64 × U64 × U64 × U64 × ℤ × Pubkey × U64 × ℤ ≃ SalvageReceipt where
  toFun | (a, b, c, d, e, f, g, h, i, j, k) => ⟨a, b, c, d, e, f, g, h, i, j, k⟩
  invFun r := (r.poolAddress, r.salvor, r.lpHolderAmountLamports, r.salvorAmountLamports,
    r.protocolAmountLamports, r.totalProceedsLamports, r.issuedAtSlot, r.issuedAtTs,
    r.memecoinMint, r.dustMemecoinLamports, r.dustSweptAtTs)

/-- The Borsh codec of the receipt. -/
def SalvageReceipt.codec : Codec SalvageReceipt :=
  ((Codec.bytes 32).pair ((Codec.bytes 32).pair (Codec.u64.pair (Codec.u64.pair (Codec.u64.pair
    (Codec.u64.pair (Codec.u64.pair (Codec.i64.pair ((Codec.bytes 32).pair (Codec.u64.pair
      .i64)))))))))).map fields

/-- The claim record is the tuple of its fields. -/
def ClaimRecord.fields : Pubkey × Pubkey × U64 × U64 × U64 × ℤ ≃ ClaimRecord where
  toFun | (a, b, c, d, e, f) => ⟨a, b, c, d, e, f⟩
  invFun r := (r.poolAddress, r.lpHolder, r.amountLamports, r.lpBalanceAtSnapshot,
    r.claimedAtSlot, r.claimedAtTs)

/-- The Borsh codec of the claim record. -/
def ClaimRecord.codec : Codec ClaimRecord :=
  ((Codec.bytes 32).pair ((Codec.bytes 32).pair (Codec.u64.pair (Codec.u64.pair (Codec.u64.pair
    .i64))))).map fields

/-- What an account of the vault holds, with its bump and its reserved bytes. -/
inductive Stored where
  | protocolConfig (c : ProtocolConfig × U8 × Bytes 96)
  | poolRegistry (r : PoolRegistry × U8 × Bytes 64)
  | salvageReceipt (r : SalvageReceipt × U8 × Bytes 32)
  | claimRecord (r : ClaimRecord × U8 × Bytes 32)

namespace Stored

/-- The account types of the vault, each with the codec of its fields, its bump and its reserve. -/
def entries : List (Entry Stored) := [
  ⟨"ProtocolConfig", _, ProtocolConfig.codec.pair (Codec.u8.pair (.bytes 96)), .protocolConfig⟩,
  ⟨"PoolRegistry", _, PoolRegistry.codec.pair (Codec.u8.pair (.bytes 64)), .poolRegistry⟩,
  ⟨"SalvageReceipt", _, SalvageReceipt.codec.pair (Codec.u8.pair (.bytes 32)), .salvageReceipt⟩,
  ⟨"ClaimRecord", _, ClaimRecord.codec.pair (Codec.u8.pair (.bytes 32)), .claimRecord⟩]

variable (sha256 : List Byte → Hash)

/-- Each type reads the accounts with its own discriminator. -/
def load (data : List Byte) : Except DispatchError (Stored × List Byte) :=
  Wire.dispatch (discriminator sha256 "account") entries data

/-- The bytes of an account. -/
def data : Stored → List Byte
  | .protocolConfig (c, bump, reserved) => c.accountData sha256 bump reserved
  | .poolRegistry (r, bump, reserved) => r.accountData sha256 bump reserved
  | .salvageReceipt (r, bump, reserved) => r.accountData sha256 bump reserved
  | .claimRecord (r, bump, reserved) => r.accountData sha256 bump reserved

/-- The times of an account are values of an `i64`. -/
def InRange : Stored → Prop
  | .protocolConfig c => c.1.InRange
  | .poolRegistry r => r.1.InRange
  | .salvageReceipt r => r.1.InRange
  | .claimRecord r => r.1.InRange

variable {sha256}

/-- What the codecs of the vault's accounts write are their bytes. -/
theorem encoded_iff {s : Stored} {data rest : List Byte} :
    (∃ e ∈ entries, ∃ a, e.wrap a = s ∧ e.codec.Valid a ∧
      data = discriminator sha256 "account" e.name ++ e.codec.encode a ++ rest) ↔
      s.InRange ∧ data = s.data sha256 ++ rest := by
  simp only [entries, List.mem_cons, List.not_mem_nil, or_false, or_and_right, exists_or,
    exists_eq_left]
  cases s <;>
    simp only [protocolConfig.injEq, poolRegistry.injEq, salvageReceipt.injEq, claimRecord.injEq,
      reduceCtorEq, false_and, exists_false, or_false, false_or, exists_eq_left, InRange,
      Stored.data]
  case protocolConfig c =>
    simp [ProtocolConfig.codec, ProtocolConfig.fields, ProtocolConfig.InRange,
      ProtocolConfig.accountData]
  case poolRegistry r =>
    simp [PoolRegistry.codec, PoolRegistry.fields, PoolRegistry.InRange, PoolRegistry.accountData]
  case salvageReceipt r =>
    simp [SalvageReceipt.codec, SalvageReceipt.fields, SalvageReceipt.InRange,
      SalvageReceipt.accountData]
  case claimRecord r =>
    simp [ClaimRecord.codec, ClaimRecord.fields, ClaimRecord.InRange, ClaimRecord.accountData]

end Stored

end Vault

/-! ## Both programs -/

/-- A reader accepts the encodings of the values in range, each as itself and with any bytes
behind it, and no other string. -/
def Exact {α : Type} (read : List Byte → Except DispatchError (α × List Byte))
    (InRange : α → Prop) (encode : α → List Byte) : Prop :=
  ∀ data rest a, read data = .ok (a, rest) ↔ InRange a ∧ data = encode a ++ rest

/-- No two discriminators of one program coincide. -/
def TagsDistinct (sha256 : List Byte → Hash) (space : String) (names : List String) : Prop :=
  (names.map (discriminator sha256 space)).Nodup

/-- Distinctness of finitely many tags is decided by computing them. -/
instance (sha256 : List Byte → Hash) (space : String) (names : List String) :
    Decidable (TagsDistinct sha256 space names) :=
  inferInstanceAs (Decidable (List.Nodup _))

/-- Behind distinct tags, what is read is exactly what is written. -/
theorem exact_of_encoded {sha256 : List Byte → Hash} {space : String} {α : Type}
    {entries : List (Entry α)} {InRange : α → Prop} {encode : α → List Byte}
    (htags : TagsDistinct sha256 space (entries.map Entry.name))
    (h : ∀ {a data rest}, (∃ e ∈ entries, ∃ x, e.wrap x = a ∧ e.codec.Valid x ∧
      data = discriminator sha256 space e.name ++ e.codec.encode x ++ rest) ↔
      InRange a ∧ data = encode a ++ rest) :
    Exact (Wire.dispatch (discriminator sha256 space) entries) InRange encode := by
  intro data rest a
  rw [TagsDistinct, List.map_map] at htags
  exact (dispatch_ok_iff (length_discriminator sha256 space) htags).trans h

/-- The instruction data and the accounts of both programs : for every byte string, what is read
off it is a value in range with this very encoding in front, and every such value is. -/
theorem wire_exact (sha256 : List Byte → Hash)
    (hscanner : TagsDistinct sha256 "global" (Scanner.Request.entries.map Entry.name))
    (hvault : TagsDistinct sha256 "global" (Vault.Request.entries.map Entry.name))
    (hscanned : TagsDistinct sha256 "account" (Scanner.Stored.entries.map Entry.name))
    (hstored : TagsDistinct sha256 "account" (Vault.Stored.entries.map Entry.name)) :
    Exact (Scanner.Request.dispatch sha256) Scanner.Request.InRange (Scanner.Request.data sha256) ∧
    Exact (Vault.Request.dispatch sha256) Vault.Request.InRange (Vault.Request.data sha256) ∧
    Exact (Scanner.Stored.load sha256) Scanner.Stored.InRange (Scanner.Stored.data sha256) ∧
    Exact (Vault.Stored.load sha256) Vault.Stored.InRange (Vault.Stored.data sha256) :=
  ⟨exact_of_encoded hscanner Scanner.Request.encoded_iff,
    exact_of_encoded hvault Vault.Request.encoded_iff,
    exact_of_encoded hscanned Scanner.Stored.encoded_iff,
    exact_of_encoded hstored Vault.Stored.encoded_iff⟩

/-- With SHA-256 the discriminators are distinct. -/
theorem wire_exact_sha256 :
    Exact (Scanner.Request.dispatch Machine.sha256) Scanner.Request.InRange
      (Scanner.Request.data Machine.sha256) ∧
    Exact (Vault.Request.dispatch Machine.sha256) Vault.Request.InRange
      (Vault.Request.data Machine.sha256) ∧
    Exact (Scanner.Stored.load Machine.sha256) Scanner.Stored.InRange
      (Scanner.Stored.data Machine.sha256) ∧
    Exact (Vault.Stored.load Machine.sha256) Vault.Stored.InRange
      (Vault.Stored.data Machine.sha256) :=
  wire_exact Machine.sha256 (by decide +kernel) (by decide +kernel) (by decide +kernel)
    (by decide +kernel)

end GraveYield
