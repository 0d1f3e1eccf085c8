import GraveYield.Adapters
import GraveYield.Attestation
import GraveYield.Criteria
import GraveYield.Lib.Run

/-!
# The scanner program

The accounts the scanner owns, its eight instructions, and its machine `Scanner.exec`. A
program-derived account is a slot of the state, indexed by its seeds; `init` fails on an
occupied slot and `close` empties it. The accounts of other programs and the sysvars that an
instruction is handed are part of the instruction, so that nothing is assumed of how they
change between steps. The clock moves by `tick`, never backwards.

Each handler has an inversion lemma that lists what a successful call has checked and
written.
-/

namespace GraveYield.Scanner

open Machine Checked

/-! ## Accounts -/

/-- `ProtocolConfig` of the scanner. -/
structure ProtocolConfig where
  authority : Pubkey
  pendingAuthority : Pubkey
  pendingAuthorityEta : ℤ
  inactivitySeconds : U64
  priceCollapseBps : U16
  minTvlLamports : U64
  anchorStalenessSeconds : U64
  lpBurnDustThreshold : U64
  certTtlSeconds : ℤ
  paused : Bool
  activityOracle : Pubkey
  launchPriceOracle : Pubkey
  deriving DecidableEq

/-- `LaunchPrice`. -/
structure LaunchPrice where
  ammProgramId : Pubkey
  poolAddress : Pubkey
  baseMint : Pubkey
  quoteMint : Pubkey
  launchPriceQ64x64 : U128
  firstSwapSlot : U64
  firstSwapUnixTs : ℤ
  recordedSlot : U64
  recordedAt : ℤ
  deriving DecidableEq

/-- `EligibilityAnchor`. -/
structure EligibilityAnchor where
  ammProgramId : Pubkey
  poolAddress : Pubkey
  writer : Pubkey
  firstEligibleEpoch : U64
  writtenAt : ℤ
  invalidated : Bool
  criteriaBitmap : U8
  deriving DecidableEq

/-- `EligibilityCert`. -/
structure EligibilityCert where
  ammProgramId : Pubkey
  poolAddress : Pubkey
  writer : Pubkey
  anchorEpoch : U64
  certEpoch : U64
  issuedAt : ℤ
  expiresAt : ℤ
  criteriaBitmap : U8
  reissueGeneration : U64
  deriving DecidableEq

/-- `is_expired`. -/
def EligibilityCert.isExpired (c : EligibilityCert) (now : ℤ) : Bool :=
  c.expiresAt ≤ now

/-- A freshly allocated cert : all bytes are zero. -/
def EligibilityCert.zeroed : EligibilityCert :=
  ⟨defaultPubkey, defaultPubkey, defaultPubkey, 0, 0, 0, 0, 0, 0⟩

/-- The seeds of a pool's accounts : `(amm_program_id, pool_address)`. -/
abbrev PoolKey := Pubkey × Pubkey

/-- The seeds that an evaluation names. -/
def EvaluatePoolParams.key (params : EvaluatePoolParams) : PoolKey :=
  (params.ammProgramId, params.poolAddress)

/-- The seeds that a recording names. -/
def RecordLaunchPriceParams.key (params : RecordLaunchPriceParams) : PoolKey :=
  (params.ammProgramId, params.poolAddress)

/-- The accounts of the scanner, and the clock. -/
structure State where
  clock : Clock
  protocolConfig : Option ProtocolConfig
  launchPrices : PoolKey → Option LaunchPrice
  anchors : PoolKey → Option EligibilityAnchor
  certs : PoolKey → Option EligibilityCert

/-- Before any instruction. -/
def State.genesis (clock : Clock) : State :=
  ⟨clock, none, fun _ => none, fun _ => none, fun _ => none⟩

/-! ## Configuration -/

/-- `DEFAULT_INACTIVITY_SECONDS`, ninety days. -/
def defaultInactivitySeconds : U64 := 90 * 24 * 60 * 60

/-- `DEFAULT_PRICE_COLLAPSE_BPS`. -/
def defaultPriceCollapseBps : U16 := 9900

/-- `DEFAULT_MIN_TVL_LAMPORTS`, half a SOL. -/
def defaultMinTvlLamports : U64 := 500000000

/-- `DEFAULT_LP_BURN_DUST_THRESHOLD`. -/
def defaultLpBurnDustThreshold : U64 := 1000

/-- `DEFAULT_ANCHOR_STALENESS_SECONDS`, two weeks. -/
def defaultAnchorStalenessSeconds : U64 := 14 * 24 * 60 * 60

/-- `DEFAULT_CERT_TTL_SECONDS`, one hour. -/
def defaultCertTtlSeconds : ℤ := 60 * 60

/-- `MIN_CERT_TTL_SECONDS`, ten minutes. -/
def minCertTtlSeconds : ℤ := 600

/-- `APPROX_EPOCH_DURATION_SECONDS`, two days. -/
def approxEpochDurationSeconds : U64 := 2 * 24 * 60 * 60

/-- `MIN_ANCHOR_STALENESS_SECONDS`, three epochs. -/
def minAnchorStalenessSeconds : U64 := (2 + 1) * approxEpochDurationSeconds

/-- The account of a program-derived address that must exist. -/
def loadAccount {α : Type} (slot : Option α) : Except ProgramError α :=
  okOr slot (.fault .accountNotInitialized)

/-- `init` : the slot must be free. -/
def initAccount {α : Type} (slot : Option α) : Except ProgramError Unit :=
  require (slot.isNone) (.fault .accountAlreadyInUse)

/-- The configuration, and its `has_one = authority` constraint on the signer. -/
def loadConfigAs (s : State) (authority : Pubkey) : Except ProgramError ProtocolConfig := do
  let cfg ← loadAccount s.protocolConfig
  require (cfg.authority = authority) (.scanner .unauthorized)
  return cfg

/-- `InitializeParams`. -/
structure InitializeParams where
  authority : Pubkey
  inactivitySeconds : U64
  priceCollapseBps : U16
  minTvlLamports : U64
  anchorStalenessSeconds : U64
  lpBurnDustThreshold : U64
  certTtlSeconds : ℤ

/-- Zero stands for the default. -/
def orDefault {w : ℕ} (v default : Word w) : Word w :=
  if v.val = 0 then default else v

/-- The configuration `initialize` writes. -/
def initialConfig (params : InitializeParams) : Except ProgramError ProtocolConfig := do
  require (params.anchorStalenessSeconds.val = 0 ∨
    minAnchorStalenessSeconds.val ≤ params.anchorStalenessSeconds.val)
    (.scanner .invariantViolation)
  let certTtl := if params.certTtlSeconds = 0 then defaultCertTtlSeconds else params.certTtlSeconds
  require (minCertTtlSeconds ≤ certTtl) (.scanner .certTtlBelowMinimum)
  return {
    authority := params.authority
    pendingAuthority := defaultPubkey
    pendingAuthorityEta := 0
    inactivitySeconds := orDefault params.inactivitySeconds defaultInactivitySeconds
    priceCollapseBps := orDefault params.priceCollapseBps defaultPriceCollapseBps
    minTvlLamports := orDefault params.minTvlLamports defaultMinTvlLamports
    anchorStalenessSeconds := orDefault params.anchorStalenessSeconds defaultAnchorStalenessSeconds
    lpBurnDustThreshold := orDefault params.lpBurnDustThreshold defaultLpBurnDustThreshold
    certTtlSeconds := certTtl
    paused := false
    activityOracle := params.authority
    launchPriceOracle := params.authority }

/-- `UpdateProtocolConfigParams`. -/
structure UpdateProtocolConfigParams where
  inactivitySeconds : Option U64
  priceCollapseBps : Option U16
  minTvlLamports : Option U64
  anchorStalenessSeconds : Option U64
  lpBurnDustThreshold : Option U64
  certTtlSeconds : Option ℤ
  activityOracle : Option Pubkey
  launchPriceOracle : Option Pubkey

/-- Each field that is given, checked in order. A failure leaves the account as it was. -/
def applyConfigUpdate (cfg : ProtocolConfig) (params : UpdateProtocolConfigParams) :
    Except ProgramError ProtocolConfig := do
  require (∀ v ∈ params.priceCollapseBps, v.val ≤ 10000) (.scanner .invariantViolation)
  require (∀ v ∈ params.anchorStalenessSeconds, minAnchorStalenessSeconds.val ≤ v.val)
    (.scanner .invariantViolation)
  require (∀ v ∈ params.certTtlSeconds, minCertTtlSeconds ≤ v) (.scanner .certTtlBelowMinimum)
  return { cfg with
    inactivitySeconds := params.inactivitySeconds.getD cfg.inactivitySeconds
    priceCollapseBps := params.priceCollapseBps.getD cfg.priceCollapseBps
    minTvlLamports := params.minTvlLamports.getD cfg.minTvlLamports
    anchorStalenessSeconds := params.anchorStalenessSeconds.getD cfg.anchorStalenessSeconds
    lpBurnDustThreshold := params.lpBurnDustThreshold.getD cfg.lpBurnDustThreshold
    certTtlSeconds := params.certTtlSeconds.getD cfg.certTtlSeconds
    activityOracle := params.activityOracle.getD cfg.activityOracle
    launchPriceOracle := params.launchPriceOracle.getD cfg.launchPriceOracle }

/-! ## Handlers -/

/-- `initialize`. -/
def initializeProtocol (s : State) (params : InitializeParams) : Except ProgramError State := do
  initAccount s.protocolConfig
  let cfg ← initialConfig params
  return { s with protocolConfig := some cfg }

/-- `update_protocol_config`. -/
def updateProtocolConfig (s : State) (params : UpdateProtocolConfigParams) (authority : Pubkey) :
    Except ProgramError State := do
  let cfg ← loadConfigAs s authority
  let cfg' ← applyConfigUpdate cfg params
  return { s with protocolConfig := some cfg' }

/-- `emergency_pause`. A toggle to the current value is refused. -/
def emergencyPause (s : State) (paused : Bool) (authority : Pubkey) :
    Except ProgramError State := do
  let cfg ← loadConfigAs s authority
  require (cfg.paused ≠ paused) (.scanner .invariantViolation)
  return { s with protocolConfig := some { cfg with paused } }

/-- `record_launch_price`. -/
def recordLaunchPrice (s : State) (params : RecordLaunchPriceParams)
    (instructionSysvar : InstructionsSysvar) : Except ProgramError State := do
  initAccount (s.launchPrices params.key)
  let cfg ← loadAccount s.protocolConfig
  require (cfg.paused = false) (.scanner .protocolPaused)
  let (launchPriceQ64x64, firstSwapSlot, firstSwapUnixTs) ←
    verifyLaunchPriceAttestation instructionSysvar
      { msg := params.msg, ammProgramId := params.ammProgramId, poolAddress := params.poolAddress,
        baseMint := params.baseMint, quoteMint := params.quoteMint,
        launchPriceQ64x64 := params.launchPriceQ64x64, oracle := cfg.launchPriceOracle }
      s.clock.unixTimestamp s.clock.slot
  return { s with
    launchPrices := Function.update s.launchPrices params.key (some {
      ammProgramId := params.ammProgramId
      poolAddress := params.poolAddress
      baseMint := params.baseMint
      quoteMint := params.quoteMint
      launchPriceQ64x64
      firstSwapSlot
      firstSwapUnixTs
      recordedSlot := s.clock.slot
      recordedAt := s.clock.unixTimestamp }) }

/-- The accounts of both evaluation instructions that the scanner does not own. -/
structure EvaluateAccounts where
  pool : AccountInfo
  remainingAccounts : List AccountInfo
  instructionSysvar : InstructionsSysvar
  slotHashes : List Byte
  writer : Pubkey

/-- The thresholds of the criteria. -/
def ProtocolConfig.thresholds (cfg : ProtocolConfig) : CriteriaThresholds :=
  ⟨cfg.inactivitySeconds, cfg.priceCollapseBps, cfg.minTvlLamports, cfg.lpBurnDustThreshold⟩

/-- The evidence of both phases : the attested last swap, the pool, the recorded launch
price for the same token pair, and the locked LP. -/
def gatherInputs (rt : Runtime) (clock : Clock) (cfg : ProtocolConfig) (launchPrice : LaunchPrice)
    (params : EvaluatePoolParams) (accounts : EvaluateAccounts) (anchorEpoch : Option U64) :
    Except ProgramError (PoolData × CriteriaInputs) := do
  let attestedLastSwapTs ← verifyLastSwapAttestation accounts.instructionSysvar accounts.slotHashes
    ⟨params.msg, params.ammProgramId, params.poolAddress, cfg.activityOracle⟩
    clock.unixTimestamp clock.slot
  let poolData ← extractPoolData accounts.pool params.poolAddress accounts.remainingAccounts
  require (launchPrice.baseMint = poolData.baseMint ∧ launchPrice.quoteMint = poolData.quoteMint)
    (.scanner .launchPriceMintMismatch)
  let lpLockedAmount ←
    lockedLpAmount rt poolData.lpMint params.poolAddress accounts.remainingAccounts
  let currentPriceQ64x64 ← poolData.currentPriceQ64x64
  return (poolData, {
    lastSwapUnixTs := attestedLastSwapTs
    currentUnixTs := clock.unixTimestamp
    launchPriceQ64x64 := launchPrice.launchPriceQ64x64
    currentPriceQ64x64
    currentTvlLamports := poolData.quoteReserve
    lpSupply := poolData.lpSupply
    lpLockedAmount
    currentEpoch := clock.epoch
    anchorFirstEligibleEpoch := anchorEpoch })

/-- `evaluate_pool_phase_1`. -/
def evaluatePoolPhase1 (rt : Runtime) (s : State) (params : EvaluatePoolParams)
    (accounts : EvaluateAccounts) : Except ProgramError State := do
  let cfg ← loadAccount s.protocolConfig
  initAccount (s.anchors params.key)
  let launchPrice ← loadAccount (s.launchPrices params.key)
  require (cfg.paused = false) (.scanner .protocolPaused)
  let (_, inputs) ← gatherInputs rt s.clock cfg launchPrice params accounts none
  let bitmap ← evaluate inputs cfg.thresholds .one
  return { s with
    anchors := Function.update s.anchors params.key (some {
      ammProgramId := params.ammProgramId
      poolAddress := params.poolAddress
      writer := accounts.writer
      firstEligibleEpoch := s.clock.epoch
      writtenAt := s.clock.unixTimestamp
      invalidated := false
      criteriaBitmap := bitmap }) }

/-- `evaluate_pool_phase_2`. The cert is created if needed, and rewritten once expired. -/
def evaluatePoolPhase2 (rt : Runtime) (s : State) (params : EvaluatePoolParams)
    (accounts : EvaluateAccounts) : Except ProgramError State := do
  let cfg ← loadAccount s.protocolConfig
  let anchor ← loadAccount (s.anchors params.key)
  let cert := (s.certs params.key).getD EligibilityCert.zeroed
  let launchPrice ← loadAccount (s.launchPrices params.key)
  require (cfg.paused = false) (.scanner .protocolPaused)
  require (anchor.invalidated = false) (.scanner .anchorInvalidated)
  let (_, inputs) ← gatherInputs rt s.clock cfg launchPrice params accounts
    (some anchor.firstEligibleEpoch)
  let bitmap ← evaluate inputs cfg.thresholds .two
  require (bitmap = anchor.criteriaBitmap) (.scanner .criteriaBitmapMismatch)
  require (cert.isExpired s.clock.unixTimestamp) (.scanner .certStillValid)
  let expiresAt ← okOr (checkedAddI64 s.clock.unixTimestamp cfg.certTtlSeconds)
    (.scanner .mathOverflow)
  let reissueGeneration ← okOr (cert.reissueGeneration.checkedAdd 1) (.scanner .mathOverflow)
  return { s with
    certs := Function.update s.certs params.key (some {
      ammProgramId := params.ammProgramId
      poolAddress := params.poolAddress
      writer := accounts.writer
      anchorEpoch := anchor.firstEligibleEpoch
      certEpoch := s.clock.epoch
      issuedAt := s.clock.unixTimestamp
      expiresAt
      criteriaBitmap := bitmap
      reissueGeneration }) }

/-- `invalidate_anchor`. -/
def invalidateAnchor (s : State) (key : PoolKey) (authority : Pubkey) :
    Except ProgramError State := do
  let _ ← loadConfigAs s authority
  let anchor ← loadAccount (s.anchors key)
  require (anchor.invalidated = false) (.scanner .anchorInvalidated)
  return { s with
    anchors := Function.update s.anchors key (some { anchor with invalidated := true }) }

/-- The sweep window in epochs, rounded up, from the larger of the configured and the
minimal staleness. -/
def sweepGate (firstEligibleEpoch configuredStalenessSeconds currentEpoch : U64) :
    Except ProgramError Unit := do
  let stalenessSeconds := max configuredStalenessSeconds minAnchorStalenessSeconds
  let stalenessEpochs ← okOr ((stalenessSeconds.saturatingAdd
    (approxEpochDurationSeconds.saturatingSub 1)).checkedDiv approxEpochDurationSeconds)
    (.scanner .mathOverflow)
  let earliestSweepEpoch ← okOr (firstEligibleEpoch.checkedAdd stalenessEpochs)
    (.scanner .mathOverflow)
  require (earliestSweepEpoch.val < currentEpoch.val) (.scanner .anchorNotStale)

/-- `sweep_stale_anchor`. Anyone may call it; the rent goes to the anchor's writer. -/
def sweepStaleAnchor (s : State) (key : PoolKey) (anchorWriter : Pubkey) :
    Except ProgramError State := do
  let cfg ← loadAccount s.protocolConfig
  let anchor ← loadAccount (s.anchors key)
  require (anchor.writer = anchorWriter) (.scanner .unauthorized)
  sweepGate anchor.firstEligibleEpoch cfg.anchorStalenessSeconds s.clock.epoch
  return { s with anchors := Function.update s.anchors key none }

/-! ## The machine -/

/-- The clock does not go backwards. -/
def Clock.Precedes (c c' : Clock) : Prop :=
  c.slot.val ≤ c'.slot.val ∧ c.epoch.val ≤ c'.epoch.val ∧ c.unixTimestamp ≤ c'.unixTimestamp

/-- Slots, epochs and times are compared. -/
instance (c c' : Clock) : Decidable (Clock.Precedes c c') :=
  inferInstanceAs (Decidable (_ ∧ _ ∧ _))

/-- A call of the scanner, or the passing of time. -/
inductive Call where
  | initializeProtocol (params : InitializeParams)
  | recordLaunchPrice (params : RecordLaunchPriceParams) (instructionSysvar : InstructionsSysvar)
  | evaluatePoolPhase1 (params : EvaluatePoolParams) (accounts : EvaluateAccounts)
  | evaluatePoolPhase2 (params : EvaluatePoolParams) (accounts : EvaluateAccounts)
  | invalidateAnchor (key : PoolKey) (authority : Pubkey)
  | sweepStaleAnchor (key : PoolKey) (anchorWriter : Pubkey)
  | updateProtocolConfig (params : UpdateProtocolConfigParams) (authority : Pubkey)
  | emergencyPause (paused : Bool) (authority : Pubkey)
  | tick (clock : Clock)

/-- One step of the scanner. -/
def exec (rt : Runtime) (s : State) : Call → Except ProgramError State
  | .initializeProtocol params => initializeProtocol s params
  | .recordLaunchPrice params sysvar => recordLaunchPrice s params sysvar
  | .evaluatePoolPhase1 params accounts => evaluatePoolPhase1 rt s params accounts
  | .evaluatePoolPhase2 params accounts => evaluatePoolPhase2 rt s params accounts
  | .invalidateAnchor key authority => invalidateAnchor s key authority
  | .sweepStaleAnchor key anchorWriter => sweepStaleAnchor s key anchorWriter
  | .updateProtocolConfig params authority => updateProtocolConfig s params authority
  | .emergencyPause paused authority => emergencyPause s paused authority
  | .tick clock => do
    require (Clock.Precedes s.clock clock) (.scanner .invalidClock)
    return { s with clock }

/-! ## What a successful call has done -/

variable {rt : Runtime} {s s' : State} {key : PoolKey}

/-- An account loads iff it exists. -/
theorem loadAccount_ok_iff {α : Type} {slot : Option α} {a : α} :
    loadAccount slot = .ok a ↔ slot = some a :=
  okOr_ok_iff

/-- An account is created iff it does not exist. -/
theorem initAccount_ok_iff {α : Type} {slot : Option α} {u : Unit} :
    initAccount slot = .ok u ↔ slot = none := by
  rw [initAccount, require_ok_iff, Option.isNone_iff_eq_none]

/-- The configuration loads for its authority. -/
theorem loadConfigAs_ok_iff {authority : Pubkey} {cfg : ProtocolConfig} :
    loadConfigAs s authority = .ok cfg ↔
      s.protocolConfig = some cfg ∧ cfg.authority = authority := by
  simp only [loadConfigAs, bind_ok_iff, loadAccount_ok_iff, require_ok_iff, exists_const,
    pure_ok_iff]
  constructor
  · rintro ⟨_, h1, h2, rfl⟩
    exact ⟨h1, h2⟩
  · rintro ⟨h1, h2⟩
    exact ⟨cfg, h1, h2, rfl⟩

/-- `initialize` writes the initial configuration where there is none. -/
theorem initializeProtocol_ok {params : InitializeParams}
    (h : initializeProtocol s params = .ok s') :
    s.protocolConfig = none ∧ ∃ cfg, initialConfig params = .ok cfg ∧
      s' = { s with protocolConfig := some cfg } := by
  simp only [initializeProtocol, bind_ok_iff, initAccount_ok_iff, exists_const, pure_ok_iff] at h
  obtain ⟨h1, cfg, h2, rfl⟩ := h
  exact ⟨h1, cfg, h2, rfl⟩

/-- `update_protocol_config` is signed by the authority, and writes the updated configuration. -/
theorem updateProtocolConfig_ok {params : UpdateProtocolConfigParams} {authority : Pubkey}
    (h : updateProtocolConfig s params authority = .ok s') :
    ∃ cfg cfg', s.protocolConfig = some cfg ∧ cfg.authority = authority ∧
      applyConfigUpdate cfg params = .ok cfg' ∧ s' = { s with protocolConfig := some cfg' } := by
  simp only [updateProtocolConfig, bind_ok_iff, loadConfigAs_ok_iff, pure_ok_iff] at h
  obtain ⟨cfg, ⟨h1, h2⟩, cfg', h3, rfl⟩ := h
  exact ⟨cfg, cfg', h1, h2, h3, rfl⟩

/-- `emergency_pause` is signed by the authority, and changes the flag. -/
theorem emergencyPause_ok {paused : Bool} {authority : Pubkey}
    (h : emergencyPause s paused authority = .ok s') :
    ∃ cfg, s.protocolConfig = some cfg ∧ cfg.authority = authority ∧ cfg.paused ≠ paused ∧
      s' = { s with protocolConfig := some { cfg with paused } } := by
  simp only [emergencyPause, bind_ok_iff, loadConfigAs_ok_iff, require_ok_iff, exists_const,
    pure_ok_iff] at h
  obtain ⟨cfg, ⟨h1, h2⟩, h3, rfl⟩ := h
  exact ⟨cfg, h1, h2, h3, rfl⟩

/-- The price an accepted launch-price attestation yields is positive and echoed. -/
theorem verifyLaunchPriceAttestation_ok {sysvar : InstructionsSysvar}
    {att : LaunchPriceAttestationRef} {now : ℤ} {slot : U64} {price : U128} {swapSlot : U64}
    {ts : ℤ} (h : verifyLaunchPriceAttestation sysvar att now slot = .ok (price, swapSlot, ts)) :
    price = att.launchPriceQ64x64 ∧ 0 < price.val := by
  obtain ⟨_, _, h⟩ := bind_ok_iff.1 h
  obtain ⟨_, _, h⟩ := bind_ok_iff.1 h
  simp only [verifyLaunchPriceMessage, bind_ok_iff, require_ok_iff, exists_const, pure_ok_iff] at h
  obtain ⟨_, _, h1, h2, _, _, _, h3⟩ := h
  obtain ⟨rfl, _⟩ := Prod.mk.inj h3
  exact ⟨h1, h2⟩

/-- `record_launch_price` writes once, while the scanner is not paused. -/
theorem recordLaunchPrice_ok {params : RecordLaunchPriceParams} {sysvar : InstructionsSysvar}
    (h : recordLaunchPrice s params sysvar = .ok s') :
    s.launchPrices params.key = none ∧
      ∃ cfg lp, s.protocolConfig = some cfg ∧ cfg.paused = false ∧
        lp.baseMint = params.baseMint ∧ lp.quoteMint = params.quoteMint ∧
        lp.launchPriceQ64x64 = params.launchPriceQ64x64 ∧ 0 < lp.launchPriceQ64x64.val ∧
        s' = { s with launchPrices :=
          Function.update s.launchPrices params.key (some lp) } := by
  simp only [recordLaunchPrice, bind_ok_iff, initAccount_ok_iff, loadAccount_ok_iff,
    require_ok_iff, exists_const, pure_ok_iff] at h
  obtain ⟨h1, cfg, h2, h3, ⟨price, slot, ts⟩, h4, rfl⟩ := h
  obtain ⟨h5, h6⟩ := verifyLaunchPriceAttestation_ok h4
  exact ⟨h1, cfg, _, h2, h3, rfl, rfl, h5, h6, rfl⟩

/-- What the evidence of a phase is about. -/
structure Evidence (clock : Clock) (launchPrice : LaunchPrice) (anchorEpoch : Option U64)
    (poolData : PoolData) (inputs : CriteriaInputs) : Prop where
  base : launchPrice.baseMint = poolData.baseMint
  quote : launchPrice.quoteMint = poolData.quoteMint
  launch : inputs.launchPriceQ64x64 = launchPrice.launchPriceQ64x64
  now : inputs.currentUnixTs = clock.unixTimestamp
  epoch : inputs.currentEpoch = clock.epoch
  anchor : inputs.anchorFirstEligibleEpoch = anchorEpoch

theorem gatherInputs_ok {clock : Clock} {cfg : ProtocolConfig} {lp : LaunchPrice}
    {params : EvaluatePoolParams} {accounts : EvaluateAccounts} {anchorEpoch : Option U64}
    {poolData : PoolData} {inputs : CriteriaInputs}
    (h : gatherInputs rt clock cfg lp params accounts anchorEpoch = .ok (poolData, inputs)) :
    extractPoolData accounts.pool params.poolAddress accounts.remainingAccounts = .ok poolData ∧
      Evidence clock lp anchorEpoch poolData inputs := by
  simp only [gatherInputs, bind_ok_iff, require_ok_iff, exists_const, pure_ok_iff] at h
  obtain ⟨_, _, _, h1, ⟨h2, h3⟩, _, _, _, _, h4⟩ := h
  obtain ⟨rfl, rfl⟩ := Prod.mk.inj h4
  exact ⟨h1, h2, h3, rfl, rfl, rfl, rfl⟩

/-- What Phase 1 checked, and the anchor that it wrote. -/
theorem evaluatePoolPhase1_ok {params : EvaluatePoolParams} {accounts : EvaluateAccounts}
    (h : evaluatePoolPhase1 rt s params accounts = .ok s') :
    ∃ cfg lp poolData inputs a, s.protocolConfig = some cfg ∧ cfg.paused = false ∧
      s.anchors params.key = none ∧
      s.launchPrices params.key = some lp ∧
      gatherInputs rt s.clock cfg lp params accounts none = .ok (poolData, inputs) ∧
      evaluate inputs cfg.thresholds .one = .ok a.criteriaBitmap ∧
      a.firstEligibleEpoch = s.clock.epoch ∧ a.invalidated = false ∧
      s' = { s with anchors :=
        Function.update s.anchors params.key (some a) } := by
  simp only [evaluatePoolPhase1, bind_ok_iff, initAccount_ok_iff, loadAccount_ok_iff,
    require_ok_iff, exists_const, pure_ok_iff] at h
  obtain ⟨cfg, h1, h2, lp, h3, h4, ⟨poolData, inputs⟩, h5, bitmap, h6, rfl⟩ := h
  exact ⟨cfg, lp, poolData, inputs, _, h1, h4, h2, h3, h5, h6, rfl, rfl, rfl⟩

/-- The cert that a Phase 2 step out of `s` writes, field by field. -/
structure CertOf (s : State) (params : EvaluatePoolParams) (accounts : EvaluateAccounts)
    (cfg : ProtocolConfig) (a : EligibilityAnchor) (c : EligibilityCert) : Prop where
  ammProgramId : c.ammProgramId = params.ammProgramId
  poolAddress : c.poolAddress = params.poolAddress
  writer : c.writer = accounts.writer
  anchorEpoch : c.anchorEpoch = a.firstEligibleEpoch
  certEpoch : c.certEpoch = s.clock.epoch
  issuedAt : c.issuedAt = s.clock.unixTimestamp
  expiresAt : c.expiresAt = s.clock.unixTimestamp + cfg.certTtlSeconds
  criteriaBitmap : c.criteriaBitmap = a.criteriaBitmap
  reissueGeneration : c.reissueGeneration.val =
    ((s.certs params.key).getD EligibilityCert.zeroed).reissueGeneration.val + 1

/-- What Phase 2 checked, and the cert that it wrote. -/
theorem evaluatePoolPhase2_written {params : EvaluatePoolParams} {accounts : EvaluateAccounts}
    (h : evaluatePoolPhase2 rt s params accounts = .ok s') :
    ∃ cfg lp poolData inputs a c, s.protocolConfig = some cfg ∧ cfg.paused = false ∧
      s.anchors params.key = some a ∧ a.invalidated = false ∧
      s.launchPrices params.key = some lp ∧
      gatherInputs rt s.clock cfg lp params accounts (some a.firstEligibleEpoch) =
        .ok (poolData, inputs) ∧
      evaluate inputs cfg.thresholds .two = .ok a.criteriaBitmap ∧
      ((s.certs params.key).getD EligibilityCert.zeroed).isExpired s.clock.unixTimestamp = true ∧
      CertOf s params accounts cfg a c ∧
      s' = { s with certs :=
        Function.update s.certs params.key (some c) } := by
  simp only [evaluatePoolPhase2, bind_ok_iff, loadAccount_ok_iff, require_ok_iff, okOr_ok_iff,
    exists_const, pure_ok_iff] at h
  obtain ⟨cfg, h1, a, h2, lp, h3, h4, h5, ⟨poolData, inputs⟩, h6, bitmap, h7, rfl, h8, exp, h9, gen,
    h10, rfl⟩ := h
  exact ⟨cfg, lp, poolData, inputs, a, _, h1, h4, h2, h5, h3, h6, h7, h8,
    ⟨rfl, rfl, rfl, rfl, rfl, rfl, eq_of_checkedAddI64 h9, rfl, Word.checkedAdd_eq_some.1 h10⟩, rfl⟩

/-- What Phase 2 checked, and the fields of the cert. -/
theorem evaluatePoolPhase2_ok {params : EvaluatePoolParams} {accounts : EvaluateAccounts}
    (h : evaluatePoolPhase2 rt s params accounts = .ok s') :
    ∃ cfg lp poolData inputs a c, s.protocolConfig = some cfg ∧ cfg.paused = false ∧
      s.anchors params.key = some a ∧ a.invalidated = false ∧
      s.launchPrices params.key = some lp ∧
      gatherInputs rt s.clock cfg lp params accounts (some a.firstEligibleEpoch) =
        .ok (poolData, inputs) ∧
      evaluate inputs cfg.thresholds .two = .ok a.criteriaBitmap ∧
      c.criteriaBitmap = a.criteriaBitmap ∧ c.anchorEpoch = a.firstEligibleEpoch ∧
      c.certEpoch = s.clock.epoch ∧
      s' = { s with certs :=
        Function.update s.certs params.key (some c) } := by
  obtain ⟨cfg, lp, poolData, inputs, a, c, h1, h2, h3, h4, h5, h6, h7, _, hc, rfl⟩ :=
    evaluatePoolPhase2_written h
  exact ⟨cfg, lp, poolData, inputs, a, c, h1, h2, h3, h4, h5, h6, h7, hc.criteriaBitmap,
    hc.anchorEpoch, hc.certEpoch, rfl⟩

/-- `invalidate_anchor` is signed by the authority, and sets the flag of a valid anchor. -/
theorem invalidateAnchor_ok {authority : Pubkey} (h : invalidateAnchor s key authority = .ok s') :
    ∃ cfg a, s.protocolConfig = some cfg ∧ cfg.authority = authority ∧
      s.anchors key = some a ∧ a.invalidated = false ∧
      s' = { s with anchors :=
        Function.update s.anchors key (some { a with invalidated := true }) } := by
  simp only [invalidateAnchor, bind_ok_iff, loadConfigAs_ok_iff, loadAccount_ok_iff,
    require_ok_iff, exists_const, pure_ok_iff] at h
  obtain ⟨cfg, ⟨h1, h2⟩, a, h3, h4, rfl⟩ := h
  exact ⟨cfg, a, h1, h2, h3, h4, rfl⟩

/-- `sweep_stale_anchor` closes an anchor that is stale. -/
theorem sweepStaleAnchor_ok {anchorWriter : Pubkey}
    (h : sweepStaleAnchor s key anchorWriter = .ok s') :
    ∃ cfg a, s.protocolConfig = some cfg ∧ s.anchors key = some a ∧ a.writer = anchorWriter ∧
      sweepGate a.firstEligibleEpoch cfg.anchorStalenessSeconds s.clock.epoch = .ok () ∧
      s' = { s with anchors := Function.update s.anchors key none } := by
  simp only [sweepStaleAnchor, bind_ok_iff, loadAccount_ok_iff, require_ok_iff, exists_const,
    pure_ok_iff] at h
  obtain ⟨cfg, h1, a, h2, h3, _, h4, rfl⟩ := h
  exact ⟨cfg, a, h1, h2, h3, h4, rfl⟩

/-- The clock only goes on. -/
theorem tick_ok {clock : Clock} (h : exec rt s (.tick clock) = .ok s') :
    Clock.Precedes s.clock clock ∧ s' = { s with clock } := by
  simp only [exec, bind_ok_iff, require_ok_iff, exists_const, pure_ok_iff] at h
  exact ⟨h.1, h.2.symm⟩

/-- All that a successful call does to the state. -/
inductive CallEffect (s : State) : Call → State → Prop where
  | initializeProtocol (params : InitializeParams) (cfg : ProtocolConfig)
      (h : initialConfig params = .ok cfg) :
      CallEffect s (.initializeProtocol params) { s with protocolConfig := some cfg }
  | updateProtocolConfig (params : UpdateProtocolConfigParams) (authority : Pubkey)
      (cfg cfg' : ProtocolConfig) (hcfg : s.protocolConfig = some cfg)
      (h : applyConfigUpdate cfg params = .ok cfg') :
      CallEffect s (.updateProtocolConfig params authority) { s with protocolConfig := some cfg' }
  | emergencyPause (paused : Bool) (authority : Pubkey) (cfg : ProtocolConfig)
      (hcfg : s.protocolConfig = some cfg) :
      CallEffect s (.emergencyPause paused authority)
        { s with protocolConfig := some { cfg with paused } }
  | recordLaunchPrice (params : RecordLaunchPriceParams) (sysvar : InstructionsSysvar)
      (lp : LaunchPrice) (hnone : s.launchPrices params.key = none) :
      CallEffect s (.recordLaunchPrice params sysvar)
        { s with launchPrices := Function.update s.launchPrices params.key (some lp) }
  | evaluatePoolPhase1 (params : EvaluatePoolParams) (accounts : EvaluateAccounts)
      (a : EligibilityAnchor) (hnone : s.anchors params.key = none)
      (hepoch : a.firstEligibleEpoch = s.clock.epoch) (hvalid : a.invalidated = false) :
      CallEffect s (.evaluatePoolPhase1 params accounts)
        { s with anchors := Function.update s.anchors params.key (some a) }
  | evaluatePoolPhase2 (params : EvaluatePoolParams) (accounts : EvaluateAccounts)
      (cfg : ProtocolConfig) (a : EligibilityAnchor) (c : EligibilityCert)
      (hcfg : s.protocolConfig = some cfg) (ha : s.anchors params.key = some a)
      (hvalid : a.invalidated = false)
      (hexpired : ((s.certs params.key).getD EligibilityCert.zeroed).isExpired
        s.clock.unixTimestamp = true)
      (hc : CertOf s params accounts cfg a c) :
      CallEffect s (.evaluatePoolPhase2 params accounts)
        { s with certs := Function.update s.certs params.key (some c) }
  | invalidateAnchor (key : PoolKey) (authority : Pubkey) (a : EligibilityAnchor)
      (ha : s.anchors key = some a) (hvalid : a.invalidated = false) :
      CallEffect s (.invalidateAnchor key authority)
        { s with anchors :=
          Function.update s.anchors key (some { a with invalidated := true }) }
  | sweepStaleAnchor (key : PoolKey) (writer : Pubkey) (cfg : ProtocolConfig)
      (a : EligibilityAnchor) (hcfg : s.protocolConfig = some cfg) (ha : s.anchors key = some a)
      (hgate : sweepGate a.firstEligibleEpoch cfg.anchorStalenessSeconds s.clock.epoch = .ok ()) :
      CallEffect s (.sweepStaleAnchor key writer)
        { s with anchors := Function.update s.anchors key none }
  | tick (clock : Clock) (h : Clock.Precedes s.clock clock) :
      CallEffect s (.tick clock) { s with clock }

/-- What a call can have done, case by case. -/
theorem exec_effect {call : Call} (h : exec rt s call = .ok s') : CallEffect s call s' := by
  cases call with
  | initializeProtocol params =>
    obtain ⟨_, cfg, hinit, rfl⟩ := initializeProtocol_ok h
    exact .initializeProtocol params cfg hinit
  | recordLaunchPrice params sysvar =>
    obtain ⟨hnone, _, lp, _, _, _, _, _, _, rfl⟩ := recordLaunchPrice_ok h
    exact .recordLaunchPrice params sysvar lp hnone
  | evaluatePoolPhase1 params accounts =>
    obtain ⟨_, _, _, _, a, _, _, hnone, _, _, _, hepoch, hvalid, rfl⟩ := evaluatePoolPhase1_ok h
    exact .evaluatePoolPhase1 params accounts a hnone hepoch hvalid
  | evaluatePoolPhase2 params accounts =>
    obtain ⟨cfg, _, _, _, a, c, hcfg, _, ha, hvalid, _, _, _, hexpired, hc, rfl⟩ :=
      evaluatePoolPhase2_written h
    exact .evaluatePoolPhase2 params accounts cfg a c hcfg ha hvalid hexpired hc
  | invalidateAnchor key authority =>
    obtain ⟨_, a, _, _, ha, hvalid, rfl⟩ := invalidateAnchor_ok h
    exact .invalidateAnchor key authority a ha hvalid
  | sweepStaleAnchor key writer =>
    obtain ⟨cfg, a, hcfg, ha, _, hgate, rfl⟩ := sweepStaleAnchor_ok h
    exact .sweepStaleAnchor key writer cfg a hcfg ha hgate
  | updateProtocolConfig params authority =>
    obtain ⟨cfg, cfg', hcfg, _, hupdate, rfl⟩ := updateProtocolConfig_ok h
    exact .updateProtocolConfig params authority cfg cfg' hcfg hupdate
  | emergencyPause paused authority =>
    obtain ⟨cfg, hcfg, _, _, rfl⟩ := emergencyPause_ok h
    exact .emergencyPause paused authority cfg hcfg
  | tick clock =>
    obtain ⟨hclock, rfl⟩ := tick_ok h
    exact .tick clock hclock

end GraveYield.Scanner
