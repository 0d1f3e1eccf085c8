import GraveYield.Ledger
import GraveYield.Merkle
import GraveYield.Scanner

/-!
# The vault program

The accounts the vault owns, and the instructions that do not settle a pool : configuration,
pause, claims and the dust sweep. The settlement is in `GraveYield.Salvage`.

`claimAmount` is what a claim checks and computes from the registry alone; the rest of
`claim_lp_proceeds` moves the lamports and writes the record.
-/

namespace GraveYield.Vault

open Machine Checked
open Scanner (loadAccount initAccount orDefault loadAccount_ok_iff initAccount_ok_iff)

/-! ## Accounts -/

/-- `ProtocolConfig` of the vault. -/
structure ProtocolConfig where
  authority : Pubkey
  pendingAuthority : Pubkey
  pendingAuthorityEta : ℤ
  lpHolderShareBps : U16
  salvorShareBps : U16
  protocolShareBps : U16
  maxPriorityFeeCeilingLamports : U64
  maxSlippageBps : U16
  jupiterDustThresholdLamports : U64
  timelockSeconds : ℤ
  emergencyPaused : Bool
  deriving DecidableEq

/-- `PoolRegistry`. -/
structure PoolRegistry where
  ammProgramId : Pubkey
  poolAddress : Pubkey
  salvor : Pubkey
  lpSnapshotMerkleRoot : Hash
  lpTotalSupplyAtSnapshot : U64
  lpHolderPoolTotalLamports : U64
  lpHolderPoolClaimedLamports : U64
  salvagedAtSlot : U64
  salvagedAtTs : ℤ
  deriving DecidableEq

/-- `SalvageReceipt`. -/
structure SalvageReceipt where
  poolAddress : Pubkey
  salvor : Pubkey
  lpHolderAmountLamports : U64
  salvorAmountLamports : U64
  protocolAmountLamports : U64
  totalProceedsLamports : U64
  issuedAtSlot : U64
  issuedAtTs : ℤ
  memecoinMint : Pubkey
  dustMemecoinLamports : U64
  dustSweptAtTs : ℤ
  deriving DecidableEq

/-- `ClaimRecord`. -/
structure ClaimRecord where
  poolAddress : Pubkey
  lpHolder : Pubkey
  amountLamports : U64
  lpBalanceAtSnapshot : U64
  claimedAtSlot : U64
  claimedAtTs : ℤ
  deriving DecidableEq

/-- `ProtocolConfig::SIZE`. -/
def ProtocolConfig.size : ℕ := 210

/-- `PoolRegistry::SIZE`. -/
def PoolRegistry.size : ℕ := 241

/-- `SalvageReceipt::SIZE`. -/
def SalvageReceipt.size : ℕ := 201

/-- `ClaimRecord::SIZE`. -/
def ClaimRecord.size : ℕ := 137

/-- The accounts of the vault, by their seeds. A claim record has the seeds
`(pool_address, lp_holder)`. -/
structure State where
  protocolConfig : Option ProtocolConfig
  registries : Pubkey → Option PoolRegistry
  receipts : Pubkey → Option SalvageReceipt
  claimRecords : Pubkey × Pubkey → Option ClaimRecord

/-- Before any instruction. -/
def State.genesis : State :=
  ⟨none, fun _ => none, fun _ => none, fun _ => none⟩

/-! ## Configuration -/

/-- `PROTOCOL_SHARE_BPS_CEILING`. -/
def protocolShareBpsCeiling : U16 := 2000

/-- `DEFAULT_PROTOCOL_SHARE_BPS`. -/
def defaultProtocolShareBps : U16 := 2000

/-- `DEFAULT_LP_HOLDER_SHARE_BPS`. -/
def defaultLpHolderShareBps : U16 := 4000

/-- `DEFAULT_SALVOR_SHARE_BPS`. -/
def defaultSalvorShareBps : U16 := 4000

/-- `BPS_DENOMINATOR`. -/
def bpsDenominator : U64 := 10000

/-- `DEFAULT_MAX_PRIORITY_FEE_CEILING_LAMPORTS`. -/
def defaultMaxPriorityFeeCeilingLamports : U64 := 1000000000

/-- `DEFAULT_MAX_SLIPPAGE_BPS`. -/
def defaultMaxSlippageBps : U16 := 300

/-- `HARD_MAX_SLIPPAGE_BPS`. -/
def hardMaxSlippageBps : U16 := 1000

/-- `DEFAULT_JUPITER_DUST_THRESHOLD_LAMPORTS`. -/
def defaultJupiterDustThresholdLamports : U64 := 666666

/-- `DEFAULT_TIMELOCK_SECONDS`: three days. -/
def defaultTimelockSeconds : ℤ := 72 * 60 * 60

/-- `InitializeParams`. -/
structure InitializeParams where
  authority : Pubkey
  lpHolderShareBps : U16
  salvorShareBps : U16
  protocolShareBps : U16
  maxPriorityFeeCeilingLamports : U64
  maxSlippageBps : U16
  jupiterDustThresholdLamports : U64
  timelockSeconds : ℤ

/-- The three shares make up the whole. -/
def checkShareSum (cfg : ProtocolConfig) : Except ProgramError Unit :=
  require (cfg.lpHolderShareBps.val + cfg.salvorShareBps.val + cfg.protocolShareBps.val = 10000)
    (.vault .invalidShareSplit)

/-- The configuration `initialize` writes. -/
def initialConfig (params : InitializeParams) : Except ProgramError ProtocolConfig := do
  let cfg : ProtocolConfig := {
    authority := params.authority
    pendingAuthority := defaultPubkey
    pendingAuthorityEta := 0
    lpHolderShareBps := orDefault params.lpHolderShareBps defaultLpHolderShareBps
    salvorShareBps := orDefault params.salvorShareBps defaultSalvorShareBps
    protocolShareBps := orDefault params.protocolShareBps defaultProtocolShareBps
    maxPriorityFeeCeilingLamports :=
      orDefault params.maxPriorityFeeCeilingLamports defaultMaxPriorityFeeCeilingLamports
    maxSlippageBps := orDefault params.maxSlippageBps defaultMaxSlippageBps
    jupiterDustThresholdLamports :=
      orDefault params.jupiterDustThresholdLamports defaultJupiterDustThresholdLamports
    timelockSeconds :=
      if params.timelockSeconds = 0 then defaultTimelockSeconds else params.timelockSeconds
    emergencyPaused := false }
  require (cfg.protocolShareBps.val ≤ protocolShareBpsCeiling.val)
    (.vault .protocolShareExceedsCeiling)
  checkShareSum cfg
  return cfg

/-- `UpdateProtocolConfigParams`. -/
structure UpdateProtocolConfigParams where
  lpHolderShareBps : Option U16
  salvorShareBps : Option U16
  protocolShareBps : Option U16
  maxPriorityFeeCeilingLamports : Option U64
  maxSlippageBps : Option U16
  jupiterDustThresholdLamports : Option U64
  timelockSeconds : Option ℤ

/-- Each field that is given, checked in order. A failure leaves the account as it was. -/
def applyConfigUpdate (cfg : ProtocolConfig) (params : UpdateProtocolConfigParams) :
    Except ProgramError ProtocolConfig := do
  require (∀ v ∈ params.protocolShareBps, v.val ≤ protocolShareBpsCeiling.val)
    (.vault .protocolShareExceedsCeiling)
  let cfg := { cfg with
    lpHolderShareBps := params.lpHolderShareBps.getD cfg.lpHolderShareBps
    salvorShareBps := params.salvorShareBps.getD cfg.salvorShareBps
    protocolShareBps := params.protocolShareBps.getD cfg.protocolShareBps }
  checkShareSum cfg
  require (∀ v ∈ params.maxSlippageBps, v.val ≤ 10000) (.vault .slippageExceeded)
  return { cfg with
    maxPriorityFeeCeilingLamports :=
      params.maxPriorityFeeCeilingLamports.getD cfg.maxPriorityFeeCeilingLamports
    maxSlippageBps := params.maxSlippageBps.getD cfg.maxSlippageBps
    jupiterDustThresholdLamports :=
      params.jupiterDustThresholdLamports.getD cfg.jupiterDustThresholdLamports
    timelockSeconds := params.timelockSeconds.getD cfg.timelockSeconds }

/-- The configuration, and its `has_one = authority` constraint on the signer. -/
def loadConfigAs (v : State) (authority : Pubkey) : Except ProgramError ProtocolConfig := do
  let cfg ← loadAccount v.protocolConfig
  require (cfg.authority = authority) (.vault .unauthorized)
  return cfg

/-- `initialize`. -/
def initializeProtocol (rt : Runtime) (v : State) (l : Ledger) (params : InitializeParams)
    (payer : Pubkey) : Except ProgramError (State × Ledger) := do
  initAccount v.protocolConfig
  let l ← l.initRecord rt (.key payer) .vaultConfig ProtocolConfig.size
  let cfg ← initialConfig params
  return ({ v with protocolConfig := some cfg }, l)

/-- `update_protocol_config`. -/
def updateProtocolConfig (v : State) (params : UpdateProtocolConfigParams) (authority : Pubkey) :
    Except ProgramError State := do
  let cfg ← loadConfigAs v authority
  let cfg' ← applyConfigUpdate cfg params
  return { v with protocolConfig := some cfg' }

/-- `emergency_pause`. A toggle to the current value is refused. -/
def emergencyPause (v : State) (paused : Bool) (authority : Pubkey) :
    Except ProgramError State := do
  let cfg ← loadConfigAs v authority
  require (cfg.emergencyPaused ≠ paused) (.vault .invariantViolation)
  return { v with protocolConfig := some { cfg with emergencyPaused := paused } }

/-! ## Claims -/

/-- `ClaimLpProceedsParams`. -/
structure ClaimLpProceedsParams where
  poolAddress : Pubkey
  lpBalanceAtSnapshot : U64
  merkleProof : List Hash

/-- `floor(total * balance / supply)` through 128 bits, if it fits in 64. -/
def proRataShare (total balance supply : U64) : Except ProgramError U64 := do
  let product ← okOr ((total.widen 128 Word.u64_le_u128).checkedMul
    (balance.widen 128 Word.u64_le_u128)) (.vault .mathOverflow)
  let amount ← okOr (product.checkedDiv (supply.widen 128 Word.u64_le_u128)) (.vault .mathOverflow)
  okOr (Word.ofNat? 64 amount.val) (.vault .mathOverflow)

/-- The checks of a claim against the registry : the amount, and the new cumulative total. -/
def claimAmount (sha256 : List Byte → Hash) (registry : PoolRegistry)
    (params : ClaimLpProceedsParams) (lpHolder : Pubkey) : Except ProgramError (U64 × U64) := do
  require (0 < params.lpBalanceAtSnapshot.val) (.vault .invalidClaimProof)
  require (0 < registry.lpTotalSupplyAtSnapshot.val) (.vault .invalidClaimProof)
  let leaf := computeLeaf sha256 lpHolder params.lpBalanceAtSnapshot
  require (verifyProof sha256 registry.lpSnapshotMerkleRoot leaf params.merkleProof = true)
    (.vault .invalidClaimProof)
  let amount ← proRataShare registry.lpHolderPoolTotalLamports params.lpBalanceAtSnapshot
    registry.lpTotalSupplyAtSnapshot
  let newClaimed ← okOr (registry.lpHolderPoolClaimedLamports.checkedAdd amount)
    (.vault .mathOverflow)
  require (newClaimed.val ≤ registry.lpHolderPoolTotalLamports.val) (.vault .mathOverflow)
  return (amount, newClaimed)

/-- `claim_lp_proceeds`. It reads no pause flag. -/
def claimLpProceeds (rt : Runtime) (clock : Clock) (v : State) (l : Ledger)
    (params : ClaimLpProceedsParams) (lpHolder : Pubkey) :
    Except ProgramError (State × Ledger) := do
  let pool := params.poolAddress
  let registry ← loadAccount (v.registries pool)
  initAccount (v.claimRecords (pool, lpHolder))
  let l ← l.initRecord rt (.key lpHolder) (.claimRecord pool lpHolder) ClaimRecord.size
  require ((l (.lpHolderPoolVault pool)).data = .empty) (.fault .constraint)
  let (amount, newClaimed) ← claimAmount rt.sha256 registry params lpHolder
  let l ← l.pay (.lpHolderPoolVault pool) (.key lpHolder) amount.val
  let record : ClaimRecord := {
    poolAddress := pool
    lpHolder
    amountLamports := amount
    lpBalanceAtSnapshot := params.lpBalanceAtSnapshot
    claimedAtSlot := clock.slot
    claimedAtTs := clock.unixTimestamp }
  return ({ v with
    registries := Function.update v.registries pool
      (some { registry with lpHolderPoolClaimedLamports := newClaimed })
    claimRecords := Function.update v.claimRecords (pool, lpHolder) (some record) }, l)

/-! ## Dust -/

/-- `sweep_dust`. The tokens can only go to the treasury's account; the rent of the closed
account goes to the sweeper. -/
def sweepDust (rt : Runtime) (clock : Clock) (v : State) (l : Ledger)
    (pool memecoinMint sweeper : Pubkey) : Except ProgramError (State × Ledger) := do
  let vaultAta := Account.ata .vaultAuthority memecoinMint
  let treasuryAta := Account.ata .protocolTreasury memecoinMint
  let receipt ← loadAccount (v.receipts pool)
  let t ← l.loadToken vaultAta
  require (t.mint = memecoinMint ∧ t.owner = .vaultAuthority) (.fault .constraint)
  let l ← l.initAtaIfNeeded rt (.key sweeper) .protocolTreasury memecoinMint
  let _ ← loadAccount (l (.key memecoinMint)).mint?
  require (memecoinMint = receipt.memecoinMint) (.vault .preflightFailed)
  require (receipt.dustSweptAtTs = 0) (.vault .dustAlreadySwept)
  require (0 < t.amount.val) (.vault .dustNothingToSweep)
  let l ← l.tokenTransfer vaultAta treasuryAta .vaultAuthority t.amount
  let l ← l.closeAccount vaultAta (.key sweeper) .vaultAuthority
  return ({ v with
    receipts := Function.update v.receipts pool
      (some { receipt with dustSweptAtTs := clock.unixTimestamp }) }, l)

/-! ## What a successful call has done -/

variable {rt : Runtime} {clock : Clock} {v v' : State} {l l' : Ledger}

/-- The configuration is loaded for its authority only. -/
theorem loadConfigAs_ok_iff {authority : Pubkey} {cfg : ProtocolConfig} :
    loadConfigAs v authority = .ok cfg ↔
      v.protocolConfig = some cfg ∧ cfg.authority = authority := by
  simp only [loadConfigAs, bind_ok_iff, loadAccount_ok_iff, require_ok_iff, exists_const,
    pure_ok_iff]
  constructor
  · rintro ⟨_, h1, h2, rfl⟩
    exact ⟨h1, h2⟩
  · rintro ⟨h1, h2⟩
    exact ⟨cfg, h1, h2, rfl⟩

/-- An account that is there after one was written is that one, or it was there before. -/
theorem of_update_eq_some {κ α : Type} [DecidableEq κ] {f : κ → Option α} {k k' : κ} {a b : α}
    (h : Function.update f k (some a) k' = some b) :
    (k' = k ∧ a = b) ∨ (k' ≠ k ∧ f k' = some b) := by
  by_cases hk : k' = k
  · subst hk
    rw [Function.update_self, Option.some.injEq] at h
    exact Or.inl ⟨rfl, h⟩
  · rw [Function.update_of_ne hk] at h
    exact Or.inr ⟨hk, h⟩

/-- What a successful initialization has done. -/
theorem initializeProtocol_ok {params : InitializeParams} {payer : Pubkey}
    (h : initializeProtocol rt v l params payer = .ok (v', l')) :
    v.protocolConfig = none ∧
      l.initRecord rt (.key payer) .vaultConfig ProtocolConfig.size = .ok l' ∧
      ∃ cfg, initialConfig params = .ok cfg ∧ v' = { v with protocolConfig := some cfg } := by
  simp only [initializeProtocol, bind_ok_iff, initAccount_ok_iff, exists_const, pure_ok_iff,
    Prod.mk.injEq] at h
  obtain ⟨h1, _, h2, cfg, h3, rfl, rfl⟩ := h
  exact ⟨h1, h2, cfg, h3, rfl⟩

/-- What a successful update has done. -/
theorem updateProtocolConfig_ok {params : UpdateProtocolConfigParams} {authority : Pubkey}
    (h : updateProtocolConfig v params authority = .ok v') :
    ∃ cfg cfg', v.protocolConfig = some cfg ∧ cfg.authority = authority ∧
      applyConfigUpdate cfg params = .ok cfg' ∧ v' = { v with protocolConfig := some cfg' } := by
  simp only [updateProtocolConfig, bind_ok_iff, loadConfigAs_ok_iff, pure_ok_iff] at h
  obtain ⟨cfg, ⟨h1, h2⟩, cfg', h3, rfl⟩ := h
  exact ⟨cfg, cfg', h1, h2, h3, rfl⟩

/-- What a successful pause has done. -/
theorem emergencyPause_ok {paused : Bool} {authority : Pubkey}
    (h : emergencyPause v paused authority = .ok v') :
    ∃ cfg, v.protocolConfig = some cfg ∧ cfg.authority = authority ∧
      cfg.emergencyPaused ≠ paused ∧
      v' = { v with protocolConfig := some { cfg with emergencyPaused := paused } } := by
  simp only [emergencyPause, bind_ok_iff, loadConfigAs_ok_iff, require_ok_iff, exists_const,
    pure_ok_iff] at h
  obtain ⟨cfg, ⟨h1, h2⟩, h3, rfl⟩ := h
  exact ⟨cfg, h1, h2, h3, rfl⟩

/-- The share is the pro rata part, rounded down. -/
theorem proRataShare_ok_iff {total balance supply amount : U64} :
    proRataShare total balance supply = .ok amount ↔
      0 < supply.val ∧ amount.val = total.val * balance.val / supply.val := by
  simp only [proRataShare, bind_ok_iff, okOr_ok_iff, Word.checkedMul_eq_some,
    Word.checkedDiv_eq_some, Word.ofNat?_eq_some, Word.widen_val]
  constructor
  · rintro ⟨p, hp, q, ⟨hs, hq⟩, ha⟩
    exact ⟨hs, by rw [ha, hq, hp]⟩
  · rintro ⟨hs, ha⟩
    have hlt : total.val * balance.val < 2 ^ 128 := by
      have := Nat.mul_lt_mul'' total.isLt balance.isLt
      omega
    exact ⟨⟨_, hlt⟩, rfl, ⟨_, (Nat.div_le_self _ _).trans_lt hlt⟩, ⟨hs, rfl⟩, ha⟩

/-- A claim passes its own checks iff the proof is valid and the cumulative total stays within
the bucket. -/
theorem claimAmount_ok_iff {sha256 : List Byte → Hash} {registry : PoolRegistry}
    {params : ClaimLpProceedsParams} {lpHolder : Pubkey} {amount newClaimed : U64} :
    claimAmount sha256 registry params lpHolder = .ok (amount, newClaimed) ↔
      0 < params.lpBalanceAtSnapshot.val ∧ 0 < registry.lpTotalSupplyAtSnapshot.val ∧
      verifyProof sha256 registry.lpSnapshotMerkleRoot
        (computeLeaf sha256 lpHolder params.lpBalanceAtSnapshot) params.merkleProof = true ∧
      amount.val = registry.lpHolderPoolTotalLamports.val * params.lpBalanceAtSnapshot.val /
        registry.lpTotalSupplyAtSnapshot.val ∧
      newClaimed.val = registry.lpHolderPoolClaimedLamports.val + amount.val ∧
      newClaimed.val ≤ registry.lpHolderPoolTotalLamports.val := by
  simp only [claimAmount, bind_ok_iff, require_ok_iff, exists_const, okOr_ok_iff,
    proRataShare_ok_iff, Word.checkedAdd_eq_some, pure_ok_iff, Prod.mk.injEq]
  constructor
  · rintro ⟨h1, h2, h3, _, ⟨_, h4⟩, _, h5, h6, rfl, rfl⟩
    exact ⟨h1, h2, h3, h4, h5, h6⟩
  · rintro ⟨h1, h2, h3, h4, h5, h6⟩
    exact ⟨h1, h2, h3, amount, ⟨h2, h4⟩, newClaimed, h5, h6, rfl, rfl⟩

/-- What a successful claim did : its checks passed, the pool's vault paid the amount, and the
registry and one new record say so. -/
theorem claimLpProceeds_ok {params : ClaimLpProceedsParams} {lpHolder : Pubkey}
    (h : claimLpProceeds rt clock v l params lpHolder = .ok (v', l')) :
    ∃ registry amount newClaimed record, v.registries params.poolAddress = some registry ∧
      v.claimRecords (params.poolAddress, lpHolder) = none ∧
      claimAmount rt.sha256 registry params lpHolder = .ok (amount, newClaimed) ∧
      record.amountLamports = amount ∧
      record.lpBalanceAtSnapshot = params.lpBalanceAtSnapshot ∧
      v' = { v with
        registries := Function.update v.registries params.poolAddress
          (some { registry with lpHolderPoolClaimedLamports := newClaimed })
        claimRecords := Function.update v.claimRecords (params.poolAddress, lpHolder)
          (some record) } ∧
      (l' (.lpHolderPoolVault params.poolAddress)).data = .empty ∧
      (l (.lpHolderPoolVault params.poolAddress)).lamports =
        (l' (.lpHolderPoolVault params.poolAddress)).lamports + amount.val ∧
      ∀ a, a ≠ .key lpHolder → a ≠ .claimRecord params.poolAddress lpHolder →
        a ≠ .lpHolderPoolVault params.poolAddress → l' a = l a := by
  simp only [claimLpProceeds, bind_ok_iff, initAccount_ok_iff, loadAccount_ok_iff,
    require_ok_iff, exists_const, pure_ok_iff, Prod.exists, Prod.mk.injEq] at h
  obtain ⟨registry, h1, h2, l₁, h3, h4, amount, newClaimed, h5, l₂, h6, rfl, rfl⟩ := h
  refine ⟨registry, amount, newClaimed, _, h1, h2, h5, rfl, rfl, rfl, ?_⟩
  have hpaid := Ledger.pay_ok h6 (by simp)
  have hframe : ∀ a, a ≠ .key lpHolder → a ≠ .claimRecord params.poolAddress lpHolder →
      l₁ a = l a := fun a => Ledger.initRecord_frame h3
  refine ⟨(hpaid.data _).trans h4, ?_, fun a ha hr hv => ?_⟩
  · rw [← hframe _ (by simp) (by simp), hpaid.debited]
  · rw [hpaid.frame a hv ha, hframe a ha hr]

/-- The record of a claim carries the seeds of its address. -/
theorem claimLpProceeds_record {params : ClaimLpProceedsParams} {lpHolder : Pubkey}
    (h : claimLpProceeds rt clock v l params lpHolder = .ok (v', l')) :
    ∃ record : ClaimRecord, record.poolAddress = params.poolAddress ∧ record.lpHolder = lpHolder ∧
      v'.claimRecords =
        Function.update v.claimRecords (params.poolAddress, lpHolder) (some record) := by
  simp only [claimLpProceeds, bind_ok_iff, pure_ok_iff, Prod.exists, Prod.mk.injEq] at h
  obtain ⟨_, _, _, _, _, _, _, _, _, _, _, _, _, rfl, rfl⟩ := h
  exact ⟨_, rfl, rfl, rfl⟩

/-- What a successful sweep of dust has done. -/
theorem sweepDust_ok {pool memecoinMint sweeper : Pubkey}
    (h : sweepDust rt clock v l pool memecoinMint sweeper = .ok (v', l')) :
    ∃ receipt, v.receipts pool = some receipt ∧ memecoinMint = receipt.memecoinMint ∧
      receipt.dustSweptAtTs = 0 ∧
      v' = { v with
        receipts := Function.update v.receipts pool
          (some { receipt with dustSweptAtTs := clock.unixTimestamp }) } ∧
      ∀ a, a ≠ .key sweeper → a ≠ .ata .vaultAuthority memecoinMint →
        a ≠ .ata .protocolTreasury memecoinMint → l' a = l a := by
  simp only [sweepDust, bind_ok_iff, loadAccount_ok_iff, require_ok_iff, exists_const,
    pure_ok_iff, Prod.mk.injEq] at h
  obtain ⟨receipt, h1, _, _, _, l₁, h2, _, _, h3, h4, _, l₂, h5, l₃, h6, rfl, rfl⟩ := h
  refine ⟨receipt, h1, h3, h4, rfl, fun a hs hv ht => ?_⟩
  obtain ⟨_, _, _, _, _, rfl⟩ := Ledger.closeAccount_ok_iff.1 h6
  rw [Function.update_of_ne hv, Function.update_of_ne hs, Ledger.tokenTransfer_frame h5 hv ht,
    Ledger.initAtaIfNeeded_frame h2 hs ht]

end GraveYield.Vault
