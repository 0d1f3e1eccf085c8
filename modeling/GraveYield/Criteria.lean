import GraveYield.Basic
import GraveYield.Errors
import GraveYield.Lib.Checked

/-!
# The six criteria

`evaluate` decides whether a pool is derelict from the inputs of one moment and the
configured thresholds. It stops at the first criterion that fails, and otherwise returns
the full bitmap. `evaluate_ok_iff` says exactly when it succeeds.
-/

namespace GraveYield.Scanner

open Machine Checked

/-- `CRITERION_INACTIVITY`. -/
def criterionInactivity : U8 := 0x01

/-- `CRITERION_PRICE_COLLAPSE`. -/
def criterionPriceCollapse : U8 := 0x02

/-- `CRITERION_MIN_TVL`. -/
def criterionMinTvl : U8 := 0x04

/-- `CRITERION_LP_NOT_BURNED`. -/
def criterionLpNotBurned : U8 := 0x08

/-- `CRITERION_NO_LOCK`. -/
def criterionNoLock : U8 := 0x10

/-- `CRITERION_EPOCH_CONFIRMED`. -/
def criterionEpochConfirmed : U8 := 0x20

/-- All six bits. -/
def allCriteriaMask : U8 :=
  criterionInactivity ||| criterionPriceCollapse ||| criterionMinTvl ||| criterionLpNotBurned |||
    criterionNoLock ||| criterionEpochConfirmed

/-- How many epochs lie between the two phases. -/
def minEpochConfirmation : ℕ := 2

/-- `CriteriaInputs`. -/
structure CriteriaInputs where
  lastSwapUnixTs : ℤ
  currentUnixTs : ℤ
  launchPriceQ64x64 : U128
  currentPriceQ64x64 : U128
  currentTvlLamports : U64
  lpSupply : U64
  lpLockedAmount : U64
  currentEpoch : U64
  anchorFirstEligibleEpoch : Option U64

/-- `CriteriaThresholds`. -/
structure CriteriaThresholds where
  inactivitySeconds : U64
  priceCollapseBps : U16
  minTvlLamports : U64
  lpBurnDustThreshold : U64

/-- The two phases of certification. -/
inductive Phase where
  | one
  | two
  deriving DecidableEq

/-- The price drop in basis points, capped at 10 000. -/
def computeDropBps (launchQ64x64 currentQ64x64 : U128) : Except ProgramError U16 :=
  if launchQ64x64.val ≤ currentQ64x64.val then
    return 0
  else do
    let delta ← okOr (launchQ64x64.checkedSub currentQ64x64) (.scanner .mathOverflow)
    let scaled ← okOr (delta.checkedMul 10000) (.scanner .mathOverflow)
    let bps ← okOr (scaled.checkedDiv launchQ64x64) (.scanner .mathOverflow)
    return if 10000 < bps.val then 10000 else Fin.ofNat (2 ^ 16) bps.val

/-- A drop is computed unless the difference of the prices in basis points leaves 128 bits. The
cap is never reached. -/
theorem computeDropBps_ok_iff {launch current : U128} {d : U16} :
    computeDropBps launch current = .ok d ↔
      launch.val ≤ current.val ∧ d.val = 0 ∨
      current.val < launch.val ∧ (launch.val - current.val) * 10000 < 2 ^ 128 ∧
        d.val = (launch.val - current.val) * 10000 / launch.val := by
  unfold computeDropBps
  by_cases h : launch.val ≤ current.val
  · rw [if_pos h, pure_ok_iff, Fin.ext_iff, eq_comm]
    have hnot : ¬current.val < launch.val := not_lt.2 h
    simp only [h, hnot, true_and, false_and, or_false]
    rfl
  · have hlt : current.val < launch.val := not_le.1 h
    have hle : (launch.val - current.val) * 10000 / launch.val ≤ 10000 := by
      refine Nat.div_le_of_le_mul ?_
      exact Nat.mul_le_mul_right _ (Nat.sub_le _ _)
    have hten : (10000 : U128).val = 10000 := rfl
    rw [if_neg h]
    simp only [bind_ok_iff, okOr_ok_iff, pure_ok_iff, Word.checkedSub_eq_some,
      Word.checkedMul_eq_some, Word.checkedDiv_eq_some, hten, h, false_and, false_or, hlt, true_and]
    constructor
    · rintro ⟨delta, hdelta, scaled, hscaled, bps, ⟨-, hbps⟩, hd⟩
      have hdiff : delta.val = launch.val - current.val := by omega
      rw [hdiff] at hscaled
      rw [hscaled] at hbps
      rw [if_neg (by rw [hbps]; omega)] at hd
      refine ⟨hscaled ▸ scaled.isLt, ?_⟩
      rw [← hd, Fin.val_ofNat, hbps, Nat.mod_eq_of_lt (by omega)]
    · rintro ⟨hfits, hd⟩
      have hdelta : launch.val - current.val < 2 ^ 128 := by omega
      have hbps : (launch.val - current.val) * 10000 / launch.val < 2 ^ 128 := by omega
      refine ⟨⟨_, hdelta⟩, by simp only; omega, ⟨_, hfits⟩, rfl, ⟨_, hbps⟩, ⟨by omega, rfl⟩, ?_⟩
      rw [if_neg (by simp only; omega), Fin.ext_iff, Fin.val_ofNat, hd]
      exact Nat.mod_eq_of_lt (lt_of_le_of_lt hle (by decide))

/-- Criterion 6. The first phase presumes it, the second measures from the anchor. -/
def confirmEpoch (inputs : CriteriaInputs) : Phase → Except ProgramError Unit
  | .one => return ()
  | .two => do
    let anchorEpoch ← okOr inputs.anchorFirstEligibleEpoch (.scanner .anchorNotFound)
    let elapsedEpochs := inputs.currentEpoch.saturatingSub anchorEpoch
    require (minEpochConfirmation ≤ elapsedEpochs.val) (.scanner .epochConfirmationPending)

/-- The six criteria in order; the bitmap collects those that hold. The elapsed time is
computed in 128 bits, where two 64-bit times never overflow. -/
def evaluate (inputs : CriteriaInputs) (thresholds : CriteriaThresholds) (phase : Phase) :
    Except ProgramError U8 := do
  require (inputs.lastSwapUnixTs ≤ inputs.currentUnixTs) (.scanner .invalidClock)
  let elapsedSeconds := inputs.currentUnixTs - inputs.lastSwapUnixTs
  require ((thresholds.inactivitySeconds.val : ℤ) ≤ elapsedSeconds) (.scanner .poolNotEligible)
  let bitmap : U8 := 0 ||| criterionInactivity
  require (0 < inputs.launchPriceQ64x64.val) (.scanner .launchPriceNotFound)
  let dropBps ← computeDropBps inputs.launchPriceQ64x64 inputs.currentPriceQ64x64
  require (thresholds.priceCollapseBps.val ≤ dropBps.val) (.scanner .poolNotEligible)
  let bitmap := bitmap ||| criterionPriceCollapse
  require (thresholds.minTvlLamports.val ≤ inputs.currentTvlLamports.val)
    (.scanner .poolNotEligible)
  let bitmap := bitmap ||| criterionMinTvl
  require (thresholds.lpBurnDustThreshold.val < inputs.lpSupply.val) (.scanner .poolNotEligible)
  let bitmap := bitmap ||| criterionLpNotBurned
  require (inputs.lpLockedAmount.val = 0) (.scanner .poolNotEligible)
  let bitmap := bitmap ||| criterionNoLock
  confirmEpoch inputs phase
  let bitmap := bitmap ||| criterionEpochConfirmed
  require (bitmap = allCriteriaMask) (.scanner .poolNotEligible)
  return bitmap

variable {inputs : CriteriaInputs} {thresholds : CriteriaThresholds} {phase : Phase} {b : U8}

/-- The criteria that both phases decide. -/
structure CommonCriteria (inputs : CriteriaInputs) (thresholds : CriteriaThresholds) : Prop where
  clock : inputs.lastSwapUnixTs ≤ inputs.currentUnixTs
  inactive : (thresholds.inactivitySeconds.val : ℤ) ≤ inputs.currentUnixTs - inputs.lastSwapUnixTs
  launch_pos : 0 < inputs.launchPriceQ64x64.val
  collapsed : ∃ dropBps,
    computeDropBps inputs.launchPriceQ64x64 inputs.currentPriceQ64x64 = .ok dropBps ∧
      thresholds.priceCollapseBps.val ≤ dropBps.val
  tvl : thresholds.minTvlLamports.val ≤ inputs.currentTvlLamports.val
  not_burned : thresholds.lpBurnDustThreshold.val < inputs.lpSupply.val
  no_lock : inputs.lpLockedAmount.val = 0

/-- Two epochs have passed since the anchor, in the second phase. -/
def EpochConfirmed (inputs : CriteriaInputs) : Phase → Prop
  | .one => True
  | .two => ∃ e, inputs.anchorFirstEligibleEpoch = some e ∧
      e.val + minEpochConfirmation ≤ inputs.currentEpoch.val

theorem confirmEpoch_ok_iff {u : Unit} :
    confirmEpoch inputs phase = .ok u ↔ EpochConfirmed inputs phase := by
  cases phase with
  | one => exact ⟨fun _ => trivial, fun _ => rfl⟩
  | two =>
    simp only [confirmEpoch, bind_ok_iff, okOr_ok_iff, require_ok_iff]
    simp only [EpochConfirmed, minEpochConfirmation, Word.saturatingSub_val]
    refine exists_congr fun e => and_congr_right fun _ => ?_
    omega

/-- An evaluation succeeds iff all criteria hold, and its value is the full bitmap. -/
theorem evaluate_ok_iff : evaluate inputs thresholds phase = .ok b ↔
    b = allCriteriaMask ∧ CommonCriteria inputs thresholds ∧ EpochConfirmed inputs phase := by
  simp only [evaluate, bind_ok_iff, require_ok_iff, exists_const, confirmEpoch_ok_iff, pure_ok_iff]
  constructor
  · rintro ⟨h1, h2, h3, drop, hd, h4, h5, h6, h7, h8, h9, h10⟩
    exact ⟨h10.symm.trans h9, ⟨h1, h2, h3, ⟨drop, hd, h4⟩, h5, h6, h7⟩, h8⟩
  · rintro ⟨rfl, ⟨h1, h2, h3, ⟨drop, hd, h4⟩, h5, h6, h7⟩, h8⟩
    exact ⟨h1, h2, h3, drop, hd, h4, h5, h6, h7, h8, rfl, rfl⟩

end GraveYield.Scanner
