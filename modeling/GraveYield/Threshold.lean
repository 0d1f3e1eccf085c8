import GraveYield.Adapters
import GraveYield.Criteria

/-!
# The thresholds in exact arithmetic

`evaluate` compares machine words after a floor division, a cap and a saturating subtraction.
`evaluate_iff_exact` says that it decides the comparison of the exact numbers. The price of a pool
is itself rounded down, so against the reserves the collapse criterion is met a little too
often : `reserves_of_priceCollapsed` and `priceCollapsed_of_reserves` bound by how much.
-/

namespace GraveYield.Scanner

open Machine Checked

/-- Criterion 2 : there is a launch price, and the drop from it reaches the threshold. -/
def PriceCollapsed (launch current : U128) (bps : U16) : Prop :=
  0 < launch.val ∧ ∃ dropBps, computeDropBps launch current = .ok dropBps ∧ bps.val ≤ dropBps.val

/-- The six criteria in exact numbers. -/
structure ExactCriteria (inputs : CriteriaInputs) (thresholds : CriteriaThresholds)
    (phase : Phase) : Prop where
  inactive : (thresholds.inactivitySeconds.val : ℤ) ≤ inputs.currentUnixTs - inputs.lastSwapUnixTs
  launch_pos : 0 < inputs.launchPriceQ64x64.val
  collapsed : inputs.launchPriceQ64x64.val ≤ inputs.currentPriceQ64x64.val ∧
      thresholds.priceCollapseBps.val = 0 ∨
    inputs.currentPriceQ64x64.val < inputs.launchPriceQ64x64.val ∧
      (inputs.launchPriceQ64x64.val - inputs.currentPriceQ64x64.val) * 10000 < 2 ^ 128 ∧
      thresholds.priceCollapseBps.val * inputs.launchPriceQ64x64.val ≤
        (inputs.launchPriceQ64x64.val - inputs.currentPriceQ64x64.val) * 10000
  tvl : thresholds.minTvlLamports.val ≤ inputs.currentTvlLamports.val
  not_burned : thresholds.lpBurnDustThreshold.val < inputs.lpSupply.val
  no_lock : inputs.lpLockedAmount.val = 0
  epoch : phase = .two → ∃ anchor, inputs.anchorFirstEligibleEpoch = some anchor ∧
    anchor.val + 2 ≤ inputs.currentEpoch.val

/-! ## The evaluator -/

/-- The drop in basis points reaches the threshold iff the exact drop does. -/
theorem dropBps_ge_iff {launch current : U128} {bps : U16} (hlaunch : 0 < launch.val) :
    (∃ dropBps, computeDropBps launch current = .ok dropBps ∧ bps.val ≤ dropBps.val) ↔
      launch.val ≤ current.val ∧ bps.val = 0 ∨
      current.val < launch.val ∧ (launch.val - current.val) * 10000 < 2 ^ 128 ∧
        bps.val * launch.val ≤ (launch.val - current.val) * 10000 := by
  simp only [computeDropBps_ok_iff]
  constructor
  · rintro ⟨drop, ⟨hle, hdrop⟩ | ⟨hlt, hfits, hdrop⟩, hbps⟩
    · exact Or.inl ⟨hle, by omega⟩
    · rw [hdrop, Nat.le_div_iff_mul_le hlaunch] at hbps
      exact Or.inr ⟨hlt, hfits, hbps⟩
  · rintro (⟨hle, hbps⟩ | ⟨hlt, hfits, hbps⟩)
    · exact ⟨0, Or.inl ⟨hle, rfl⟩, by rw [hbps]; exact Nat.zero_le _⟩
    · have hcap : (launch.val - current.val) * 10000 / launch.val ≤ 10000 :=
        Nat.div_le_of_le_mul (Nat.mul_le_mul_right _ (Nat.sub_le _ _))
      refine ⟨⟨_, hcap.trans_lt (by decide)⟩, Or.inr ⟨hlt, hfits, rfl⟩, ?_⟩
      exact (Nat.le_div_iff_mul_le hlaunch).2 hbps

theorem evaluate_iff_exact {inputs : CriteriaInputs} {thresholds : CriteriaThresholds}
    {phase : Phase} {bitmap : U8} : evaluate inputs thresholds phase = .ok bitmap ↔
      bitmap = 0x3F ∧ ExactCriteria inputs thresholds phase := by
  rw [evaluate_ok_iff]
  refine and_congr_right fun _ => ?_
  constructor
  · rintro ⟨h, hepoch⟩
    refine ⟨h.inactive, h.launch_pos, (dropBps_ge_iff h.launch_pos).1 h.collapsed, h.tvl,
      h.not_burned, h.no_lock, ?_⟩
    rintro rfl
    exact hepoch
  · intro h
    have hclock : (0 : ℤ) ≤ inputs.currentUnixTs - inputs.lastSwapUnixTs :=
      (Int.natCast_nonneg _).trans h.inactive
    refine ⟨⟨by omega, h.inactive, h.launch_pos, (dropBps_ge_iff h.launch_pos).2 h.collapsed, h.tvl,
      h.not_burned, h.no_lock⟩, ?_⟩
    cases phase with
    | one => trivial
    | two => exact h.epoch rfl

/-! ## The price against the reserves -/

variable {p : PoolData} {launch current : U128} {bps : U16}

/-- Where the criterion is met, the reserves are less than one unit of price above the
threshold. -/
theorem reserves_of_priceCollapsed (hprice : p.currentPriceQ64x64 = .ok current)
    (hbps : 1 ≤ bps.val) (h : PriceCollapsed launch current bps) :
    (p.quoteReserve.val * 2 ^ 64 * 10000 : ℤ) <
      ((10000 - bps.val) * launch.val + 10000) * p.baseReserve.val := by
  obtain ⟨hbase, hcurrent⟩ := currentPriceQ64x64_ok_iff.1 hprice
  rcases (dropBps_ge_iff h.1).1 h.2 with ⟨_, hzero⟩ | ⟨hlt, _, hdrop⟩
  · omega
  · have hfloor : p.quoteReserve.val * 2 ^ 64 < (current.val + 1) * p.baseReserve.val := by
      rw [hcurrent, mul_comm _ p.baseReserve.val]
      exact Nat.lt_mul_div_succ _ hbase
    have hfloor' : (p.quoteReserve.val * 2 ^ 64 : ℤ) < (current.val + 1) * p.baseReserve.val := by
      exact_mod_cast hfloor
    have hdrop' : (bps.val * launch.val : ℤ) ≤ (launch.val - current.val) * 10000 := by
      have hcast : ((launch.val - current.val : ℕ) : ℤ) = launch.val - current.val :=
        Nat.cast_sub hlt.le
      rw [← hcast]
      exact_mod_cast hdrop
    calc (p.quoteReserve.val * 2 ^ 64 * 10000 : ℤ)
        < (current.val + 1) * p.baseReserve.val * 10000 :=
          mul_lt_mul_of_pos_right hfloor' (by decide)
      _ = (current.val * 10000 + 10000) * p.baseReserve.val := by ring
      _ ≤ ((10000 - bps.val) * launch.val + 10000) * p.baseReserve.val := by
          refine mul_le_mul_of_nonneg_right ?_ (Int.natCast_nonneg _)
          linarith

/-- Where the reserves are at the threshold or below, the criterion is met, unless the
multiplication overflows. -/
theorem priceCollapsed_of_reserves (hprice : p.currentPriceQ64x64 = .ok current)
    (hbps : 1 ≤ bps.val) (hlaunch : 0 < launch.val)
    (hfits : (launch.val - current.val) * 10000 < 2 ^ 128)
    (h : (p.quoteReserve.val * 2 ^ 64 * 10000 : ℤ) ≤
      (10000 - bps.val) * launch.val * p.baseReserve.val) : PriceCollapsed launch current bps := by
  obtain ⟨hbase, hcurrent⟩ := currentPriceQ64x64_ok_iff.1 hprice
  have hfloor : current.val * p.baseReserve.val ≤ p.quoteReserve.val * 2 ^ 64 := by
    rw [hcurrent]
    exact Nat.div_mul_le_self _ _
  have hfloor' : (current.val * p.baseReserve.val : ℤ) ≤ p.quoteReserve.val * 2 ^ 64 := by
    exact_mod_cast hfloor
  have hbelow : (current.val * 10000 : ℤ) ≤ (10000 - bps.val) * launch.val := by
    refine le_of_mul_le_mul_right ?_ (Int.natCast_pos.2 hbase)
    calc (current.val * 10000 * p.baseReserve.val : ℤ)
        = current.val * p.baseReserve.val * 10000 := by ring
      _ ≤ p.quoteReserve.val * 2 ^ 64 * 10000 := mul_le_mul_of_nonneg_right hfloor' (by decide)
      _ ≤ (10000 - bps.val) * launch.val * p.baseReserve.val := h
  have hdrop : (launch.val : ℤ) ≤ bps.val * launch.val :=
    le_mul_of_one_le_left (Int.natCast_nonneg _) (by exact_mod_cast hbps)
  have hlt : current.val < launch.val := by
    have hlaunch' : (0 : ℤ) < launch.val := Int.natCast_pos.2 hlaunch
    have : (current.val : ℤ) < launch.val := by linarith
    exact_mod_cast this
  refine ⟨hlaunch, (dropBps_ge_iff hlaunch).2 (Or.inr ⟨hlt, hfits, ?_⟩)⟩
  have hcast : ((launch.val - current.val : ℕ) : ℤ) = launch.val - current.val :=
    Nat.cast_sub hlt.le
  have : (bps.val * launch.val : ℤ) ≤ ((launch.val - current.val : ℕ) : ℤ) * 10000 := by
    rw [hcast]
    linarith
  exact_mod_cast this

/-- A price is computed wherever there is a base reserve. -/
theorem exists_currentPrice (h : 0 < p.baseReserve.val) :
    ∃ current, p.currentPriceQ64x64 = .ok current := by
  have hq := p.quoteReserve.isLt
  have hlt : p.quoteReserve.val * 2 ^ 64 / p.baseReserve.val < 2 ^ 128 :=
    (Nat.div_le_self _ _).trans_lt (by omega)
  exact ⟨⟨_, hlt⟩, currentPriceQ64x64_ok_iff.2 ⟨h, rfl⟩⟩

/-- The evaluation succeeds, with the full bitmap, iff the six criteria hold of the exact numbers;
one that succeeds has met the collapse criterion; and for a launch price above zero and a positive
threshold the criterion is met against the reserves up to one unit of price. -/
theorem evaluate_decides :
    (∀ inputs thresholds phase bitmap, evaluate inputs thresholds phase = .ok bitmap ↔
      bitmap = 0x3F ∧ ExactCriteria inputs thresholds phase) ∧
    (∀ inputs thresholds phase bitmap, evaluate inputs thresholds phase = .ok bitmap →
      PriceCollapsed inputs.launchPriceQ64x64 inputs.currentPriceQ64x64
        thresholds.priceCollapseBps) ∧
    ∀ p : PoolData, 0 < p.baseReserve.val → ∃ current, p.currentPriceQ64x64 = .ok current ∧
      ∀ (launch : U128) (bps : U16), 1 ≤ bps.val →
        (PriceCollapsed launch current bps → (p.quoteReserve.val * 2 ^ 64 * 10000 : ℤ) <
          ((10000 - bps.val) * launch.val + 10000) * p.baseReserve.val) ∧
        (0 < launch.val → (launch.val - current.val) * 10000 < 2 ^ 128 →
          (p.quoteReserve.val * 2 ^ 64 * 10000 : ℤ) ≤
            (10000 - bps.val) * launch.val * p.baseReserve.val →
          PriceCollapsed launch current bps) := by
  refine ⟨fun _ _ _ _ => evaluate_iff_exact, fun inputs thresholds phase bitmap h => ?_,
    fun p hbase => ?_⟩
  · obtain ⟨_, hcommon, _⟩ := evaluate_ok_iff.1 h
    exact ⟨hcommon.launch_pos, hcommon.collapsed⟩
  · obtain ⟨current, hprice⟩ := exists_currentPrice hbase
    refine ⟨current, hprice, fun launch bps hbps => ⟨?_, ?_⟩⟩
    · exact reserves_of_priceCollapsed hprice hbps
    · exact priceCollapsed_of_reserves hprice hbps

/-- A pool without quote and without a launch price is at the threshold, no multiplication
overflows, and the criterion is not met. -/
theorem zeroLaunch_notCollapsed : ∃ (p : PoolData) (current launch : U128) (bps : U16),
    0 < p.baseReserve.val ∧ p.currentPriceQ64x64 = .ok current ∧ 1 ≤ bps.val ∧
    (launch.val - current.val) * 10000 < 2 ^ 128 ∧
    (p.quoteReserve.val * 2 ^ 64 * 10000 : ℤ) ≤
      (10000 - bps.val) * launch.val * p.baseReserve.val ∧
    ¬PriceCollapsed launch current bps := by
  refine ⟨⟨1, 0, 1, defaultPubkey, defaultPubkey, defaultPubkey⟩, 0, 0, 1, by decide,
    currentPriceQ64x64_ok_iff.2 ⟨by decide, by decide⟩, by decide, by decide, by decide, ?_⟩
  exact fun h => absurd h.1 (by decide)

end GraveYield.Scanner
