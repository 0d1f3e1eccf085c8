import GraveYield.Lib.Checked
import GraveYield.Lib.Js

/-!
# The priority-fee plan

The SDK spends at most a share of the expected profit of a transaction on its priority fee. The
share is a number whose product with 10000, a double, is rounded to basis points; the budget and
the price of a compute unit are rounded down, and the price is capped at the ceiling of the
protocol.

The price respects the ceiling and the budget always, and the budget respects the share of the
profit except where the rounding to basis points goes up and the profit is large enough to show it
(`derivePriorityFeePlan_bounds_iff`).

Numbers are the rationals that they are, and `newBN` is the constructor of big integers from
numbers.
-/

namespace GraveYield.Sdk

open Checked Js

/-! ## The source -/

/-- `DEFAULT_MARGIN_RATIO`. -/
def defaultMarginRatio : Number := .finite (1 / 4)

/-- `MARGIN_RATIO_PRECISION_BPS`. -/
def marginRatioPrecisionBps : ℤ := 10000

/-- `MICRO_LAMPORTS_PER_LAMPORT`. -/
def microLamportsPerLamport : ℤ := 1000000

/-- Which bound decides. -/
inductive FeeBinding where
  | profitMargin
  | charterCeiling
  deriving DecidableEq

/-- `PriorityFeePlan`. -/
structure PriorityFeePlan where
  maxTotalFeeLamports : ℤ
  maxMicroLamportsPerCu : ℤ
  binding : FeeBinding
  deriving DecidableEq

/-- What is thrown : a `RangeError`, or an assertion of the constructor of big integers. -/
inductive PriorityFeeError where
  | rangeError (message : String)
  | newBN (number : ℤ)
  deriving DecidableEq

/-- `PriorityFeeOpts`. -/
structure PriorityFeeOpts where
  expectedProfitLamports : ℤ
  computeUnitLimit : Number
  protocolCeilingMicroLamportsPerCu : ℤ
  marginRatio : Option Number

/-- A margin ratio that passes its check. -/
def marginRatio? : Number → Option ℚ
  | .finite value => if 0 ≤ value ∧ value ≤ 1 then some value else none
  | .notFinite => none

/-- A positive integer. -/
def positiveInteger? : Number → Option ℤ
  | .finite value => if value.isInt ∧ 0 < value then some value.num else none
  | .notFinite => none

/-- The ratio in basis points : the product of two doubles, and its `Math.round`, which rounds
halves up. -/
def marginBps (marginRatio : ℚ) : ℤ :=
  round (toDouble (marginRatio * marginRatioPrecisionBps))

/-- The double `0.25005` is less than that, but its product is rounded to `2500.5`. -/
example : marginBps (toDouble (25005 / 100000)) = 2501 := by
  decide +kernel

variable (newBN : ℤ → Option ℤ)

/-- The big integer of a number that is an integer. -/
def bigNumber (number : ℤ) : Except PriorityFeeError ℤ :=
  okOr (newBN number) (.newBN number)

/-- `derivePriorityFeePlan`. -/
def derivePriorityFeePlan (opts : PriorityFeeOpts) : Except PriorityFeeError PriorityFeePlan := do
  let marginRatio ← okOr (marginRatio? (opts.marginRatio.getD defaultMarginRatio))
    (.rangeError "marginRatio must be a finite number in [0, 1]")
  require (0 ≤ opts.expectedProfitLamports)
    (.rangeError "expectedProfitLamports must be non-negative")
  let computeUnitLimit ← okOr (positiveInteger? opts.computeUnitLimit)
    (.rangeError "computeUnitLimit must be a positive integer")
  require (0 ≤ opts.protocolCeilingMicroLamportsPerCu)
    (.rangeError "protocolCeilingMicroLamportsPerCu must be non-negative")
  let marginBps ← bigNumber newBN (marginBps marginRatio)
  let maxTotalFeeLamports :=
    (opts.expectedProfitLamports * marginBps).tdiv marginRatioPrecisionBps
  let divisor ← bigNumber newBN computeUnitLimit
  let profitCapPrice := (maxTotalFeeLamports * microLamportsPerLamport).tdiv divisor
  if opts.protocolCeilingMicroLamportsPerCu < profitCapPrice then
    return ⟨maxTotalFeeLamports, opts.protocolCeilingMicroLamportsPerCu, .charterCeiling⟩
  else return ⟨maxTotalFeeLamports, profitCapPrice, .profitMargin⟩

/-! ## The plan of valid options -/

/-- What the constructor of big integers does : it gives the number or throws, and does not throw
below `2 ^ 53`. -/
structure ConstructsBN (newBN : ℤ → Option ℤ) : Prop where
  exact : ∀ number result, newBN number = some result → result = number
  safe : ∀ number, 0 ≤ number → number < 2 ^ 53 → (newBN number).isSome = true

/-- Options that pass every check. -/
structure ValidOpts (profit limit ceiling : ℤ) (ratio : ℚ) : Prop where
  profit_nonneg : 0 ≤ profit
  limit_pos : 0 < limit
  ceiling_nonneg : 0 ≤ ceiling
  ratio_nonneg : 0 ≤ ratio
  ratio_le : ratio ≤ 1

variable {newBN} {profit limit ceiling : ℤ} {ratio : ℚ}

/-- The margin is between nothing and the whole. -/
theorem marginBps_mem (h0 : 0 ≤ ratio) (h1 : ratio ≤ 1) :
    0 ≤ marginBps ratio ∧ marginBps ratio ≤ 10000 := by
  have hbps : marginBps ratio = ⌊toDouble (ratio * 10000) + 1 / 2⌋ := round_eq _
  have hnonneg : 0 ≤ toDouble (ratio * 10000) := toDouble_nonneg (by positivity)
  have hle : toDouble (ratio * 10000) ≤ (10000 : ℕ) :=
    toDouble_le (by positivity) (by push_cast; linarith) (by norm_num)
  rw [hbps]
  constructor
  · rw [Int.floor_nonneg]
    positivity
  · rw [← Int.lt_add_one_iff, Int.floor_lt]
    push_cast at hle ⊢
    linarith

/-- A positive integer is one. -/
theorem positiveInteger?_intCast (h : 0 < limit) :
    positiveInteger? (.finite limit) = some limit := by
  have hpos : (0 : ℚ) < limit := by exact_mod_cast h
  rw [positiveInteger?, if_pos ⟨rfl, hpos⟩]
  rfl

/-- A ratio in the range is one. -/
theorem marginRatio?_finite (h0 : 0 ≤ ratio) (h1 : ratio ≤ 1) :
    marginRatio? (.finite ratio) = some ratio :=
  if_pos ⟨h0, h1⟩

/-- A number that is constructed is the same number. -/
theorem bigNumber_ok_iff (hBN : ConstructsBN newBN) {number result : ℤ} :
    bigNumber newBN number = .ok result ↔ (newBN number).isSome = true ∧ result = number := by
  rw [bigNumber, okOr_ok_iff]
  constructor
  · intro h
    exact ⟨Option.isSome_iff_exists.2 ⟨result, h⟩, hBN.exact number result h⟩
  · rintro ⟨hsome, rfl⟩
    obtain ⟨m, hm⟩ := Option.isSome_iff_exists.1 hsome
    rw [hm, hBN.exact _ m hm]

/-- The plan of valid options : two divisions rounded down and a minimum. -/
theorem derivePriorityFeePlan_ok_iff (hBN : ConstructsBN newBN)
    (h : ValidOpts profit limit ceiling ratio) {plan : PriorityFeePlan} :
    derivePriorityFeePlan newBN ⟨profit, .finite limit, ceiling, some (.finite ratio)⟩ = .ok plan ↔
      (newBN limit).isSome = true ∧
        plan = ⟨profit * marginBps ratio / 10000,
          min (profit * marginBps ratio / 10000 * 1000000 / limit) ceiling,
          if ceiling < profit * marginBps ratio / 10000 * 1000000 / limit then .charterCeiling
          else .profitMargin⟩ := by
  obtain ⟨hbps0, hbps1⟩ := marginBps_mem h.ratio_nonneg h.ratio_le
  have hsafe : (newBN (marginBps ratio)).isSome = true :=
    hBN.safe _ hbps0 (hbps1.trans_lt (by norm_num))
  have hbudget : (profit * marginBps ratio).tdiv marginRatioPrecisionBps =
      profit * marginBps ratio / 10000 :=
    Int.tdiv_eq_ediv_of_nonneg (Int.mul_nonneg h.profit_nonneg hbps0)
  have hbudget0 : 0 ≤ profit * marginBps ratio / 10000 :=
    Int.ediv_nonneg (Int.mul_nonneg h.profit_nonneg hbps0) (by norm_num)
  have hprice : (profit * marginBps ratio / 10000 * microLamportsPerLamport).tdiv limit =
      profit * marginBps ratio / 10000 * 1000000 / limit :=
    Int.tdiv_eq_ediv_of_nonneg (Int.mul_nonneg hbudget0 (by decide))
  simp only [derivePriorityFeePlan, Option.getD_some,
    marginRatio?_finite h.ratio_nonneg h.ratio_le, positiveInteger?_intCast h.limit_pos, okOr_some,
    ok_bind, require_of h.profit_nonneg, require_of h.ceiling_nonneg, bind_ok_iff,
    bigNumber_ok_iff hBN, hsafe, true_and, and_assoc, exists_and_left, exists_eq_left, hbudget,
    hprice]
  refine and_congr_right fun _ => ?_
  split_ifs with hcap
  · rw [pure_ok_iff, min_eq_right hcap.le, eq_comm]
  · rw [pure_ok_iff, min_eq_left (not_lt.1 hcap), eq_comm]

/-! ## The bounds -/

/-- The price is at most the ceiling and at most the budget, and the budget at most the share of the
profit. -/
structure WithinBounds (plan : PriorityFeePlan) (profit limit ceiling : ℤ) (ratio : ℚ) : Prop where
  ceiling : plan.maxMicroLamportsPerCu ≤ ceiling
  budget : plan.maxMicroLamportsPerCu * limit ≤ 10 ^ 6 * plan.maxTotalFeeLamports
  margin : (plan.maxTotalFeeLamports : ℚ) ≤ ratio * profit

/-- The budget is within the share of the profit iff what the rounding to basis points adds is
lost again in the rounding of the budget. -/
theorem budget_le_iff {bps : ℤ} : ((profit * bps / 10000 : ℤ) : ℚ) ≤ ratio * profit ↔
    profit * (bps - 10000 * ratio) ≤ ((profit * bps % 10000 : ℤ) : ℚ) := by
  have hdiv : ((profit * bps % 10000 : ℤ) : ℚ) + 10000 * ((profit * bps / 10000 : ℤ) : ℚ) =
      profit * bps := by
    exact_mod_cast Int.emod_add_mul_ediv (profit * bps) 10000
  constructor
  · intro h
    linarith
  · intro h
    linarith

/-- The price of a plan is within the ceiling and the budget, whatever the rounding of the share. -/
theorem price_le (hBN : ConstructsBN newBN) (h : ValidOpts profit limit ceiling ratio)
    {plan : PriorityFeePlan} (hplan : derivePriorityFeePlan newBN
      ⟨profit, .finite limit, ceiling, some (.finite ratio)⟩ = .ok plan) :
    plan.maxMicroLamportsPerCu ≤ ceiling ∧
      plan.maxMicroLamportsPerCu * limit ≤ 10 ^ 6 * plan.maxTotalFeeLamports := by
  obtain ⟨_, rfl⟩ := (derivePriorityFeePlan_ok_iff hBN h).1 hplan
  refine ⟨min_le_right _ _, ?_⟩
  calc min (profit * marginBps ratio / 10000 * 1000000 / limit) ceiling * limit
      ≤ profit * marginBps ratio / 10000 * 1000000 / limit * limit :=
        Int.mul_le_mul_of_nonneg_right (min_le_left _ _) h.limit_pos.le
    _ ≤ profit * marginBps ratio / 10000 * 1000000 := Int.ediv_mul_le _ h.limit_pos.ne'
    _ = 10 ^ 6 * (profit * marginBps ratio / 10000) := by ring

/-- With valid options there is a plan within all bounds iff the limit is a number that big integers
can be made of, and the rounding of the share to basis points does not show in the budget. -/
theorem derivePriorityFeePlan_bounds_iff (hBN : ConstructsBN newBN)
    (h : ValidOpts profit limit ceiling ratio) :
    (∃ plan, derivePriorityFeePlan newBN
        ⟨profit, .finite limit, ceiling, some (.finite ratio)⟩ = .ok plan ∧
      WithinBounds plan profit limit ceiling ratio) ↔
    (newBN limit).isSome = true ∧
      profit * (marginBps ratio - 10000 * ratio) ≤
        ((profit * marginBps ratio % 10000 : ℤ) : ℚ) := by
  constructor
  · rintro ⟨plan, hplan, hbounds⟩
    obtain ⟨hsome, rfl⟩ := (derivePriorityFeePlan_ok_iff hBN h).1 hplan
    exact ⟨hsome, budget_le_iff.1 hbounds.margin⟩
  · rintro ⟨hsome, hmargin⟩
    have hplan := (derivePriorityFeePlan_ok_iff hBN h).2 ⟨hsome, rfl⟩
    obtain ⟨hceiling, hbudget⟩ := price_le hBN h hplan
    exact ⟨_, hplan, hceiling, hbudget, budget_le_iff.2 hmargin⟩

/-- The constructor that throws from `2 ^ 53` on. -/
def bnOfNumber (number : ℤ) : Option ℤ :=
  if |number| < 2 ^ 53 then some number else none

theorem constructsBN_bnOfNumber : ConstructsBN bnOfNumber where
  exact number result h := by
    unfold bnOfNumber at h
    split_ifs at h
    exact (Option.some.inj h).symm
  safe number h0 h1 := by
    rw [bnOfNumber, if_pos (by rwa [abs_of_nonneg h0])]
    rfl

/-- A quarter of the profit is a whole number of basis points. -/
theorem derivePriorityFeePlan_bounds_quarter : ∃ plan, derivePriorityFeePlan bnOfNumber
      ⟨10 ^ 9, .finite 200000, 10 ^ 9, some (.finite (1 / 4))⟩ = .ok plan ∧
    WithinBounds plan (10 ^ 9) 200000 (10 ^ 9) (1 / 4) := by
  have hbps : marginBps (1 / 4) = 2500 := by decide +kernel
  refine (derivePriorityFeePlan_bounds_iff constructsBN_bnOfNumber
    ⟨by decide, by decide, by decide, by norm_num, by norm_num⟩).2 ⟨by decide, ?_⟩
  rw [hbps]
  norm_num

/-- `0.15625` is rounded up to 1563 basis points : of one SOL that is 50000 lamports more. -/
theorem derivePriorityFeePlan_rounds_up : derivePriorityFeePlan bnOfNumber
      ⟨10 ^ 9, .finite 200000, 10 ^ 9, some (.finite (5 / 32))⟩ =
        .ok ⟨156300000, 781500000, .profitMargin⟩ ∧
    ¬ ((156300000 : ℤ) : ℚ) ≤ 5 / 32 * ((10 ^ 9 : ℤ) : ℚ) := by
  constructor
  · decide +kernel
  · norm_num

end GraveYield.Sdk
