import GraveYield.Lib.ProRata
import GraveYield.SwapFloor

/-!
# The slippage ceiling

Before the swap, the salvor's floor is compared with the conversion at the pool's reserves, less
the cap. `slippageCeiling_exact` is the rule in exact numbers : the two divisions lose less than
two lamports together, and where the multiplication by the cap overflows the rule asks for more
than any 64-bit floor.
-/

namespace GraveYield.Vault

open Machine Checked ProRata

variable {cfg : ProtocolConfig} {l l' : Ledger} {params : SalvagePoolParams}
  {accounts : SalvageAccounts} {baseIsCoinSide : Bool}

/-- The cap in exact numbers : the least of the configured one, 1000, and the override. -/
def slippageCap (configBps : U16) (overrideBps : Option U16) : ℕ :=
  overrideBps.elim (min configBps.val 1000) fun o => min (min configBps.val 1000) o.val

theorem effectiveSlippageCapBps_val (configBps : U16) (overrideBps : Option U16) :
    (effectiveSlippageCapBps configBps overrideBps).val = slippageCap configBps overrideBps := by
  have hmin : ∀ a b : U16, (min a b).val = min a.val b.val := fun a b => by
    rcases le_total a b with h | h
    · rw [min_eq_left h, min_eq_left (Fin.le_def.1 h)]
    · rw [min_eq_right h, min_eq_right (Fin.le_def.1 h)]
  cases overrideBps with
  | none => exact hmin configBps hardMaxSlippageBps
  | some o =>
    rw [effectiveSlippageCapBps, hmin, hmin]
    rfl

theorem slippageCap_le (configBps : U16) (overrideBps : Option U16) :
    slippageCap configBps overrideBps ≤ 1000 := by
  cases overrideBps with
  | none => exact min_le_right _ _
  | some o => exact (min_le_left _ _).trans (min_le_right _ _)

/-- An override that is added, or not above the one before. -/
def Tightens (new : U16) (old : Option U16) : Prop :=
  ∀ o ∈ old, new.val ≤ o.val

theorem slippageCap_mono {configBps new : U16} {old : Option U16} (h : Tightens new old) :
    slippageCap configBps (some new) ≤ slippageCap configBps old := by
  cases old with
  | none => exact min_le_left _ _
  | some o => exact min_le_min_left _ (h o rfl)

/-! ## The rule -/

/-- The floor reaches the conversion at the reserves less the cap. -/
def FloorAdmitted (cap memecoinReceived wsolReserve memecoinReserve floor : ℕ) : Prop :=
  0 < memecoinReserve ∧
    memecoinReceived * wsolReserve / memecoinReserve * (10000 - cap) / 10000 ≤ floor

section Rule

variable {cap cap' m w r f : ℕ}

/-- An admitted floor is within the cap of the exact conversion, up to two lamports. -/
theorem FloorAdmitted.lt (h : FloorAdmitted cap m w r f) (hcap : cap ≤ 10000) :
    (m * w / r * (1 - cap / 10000) - 2 : ℚ) < f := by
  have hlt := sub_two_lt_share_share m w h.1 (by decide : 0 < 10000) (Nat.sub_le 10000 cap)
  have hpart : (1 - cap / 10000 : ℚ) = ((10000 - cap : ℕ) : ℚ) / ((10000 : ℕ) : ℚ) := by
    rw [Nat.cast_sub hcap, sub_div, Nat.cast_ofNat, div_self (by norm_num)]
  rw [hpart]
  exact hlt.trans_le (by exact_mod_cast h.2)

/-- With a cap of at most 1000 that is 90 percent. -/
theorem FloorAdmitted.ninety_lt (h : FloorAdmitted cap m w r f) (hcap : cap ≤ 1000) :
    (m * w / r * (9 / 10) - 2 : ℚ) < f := by
  have hle : (9 / 10 : ℚ) ≤ 1 - cap / 10000 := by
    have : (cap : ℚ) ≤ 1000 := by exact_mod_cast hcap
    linarith
  have hmul : (m * w / r * (9 / 10) : ℚ) ≤ m * w / r * (1 - cap / 10000) :=
    mul_le_mul_of_nonneg_left hle (by positivity)
  linarith [h.lt (hcap.trans (by decide))]

/-- A larger cap admits at least as much. -/
theorem FloorAdmitted.mono (h : FloorAdmitted cap m w r f) (hcap : cap ≤ cap') :
    FloorAdmitted cap' m w r f :=
  ⟨h.1, (share_le_share (Nat.sub_le_sub_left hcap 10000)).trans h.2⟩

end Rule

/-! ## The check -/

/-- The check decides the rule. Where the scaled conversion does not fit in 128 bits, a ten
thousandth of it does not fit in 64. -/
theorem checkSlippageFloor_ok_iff {cap : U16} {m w r floor : U64} :
    checkSlippageFloor cap m w r floor = .ok () ↔
      FloorAdmitted cap.val m.val w.val r.val floor.val := by
  simp only [checkSlippageFloor, require_bind_ok_iff, okOr_bind_ok_iff, require_ok_iff,
    Word.checkedMul_eq_some, Word.checkedDiv_eq_some, Word.widen_val, Word.saturatingSub_val]
  refine and_congr_right fun hr => ?_
  constructor
  · rintro ⟨product, hproduct, implied, ⟨_, himplied⟩, scaled, hscaled, minFloor, ⟨_, hmin⟩, hle⟩
    rw [hmin, hscaled, himplied, hproduct] at hle
    exact hle
  · intro hle
    have hproduct : m.val * w.val < 2 ^ 128 := by
      calc m.val * w.val < 2 ^ 64 * 2 ^ 64 := Nat.mul_lt_mul'' m.isLt w.isLt
        _ = 2 ^ 128 := by norm_num
    have himplied : m.val * w.val / r.val < 2 ^ 128 :=
      (Nat.div_le_self _ _).trans_lt hproduct
    have hscaled : m.val * w.val / r.val * (10000 - cap.val) < 2 ^ 128 := by
      have hfloor := floor.isLt
      have hlt := (Nat.div_lt_iff_lt_mul (by decide)).1 (hle.trans_lt hfloor)
      omega
    refine ⟨⟨_, hproduct⟩, rfl, ⟨_, himplied⟩, ⟨hr, rfl⟩, ⟨_, hscaled⟩, rfl,
      ⟨_, (Nat.div_le_self _ 10000).trans_lt hscaled⟩, ⟨by decide, rfl⟩, hle⟩

/-- The multiplication by the cap does overflow. -/
example : checkSlippageFloor 0 (Fin.last _) (Fin.last _) 1 (Fin.last _) =
    .error (.vault .mathOverflow) := by
  decide +kernel

/-- The pool's reserves of WSOL and of the memecoin, as the check reads them. -/
def readReserves (l : Ledger) (accounts : SalvageAccounts) (baseIsCoinSide : Bool) :
    Option (U64 × U64) := do
  let coinVault ← accounts.raydiumRemaining[3]?
  let pcVault ← accounts.raydiumRemaining[4]?
  let coinVaultAmount ← (l coinVault.account).data.tokenAmount?
  let pcVaultAmount ← (l pcVault.account).data.tokenAmount?
  return if baseIsCoinSide then (coinVaultAmount, pcVaultAmount)
    else (pcVaultAmount, coinVaultAmount)

theorem checkSlippage_ok_iff {memecoinReceived : U64} :
    checkSlippage cfg l params accounts baseIsCoinSide memecoinReceived = .ok () ↔
      ∃ w r, readReserves l accounts baseIsCoinSide = some (w, r) ∧
        checkSlippageFloor (effectiveSlippageCapBps cfg.maxSlippageBps
          params.maxSlippageBpsOverride) memecoinReceived w r params.minQuoteOutputLamports =
            .ok () := by
  simp only [checkSlippage, readTokenAmount, okOr_bind_ok_iff, readReserves, Option.bind_eq_bind,
    Option.bind_eq_some_iff]
  constructor
  · rintro ⟨coin, hcoin, pc, hpc, coinAmount, hcoinAmount, pcAmount, hpcAmount, h⟩
    cases baseIsCoinSide with
    | true =>
      exact ⟨_, _, ⟨coin, hcoin, pc, hpc, coinAmount, hcoinAmount, pcAmount, hpcAmount, rfl⟩, h⟩
    | false =>
      exact ⟨_, _, ⟨coin, hcoin, pc, hpc, coinAmount, hcoinAmount, pcAmount, hpcAmount, rfl⟩, h⟩
  · rintro ⟨w, r, ⟨coin, hcoin, pc, hpc, coinAmount, hcoinAmount, pcAmount, hpcAmount, hread⟩, h⟩
    refine ⟨coin, hcoin, pc, hpc, coinAmount, hcoinAmount, pcAmount, hpcAmount, ?_⟩
    cases baseIsCoinSide with
    | true =>
      obtain ⟨rfl, rfl⟩ := Prod.mk.inj (Option.some.inj hread)
      exact h
    | false =>
      obtain ⟨rfl, rfl⟩ := Prod.mk.inj (Option.some.inj hread)
      exact h

/-- An active swap leg goes through only with an admitted floor. -/
theorem swapLeg_floorAdmitted {jupiter : Program} {removal : RemoveLiquidityOutput}
    (hactive : swapIsActive cfg removal)
    (h : swapLeg jupiter cfg l params accounts baseIsCoinSide removal = .ok l') :
    ∃ w r, readReserves l accounts baseIsCoinSide = some (w, r) ∧
      FloorAdmitted (slippageCap cfg.maxSlippageBps params.maxSlippageBpsOverride)
        removal.memecoinReceived.val w.val r.val params.minQuoteOutputLamports.val := by
  rw [swapLeg, if_pos hactive] at h
  obtain ⟨w, r, hread, hfloor⟩ := checkSlippage_ok_iff.1 (activeSwap_ok_iff.1 h).1.2.1
  rw [checkSlippageFloor_ok_iff, effectiveSlippageCapBps_val] at hfloor
  exact ⟨w, r, hread, hfloor⟩

/-- The ceiling admits exactly the floors within the cap, never less than 90 percent of the
implied output less two lamports, an override only tightens it, and an active swap leg goes through
only with an admitted floor. -/
theorem slippageCeiling_exact :
    (∀ (configBps : U16) (overrideBps : Option U16) (m w r floor : U64),
      (checkSlippageFloor (effectiveSlippageCapBps configBps overrideBps) m w r floor = .ok () ↔
        FloorAdmitted (slippageCap configBps overrideBps) m.val w.val r.val floor.val) ∧
      (checkSlippageFloor (effectiveSlippageCapBps configBps overrideBps) m w r floor = .ok () →
        (m.val * w.val / r.val * (1 - slippageCap configBps overrideBps / 10000) - 2 : ℚ) <
          floor.val ∧
        (m.val * w.val / r.val * (9 / 10) - 2 : ℚ) < floor.val) ∧
      ∀ new, Tightens new overrideBps →
        checkSlippageFloor (effectiveSlippageCapBps configBps (some new)) m w r floor = .ok () →
        checkSlippageFloor (effectiveSlippageCapBps configBps overrideBps) m w r floor = .ok ()) ∧
    ∀ (jupiter : Program) (cfg : ProtocolConfig) (l l' : Ledger) (params : SalvagePoolParams)
      (accounts : SalvageAccounts) (baseIsCoinSide : Bool) (removal : RemoveLiquidityOutput),
      swapIsActive cfg removal →
      swapLeg jupiter cfg l params accounts baseIsCoinSide removal = .ok l' →
      ∃ w r, readReserves l accounts baseIsCoinSide = some (w, r) ∧
        FloorAdmitted (slippageCap cfg.maxSlippageBps params.maxSlippageBpsOverride)
          removal.memecoinReceived.val w.val r.val params.minQuoteOutputLamports.val := by
  refine ⟨fun configBps overrideBps m w r floor => ?_,
    fun _ _ _ _ _ _ _ _ hactive h => swapLeg_floorAdmitted hactive h⟩
  have hcap := slippageCap_le configBps overrideBps
  simp only [checkSlippageFloor_ok_iff, effectiveSlippageCapBps_val, true_and]
  refine ⟨fun h => ⟨h.lt (hcap.trans (by decide)), h.ninety_lt hcap⟩, fun new hnew h => ?_⟩
  exact h.mono (slippageCap_mono hnew)

end GraveYield.Vault
