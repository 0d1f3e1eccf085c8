import GraveYield.Ops.VaultObserver
import GraveYield.Split

/-!
# The receipt checks against the split

The observer compares each amount of a receipt with a share of 40, 40 or 20 percent, rounded down,
and lets it differ by one lamport. The program pays the salvor and the LP holders what the stored
configuration says, and the protocol all that the roundings leave.

`Tolerated` is when the two agree, and `receiptChecks_iff` that they agree on nothing else. With the
default shares that is a matter of the total modulo five : what three roundings leave of it can be
two lamports (`tolerated_default_iff`).
-/

namespace GraveYield.Ops

open Machine Checked Vault

/-- How much more than 40 percent a share pays. Both are rounded down. -/
def excess (total bps : ℕ) : ℤ :=
  (total * bps / 10000 : ℕ) - (total * 2 / 5 : ℕ)

/-- What is left of a total after 40, 40 and 20 percent, each rounded down. -/
def lost (total : ℕ) : ℤ :=
  if total % 5 = 0 then 0 else if total % 5 = 1 ∨ total % 5 = 3 then 1 else 2

/-- The two configured shares differ from 40 percent by at most a lamport, and so does what they and
the roundings leave to the protocol from 20 percent. -/
structure Tolerated (cfg : ProtocolConfig) (total : ℕ) : Prop where
  salvor : |excess total cfg.salvorShareBps.val| ≤ 1
  lpHolder : |excess total cfg.lpHolderShareBps.val| ≤ 1
  protocol : |lost total - excess total cfg.salvorShareBps.val -
    excess total cfg.lpHolderShareBps.val| ≤ 1

variable {cfg : ProtocolConfig}

theorem tolerated_default_iff (hsalvor : cfg.salvorShareBps = defaultSalvorShareBps)
    (hlp : cfg.lpHolderShareBps = defaultLpHolderShareBps) (total : ℕ) :
    Tolerated cfg total ↔ total % 5 ≠ 2 ∧ total % 5 ≠ 4 := by
  have hexcess : excess total 4000 = 0 := by
    unfold excess
    omega
  have hs : cfg.salvorShareBps.val = 4000 := congrArg Fin.val hsalvor
  have hl : cfg.lpHolderShareBps.val = 4000 := congrArg Fin.val hlp
  have hlost : |lost total| ≤ 1 ↔ total % 5 ≠ 2 ∧ total % 5 ≠ 4 := by
    rw [abs_le]
    unfold lost
    split_ifs <;> omega
  constructor
  · intro h
    have hprotocol := h.protocol
    rw [hs, hl, hexcess, sub_zero, sub_zero] at hprotocol
    exact hlost.1 hprotocol
  · intro h
    refine ⟨?_, ?_, ?_⟩
    · simp [hs, hexcess]
    · simp [hl, hexcess]
    · rw [hs, hl, hexcess, sub_zero, sub_zero]
      exact hlost.2 h

theorem shareMatches_iff {amount total bps : ℕ} :
    shareMatches amount total bps = true ↔ |(amount : ℤ) - (total * bps / 10000 : ℕ)| ≤ 1 := by
  rw [shareMatches, decide_eq_true_eq, abs_le]
  split_ifs <;> omega

/-- The checks of a receipt of a split. -/
theorem pass_checkReceiptSums_iff {receipt : Sdk.SalvageReceipt}
    (h : Splits cfg receipt.totalProceedsLamports receipt.salvorAmountLamports
      receipt.lpHolderAmountLamports receipt.protocolAmountLamports) :
    (checkReceiptSums receipt).pass = true ↔
      Tolerated cfg receipt.totalProceedsLamports.val := by
  have hexhausts := h.exhausts
  have hsum : (checkReceiptSums receipt).r1Sum = true := by
    rw [checkReceiptSums, decide_eq_true_eq]
    omega
  have hlost : (receipt.protocolAmountLamports.val : ℤ) -
      (receipt.totalProceedsLamports.val * protocolShareBps / 10000 : ℕ) =
        lost receipt.totalProceedsLamports.val -
          excess receipt.totalProceedsLamports.val cfg.salvorShareBps.val -
          excess receipt.totalProceedsLamports.val cfg.lpHolderShareBps.val := by
    rw [excess, excess, ← h.salvor_eq, ← h.lpHolder_eq, protocolShareBps]
    unfold lost
    split_ifs <;> omega
  have hexcess : ∀ bps : ℕ, ((receipt.totalProceedsLamports.val * bps / 10000 : ℕ) : ℤ) -
      (receipt.totalProceedsLamports.val * 4000 / 10000 : ℕ) =
        excess receipt.totalProceedsLamports.val bps := by
    intro bps
    unfold excess
    omega
  rw [ReceiptChecks.pass, hsum, Bool.true_and]
  simp only [checkReceiptSums, Bool.and_eq_true, shareMatches_iff, hlost]
  rw [h.salvor_eq, h.lpHolder_eq, lpHolderShareBps, salvorShareBps, hexcess, hexcess]
  constructor
  · rintro ⟨⟨hlp, hsalvor⟩, hprotocol⟩
    exact ⟨hsalvor, hlp, hprotocol⟩
  · rintro ⟨hsalvor, hlp, hprotocol⟩
    exact ⟨⟨hlp, hsalvor⟩, hprotocol⟩

/-! ## The receipts of a vault -/

open World

/-- For the configuration stored in any state of any run : the receipt of the split of any total,
and the receipt that any salvage stores, pass the checks of the observer exactly where the split of
its total is tolerated. -/
theorem receiptChecks_iff (rt : Runtime) (clock : Clock) (ledger : Ledger) (ixs : List Ix)
    (cfg : ProtocolConfig)
    (hcfg : (run (exec rt) (genesis clock ledger) ixs).vault.protocolConfig = some cfg) :
    (∀ total : U64, ∃ salvor lpHolder protocol,
      splitProceeds total cfg.salvorShareBps cfg.lpHolderShareBps =
          .ok (salvor, lpHolder, protocol) ∧
        ∀ clock params accounts dust bump, (checkReceiptSums ⟨newReceipt clock params accounts
            ⟨total, salvor, lpHolder, protocol⟩ dust, bump⟩).pass = true ↔
          Tolerated cfg total.val) ∧
    ∀ params accounts programs w', exec rt (run (exec rt) (genesis clock ledger) ixs)
        (.vault (.salvagePool params accounts programs)) = .ok w' →
      ∃ receipt, w'.vault.receipts params.poolAddress = some receipt ∧
        ∀ bump, (checkReceiptSums ⟨receipt, bump⟩).pass = true ↔
          Tolerated cfg receipt.totalProceedsLamports.val := by
  have hshares := sharesExact_run rt clock ledger ixs cfg hcfg
  constructor
  · intro total
    obtain ⟨salvor, lpHolder, protocol, heq, h⟩ := exists_splits hshares total
    exact ⟨salvor, lpHolder, protocol, heq, fun _ _ _ _ _ => pass_checkReceiptSums_iff h⟩
  · intro params accounts programs w' hw'
    obtain ⟨v, l, hsalvage, rfl⟩ := vault_ok_iff.1 hw'
    obtain ⟨s, _, h, _, _, receipt, hreceipt, hlp, hsalvor, hprotocol, htotal⟩ :=
      salvagePool_split hsalvage hcfg hshares
    refine ⟨receipt, hreceipt, fun bump => pass_checkReceiptSums_iff ?_⟩
    rw [htotal, hsalvor, hlp, hprotocol]
    exact h

/-- The configuration of the demo run has the default shares. -/
theorem exists_demoConfig : ∃ cfg, (run (exec Scanner.demoRuntime)
    (genesis Scanner.demoClock demoLedger) demoSetup).vault.protocolConfig = some cfg ∧
      cfg.salvorShareBps = defaultSalvorShareBps ∧
      cfg.lpHolderShareBps = defaultLpHolderShareBps := by
  have hshares : (run (exec Scanner.demoRuntime) (genesis Scanner.demoClock demoLedger)
      demoSetup).vault.protocolConfig.map (fun cfg => (cfg.salvorShareBps, cfg.lpHolderShareBps)) =
        some (defaultSalvorShareBps, defaultLpHolderShareBps) := by
    decide +kernel
  obtain ⟨cfg, hcfg, hpair⟩ := Option.map_eq_some_iff.1 hshares
  exact ⟨cfg, hcfg, (Prod.mk.inj hpair).1, (Prod.mk.inj hpair).2⟩

theorem receiptChecks_three_lamports : ∃ cfg,
    (run (exec Scanner.demoRuntime) (genesis Scanner.demoClock demoLedger)
      demoSetup).vault.protocolConfig = some cfg ∧
    ∃ salvor lpHolder protocol, splitProceeds 3 cfg.salvorShareBps cfg.lpHolderShareBps =
        .ok (salvor, lpHolder, protocol) ∧
      ∀ clock params accounts dust bump, (checkReceiptSums ⟨newReceipt clock params accounts
        ⟨3, salvor, lpHolder, protocol⟩ dust, bump⟩).pass = true := by
  obtain ⟨cfg, hcfg, hsalvor, hlp⟩ := exists_demoConfig
  obtain ⟨hsplit, _⟩ :=
    receiptChecks_iff Scanner.demoRuntime Scanner.demoClock demoLedger demoSetup cfg hcfg
  obtain ⟨salvor, lpHolder, protocol, heq, hiff⟩ := hsplit 3
  have htolerated : Tolerated cfg 3 := (tolerated_default_iff hsalvor hlp 3).2 (by decide)
  exact ⟨cfg, hcfg, salvor, lpHolder, protocol, heq, fun clock params accounts dust bump =>
    (hiff clock params accounts dust bump).2 htolerated⟩

/-- The default shares of two lamports : the protocol is paid both, and its share is none. -/
theorem receiptChecks_two_lamports : ∃ cfg,
    (run (exec Scanner.demoRuntime) (genesis Scanner.demoClock demoLedger)
      demoSetup).vault.protocolConfig = some cfg ∧
    splitProceeds 2 cfg.salvorShareBps cfg.lpHolderShareBps = .ok (0, 0, 2) ∧
    ∀ clock params accounts dust bump, (checkReceiptSums ⟨newReceipt clock params accounts
      ⟨2, 0, 0, 2⟩ dust, bump⟩).pass = false := by
  obtain ⟨cfg, hcfg, hsalvor, hlp⟩ := exists_demoConfig
  have hshares :=
    sharesExact_run Scanner.demoRuntime Scanner.demoClock demoLedger demoSetup cfg hcfg
  have hsplit : splitProceeds 2 cfg.salvorShareBps cfg.lpHolderShareBps = .ok (0, 0, 2) := by
    rw [hsalvor, hlp]
    rfl
  refine ⟨cfg, hcfg, hsplit, fun _ _ _ _ _ => Bool.eq_false_iff.2 fun hpass => ?_⟩
  have htolerated := (pass_checkReceiptSums_iff (splits_of_splitProceeds hshares hsplit)).1 hpass
  exact ((tolerated_default_iff hsalvor hlp 2).1 htolerated).1 rfl

end GraveYield.Ops
