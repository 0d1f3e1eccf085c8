import GraveYield.Authority
import GraveYield.Settlement

/-!
# What a salvage leaves behind

The settlement pays out the amount of the WSOL account, but closing that account moves all of its
lamports, its rent included, into the transient account, which was itself created with the rent of
an empty account. Neither rent is paid out (`settle_residue`), so the transient account of a pool
that was salvaged is never empty, and nothing debits it afterwards (`holding_run`).
-/

namespace GraveYield

open Machine Checked

namespace Vault

variable {rt : Runtime} {clock : Clock} {cert? : Option Scanner.EligibilityCert} {v v' : State}
  {l l' : Ledger} {params : SalvagePoolParams} {accounts : SalvageAccounts} {programs : Programs}

/-- A settlement leaves in the transient account what it held before, and the rent of the WSOL
account. -/
theorem settle_residue {cfg : ProtocolConfig} {pool salvor : Pubkey} {s : Settlement}
    (h : settle cfg l pool salvor = .ok (l', s)) :
    (l' (.vaultSolHolding pool)).lamports =
      (l (.vaultSolHolding pool)).lamports + (l vaultBaseAta).reserve := by
  obtain ⟨m₁, m₂, m₃, hclose, hsalvor, hlp, hprotocol⟩ := settle_ledgers h
  simp only [settle, bind_ok_iff, Ledger.loadToken_ok_iff, require_ok_iff, exists_const,
    pure_ok_iff, Prod.exists, Prod.mk.injEq] at h
  obtain ⟨base, hbase, hpos, _, _, _, _, _, _, _, hsplit, _, _, _, rfl⟩ := h
  obtain ⟨_, t, ht, hnative, _, hm₁⟩ := Ledger.closeAccount_ok_iff.1 hclose
  obtain rfl : base = t := by
    rw [hbase] at ht
    exact AccountData.token.inj ht
  have hmint : base.mint = wsolMint := hnative.resolve_right (by omega)
  have hclosed : (m₁ (.vaultSolHolding pool)).lamports =
      (l (.vaultSolHolding pool)).lamports + ((l vaultBaseAta).reserve + base.amount.val) := by
    rw [← hm₁, Function.update_of_ne (by simp [vaultBaseAta]), Function.update_self,
      AccountState.credit_lamports, AccountState.lamports, AccountState.lamports, hbase,
      AccountData.wrapped, if_pos hmint]
  have hshares := splitProceeds_exhausts hsplit
  have h₁ := hsalvor.debited
  have h₂ := hlp.debited
  have h₃ := hprotocol.debited
  simp only at h₁ h₂ h₃
  omega

/-- The transient account before the two calls : what it held, or the rent of an empty account. -/
theorem prepare_holding {p : Prepared} (h : prepare rt clock cert? v l params accounts = .ok p) :
    (p.ledger (.vaultSolHolding params.poolAddress)).lamports =
      if 0 < (l (.vaultSolHolding params.poolAddress)).lamports then
        (l (.vaultSolHolding params.poolAddress)).lamports
      else (rt.rentMinimumBalance 0).val := by
  obtain ⟨l₁, l₂, hopened, hlp, hsol⟩ := prepare_ledgers h
  have hopen : l₂ (.vaultSolHolding params.poolAddress) =
      l (.vaultSolHolding params.poolAddress) :=
    (Ledger.lazyInitSystemPda_frame hlp (by simp) (by simp)).trans
      (openAccounts_frame hopened (by simp) (by simp) (by simp) (by simp [vaultBaseAta])
        (by simp [vaultMemecoinAta]))
  rw [Ledger.lazyInitSystemPda_lamports hsol (by simp), hopen]

/-- What a successful salvage leaves in the transient account of the pool. -/
theorem salvagePool_residue
    (h : salvagePool rt clock cert? v l params accounts programs = .ok (v', l')) : ∃ l₂ : Ledger,
    (if 0 < (l (.vaultSolHolding params.poolAddress)).lamports then
        (l (.vaultSolHolding params.poolAddress)).lamports
      else (rt.rentMinimumBalance 0).val) ≤
      (l₂ (.vaultSolHolding params.poolAddress)).lamports ∧
    (l' (.vaultSolHolding params.poolAddress)).lamports =
      (l₂ (.vaultSolHolding params.poolAddress)).lamports + (l₂ vaultBaseAta).reserve := by
  obtain ⟨p, l₁, removal, l₂, s, dust, hprepare, hremove, hswap, hsettle, rfl⟩ := salvagePool_ok h
  have hkeeps : Ledger.Keeps (.vaultSolHolding params.poolAddress) p.ledger l₂ :=
    (dispatchRemoveLiquidity_keeps hremove rfl).trans
      (swapLeg_keeps hswap (prepare_ok hprepare).1.unsigned rfl (by simp))
  refine ⟨l₂, ?_, settle_residue hsettle⟩
  rw [← prepare_holding hprepare]
  exact hkeeps.lamports

/-- A salvage does not touch the transient accounts of other pools, and nothing else debits them. -/
theorem salvagePool_holding
    (h : salvagePool rt clock cert? v l params accounts programs = .ok (v', l')) (pool : Pubkey) :
    (l (.vaultSolHolding pool)).lamports ≤ (l' (.vaultSolHolding pool)).lamports := by
  by_cases hpool : pool = params.poolAddress
  · subst hpool
    obtain ⟨l₂, hle, heq⟩ := salvagePool_residue h
    split_ifs at hle with hpos
    · omega
    · omega
  · obtain ⟨p, l₁, removal, l₂, s, dust, hprepare, hremove, hswap, hsettle, rfl⟩ := salvagePool_ok h
    have hkeeps : Ledger.Keeps (.vaultSolHolding pool) p.ledger l₂ :=
      (dispatchRemoveLiquidity_keeps hremove rfl).trans
        (swapLeg_keeps hswap (prepare_ok hprepare).1.unsigned rfl (by simp))
    calc (l (.vaultSolHolding pool)).lamports
        = (p.ledger (.vaultSolHolding pool)).lamports := by
          rw [prepare_frame hprepare (by simp) (by simp) (by simp) (by simp)
            (by simpa using hpool) (by simp [vaultBaseAta]) (by simp [vaultMemecoinAta])]
      _ ≤ (l₂ (.vaultSolHolding pool)).lamports := hkeeps.lamports
      _ = (l' (.vaultSolHolding pool)).lamports := by
          rw [settle_frame hsettle (by simp) (by simp) (by simpa using hpool) (by simp)
            (by simp [vaultBaseAta])]

/-- After a successful salvage the transient account of the pool is never empty : it holds at least
what it held before, or the rent of an empty account. -/
theorem salvage_leavesLamports (rt : Runtime) (hrent : 0 < (rt.rentMinimumBalance 0).val)
    (clock : Clock) (cert? : Option Scanner.EligibilityCert) (v v' : State) (l l' : Ledger)
    (params : SalvagePoolParams) (accounts : SalvageAccounts) (programs : Programs)
    (h : salvagePool rt clock cert? v l params accounts programs = .ok (v', l')) :
    (l' (.vaultSolHolding params.poolAddress)).lamports ≠ 0 ∧
      (if 0 < (l (.vaultSolHolding params.poolAddress)).lamports then
          (l (.vaultSolHolding params.poolAddress)).lamports
        else (rt.rentMinimumBalance 0).val) ≤
        (l' (.vaultSolHolding params.poolAddress)).lamports := by
  obtain ⟨l₂, hle, heq⟩ := salvagePool_residue h
  refine ⟨?_, hle.trans (heq ▸ Nat.le_add_right _ _)⟩
  split_ifs at hle with hpos
  · omega
  · omega

end Vault

namespace World

open Vault

theorem salvage_leavesLamports_demo : ∃ w',
    exec Scanner.demoRuntime (run (exec Scanner.demoRuntime)
      (genesis Scanner.demoClock demoLedger) demoSetup) demoSalvage = .ok w' ∧
    (w'.ledger (.vaultSolHolding Scanner.demoPool)).lamports ≠ 0 := by
  obtain ⟨w', hw'⟩ := exists_ok_of_isOk isOk_demoSalvage
  obtain ⟨v', l', h, rfl⟩ := vault_ok_iff.1 hw'
  exact ⟨_, hw', (salvage_leavesLamports _ (by decide) _ _ _ _ _ _ _ _ _ h).1⟩

/-- The transient account keeps 890880 lamports of its own rent and 2039280 of the WSOL
account's. -/
theorem demoSalvage_residue : ∃ w',
    exec Scanner.demoRuntime (run (exec Scanner.demoRuntime)
      (genesis Scanner.demoClock demoLedger) demoSetup) demoSalvage = .ok w' ∧
    (w'.ledger (.vaultSolHolding Scanner.demoPool)).lamports = 890880 + 2039280 := by
  have h : (exec Scanner.demoRuntime (run (exec Scanner.demoRuntime)
      (genesis Scanner.demoClock demoLedger) demoSetup) demoSalvage).toOption.map
        (fun w => (w.ledger (.vaultSolHolding Scanner.demoPool)).lamports) =
      some (890880 + 2039280) := by
    decide +kernel
  obtain ⟨w', hw', hlamports⟩ := Option.map_eq_some_iff.1 h
  exact ⟨w', toOption_eq_some_iff.1 hw', hlamports⟩

/-! ## Nothing takes it out -/

variable {rt : Runtime} {w w' : World} {ix : Ix}

/-- No step debits a transient account beyond what it brought in. -/
theorem holding_exec (h : exec rt w ix = .ok w') (pool : Pubkey) :
    (w.ledger (.vaultSolHolding pool)).lamports ≤
      (w'.ledger (.vaultSolHolding pool)).lamports := by
  cases ix with
  | scanner call =>
    obtain ⟨s, _, rfl⟩ := scanner_ok_iff.1 h
    exact le_rfl
  | vault call =>
    obtain ⟨v, l, hcall, rfl⟩ := vault_ok_iff.1 h
    rcases execVault_cases hcall with ⟨_, rfl | ⟨payer, hl⟩⟩ |
      ⟨params, accounts, programs, rfl, hcall⟩ | ⟨params, lpHolder, rfl, hcall⟩ |
      ⟨pool, mint, sweeper, rfl, hcall⟩
    · exact le_rfl
    · exact (Ledger.Keeps.of_eq (Ledger.initRecord_frame hl (by simp) (by simp))).lamports
    · exact salvagePool_holding hcall pool
    · obtain ⟨_, _, _, _, _, _, _, _, _, _, _, _, hframe⟩ := claimLpProceeds_ok hcall
      exact (Ledger.Keeps.of_eq (hframe _ (by simp) (by simp) (by simp))).lamports
    · obtain ⟨_, _, _, _, _, hframe⟩ := sweepDust_ok hcall
      exact (Ledger.Keeps.of_eq (hframe _ (by simp) (by simp) (by simp))).lamports
  | systemTransfer src dst amount =>
    obtain ⟨l, ht, rfl⟩ := systemTransfer_ok_iff.1 h
    obtain ⟨_, _, rfl⟩ := Ledger.transfer_ok_iff.1 ht
    exact (Ledger.move_keeps _ (by simp)).lamports
  | external program metas data =>
    obtain ⟨hu, l, hcall, rfl⟩ := external_ok_iff.1 h
    exact (program.custody hcall _ rfl (not_signs_external hu rfl)).lamports

/-- What a salvage left behind stays there, whatever runs afterwards. -/
theorem holding_run (rt : Runtime) (w : World) (ixs : List Ix) (pool : Pubkey) :
    (w.ledger (.vaultSolHolding pool)).lamports ≤
      ((run (exec rt) w ixs).ledger (.vaultSolHolding pool)).lamports :=
  run_rel (I := fun _ => True)
    (R := fun w w' : World => (w.ledger (.vaultSolHolding pool)).lamports ≤
      (w'.ledger (.vaultSolHolding pool)).lamports)
    (fun _ => le_rfl) (fun _ _ _ => le_trans) (fun _ _ _ _ h => ⟨trivial, holding_exec h pool⟩)
    trivial ixs

end World

end GraveYield
