import GraveYield.Authority

/-!
# Transactions and the rent rule

A transaction is a batch of instructions. At its end every account that changed must hold no
lamports or the rent-exempt minimum of its size, or the whole batch is rolled back (`execTx`).
The rule is checked on the accounts the instructions name; `ledger_frame` says that no other
account changes, so that it holds of all of them (`rentRule_of_execTx`).

The vault of a settled pool is meant to hold the rent-exempt minimum and what is left of the
bucket. `lazy_init_system_pda` leaves an account with any lamports alone, so this depends on what
the vault held when its salvage started : `claims_rentExempt` is the guarantee for runs in which
every salvage finds it empty or rent-exempt, and `dustedVault_blocksClaim` a transaction that
breaks it and blocks the last claim.
-/

namespace GraveYield.World

open Machine Checked Vault

/-! ## Transactions -/

/-- The accounts that a salvage can change. -/
def salvageTouches (params : SalvagePoolParams) (accounts : SalvageAccounts) : List Account :=
  [.key accounts.salvor, .poolRegistry params.poolAddress, .salvageReceipt params.poolAddress,
    .lpHolderPoolVault params.poolAddress, .vaultSolHolding params.poolAddress, .protocolTreasury,
    vaultBaseAta, vaultMemecoinAta accounts.memecoinMint, .key accounts.lpMint,
    .key accounts.pool, accounts.salvorLpTokenAccount] ++
    accounts.remainingAccounts.map AccountMeta.account

/-- A call of the scanner that opens or closes one of its accounts. The ledger does not hold these
accounts, and what is paid for them is left out. -/
def movesRent : Ix → Bool
  | .scanner (.initializeProtocol _) | .scanner (.recordLaunchPrice _ _)
  | .scanner (.evaluatePoolPhase1 _ _) | .scanner (.evaluatePoolPhase2 _ _)
  | .scanner (.sweepStaleAnchor _ _) => true
  | _ => false

/-- The accounts that an instruction can change in the ledger. Those of the scanner and their payers
are not among them (`movesRent`). -/
def touches : Ix → List Account
  | .scanner _ => []
  | .vault (.initializeProtocol _ payer) => [.key payer, .vaultConfig]
  | .vault (.updateProtocolConfig _ _) => []
  | .vault (.emergencyPause _ _) => []
  | .vault (.salvagePool params accounts _) => salvageTouches params accounts
  | .vault (.claimLpProceeds params lpHolder) => [.key lpHolder,
      .claimRecord params.poolAddress lpHolder, .lpHolderPoolVault params.poolAddress]
  | .vault (.sweepDust _ mint sweeper) => [.key sweeper, .ata .vaultAuthority mint,
      .ata .protocolTreasury mint]
  | .systemTransfer src dst _ => [.key src, dst]
  | .external _ metas _ => metas.map AccountMeta.account

/-- The rent rule for one account : it did not change, or it ends with nothing or with the
rent-exempt minimum. -/
def RentRule (rt : Runtime) (s s' : AccountState) : Prop :=
  s' = s ∨ s'.lamports = 0 ∨ (rt.rentMinimumBalance s'.data.size).val ≤ s'.lamports

/-- Whether the rent rule holds is decided. -/
instance (rt : Runtime) (s s' : AccountState) : Decidable (RentRule rt s s') :=
  inferInstanceAs (Decidable (_ ∨ _ ∨ _))

/-- A transaction. -/
def execTx (rt : Runtime) (w : World) (tx : List Ix) : Except ProgramError World := do
  let w' ← batch (exec rt) w tx
  require (∀ a ∈ tx.flatMap touches, RentRule rt (w.ledger a) (w'.ledger a))
    (.fault .insufficientFunds)
  return w'

variable {rt : Runtime} {w w' : World} {ix : Ix} {tx : List Ix}

/-- A transaction commits iff its batch succeeds and the rule holds for what it names. -/
theorem execTx_ok_iff : execTx rt w tx = .ok w' ↔ batch (exec rt) w tx = .ok w' ∧
    ∀ a ∈ tx.flatMap touches, RentRule rt (w.ledger a) (w'.ledger a) := by
  simp only [execTx, bind_ok_iff, require_ok_iff, exists_const, pure_ok_iff]
  constructor
  · rintro ⟨_, h1, h2, rfl⟩
    exact ⟨h1, h2⟩
  · rintro ⟨h1, h2⟩
    exact ⟨w', h1, h2, rfl⟩

/-! ## No instruction changes other accounts -/

theorem withdrawMetas_frame {params : SalvagePoolParams} {accounts : SalvageAccounts} (side : Bool)
    (hlen : accounts.raydiumRemaining.length = raydiumV4WithdrawRemainingAccountsRequired)
    {a : Account} (ha : a ∉ salvageTouches params accounts) :
    ¬Writable (withdrawMetas accounts side) a := by
  have hrem : ∀ i, i < 13 → ((accounts.raydiumRemaining[i]?).map AccountMeta.account).getD
      (.key defaultPubkey) ≠ a := by
    rintro i hi rfl
    have hi' : i < accounts.raydiumRemaining.length := by rw [hlen]; exact hi
    refine ha (List.mem_append_right _ (List.mem_map.2 ⟨accounts.raydiumRemaining[i], ?_, ?_⟩))
    · exact List.mem_of_mem_take (List.getElem_mem hi')
    · simp [List.getElem?_eq_getElem hi']
  rintro ⟨m, hm, rfl, hw⟩
  rcases (mem_withdrawMetas hm).2 hw with hmem | ⟨i, hi, heq⟩
  · refine ha (List.mem_append_left _ ?_)
    simp only [List.mem_cons, List.not_mem_nil, or_false] at hmem ⊢
    tauto
  · exact hrem i hi heq.symm

/-- A salvage leaves the accounts alone that it does not name. -/
theorem salvage_frame {clock : Clock} {cert? : Option Scanner.EligibilityCert} {v v' : Vault.State}
    {l l' : Ledger} {params : SalvagePoolParams} {accounts : SalvageAccounts} {programs : Programs}
    (h : salvagePool rt clock cert? v l params accounts programs = .ok (v', l')) {a : Account}
    (ha : a ∉ salvageTouches params accounts) : l' a = l a := by
  obtain ⟨p, l₁, removal, l₂, s, dust, h1, h2, h3, h4, _⟩ := salvagePool_ok h
  have hwithdraw := withdrawMetas_frame p.baseIsCoinSide
    (removeLiquidity_length (dispatchRemoveLiquidity_ok h2).2.1) ha
  have hroute : ¬Writable (routeMetas accounts) a := by
    rintro ⟨m, hm, rfl, _⟩
    obtain ⟨m', hm', rfl⟩ := List.mem_map.1 hm
    refine ha (List.mem_append_right _ (List.mem_map.2 ⟨m', List.mem_of_mem_drop hm', ?_⟩))
    split_ifs <;> rfl
  simp only [salvageTouches, List.mem_append, List.mem_cons, List.not_mem_nil, or_false,
    not_or] at ha
  obtain ⟨⟨hsalvor, hreg, hrec, hlp, hsol, htreasury, hbase, hmeme, _, _, _⟩, _⟩ := ha
  calc l' a = l₂ a := settle_frame h4 hsalvor hlp hsol htreasury hbase
    _ = l₁ a := by
      rcases swapLeg_cases h3 with ⟨_, rfl⟩ | ⟨_, _, hcall⟩
      · rfl
      · exact programs.jupiterV6.frame hcall a hroute
    _ = p.ledger a :=
      programs.raydiumV4.frame (dispatchRemoveLiquidity_ok h2).2.2 a hwithdraw
    _ = l a := prepare_frame h1 hsalvor hreg hrec hlp hsol hbase hmeme

/-- An instruction changes only the accounts it names. -/
theorem ledger_frame (h : exec rt w ix = .ok w') {a : Account} (ha : a ∉ touches ix) :
    w'.ledger a = w.ledger a := by
  cases ix with
  | scanner call =>
    obtain ⟨s, _, rfl⟩ := scanner_ok_iff.1 h
    rfl
  | vault call =>
    obtain ⟨v, l, hcall, rfl⟩ := vault_ok_iff.1 h
    clear h
    cases call with
    | initializeProtocol params payer =>
      simp only [touches, List.mem_cons, List.not_mem_nil, or_false, not_or] at ha
      exact Ledger.initRecord_frame (Vault.initializeProtocol_ok hcall).2.1 ha.1 ha.2
    | updateProtocolConfig params authority =>
      simp only [execVault, bind_ok_iff, pure_ok_iff, Prod.mk.injEq] at hcall
      obtain ⟨_, _, _, rfl⟩ := hcall
      rfl
    | emergencyPause paused authority =>
      simp only [execVault, bind_ok_iff, pure_ok_iff, Prod.mk.injEq] at hcall
      obtain ⟨_, _, _, rfl⟩ := hcall
      rfl
    | salvagePool params accounts programs => exact salvage_frame hcall ha
    | claimLpProceeds params lpHolder =>
      simp only [touches, List.mem_cons, List.not_mem_nil, or_false, not_or] at ha
      obtain ⟨_, _, _, _, _, _, _, _, _, _, _, _, hframe⟩ := claimLpProceeds_ok hcall
      exact hframe a ha.1 ha.2.1 ha.2.2
    | sweepDust pool mint sweeper =>
      simp only [touches, List.mem_cons, List.not_mem_nil, or_false, not_or] at ha
      obtain ⟨_, _, _, _, _, hframe⟩ := sweepDust_ok hcall
      exact hframe a ha.1 ha.2.1 ha.2.2
  | systemTransfer src dst amount =>
    obtain ⟨l, ht, rfl⟩ := systemTransfer_ok_iff.1 h
    obtain ⟨_, _, rfl⟩ := Ledger.transfer_ok_iff.1 ht
    simp only [touches, List.mem_cons, List.not_mem_nil, or_false, not_or] at ha
    exact Ledger.move_of_ne _ ha.1 ha.2
  | external program metas data =>
    obtain ⟨_, l, hcall, rfl⟩ := external_ok_iff.1 h
    refine program.frame hcall a ?_
    rintro ⟨m, hm, rfl, _⟩
    exact ha (List.mem_map.2 ⟨m, hm, rfl⟩)

/-- Every account of the chain satisfies the rent rule across a transaction. -/
theorem rentRule_of_execTx (h : execTx rt w tx = .ok w') (a : Account) :
    RentRule rt (w.ledger a) (w'.ledger a) := by
  obtain ⟨hbatch, hrule⟩ := execTx_ok_iff.1 h
  by_cases ha : a ∈ tx.flatMap touches
  · exact hrule a ha
  · refine Or.inl ?_
    rw [List.mem_flatMap, not_exists] at ha
    refine batch_invariant (I := fun u : World => u.ledger a = w.ledger a)
      (C := fun _ ix => a ∉ touches ix) ?_ rfl ?_ hbatch
    · intro u ix u' hu hix hexec
      rw [ledger_frame hexec hix, hu]
    · exact along_of_forall fun _ ix hix hmem => ha ix ⟨hix, hmem⟩

/-! ## What protects the last claims -/

/-- The minimum for an account without data. -/
def rentMinimum (rt : Runtime) : ℕ :=
  (rt.rentMinimumBalance 0).val

/-- The vault of a settled pool holds the rent-exempt minimum and what is left of the bucket. -/
def RentCovered (rt : Runtime) (w : World) (pool : Pubkey) (registry : PoolRegistry) : Prop :=
  rentMinimum rt + registry.lpHolderPoolTotalLamports.val -
    registry.lpHolderPoolClaimedLamports.val ≤ (w.ledger (.lpHolderPoolVault pool)).lamports

/-- Whether the rent is covered is decided. -/
instance (rt : Runtime) (w : World) (pool : Pubkey) (registry : PoolRegistry) :
    Decidable (RentCovered rt w pool registry) :=
  inferInstanceAs (Decidable (_ ≤ _))

/-- A salvage starts with a vault that holds nothing or the rent-exempt minimum. -/
def FundedSalvage (rt : Runtime) (w : World) : Ix → Prop
  | .vault (.salvagePool params _ _) =>
    (w.ledger (.lpHolderPoolVault params.poolAddress)).lamports = 0 ∨
      rentMinimum rt ≤ (w.ledger (.lpHolderPoolVault params.poolAddress)).lamports
  | _ => True

/-- Every settled pool is covered. -/
def AllRentCovered (rt : Runtime) (w : World) : Prop :=
  ∀ pool registry, w.vault.registries pool = some registry → RentCovered rt w pool registry

theorem RentCovered.of_keeps {pool : Pubkey} {registry : PoolRegistry}
    (h : RentCovered rt w pool registry)
    (hkeeps : Ledger.Keeps (.lpHolderPoolVault pool) w.ledger w'.ledger) :
    RentCovered rt w' pool registry :=
  h.trans hkeeps.lamports

/-- A funded salvage leaves the minimum under the bucket it fills. -/
theorem rentCovered_salvage {clock : Clock} {cert? : Option Scanner.EligibilityCert}
    {params : SalvagePoolParams} {accounts : SalvageAccounts} {programs : Programs}
    (hs : AllRentCovered rt w)
    (hfunded : FundedSalvage rt w (.vault (.salvagePool params accounts programs)))
    (h : salvagePool rt clock cert? w.vault w.ledger params accounts programs =
      .ok (w'.vault, w'.ledger)) : AllRentCovered rt w' := by
  obtain ⟨p, s, dust, hpre, _, hcredit, hv⟩ := salvagePool_effect h
  have hreg : w'.vault.registries = Function.update w.vault.registries params.poolAddress
    (some (newRegistry clock params accounts.salvor s)) := by rw [hv]
  intro pool registry hr
  rw [hreg] at hr
  rcases of_update_eq_some hr with ⟨rfl, rfl⟩ | ⟨hp, hr⟩
  · have hlamports := hcredit.lamports
    unfold FundedSalvage rentMinimum at hfunded
    unfold RentCovered rentMinimum
    simp only [newRegistry]
    split_ifs at hlamports <;> omega
  · exact (hs pool registry hr).of_keeps (hcredit.others pool hp)

/-- A claim keeps the rent of every pool covered. -/
theorem rentCovered_claim {clock : Clock} {params : ClaimLpProceedsParams} {lpHolder : Pubkey}
    (hs : AllRentCovered rt w)
    (h : claimLpProceeds rt clock w.vault w.ledger params lpHolder = .ok (w'.vault, w'.ledger)) :
    AllRentCovered rt w' := by
  obtain ⟨registry, amount, newClaimed, _, hreg, _, hamount, _, _, hv, _, hpaid, hframe⟩ :=
    claimLpProceeds_ok h
  obtain ⟨_, _, _, _, hnew, hcap⟩ := claimAmount_ok_iff.1 hamount
  have hregs : w'.vault.registries = Function.update w.vault.registries params.poolAddress
    (some { registry with lpHolderPoolClaimedLamports := newClaimed }) := by rw [hv]
  intro pool r hr
  rw [hregs] at hr
  rcases of_update_eq_some hr with ⟨rfl, rfl⟩ | ⟨hp, hr⟩
  · have hold := hs _ _ hreg
    unfold RentCovered at hold ⊢
    simp only
    omega
  · exact (hs pool r hr).of_keeps
      (Ledger.Keeps.of_eq (hframe _ (by simp) (by simp) (by simpa using hp)))

/-- A step keeps the rent of every pool covered, if its salvage is funded. -/
theorem rentCovered_step (hs : AllRentCovered rt w) (hfunded : FundedSalvage rt w ix)
    (h : exec rt w ix = .ok w') : AllRentCovered rt w' := by
  rcases exec_cases h with hn | ⟨_, _, _, rfl, hsalvage⟩ | ⟨_, _, _, hclaim⟩ |
    ⟨_, _, _, _, hsweep⟩
  · intro pool registry hr
    rw [hn.registries] at hr
    exact (hs pool registry hr).of_keeps (hn.keeps pool)
  · exact rentCovered_salvage hs hfunded hsalvage
  · exact rentCovered_claim hs hclaim
  · obtain ⟨_, _, _, _, hv, hframe⟩ := sweepDust_ok hsweep
    intro pool registry hr
    rw [hv] at hr
    exact (hs pool registry hr).of_keeps
      (Ledger.Keeps.of_eq (hframe _ (by simp) (by simp) (by simp)))

/-- In every run of transactions in which each salvage that is committed starts with its vault empty
or rent-exempt, every settled pool is covered, and every claim that passes its own checks leaves the
rent-exempt minimum in the vault. -/
theorem claims_rentExempt (rt : Runtime) (clock : Clock) (ledger : Ledger) (txs : List (List Ix))
    (h : AlongRun (execTx rt) (IfOk (execTx rt) (Along (exec rt) (FundedSalvage rt)))
      (genesis clock ledger) txs) (pool : Pubkey) (registry : PoolRegistry)
    (hr : (run (execTx rt) (genesis clock ledger) txs).vault.registries pool = some registry) :
    RentCovered rt (run (execTx rt) (genesis clock ledger) txs) pool registry ∧
      ∀ params lpHolder amount newClaimed,
        claimAmount rt.sha256 registry params lpHolder = .ok (amount, newClaimed) →
        rentMinimum rt + amount.val ≤ ((run (execTx rt) (genesis clock ledger) txs).ledger
          (.lpHolderPoolVault pool)).lamports := by
  have hall : AllRentCovered rt (run (execTx rt) (genesis clock ledger) txs) := by
    refine run_invariant_of_ifOk (I := AllRentCovered rt) ?_ (fun _ _ h => nomatch h) h
    intro w tx w' hw halong htx
    exact batch_invariant (fun _ _ _ => rentCovered_step) hw halong (execTx_ok_iff.1 htx).1
  refine ⟨hall pool registry hr, fun params lpHolder amount newClaimed hclaim => ?_⟩
  obtain ⟨_, _, _, _, hnew, hcap⟩ := claimAmount_ok_iff.1 hclaim
  have hcovered := hall pool registry hr
  unfold RentCovered at hcovered
  omega

/-! ## A covered pool and a dusted one -/

/-- The registry of the demonstration salvage. -/
def demoRegistry : PoolRegistry :=
  newRegistry ⟨900000, 102, 10360000⟩ demoSalvageParams demoSalvor
    ⟨900000000, 360000000, 360000000, 180000000⟩

theorem along_demo : AlongRun (execTx Scanner.demoRuntime)
    (IfOk (execTx Scanner.demoRuntime)
      (Along (exec Scanner.demoRuntime) (FundedSalvage Scanner.demoRuntime)))
    (genesis Scanner.demoClock demoLedger) [demoSetup, [demoSalvage]] := by
  refine ⟨.of (along_of_forall fun w ix hix => ?_), .of ⟨Or.inl ?_, fun _ _ => trivial⟩, trivial⟩
  · simp only [demoSetup, Scanner.demoCalls, List.map_cons, List.map_nil, List.cons_append,
      List.nil_append, List.mem_cons, List.not_mem_nil, or_false] at hix
    rcases hix with rfl | rfl | rfl | rfl | rfl | rfl <;> trivial
  · decide +kernel

theorem registered_demo : (run (execTx Scanner.demoRuntime) (genesis Scanner.demoClock demoLedger)
    [demoSetup, [demoSalvage]]).vault.registries Scanner.demoPool = some demoRegistry := by
  decide +kernel

theorem claims_rentExempt_demo :
    (run (execTx Scanner.demoRuntime) (genesis Scanner.demoClock demoLedger)
      [demoSetup, [demoSalvage]]).vault.registries Scanner.demoPool = some demoRegistry ∧
    RentCovered Scanner.demoRuntime (run (execTx Scanner.demoRuntime)
      (genesis Scanner.demoClock demoLedger) [demoSetup, [demoSalvage]]) Scanner.demoPool
      demoRegistry :=
  ⟨registered_demo, (claims_rentExempt Scanner.demoRuntime Scanner.demoClock demoLedger
    [demoSetup, [demoSalvage]] along_demo Scanner.demoPool demoRegistry registered_demo).1⟩

/-- One lamport to the vault of the pool, and the salvage, in one transaction. -/
def dustedSalvage : List Ix :=
  [.systemTransfer demoSalvor (.lpHolderPoolVault Scanner.demoPool) 1, demoSalvage]

/-- The world after a salvage whose bucket a transfer in the same transaction has dusted. -/
def dustedWorld : World :=
  run (execTx Scanner.demoRuntime) (genesis Scanner.demoClock demoLedger)
    [demoSetup, dustedSalvage]

/-- The claim of the one holder, whose proof is empty. -/
def demoClaim : ClaimLpProceedsParams :=
  ⟨Scanner.demoPool, 1000, []⟩

/-- The transaction is committed, the settled pool is not covered, and the claim of the whole
bucket passes its own checks and is executed, but its transaction is rolled back. -/
theorem dustedVault_blocksClaim :
    dustedWorld.vault.registries Scanner.demoPool = some demoRegistry ∧
    ¬RentCovered Scanner.demoRuntime dustedWorld Scanner.demoPool demoRegistry ∧
    claimAmount Machine.sha256 demoRegistry demoClaim demoHolder = .ok (360000000, 360000000) ∧
    (batch (exec Scanner.demoRuntime) dustedWorld
      [.vault (.claimLpProceeds demoClaim demoHolder)]).isOk = true ∧
    (execTx Scanner.demoRuntime dustedWorld
      [.vault (.claimLpProceeds demoClaim demoHolder)]).isOk = false := by
  refine ⟨by decide +kernel, by decide +kernel, by decide +kernel, by decide +kernel,
    by decide +kernel⟩

end GraveYield.World
