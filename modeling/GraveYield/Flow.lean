import GraveYield.Custody
import GraveYield.Lib.Supply
import GraveYield.Rent

/-!
# Where the lamports go

The runtime ends every instruction with the check that the lamports of its accounts add up to
what they were; `Program.balancing` is a program under this check. The vault creates and destroys
no lamports itself : if the programs it calls are balanced, so is every instruction that moves no
rent of the scanner's accounts, and the lamports of any finite set of accounts that a run stays
within are constant (`lamports_conserved`).

Lamports leave the vault's addresses by few ways. A bucket is debited by claims, the holding
account of a pool by its salvage, and nothing debits the others (`vaultDebits_run`). So the
protocol's share of every settlement is still in the treasury (`treasury_holds`).
-/

namespace GraveYield

open Machine Checked Supply

/-! ## Operations -/

namespace Ledger

variable {rt : Runtime} {l l' : Ledger} {a : Account}

/-- The lamports only changed hands. -/
def Conserved (l l' : Ledger) : Prop :=
  Rearranged (fun a => (l a).lamports) fun a => (l' a).lamports

/-- Nothing happened. -/
theorem Conserved.refl (l : Ledger) : Conserved l l :=
  Rearranged.of_eq fun _ => rfl

/-- Two conserving steps conserve. -/
theorem Conserved.trans {l'' : Ledger} (h : Conserved l l') (h' : Conserved l' l'') :
    Conserved l l'' :=
  Rearranged.trans h h'

/-- A move of lamports that are there conserves. -/
theorem Conserved.move {src dst : Account} {n : ℕ} (hle : n ≤ (l src).lamports) :
    Conserved l (l.move src dst n) := by
  by_cases hne : src = dst
  · subst hne
    refine Rearranged.of_eq fun a => ?_
    by_cases ha : a = src
    · subst ha
      simp only [Ledger.move, Function.update_self, AccountState.credit_lamports,
        AccountState.system_lamports]
      omega
    · rw [move_of_ne n ha ha]
  · refine Rearranged.pair hne (fun a hs hd => by rw [move_of_ne n hs hd]) ?_
    rw [move_src n hne, move_dst n hne, AccountState.credit_lamports,
      AccountState.system_lamports]
    omega

/-- A transfer conserves. -/
theorem Conserved.transfer {src dst : Account} {n : ℕ} (h : l.transfer src dst n = .ok l') :
    Conserved l l' := by
  obtain ⟨_, hle, rfl⟩ := transfer_ok_iff.1 h
  exact .move hle

/-- A payment conserves. -/
theorem Conserved.pay {src dst : Account} {n : ℕ} (h : l.pay src dst n = .ok l') :
    Conserved l l' := by
  unfold Ledger.pay at h
  split_ifs at h
  · exact .transfer h
  · rw [pure_ok_iff.1 h]
    exact .refl l'

/-- New data for an account that keeps its lamports. -/
theorem Conserved.update {s : AccountState} (h : s.lamports = (l a).lamports) :
    Conserved l (Function.update l a s) := by
  refine Rearranged.of_eq fun b => ?_
  by_cases hb : b = a
  · subst hb
    rw [Function.update_self, h]
  · rw [Function.update_of_ne hb]

/-- A lazy initialization conserves. -/
theorem Conserved.lazyInitSystemPda {payer pda : Account}
    (h : l.lazyInitSystemPda rt payer pda = .ok l') : Conserved l l' := by
  unfold Ledger.lazyInitSystemPda at h
  split_ifs at h
  · rw [pure_ok_iff.1 h]
    exact .refl l'
  · exact .transfer h

/-- The creation of a record conserves. -/
theorem Conserved.initRecord {payer pda : Account} {size : ℕ}
    (h : l.initRecord rt payer pda size = .ok l') : Conserved l l' := by
  simp only [Ledger.initRecord, bind_ok_iff, require_ok_iff, exists_const, pure_ok_iff] at h
  obtain ⟨_, l₁, ht, rfl⟩ := h
  exact (Conserved.transfer ht).trans (.update (Nat.add_zero _))

/-- The creation of a token account conserves. -/
theorem Conserved.createAta {payer owner : Account} {mint : Pubkey}
    (h : createAta rt l payer owner mint = .ok l') : Conserved l l' := by
  simp only [Ledger.createAta, bind_ok_iff, okOr_ok_iff, Word.ofNat?_eq_some, pure_ok_iff] at h
  obtain ⟨l₁, ht, amount, hamount, rfl⟩ := h
  have hle : amount.val ≤ (l₁ (.ata owner mint)).lamports := by
    split_ifs at hamount <;> omega
  have hwrapped : (AccountData.token (.fresh mint owner amount)).wrapped = amount.val := by
    rw [AccountData.wrapped, TokenAccount.fresh]
    split_ifs at hamount ⊢ with hw
    · rfl
    · exact hamount.symm
  refine (Conserved.transfer ht).trans (.update ?_)
  rw [AccountState.lamports, hwrapped, Nat.sub_add_cancel hle]

/-- `init_if_needed` conserves. -/
theorem Conserved.initAtaIfNeeded {payer owner : Account} {mint : Pubkey}
    (h : initAtaIfNeeded rt l payer owner mint = .ok l') : Conserved l l' := by
  unfold Ledger.initAtaIfNeeded at h
  split_ifs at h
  · exact .createAta h
  · simp only [bind_ok_iff, require_ok_iff, exists_const, pure_ok_iff] at h
    obtain ⟨_, _, _, rfl⟩ := h
    exact .refl l

/-- Wrapped SOL takes its lamports along, other tokens have none. -/
theorem Conserved.tokenTransfer {src dst authority : Account} {amount : U64}
    (h : l.tokenTransfer src dst authority amount = .ok l') : Conserved l l' := by
  rcases TokenInstruction.tokenTransfer_ok h with rfl |
    ⟨s, d, s', sum, hne, hs, hd, _, hmint, hdebit, hsum, rfl⟩
  · exact .refl l'
  · obtain ⟨hmint', hamount⟩ := TokenInstruction.debit_amount hdebit
    refine Rearranged.pair hne (fun x hx hx' => ?_) ?_
    · rw [Ledger.setToken, Function.update_of_ne hx', Ledger.setToken,
        Function.update_of_ne hx]
    · simp only [Ledger.setToken, Function.update_self, Function.update_of_ne hne,
        Function.update_of_ne (Ne.symm hne), AccountState.lamports, hs, hd, AccountData.wrapped,
        hmint', hmint]
      split_ifs <;> omega

/-- Closing a token account conserves. -/
theorem Conserved.closeAccount {account dst authority : Account}
    (h : l.closeAccount account dst authority = .ok l') : Conserved l l' := by
  obtain ⟨hne, _, _, _, _, rfl⟩ := closeAccount_ok_iff.1 h
  refine Rearranged.pair hne (fun x hx hx' => ?_) ?_
  · rw [Function.update_of_ne hx, Function.update_of_ne hx']
  · rw [Function.update_self, Function.update_of_ne (Ne.symm hne), Function.update_self,
      AccountState.credit_lamports, AccountState.system_lamports]
    omega

/-- Whatever paid conserves. -/
theorem Conserved.paid {src dst : Account} {n : ℕ} (h : Paid l src dst n l') (hne : src ≠ dst) :
    Conserved l l' := by
  refine Rearranged.pair hne (fun a hs hd => by rw [h.frame a hs hd]) ?_
  have hdebit := h.debited
  have hcredit := h.credited
  omega

end Ledger

/-! ## Called programs -/

/-- The calls of the program create and destroy no lamports. -/
def Program.Balanced (program : Program) : Prop :=
  ∀ metas data l l', program.call metas data l = some l' → Ledger.Conserved l l'

/-- The program under the check of the runtime : a call after which the lamports of its accounts
do not add up to what they were fails. -/
def Program.balancing (program : Program) : Program where
  call metas data l := (program.call metas data l).filter fun l' =>
    ∑ a ∈ (metas.map AccountMeta.account).toFinset, (l' a).lamports =
      ∑ a ∈ (metas.map AccountMeta.account).toFinset, (l a).lamports
  frame h := program.frame (Option.filter_eq_some_iff.1 h).1
  custody h := program.custody (Option.filter_eq_some_iff.1 h).1

/-- A program that hands back what it changed is balanced. -/
theorem Program.balanced_balancing (program : Program) : program.balancing.Balanced := by
  intro metas data l l' h
  obtain ⟨hcall, hsum⟩ := Option.filter_eq_some_iff.1 h
  refine ⟨_, fun a ha => congrArg _ (program.frame hcall a ?_), of_decide_eq_true hsum⟩
  rintro ⟨m, hm, rfl, _⟩
  exact ha (List.mem_toFinset.2 (List.mem_map_of_mem hm))

namespace World

open Vault

variable {rt : Runtime} {w w' : World} {ix : Ix}

/-- The programs that an instruction calls are balanced, and the ledger follows all lamports that it
moves. -/
def Balanced : Ix → Prop
  | .vault (.salvagePool _ _ programs) =>
    programs.raydiumV4.Balanced ∧ programs.jupiterV6.Balanced
  | .external program _ _ => program.Balanced
  | ix => movesRent ix = false

/-! ## Instructions -/

/-- A salvage with balanced programs conserves. -/
theorem salvage_conserved {clock : Clock} {cert? : Option Scanner.EligibilityCert}
    {v v' : Vault.State} {l l' : Ledger} {params : SalvagePoolParams} {accounts : SalvageAccounts}
    {programs : Programs} (hb : programs.raydiumV4.Balanced ∧ programs.jupiterV6.Balanced)
    (h : salvagePool rt clock cert? v l params accounts programs = .ok (v', l')) :
    Ledger.Conserved l l' := by
  obtain ⟨p, l₁, removal, l₂, s, dust, h1, h2, h3, h4, _⟩ := salvagePool_ok h
  obtain ⟨k₁, k₂, hopen, hlp, hsol⟩ := prepare_ledgers h1
  obtain ⟨n₁, n₂, n₃, hn1, hn2, hn3, hn4⟩ := openAccounts_ledgers hopen
  obtain ⟨m₁, m₂, m₃, hclose, hp1, hp2, hp3⟩ := settle_ledgers h4
  have hopened : Ledger.Conserved l k₁ :=
    ((Ledger.Conserved.initRecord hn1).trans (.initRecord hn2)).trans
      ((Ledger.Conserved.initAtaIfNeeded hn3).trans (.initAtaIfNeeded hn4))
  have hprepared : Ledger.Conserved k₁ p.ledger :=
    (Ledger.Conserved.lazyInitSystemPda hlp).trans (.lazyInitSystemPda hsol)
  have hwithdrawn : Ledger.Conserved p.ledger l₁ :=
    hb.1 _ _ _ _ (dispatchRemoveLiquidity_ok h2).2.2
  have hswapped : Ledger.Conserved l₁ l₂ := by
    rcases swapLeg_cases h3 with ⟨_, rfl⟩ | ⟨_, _, hcall⟩
    · exact .refl _
    · exact hb.2 _ _ _ _ hcall
  have hsettled : Ledger.Conserved l₂ l' :=
    (Ledger.Conserved.closeAccount hclose).trans ((Ledger.Conserved.paid hp1 (by simp)).trans
      ((Ledger.Conserved.paid hp2 (by simp)).trans (.paid hp3 (by simp))))
  exact hopened.trans (hprepared.trans (hwithdrawn.trans (hswapped.trans hsettled)))

/-- The ledgers that a claim goes through. -/
theorem claimLpProceeds_ledgers {clock : Clock} {v v' : Vault.State} {l l' : Ledger}
    {params : ClaimLpProceedsParams} {lpHolder : Pubkey}
    (h : claimLpProceeds rt clock v l params lpHolder = .ok (v', l')) :
    ∃ l₁ amount, l.initRecord rt (.key lpHolder) (.claimRecord params.poolAddress lpHolder)
        ClaimRecord.size = .ok l₁ ∧
      l₁.pay (.lpHolderPoolVault params.poolAddress) (.key lpHolder) amount = .ok l' := by
  simp only [claimLpProceeds, bind_ok_iff, pure_ok_iff, Prod.exists, Prod.mk.injEq] at h
  obtain ⟨_, _, _, _, l₁, h1, _, _, amount, _, _, l₂, h2, _, rfl⟩ := h
  exact ⟨l₁, _, h1, h2⟩

/-- The ledgers that a sweep goes through. -/
theorem sweepDust_ledgers {clock : Clock} {v v' : Vault.State} {l l' : Ledger}
    {pool mint sweeper : Pubkey}
    (h : sweepDust rt clock v l pool mint sweeper = .ok (v', l')) :
    ∃ l₁ l₂ amount, l.initAtaIfNeeded rt (.key sweeper) .protocolTreasury mint = .ok l₁ ∧
      l₁.tokenTransfer (.ata .vaultAuthority mint) (.ata .protocolTreasury mint) .vaultAuthority
        amount = .ok l₂ ∧
      l₂.closeAccount (.ata .vaultAuthority mint) (.key sweeper) .vaultAuthority = .ok l' := by
  simp only [sweepDust, bind_ok_iff, pure_ok_iff, Prod.mk.injEq] at h
  obtain ⟨_, _, _, _, _, _, l₁, h1, _, _, _, _, _, _, _, _, l₂, h2, l₃, h3, _, rfl⟩ := h
  exact ⟨l₁, l₂, _, h1, h2, h3⟩

/-- The instructions of the vault conserve, if those that call programs call balanced ones. -/
theorem conserved_execVault {call : Vault.Call} {v : Vault.State} {l : Ledger}
    (hb : Balanced (.vault call)) (h : execVault rt w call = .ok (v, l)) :
    Ledger.Conserved w.ledger l := by
  cases call with
  | initializeProtocol params payer => exact .initRecord (initializeProtocol_ok h).2.1
  | updateProtocolConfig params authority =>
    simp only [execVault, bind_ok_iff, pure_ok_iff, Prod.mk.injEq] at h
    obtain ⟨_, _, _, rfl⟩ := h
    exact .refl _
  | emergencyPause paused authority =>
    simp only [execVault, bind_ok_iff, pure_ok_iff, Prod.mk.injEq] at h
    obtain ⟨_, _, _, rfl⟩ := h
    exact .refl _
  | salvagePool params accounts programs => exact salvage_conserved hb h
  | claimLpProceeds params lpHolder =>
    obtain ⟨_, _, h1, h2⟩ := claimLpProceeds_ledgers h
    exact (Ledger.Conserved.initRecord h1).trans (.pay h2)
  | sweepDust pool mint sweeper =>
    obtain ⟨_, _, _, h1, h2, h3⟩ := sweepDust_ledgers h
    exact (Ledger.Conserved.initAtaIfNeeded h1).trans
      ((Ledger.Conserved.tokenTransfer h2).trans (.closeAccount h3))

/-- A balanced instruction conserves the lamports. -/
theorem conserved_exec (hb : Balanced ix) (h : exec rt w ix = .ok w') :
    Ledger.Conserved w.ledger w'.ledger := by
  cases ix with
  | scanner call =>
    obtain ⟨_, _, rfl⟩ := scanner_ok_iff.1 h
    exact .refl _
  | vault call =>
    obtain ⟨v, l, hcall, rfl⟩ := vault_ok_iff.1 h
    exact conserved_execVault hb hcall
  | systemTransfer src dst amount =>
    obtain ⟨l, ht, rfl⟩ := systemTransfer_ok_iff.1 h
    exact .transfer ht
  | external program metas data =>
    obtain ⟨_, l, hcall, rfl⟩ := external_ok_iff.1 h
    exact hb _ _ _ _ hcall

/-- Lamports are neither created nor destroyed : in every run of calls of the vault, transfers and
other programs, whose called programs are balanced, and of calls of the scanner that open and close
no account, the lamports of any finite set of accounts that holds all those the instructions name
add up to what they were. -/
theorem lamports_conserved (rt : Runtime) (w : World) (ixs : List Ix)
    (hb : ∀ ix ∈ ixs, Balanced ix) (accounts : Finset Account)
    (hall : ∀ ix ∈ ixs, ∀ a ∈ touches ix, a ∈ accounts) :
    ∑ a ∈ accounts, ((run (exec rt) w ixs).ledger a).lamports =
      ∑ a ∈ accounts, (w.ledger a).lamports := by
  refine @run_invariant_of_along _ _ _ _
    (fun u : World => ∑ a ∈ accounts, (u.ledger a).lamports = ∑ a ∈ accounts, (w.ledger a).lamports)
    (fun _ ix => ix ∈ ixs) ?_ w ixs rfl (alongRun_of_forall fun _ _ hi => hi)
  intro u ix u' hu hix h
  rw [← hu]
  exact (conserved_exec (hb ix hix) h).sum_eq fun a ha => by
    rw [ledger_frame h fun hmem => ha (hall ix hix a hmem)]

/-- The demonstration salvage, its programs under the check of the runtime. -/
def balancedSalvage : Ix :=
  .vault (.salvagePool demoSalvageParams demoSalvageAccounts
    ⟨demoRaydium.balancing, (Program.writing []).balancing⟩)

/-- The world in which the demonstration pool is certified. -/
def certifiedWorld : World :=
  run (exec Scanner.demoRuntime) (genesis Scanner.demoClock demoLedger) demoSetup

/-- A pause of the scanner, a squatting transfer, the salvage, and the claim of its one holder. -/
def balancedRun : List Ix :=
  [.scanner (.emergencyPause true Scanner.demoAuthority),
    .systemTransfer demoSalvor (.claimRecord Scanner.demoPool demoHolder) 5, balancedSalvage,
    .vault (.claimLpProceeds demoClaim demoHolder)]

/-- The accounts that the run names. -/
def demoAccounts : Finset Account :=
  (balancedRun.flatMap touches).toFinset

theorem isOk_balancedRun :
    (batch (exec Scanner.demoRuntime) certifiedWorld balancedRun).isOk = true := by
  decide +kernel

/-- No instruction of the run moves rent of the scanner, and none calls an unbalanced program. -/
theorem balanced_demo : ∀ ix ∈ balancedRun, Balanced ix := by
  intro ix hix
  simp only [balancedRun, List.mem_cons, List.not_mem_nil, or_false] at hix
  rcases hix with rfl | rfl | rfl | rfl
  · rfl
  · rfl
  · exact ⟨Program.balanced_balancing _, Program.balanced_balancing _⟩
  · rfl

/-- The accounts that the run names have as many lamports after it as before. -/
theorem lamports_conserved_demo :
    (batch (exec Scanner.demoRuntime) certifiedWorld balancedRun).isOk = true ∧
    ∑ a ∈ demoAccounts, ((run (exec Scanner.demoRuntime) certifiedWorld balancedRun).ledger
      a).lamports = ∑ a ∈ demoAccounts, (certifiedWorld.ledger a).lamports :=
  ⟨isOk_balancedRun, lamports_conserved Scanner.demoRuntime certifiedWorld balancedRun
    balanced_demo demoAccounts fun _ hix _ ha =>
      List.mem_toFinset.2 (List.mem_flatMap.2 ⟨_, hix, ha⟩)⟩

/-! ## Debits -/

section Debits

variable {l l' : Ledger} {a payer pda : Account}

/-- A new record takes lamports of its payer only. -/
theorem le_initRecord {size : ℕ} (h : l.initRecord rt payer pda size = .ok l') (ha : a ≠ payer) :
    (l a).lamports ≤ (l' a).lamports := by
  simp only [Ledger.initRecord, bind_ok_iff, require_ok_iff, exists_const, pure_ok_iff] at h
  obtain ⟨_, l₁, ht, rfl⟩ := h
  obtain ⟨_, _, rfl⟩ := Ledger.transfer_ok_iff.1 ht
  have hmove : (l a).lamports ≤ (l.move payer pda
      ((rt.rentMinimumBalance size).val - (l pda).lamports) a).lamports :=
    (Ledger.move_keeps _ ha).lamports
  refine hmove.trans (le_of_eq ?_)
  by_cases hp : a = pda
  · subst hp
    rw [Function.update_self]
    rfl
  · rw [Function.update_of_ne hp]

/-- A lazy initialization takes lamports of its payer only. -/
theorem le_lazyInitSystemPda (h : l.lazyInitSystemPda rt payer pda = .ok l') (ha : a ≠ payer) :
    (l a).lamports ≤ (l' a).lamports := by
  unfold Ledger.lazyInitSystemPda at h
  split_ifs at h
  · rw [pure_ok_iff.1 h]
  · obtain ⟨_, _, rfl⟩ := Ledger.transfer_ok_iff.1 h
    exact (Ledger.move_keeps _ ha).lamports

/-- A payment takes lamports of its source only. -/
theorem le_paid {src dst : Account} {n : ℕ} (h : Ledger.Paid l src dst n l') (ha : a ≠ src) :
    (l a).lamports ≤ (l' a).lamports := by
  by_cases hd : a = dst
  · subst hd
    rw [h.credited]
    exact Nat.le_add_right _ _
  · rw [h.frame a ha hd]

/-- Up to its last payment, to the treasury, a salvage debits the holding account of its pool, and
no other address of the vault. -/
theorem le_salvage_paid {clock : Clock} {cert? : Option Scanner.EligibilityCert}
    {v v' : Vault.State} {params : SalvagePoolParams} {accounts : SalvageAccounts}
    {programs : Programs}
    (h : salvagePool rt clock cert? v l params accounts programs = .ok (v', l'))
    (ha : a.isVaultPda = true) (hne : a ≠ .vaultAuthority)
    (hsol : a ≠ .vaultSolHolding params.poolAddress) :
    ∃ l₃ s dust, Ledger.Paid l₃ (.vaultSolHolding params.poolAddress) .protocolTreasury
        s.protocolShare.val l' ∧
      (l a).lamports ≤ (l₃ a).lamports ∧
      v'.receipts = Function.update v.receipts params.poolAddress
        (some (newReceipt clock params accounts s dust)) := by
  obtain ⟨p, l₁, removal, l₂, s, dust, h1, h2, h3, h4, hv⟩ := salvagePool_ok h
  obtain ⟨k₁, k₂, hopen, hk2, hk3⟩ := prepare_ledgers h1
  obtain ⟨n₁, n₂, n₃, hn1, hn2, hn3, hn4⟩ := openAccounts_ledgers hopen
  obtain ⟨m₁, m₂, m₃, hclose, hp1, hp2, hp3⟩ := settle_ledgers h4
  obtain ⟨_, _, _, _, _, rfl⟩ := Ledger.closeAccount_ok_iff.1 hclose
  have hkey : ∀ k, a ≠ .key k := by
    rintro k rfl
    cases ha
  have hata : ∀ owner mint, a ≠ .ata owner mint := by
    rintro owner mint rfl
    cases ha
  have hclosed : (l₂ a).lamports ≤ (m₂ a).lamports := by
    have hbase : a ≠ vaultBaseAta := hata _ _
    refine le_trans (le_of_eq ?_) (le_paid hp1 hsol)
    rw [Function.update_of_ne hbase, Function.update_of_ne hsol]
  refine ⟨m₃, s, dust, hp3, ?_, by rw [hv]⟩
  calc (l a).lamports ≤ (n₁ a).lamports := le_initRecord hn1 (hkey _)
    _ ≤ (n₂ a).lamports := le_initRecord hn2 (hkey _)
    _ = (k₁ a).lamports := by
      rw [Ledger.initAtaIfNeeded_frame hn4 (hkey _) (hata _ _),
        Ledger.initAtaIfNeeded_frame hn3 (hkey _) (hata _ _)]
    _ ≤ (k₂ a).lamports := le_lazyInitSystemPda hk2 (hkey _)
    _ ≤ (p.ledger a).lamports := le_lazyInitSystemPda hk3 (hkey _)
    _ ≤ (l₁ a).lamports := (dispatchRemoveLiquidity_keeps h2 ha).lamports
    _ ≤ (l₂ a).lamports := (swapLeg_keeps h3 (prepare_ok h1).1.unsigned ha hne).lamports
    _ ≤ (m₂ a).lamports := hclosed
    _ ≤ (m₃ a).lamports := le_paid hp2 hsol

/-- What a salvage takes from the accounts of the vault. -/
theorem le_salvage {clock : Clock} {cert? : Option Scanner.EligibilityCert} {v v' : Vault.State}
    {params : SalvagePoolParams} {accounts : SalvageAccounts} {programs : Programs}
    (h : salvagePool rt clock cert? v l params accounts programs = .ok (v', l'))
    (ha : a.isVaultPda = true) (hne : a ≠ .vaultAuthority)
    (hsol : a ≠ .vaultSolHolding params.poolAddress) : (l a).lamports ≤ (l' a).lamports := by
  obtain ⟨_, _, _, hpaid, hle, _⟩ := le_salvage_paid h ha hne hsol
  exact hle.trans (le_paid hpaid hsol)

end Debits

/-- An instruction that debits an address of the vault other than its authority is a claim on the
bucket, or the salvage of the holding account's pool. -/
theorem debits_exec (h : exec rt w ix = .ok w') {a : Account} (ha : a.isVaultPda = true)
    (hne : a ≠ .vaultAuthority) :
    (w.ledger a).lamports ≤ (w'.ledger a).lamports ∨
      (∃ params lpHolder, ix = .vault (.claimLpProceeds params lpHolder) ∧
        a = .lpHolderPoolVault params.poolAddress) ∨
      ∃ params accounts programs, ix = .vault (.salvagePool params accounts programs) ∧
        a = .vaultSolHolding params.poolAddress := by
  have hkey : ∀ k, a ≠ .key k := by
    rintro k rfl
    cases ha
  have hata : ∀ owner mint, a ≠ .ata owner mint := by
    rintro owner mint rfl
    cases ha
  cases ix with
  | scanner call =>
    obtain ⟨_, _, rfl⟩ := scanner_ok_iff.1 h
    exact Or.inl le_rfl
  | systemTransfer src dst amount =>
    obtain ⟨l, ht, rfl⟩ := systemTransfer_ok_iff.1 h
    obtain ⟨_, _, rfl⟩ := Ledger.transfer_ok_iff.1 ht
    exact Or.inl (Ledger.move_keeps _ (hkey _)).lamports
  | external program metas data =>
    obtain ⟨hu, l, hcall, rfl⟩ := external_ok_iff.1 h
    exact Or.inl (program.custody hcall a ha (not_signs_external hu ha)).lamports
  | vault call =>
    obtain ⟨v, l, hcall, rfl⟩ := vault_ok_iff.1 h
    clear h
    rcases execVault_cases hcall with ⟨_, rfl | ⟨payer, hl⟩⟩ |
      ⟨params, accounts, programs, rfl, hsalvage⟩ | ⟨params, lpHolder, rfl, hclaim⟩ |
      ⟨pool, mint, sweeper, rfl, hsweep⟩
    · exact Or.inl le_rfl
    · exact Or.inl (le_initRecord hl (hkey _))
    · by_cases hsol : a = .vaultSolHolding params.poolAddress
      · exact Or.inr (Or.inr ⟨params, accounts, programs, rfl, hsol⟩)
      · exact Or.inl (le_salvage hsalvage ha hne hsol)
    · by_cases hv : a = .lpHolderPoolVault params.poolAddress
      · exact Or.inr (Or.inl ⟨params, lpHolder, rfl, hv⟩)
      · obtain ⟨l₁, amount, h1, h2⟩ := claimLpProceeds_ledgers hclaim
        exact Or.inl ((le_initRecord h1 (hkey _)).trans
          (le_paid (Ledger.pay_ok h2 (by simp)) hv))
    · obtain ⟨_, _, _, _, _, hframe⟩ := sweepDust_ok hsweep
      exact Or.inl (congrArg _ (hframe a (hkey _) (hata _ _) (hata _ _))).ge

end World

/-- The treasury and the records of the vault. -/
def Account.isLocked : Account → Bool
  | .vaultConfig | .poolRegistry _ | .salvageReceipt _ | .claimRecord _ _ | .protocolTreasury =>
    true
  | _ => false

namespace World

/-- Where the lamports of the vault can go. In every run, a bucket is debited only by a claim on
its pool, a holding account only by the salvage of its pool, and nothing ever debits the treasury
or the account of a record : neither program has an instruction that withdraws protocol fees or
closes a record. -/
theorem vaultDebits_run (rt : Runtime) (clock : Clock) (ledger : Ledger) (ixs : List Ix) :
    let w := run (exec rt) (genesis clock ledger) ixs
    (∀ ix w' a, exec rt w ix = .ok w' → a.isVaultPda = true → a ≠ .vaultAuthority →
      (w.ledger a).lamports ≤ (w'.ledger a).lamports ∨
        (∃ params lpHolder, ix = .vault (.claimLpProceeds params lpHolder) ∧
          a = .lpHolderPoolVault params.poolAddress) ∨
        ∃ params accounts programs, ix = .vault (.salvagePool params accounts programs) ∧
          a = .vaultSolHolding params.poolAddress) ∧
    ∀ a, a.isLocked = true → ∀ later,
      (w.ledger a).lamports ≤ ((run (exec rt) w later).ledger a).lamports := by
  intro w
  refine ⟨fun ix w' a h => debits_exec h, fun a ha later => ?_⟩
  refine run_rel (I := fun _ => True) (R := fun u u' : World =>
    (u.ledger a).lamports ≤ (u'.ledger a).lamports) (fun _ => le_rfl) (fun _ _ _ => le_trans)
    (fun u ix u' _ h => ⟨trivial, ?_⟩) trivial later
  have hpda : a.isVaultPda = true ∧ a ≠ .vaultAuthority := by
    cases a with
    | vaultAuthority => cases ha
    | key k => cases ha
    | ata owner mint => cases ha
    | eligibilityCert amm pool => cases ha
    | _ => exact ⟨rfl, by simp⟩
  rcases debits_exec h hpda.1 hpda.2 with hle | ⟨_, _, _, rfl⟩ | ⟨_, _, _, _, rfl⟩
  · exact hle
  · cases ha
  · cases ha

/-! ## What the treasury holds -/

open Vault

/-- The protocol's share in the receipt of a pool. -/
def protocolFee (v : Vault.State) (pool : Pubkey) : ℕ :=
  (v.receipts pool).elim 0 fun receipt => receipt.protocolAmountLamports.val

/-- The fees of the settled pools are in the treasury, on top of what was there. -/
def FeesHeld (base : ℕ) (w : World) : Prop :=
  ∀ pools : Finset Pubkey,
    base + ∑ pool ∈ pools, protocolFee w.vault pool ≤ (w.ledger .protocolTreasury).lamports

variable {rt : Runtime} {w w' : World} {ix : Ix} {base : ℕ}

/-- A step that keeps the fees, and takes nothing from the treasury, keeps the bound. -/
theorem FeesHeld.mono (hf : FeesHeld base w)
    (hfees : ∀ pool, protocolFee w'.vault pool = protocolFee w.vault pool)
    (hle : (w.ledger .protocolTreasury).lamports ≤ (w'.ledger .protocolTreasury).lamports) :
    FeesHeld base w' := by
  intro pools
  simp only [hfees]
  exact (hf pools).trans hle

/-- A salvage adds its fee to the treasury, and no other fee changes. -/
theorem feesHeld_salvage {clock : Clock} {cert? : Option Scanner.EligibilityCert}
    {params : SalvagePoolParams} {accounts : SalvageAccounts} {programs : Programs}
    (hf : FeesHeld base w)
    (h : salvagePool rt clock cert? w.vault w.ledger params accounts programs =
      .ok (w'.vault, w'.ledger)) : FeesHeld base w' := by
  obtain ⟨l₃, s, dust, hpaid, hle, hreceipts⟩ :=
    le_salvage_paid (a := .protocolTreasury) h rfl (by simp) (by simp)
  obtain ⟨_, _, _, hpre, _⟩ := salvagePool_effect h
  have hfee : ∀ pool, protocolFee w'.vault pool = protocolFee w.vault pool +
      if pool = params.poolAddress then s.protocolShare.val else 0 := by
    intro pool
    unfold protocolFee
    rw [hreceipts]
    by_cases hp : pool = params.poolAddress
    · rw [hp, Function.update_self, hpre.receipt, if_pos rfl]
      exact (Nat.zero_add _).symm
    · rw [Function.update_of_ne hp, if_neg hp, Nat.add_zero]
  intro pools
  have hsum : ∑ pool ∈ pools, protocolFee w'.vault pool ≤
      ∑ pool ∈ pools, protocolFee w.vault pool + s.protocolShare.val := by
    simp only [hfee, Finset.sum_add_distrib, Finset.sum_ite_eq']
    split_ifs <;> omega
  have hheld := hf pools
  rw [hpaid.credited]
  omega

/-- Every step keeps the bound. -/
theorem feesHeld_step (hf : FeesHeld base w) (h : exec rt w ix = .ok w') : FeesHeld base w' := by
  have hle : (w.ledger .protocolTreasury).lamports ≤ (w'.ledger .protocolTreasury).lamports := by
    rcases debits_exec h (a := .protocolTreasury) rfl (by simp) with hle | ⟨_, _, _, ha⟩ |
      ⟨_, _, _, _, ha⟩
    · exact hle
    · cases ha
    · cases ha
  rcases exec_cases h with
    hn | ⟨_, _, _, _, hsalvage⟩ | ⟨_, _, _, hclaim⟩ | ⟨swept, _, _, _, hsweep⟩
  · exact hf.mono (fun pool => by rw [protocolFee, hn.receipts, protocolFee]) hle
  · exact feesHeld_salvage hf hsalvage
  · obtain ⟨_, _, _, _, _, _, _, _, _, hv, _⟩ := claimLpProceeds_ok hclaim
    exact hf.mono (fun pool => by rw [hv, protocolFee, protocolFee]) hle
  · obtain ⟨receipt, hreceipt, _, _, hv, _⟩ := sweepDust_ok hsweep
    have hreceipts : w'.vault.receipts = Function.update w.vault.receipts swept
        (some { receipt with dustSweptAtTs := w.scanner.clock.unixTimestamp }) := by rw [hv]
    refine hf.mono (fun pool => ?_) hle
    rw [protocolFee, protocolFee, hreceipts]
    by_cases hp : pool = swept
    · rw [hp, Function.update_self, hreceipt]
      rfl
    · rw [Function.update_of_ne hp]

/-- The protocol's fees are all there. In every run of both programs and any others, the treasury
holds the protocol's share of every receipt, of any set of pools, on top of what it held in the
beginning. -/
theorem treasury_holds (rt : Runtime) (clock : Clock) (ledger : Ledger) (ixs : List Ix)
    (pools : Finset Pubkey) :
    let w := run (exec rt) (genesis clock ledger) ixs
    (ledger .protocolTreasury).lamports + ∑ pool ∈ pools, protocolFee w.vault pool ≤
      (w.ledger .protocolTreasury).lamports := by
  intro w
  have hrun : FeesHeld (ledger .protocolTreasury).lamports w := by
    refine run_invariant (I := FeesHeld (ledger .protocolTreasury).lamports)
      (fun _ _ _ => feesHeld_step) (fun pools => ?_) ixs
    have hnone : ∑ pool ∈ pools, protocolFee (genesis clock ledger).vault pool = 0 :=
      Finset.sum_eq_zero fun _ _ => rfl
    rw [hnone]
    exact le_rfl
  exact hrun pools

end World

end GraveYield
