import GraveYield.Certification
import GraveYield.Salvage

/-!
# The two programs on one chain

A `World` is the state of the scanner, the state of the vault and the ledger. Its steps are the
calls of both programs, plain system transfers, and instructions of every other program : these
do what the runtime lets them do (`Program`), and nobody signs for the vault's addresses in them.
The steps of a run come in any order; a failing one changes nothing. The ledger does not hold the
scanner's accounts, nor does it follow what their payers give and get back as rent.

`exec_cases` says what a step can do to the vault's pool accounts and to the LP holders' vaults.
The scanner of a run of the world is a run of the scanner (`scanner_run`).
-/

namespace GraveYield

open Machine Checked

namespace Vault

/-- A call of the vault. -/
inductive Call where
  | initializeProtocol (params : InitializeParams) (payer : Pubkey)
  | updateProtocolConfig (params : UpdateProtocolConfigParams) (authority : Pubkey)
  | emergencyPause (paused : Bool) (authority : Pubkey)
  | salvagePool (params : SalvagePoolParams) (accounts : SalvageAccounts) (programs : Programs)
  | claimLpProceeds (params : ClaimLpProceedsParams) (lpHolder : Pubkey)
  | sweepDust (pool memecoinMint sweeper : Pubkey)

end Vault

/-- Both programs and the ledger. -/
structure World where
  scanner : Scanner.State
  vault : Vault.State
  ledger : Ledger

/-- An instruction. -/
inductive Ix where
  | scanner (call : Scanner.Call)
  | vault (call : Vault.Call)
  | systemTransfer (src : Pubkey) (dst : Account) (amount : ℕ)
  | external (program : Program) (metas : List AccountMeta) (data : List Byte)

namespace World

/-- Before any instruction of either program, with any ledger. -/
def genesis (clock : Clock) (ledger : Ledger) : World :=
  ⟨Scanner.State.genesis clock, Vault.State.genesis, ledger⟩

/-- One call of the vault. Its cert is the one the scanner holds for the seeds. -/
def execVault (rt : Runtime) (w : World) :
    Vault.Call → Except ProgramError (Vault.State × Ledger)
  | .initializeProtocol params payer =>
    Vault.initializeProtocol rt w.vault w.ledger params payer
  | .updateProtocolConfig params authority => do
    return (← Vault.updateProtocolConfig w.vault params authority, w.ledger)
  | .emergencyPause paused authority => do
    return (← Vault.emergencyPause w.vault paused authority, w.ledger)
  | .salvagePool params accounts programs =>
    Vault.salvagePool rt w.scanner.clock
      (w.scanner.certs (params.ammProgramId, params.poolAddress)) w.vault w.ledger params accounts
      programs
  | .claimLpProceeds params lpHolder =>
    Vault.claimLpProceeds rt w.scanner.clock w.vault w.ledger params lpHolder
  | .sweepDust pool memecoinMint sweeper =>
    Vault.sweepDust rt w.scanner.clock w.vault w.ledger pool memecoinMint sweeper

/-- One instruction. -/
def exec (rt : Runtime) (w : World) : Ix → Except ProgramError World
  | .scanner call => do
    let scanner ← Scanner.exec rt w.scanner call
    return { w with scanner }
  | .vault call => do
    let (vault, ledger) ← execVault rt w call
    return { w with vault, ledger }
  | .systemTransfer src dst amount => do
    let ledger ← w.ledger.transfer (.key src) dst amount
    return { w with ledger }
  | .external program metas data => do
    require (∀ m ∈ metas, m.isSigner = true → m.account.isVaultPda = false) (.fault .constraint)
    let ledger ← okOr (program.call metas data w.ledger) (.fault .cpiFailed)
    return { w with ledger }

/-! ## What an instruction can change -/

variable {rt : Runtime} {w w' : World} {ix : Ix}

theorem scanner_ok_iff {call : Scanner.Call} :
    exec rt w (.scanner call) = .ok w' ↔
      ∃ s, Scanner.exec rt w.scanner call = .ok s ∧ { w with scanner := s } = w' := by
  simp only [exec, bind_ok_iff, pure_ok_iff]

theorem vault_ok_iff {call : Vault.Call} :
    exec rt w (.vault call) = .ok w' ↔
      ∃ v l, execVault rt w call = .ok (v, l) ∧ { w with vault := v, ledger := l } = w' := by
  simp only [exec, bind_ok_iff, pure_ok_iff, Prod.exists]

theorem systemTransfer_ok_iff {src : Pubkey} {dst : Account} {amount : ℕ} :
    exec rt w (.systemTransfer src dst amount) = .ok w' ↔
      ∃ l, w.ledger.transfer (.key src) dst amount = .ok l ∧ { w with ledger := l } = w' := by
  simp only [exec, bind_ok_iff, pure_ok_iff]

theorem external_ok_iff {program : Program} {metas : List AccountMeta} {data : List Byte} :
    exec rt w (.external program metas data) = .ok w' ↔
      (∀ m ∈ metas, m.isSigner = true → m.account.isVaultPda = false) ∧
        ∃ l, program.call metas data w.ledger = some l ∧ { w with ledger := l } = w' := by
  simp only [exec, bind_ok_iff, require_ok_iff, exists_const, okOr_ok_iff, pure_ok_iff]

/-- No address of the vault signs a call from outside. -/
theorem not_signs_external {metas : List AccountMeta} {a : Account}
    (h : ∀ m ∈ metas, m.isSigner = true → m.account.isVaultPda = false)
    (ha : a.isVaultPda = true) : ¬Signs metas a := by
  rintro ⟨m, hm, rfl, hs⟩
  rw [h m hm hs] at ha
  cases ha

/-- A call of the vault is a salvage, a claim or a sweep, or it leaves the pool accounts alone and
at most opens the account of the configuration. -/
theorem execVault_cases {call : Vault.Call} {v : Vault.State} {l : Ledger}
    (h : execVault rt w call = .ok (v, l)) :
    ((v.registries = w.vault.registries ∧ v.receipts = w.vault.receipts ∧
        v.claimRecords = w.vault.claimRecords) ∧
      (l = w.ledger ∨ ∃ payer, w.ledger.initRecord rt (.key payer) .vaultConfig
        Vault.ProtocolConfig.size = .ok l)) ∨
    (∃ params accounts programs, call = .salvagePool params accounts programs ∧
      Vault.salvagePool rt w.scanner.clock
        (w.scanner.certs (params.ammProgramId, params.poolAddress)) w.vault w.ledger params
        accounts programs = .ok (v, l)) ∨
    (∃ params lpHolder, call = .claimLpProceeds params lpHolder ∧
      Vault.claimLpProceeds rt w.scanner.clock w.vault w.ledger params lpHolder = .ok (v, l)) ∨
    ∃ pool mint sweeper, call = .sweepDust pool mint sweeper ∧
      Vault.sweepDust rt w.scanner.clock w.vault w.ledger pool mint sweeper = .ok (v, l) := by
  cases call with
  | initializeProtocol params payer =>
    obtain ⟨_, hl, _, _, rfl⟩ := Vault.initializeProtocol_ok h
    exact Or.inl ⟨⟨rfl, rfl, rfl⟩, Or.inr ⟨payer, hl⟩⟩
  | updateProtocolConfig params authority =>
    simp only [execVault, bind_ok_iff, pure_ok_iff, Prod.mk.injEq] at h
    obtain ⟨_, h, rfl, rfl⟩ := h
    obtain ⟨_, _, _, _, _, rfl⟩ := Vault.updateProtocolConfig_ok h
    exact Or.inl ⟨⟨rfl, rfl, rfl⟩, Or.inl rfl⟩
  | emergencyPause paused authority =>
    simp only [execVault, bind_ok_iff, pure_ok_iff, Prod.mk.injEq] at h
    obtain ⟨_, h, rfl, rfl⟩ := h
    obtain ⟨_, _, _, _, rfl⟩ := Vault.emergencyPause_ok h
    exact Or.inl ⟨⟨rfl, rfl, rfl⟩, Or.inl rfl⟩
  | salvagePool params accounts programs =>
    exact Or.inr (Or.inl ⟨params, accounts, programs, rfl, h⟩)
  | claimLpProceeds params lpHolder =>
    exact Or.inr (Or.inr (Or.inl ⟨params, lpHolder, rfl, h⟩))
  | sweepDust pool mint sweeper =>
    exact Or.inr (Or.inr (Or.inr ⟨pool, mint, sweeper, rfl, h⟩))

/-- A step that leaves the pool accounts alone and debits no vault of the LP holders. -/
structure Neutral (w w' : World) : Prop where
  registries : w'.vault.registries = w.vault.registries
  receipts : w'.vault.receipts = w.vault.receipts
  claimRecords : w'.vault.claimRecords = w.vault.claimRecords
  keeps : ∀ pool, Ledger.Keeps (.lpHolderPoolVault pool) w.ledger w'.ledger

/-- A step is a salvage, a claim or a sweep, or it is neutral. -/
theorem exec_cases (h : exec rt w ix = .ok w') :
    Neutral w w' ∨
    (∃ params accounts programs, ix = .vault (.salvagePool params accounts programs) ∧
      Vault.salvagePool rt w.scanner.clock
        (w.scanner.certs (params.ammProgramId, params.poolAddress)) w.vault w.ledger params
        accounts programs = .ok (w'.vault, w'.ledger)) ∨
    (∃ params lpHolder, ix = .vault (.claimLpProceeds params lpHolder) ∧
      Vault.claimLpProceeds rt w.scanner.clock w.vault w.ledger params lpHolder =
        .ok (w'.vault, w'.ledger)) ∨
    ∃ pool mint sweeper, ix = .vault (.sweepDust pool mint sweeper) ∧
      Vault.sweepDust rt w.scanner.clock w.vault w.ledger pool mint sweeper =
        .ok (w'.vault, w'.ledger) := by
  cases ix with
  | scanner call =>
    obtain ⟨s, _, rfl⟩ := scanner_ok_iff.1 h
    exact Or.inl ⟨rfl, rfl, rfl, fun _ => Ledger.Keeps.refl _ _⟩
  | vault call =>
    obtain ⟨v, l, hcall, rfl⟩ := vault_ok_iff.1 h
    rcases execVault_cases hcall with ⟨⟨hregistries, hreceipts, hrecords⟩, hl⟩ |
      ⟨params, accounts, programs, rfl, hcall⟩ | ⟨params, lpHolder, rfl, hcall⟩ |
      ⟨pool, mint, sweeper, rfl, hcall⟩
    · refine Or.inl ⟨hregistries, hreceipts, hrecords, fun pool => ?_⟩
      rcases hl with rfl | ⟨payer, hl⟩
      · exact Ledger.Keeps.refl _ _
      · exact Ledger.Keeps.of_eq (Ledger.initRecord_frame hl (by simp) (by simp))
    · exact Or.inr (Or.inl ⟨params, accounts, programs, rfl, hcall⟩)
    · exact Or.inr (Or.inr (Or.inl ⟨params, lpHolder, rfl, hcall⟩))
    · exact Or.inr (Or.inr (Or.inr ⟨pool, mint, sweeper, rfl, hcall⟩))
  | systemTransfer src dst amount =>
    obtain ⟨l, ht, rfl⟩ := systemTransfer_ok_iff.1 h
    obtain ⟨_, _, rfl⟩ := Ledger.transfer_ok_iff.1 ht
    exact Or.inl ⟨rfl, rfl, rfl, fun _ => Ledger.move_keeps _ (by simp)⟩
  | external program metas data =>
    obtain ⟨hu, l, hcall, rfl⟩ := external_ok_iff.1 h
    exact Or.inl ⟨rfl, rfl, rfl,
      fun pool => program.custody hcall _ rfl (not_signs_external hu rfl)⟩

/-! ## The scanner of a run -/

/-- The scanner's calls among the instructions. -/
def scannerCalls : List Ix → List Scanner.Call
  | [] => []
  | .scanner call :: ixs => call :: scannerCalls ixs
  | _ :: ixs => scannerCalls ixs

theorem scannerCalls_append (ixs ixs' : List Ix) :
    scannerCalls (ixs ++ ixs') = scannerCalls ixs ++ scannerCalls ixs' := by
  induction ixs with
  | nil => rfl
  | cons ix ixs ih => cases ix <;> simp [scannerCalls, ih]

theorem scanner_exec (h : exec rt w ix = .ok w') (hix : scannerCalls [ix] = []) :
    w'.scanner = w.scanner := by
  cases ix with
  | scanner call => cases hix
  | vault call =>
    obtain ⟨_, _, _, rfl⟩ := vault_ok_iff.1 h
    rfl
  | systemTransfer src dst amount =>
    obtain ⟨_, _, rfl⟩ := systemTransfer_ok_iff.1 h
    rfl
  | external program metas data =>
    obtain ⟨_, _, _, rfl⟩ := external_ok_iff.1 h
    rfl

/-- Only the scanner's calls change the scanner. -/
theorem scanner_step (rt : Runtime) (w : World) (ix : Ix) :
    (step (exec rt) w ix).scanner =
      run (Scanner.exec rt) w.scanner (scannerCalls [ix]) := by
  cases ix with
  | scanner call =>
    simp only [scannerCalls, run_cons, run_nil]
    cases hs : Scanner.exec rt w.scanner call with
    | ok s => rw [step_of_ok hs, step_of_ok (scanner_ok_iff.2 ⟨s, hs, rfl⟩)]
    | error e =>
      rw [step_of_error hs, step_of_error (e := e)]
      simp [exec, hs, bind, Except.bind]
  | _ =>
    rcases step_cases (exec rt) w _ with h | h
    · exact scanner_exec h rfl
    · rw [h]
      rfl

theorem scanner_run (rt : Runtime) (w : World) (ixs : List Ix) :
    (run (exec rt) w ixs).scanner = run (Scanner.exec rt) w.scanner (scannerCalls ixs) := by
  induction ixs generalizing w with
  | nil => rfl
  | cons ix ixs ih =>
    rw [run_cons, ih, scanner_step, ← run_append, ← scannerCalls_append]
    rfl

end World

end GraveYield
