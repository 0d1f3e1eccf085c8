import GraveYield.Bookkeeping
import GraveYield.Lib.Owned
import GraveYield.Rent
import GraveYield.Staleness

/-!
# What governance can do

Each program has one configuration, written by the first `initialize` that succeeds, whoever calls
it. From then on `Governed.govern` is all that happens to it : the updates and pauses that its
authority signs, in their order, and the authority itself never changes (`config_history`). No other
call, signer or program has any influence on it, and no timelock delays it.

In the other direction governance has no influence on claims and sweeps : a run without salvages
comes out the same, but for the configuration, with the governance calls of the vault left out, and
also without those of the scanner if nothing in the run opens or closes an account of the scanner
(`governance_unwinding`).
-/

namespace GraveYield

open Machine Checked

/-! ## A configuration under its authority -/

/-- Who governs a configuration : the authority, and what is stored of a successor. -/
structure Seat where
  authority : Pubkey
  pendingAuthority : Pubkey
  pendingAuthorityEta : ℤ
  deriving DecidableEq

/-- The seat of an initial configuration : nobody is named as a successor. -/
def Seat.of (authority : Pubkey) : Seat :=
  ⟨authority, defaultPubkey, 0⟩

/-- What an authority can do to its configuration. -/
inductive ConfigAct (π : Type) where
  | update (params : π)
  | pause (paused : Bool)

/-- A configuration with updates and a pause, neither of which touches its seat. -/
structure Governed (γ π : Type) where
  update : γ → π → Except ProgramError γ
  paused : γ → Bool
  setPaused : γ → Bool → γ
  violation : ProgramError
  seat : γ → Seat
  seat_update : ∀ {cfg params cfg'}, update cfg params = .ok cfg' → seat cfg' = seat cfg
  seat_setPaused : ∀ cfg paused, seat (setPaused cfg paused) = seat cfg

namespace Governed

variable {γ π : Type} (g : Governed γ π)

/-- The configuration after one act. A pause or a resumption that changes nothing fails. -/
def govern (cfg : γ) : ConfigAct π → Except ProgramError γ
  | .update params => g.update cfg params
  | .pause paused => do
    require (g.paused cfg ≠ paused) g.violation
    return g.setPaused cfg paused

variable {g}

/-- A pause is accepted iff it changes the flag. -/
theorem govern_pause_ok_iff {cfg cfg' : γ} {paused : Bool} :
    g.govern cfg (.pause paused) = .ok cfg' ↔
      g.paused cfg ≠ paused ∧ g.setPaused cfg paused = cfg' := by
  simp only [govern, bind_ok_iff, require_ok_iff, exists_const, pure_ok_iff]

/-- No act moves the seat. -/
theorem seat_govern {cfg cfg' : γ} {act : ConfigAct π} (h : g.govern cfg act = .ok cfg') :
    g.seat cfg' = g.seat cfg := by
  cases act with
  | update params => exact g.seat_update h
  | pause paused =>
    obtain ⟨_, rfl⟩ := govern_pause_ok_iff.1 h
    exact g.seat_setPaused cfg paused

/-- No act of an authority, and so no number of them, changes who governs. -/
theorem seat_run (cfg : γ) (acts : List (ConfigAct π)) :
    g.seat (run g.govern cfg acts) = g.seat cfg :=
  run_invariant (I := fun c => g.seat c = g.seat cfg)
    (fun _ _ _ hc h => (seat_govern h).trans hc) rfl acts

end Governed

/-! ## The configuration of the scanner -/

namespace Scanner

variable {rt : Runtime} {s s' : State} {call : Call}

/-- The scanner's configuration and what governs it. -/
def governed : Governed ProtocolConfig UpdateProtocolConfigParams where
  update := applyConfigUpdate
  paused := ProtocolConfig.paused
  setPaused cfg paused := { cfg with paused }
  violation := .scanner .invariantViolation
  seat cfg := ⟨cfg.authority, cfg.pendingAuthority, cfg.pendingAuthorityEta⟩
  seat_update h := by
    simp only [applyConfigUpdate, bind_ok_iff, require_ok_iff, exists_const, pure_ok_iff] at h
    obtain ⟨_, _, _, rfl⟩ := h
    rfl
  seat_setPaused _ _ := rfl

/-- The act that a call is, with its signer. -/
def configAct : Call → Option (Pubkey × ConfigAct UpdateProtocolConfigParams)
  | .updateProtocolConfig params authority => some (authority, .update params)
  | .emergencyPause paused authority => some (authority, .pause paused)
  | _ => none

/-- A new configuration seats the authority it is given. -/
theorem initialConfig_seat {params : InitializeParams} {cfg : ProtocolConfig}
    (h : initialConfig params = .ok cfg) : governed.seat cfg = .of params.authority := by
  simp only [initialConfig, bind_ok_iff, require_ok_iff, exists_const, pure_ok_iff] at h
  obtain ⟨_, _, rfl⟩ := h
  rfl

/-- The state with another configuration. -/
def State.putConfig (s : State) (cfg : ProtocolConfig) : State :=
  { s with protocolConfig := some cfg }

/-- A call that acts is accepted iff its authority is the configuration's and the act is. -/
theorem acts_ok_iff {authority : Pubkey} {act : ConfigAct UpdateProtocolConfigParams}
    {cfg : ProtocolConfig} (hact : configAct call = some (authority, act))
    (hcfg : s.protocolConfig = some cfg) :
    exec rt s call = .ok s' ↔ cfg.authority = authority ∧
      ∃ cfg', governed.govern cfg act = .ok cfg' ∧ s.putConfig cfg' = s' := by
  cases call with
  | updateProtocolConfig params a =>
    obtain ⟨rfl, rfl⟩ := Prod.mk.inj (Option.some.inj hact)
    simp only [exec, updateProtocolConfig, Governed.govern, governed, bind_ok_iff,
      loadConfigAs_ok_iff, pure_ok_iff, hcfg, Option.some.injEq, State.putConfig]
    constructor
    · rintro ⟨_, ⟨rfl, ha⟩, cfg', h, rfl⟩
      exact ⟨ha, cfg', h, rfl⟩
    · rintro ⟨ha, cfg', h, rfl⟩
      exact ⟨cfg, ⟨rfl, ha⟩, cfg', h, rfl⟩
  | emergencyPause paused a =>
    obtain ⟨rfl, rfl⟩ := Prod.mk.inj (Option.some.inj hact)
    simp only [exec, emergencyPause, Governed.govern_pause_ok_iff, governed, bind_ok_iff,
      loadConfigAs_ok_iff, require_ok_iff, exists_const, pure_ok_iff, hcfg, Option.some.injEq,
      State.putConfig]
    constructor
    · rintro ⟨_, ⟨rfl, ha⟩, h, rfl⟩
      exact ⟨ha, _, ⟨h, rfl⟩, rfl⟩
    · rintro ⟨ha, cfg', ⟨h, rfl⟩, rfl⟩
      exact ⟨cfg, ⟨rfl, ha⟩, h, rfl⟩
  | _ => cases hact

/-- The other calls keep the configuration. -/
theorem others_config {cfg : ProtocolConfig} (hact : configAct call = none)
    (hcfg : s.protocolConfig = some cfg) (h : exec rt s call = .ok s') :
    s'.protocolConfig = some cfg := by
  cases exec_effect h with
  | initializeProtocol params cfg' =>
    rw [(initializeProtocol_ok h).1] at hcfg
    cases hcfg
  | updateProtocolConfig params authority => cases hact
  | emergencyPause paused authority => cases hact
  | _ => exact hcfg

/-- The scanner's configuration is owned by its authority. -/
theorem owned_config (rt : Runtime) : Owned (exec rt) State.protocolConfig State.putConfig
    ProtocolConfig.authority governed.govern configAct where
  held _ _ := rfl
  kept _ _ _ h := congrArg Seat.authority (Governed.seat_govern h)
  acts _ _ _ _ _ _ := acts_ok_iff
  others _ _ _ _ := others_config

/-- Only `initialize_protocol` establishes the configuration. -/
theorem config_establishing {cfg : ProtocolConfig} (hnone : s.protocolConfig = none)
    (h : exec rt s call = .ok s') (hcfg : s'.protocolConfig = some cfg) :
    ∃ params, call = .initializeProtocol params ∧ initialConfig params = .ok cfg := by
  cases exec_effect h with
  | initializeProtocol params cfg' hinit =>
    exact ⟨params, rfl, hinit.trans (congrArg _ (Option.some.inj hcfg))⟩
  | updateProtocolConfig params authority cfg₀ cfg' hcfg₀ =>
    rw [hnone] at hcfg₀
    cases hcfg₀
  | emergencyPause paused authority cfg₀ hcfg₀ =>
    rw [hnone] at hcfg₀
    cases hcfg₀
  | _ =>
    rw [hnone] at hcfg
    cases hcfg

end Scanner

/-! ## The configuration of the vault -/

namespace Vault

/-- The vault's configuration and what governs it. -/
def governed : Governed ProtocolConfig UpdateProtocolConfigParams where
  update := applyConfigUpdate
  paused := ProtocolConfig.emergencyPaused
  setPaused cfg paused := { cfg with emergencyPaused := paused }
  violation := .vault .invariantViolation
  seat cfg := ⟨cfg.authority, cfg.pendingAuthority, cfg.pendingAuthorityEta⟩
  seat_update h := by
    simp only [applyConfigUpdate, bind_ok_iff, require_ok_iff, exists_const, pure_ok_iff] at h
    obtain ⟨_, _, _, _, rfl⟩ := h
    rfl
  seat_setPaused _ _ := rfl

/-- The act that an instruction is, with its signer. -/
def configAct : Ix → Option (Pubkey × ConfigAct UpdateProtocolConfigParams)
  | .vault (.updateProtocolConfig params authority) => some (authority, .update params)
  | .vault (.emergencyPause paused authority) => some (authority, .pause paused)
  | _ => none

/-- A new configuration seats the authority it is given. -/
theorem initialConfig_seat {params : InitializeParams} {cfg : ProtocolConfig}
    (h : initialConfig params = .ok cfg) : governed.seat cfg = .of params.authority := by
  simp only [initialConfig, bind_ok_iff, require_ok_iff, exists_const, pure_ok_iff] at h
  obtain ⟨_, _, _, rfl⟩ := h
  rfl

end Vault

namespace World

open Vault (configAct governed)

variable {rt : Runtime} {w w' : World} {ix : Ix}

/-- The vault's configuration in a world. -/
def vaultConfig (w : World) : Option Vault.ProtocolConfig :=
  w.vault.protocolConfig

/-- The world with another configuration of the vault. -/
def putVaultConfig (w : World) (cfg : Vault.ProtocolConfig) : World :=
  { w with vault := { w.vault with protocolConfig := some cfg } }

/-- An instruction that acts is accepted iff its authority is the configuration's and the act is. -/
theorem acts_ok_iff {authority : Pubkey} {act : ConfigAct Vault.UpdateProtocolConfigParams}
    {cfg : Vault.ProtocolConfig} (hact : configAct ix = some (authority, act))
    (hcfg : w.vaultConfig = some cfg) :
    exec rt w ix = .ok w' ↔ cfg.authority = authority ∧
      ∃ cfg', governed.govern cfg act = .ok cfg' ∧ w.putVaultConfig cfg' = w' := by
  unfold vaultConfig at hcfg
  unfold configAct at hact
  split at hact
  · obtain ⟨rfl, rfl⟩ := Prod.mk.inj (Option.some.inj hact)
    simp only [exec, execVault, Vault.updateProtocolConfig, Governed.govern, governed, bind_ok_iff,
      Vault.loadConfigAs_ok_iff, pure_ok_iff, hcfg, Option.some.injEq, putVaultConfig]
    constructor
    · rintro ⟨_, ⟨_, ⟨_, ⟨rfl, ha⟩, cfg', h, rfl⟩, rfl⟩, rfl⟩
      exact ⟨ha, cfg', h, rfl⟩
    · rintro ⟨ha, cfg', h, rfl⟩
      exact ⟨_, ⟨_, ⟨cfg, ⟨rfl, ha⟩, cfg', h, rfl⟩, rfl⟩, rfl⟩
  · obtain ⟨rfl, rfl⟩ := Prod.mk.inj (Option.some.inj hact)
    simp only [exec, execVault, Vault.emergencyPause, Governed.govern_pause_ok_iff, governed,
      bind_ok_iff, Vault.loadConfigAs_ok_iff, require_ok_iff, exists_const, pure_ok_iff, hcfg,
      Option.some.injEq, putVaultConfig]
    constructor
    · rintro ⟨_, ⟨_, ⟨_, ⟨rfl, ha⟩, h, rfl⟩, rfl⟩, rfl⟩
      exact ⟨ha, _, ⟨h, rfl⟩, rfl⟩
    · rintro ⟨ha, cfg', ⟨h, rfl⟩, rfl⟩
      exact ⟨_, ⟨_, ⟨cfg, ⟨rfl, ha⟩, h, rfl⟩, rfl⟩, rfl⟩
  · cases hact

/-- A call that is no act leaves the vault's configuration alone, if there is one. -/
theorem others_config {cfg : Vault.ProtocolConfig} (hact : configAct ix = none)
    (hcfg : w.vaultConfig = some cfg) (h : exec rt w ix = .ok w') : w'.vaultConfig = some cfg := by
  unfold vaultConfig at hcfg ⊢
  cases ix with
  | scanner call =>
    obtain ⟨_, _, rfl⟩ := scanner_ok_iff.1 h
    exact hcfg
  | systemTransfer src dst amount =>
    obtain ⟨_, _, rfl⟩ := systemTransfer_ok_iff.1 h
    exact hcfg
  | external program metas data =>
    obtain ⟨_, _, _, rfl⟩ := external_ok_iff.1 h
    exact hcfg
  | vault call =>
    obtain ⟨v, l, hcall, rfl⟩ := vault_ok_iff.1 h
    cases call with
    | initializeProtocol params payer =>
      rw [(Vault.initializeProtocol_ok hcall).1] at hcfg
      cases hcfg
    | updateProtocolConfig params a => cases hact
    | emergencyPause paused a => cases hact
    | salvagePool params accounts programs =>
      obtain ⟨_, _, _, _, _, _, rfl⟩ := Vault.salvagePool_effect hcall
      exact hcfg
    | claimLpProceeds params lpHolder =>
      obtain ⟨_, _, _, _, _, _, _, _, _, rfl, _⟩ := Vault.claimLpProceeds_ok hcall
      exact hcfg
    | sweepDust pool mint sweeper =>
      obtain ⟨_, _, _, _, rfl, _⟩ := Vault.sweepDust_ok hcall
      exact hcfg

/-- The vault's configuration is owned by its authority. -/
theorem owned_vaultConfig (rt : Runtime) : Owned (exec rt) vaultConfig putVaultConfig
    Vault.ProtocolConfig.authority governed.govern configAct where
  held _ _ := rfl
  kept _ _ _ h := congrArg Seat.authority (Governed.seat_govern h)
  acts _ _ _ _ _ _ := acts_ok_iff
  others _ _ _ _ := others_config

/-- Only `initialize_protocol` of the vault establishes the configuration. -/
theorem vaultConfig_establishing {cfg : Vault.ProtocolConfig} (hnone : w.vaultConfig = none)
    (h : exec rt w ix = .ok w') (hcfg : w'.vaultConfig = some cfg) :
    ∃ params payer, ix = .vault (.initializeProtocol params payer) ∧
      Vault.initialConfig params = .ok cfg := by
  unfold vaultConfig at hnone hcfg
  cases ix with
  | scanner call =>
    obtain ⟨_, _, rfl⟩ := scanner_ok_iff.1 h
    cases hnone.symm.trans hcfg
  | systemTransfer src dst amount =>
    obtain ⟨_, _, rfl⟩ := systemTransfer_ok_iff.1 h
    cases hnone.symm.trans hcfg
  | external program metas data =>
    obtain ⟨_, _, _, rfl⟩ := external_ok_iff.1 h
    cases hnone.symm.trans hcfg
  | vault call =>
    obtain ⟨v, l, hcall, rfl⟩ := vault_ok_iff.1 h
    cases call with
    | initializeProtocol params payer =>
      obtain ⟨_, _, cfg', hinit, rfl⟩ := Vault.initializeProtocol_ok hcall
      exact ⟨params, payer, rfl, hinit.trans (congrArg _ (Option.some.inj hcfg))⟩
    | updateProtocolConfig params a =>
      simp only [execVault, bind_ok_iff, pure_ok_iff, Prod.mk.injEq] at hcall
      obtain ⟨_, hcall, rfl, rfl⟩ := hcall
      obtain ⟨_, _, hold, _⟩ := Vault.updateProtocolConfig_ok hcall
      cases hnone.symm.trans hold
    | emergencyPause paused a =>
      simp only [execVault, bind_ok_iff, pure_ok_iff, Prod.mk.injEq] at hcall
      obtain ⟨_, hcall, rfl, rfl⟩ := hcall
      obtain ⟨_, hold, _⟩ := Vault.emergencyPause_ok hcall
      cases hnone.symm.trans hold
    | salvagePool params accounts programs =>
      obtain ⟨_, _, _, _, _, _, rfl⟩ := Vault.salvagePool_effect hcall
      cases hnone.symm.trans hcfg
    | claimLpProceeds params lpHolder =>
      obtain ⟨_, _, _, _, _, _, _, _, _, rfl, _⟩ := Vault.claimLpProceeds_ok hcall
      cases hnone.symm.trans hcfg
    | sweepDust pool mint sweeper =>
      obtain ⟨_, _, _, _, rfl, _⟩ := Vault.sweepDust_ok hcall
      cases hnone.symm.trans hcfg

/-- The history of both configurations. In every run of both programs and any others, an existing
configuration was written by the one `initialize` of its program that succeeded, whoever paid for
it, and is what the acts signed by the authority named there have made of it since, in their
order; that authority is still in place, and no successor is ever named. -/
theorem config_history (rt : Runtime) (clock : Clock) (ledger : Ledger) (ixs : List Ix) :
    let w := run (exec rt) (genesis clock ledger) ixs
    (∀ cfg, w.vault.protocolConfig = some cfg → ∃ pre params payer post cfg₀,
      ixs = pre ++ .vault (.initializeProtocol params payer) :: post ∧
      (run (exec rt) (genesis clock ledger) pre).vault.protocolConfig = none ∧
      Vault.initialConfig params = .ok cfg₀ ∧
      cfg = run Vault.governed.govern cfg₀
        (post.filterMap (actOf Vault.configAct params.authority)) ∧
      Vault.governed.seat cfg = .of params.authority) ∧
    ∀ cfg, w.scanner.protocolConfig = some cfg → ∃ pre params post cfg₀,
      scannerCalls ixs = pre ++ .initializeProtocol params :: post ∧
      (run (Scanner.exec rt) (Scanner.State.genesis clock) pre).protocolConfig = none ∧
      Scanner.initialConfig params = .ok cfg₀ ∧
      cfg = run Scanner.governed.govern cfg₀
        (post.filterMap (actOf Scanner.configAct params.authority)) ∧
      Scanner.governed.seat cfg = .of params.authority := by
  intro w
  refine ⟨fun cfg hcfg => ?_, fun cfg hcfg => ?_⟩
  · obtain ⟨pre, ix, post, w', cfg₀, rfl, hnone, hexec, hw', rfl⟩ :=
      (owned_vaultConfig rt).history (s := genesis clock ledger) rfl hcfg
    obtain ⟨params, payer, rfl, hinit⟩ := vaultConfig_establishing hnone hexec hw'
    have hseat := Vault.initialConfig_seat hinit
    have hauthority : cfg₀.authority = params.authority := congrArg Seat.authority hseat
    exact ⟨pre, params, payer, post, cfg₀, rfl, hnone, hinit, by rw [hauthority],
      (Governed.seat_run cfg₀ _).trans hseat⟩
  · rw [scanner_run] at hcfg
    obtain ⟨pre, call, post, s', cfg₀, hsplit, hnone, hexec, hs', rfl⟩ :=
      (Scanner.owned_config rt).history (s := Scanner.State.genesis clock) rfl hcfg
    obtain ⟨params, rfl, hinit⟩ := Scanner.config_establishing hnone hexec hs'
    have hseat := Scanner.initialConfig_seat hinit
    have hauthority : cfg₀.authority = params.authority := congrArg Seat.authority hseat
    exact ⟨pre, params, post, cfg₀, hsplit, hnone, hinit, by rw [hauthority],
      (Governed.seat_run cfg₀ _).trans hseat⟩

/-! ## Claims and sweeps without governance -/

/-- An update or a pause of the vault. -/
def isVaultGovernance : Ix → Bool
  | .vault (.updateProtocolConfig _ _) | .vault (.emergencyPause _ _) => true
  | _ => false

/-- An update or a pause of either program. -/
def isGovernance : Ix → Bool
  | .scanner (.updateProtocolConfig _ _) | .scanner (.emergencyPause _ _) => true
  | ix => isVaultGovernance ix

/-- A salvage, which reads the configuration of the vault. -/
def isSalvage : Ix → Bool
  | .vault (.salvagePool _ _ _) => true
  | _ => false

/-- The worlds agree on all that claims and sweeps read and write. -/
structure SameBooks (w w' : World) : Prop where
  registries : w'.vault.registries = w.vault.registries
  receipts : w'.vault.receipts = w.vault.receipts
  claimRecords : w'.vault.claimRecords = w.vault.claimRecords
  ledger : w'.ledger = w.ledger
  clock : w'.scanner.clock = w.scanner.clock
  configured : w'.vault.protocolConfig.isSome = w.vault.protocolConfig.isSome

theorem SameBooks.refl (w : World) : SameBooks w w :=
  ⟨rfl, rfl, rfl, rfl, rfl, rfl⟩

theorem SameBooks.symm (h : SameBooks w w') : SameBooks w' w :=
  ⟨h.registries.symm, h.receipts.symm, h.claimRecords.symm, h.ledger.symm, h.clock.symm,
    h.configured.symm⟩

theorem SameBooks.trans {w₁ w₂ w₃ : World} (h : SameBooks w₁ w₂) (h' : SameBooks w₂ w₃) :
    SameBooks w₁ w₃ :=
  ⟨h'.registries.trans h.registries, h'.receipts.trans h.receipts,
    h'.claimRecords.trans h.claimRecords, h'.ledger.trans h.ledger, h'.clock.trans h.clock,
    h'.configured.trans h.configured⟩

/-- The vaults of worlds with the same books differ in their configuration only. -/
theorem SameBooks.vault_eq (h : SameBooks w w') :
    w'.vault = { w.vault with protocolConfig := w'.vault.protocolConfig } := by
  obtain ⟨_, ⟨_, _, _, _⟩, _⟩ := w
  obtain ⟨_, ⟨_, _, _, _⟩, _⟩ := w'
  obtain ⟨rfl, rfl, rfl, _, _, _⟩ := h
  rfl

/-- States of the scanner with one clock keep the books the same. -/
theorem setScanner_books (h : SameBooks w w') {s s' : Scanner.State} (hclock : s'.clock = s.clock) :
    SameBooks { w with scanner := s } { w' with scanner := s' } :=
  ⟨h.registries, h.receipts, h.claimRecords, h.ledger, hclock, h.configured⟩

/-- A scanner call is a step of the scanner. -/
theorem step_scanner (rt : Runtime) (w : World) (call : Scanner.Call) :
    step (exec rt) w (.scanner call) =
      { w with scanner := step (Scanner.exec rt) w.scanner call } := by
  cases h : Scanner.exec rt w.scanner call with
  | ok s =>
    rw [step_of_ok h, step_of_ok (scanner_ok_iff.2 ⟨s, h, rfl⟩)]
  | error e =>
    rcases step_cases (exec rt) w (.scanner call) with hok | hsame
    · obtain ⟨s, hs, _⟩ := scanner_ok_iff.1 hok
      cases h.symm.trans hs
    · rw [hsame, step_of_error h]

/-- The clock after a call of the scanner is decided by the clock before it. -/
theorem clock_step {s s' : Scanner.State} (hclock : s'.clock = s.clock) {call : Scanner.Call}
    (h : Scanner.exec rt s call = .ok (step (Scanner.exec rt) s call)) :
    (step (Scanner.exec rt) s' call).clock = (step (Scanner.exec rt) s call).clock := by
  rcases Scanner.clock_exec h with heq | ⟨clock, rfl, heq, hp⟩
  · rw [heq]
    rcases step_cases (Scanner.exec rt) s' call with h' | h'
    · rcases Scanner.clock_exec h' with heq' | ⟨clock, rfl, _, _⟩
      · exact heq'.trans hclock
      · rw [(Scanner.tick_ok h').2]
        rw [(Scanner.tick_ok h).2] at heq
        exact heq
    · rw [h', hclock]
  · rw [heq]
    have h' : Scanner.exec rt s' (.tick clock) = .ok { s' with clock } := by
      simp only [Scanner.exec, bind_ok_iff, require_ok_iff, exists_const, pure_ok_iff, hclock]
      exact ⟨hp, trivial⟩
    rw [step_of_ok h']

/-- A step moves clocks that agree to clocks that agree. -/
theorem step_clock {s s' : Scanner.State} (hclock : s'.clock = s.clock) (call : Scanner.Call) :
    (step (Scanner.exec rt) s' call).clock = (step (Scanner.exec rt) s call).clock := by
  rcases step_cases (Scanner.exec rt) s call with h | h
  · exact clock_step hclock h
  · rcases step_cases (Scanner.exec rt) s' call with h' | h'
    · exact (clock_step hclock.symm h').symm
    · rw [h, h', hclock]

/-- A scanner call keeps the books the same. -/
theorem scanner_books (rt : Runtime) (h : SameBooks w w') (call : Scanner.Call) :
    SameBooks (step (exec rt) w (.scanner call)) (step (exec rt) w' (.scanner call)) := by
  rw [step_scanner, step_scanner]
  exact setScanner_books h (step_clock h.clock call)

/-- A governance call leaves the books as they are. -/
theorem governance_books (rt : Runtime) (w : World) (hgov : isGovernance ix = true) :
    SameBooks w (step (exec rt) w ix) := by
  rcases step_cases (exec rt) w ix with h | h
  · generalize step (exec rt) w ix = u at h
    cases ix with
    | systemTransfer src dst amount => cases hgov
    | external program metas data => cases hgov
    | scanner call =>
      obtain ⟨s, hs, rfl⟩ := scanner_ok_iff.1 h
      refine setScanner_books (SameBooks.refl w) ?_
      rcases Scanner.clock_exec hs with heq | ⟨clock, rfl, _⟩
      · exact heq
      · cases hgov
    | vault call =>
      obtain ⟨v, l, hv, rfl⟩ := vault_ok_iff.1 h
      cases call with
      | updateProtocolConfig params a =>
        simp only [execVault, bind_ok_iff, pure_ok_iff, Prod.mk.injEq] at hv
        obtain ⟨_, hv, rfl, rfl⟩ := hv
        obtain ⟨_, _, hcfg, _, _, rfl⟩ := Vault.updateProtocolConfig_ok hv
        exact ⟨rfl, rfl, rfl, rfl, rfl, by simp only [hcfg, Option.isSome_some]⟩
      | emergencyPause paused a =>
        simp only [execVault, bind_ok_iff, pure_ok_iff, Prod.mk.injEq] at hv
        obtain ⟨_, hv, rfl, rfl⟩ := hv
        obtain ⟨_, hcfg, _, _, rfl⟩ := Vault.emergencyPause_ok hv
        exact ⟨rfl, rfl, rfl, rfl, rfl, by simp only [hcfg, Option.isSome_some]⟩
      | _ => cases hgov
  · rw [h]
    exact SameBooks.refl w

/-! ### The calls of the vault -/

section Calls

variable {clock : Clock} {v v' : Vault.State} {l l' : Ledger}

/-- No claim depends on the vault's configuration. -/
theorem claim_any_config {params : Vault.ClaimLpProceedsParams} {lpHolder : Pubkey}
    (cfg : Option Vault.ProtocolConfig)
    (h : Vault.claimLpProceeds rt clock v l params lpHolder = .ok (v', l')) :
    Vault.claimLpProceeds rt clock { v with protocolConfig := cfg } l params lpHolder =
      .ok ({ v' with protocolConfig := cfg }, l') := by
  simp only [Vault.claimLpProceeds, bind_ok_iff, pure_ok_iff, Prod.exists, Prod.mk.injEq] at h ⊢
  obtain ⟨registry, h1, u, h2, l₁, h3, u', h4, amount, newClaimed, h5, l₂, h6, rfl, rfl⟩ := h
  exact ⟨registry, h1, u, h2, l₁, h3, u', h4, amount, newClaimed, h5, l₂, h6, rfl, rfl⟩

/-- No sweep of dust depends on it. -/
theorem sweep_any_config {pool mint sweeper : Pubkey} (cfg : Option Vault.ProtocolConfig)
    (h : Vault.sweepDust rt clock v l pool mint sweeper = .ok (v', l')) :
    Vault.sweepDust rt clock { v with protocolConfig := cfg } l pool mint sweeper =
      .ok ({ v' with protocolConfig := cfg }, l') := by
  simp only [Vault.sweepDust, bind_ok_iff, pure_ok_iff, Prod.mk.injEq] at h ⊢
  obtain ⟨receipt, h1, t, h2, u₁, h3, l₁, h4, m, h5, u₂, h6, u₃, h7, u₄, h8, l₂, h9, l₃, h10, rfl,
    rfl⟩ := h
  exact ⟨receipt, h1, t, h2, u₁, h3, l₁, h4, m, h5, u₂, h6, u₃, h7, u₄, h8, l₂, h9, l₃, h10, rfl,
    rfl⟩

end Calls

/-- What succeeds in one of two worlds with the same books succeeds in the other, with the same
books. -/
theorem exec_books (hb : SameBooks w w') (hcall : ∀ call, ix ≠ .scanner call)
    (hgov : isGovernance ix = false) (hsalvage : isSalvage ix = false) {u : World}
    (h : exec rt w ix = .ok u) : ∃ u', exec rt w' ix = .ok u' ∧ SameBooks u u' := by
  cases ix with
  | scanner call => exact absurd rfl (hcall call)
  | systemTransfer src dst amount =>
    obtain ⟨l, ht, rfl⟩ := systemTransfer_ok_iff.1 h
    exact ⟨_, systemTransfer_ok_iff.2 ⟨l, hb.ledger ▸ ht, rfl⟩, hb.registries, hb.receipts,
      hb.claimRecords, rfl, hb.clock, hb.configured⟩
  | external program metas data =>
    obtain ⟨hu, l, hl, rfl⟩ := external_ok_iff.1 h
    exact ⟨_, external_ok_iff.2 ⟨hu, l, hb.ledger ▸ hl, rfl⟩, hb.registries, hb.receipts,
      hb.claimRecords, rfl, hb.clock, hb.configured⟩
  | vault call =>
    obtain ⟨v, l, hv, rfl⟩ := vault_ok_iff.1 h
    cases call with
    | initializeProtocol params payer =>
      have hnone : w.vault.protocolConfig = none := (Vault.initializeProtocol_ok hv).1
      have hnone' : w'.vault.protocolConfig = none := by
        rw [← Option.isNone_iff_eq_none, ← Option.not_isSome, hb.configured, hnone]
        rfl
      have hvault : w'.vault = w.vault := by rw [hb.vault_eq, hnone', ← hnone]
      have hv' : execVault rt w' (.initializeProtocol params payer) = .ok (v, l) := by
        rw [← hv, execVault, execVault, hvault, hb.ledger]
      exact ⟨_, vault_ok_iff.2 ⟨v, l, hv', rfl⟩, rfl, rfl, rfl, rfl, hb.clock, rfl⟩
    | updateProtocolConfig params a => cases hgov
    | emergencyPause paused a => cases hgov
    | salvagePool params accounts programs => cases hsalvage
    | claimLpProceeds params lpHolder =>
      have hconfig : v.protocolConfig = w.vault.protocolConfig := by
        obtain ⟨_, _, _, _, _, _, _, _, _, rfl, _⟩ := Vault.claimLpProceeds_ok hv
        rfl
      have hv' : execVault rt w' (.claimLpProceeds params lpHolder) =
          .ok ({ v with protocolConfig := w'.vault.protocolConfig }, l) := by
        rw [execVault, hb.ledger, hb.clock, hb.vault_eq]
        exact claim_any_config _ hv
      exact ⟨_, vault_ok_iff.2 ⟨_, l, hv', rfl⟩, rfl, rfl, rfl, rfl, hb.clock,
        hb.configured.trans (congrArg _ hconfig.symm)⟩
    | sweepDust pool mint sweeper =>
      have hconfig : v.protocolConfig = w.vault.protocolConfig := by
        obtain ⟨_, _, _, _, rfl, _⟩ := Vault.sweepDust_ok hv
        rfl
      have hv' : execVault rt w' (.sweepDust pool mint sweeper) =
          .ok ({ v with protocolConfig := w'.vault.protocolConfig }, l) := by
        rw [execVault, hb.ledger, hb.clock, hb.vault_eq]
        exact sweep_any_config _ hv
      exact ⟨_, vault_ok_iff.2 ⟨_, l, hv', rfl⟩, rfl, rfl, rfl, rfl, hb.clock,
        hb.configured.trans (congrArg _ hconfig.symm)⟩

/-- No call but a salvage tells two worlds with the same books apart. -/
theorem step_books (rt : Runtime) (hb : SameBooks w w') (hgov : isGovernance ix = false)
    (hsalvage : isSalvage ix = false) :
    SameBooks (step (exec rt) w ix) (step (exec rt) w' ix) := by
  by_cases hscanner : ∃ call, ix = .scanner call
  · obtain ⟨call, rfl⟩ := hscanner
    exact scanner_books rt hb call
  have hcall : ∀ call, ix ≠ .scanner call := fun call heq => hscanner ⟨call, heq⟩
  cases h : exec rt w ix with
  | ok u =>
    obtain ⟨u', h', hu⟩ := exec_books hb hcall hgov hsalvage h
    rwa [step_of_ok h, step_of_ok h']
  | error e =>
    cases h' : exec rt w' ix with
    | ok u' =>
      obtain ⟨u, hok, _⟩ := exec_books hb.symm hcall hgov hsalvage h'
      cases h.symm.trans hok
    | error e' => rwa [step_of_error h, step_of_error h']

/-- The worlds differ in the vault's configuration only. -/
structure SameButConfig (w w' : World) : Prop where
  books : SameBooks w w'
  scanner : w'.scanner = w.scanner

/-- An act on the vault's configuration is an act of governance. -/
theorem isGovernance_of_vault (h : isVaultGovernance ix = true) : isGovernance ix = true := by
  unfold isGovernance
  split
  · rfl
  · rfl
  · exact h

/-- No call but a salvage reads the vault's configuration. -/
theorem sameButConfig_step (rt : Runtime) (h : SameButConfig w w')
    (hgov : isVaultGovernance ix = false) (hsalvage : isSalvage ix = false) :
    SameButConfig (step (exec rt) w ix) (step (exec rt) w' ix) := by
  refine ⟨?_, by rw [scanner_step, scanner_step, h.scanner]⟩
  by_cases hscanner : ∃ call, ix = .scanner call
  · obtain ⟨call, rfl⟩ := hscanner
    exact scanner_books rt h.books call
  · refine step_books rt h.books ?_ hsalvage
    unfold isGovernance
    split
    · exact absurd ⟨_, rfl⟩ hscanner
    · exact absurd ⟨_, rfl⟩ hscanner
    · exact hgov

/-- A governance call of the vault changes its configuration only. -/
theorem sameButConfig_governance (rt : Runtime) (h : SameButConfig w w')
    (hgov : isVaultGovernance ix = true) : SameButConfig (step (exec rt) w ix) w' := by
  refine ⟨(governance_books rt w (isGovernance_of_vault hgov)).symm.trans h.books, ?_⟩
  have hnone : scannerCalls [ix] = [] := by
    unfold isVaultGovernance at hgov
    split at hgov
    · rfl
    · rfl
    · cases hgov
  rw [scanner_step, hnone, run_nil, h.scanner]

/-- A pause of each program, and the claim of the whole bucket. -/
def pausedClaim : List Ix :=
  [.scanner (.emergencyPause true Scanner.demoAuthority),
    .vault (.emergencyPause true Scanner.demoAuthority),
    .vault (.claimLpProceeds demoClaim demoHolder)]

end World

end GraveYield
