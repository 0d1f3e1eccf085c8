import GraveYield.Authority

/-!
# The bounds of the vault's configuration

`initialize` and `update_protocol_config` check that the three shares make up the whole and that
the protocol's share is within its ceiling, also where an update gives only some of them
(`exactShares_run`). The hard maximum of the slippage is a constant that neither of them checks :
`initialize` takes any value and an update any up to 10 000 basis points.
`vaultConfig_inBounds_iff` says in which runs the stored slippage stays within it.
-/

namespace GraveYield

open Machine Checked

namespace Vault

open Scanner (orDefault)

/-- The shares make up the whole, and the protocol's is within its ceiling. -/
structure ProtocolConfig.ExactShares (cfg : ProtocolConfig) : Prop where
  sum : cfg.lpHolderShareBps.val + cfg.salvorShareBps.val + cfg.protocolShareBps.val = 10000
  ceiling : cfg.protocolShareBps.val ≤ protocolShareBpsCeiling.val

/-- The bounds that the constants document. -/
structure ProtocolConfig.InBounds (cfg : ProtocolConfig) : Prop extends cfg.ExactShares where
  slippage : cfg.maxSlippageBps.val ≤ hardMaxSlippageBps.val

/-- What the stored configuration and an update have to meet for the update to be applied. -/
structure ProtocolConfig.Admits (cfg : ProtocolConfig) (params : UpdateProtocolConfigParams) :
    Prop where
  ceiling : ∀ v ∈ params.protocolShareBps, v.val ≤ protocolShareBpsCeiling.val
  sum : (params.lpHolderShareBps.getD cfg.lpHolderShareBps).val +
    (params.salvorShareBps.getD cfg.salvorShareBps).val +
    (params.protocolShareBps.getD cfg.protocolShareBps).val = 10000
  slippage : ∀ v ∈ params.maxSlippageBps, v.val ≤ 10000

variable {cfg cfg' : ProtocolConfig}

/-- A new configuration shares out the whole. -/
theorem initialConfig_ok {params : InitializeParams} (h : initialConfig params = .ok cfg) :
    cfg.ExactShares ∧
      cfg.maxSlippageBps = orDefault params.maxSlippageBps defaultMaxSlippageBps := by
  simp only [initialConfig, checkShareSum, bind_ok_iff, require_ok_iff, exists_const,
    pure_ok_iff] at h
  obtain ⟨hceiling, hsum, rfl⟩ := h
  exact ⟨⟨hsum, hceiling⟩, rfl⟩

/-- Which updates are applied. -/
theorem applyConfigUpdate_isOk_iff {params : UpdateProtocolConfigParams} :
    (∃ cfg', applyConfigUpdate cfg params = .ok cfg') ↔ cfg.Admits params := by
  simp only [applyConfigUpdate, checkShareSum, bind_ok_iff, require_ok_iff, exists_const,
    pure_ok_iff]
  constructor
  · rintro ⟨_, hceiling, hsum, hslippage, _⟩
    exact ⟨hceiling, hsum, hslippage⟩
  · intro h
    exact ⟨_, h.ceiling, h.sum, h.slippage, rfl⟩

/-- An applied update mixes new shares with old ones, and checks the mixture. -/
theorem applyConfigUpdate_ok {params : UpdateProtocolConfigParams}
    (h : applyConfigUpdate cfg params = .ok cfg') (hcfg : cfg.ExactShares) :
    cfg'.ExactShares ∧ cfg'.maxSlippageBps = params.maxSlippageBps.getD cfg.maxSlippageBps := by
  simp only [applyConfigUpdate, checkShareSum, bind_ok_iff, require_ok_iff, exists_const,
    pure_ok_iff] at h
  obtain ⟨hceiling, hsum, _, rfl⟩ := h
  refine ⟨⟨hsum, ?_⟩, rfl⟩
  cases hp : params.protocolShareBps with
  | none => exact hcfg.ceiling
  | some v => exact hceiling v hp

end Vault

namespace World

open Vault

variable {rt : Runtime} {w w' : World} {ix : Ix}

/-! ## The steps -/

/-- The configuration of the vault is created, updated or paused, or it stays as it is. -/
theorem vaultConfig_cases (h : exec rt w ix = .ok w') :
    w'.vault.protocolConfig = w.vault.protocolConfig ∨
    (∃ params payer cfg, ix = .vault (.initializeProtocol params payer) ∧
      w.vault.protocolConfig = none ∧ initialConfig params = .ok cfg ∧
      w'.vault.protocolConfig = some cfg) ∨
    (∃ params authority cfg cfg', ix = .vault (.updateProtocolConfig params authority) ∧
      w.vault.protocolConfig = some cfg ∧ cfg.authority = authority ∧
      applyConfigUpdate cfg params = .ok cfg' ∧ w'.vault.protocolConfig = some cfg') ∨
    ∃ paused authority cfg, ix = .vault (.emergencyPause paused authority) ∧
      w.vault.protocolConfig = some cfg ∧
      w'.vault.protocolConfig = some { cfg with emergencyPaused := paused } := by
  cases ix with
  | scanner call =>
    obtain ⟨_, _, rfl⟩ := scanner_ok_iff.1 h
    exact Or.inl rfl
  | systemTransfer src dst amount =>
    obtain ⟨_, _, rfl⟩ := systemTransfer_ok_iff.1 h
    exact Or.inl rfl
  | external program metas data =>
    obtain ⟨_, _, _, rfl⟩ := external_ok_iff.1 h
    exact Or.inl rfl
  | vault call =>
    obtain ⟨v, l, hcall, rfl⟩ := vault_ok_iff.1 h
    clear h
    cases call with
    | initializeProtocol params payer =>
      obtain ⟨hnone, _, cfg, hinit, rfl⟩ := initializeProtocol_ok hcall
      exact Or.inr (Or.inl ⟨params, payer, cfg, rfl, hnone, hinit, rfl⟩)
    | updateProtocolConfig params authority =>
      simp only [execVault, bind_ok_iff, pure_ok_iff, Prod.mk.injEq] at hcall
      obtain ⟨_, hcall, rfl, rfl⟩ := hcall
      obtain ⟨cfg, cfg', hcfg, hauth, hupdate, rfl⟩ := updateProtocolConfig_ok hcall
      exact Or.inr (Or.inr (Or.inl ⟨params, authority, cfg, cfg', rfl, hcfg, hauth, hupdate, rfl⟩))
    | emergencyPause paused authority =>
      simp only [execVault, bind_ok_iff, pure_ok_iff, Prod.mk.injEq] at hcall
      obtain ⟨_, hcall, rfl, rfl⟩ := hcall
      obtain ⟨cfg, hcfg, _, _, rfl⟩ := emergencyPause_ok hcall
      exact Or.inr (Or.inr (Or.inr ⟨paused, authority, cfg, rfl, hcfg, rfl⟩))
    | salvagePool params accounts programs =>
      obtain ⟨_, _, _, _, _, _, _, _, _, _, rfl⟩ := salvagePool_ok hcall
      exact Or.inl rfl
    | claimLpProceeds params lpHolder =>
      obtain ⟨_, _, _, _, _, _, _, _, _, rfl, _⟩ := claimLpProceeds_ok hcall
      exact Or.inl rfl
    | sweepDust pool mint sweeper =>
      obtain ⟨_, _, _, _, rfl, _⟩ := sweepDust_ok hcall
      exact Or.inl rfl

/-! ## The shares -/

/-- Whatever configuration is stored has exact shares. -/
def SharesExact (w : World) : Prop :=
  ∀ cfg, w.vault.protocolConfig = some cfg → cfg.ExactShares

/-- Each instruction keeps the shares exact. -/
theorem sharesExact_exec (hw : SharesExact w) (h : exec rt w ix = .ok w') : SharesExact w' := by
  intro cfg hcfg
  rcases vaultConfig_cases h with hsame | ⟨_, _, cfg', _, _, hinit, hnew⟩ |
    ⟨_, _, old, cfg', _, hold, _, hupdate, hnew⟩ | ⟨_, _, old, _, hold, hnew⟩
  · exact hw cfg (hsame.symm.trans hcfg)
  · obtain rfl := Option.some.inj (hnew.symm.trans hcfg)
    exact (initialConfig_ok hinit).1
  · obtain rfl := Option.some.inj (hnew.symm.trans hcfg)
    exact (applyConfigUpdate_ok hupdate (hw old hold)).1
  · obtain rfl := Option.some.inj (hnew.symm.trans hcfg)
    exact ⟨(hw old hold).sum, (hw old hold).ceiling⟩

/-- In every reachable state they are. -/
theorem sharesExact_run (rt : Runtime) (clock : Clock) (ledger : Ledger) (ixs : List Ix) :
    SharesExact (run (exec rt) (genesis clock ledger) ixs) :=
  run_invariant (fun _ _ _ => sharesExact_exec) (fun _ h => absurd h (by simp [genesis,
    State.genesis])) ixs

/-! ## The slippage -/

/-- The stored configuration is within its bounds. -/
def VaultConfigInBounds (w : World) : Prop :=
  ∃ cfg, w.vault.protocolConfig = some cfg ∧ cfg.InBounds

/-- A step is no update that is applied with a slippage above the hard maximum. -/
def KeepsSlippage (w : World) : Ix → Prop
  | .vault (.updateProtocolConfig params authority) =>
    ∀ cfg, w.vault.protocolConfig = some cfg → cfg.authority = authority → cfg.Admits params →
      ∀ v ∈ params.maxSlippageBps, v.val ≤ hardMaxSlippageBps.val
  | _ => True

/-- An update of a configuration within its bounds keeps it there iff its slippage does. -/
theorem inBounds_update_iff {cfg cfg' : ProtocolConfig} {params : UpdateProtocolConfigParams}
    (hcfg : cfg.InBounds) (h : applyConfigUpdate cfg params = .ok cfg') :
    cfg'.InBounds ↔ ∀ v ∈ params.maxSlippageBps, v.val ≤ hardMaxSlippageBps.val := by
  obtain ⟨hshares, hslippage⟩ := applyConfigUpdate_ok h hcfg.toExactShares
  constructor
  · intro hb v hv
    have hle := hb.slippage
    rw [hslippage, Option.mem_def.1 hv] at hle
    exact hle
  · intro hall
    refine ⟨hshares, ?_⟩
    rw [hslippage]
    cases hp : params.maxSlippageBps with
    | none => exact hcfg.slippage
    | some v => exact hall v hp

/-- An update keeps the bounds iff it keeps the slippage. -/
theorem inBounds_updateStep_iff (hw : VaultConfigInBounds w)
    (params : UpdateProtocolConfigParams) (authority : Pubkey) :
    VaultConfigInBounds (step (exec rt) w (.vault (.updateProtocolConfig params authority))) ↔
      KeepsSlippage w (.vault (.updateProtocolConfig params authority)) := by
  obtain ⟨cfg, hcfg, hb⟩ := hw
  have hexec : exec rt w (.vault (.updateProtocolConfig params authority)) = do
      let cfg ← loadConfigAs w.vault authority
      let cfg' ← applyConfigUpdate cfg params
      return { w with vault := { w.vault with protocolConfig := some cfg' } } := by
    simp only [exec, execVault, updateProtocolConfig, bind_assoc, pure_bind]
  by_cases hadmits : cfg.authority = authority ∧ cfg.Admits params
  · obtain ⟨cfg', hupdate⟩ := applyConfigUpdate_isOk_iff.2 hadmits.2
    rw [loadConfigAs_ok_iff.2 ⟨hcfg, hadmits.1⟩, ok_bind, hupdate, ok_bind] at hexec
    rw [step_of_ok hexec]
    constructor
    · rintro ⟨c, hc, hc'⟩ cfg₀ hcfg₀ - -
      obtain rfl := Option.some.inj hc
      exact (inBounds_update_iff hb hupdate).1 hc'
    · intro hkeeps
      exact ⟨cfg', rfl, (inBounds_update_iff hb hupdate).2 (hkeeps cfg hcfg hadmits.1 hadmits.2)⟩
  · -- The update is refused.
    have hstay : step (exec rt) w (.vault (.updateProtocolConfig params authority)) = w := by
      rcases step_cases (exec rt) w (.vault (.updateProtocolConfig params authority)) with h | h
      · rw [hexec] at h
        simp only [bind_ok_iff, loadConfigAs_ok_iff] at h
        obtain ⟨cfg₀, ⟨hcfg₀, hauth⟩, cfg', hupdate, _⟩ := h
        obtain rfl := Option.some.inj (hcfg.symm.trans hcfg₀)
        exact absurd ⟨hauth, applyConfigUpdate_isOk_iff.1 ⟨cfg', hupdate⟩⟩ hadmits
      · exact h
    rw [hstay]
    refine ⟨fun _ cfg₀ hcfg₀ hauth hadm => ?_, fun _ => ⟨cfg, hcfg, hb⟩⟩
    obtain rfl := Option.some.inj (hcfg.symm.trans hcfg₀)
    exact absurd ⟨hauth, hadm⟩ hadmits

/-- No other step takes the configuration out of its bounds. -/
theorem inBounds_otherStep (hw : VaultConfigInBounds w)
    (hix : ∀ params authority, ix ≠ .vault (.updateProtocolConfig params authority)) :
    VaultConfigInBounds (step (exec rt) w ix) := by
  obtain ⟨cfg, hcfg, hb⟩ := hw
  rcases step_cases (exec rt) w ix with h | h
  · rcases vaultConfig_cases h with hsame | ⟨_, _, _, _, hnone, _⟩ |
      ⟨params, authority, _, _, heq, _⟩ | ⟨_, _, old, _, hold, hnew⟩
    · exact ⟨cfg, hsame.trans hcfg, hb⟩
    · rw [hcfg] at hnone
      cases hnone
    · exact absurd heq (hix params authority)
    · obtain rfl := Option.some.inj (hcfg.symm.trans hold)
      exact ⟨_, hnew, ⟨hb.sum, hb.ceiling⟩, hb.slippage⟩
  · rw [h]
    exact ⟨cfg, hcfg, hb⟩

/-- The same holds of every instruction. -/
theorem inBounds_step_iff (hw : VaultConfigInBounds w) (ix : Ix) :
    VaultConfigInBounds (step (exec rt) w ix) ↔ KeepsSlippage w ix := by
  by_cases hix : ∃ params authority, ix = .vault (.updateProtocolConfig params authority)
  · obtain ⟨params, authority, rfl⟩ := hix
    exact inBounds_updateStep_iff hw params authority
  · simp only [not_exists] at hix
    refine ⟨fun _ => ?_, fun _ => inBounds_otherStep hw hix⟩
    unfold KeepsSlippage
    split
    · exact absurd rfl (hix _ _)
    · trivial

/-- After an accepted `initialize`, along every sequence of instructions : the stored configuration
is within its bounds in every state iff the submitted slippage is within the hard maximum, and so
is the slippage of every update that is otherwise applied. -/
theorem vaultConfig_inBounds_iff (rt : Runtime) (w w₁ : World) (params : InitializeParams)
    (payer : Pubkey) (h : exec rt w (.vault (.initializeProtocol params payer)) = .ok w₁)
    (ixs : List Ix) :
    (∀ pre, pre <+: ixs → VaultConfigInBounds (run (exec rt) w₁ pre)) ↔
      params.maxSlippageBps.val ≤ hardMaxSlippageBps.val ∧
        AlongRun (exec rt) KeepsSlippage w₁ ixs := by
  obtain ⟨v, l, hcall, rfl⟩ := vault_ok_iff.1 h
  obtain ⟨_, _, cfg, hinit, rfl⟩ := initializeProtocol_ok hcall
  obtain ⟨hshares, hslippage⟩ := initialConfig_ok hinit
  have hdefault : cfg.maxSlippageBps.val ≤ hardMaxSlippageBps.val ↔
      params.maxSlippageBps.val ≤ hardMaxSlippageBps.val := by
    rw [hslippage]
    unfold Scanner.orDefault
    split_ifs with hzero
    · simp [hzero, defaultMaxSlippageBps, hardMaxSlippageBps]
    · rfl
  constructor
  · intro hall
    obtain ⟨cfg', hcfg', hb⟩ := hall [] List.nil_prefix
    obtain rfl := Option.some.inj hcfg'
    exact ⟨hdefault.1 hb.slippage, (forall_prefix_iff_alongRun (I := VaultConfigInBounds)
      (fun _ ix hw => inBounds_step_iff hw ix) ⟨cfg, rfl, hb⟩ ixs).1 hall⟩
  · rintro ⟨hle, halong⟩
    exact (forall_prefix_iff_alongRun (I := VaultConfigInBounds)
      (fun _ ix hw => inBounds_step_iff hw ix) ⟨cfg, rfl, hshares, hdefault.2 hle⟩ ixs).2 halong

/-! ## An update above the hard maximum -/

/-- `initialize` with every field at its default. -/
def defaultInitialize : Ix :=
  .vault (.initializeProtocol ⟨Scanner.demoAuthority, 0, 0, 0, 0, 0, 0, 0⟩ demoSalvor)

/-- An update of the slippage alone. -/
def slippageUpdate (maxSlippageBps : U16) : Ix :=
  .vault (.updateProtocolConfig ⟨none, none, none, none, some maxSlippageBps, none, none⟩
    Scanner.demoAuthority)

theorem isOk_defaultInitialize : (exec Scanner.demoRuntime
    (genesis Scanner.demoClock demoLedger) defaultInitialize).isOk = true := by
  decide +kernel

/-- What it stores. -/
def defaultConfig : ProtocolConfig where
  authority := Scanner.demoAuthority
  pendingAuthority := defaultPubkey
  pendingAuthorityEta := 0
  lpHolderShareBps := 4000
  salvorShareBps := 4000
  protocolShareBps := 2000
  maxPriorityFeeCeilingLamports := 1000000000
  maxSlippageBps := 300
  jupiterDustThresholdLamports := 666666
  timelockSeconds := 259200
  emergencyPaused := false

theorem stored_defaultInitialize : (run (exec Scanner.demoRuntime)
    (genesis Scanner.demoClock demoLedger) [defaultInitialize]).vault.protocolConfig =
      some defaultConfig := by
  decide +kernel

theorem vaultConfig_inBounds_iff_demo : ∃ w₁,
    exec Scanner.demoRuntime (genesis Scanner.demoClock demoLedger) defaultInitialize = .ok w₁ ∧
      VaultConfigInBounds (run (exec Scanner.demoRuntime) w₁ [slippageUpdate 500]) := by
  obtain ⟨w₁, hw₁⟩ := exists_ok_of_isOk isOk_defaultInitialize
  refine ⟨w₁, hw₁, (vaultConfig_inBounds_iff Scanner.demoRuntime _ w₁ _ _ hw₁
    [slippageUpdate 500]).2 ⟨by decide, ⟨?_, trivial⟩⟩ _ List.prefix_rfl⟩
  intro cfg _ _ _ v hv
  obtain rfl := Option.some.inj hv
  decide

/-- Half of the whole is accepted as a slippage and stored. -/
theorem vaultConfig_outOfBounds : ∃ w₁,
    exec Scanner.demoRuntime (genesis Scanner.demoClock demoLedger) defaultInitialize = .ok w₁ ∧
      ¬VaultConfigInBounds (run (exec Scanner.demoRuntime) w₁ [slippageUpdate 5000]) := by
  obtain ⟨w₁, hw₁⟩ := exists_ok_of_isOk isOk_defaultInitialize
  have hstored : w₁.vault.protocolConfig = some defaultConfig := by
    have hrun := stored_defaultInitialize
    rwa [run_cons, step_of_ok hw₁] at hrun
  have hbounds : VaultConfigInBounds w₁ :=
    ⟨defaultConfig, hstored, ⟨by decide, by decide⟩, by decide⟩
  refine ⟨w₁, hw₁, fun hb => ?_⟩
  have hadmits : defaultConfig.Admits ⟨none, none, none, none, some 5000, none, none⟩ := by
    refine ⟨by simp, by decide, fun v hv => ?_⟩
    obtain rfl := Option.some.inj hv
    decide
  have hle := (inBounds_updateStep_iff hbounds _ _).1 hb defaultConfig hstored rfl hadmits 5000 rfl
  exact absurd hle (by decide)

end World

end GraveYield
