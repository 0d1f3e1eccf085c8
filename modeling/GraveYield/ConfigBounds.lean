import GraveYield.Lifecycle

/-!
# The bounds of the configuration

`update_protocol_config` keeps the collapse threshold at or below 10 000 basis points, the
staleness window at or above three epochs and the time to live at or above ten minutes.
`initialize` checks the last two only. `inBounds_run` : a configuration within the bounds
stays there, whatever is called; `initialize_inBounds_iff` : one that `initialize` has written
is within the bounds, then and ever after, iff the submitted threshold is.
-/

namespace GraveYield.Scanner

open Machine Checked

variable {rt : Runtime} {s s' : State} {call : Call}

/-- The bounds that governance cannot leave. -/
structure ProtocolConfig.InBounds (cfg : ProtocolConfig) : Prop where
  collapse : cfg.priceCollapseBps.val ≤ 10000
  staleness : minAnchorStalenessSeconds.val ≤ cfg.anchorStalenessSeconds.val
  ttl : minCertTtlSeconds ≤ cfg.certTtlSeconds

/-- The stored configuration is within the bounds. -/
def ConfigInBounds (s : State) : Prop :=
  ∃ cfg, s.protocolConfig = some cfg ∧ cfg.InBounds

/-- What `initialize` writes is within the bounds iff the submitted threshold is : the default
that stands for zero is, and the other two bounds are checked. -/
theorem initialConfig_inBounds_iff {params : InitializeParams} {cfg : ProtocolConfig}
    (h : initialConfig params = .ok cfg) :
    cfg.InBounds ↔ params.priceCollapseBps.val ≤ 10000 := by
  have httl : minCertTtlSeconds ≤ cfg.certTtlSeconds := initialConfig_certTtl h
  simp only [initialConfig, bind_ok_iff, require_ok_iff, exists_const, pure_ok_iff] at h
  obtain ⟨hstaleness, _, rfl⟩ := h
  have hcollapse : (orDefault params.priceCollapseBps defaultPriceCollapseBps).val ≤ 10000 ↔
      params.priceCollapseBps.val ≤ 10000 := by
    unfold orDefault
    split_ifs with hzero
    · simp [hzero, defaultPriceCollapseBps]
    · rfl
  constructor
  · intro hb
    exact hcollapse.1 hb.collapse
  · intro hle
    refine ⟨hcollapse.2 hle, ?_, httl⟩
    simp only [orDefault]
    split_ifs with hzero
    · decide
    · exact hstaleness.resolve_left hzero

/-- Each field that an update gives is checked against its bound, and the others are kept. -/
theorem applyConfigUpdate_inBounds {cfg cfg' : ProtocolConfig}
    {params : UpdateProtocolConfigParams} (h : applyConfigUpdate cfg params = .ok cfg')
    (hcfg : cfg.InBounds) : cfg'.InBounds := by
  have httl : minCertTtlSeconds ≤ cfg'.certTtlSeconds := applyConfigUpdate_certTtl h hcfg.ttl
  simp only [applyConfigUpdate, bind_ok_iff, require_ok_iff, exists_const, pure_ok_iff] at h
  obtain ⟨hcollapse, hstaleness, _, rfl⟩ := h
  refine ⟨?_, ?_, httl⟩
  · cases hp : params.priceCollapseBps with
    | none => exact hcfg.collapse
    | some v => exact hcollapse v hp
  · cases hp : params.anchorStalenessSeconds with
    | none => exact hcfg.staleness
    | some v => exact hstaleness v hp

theorem inBounds_exec (hs : ConfigInBounds s) (h : exec rt s call = .ok s') :
    ConfigInBounds s' := by
  obtain ⟨cfg, hcfg, hb⟩ := hs
  cases exec_effect h with
  | initializeProtocol params cfg' =>
    -- The account is already in use.
    have hfree := (initializeProtocol_ok h).1
    rw [hcfg] at hfree
    cases hfree
  | updateProtocolConfig params authority cfg₀ cfg' hcfg₀ hupdate =>
    obtain rfl := Option.some.inj (hcfg.symm.trans hcfg₀)
    exact ⟨cfg', rfl, applyConfigUpdate_inBounds hupdate hb⟩
  | emergencyPause paused authority cfg₀ hcfg₀ =>
    obtain rfl := Option.some.inj (hcfg.symm.trans hcfg₀)
    exact ⟨_, rfl, hb.collapse, hb.staleness, hb.ttl⟩
  | _ => exact ⟨cfg, hcfg, hb⟩

theorem inBounds_run (rt : Runtime) (hs : ConfigInBounds s) (calls : List Call) :
    ConfigInBounds (run (exec rt) s calls) :=
  run_invariant (fun _ _ _ => inBounds_exec) hs calls

/-- After an accepted `initialize`, along every sequence of calls : the configuration is within
its bounds in every state iff the submitted collapse threshold is at most 10 000. -/
theorem initialize_inBounds_iff (rt : Runtime) (s s₁ : State) (params : InitializeParams)
    (h : exec rt s (.initializeProtocol params) = .ok s₁) (calls : List Call) :
    (∀ pre, pre <+: calls → ConfigInBounds (run (exec rt) s₁ pre)) ↔
      params.priceCollapseBps.val ≤ 10000 := by
  obtain ⟨_, cfg, hinit, rfl⟩ := initializeProtocol_ok h
  have hiff := initialConfig_inBounds_iff hinit
  constructor
  · intro hall
    obtain ⟨cfg', hcfg', hb⟩ := hall [] List.nil_prefix
    obtain rfl := Option.some.inj hcfg'
    exact hiff.1 hb
  · intro hle pre _
    exact inBounds_run rt ⟨cfg, rfl, hiff.2 hle⟩ pre

/-- The parameters of a deployment that leaves everything but the threshold at its default. -/
def thresholdParams (priceCollapseBps : U16) : InitializeParams :=
  ⟨demoAuthority, 0, priceCollapseBps, 0, 0, 0, 0⟩

theorem isOk_initialize_threshold :
    (exec demoRuntime (State.genesis demoClock)
      (.initializeProtocol (thresholdParams 10000))).isOk = true ∧
    (exec demoRuntime (State.genesis demoClock)
      (.initializeProtocol (thresholdParams 20000))).isOk = true := by
  decide +kernel

theorem initialize_inBounds_iff_demo : ∃ s₁,
    exec demoRuntime (State.genesis demoClock) (.initializeProtocol (thresholdParams 10000)) =
      .ok s₁ ∧ ∀ calls, ConfigInBounds (run (exec demoRuntime) s₁ calls) := by
  obtain ⟨s₁, hs₁⟩ := exists_ok_of_isOk isOk_initialize_threshold.1
  refine ⟨s₁, hs₁, fun calls => ?_⟩
  have hall := (initialize_inBounds_iff demoRuntime _ s₁ _ hs₁ calls).2 (by decide)
  exact hall calls List.prefix_rfl

/-- A threshold of 20 000 basis points is accepted and stored. -/
theorem initialize_outOfBounds : ∃ s₁,
    exec demoRuntime (State.genesis demoClock) (.initializeProtocol (thresholdParams 20000)) =
      .ok s₁ ∧ ¬ConfigInBounds s₁ := by
  obtain ⟨s₁, hs₁⟩ := exists_ok_of_isOk isOk_initialize_threshold.2
  obtain ⟨_, cfg, hinit, rfl⟩ := initializeProtocol_ok hs₁
  refine ⟨_, hs₁, ?_⟩
  rintro ⟨cfg', hcfg', hb⟩
  obtain rfl := Option.some.inj hcfg'
  exact absurd ((initialConfig_inBounds_iff hinit).1 hb) (by decide)

end GraveYield.Scanner
