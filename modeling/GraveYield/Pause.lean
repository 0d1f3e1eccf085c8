import GraveYield.Governance

/-!
# What a pause stops

Each program has its own pause, and only the authority of its configuration lifts it. Until it
does, whatever else is done : under the pause of the scanner there are no new prices, anchors or
certs, and the anchors that are there can only be invalidated or swept (`Scanner.Frozen`); under the
pause of the vault no pool is salvaged, and of the registries and receipts only the claimed totals
and the times of the dust sweeps move (`Vault.Frozen`). A pause does not reach the other program : a
cert of a paused scanner is still redeemed by a vault that is not paused.
-/

namespace GraveYield

open Machine Checked

/-! ## The scanner -/

namespace Scanner

variable {rt : Runtime} {s s' : State} {call : Call} {authority : Pubkey}

/-- The scanner is paused, under `authority`. -/
def Paused (s : State) (authority : Pubkey) : Prop :=
  ∃ cfg, s.protocolConfig = some cfg ∧ cfg.authority = authority ∧ cfg.paused = true

/-- The calls that a pause refuses. -/
def Call.isEvaluation : Call → Bool
  | .recordLaunchPrice _ _ | .evaluatePoolPhase1 _ _ | .evaluatePoolPhase2 _ _ => true
  | _ => false

/-- No prices and no certs were written, and no anchors but to invalidate or to sweep them. -/
structure Frozen (s s' : State) : Prop where
  launchPrices : s'.launchPrices = s.launchPrices
  certs : s'.certs = s.certs
  anchors : ∀ key a', s'.anchors key = some a' →
    ∃ a, s.anchors key = some a ∧ (a' = a ∨ a' = { a with invalidated := true })

theorem Frozen.refl (s : State) : Frozen s s :=
  ⟨rfl, rfl, fun _ a h => ⟨a, h, Or.inl rfl⟩⟩

theorem Frozen.trans {s'' : State} (h : Frozen s s') (h' : Frozen s' s'') : Frozen s s'' := by
  refine ⟨h'.launchPrices.trans h.launchPrices, h'.certs.trans h.certs, fun key a'' ha'' => ?_⟩
  obtain ⟨a', ha', heq'⟩ := h'.anchors key a'' ha''
  obtain ⟨a, ha, heq⟩ := h.anchors key a' ha'
  refine ⟨a, ha, ?_⟩
  rcases heq' with rfl | rfl
  · exact heq
  · rcases heq with rfl | rfl <;> exact Or.inr rfl

/-- A paused scanner refuses the evaluations. -/
theorem Paused.refuses (hp : Paused s authority) (he : call.isEvaluation = true) :
    exec rt s call ≠ .ok s' := by
  obtain ⟨cfg, hcfg, _, hpaused⟩ := hp
  have hactive : ∀ cfg', s.protocolConfig = some cfg' → cfg'.paused ≠ false := by
    intro cfg' hcfg'
    rw [hcfg, Option.some.injEq] at hcfg'
    rw [← hcfg', hpaused]
    decide
  intro h
  cases call with
  | recordLaunchPrice params sysvar =>
    obtain ⟨_, cfg', _, hcfg', hfalse, _⟩ := recordLaunchPrice_ok h
    exact hactive cfg' hcfg' hfalse
  | evaluatePoolPhase1 params accounts =>
    obtain ⟨cfg', _, _, _, _, hcfg', hfalse, _⟩ := evaluatePoolPhase1_ok h
    exact hactive cfg' hcfg' hfalse
  | evaluatePoolPhase2 params accounts =>
    obtain ⟨cfg', _, _, _, _, _, hcfg', hfalse, _⟩ := evaluatePoolPhase2_ok h
    exact hactive cfg' hcfg' hfalse
  | _ => cases he

/-- Anything but the resumption keeps a paused scanner paused and frozen. -/
theorem Paused.step (hp : Paused s authority) (hno : call ≠ .emergencyPause false authority)
    (h : exec rt s call = .ok s') : Paused s' authority ∧ Frozen s s' := by
  have hrefused : call.isEvaluation = true → exec rt s call ≠ .ok s' := hp.refuses
  obtain ⟨cfg, hcfg, hauthority, hpaused⟩ := hp
  cases call with
  | initializeProtocol params =>
    rw [(initializeProtocol_ok h).1] at hcfg
    cases hcfg
  | recordLaunchPrice params sysvar => exact absurd h (hrefused rfl)
  | evaluatePoolPhase1 params accounts => exact absurd h (hrefused rfl)
  | evaluatePoolPhase2 params accounts => exact absurd h (hrefused rfl)
  | updateProtocolConfig params signer =>
    obtain ⟨cfg', cfg'', hcfg', _, hupdate, rfl⟩ := updateProtocolConfig_ok h
    obtain rfl := Option.some.inj (hcfg.symm.trans hcfg')
    simp only [applyConfigUpdate, bind_ok_iff, require_ok_iff, exists_const, pure_ok_iff] at hupdate
    obtain ⟨_, _, _, rfl⟩ := hupdate
    exact ⟨⟨_, rfl, hauthority, hpaused⟩, rfl, rfl, fun _ a ha => ⟨a, ha, Or.inl rfl⟩⟩
  | emergencyPause paused signer =>
    obtain ⟨cfg', hcfg', hsigner, _, rfl⟩ := emergencyPause_ok h
    obtain rfl := Option.some.inj (hcfg.symm.trans hcfg')
    refine ⟨⟨_, rfl, hauthority, ?_⟩, rfl, rfl, fun _ a ha => ⟨a, ha, Or.inl rfl⟩⟩
    cases paused with
    | true => rfl
    | false => exact absurd (by rw [← hsigner, hauthority]) hno
  | invalidateAnchor key signer =>
    obtain ⟨_, a, _, _, ha, _, rfl⟩ := invalidateAnchor_ok h
    refine ⟨⟨cfg, hcfg, hauthority, hpaused⟩, rfl, rfl, fun k a' ha' => ?_⟩
    rcases Vault.of_update_eq_some ha' with ⟨rfl, rfl⟩ | ⟨_, hk⟩
    · exact ⟨a, ha, Or.inr rfl⟩
    · exact ⟨a', hk, Or.inl rfl⟩
  | sweepStaleAnchor key writer =>
    obtain ⟨_, a, _, _, _, _, rfl⟩ := sweepStaleAnchor_ok h
    refine ⟨⟨cfg, hcfg, hauthority, hpaused⟩, rfl, rfl, fun k a' ha' => ?_⟩
    change Function.update s.anchors key none k = some a' at ha'
    by_cases hk : k = key
    · rw [hk, Function.update_self] at ha'
      cases ha'
    · rw [Function.update_of_ne hk] at ha'
      exact ⟨a', ha', Or.inl rfl⟩
  | tick clock =>
    obtain ⟨_, rfl⟩ := tick_ok h
    exact ⟨⟨cfg, hcfg, hauthority, hpaused⟩, rfl, rfl, fun _ a ha => ⟨a, ha, Or.inl rfl⟩⟩

end Scanner

/-! ## The vault -/

namespace Vault

variable {v v' : State}

/-- The vault is paused, under `authority`. -/
def Paused (v : State) (authority : Pubkey) : Prop :=
  ∃ cfg, v.protocolConfig = some cfg ∧ cfg.authority = authority ∧ cfg.emergencyPaused = true

/-- A registry but for what is claimed. -/
def PoolRegistry.unclaimed (r : PoolRegistry) : PoolRegistry :=
  { r with lpHolderPoolClaimedLamports := 0 }

/-- A receipt but for the time of its dust sweep. -/
def SalvageReceipt.unswept (r : SalvageReceipt) : SalvageReceipt :=
  { r with dustSweptAtTs := 0 }

/-- No pool was settled, and of those that were only claims and sweeps took anything. -/
structure Frozen (v v' : State) : Prop where
  registries : ∀ pool, (v'.registries pool).map PoolRegistry.unclaimed =
    (v.registries pool).map PoolRegistry.unclaimed
  receipts : ∀ pool, (v'.receipts pool).map SalvageReceipt.unswept =
    (v.receipts pool).map SalvageReceipt.unswept

theorem Frozen.refl (v : State) : Frozen v v :=
  ⟨fun _ => rfl, fun _ => rfl⟩

theorem Frozen.trans {v'' : State} (h : Frozen v v') (h' : Frozen v' v'') : Frozen v v'' :=
  ⟨fun pool => (h'.registries pool).trans (h.registries pool),
    fun pool => (h'.receipts pool).trans (h.receipts pool)⟩

theorem map_update_of_eq {α β : Type} {f : Pubkey → Option α} {g : α → β} {k : Pubkey} {a b : α}
    (ha : f k = some a) (hg : g b = g a) (k' : Pubkey) :
    (Function.update f k (some b) k').map g = (f k').map g := by
  by_cases hk : k' = k
  · rw [hk, Function.update_self, ha, Option.map_some, Option.map_some, hg]
  · rw [Function.update_of_ne hk]

end Vault

namespace World

variable {rt : Runtime} {w w' : World} {ix : Ix} {authority : Pubkey}

/-- While the scanner is paused a step leaves it paused and frozen. -/
theorem scannerPause_step (hp : Scanner.Paused w.scanner authority)
    (hno : ix ≠ .scanner (.emergencyPause false authority)) (h : exec rt w ix = .ok w') :
    Scanner.Paused w'.scanner authority ∧ Scanner.Frozen w.scanner w'.scanner := by
  cases ix with
  | scanner call =>
    obtain ⟨s, hcall, rfl⟩ := scanner_ok_iff.1 h
    exact hp.step (fun heq => hno (congrArg _ heq)) hcall
  | _ =>
    rw [scanner_exec h rfl]
    exact ⟨hp, Scanner.Frozen.refl _⟩

/-- A paused vault refuses every salvage. -/
theorem salvage_refused (hp : Vault.Paused w.vault authority) {params : Vault.SalvagePoolParams}
    {accounts : Vault.SalvageAccounts} {programs : Vault.Programs} :
    exec rt w (.vault (.salvagePool params accounts programs)) ≠ .ok w' := by
  obtain ⟨cfg, hcfg, _, hpaused⟩ := hp
  intro h
  obtain ⟨v, l, hcall, _⟩ := vault_ok_iff.1 h
  obtain ⟨p, _, _, _, _, _, hprepare, _⟩ := Vault.salvagePool_ok hcall
  obtain ⟨hpre, _⟩ := Vault.prepare_ok hprepare
  obtain rfl : cfg = p.cfg := Option.some.inj (hcfg.symm.trans hpre.config)
  rw [hpre.notPaused] at hpaused
  cases hpaused

/-- Anything but the resumption keeps a paused vault paused and frozen. -/
theorem vaultPause_step (hp : Vault.Paused w.vault authority)
    (hno : ix ≠ .vault (.emergencyPause false authority)) (h : exec rt w ix = .ok w') :
    Vault.Paused w'.vault authority ∧ Vault.Frozen w.vault w'.vault := by
  cases ix with
  | scanner call =>
    obtain ⟨_, _, rfl⟩ := scanner_ok_iff.1 h
    exact ⟨hp, Vault.Frozen.refl _⟩
  | systemTransfer src dst amount =>
    obtain ⟨_, _, rfl⟩ := systemTransfer_ok_iff.1 h
    exact ⟨hp, Vault.Frozen.refl _⟩
  | external program metas data =>
    obtain ⟨_, _, _, rfl⟩ := external_ok_iff.1 h
    exact ⟨hp, Vault.Frozen.refl _⟩
  | vault call =>
    obtain ⟨v, l, hcall, rfl⟩ := vault_ok_iff.1 h
    have hsalvage : ∀ params accounts programs, call ≠ .salvagePool params accounts programs := by
      rintro params accounts programs rfl
      exact salvage_refused hp h
    obtain ⟨cfg, hcfg, hauthority, hpaused⟩ := hp
    cases call with
    | salvagePool params accounts programs => exact absurd rfl (hsalvage params accounts programs)
    | initializeProtocol params payer =>
      rw [(Vault.initializeProtocol_ok hcall).1] at hcfg
      cases hcfg
    | updateProtocolConfig params signer =>
      simp only [execVault, bind_ok_iff, pure_ok_iff, Prod.mk.injEq] at hcall
      obtain ⟨_, hcall, rfl, rfl⟩ := hcall
      obtain ⟨cfg', _, hcfg', _, hupdate, rfl⟩ := Vault.updateProtocolConfig_ok hcall
      obtain rfl := Option.some.inj (hcfg.symm.trans hcfg')
      simp only [Vault.applyConfigUpdate, bind_ok_iff, require_ok_iff, exists_const,
        pure_ok_iff] at hupdate
      obtain ⟨_, _, _, _, rfl⟩ := hupdate
      exact ⟨⟨_, rfl, hauthority, hpaused⟩, fun _ => rfl, fun _ => rfl⟩
    | emergencyPause paused signer =>
      simp only [execVault, bind_ok_iff, pure_ok_iff, Prod.mk.injEq] at hcall
      obtain ⟨_, hcall, rfl, rfl⟩ := hcall
      obtain ⟨cfg', hcfg', hsigner, _, rfl⟩ := Vault.emergencyPause_ok hcall
      obtain rfl := Option.some.inj (hcfg.symm.trans hcfg')
      refine ⟨⟨_, rfl, hauthority, ?_⟩, fun _ => rfl, fun _ => rfl⟩
      cases paused with
      | true => rfl
      | false => exact absurd (by rw [← hsigner, hauthority]) hno
    | claimLpProceeds params lpHolder =>
      obtain ⟨_, _, _, _, hreg, _, _, _, _, rfl, _⟩ := Vault.claimLpProceeds_ok hcall
      exact ⟨⟨cfg, hcfg, hauthority, hpaused⟩, Vault.map_update_of_eq hreg rfl, fun _ => rfl⟩
    | sweepDust pool mint sweeper =>
      obtain ⟨_, hreceipt, _, _, rfl, _⟩ := Vault.sweepDust_ok hcall
      exact ⟨⟨cfg, hcfg, hauthority, hpaused⟩, fun _ => rfl,
        Vault.map_update_of_eq hreceipt rfl⟩

/-! ## Over a run -/

/-- A pause holds until its authority lifts it. From every state, over every run in which the
authority signs no resumption : a paused scanner is still paused, has written no price, no cert and
no anchor, and refuses every evaluation; a paused vault is still paused, has settled no pool, and
refuses every salvage. -/
theorem pause_freezes (rt : Runtime) (w : World) (ixs : List Ix) (authority : Pubkey) :
    let w' := run (exec rt) w ixs
    (Scanner.Paused w.scanner authority →
      .scanner (.emergencyPause false authority) ∉ ixs →
      Scanner.Paused w'.scanner authority ∧ Scanner.Frozen w.scanner w'.scanner ∧
        ∀ call w'', call.isEvaluation = true → exec rt w' (.scanner call) ≠ .ok w'') ∧
    (Vault.Paused w.vault authority → .vault (.emergencyPause false authority) ∉ ixs →
      Vault.Paused w'.vault authority ∧ Vault.Frozen w.vault w'.vault ∧
        ∀ params accounts programs w'',
          exec rt w' (.vault (.salvagePool params accounts programs)) ≠ .ok w'') := by
  intro w'
  refine ⟨fun hp hno => ?_, fun hp hno => ?_⟩
  · have hrun : Scanner.Paused w'.scanner authority ∧ Scanner.Frozen w.scanner w'.scanner := by
      refine @run_invariant_of_along _ _ _ _ (fun u : World => Scanner.Paused u.scanner authority ∧
        Scanner.Frozen w.scanner u.scanner) (fun _ ix => ix ∈ ixs) ?_ w ixs
        ⟨hp, Scanner.Frozen.refl _⟩ (alongRun_of_forall fun _ _ hi => hi)
      rintro u ix u' ⟨hpu, hfu⟩ hix h
      obtain ⟨hpu', hfu'⟩ := scannerPause_step hpu (fun heq => hno (heq ▸ hix)) h
      exact ⟨hpu', hfu.trans hfu'⟩
    refine ⟨hrun.1, hrun.2, fun call w'' he h => ?_⟩
    obtain ⟨_, hcall, _⟩ := scanner_ok_iff.1 h
    exact hrun.1.refuses he hcall
  · have hrun : Vault.Paused w'.vault authority ∧ Vault.Frozen w.vault w'.vault := by
      refine @run_invariant_of_along _ _ _ _ (fun u : World => Vault.Paused u.vault authority ∧
        Vault.Frozen w.vault u.vault) (fun _ ix => ix ∈ ixs) ?_ w ixs
        ⟨hp, Vault.Frozen.refl _⟩ (alongRun_of_forall fun _ _ hi => hi)
      rintro u ix u' ⟨hpu, hfu⟩ hix h
      obtain ⟨hpu', hfu'⟩ := vaultPause_step hpu (fun heq => hno (heq ▸ hix)) h
      exact ⟨hpu', hfu.trans hfu'⟩
    exact ⟨hrun.1, hrun.2, fun _ _ _ _ => salvage_refused hrun.1⟩

/-- The demonstration pool is certified, then both programs are paused. -/
def pausedWorld : World :=
  run (exec Scanner.demoRuntime) (genesis Scanner.demoClock demoLedger)
    (demoSetup ++ [.scanner (.emergencyPause true Scanner.demoAuthority),
      .vault (.emergencyPause true Scanner.demoAuthority)])

theorem paused_scanner_demo : Scanner.Paused pausedWorld.scanner Scanner.demoAuthority := by
  have h : pausedWorld.scanner.protocolConfig.map (fun cfg => (cfg.authority, cfg.paused)) =
      some (Scanner.demoAuthority, true) := by decide +kernel
  obtain ⟨cfg, hcfg, heq⟩ := Option.map_eq_some_iff.1 h
  exact ⟨cfg, hcfg, congrArg Prod.fst heq, congrArg Prod.snd heq⟩

theorem paused_vault_demo : Vault.Paused pausedWorld.vault Scanner.demoAuthority := by
  have h : pausedWorld.vault.protocolConfig.map (fun cfg => (cfg.authority, cfg.emergencyPaused)) =
      some (Scanner.demoAuthority, true) := by decide +kernel
  obtain ⟨cfg, hcfg, heq⟩ := Option.map_eq_some_iff.1 h
  exact ⟨cfg, hcfg, congrArg Prod.fst heq, congrArg Prod.snd heq⟩

/-- The salvage that succeeds before the pause (`isOk_demoSalvage`) is refused after it. -/
theorem pause_freezes_demo :
    Scanner.Frozen pausedWorld.scanner
      (run (exec Scanner.demoRuntime) pausedWorld [demoSalvage]).scanner ∧
    ∀ w', exec Scanner.demoRuntime (run (exec Scanner.demoRuntime) pausedWorld [demoSalvage])
      demoSalvage ≠ .ok w' := by
  obtain ⟨hscanner, hvault⟩ :=
    pause_freezes Scanner.demoRuntime pausedWorld [demoSalvage] Scanner.demoAuthority
  exact ⟨(hscanner paused_scanner_demo (by simp [demoSalvage])).2.1,
    fun w' => (hvault paused_vault_demo (by simp [demoSalvage])).2.2 _ _ _ w'⟩

end World

end GraveYield
