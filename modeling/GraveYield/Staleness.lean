import GraveYield.Lifecycle

/-!
# Anchors, their invalidation and their sweep

`anchor_cases` is the life of one anchor account : free, written by Phase 1 with the epoch of
that step, invalidated, and swept once the epoch has passed the staleness window. The window
is at least three epochs whatever is configured, so that an anchor stays in place through the
first three epochs after its own, and an invalidated one keeps its pool uncertified until a new
anchor has been confirmed.

A cert outlives its anchor when Phase 2 runs late : `lateSweep_outruns` reissues in the very
epoch of the sweep. `sweepsExpired_of_timely` is the guarantee for runs in which every cert
expires before its anchor can be swept.
-/

namespace GraveYield.Scanner

open Machine Checked

variable {rt : Runtime} {s s' : State} {call : Call} {key : PoolKey}

/-! ## One step of the clock and of an anchor -/

theorem Clock.Precedes.refl (c : Clock) : Clock.Precedes c c :=
  ⟨le_rfl, le_rfl, le_rfl⟩

theorem Clock.Precedes.trans {a b c : Clock} (h : Clock.Precedes a b) (h' : Clock.Precedes b c) :
    Clock.Precedes a c :=
  ⟨h.1.trans h'.1, h.2.1.trans h'.2.1, h.2.2.trans h'.2.2⟩

/-- Only `tick` moves the clock. -/
theorem clock_exec (h : exec rt s call = .ok s') :
    s'.clock = s.clock ∨ ∃ clock, call = .tick clock ∧ s'.clock = clock ∧
      Clock.Precedes s.clock clock := by
  cases exec_effect h with
  | tick clock hclock => exact Or.inr ⟨clock, rfl, rfl, hclock⟩
  | _ => exact Or.inl rfl

/-- No call sets the clock back. -/
theorem precedes_exec (h : exec rt s call = .ok s') : Clock.Precedes s.clock s'.clock := by
  rcases clock_exec h with heq | ⟨clock, _, heq, hp⟩
  · rw [heq]
    exact Clock.Precedes.refl _
  · rwa [heq]

/-- The clock meets `P` at the start and after every tick. -/
def ClockMeets (P : Clock → Prop) (clock : Clock) (calls : List Call) : Prop :=
  P clock ∧ ∀ c, .tick c ∈ calls → P c

theorem ClockMeets.of_append {P : Clock → Prop} {clock : Clock} {pre post : List Call}
    (h : ClockMeets P clock (pre ++ post)) : ClockMeets P clock pre :=
  ⟨h.1, fun c hc => h.2 c (List.mem_append_left _ hc)⟩

/-- In every state that is reached the clock has the property. -/
theorem clock_run (rt : Runtime) {P : Clock → Prop} {clock : Clock} {calls : List Call}
    (h : ClockMeets P clock calls) : P (run (exec rt) (State.genesis clock) calls).clock := by
  induction calls using List.reverseRecOn with
  | nil => exact h.1
  | append_singleton calls call ih =>
    have hpre := ih h.of_append
    rw [run_concat]
    rcases step_cases (exec rt) (run (exec rt) (State.genesis clock) calls) call with hstep | hstep
    · rcases clock_exec hstep with heq | ⟨c, rfl, heq, _⟩
      · rwa [heq]
      · rw [heq]
        exact h.2 c (by simp)
    · rwa [hstep]

/-- The whole life of the anchor at `key`, step by step. -/
theorem anchor_cases (h : exec rt s call = .ok s') (key : PoolKey) :
    s'.anchors key = s.anchors key ∨
    (∃ params accounts a, call = .evaluatePoolPhase1 params accounts ∧ params.key = key ∧
      s.anchors key = none ∧ s'.anchors key = some a ∧ a.firstEligibleEpoch = s.clock.epoch ∧
      a.invalidated = false) ∨
    (∃ authority a, call = .invalidateAnchor key authority ∧ s.anchors key = some a ∧
      a.invalidated = false ∧ s'.anchors key = some { a with invalidated := true }) ∨
    ∃ writer cfg a, call = .sweepStaleAnchor key writer ∧ s.protocolConfig = some cfg ∧
      s.anchors key = some a ∧ s'.anchors key = none ∧
      sweepGate a.firstEligibleEpoch cfg.anchorStalenessSeconds s.clock.epoch = .ok () := by
  cases exec_effect h with
  | evaluatePoolPhase1 params accounts a hnone hepoch hvalid =>
    by_cases hk : params.key = key
    · subst hk
      exact Or.inr (Or.inl ⟨params, accounts, a, rfl, rfl, hnone, Function.update_self _ _ _,
        hepoch, hvalid⟩)
    · exact Or.inl (Function.update_of_ne (Ne.symm hk) _ _)
  | invalidateAnchor k authority a ha hvalid =>
    by_cases hk : k = key
    · subst hk
      exact Or.inr (Or.inr (Or.inl ⟨authority, a, rfl, ha, hvalid, Function.update_self _ _ _⟩))
    · exact Or.inl (Function.update_of_ne (Ne.symm hk) _ _)
  | sweepStaleAnchor k writer cfg a hcfg ha hgate =>
    by_cases hk : k = key
    · subst hk
      exact Or.inr (Or.inr (Or.inr
        ⟨writer, cfg, a, rfl, hcfg, ha, Function.update_self _ _ _, hgate⟩))
    · exact Or.inl (Function.update_of_ne (Ne.symm hk) _ _)
  | _ => exact Or.inl rfl

/-! ## The sweep window -/

/-- The number of epochs that must have passed entirely before a sweep. -/
def sweepWindow (configuredStalenessSeconds : U64) : ℕ :=
  min (max configuredStalenessSeconds.val 518400 + 172799) (2 ^ 64 - 1) / 172800

/-- The window has three epochs at least. -/
theorem three_le_sweepWindow (st : U64) : 3 ≤ sweepWindow st := by
  unfold sweepWindow
  omega

/-- A sweep comes after the window. -/
theorem sweepGate_ok {e st now : U64} {u : Unit} (h : sweepGate e st now = .ok u) :
    e.val + sweepWindow st < now.val := by
  simp only [sweepGate, bind_ok_iff, okOr_ok_iff, require_ok_iff] at h
  obtain ⟨w, hw, t, ht, hlt⟩ := h
  have hwindow : w.val = sweepWindow st := by
    rw [(Word.checkedDiv_eq_some.1 hw).2, Word.saturatingAdd_val, Word.saturatingSub_val,
      Fin.coe_max]
    rfl
  rw [Word.checkedAdd_eq_some.1 ht, hwindow] at hlt
  exact hlt

/-- A sweep is at least four epochs after the anchor. -/
theorem sweepGate_four {e st now : U64} {u : Unit} (h : sweepGate e st now = .ok u) :
    e.val + 4 ≤ now.val := by
  have h3 := three_le_sweepWindow st
  have hlt := sweepGate_ok h
  omega

/-! ## Anchors stay, and invalidation censors -/

/-- The anchor of epoch `e` is in place, or four epochs have passed. -/
def Anchored (key : PoolKey) (e : U64) (s : State) : Prop :=
  (∃ a, s.anchors key = some a ∧ a.firstEligibleEpoch = e) ∨ e.val + 4 ≤ s.clock.epoch.val

/-- A call leaves the anchor in place until four epochs have passed. -/
theorem anchored_exec {e : U64} (hs : Anchored key e s) (h : exec rt s call = .ok s') :
    Anchored key e s' := by
  have hclock := (precedes_exec h).2.1
  rcases hs with ⟨a, ha, rfl⟩ | hlate
  · rcases anchor_cases h key with hkeep | ⟨_, _, _, _, _, hnone, _⟩ | ⟨_, a', _, ha', _, hs'⟩ |
      ⟨_, _, a', _, _, ha', _, hgate⟩
    · exact Or.inl ⟨a, hkeep.trans ha, rfl⟩
    · rw [ha] at hnone
      cases hnone
    · obtain rfl := Option.some.inj (ha.symm.trans ha')
      exact Or.inl ⟨_, hs', rfl⟩
    · obtain rfl := Option.some.inj (ha.symm.trans ha')
      exact Or.inr ((sweepGate_four hgate).trans hclock)
  · exact Or.inr (hlate.trans hclock)

/-- So does a run. -/
theorem anchored_run (rt : Runtime) {e : U64} (hs : Anchored key e s) (calls : List Call) :
    Anchored key e (run (exec rt) s calls) :=
  run_invariant (fun _ _ _ => anchored_exec) hs calls

/-- The anchor of epoch `e` is in place and invalidated, or it was swept and whatever anchor
there is now is at least four epochs younger. -/
def Censored (key : PoolKey) (e : U64) (s : State) : Prop :=
  (∃ a, s.anchors key = some a ∧ a.firstEligibleEpoch = e ∧ a.invalidated = true) ∨
  (s.anchors key = none ∧ e.val + 4 ≤ s.clock.epoch.val) ∨
  ∃ a, s.anchors key = some a ∧ e.val + 4 ≤ a.firstEligibleEpoch.val

/-- A call keeps a pool censored. -/
theorem censored_exec {e : U64} (hs : Censored key e s) (h : exec rt s call = .ok s') :
    Censored key e s' := by
  have hclock := (precedes_exec h).2.1
  rcases anchor_cases h key with hkeep | ⟨_, _, a', _, _, hnone, hs', he, _⟩ |
    ⟨_, a', _, ha', hv, hs'⟩ | ⟨_, _, a', _, _, ha', hs', hgate⟩
  · rcases hs with ⟨a, ha, he, hi⟩ | ⟨hn, hlate⟩ | ⟨a, ha, he⟩
    · exact Or.inl ⟨a, hkeep.trans ha, he, hi⟩
    · exact Or.inr (Or.inl ⟨hkeep.trans hn, hlate.trans hclock⟩)
    · exact Or.inr (Or.inr ⟨a, hkeep.trans ha, he⟩)
  · rcases hs with ⟨a, ha, _⟩ | ⟨_, hlate⟩ | ⟨a, ha, _⟩
    · rw [ha] at hnone
      cases hnone
    · exact Or.inr (Or.inr ⟨a', hs', he ▸ hlate⟩)
    · rw [ha] at hnone
      cases hnone
  · rcases hs with ⟨a, ha, _, hi⟩ | ⟨hn, _⟩ | ⟨a, ha, he⟩
    · obtain rfl := Option.some.inj (ha.symm.trans ha')
      rw [hi] at hv
      cases hv
    · rw [hn] at ha'
      cases ha'
    · obtain rfl := Option.some.inj (ha.symm.trans ha')
      exact Or.inr (Or.inr ⟨_, hs', he⟩)
  · have hgap := (sweepGate_four hgate).trans hclock
    rcases hs with ⟨a, ha, rfl, _⟩ | ⟨hn, _⟩ | ⟨a, ha, he⟩
    · obtain rfl := Option.some.inj (ha.symm.trans ha')
      exact Or.inr (Or.inl ⟨hs', hgap⟩)
    · rw [hn] at ha'
      cases ha'
    · obtain rfl := Option.some.inj (ha.symm.trans ha')
      exact Or.inr (Or.inl ⟨hs', by omega⟩)

/-- So does a run. -/
theorem censored_run (rt : Runtime) {e : U64} (hs : Censored key e s) (calls : List Call) :
    Censored key e (run (exec rt) s calls) :=
  run_invariant (fun _ _ _ => censored_exec) hs calls

/-- A Phase 2 step out of a censored state relies on a later anchor. -/
theorem censored_phase2 {e : U64} (hs : Censored key e s) {params : EvaluatePoolParams}
    {accounts : EvaluateAccounts} (hkey : params.key = key)
    (h : exec rt s (.evaluatePoolPhase2 params accounts) = .ok s') {c : EligibilityCert}
    (hc : s'.certs key = some c) :
    e.val + 4 ≤ c.anchorEpoch.val ∧ e.val + 6 ≤ c.certEpoch.val := by
  subst hkey
  obtain ⟨_, _, a, cert, hcert, hv, _, hissued⟩ := issuedCert_of_ok h
  obtain rfl : cert = c := Option.some.inj (hcert.symm.trans hc)
  have ha := hissued.anchor
  have hepoch := hissued.anchorEpoch
  have hconf := hissued.confirmed
  rcases hs with ⟨a', ha', _, hi⟩ | ⟨hn, _⟩ | ⟨a', ha', he⟩
  · obtain rfl := Option.some.inj (ha.symm.trans ha')
    rw [hi] at hv
    cases hv
  · rw [hn] at ha
    cases ha
  · obtain rfl := Option.some.inj (ha.symm.trans ha')
    rw [hepoch]
    exact ⟨he, by omega⟩

/-- Along every run from genesis : an anchor that Phase 1 wrote in epoch `e` is in place until
epoch `e + 4`; and once it has been invalidated, every cert issued for its key is from an
anchor of epoch `e + 4` or later, and of epoch `e + 6` or later itself. -/
theorem invalidation_censors (rt : Runtime) (clock : Clock) :
    (∀ pre params accounts post s₁,
      exec rt (run (exec rt) (State.genesis clock) pre) (.evaluatePoolPhase1 params accounts) =
        .ok s₁ →
      (run (exec rt) (State.genesis clock)
        (pre ++ .evaluatePoolPhase1 params accounts :: post)).clock.epoch.val <
        (run (exec rt) (State.genesis clock) pre).clock.epoch.val + 4 →
      ∃ a, (run (exec rt) (State.genesis clock)
          (pre ++ .evaluatePoolPhase1 params accounts :: post)).anchors params.key = some a ∧
        a.firstEligibleEpoch = (run (exec rt) (State.genesis clock) pre).clock.epoch) ∧
    ∀ pre key authority post s₁ a,
      (run (exec rt) (State.genesis clock) pre).anchors key = some a →
      exec rt (run (exec rt) (State.genesis clock) pre) (.invalidateAnchor key authority) =
        .ok s₁ →
      ∀ params accounts s₂ c, params.key = key →
        exec rt (run (exec rt) (State.genesis clock)
          (pre ++ .invalidateAnchor key authority :: post)) (.evaluatePoolPhase2 params accounts) =
            .ok s₂ →
        s₂.certs key = some c →
        a.firstEligibleEpoch.val + 4 ≤ c.anchorEpoch.val ∧
          a.firstEligibleEpoch.val + 6 ≤ c.certEpoch.val := by
  constructor
  · intro pre params accounts post s₁ h1 hearly
    rw [run_append_cons h1] at hearly ⊢
    obtain ⟨_, _, a, ha, hw⟩ := wroteAnchor_of_ok h1
    have hinv := anchored_run rt (Or.inl ⟨a, ha, rfl⟩) post
    rw [hw.epoch] at hinv
    exact hinv.resolve_right (not_le.2 hearly)
  · intro pre key authority post s₁ a ha hinval params accounts s₂ c hkey h2 hc
    rw [run_append_cons hinval] at h2
    obtain ⟨_, a', _, _, ha', _, hs₁⟩ := invalidateAnchor_ok hinval
    obtain rfl := Option.some.inj (ha.symm.trans ha')
    have hcens : Censored key a.firstEligibleEpoch s₁ := by
      rw [hs₁]
      exact Or.inl ⟨{ a with invalidated := true }, Function.update_self _ _ _, rfl, rfl⟩
    exact censored_phase2 (censored_run rt hcens post) hkey h2 hc

/-- The demonstration with its anchor invalidated, swept and written again. -/
def censoredCalls : List Call :=
  demoCalls ++ [.invalidateAnchor (raydiumV4ProgramId, demoPool) demoAuthority,
    .tick ⟨3500000, 108, 11382400⟩,
    .sweepStaleAnchor (raydiumV4ProgramId, demoPool) (Pubkey.fill 7),
    .evaluatePoolPhase1 (demoParams 3499999) (demoAccounts 3499999),
    .tick ⟨4364000, 110, 11728000⟩]

theorem isOk_censoredCalls :
    (exec demoRuntime (run (exec demoRuntime) (State.genesis demoClock) (demoCalls.take 2))
      (.evaluatePoolPhase1 (demoParams 7) (demoAccounts 7))).isOk = true ∧
    (exec demoRuntime (run (exec demoRuntime) (State.genesis demoClock) demoCalls)
      (.invalidateAnchor (raydiumV4ProgramId, demoPool) demoAuthority)).isOk = true ∧
    (exec demoRuntime (run (exec demoRuntime) (State.genesis demoClock) censoredCalls)
      (.evaluatePoolPhase2 (demoParams 4363999) (demoAccounts 4363999))).isOk = true := by
  decide +kernel

/-- The anchor of epoch 100 is in place in epoch 102, invalidated as it is, and the next cert is
from epoch 106 or later. -/
theorem invalidation_censors_demo :
    (∃ a, (run (exec demoRuntime) (State.genesis demoClock)
        (demoCalls ++ [.invalidateAnchor (raydiumV4ProgramId, demoPool) demoAuthority])).anchors
          (raydiumV4ProgramId, demoPool) = some a ∧ a.firstEligibleEpoch = 100) ∧
    ∃ s₂ c, exec demoRuntime (run (exec demoRuntime) (State.genesis demoClock) censoredCalls)
        (.evaluatePoolPhase2 (demoParams 4363999) (demoAccounts 4363999)) = .ok s₂ ∧
      s₂.certs (raydiumV4ProgramId, demoPool) = some c ∧
      104 ≤ c.anchorEpoch.val ∧ 106 ≤ c.certEpoch.val := by
  obtain ⟨hphase1, hinvalidate, hphase2⟩ := isOk_censoredCalls
  obtain ⟨s₁, hs₁⟩ := exists_ok_of_isOk hphase1
  obtain ⟨s', hs'⟩ := exists_ok_of_isOk hinvalidate
  obtain ⟨s₂, hs₂⟩ := exists_ok_of_isOk hphase2
  obtain ⟨hkept, hcensored⟩ := invalidation_censors demoRuntime demoClock
  have hstart : (run (exec demoRuntime) (State.genesis demoClock)
      (demoCalls.take 2)).clock.epoch = 100 := by
    decide +kernel
  have hsplit (calls : List Call) : demoCalls.take 2 ++
      .evaluatePoolPhase1 (demoParams 7) (demoAccounts 7) ::
        .tick ⟨900000, 102, 10360000⟩ :: calls = demoCalls ++ calls := rfl
  obtain ⟨a, ha, hepoch⟩ := hkept _ _ _ [.tick ⟨900000, 102, 10360000⟩] s₁ hs₁ (by decide +kernel)
  have hinvalidated := hkept _ _ _ [.tick ⟨900000, 102, 10360000⟩,
    .invalidateAnchor (raydiumV4ProgramId, demoPool) demoAuthority] s₁ hs₁ (by decide +kernel)
  have hkey (slot : ℕ) : (demoParams slot).key = (raydiumV4ProgramId, demoPool) := rfl
  rw [hsplit, hstart, hkey] at hinvalidated
  rw [hsplit, List.append_nil, hkey] at ha
  obtain ⟨_, _, _, c, hc, _⟩ := issuedCert_of_ok hs₂
  rw [hkey] at hc
  have hlate := hcensored demoCalls (raydiumV4ProgramId, demoPool) demoAuthority _ s' a ha hs'
    (demoParams 4363999) (demoAccounts 4363999) s₂ c (hkey _) hs₂ hc
  rw [hepoch, hstart] at hlate
  exact ⟨hinvalidated, s₂, c, hs₂, hc, hlate⟩

/-! ## Sweeps and live certs -/

/-- The moments at which the epochs start. An epoch lasts two days, within a factor of two. -/
structure EpochSchedule (start : ℕ → ℤ) : Prop where
  lower : ∀ n, start n + 86400 ≤ start (n + 1)
  upper : ∀ n, start (n + 1) ≤ start n + 345600

theorem EpochSchedule.monotone {start : ℕ → ℤ} (h : EpochSchedule start) : Monotone start :=
  monotone_nat_of_le_succ fun n => by
    have := h.lower n
    omega

/-- The time of the clock lies in its epoch. -/
def OnSchedule (start : ℕ → ℤ) (c : Clock) : Prop :=
  start c.epoch.val ≤ c.unixTimestamp ∧ c.unixTimestamp < start (c.epoch.val + 1)

/-- `c` was issued for `key` by a Phase 2 step of the run, from the anchor that has been in
place since. -/
def IssuedFromAnchor (rt : Runtime) (clock : Clock) (calls : List Call) (key : PoolKey)
    (c : EligibilityCert) : Prop :=
  ∃ pre params accounts post s', calls = pre ++ .evaluatePoolPhase2 params accounts :: post ∧
    params.key = key ∧
    exec rt (run (exec rt) (State.genesis clock) pre) (.evaluatePoolPhase2 params accounts) =
      .ok s' ∧
    s'.certs key = some c ∧
    ∀ mid, mid <+: post → ((run (exec rt) (State.genesis clock)
      (pre ++ .evaluatePoolPhase2 params accounts :: mid)).anchors key).isSome = true

/-- Whenever a sweep of the run closes an anchor, every cert issued from it has expired. -/
def SweepsExpired (rt : Runtime) (clock : Clock) (calls : List Call) : Prop :=
  ∀ pre key writer post s', calls = pre ++ .sweepStaleAnchor key writer :: post →
    exec rt (run (exec rt) (State.genesis clock) pre) (.sweepStaleAnchor key writer) = .ok s' →
    ∀ c, IssuedFromAnchor rt clock pre key c →
      c.isExpired (run (exec rt) (State.genesis clock) pre).clock.unixTimestamp = true

/-- A sweep takes place under a window of at least `w` epochs, and a cert is only issued if it
expires by the start of the first epoch in which such a sweep can close its anchor. -/
def Timely (start : ℕ → ℤ) (w : ℕ) (s : State) : Call → Prop
  | .evaluatePoolPhase2 params _ => ∀ cfg ∈ s.protocolConfig, ∀ a ∈ s.anchors params.key,
    s.clock.unixTimestamp + cfg.certTtlSeconds ≤ start (a.firstEligibleEpoch.val + w + 1)
  | .sweepStaleAnchor _ _ => ∀ cfg ∈ s.protocolConfig, w ≤ sweepWindow cfg.anchorStalenessSeconds
  | _ => True

/-- Whether a clock is on the schedule is decided. -/
instance (start : ℕ → ℤ) (c : Clock) : Decidable (OnSchedule start c) :=
  inferInstanceAs (Decidable (_ ∧ _))

/-- Whether a call is timely is decided. -/
instance (start : ℕ → ℤ) (w : ℕ) (s : State) : (call : Call) → Decidable (Timely start w s call)
  | .evaluatePoolPhase2 params _ => inferInstanceAs (Decidable (∀ cfg ∈ s.protocolConfig,
    ∀ a ∈ s.anchors params.key, _ ≤ start (a.firstEligibleEpoch.val + w + 1)))
  | .sweepStaleAnchor _ _ => inferInstanceAs (Decidable (∀ cfg ∈ s.protocolConfig, _ ≤ _))
  | .initializeProtocol _ | .recordLaunchPrice _ _ | .evaluatePoolPhase1 _ _ | .invalidateAnchor _ _
  | .updateProtocolConfig _ _ | .emergencyPause _ _ | .tick _ => inferInstanceAs (Decidable True)

/-- As long as the account is occupied, it is the same anchor. -/
theorem anchorEpoch_run (rt : Runtime) {a : EligibilityAnchor} (ha : s.anchors key = some a)
    {calls : List Call}
    (hin : ∀ mid, mid <+: calls → ((run (exec rt) s mid).anchors key).isSome = true) :
    ∃ a', (run (exec rt) s calls).anchors key = some a' ∧
      a'.firstEligibleEpoch = a.firstEligibleEpoch := by
  induction calls using List.reverseRecOn with
  | nil => exact ⟨a, ha, rfl⟩
  | append_singleton calls call ih =>
    obtain ⟨a₁, ha₁, he₁⟩ := ih fun mid hmid => hin mid (hmid.trans (List.prefix_append _ _))
    have hsome := hin _ List.prefix_rfl
    rw [run_concat] at hsome ⊢
    rcases step_cases (exec rt) (run (exec rt) s calls) call with h | h
    · rcases anchor_cases h key with hkeep | ⟨_, _, _, _, _, hnone, _⟩ | ⟨_, a', _, ha', _, hs'⟩ |
        ⟨_, _, _, _, _, _, hs', _⟩
      · exact ⟨a₁, hkeep.trans ha₁, he₁⟩
      · rw [ha₁] at hnone
        cases hnone
      · obtain rfl := Option.some.inj (ha₁.symm.trans ha')
        exact ⟨_, hs', he₁⟩
      · rw [hs'] at hsome
        cases hsome
    · rw [h]
      exact ⟨a₁, ha₁, he₁⟩

/-- If every cert that is issued expires before its anchor can be swept, then no sweep outruns a
live cert. -/
theorem sweepsExpired_of_timely (rt : Runtime) (start : ℕ → ℤ) (w : ℕ) (clock : Clock)
    (calls : List Call) (hstart : EpochSchedule start)
    (hclock : ClockMeets (OnSchedule start) clock calls)
    (htimely : AlongRun (exec rt) (IfOk (exec rt) (Timely start w)) (State.genesis clock) calls) :
    SweepsExpired rt clock calls := by
  rintro pre key writer post s' rfl hsweep c
    ⟨pre₁, params, accounts, mid, s₁, rfl, rfl, h2, hc, hin⟩
  -- The cert expires by the start of the epoch `w + 1` after the anchor's.
  obtain ⟨cfg₁, a₁, hcfg₁, ha₁, hof, hanchors⟩ := certOf_of_ok h2 hc
  have hexpires : c.expiresAt ≤ start (a₁.firstEligibleEpoch.val + w + 1) := by
    rw [hof.expiresAt]
    rw [List.append_assoc] at htimely
    exact alongRun_at htimely s₁ h2 cfg₁ hcfg₁ a₁ ha₁
  -- The sweep finds the same anchor, in an epoch after its window.
  obtain ⟨cfg, a, hcfg, ha, _, hgate, _⟩ := sweepStaleAnchor_ok hsweep
  have hwindow : w ≤ sweepWindow cfg.anchorStalenessSeconds :=
    alongRun_at htimely s' hsweep cfg hcfg
  have hepoch : a.firstEligibleEpoch = a₁.firstEligibleEpoch := by
    rw [← hanchors] at ha₁
    obtain ⟨a', ha', he'⟩ := anchorEpoch_run rt ha₁ fun m hm => by
      rw [← run_append_cons h2]
      exact hin m hm
    rw [run_append_cons h2, ha', Option.some.injEq] at ha
    rw [← ha, he']
  have hlate := sweepGate_ok hgate
  have hnow := (clock_run rt hclock.of_append).1
  unfold EligibilityCert.isExpired
  rw [decide_eq_true_eq]
  calc c.expiresAt ≤ start (a₁.firstEligibleEpoch.val + w + 1) := hexpires
    _ ≤ start (run (exec rt) (State.genesis clock)
          (pre₁ ++ .evaluatePoolPhase2 params accounts :: mid)).clock.epoch.val := by
      rw [hepoch] at hlate
      exact hstart.monotone (by omega)
    _ ≤ _ := hnow

/-- The schedule of the demonstration : every epoch lasts two days. -/
def demoStart (n : ℕ) : ℤ :=
  172800 * n - 7280000

/-- The demonstration's epochs are a schedule. -/
theorem epochSchedule_demoStart : EpochSchedule demoStart := by
  constructor
  · intro n
    simp only [demoStart]
    omega
  · intro n
    simp only [demoStart]
    omega

/-- Phase 2 two epochs after Phase 1, and the sweep in the first epoch that admits it. -/
def sweptCalls : List Call :=
  demoCalls ++ [.evaluatePoolPhase2 (demoParams 899999) (demoAccounts 899999),
    .tick ⟨3500000, 108, 11382400⟩,
    .sweepStaleAnchor (raydiumV4ProgramId, demoPool) (Pubkey.fill 7)]

/-- The demonstration's sweep comes in time, and the anchor is gone after it. -/
theorem sweepsExpired_of_timely_demo :
    SweepsExpired demoRuntime demoClock sweptCalls ∧
    ((run (exec demoRuntime) (State.genesis demoClock) sweptCalls).anchors
      (raydiumV4ProgramId, demoPool)).isNone = true := by
  refine ⟨sweepsExpired_of_timely demoRuntime demoStart 7 demoClock sweptCalls
    epochSchedule_demoStart ⟨by decide, ?_⟩ ?_, by decide +kernel⟩
  · intro c hc
    simp only [sweptCalls, demoCalls, List.cons_append, List.nil_append, List.mem_cons,
      List.not_mem_nil, or_false, reduceCtorEq, false_or, Call.tick.injEq] at hc
    rcases hc with rfl | rfl <;> decide
  · refine ⟨.of trivial, .of trivial, .of trivial, .of trivial, .of ?_, .of trivial, .of ?_,
      trivial⟩
    · decide +kernel
    · decide +kernel

/-- The demonstration up to the epoch of the sweep. -/
def idleCalls : List Call :=
  demoCalls ++ [.tick ⟨3500000, 108, 11382400⟩]

/-- Phase 2 in the epoch of the sweep, and the sweep. -/
def lateCalls : List Call :=
  idleCalls ++ [.evaluatePoolPhase2 (demoParams 3499999) (demoAccounts 3499999),
    .sweepStaleAnchor (raydiumV4ProgramId, demoPool) (Pubkey.fill 7)]

/-- The cert is issued and live, and the sweep succeeds. -/
theorem late_issue :
    (exec demoRuntime (run (exec demoRuntime) (State.genesis demoClock) idleCalls)
      (.evaluatePoolPhase2 (demoParams 3499999) (demoAccounts 3499999))).isOk = true ∧
    liveFor (run (exec demoRuntime) (State.genesis demoClock)
      (idleCalls ++ [.evaluatePoolPhase2 (demoParams 3499999) (demoAccounts 3499999)]))
      (raydiumV4ProgramId, demoPool) demoPool = true ∧
    ((run (exec demoRuntime) (State.genesis demoClock)
      (idleCalls ++ [.evaluatePoolPhase2 (demoParams 3499999) (demoAccounts 3499999)])).anchors
      (raydiumV4ProgramId, demoPool)).isSome = true ∧
    (exec demoRuntime (run (exec demoRuntime) (State.genesis demoClock)
      (idleCalls ++ [.evaluatePoolPhase2 (demoParams 3499999) (demoAccounts 3499999)]))
      (.sweepStaleAnchor (raydiumV4ProgramId, demoPool) (Pubkey.fill 7))).isOk = true := by
  decide +kernel

/-- With the default configuration and a regular clock, the sweep closes the anchor of a cert
that was issued at the same moment. -/
theorem lateSweep_outruns :
    EpochSchedule demoStart ∧ ClockMeets (OnSchedule demoStart) demoClock lateCalls ∧
      ¬SweepsExpired demoRuntime demoClock lateCalls := by
  refine ⟨epochSchedule_demoStart, ⟨by decide, ?_⟩, ?_⟩
  · intro c hc
    simp only [lateCalls, idleCalls, demoCalls, List.cons_append, List.nil_append, List.mem_cons,
      List.not_mem_nil, or_false, reduceCtorEq, false_or, Call.tick.injEq] at hc
    rcases hc with rfl | rfl <;> decide
  · intro h
    obtain ⟨hok, hlive, hanchor, hsweep⟩ := late_issue
    obtain ⟨s₁, hs₁⟩ := exists_ok_of_isOk hok
    obtain ⟨s₂, hs₂⟩ := exists_ok_of_isOk hsweep
    obtain ⟨c, hc, hc'⟩ := (Option.any_eq_true _ _).1 hlive
    rw [decide_eq_true_eq] at hc'
    have hexp := h _ _ _ [] s₂ (by simp [lateCalls]) hs₂ c ⟨idleCalls, demoParams 3499999,
      demoAccounts 3499999, [], s₁, rfl, rfl, hs₁, ?_, ?_⟩
    · rw [hc'.2] at hexp
      cases hexp
    · rwa [run_append_cons hs₁] at hc
    · intro mid hmid
      rw [List.prefix_nil.1 hmid]
      exact hanchor

end GraveYield.Scanner
