import GraveYield.Certification
import Mathlib.Order.CompletePartialOrder

/-!
# The life of a cert

`issues` is the history of one cert account : the certs that the successful Phase 2 steps of
a run have written there, in order. `Lifecycle` is the invariant that ties it to the stored
account, carried along runs by `outputs_invariant`. From it `cert_lifecycle` : the validity
windows of one account are disjoint, a live cert is never overwritten, and the stored cert is
the last one issued, numbered by their count.

The account is named by the pool and by the program id that the caller submits, and the
latter is never compared with the owner of the pool account. `oneLiveCert_of_owner` is the
guarantee for runs in which they agree, `strayCalls` one in which a pool has two live certs.
-/

namespace GraveYield.Scanner

open Machine Checked

variable {rt : Runtime} {s s' : State} {call : Call} {key : PoolKey}

/-! ## The time to live -/

/-- A new configuration has a time to live of ten minutes at least. -/
theorem initialConfig_certTtl {params : InitializeParams} {cfg : ProtocolConfig}
    (h : initialConfig params = .ok cfg) : 600 ≤ cfg.certTtlSeconds := by
  simp only [initialConfig, bind_ok_iff, require_ok_iff, exists_const, pure_ok_iff] at h
  obtain ⟨_, h, rfl⟩ := h
  exact h

/-- An update keeps it so. -/
theorem applyConfigUpdate_certTtl {cfg cfg' : ProtocolConfig} {params : UpdateProtocolConfigParams}
    (h : applyConfigUpdate cfg params = .ok cfg') (hcfg : 600 ≤ cfg.certTtlSeconds) :
    600 ≤ cfg'.certTtlSeconds := by
  simp only [applyConfigUpdate, bind_ok_iff, require_ok_iff, exists_const, pure_ok_iff] at h
  obtain ⟨_, _, h, rfl⟩ := h
  cases hp : params.certTtlSeconds with
  | none => simpa [hp] using hcfg
  | some v =>
    have hv : 600 ≤ v := h v hp
    simpa [hp] using hv

/-- Every configuration in force has a time to live of at least ten minutes. -/
def TtlFloor (s : State) : Prop :=
  ∀ cfg, s.protocolConfig = some cfg → 600 ≤ cfg.certTtlSeconds

theorem ttlFloor_exec (h : exec rt s call = .ok s') (hs : TtlFloor s) : TtlFloor s' := by
  intro cfg hcfg
  cases exec_effect h with
  | initializeProtocol params cfg' hinit =>
    obtain rfl := Option.some.inj hcfg
    exact initialConfig_certTtl hinit
  | updateProtocolConfig params authority cfg₀ cfg' hcfg₀ hupdate =>
    obtain rfl := Option.some.inj hcfg
    exact applyConfigUpdate_certTtl hupdate (hs cfg₀ hcfg₀)
  | emergencyPause paused authority cfg₀ hcfg₀ =>
    obtain rfl := Option.some.inj hcfg
    exact hs cfg₀ hcfg₀
  | _ => exact hs cfg hcfg

/-! ## The history of a cert account -/

/-- The cert that a successful call has issued for `key`. -/
def issued (key : PoolKey) (_ : State) (call : Call) (s' : State) : Option EligibilityCert :=
  match call with
  | .evaluatePoolPhase2 params _ => if params.key = key then s'.certs key else none
  | _ => none

/-- The certs issued for `key` along a run, in order. -/
def issues (rt : Runtime) (key : PoolKey) (s : State) (calls : List Call) : List EligibilityCert :=
  outputs (exec rt) (issued key) s calls

/-- A call issues nothing for `key` and keeps the account, or it is a Phase 2 step that found
the account expired and rewrote it. -/
theorem issued_cases (h : exec rt s call = .ok s') (key : PoolKey) :
    (issued key s call s' = none ∧ s'.certs key = s.certs key) ∨
    ∃ params accounts cfg a c, call = .evaluatePoolPhase2 params accounts ∧ params.key = key ∧
      s.protocolConfig = some cfg ∧ s.anchors key = some a ∧ a.invalidated = false ∧
      ((s.certs key).getD EligibilityCert.zeroed).isExpired s.clock.unixTimestamp = true ∧
      CertOf s params accounts cfg a c ∧ s'.certs key = some c ∧
      issued key s call s' = some c := by
  by_cases hp : ∃ params accounts, call = .evaluatePoolPhase2 params accounts ∧ params.key = key
  · obtain ⟨params, accounts, rfl, rfl⟩ := hp
    obtain ⟨cfg, _, _, _, a, c, hcfg, _, ha, hv, _, _, _, hexp, hc, rfl⟩ :=
      evaluatePoolPhase2_written h
    exact Or.inr ⟨params, accounts, cfg, a, c, rfl, rfl, hcfg, ha, hv, hexp, hc,
      Function.update_self _ _ _, by simp [issued]⟩
  · refine Or.inl ⟨?_, (certs_exec h key).resolve_right hp⟩
    cases call with
    | evaluatePoolPhase2 params accounts =>
      have hk : params.key ≠ key := fun hk => hp ⟨params, accounts, rfl, hk⟩
      simp [issued, hk]
    | _ => rfl

/-- The configuration and the anchor behind a cert that was just issued. -/
theorem certOf_of_ok {params : EvaluatePoolParams} {accounts : EvaluateAccounts}
    {c : EligibilityCert} (h : exec rt s (.evaluatePoolPhase2 params accounts) = .ok s')
    (hc : s'.certs params.key = some c) :
    ∃ cfg a, s.protocolConfig = some cfg ∧ s.anchors params.key = some a ∧
      CertOf s params accounts cfg a c ∧ s'.anchors = s.anchors := by
  obtain ⟨cfg, _, _, _, a, c', hcfg, _, ha, _, _, _, _, _, hof, rfl⟩ := evaluatePoolPhase2_written h
  obtain rfl : c' = c := by simpa using hc
  exact ⟨cfg, a, hcfg, ha, hof, rfl⟩

/-- The history of the account at `key`, and the account. -/
structure Lifecycle (key : PoolKey) (is : List EligibilityCert) (s : State) : Prop where
  floor : TtlFloor s
  stored : s.certs key = is.getLast?
  numbered : ∀ n c, is[n]? = some c → c.reissueGeneration.val = n + 1
  lasting : ∀ c ∈ is, c.issuedAt + 600 ≤ c.expiresAt
  ordered : is.Pairwise fun c d => c.expiresAt ≤ d.issuedAt

/-- The certs before the last one had expired when it was issued. -/
theorem Lifecycle.expired {is : List EligibilityCert} (hl : Lifecycle key is s) {now : ℤ}
    (hexp : ((s.certs key).getD EligibilityCert.zeroed).isExpired now = true) :
    ∀ c ∈ is, c.expiresAt ≤ now := by
  intro c hc
  obtain ⟨init, d, rfl⟩ : ∃ init d, is = init ++ [d] := by
    rcases List.eq_nil_or_concat is with rfl | ⟨init, d, rfl⟩
    · cases hc
    · exact ⟨init, d, by simp⟩
  rw [hl.stored] at hexp
  have hd : d.expiresAt ≤ now := by simpa [EligibilityCert.isExpired] using hexp
  rcases List.mem_append.1 hc with hc | hc
  · have h1 : c.expiresAt ≤ d.issuedAt :=
      (List.pairwise_append.1 hl.ordered).2.2 c hc d (List.mem_singleton_self d)
    have h2 := hl.lasting d (by simp)
    omega
  · rw [List.mem_singleton.1 hc]
    exact hd

theorem Lifecycle.generation {is : List EligibilityCert} (hl : Lifecycle key is s) :
    ((s.certs key).getD EligibilityCert.zeroed).reissueGeneration.val = is.length := by
  rw [hl.stored]
  rcases List.eq_nil_or_concat is with rfl | ⟨init, d, rfl⟩
  · rfl
  · have hd := hl.numbered init.length d (by simp)
    simpa using hd

/-- A call takes the history of a cert on by what it issues. -/
theorem lifecycle_exec {is : List EligibilityCert} (hl : Lifecycle key is s)
    (h : exec rt s call = .ok s') : Lifecycle key (is ++ (issued key s call s').toList) s' := by
  have hfloor := ttlFloor_exec h hl.floor
  rcases issued_cases h key with ⟨hnone, hkeep⟩ | ⟨params, accounts, cfg, a, c, rfl, rfl, hcfg, _,
    _, hexp, hc, hs', hsome⟩
  · rw [hnone, Option.toList_none, List.append_nil]
    exact ⟨hfloor, hkeep.trans hl.stored, hl.numbered, hl.lasting, hl.ordered⟩
  · rw [hsome, Option.toList_some]
    refine ⟨hfloor, by simpa using hs', ?_, ?_, ?_⟩
    · intro n d hd
      rcases Nat.lt_or_ge n is.length with hn | hn
      · rw [List.getElem?_append_left hn] at hd
        exact hl.numbered n d hd
      · obtain rfl : n = is.length := by
          have hlt := (List.getElem?_eq_some_iff.1 hd).1
          rw [List.length_append, List.length_singleton] at hlt
          omega
        obtain rfl : c = d := by simpa using hd
        rw [hc.reissueGeneration, hl.generation]
    · intro d hd
      rcases List.mem_append.1 hd with hd | hd
      · exact hl.lasting d hd
      · rw [List.mem_singleton.1 hd, hc.issuedAt, hc.expiresAt]
        have := hl.floor cfg hcfg
        omega
    · refine List.pairwise_append.2 ⟨hl.ordered, List.pairwise_singleton _ _, ?_⟩
      intro d hd e he
      rw [List.mem_singleton.1 he, hc.issuedAt]
      exact hl.expired hexp d hd

/-- After a run the account shows the history of its cert. -/
theorem lifecycle_run (rt : Runtime) (clock : Clock) (calls : List Call) (key : PoolKey) :
    Lifecycle key (issues rt key (State.genesis clock) calls)
      (run (exec rt) (State.genesis clock) calls) := by
  have h0 : Lifecycle key [] (State.genesis clock) := by
    refine ⟨?_, rfl, ?_, ?_, List.Pairwise.nil⟩
    · intro cfg hcfg
      cases hcfg
    · intro n c hc
      simp at hc
    · intro c hc
      cases hc
  exact outputs_invariant (fun _ _ _ _ => lifecycle_exec) h0 calls

/-- The cert was issued by a step of the run, after which none was issued for `key`. -/
def LastIssue (rt : Runtime) (clock : Clock) (calls : List Call) (key : PoolKey)
    (c : EligibilityCert) : Prop :=
  ∃ pre params accounts post cfg a s', calls = pre ++ .evaluatePoolPhase2 params accounts :: post ∧
    params.key = key ∧
    exec rt (run (exec rt) (State.genesis clock) pre) (.evaluatePoolPhase2 params accounts) =
      .ok s' ∧
    (run (exec rt) (State.genesis clock) pre).protocolConfig = some cfg ∧
    (run (exec rt) (State.genesis clock) pre).anchors key = some a ∧
    CertOf (run (exec rt) (State.genesis clock) pre) params accounts cfg a c ∧
    s'.certs key = some c ∧ issues rt key s' post = []

/-- Every stored cert is what the last issue for its key has written. -/
theorem exists_lastIssue {clock : Clock} {calls : List Call} {c : EligibilityCert}
    (hc : (run (exec rt) (State.genesis clock) calls).certs key = some c) :
    LastIssue rt clock calls key c := by
  induction calls using List.reverseRecOn with
  | nil => cases hc
  | append_singleton calls call ih =>
    rw [run_concat] at hc
    cases h : exec rt (run (exec rt) (State.genesis clock) calls) call with
    | error e =>
      rw [step_of_error h] at hc
      obtain ⟨pre, params, accounts, post, cfg, a, s', rfl, hk, hs', hcfg, ha, hof, hc', hlast⟩ :=
        ih hc
      refine ⟨pre, params, accounts, post ++ [call], cfg, a, s', by simp, hk, hs', hcfg, ha, hof,
        hc', ?_⟩
      rw [run_append_cons hs'] at h
      unfold issues at hlast ⊢
      rw [outputs_append, hlast]
      simp [outputs, h]
    | ok t =>
      rw [step_of_ok h] at hc
      rcases issued_cases h key with ⟨hnone, hkeep⟩ | ⟨params, accounts, cfg, a, c', rfl, hk, hcfg,
        ha, _, _, hof, hc', _⟩
      · obtain ⟨pre, params, accounts, post, cfg, a, s', rfl, hk, hs', hcfg, ha, hof, hc', hlast⟩ :=
          ih (hkeep ▸ hc)
        refine ⟨pre, params, accounts, post ++ [call], cfg, a, s', by simp, hk, hs', hcfg, ha, hof,
          hc', ?_⟩
        rw [run_append_cons hs'] at h hnone
        unfold issues at hlast ⊢
        rw [outputs_append, hlast]
        simp [outputs, h, hnone]
      · obtain rfl : c' = c := Option.some.inj (hc'.symm.trans hc)
        exact ⟨calls, params, accounts, [], cfg, a, t, rfl, hk, h, hcfg, ha, hof, hc, rfl⟩

/-- A live cert is kept by every call. -/
theorem live_exec (h : exec rt s call = .ok s') {c : EligibilityCert} (hc : s.certs key = some c)
    (hlive : c.isExpired s.clock.unixTimestamp = false) : s'.certs key = some c := by
  rcases issued_cases h key with ⟨_, hkeep⟩ | ⟨_, _, _, _, _, _, _, _, _, _, hexp, _⟩
  · rw [hkeep, hc]
  · rw [hc, Option.getD_some, hlive] at hexp
    cases hexp

/-- The moments at which a cert is valid. -/
def EligibilityCert.window (c : EligibilityCert) : Set ℤ :=
  Set.Ico c.issuedAt c.expiresAt

/-- The whole life of the cert account at `key`, along every run from genesis : the certs
issued there have disjoint windows of at least ten minutes; a live one is never overwritten;
the account is empty until the first issue and then holds the last cert issued, all of whose
fields its issue has written, with the number of issues so far as its generation. -/
theorem cert_lifecycle (rt : Runtime) (clock : Clock) (calls : List Call) (key : PoolKey) :
    (issues rt key (State.genesis clock) calls).Pairwise
      (fun c d => Disjoint c.window d.window) ∧
    (∀ c ∈ issues rt key (State.genesis clock) calls, c.issuedAt + 600 ≤ c.expiresAt) ∧
    (∀ pre call c, pre ++ [call] <+: calls →
      (run (exec rt) (State.genesis clock) pre).certs key = some c →
      c.isExpired (run (exec rt) (State.genesis clock) pre).clock.unixTimestamp = false →
      (run (exec rt) (State.genesis clock) (pre ++ [call])).certs key = some c) ∧
    (run (exec rt) (State.genesis clock) calls).certs key =
      (issues rt key (State.genesis clock) calls).getLast? ∧
    (∀ c, (run (exec rt) (State.genesis clock) calls).certs key = some c →
      c.reissueGeneration.val = (issues rt key (State.genesis clock) calls).length ∧
      LastIssue rt clock calls key c) := by
  have hl := lifecycle_run rt clock calls key
  refine ⟨?_, hl.lasting, ?_, hl.stored, ?_⟩
  · refine hl.ordered.imp fun {c d} hcd => ?_
    exact Set.disjoint_left.2 fun t hc hd => absurd (hd.1.trans_lt hc.2) (not_lt.2 hcd)
  · intro pre call c _ hc hlive
    rw [run_concat]
    rcases step_cases (exec rt) (run (exec rt) (State.genesis clock) pre) call with h | h
    · exact live_exec h hc hlive
    · rw [h, hc]
  · intro c hc
    have hgen := hl.generation
    rw [hc, Option.getD_some] at hgen
    exact ⟨hgen, exists_lastIssue hc⟩

/-- The demonstration with a second Phase 2 after the first cert has expired. -/
def reissuedCalls : List Call :=
  demoCalls ++ [.evaluatePoolPhase2 (demoParams 899999) (demoAccounts 899999),
    .tick ⟨1764000, 104, 10705600⟩,
    .evaluatePoolPhase2 (demoParams 1763999) (demoAccounts 1763999)]

theorem length_issues_reissuedCalls :
    (issues demoRuntime (raydiumV4ProgramId, demoPool) (State.genesis demoClock)
      reissuedCalls).length = 2 := by
  decide +kernel

/-- Two certs were issued, one after the other, and the account holds the second. -/
theorem cert_lifecycle_demo : ∃ c d,
    issues demoRuntime (raydiumV4ProgramId, demoPool) (State.genesis demoClock) reissuedCalls =
      [c, d] ∧ Disjoint c.window d.window ∧
    (run (exec demoRuntime) (State.genesis demoClock) reissuedCalls).certs
      (raydiumV4ProgramId, demoPool) = some d ∧ d.reissueGeneration.val = 2 ∧
    LastIssue demoRuntime demoClock reissuedCalls (raydiumV4ProgramId, demoPool) d := by
  obtain ⟨hdisjoint, _, _, hstored, hlast⟩ :=
    cert_lifecycle demoRuntime demoClock reissuedCalls (raydiumV4ProgramId, demoPool)
  obtain ⟨c, d, hissues⟩ := List.length_eq_two.1 length_issues_reissuedCalls
  rw [hissues] at hdisjoint hstored hlast
  obtain ⟨hgeneration, hissue⟩ := hlast d hstored
  have hcd := (List.pairwise_cons.1 hdisjoint).1 d (List.mem_singleton_self d)
  exact ⟨c, d, hissues, hcd, hstored, hgeneration, hissue⟩

/-! ## One live cert per pool -/

/-- The step of the run that issued `c` was handed a pool account at the cert's address that
is owned by the program the cert names. -/
def NamesOwner (rt : Runtime) (clock : Clock) (calls : List Call) (key : PoolKey)
    (c : EligibilityCert) : Prop :=
  ∃ pre params accounts post s', calls = pre ++ .evaluatePoolPhase2 params accounts :: post ∧
    exec rt (run (exec rt) (State.genesis clock) pre) (.evaluatePoolPhase2 params accounts) =
      .ok s' ∧
    s'.certs key = some c ∧ accounts.pool.key = c.poolAddress ∧
    accounts.pool.owner = c.ammProgramId

/-- After `calls`, at every moment, at most one cert account of a pool is live, and the cert
names the program that owns the pool account. -/
def OneLiveCert (rt : Runtime) (clock : Clock) (calls : List Call) : Prop :=
  (∀ (now : ℤ) (k k' : PoolKey) (c c' : EligibilityCert),
    (run (exec rt) (State.genesis clock) calls).certs k = some c →
    (run (exec rt) (State.genesis clock) calls).certs k' = some c' →
    c.poolAddress = c'.poolAddress → c.isExpired now = false → c'.isExpired now = false →
    k = k') ∧
  ∀ (now : ℤ) (k : PoolKey) (c : EligibilityCert),
    (run (exec rt) (State.genesis clock) calls).certs k = some c → c.isExpired now = false →
    NamesOwner rt clock calls k c

/-- Every Phase 2 call that succeeds has submitted the id of the program that owns the pool
account. -/
def OwnerSubmitted (rt : Runtime) (clock : Clock) (calls : List Call) : Prop :=
  ∀ pre params accounts post s', calls = pre ++ .evaluatePoolPhase2 params accounts :: post →
    exec rt (run (exec rt) (State.genesis clock) pre) (.evaluatePoolPhase2 params accounts) =
      .ok s' → params.ammProgramId = accounts.pool.owner

theorem OwnerSubmitted.of_append {clock : Clock} {calls calls' : List Call}
    (h : OwnerSubmitted rt clock (calls ++ calls')) : OwnerSubmitted rt clock calls :=
  fun pre params accounts post s' heq => h pre params accounts (post ++ calls') s' (by simp [heq])

/-- What the issue of a stored cert was about. -/
theorem LastIssue.owned {clock : Clock} {calls : List Call} {c : EligibilityCert}
    (h : LastIssue rt clock calls key c) (howner : OwnerSubmitted rt clock calls) :
    key = (raydiumV4ProgramId, c.poolAddress) ∧ NamesOwner rt clock calls key c := by
  obtain ⟨pre, params, accounts, post, cfg, a, s', rfl, rfl, hs', _, _, hof, hc, _⟩ := h
  obtain ⟨_, _, _, _, _, _, _, _, _, _, _, hg, _⟩ := evaluatePoolPhase2_written hs'
  obtain ⟨haddr, hray, _⟩ := extractPoolData_ok (gatherInputs_ok hg).1
  have hamm : params.ammProgramId = accounts.pool.owner :=
    howner pre params accounts post s' rfl hs'
  refine ⟨?_, pre, params, accounts, post, s', rfl, hs', hc, ?_, ?_⟩
  · rw [EvaluatePoolParams.key, hamm, hray, hof.poolAddress]
  · rw [haddr, hof.poolAddress]
  · rw [hof.ammProgramId, hamm]

/-- Where the issues name the owners, at most one cert of a pool is live. -/
theorem OwnerSubmitted.oneLiveCert {clock : Clock} {calls : List Call}
    (h : OwnerSubmitted rt clock calls) : OneLiveCert rt clock calls := by
  constructor
  · intro now k k' c c' hc hc' hpool _ _
    obtain ⟨hk, _⟩ := (exists_lastIssue hc).owned h
    obtain ⟨hk', _⟩ := (exists_lastIssue hc').owned h
    rw [hk, hk', hpool]
  · intro now k c hc _
    exact ((exists_lastIssue hc).owned h).2

/-- A cert that names an owner was issued by a call that submitted it. -/
theorem OneLiveCert.submitted {clock : Clock} {pre : List Call} {params : EvaluatePoolParams}
    {accounts : EvaluateAccounts} {s' : State}
    (h : OneLiveCert rt clock (pre ++ [.evaluatePoolPhase2 params accounts]))
    (hs' : exec rt (run (exec rt) (State.genesis clock) pre) (.evaluatePoolPhase2 params accounts) =
      .ok s') : params.ammProgramId = accounts.pool.owner := by
  obtain ⟨_, _, _, _, _, c, _, _, _, _, _, hg, _, _, hof, hwritten⟩ :=
    evaluatePoolPhase2_written hs'
  have hc : s'.certs params.key = some c := by
    rw [hwritten]
    exact Function.update_self _ _ _
  have hlive : c.isExpired (c.expiresAt - 1) = false := by
    simp [EligibilityCert.isExpired]
  rw [← step_of_ok hs', ← run_concat] at hc
  -- a call that the cert's account came from has been handed a pool of Raydium V4, as this one
  obtain ⟨_, params', accounts', _, _, _, hs₁, _, _, howner⟩ := h.2 _ _ c hc hlive
  obtain ⟨_, _, _, _, _, _, _, _, _, _, _, hg', _⟩ := evaluatePoolPhase2_written hs₁
  obtain ⟨_, hray, _⟩ := extractPoolData_ok (gatherInputs_ok hg).1
  obtain ⟨_, hray', _⟩ := extractPoolData_ok (gatherInputs_ok hg').1
  rw [← hof.ammProgramId, ← howner, hray, hray']

/-- In every run : every state reached has at most one live cert per pool, which names the owner
of the pool account, iff every Phase 2 call that succeeds has submitted that owner. -/
theorem oneLiveCert_iff_owner (rt : Runtime) (clock : Clock) (calls : List Call) :
    (∀ reached, reached <+: calls → OneLiveCert rt clock reached) ↔
      OwnerSubmitted rt clock calls := by
  constructor
  · rintro h pre params accounts post s' rfl hs'
    exact (h _ ⟨post, by simp⟩).submitted hs'
  · rintro h reached ⟨post, rfl⟩
    exact h.of_append.oneLiveCert

theorem oneLiveCert_iff_owner_demo :
    OneLiveCert demoRuntime demoClock
      (demoCalls ++ [.evaluatePoolPhase2 (demoParams 899999) (demoAccounts 899999)]) := by
  refine (oneLiveCert_iff_owner demoRuntime demoClock _).2 ?_ _ List.prefix_rfl
  intro pre params accounts post s' heq _
  have hmem : .evaluatePoolPhase2 params accounts ∈
      demoCalls ++ [.evaluatePoolPhase2 (demoParams 899999) (demoAccounts 899999)] := by
    rw [heq]
    simp
  simp only [demoCalls, List.cons_append, List.nil_append, List.mem_cons, List.not_mem_nil,
    or_false, reduceCtorEq, false_or, Call.evaluatePoolPhase2.injEq] at hmem
  obtain ⟨rfl, rfl⟩ := hmem
  rfl

/-- A program id that owns no pool. -/
def strayAmm : Pubkey :=
  Pubkey.fill 5

/-- The accounts of the demo pool, with an attestation for `strayAmm`. -/
def strayAccounts (issuedSlot : ℕ) : EvaluateAccounts :=
  { demoAccounts issuedSlot with
    instructionSysvar := verifiedPair demoAuthority 72 112 ⟨Pubkey.fill 6, List.replicate 72 0 ++
      (attestationMsg strayAmm demoPool 1 issuedSlot (Pubkey.fill 3)).val⟩ }

/-- The parameters under the stray program. -/
def strayParams (issuedSlot : ℕ) : EvaluatePoolParams :=
  ⟨strayAmm, demoPool, attestationMsg strayAmm demoPool 1 issuedSlot (Pubkey.fill 3)⟩

/-- The stray launch price, as it is signed. -/
def strayLaunchPriceMsg : Bytes 168 :=
  ⟨strayAmm.val ++ demoPool.val ++ (Pubkey.fill 23).val ++ wsolMint.val ++
    leBytes 8 5 ++ leBytes 8 800 ++ leBytes 16 (2 ^ 64) ++ leBytes 8 6, by decide +kernel⟩

/-- Both phases for the demo pool under its owner, and under `strayAmm`. -/
def strayCalls : List Call :=
  demoCalls.take 3 ++ [.recordLaunchPrice ⟨strayAmm, demoPool, Pubkey.fill 23, wsolMint,
      18446744073709551616, strayLaunchPriceMsg⟩ (verifiedPair demoAuthority 152 168
        ⟨Pubkey.fill 6, List.replicate 152 0 ++ strayLaunchPriceMsg.val⟩),
    .evaluatePoolPhase1 (strayParams 7) (strayAccounts 7), .tick ⟨900000, 102, 10360000⟩,
    .evaluatePoolPhase2 (demoParams 899999) (demoAccounts 899999),
    .evaluatePoolPhase2 (strayParams 899999) (strayAccounts 899999)]

/-- The cert at `key` is a live one of `pool`. -/
def liveFor (s : State) (key : PoolKey) (pool : Pubkey) : Bool :=
  (s.certs key).any fun c => c.poolAddress = pool ∧ c.isExpired s.clock.unixTimestamp = false

/-- Both certs of the pool are live. -/
theorem liveFor_strayCalls :
    liveFor (run (exec demoRuntime) (State.genesis demoClock) strayCalls)
      (raydiumV4ProgramId, demoPool) demoPool = true ∧
    liveFor (run (exec demoRuntime) (State.genesis demoClock) strayCalls)
      (strayAmm, demoPool) demoPool = true := by
  decide +kernel

theorem strayCalls_two_live : ¬OneLiveCert demoRuntime demoClock strayCalls := by
  intro h
  obtain ⟨h1, h2⟩ := liveFor_strayCalls
  obtain ⟨c, hc, hlive⟩ := (Option.any_eq_true _ _).1 h1
  obtain ⟨c', hc', hlive'⟩ := (Option.any_eq_true _ _).1 h2
  simp only [decide_eq_true_eq] at hlive hlive'
  have heq := h.1 _ _ _ c c' hc hc' (hlive.1.trans hlive'.1.symm) hlive.2 hlive'.2
  have hne : raydiumV4ProgramId ≠ strayAmm := by decide +kernel
  exact hne (congrArg Prod.fst heq)

end GraveYield.Scanner
