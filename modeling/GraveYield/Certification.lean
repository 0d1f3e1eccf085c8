import GraveYield.Authenticity
import GraveYield.Lib.Sha256
import GraveYield.Scanner

/-!
# Two-phase certification

`certs_exec`, `anchors_exec` and `launchPrices_exec` say which calls can change which
account. From them, every cert is traced back through the run : `phase2_certified` finds the
Phase 1 step that wrote the anchor still in place, and the one `record_launch_price` step
whose price both phases compared with.
-/

namespace GraveYield.Scanner

open Machine Checked

variable {rt : Runtime} {s s' : State} {call : Call}

/-! ## What a call can change -/

/-- Only `record_launch_price` writes a launch price, and only into a free slot. -/
theorem launchPrices_exec (h : exec rt s call = .ok s') (key : PoolKey) :
    s'.launchPrices key = s.launchPrices key ∨ ∃ params sysvar,
      call = .recordLaunchPrice params sysvar ∧ params.key = key ∧ s.launchPrices key = none := by
  cases exec_effect h with
  | recordLaunchPrice params sysvar lp hnone =>
    by_cases hk : params.key = key
    · exact Or.inr ⟨params, sysvar, rfl, hk, hk ▸ hnone⟩
    · exact Or.inl (Function.update_of_ne (Ne.symm hk) _ _)
  | _ => exact Or.inl rfl

/-- A valid anchor is written by a Phase 1 step for its key and by nothing else. -/
theorem anchors_exec (h : exec rt s call = .ok s') {key : PoolKey} {a : EligibilityAnchor}
    (ha : s'.anchors key = some a) (hv : a.invalidated = false) :
    s.anchors key = some a ∨
      ∃ params accounts, call = .evaluatePoolPhase1 params accounts ∧ params.key = key := by
  cases exec_effect h with
  | evaluatePoolPhase1 params accounts a' =>
    by_cases hk : params.key = key
    · exact Or.inr ⟨params, accounts, rfl, hk⟩
    · exact Or.inl ((Function.update_of_ne (Ne.symm hk) _ _).symm.trans ha)
  | invalidateAnchor k authority a' =>
    by_cases hk : key = k
    · subst hk
      obtain rfl : { a' with invalidated := true } = a := by simpa using ha
      cases hv
    · exact Or.inl ((Function.update_of_ne hk _ _).symm.trans ha)
  | sweepStaleAnchor k writer =>
    by_cases hk : key = k
    · subst hk
      cases (Function.update_self _ _ _).symm.trans ha
    · exact Or.inl ((Function.update_of_ne hk _ _).symm.trans ha)
  | _ => exact Or.inl ha

/-- Only a Phase 2 step for its key writes a cert. -/
theorem certs_exec (h : exec rt s call = .ok s') (key : PoolKey) :
    s'.certs key = s.certs key ∨
      ∃ params accounts, call = .evaluatePoolPhase2 params accounts ∧ params.key = key := by
  cases exec_effect h with
  | evaluatePoolPhase2 params accounts =>
    by_cases hk : params.key = key
    · exact Or.inr ⟨params, accounts, rfl, hk⟩
    · exact Or.inl (Function.update_of_ne (Ne.symm hk) _ _)
  | _ => exact Or.inl rfl

/-- A recorded launch price stays, whatever is called afterwards. -/
theorem launchPrices_run (rt : Runtime) {key : PoolKey} {lp : LaunchPrice}
    (h : s.launchPrices key = some lp) (calls : List Call) :
    (run (exec rt) s calls).launchPrices key = some lp := by
  refine run_invariant (I := fun s : State => s.launchPrices key = some lp) ?_ h calls
  intro s call s' hs hexec
  rcases launchPrices_exec hexec key with heq | ⟨_, _, _, _, hn⟩
  · rw [heq, hs]
  · rw [hs] at hn
    cases hn

/-! ## Tracing a cert back -/

/-- A Phase 1 step out of `s` that evaluated the pool as `pool` against `lp`, and wrote `a`. -/
structure WroteAnchor (rt : Runtime) (s : State) (params : EvaluatePoolParams)
    (accounts : EvaluateAccounts) (lp : LaunchPrice) (pool : PoolData) (a : EligibilityAnchor) :
    Prop where
  launchPrice : s.launchPrices params.key = some lp
  evaluated : ∃ cfg inputs, s.protocolConfig = some cfg ∧
    gatherInputs rt s.clock cfg lp params accounts none = .ok (pool, inputs) ∧
    inputs.launchPriceQ64x64 = lp.launchPriceQ64x64 ∧
    evaluate inputs cfg.thresholds .one = .ok allCriteriaMask
  pair : lp.baseMint = pool.baseMint ∧ lp.quoteMint = pool.quoteMint
  epoch : a.firstEligibleEpoch = s.clock.epoch
  valid : a.invalidated = false
  bitmap : a.criteriaBitmap = allCriteriaMask

/-- A Phase 2 step out of `s` that evaluated the pool as `pool` against `lp` and `a`, and
issued `cert`. -/
structure IssuedCert (rt : Runtime) (s : State) (params : EvaluatePoolParams)
    (accounts : EvaluateAccounts) (lp : LaunchPrice) (pool : PoolData) (a : EligibilityAnchor)
    (cert : EligibilityCert) : Prop where
  anchor : s.anchors params.key = some a
  launchPrice : s.launchPrices params.key = some lp
  evaluated : ∃ cfg inputs, s.protocolConfig = some cfg ∧
    gatherInputs rt s.clock cfg lp params accounts (some a.firstEligibleEpoch) =
      .ok (pool, inputs) ∧
    inputs.launchPriceQ64x64 = lp.launchPriceQ64x64 ∧
    evaluate inputs cfg.thresholds .two = .ok allCriteriaMask
  pair : lp.baseMint = pool.baseMint ∧ lp.quoteMint = pool.quoteMint
  anchorEpoch : cert.anchorEpoch = a.firstEligibleEpoch
  certEpoch : cert.certEpoch = s.clock.epoch
  confirmed : a.firstEligibleEpoch.val + 2 ≤ cert.certEpoch.val
  bitmap : cert.criteriaBitmap = allCriteriaMask

/-- What a first phase that succeeds has written. -/
theorem wroteAnchor_of_ok {params : EvaluatePoolParams} {accounts : EvaluateAccounts}
    (h : exec rt s (.evaluatePoolPhase1 params accounts) = .ok s') :
    ∃ lp pool a, s'.anchors params.key = some a ∧
      WroteAnchor rt s params accounts lp pool a := by
  obtain ⟨cfg, lp, pool, inputs, a, hcfg, _, _, hlp, hg, he, hepoch, hv, rfl⟩ :=
    evaluatePoolPhase1_ok h
  obtain ⟨_, hev⟩ := gatherInputs_ok hg
  have hb := (evaluate_ok_iff.1 he).1
  exact ⟨lp, pool, a, Function.update_self _ _ _,
    ⟨hlp, ⟨cfg, inputs, hcfg, hg, hev.launch, hb ▸ he⟩, ⟨hev.base, hev.quote⟩, hepoch, hv, hb⟩⟩

/-- What a second phase that succeeds has issued. -/
theorem issuedCert_of_ok {params : EvaluatePoolParams} {accounts : EvaluateAccounts}
    (h : exec rt s (.evaluatePoolPhase2 params accounts) = .ok s') :
    ∃ lp pool a cert, s'.certs params.key = some cert ∧ a.invalidated = false ∧
      a.criteriaBitmap = allCriteriaMask ∧
      IssuedCert rt s params accounts lp pool a cert := by
  obtain ⟨cfg, lp, pool, inputs, a, c, hcfg, _, ha, hv, hlp, hg, he, hcb, hae, hce, rfl⟩ :=
    evaluatePoolPhase2_ok h
  obtain ⟨_, hev⟩ := gatherInputs_ok hg
  obtain ⟨hb, _, e, hanchor, hconf⟩ := evaluate_ok_iff.1 he
  refine ⟨lp, pool, a, c, Function.update_self _ _ _, hv, hb, ⟨ha, hlp,
    ⟨cfg, inputs, hcfg, hg, hev.launch, hb ▸ he⟩, ⟨hev.base, hev.quote⟩, hae, hce, ?_,
    hcb.trans hb⟩⟩
  rw [hev.anchor, Option.some.injEq] at hanchor
  rw [hev.epoch, ← hanchor] at hconf
  rw [hce]
  exact hconf

/-- The Phase 1 step behind a valid anchor, which has been in place ever since. -/
theorem exists_wroteAnchor {clock : Clock} {calls : List Call} {key : PoolKey}
    {a : EligibilityAnchor}
    (ha : (run (exec rt) (State.genesis clock) calls).anchors key = some a)
    (hv : a.invalidated = false) :
    ∃ pre params accounts post lp pool, calls = pre ++ .evaluatePoolPhase1 params accounts :: post ∧
      params.key = key ∧
      WroteAnchor rt (run (exec rt) (State.genesis clock) pre) params accounts lp pool a ∧
      ∀ mid, mid <+: post → (run (exec rt) (State.genesis clock)
        (pre ++ .evaluatePoolPhase1 params accounts :: mid)).anchors key = some a := by
  obtain ⟨pre, call, post, s', rfl, hn, hexec, hs', hmid⟩ :=
    exists_establishing (exec rt) (P := fun s : State => s.anchors key = some a)
      (s := State.genesis clock) (by simp [State.genesis]) ha
  obtain hold | ⟨params, accounts, rfl, rfl⟩ := anchors_exec hexec hs' hv
  · exact absurd hold hn
  · obtain ⟨lp, pool, a', ha', hw⟩ := wroteAnchor_of_ok hexec
    obtain rfl : a' = a := Option.some.inj (ha'.symm.trans hs')
    exact ⟨pre, params, accounts, post, lp, pool, rfl, rfl, hw, hmid⟩

/-- The one step that recorded a launch price. -/
theorem exists_recordLaunchPrice {clock : Clock} {calls : List Call} {key : PoolKey}
    {lp : LaunchPrice}
    (h : (run (exec rt) (State.genesis clock) calls).launchPrices key = some lp) :
    ∃ pre params sysvar post, calls = pre ++ .recordLaunchPrice params sysvar :: post ∧
      params.key = key ∧ (run (exec rt) (State.genesis clock) pre).launchPrices key = none ∧
      lp.launchPriceQ64x64 = params.launchPriceQ64x64 ∧ 0 < lp.launchPriceQ64x64.val ∧
      lp.baseMint = params.baseMint ∧ lp.quoteMint = params.quoteMint ∧
      ∀ later, (run (exec rt) (State.genesis clock)
        (pre ++ .recordLaunchPrice params sysvar :: later)).launchPrices key = some lp := by
  obtain ⟨pre, call, post, s', rfl, hn, hexec, hs', _⟩ :=
    exists_establishing (exec rt) (P := fun s : State => s.launchPrices key = some lp)
      (s := State.genesis clock) (by simp [State.genesis]) h
  obtain hold | ⟨params, sysvar, rfl, rfl, hfree⟩ := launchPrices_exec hexec key
  · exact absurd (hold.symm.trans hs') hn
  · obtain ⟨_, _, lp', _, _, hb, hq, hp, hpos, rfl⟩ := recordLaunchPrice_ok hexec
    obtain rfl : lp' = lp := by simpa using hs'
    refine ⟨pre, params, sysvar, post, rfl, rfl, hfree, hp, hpos, hb, hq, fun later => ?_⟩
    rw [run_append_cons hexec]
    exact launchPrices_run rt hs' later

/-- Every Phase 2 step that issues or reissues a cert : the anchor it reads was written by a
Phase 1 step for the same pool, whose evaluation succeeded, and has been in place and valid
ever since; the cert carries that step's epoch, is at least two epochs younger and has the
full bitmap, as the anchor has; and both phases compared with the one launch price that
`record_launch_price` stored, a positive one, of the token pair that both parsed. -/
theorem phase2_certified (rt : Runtime) (clock : Clock) (calls : List Call)
    (params : EvaluatePoolParams) (accounts : EvaluateAccounts) (s' : State)
    (h : exec rt (run (exec rt) (State.genesis clock) calls)
      (.evaluatePoolPhase2 params accounts) = .ok s') :
    ∃ pre params₁ accounts₁ post lp pool₁ pool₂ a cert,
      calls = pre ++ .evaluatePoolPhase1 params₁ accounts₁ :: post ∧ params₁.key = params.key ∧
      WroteAnchor rt (run (exec rt) (State.genesis clock) pre) params₁ accounts₁ lp pool₁ a ∧
      (∀ mid, mid <+: post → (run (exec rt) (State.genesis clock)
        (pre ++ .evaluatePoolPhase1 params₁ accounts₁ :: mid)).anchors params.key = some a) ∧
      s'.certs params.key = some cert ∧
      IssuedCert rt (run (exec rt) (State.genesis clock) calls) params accounts lp pool₂ a cert ∧
      ∃ pre₀ params₀ sysvar₀ post₀,
        pre = pre₀ ++ .recordLaunchPrice params₀ sysvar₀ :: post₀ ∧ params₀.key = params.key ∧
        (run (exec rt) (State.genesis clock) pre₀).launchPrices params.key = none ∧
        lp.launchPriceQ64x64 = params₀.launchPriceQ64x64 ∧ 0 < lp.launchPriceQ64x64.val ∧
        ∀ later, (run (exec rt) (State.genesis clock)
          (pre₀ ++ .recordLaunchPrice params₀ sysvar₀ :: later)).launchPrices params.key =
            some lp := by
  obtain ⟨lp₂, pool₂, a, cert, hcert, hv, _, hissued⟩ := issuedCert_of_ok h
  obtain ⟨pre, params₁, accounts₁, post, lp, pool₁, rfl, hkey, hw, hmid⟩ :=
    exists_wroteAnchor hissued.anchor hv
  obtain rfl : lp₂ = lp := by
    have hlp := launchPrices_run rt hw.launchPrice
      (.evaluatePoolPhase1 params₁ accounts₁ :: post)
    rw [← run_append, hkey, hissued.launchPrice] at hlp
    exact Option.some.inj hlp
  obtain ⟨pre₀, params₀, sysvar₀, post₀, hpre, hkey₀, hfree, hp, hpos, _, _, hlater⟩ :=
    exists_recordLaunchPrice hw.launchPrice
  rw [hkey] at hkey₀ hfree hlater
  exact ⟨pre, params₁, accounts₁, post, lp₂, pool₁, pool₂, a, cert, rfl, hkey, hw, hmid, hcert,
    hissued, pre₀, params₀, sysvar₀, post₀, hpre, hkey₀, hfree, hp, hpos, hlater⟩

/-! ## A certified pool -/

/-- `7sF2Drsnq3XGdUGDaRF1hKox59hfp5w98UGoqjgqtCsu`, the pool of the locker's mainnet vectors. -/
def demoPool : Pubkey :=
  Bytes.ofNat 32 0x660504039576a8277b92dcaf80aadbd6f7cad94008944d4e2107d5099f4986ec

/-- `FeckXtFruWKBS8bPJCAE7JQzUq8hvo44E4qHPaLXpTpG`, the lock marker address of that pool. -/
def demoMarker : Pubkey :=
  Bytes.ofNat 32 0xd9a687baa5451fa5df0a7582306b925c9bfe899218667940fbf7cc9fe8a919b5

/-- The runtime as far as one pool without locks needs it. -/
def demoRuntime : Runtime where
  sha256 := Machine.sha256
  findProgramAddress seeds programId :=
    if seeds = [UncxV4.markerSeed, demoPool.val] ∧ programId = UncxV4.programId then demoMarker
    else defaultPubkey
  rentMinimumBalance len := Fin.ofNat (2 ^ 64) ((128 + len) * 6960)

/-- The multisig, which is also both oracles until they are rotated. -/
def demoAuthority : Pubkey :=
  Pubkey.fill 9

/-- A token account of the demonstration pool. -/
def demoTokenAccount (key mint : Pubkey) (amount : ℕ) : AccountInfo :=
  ⟨key, tokenProgramId, 2039280, mint.val ++ List.replicate 32 0 ++ leBytes 8 amount ++
    List.replicate 93 0⟩

/-- The pool account, its vaults, its LP mint, and the marker that was never created. -/
def demoAccounts (issuedSlot : ℕ) : EvaluateAccounts where
  pool := ⟨demoPool, raydiumV4ProgramId, 6124800, List.replicate 336 0 ++ (Pubkey.fill 21).val ++
    (Pubkey.fill 22).val ++ (Pubkey.fill 23).val ++ wsolMint.val ++ (Pubkey.fill 24).val ++
    List.replicate 256 0⟩
  remainingAccounts := [demoTokenAccount (Pubkey.fill 21) (Pubkey.fill 23) 1000000000000,
    demoTokenAccount (Pubkey.fill 22) wsolMint 1000000000,
    ⟨Pubkey.fill 24, tokenProgramId, 1461600, List.replicate 36 0 ++ leBytes 8 1000 ++
      List.replicate 38 0⟩, ⟨demoMarker, defaultPubkey, 0, []⟩]
  instructionSysvar := verifiedPair demoAuthority 72 112 ⟨Pubkey.fill 6, List.replicate 72 0 ++
    (attestationMsg raydiumV4ProgramId demoPool 1 issuedSlot (Pubkey.fill 3)).val⟩
  slotHashes := leBytes 8 1 ++ leBytes 8 issuedSlot ++ (Pubkey.fill 3).val
  writer := Pubkey.fill 7

/-- The parameters of an evaluation of that pool. -/
def demoParams (issuedSlot : ℕ) : EvaluatePoolParams :=
  ⟨raydiumV4ProgramId, demoPool,
    attestationMsg raydiumV4ProgramId demoPool 1 issuedSlot (Pubkey.fill 3)⟩

/-- Its launch price, as it is signed. -/
def demoLaunchPriceMsg : Bytes 168 :=
  ⟨raydiumV4ProgramId.val ++ demoPool.val ++ (Pubkey.fill 23).val ++ wsolMint.val ++
    leBytes 8 5 ++ leBytes 8 800 ++ leBytes 16 (2 ^ 64) ++ leBytes 8 6, by decide +kernel⟩

/-- Initialisation, the launch price, Phase 1, and two epochs. -/
def demoCalls : List Call :=
  [.initializeProtocol ⟨demoAuthority, 0, 0, 0, 0, 500, 0⟩,
    .recordLaunchPrice ⟨raydiumV4ProgramId, demoPool, Pubkey.fill 23, wsolMint,
      18446744073709551616, demoLaunchPriceMsg⟩ (verifiedPair demoAuthority 152 168
        ⟨Pubkey.fill 6, List.replicate 152 0 ++ demoLaunchPriceMsg.val⟩),
    .evaluatePoolPhase1 (demoParams 7) (demoAccounts 7), .tick ⟨900000, 102, 10360000⟩]

/-- The clock before these calls. -/
def demoClock : Clock :=
  ⟨10, 100, 10000000⟩

/-- The second phase succeeds. -/
theorem isOk_demoPhase2 :
    (exec demoRuntime (run (exec demoRuntime) (State.genesis demoClock) demoCalls)
      (.evaluatePoolPhase2 (demoParams 899999) (demoAccounts 899999))).isOk = true := by
  decide +kernel

theorem phase2_certified_demo : ∃ s' cert,
    exec demoRuntime (run (exec demoRuntime) (State.genesis demoClock) demoCalls)
      (.evaluatePoolPhase2 (demoParams 899999) (demoAccounts 899999)) = .ok s' ∧
    s'.certs (raydiumV4ProgramId, demoPool) = some cert ∧
    cert.criteriaBitmap = 0x3F ∧ cert.anchorEpoch.val + 2 ≤ cert.certEpoch.val := by
  obtain ⟨s', hs'⟩ := exists_ok_of_isOk isOk_demoPhase2
  obtain ⟨_, _, _, _, _, _, _, a, cert, _, _, _, _, hcert, hissued, _⟩ :=
    phase2_certified demoRuntime demoClock demoCalls (demoParams 899999) (demoAccounts 899999) s'
      hs'
  refine ⟨s', cert, hs', hcert, hissued.bitmap, ?_⟩
  rw [hissued.anchorEpoch]
  exact hissued.confirmed

end GraveYield.Scanner
