import GraveYield.Solvency

/-!
# Salvage authority across the two programs

The registry and the receipt of a pool are created together, by one successful salvage, under a
live cert that a Phase 2 step of the scanner issued. `poolAccounts_exec` lists what a step can do
to them; `Evolved` is what any later steps can have done, and `evolved_run` carries it along a
run. `salvage_authorized` is the history of every settled pool.
-/

namespace GraveYield.World

open Machine Checked Vault

variable {rt : Runtime} {w w' : World} {ix : Ix}

/-! ## The two records of a pool -/

/-- A step leaves the two records of a pool alone, creates both, adds to the claimed total of the
registry, or stamps the receipt of a pool that was not swept. -/
theorem poolAccounts_exec (h : exec rt w ix = .ok w') (pool : Pubkey) :
    (w'.vault.registries pool = w.vault.registries pool ∧
      w'.vault.receipts pool = w.vault.receipts pool) ∨
    (∃ params accounts programs, ix = .vault (.salvagePool params accounts programs) ∧
      params.poolAddress = pool ∧ w.vault.registries pool = none ∧ w.vault.receipts pool = none ∧
      (w'.vault.registries pool).isSome ∧ (w'.vault.receipts pool).isSome) ∨
    (∃ registry claimed, w.vault.registries pool = some registry ∧
      registry.lpHolderPoolClaimedLamports.val ≤ claimed.val ∧
      w'.vault.registries pool = some { registry with lpHolderPoolClaimedLamports := claimed } ∧
      w'.vault.receipts pool = w.vault.receipts pool) ∨
    ∃ receipt ts, w.vault.receipts pool = some receipt ∧ receipt.dustSweptAtTs = 0 ∧
      w'.vault.receipts pool = some { receipt with dustSweptAtTs := ts } ∧
      w'.vault.registries pool = w.vault.registries pool := by
  rcases exec_cases h with hn | ⟨params, accounts, programs, hix, hsalvage⟩ |
    ⟨params, lpHolder, _, hclaim⟩ | ⟨q, mint, sweeper, _, hsweep⟩
  · exact Or.inl ⟨by rw [hn.registries], by rw [hn.receipts]⟩
  · obtain ⟨_, _, _, hpre, _, _, hv⟩ := salvagePool_effect hsalvage
    by_cases hp : params.poolAddress = pool
    · subst hp
      refine Or.inr (Or.inl ⟨params, accounts, programs, hix, rfl, hpre.registry, hpre.receipt, ?_⟩)
      simp [hv]
    · exact Or.inl (by simp [hv, Ne.symm hp])
  · obtain ⟨registry, _, claimed, _, hreg, _, hamount, _, _, hv, _⟩ := claimLpProceeds_ok hclaim
    obtain ⟨_, _, _, _, hnew, _⟩ := claimAmount_ok_iff.1 hamount
    by_cases hp : params.poolAddress = pool
    · subst hp
      exact Or.inr (Or.inr (Or.inl ⟨registry, claimed, hreg, by omega, by simp [hv], by simp [hv]⟩))
    · exact Or.inl (by simp [hv, Ne.symm hp])
  · obtain ⟨receipt, hr, _, hzero, hv, _⟩ := sweepDust_ok hsweep
    by_cases hp : q = pool
    · subst hp
      exact Or.inr (Or.inr (Or.inr ⟨receipt, w.scanner.clock.unixTimestamp, hr, hzero,
        by simp [hv], by simp [hv]⟩))
    · exact Or.inl (by simp [hv, Ne.symm hp])

/-- What later steps can do to the records of a settled pool : the registry changes in its claimed
total, which does not decrease; the receipt in its stamp, from zero. -/
structure Evolved (pool : Pubkey) (w w' : World) : Prop where
  registry : ∀ r, w.vault.registries pool = some r → ∃ claimed,
    w'.vault.registries pool = some { r with lpHolderPoolClaimedLamports := claimed } ∧
    r.lpHolderPoolClaimedLamports.val ≤ claimed.val
  receipt : ∀ r, w.vault.receipts pool = some r → ∃ ts,
    w'.vault.receipts pool = some { r with dustSweptAtTs := ts } ∧
    (r.dustSweptAtTs ≠ 0 → ts = r.dustSweptAtTs)

theorem Evolved.refl (pool : Pubkey) (w : World) : Evolved pool w w :=
  ⟨fun r h => ⟨r.lpHolderPoolClaimedLamports, h, le_rfl⟩,
    fun r h => ⟨r.dustSweptAtTs, h, fun _ => rfl⟩⟩

theorem Evolved.trans {pool : Pubkey} {w₁ w₂ w₃ : World} (h : Evolved pool w₁ w₂)
    (h' : Evolved pool w₂ w₃) : Evolved pool w₁ w₃ := by
  refine ⟨fun r hr => ?_, fun r hr => ?_⟩
  · obtain ⟨c, hc, hle⟩ := h.registry r hr
    obtain ⟨c', hc', hle'⟩ := h'.registry _ hc
    exact ⟨c', hc', hle.trans hle'⟩
  · obtain ⟨t, ht, hz⟩ := h.receipt r hr
    obtain ⟨t', ht', hz'⟩ := h'.receipt _ ht
    refine ⟨t', ht', fun hne => ?_⟩
    have heq := hz hne
    rw [hz' (heq ▸ hne)]
    exact heq

/-- An instruction lets the records of a pool evolve. -/
theorem evolved_step (h : exec rt w ix = .ok w') (pool : Pubkey) : Evolved pool w w' := by
  rcases poolAccounts_exec h pool with ⟨h1, h2⟩ | ⟨_, _, _, _, _, h1, h2, _⟩ |
    ⟨r₀, c, h1, hle, h2, h3⟩ | ⟨r₀, t, h1, hz, h2, h3⟩
  · exact ⟨fun r hr => ⟨r.lpHolderPoolClaimedLamports, h1.trans hr, le_rfl⟩,
      fun r hr => ⟨r.dustSweptAtTs, h2.trans hr, fun _ => rfl⟩⟩
  · exact ⟨fun r hr => by simp [h1] at hr, fun r hr => by simp [h2] at hr⟩
  · refine ⟨fun r hr => ?_, fun r hr => ⟨r.dustSweptAtTs, h3.trans hr, fun _ => rfl⟩⟩
    obtain rfl := Option.some.inj (h1.symm.trans hr)
    exact ⟨c, h2, hle⟩
  · refine ⟨fun r hr => ⟨r.lpHolderPoolClaimedLamports, h3.trans hr, le_rfl⟩, fun r hr => ?_⟩
    obtain rfl := Option.some.inj (h1.symm.trans hr)
    exact ⟨t, h2, fun hne => absurd hz hne⟩

/-- So does a run. -/
theorem evolved_run (rt : Runtime) (pool : Pubkey) (w : World) (ixs : List Ix) :
    Evolved pool w (run (exec rt) w ixs) :=
  run_rel (I := fun _ => True) (Evolved.refl pool) (fun _ _ _ => Evolved.trans)
    (fun _ _ _ _ h => ⟨trivial, evolved_step h pool⟩) trivial ixs

/-- A pool has both records or neither. -/
def Paired (pool : Pubkey) (w : World) : Prop :=
  (w.vault.registries pool).isSome = (w.vault.receipts pool).isSome

/-- In every reachable state a pool has both records or none. -/
theorem paired_run (rt : Runtime) (clock : Clock) (ledger : Ledger) (pool : Pubkey)
    (ixs : List Ix) : Paired pool (run (exec rt) (genesis clock ledger) ixs) := by
  refine run_invariant (I := Paired pool) ?_ (s := genesis clock ledger) rfl ixs
  intro w ix w' hw h
  unfold Paired at hw ⊢
  rcases poolAccounts_exec h pool with ⟨h1, h2⟩ | ⟨_, _, _, _, _, _, _, h1, h2⟩ |
    ⟨_, _, h1, _, h2, h3⟩ | ⟨_, _, h1, _, h2, h3⟩
  · rw [h1, h2, hw]
  · rw [h1, h2]
  · rw [h3, ← hw, h1, h2]
    rfl
  · rw [h3, hw, h1, h2]
    rfl

/-! ## The cert behind a salvage -/

/-- Only a Phase 2 step for its key writes a cert. -/
theorem certs_exec (h : exec rt w ix = .ok w') (key : Scanner.PoolKey) :
    w'.scanner.certs key = w.scanner.certs key ∨
      ∃ params accounts s, ix = .scanner (.evaluatePoolPhase2 params accounts) ∧
        params.key = key ∧
        Scanner.exec rt w.scanner (.evaluatePoolPhase2 params accounts) = .ok s ∧
        w'.scanner = s := by
  have hstep := scanner_step rt w ix
  rw [step_of_ok h] at hstep
  cases ix with
  | scanner call =>
    obtain ⟨s, hs, rfl⟩ := scanner_ok_iff.1 h
    rcases Scanner.certs_exec hs key with heq | ⟨params, accounts, rfl, hkey⟩
    · exact Or.inl heq
    · exact Or.inr ⟨params, accounts, s, rfl, hkey, hs, rfl⟩
  | vault call => exact Or.inl (by rw [hstep]; rfl)
  | systemTransfer src dst amount => exact Or.inl (by rw [hstep]; rfl)
  | external program metas data => exact Or.inl (by rw [hstep]; rfl)

/-- The Phase 2 step of a run that issued `cert`, which has been in place ever since. -/
structure IssuedIn (rt : Runtime) (w₀ : World) (ixs : List Ix) (key : Scanner.PoolKey)
    (cert : Scanner.EligibilityCert) (pre : List Ix) (params : Scanner.EvaluatePoolParams)
    (accounts : Scanner.EvaluateAccounts) (post : List Ix) : Prop where
  split : ixs = pre ++ .scanner (.evaluatePoolPhase2 params accounts) :: post
  seeds : params.key = key
  issued : ∃ lp pool a,
    Scanner.IssuedCert rt (run (exec rt) w₀ pre).scanner params accounts lp pool a cert
  kept : ∀ mid, mid <+: post → (run (exec rt) w₀
    (pre ++ .scanner (.evaluatePoolPhase2 params accounts) :: mid)).scanner.certs key = some cert

/-- Behind every cert is the second phase that issued it. -/
theorem exists_issuedIn {clock : Clock} {ledger : Ledger} {ixs : List Ix} {key : Scanner.PoolKey}
    {cert : Scanner.EligibilityCert}
    (h : (run (exec rt) (genesis clock ledger) ixs).scanner.certs key = some cert) :
    ∃ pre params accounts post,
      IssuedIn rt (genesis clock ledger) ixs key cert pre params accounts post := by
  obtain ⟨pre, ix, post, w', rfl, hn, hexec, hw', hmid⟩ :=
    exists_establishing (exec rt) (P := fun w : World => w.scanner.certs key = some cert)
      (s := genesis clock ledger) (fun h => nomatch h) h
  rcases certs_exec hexec key with hold | ⟨params, accounts, s, rfl, rfl, hs, rfl⟩
  · exact absurd (hold.symm.trans hw') hn
  · obtain ⟨lp, pool, a, cert', hcert', _, _, hissued⟩ := Scanner.issuedCert_of_ok hs
    obtain rfl : cert' = cert := Option.some.inj (hcert'.symm.trans hw')
    exact ⟨pre, params, accounts, post, rfl, rfl, ⟨lp, pool, a, hissued⟩, hmid⟩

/-! ## The salvage behind a settled pool -/

/-- The supply of the LP mint that the account of a Raydium V4 pool names. -/
def PoolLpSupply (l : Ledger) (pool : Pubkey) (supply : U64) : Prop :=
  ∃ executable bytes lpMint mint,
    (l (.key pool)).data = .program raydiumV4ProgramId executable bytes ∧
    lpMint.val = slice bytes raydiumV4OffLpMint 32 ∧
    (l (.key lpMint)).data = .mint mint ∧ mint.supply = supply

/-- The LP mint is the one that the pool names. -/
theorem derivePoolOrientation_ok {data : List Byte} {side : Bool} {memecoinMint lpMint : Pubkey}
    (h : derivePoolOrientation data = .ok (side, memecoinMint, lpMint)) :
    lpMint.val = slice data raydiumV4OffLpMint 32 := by
  simp only [derivePoolOrientation, readMint, bind_ok_iff, require_ok_iff, exists_const,
    okOr_ok_iff, Bytes.ofList?_eq_some] at h
  obtain ⟨_, _, _, _, _, m, hm, h⟩ := h
  split_ifs at h
  all_goals
    obtain ⟨_, _, rfl⟩ := by simpa only [pure_ok_iff, Prod.mk.injEq] using h
    exact hm

/-- The snapshot of a salvage is bound to the supply of the pool's own LP mint. -/
theorem poolLpSupply_of_preflight {clock : Clock} {cert? : Option Scanner.EligibilityCert}
    {v : Vault.State} {l : Ledger} {params : SalvagePoolParams} {accounts : SalvageAccounts}
    {p : Prepared} (hpre : Preflight clock cert? v l params accounts p)
    (howner : (p.ledger (.key accounts.pool)).data.owner? = some raydiumV4ProgramId) :
    PoolLpSupply l params.poolAddress params.lpTotalSupplyAtSnapshot := by
  obtain ⟨executable, bytes, mint, hdata, horient, hmint, hsupply⟩ := hpre.bytes howner
  exact ⟨executable, bytes, accounts.lpMint, mint, hdata, derivePoolOrientation_ok horient, hmint,
    hsupply⟩

/-- A salvage out of `w` that had the authority to settle its pool. -/
structure AuthorizedSalvage (rt : Runtime) (w : World) (params : SalvagePoolParams)
    (accounts : SalvageAccounts) (programs : Programs) (w' : World) : Prop where
  succeeded : exec rt w (.vault (.salvagePool params accounts programs)) = .ok w'
  fresh : w.vault.registries params.poolAddress = none ∧ w.vault.receipts params.poolAddress = none
  notPaused : ∃ cfg, w.vault.protocolConfig = some cfg ∧ cfg.emergencyPaused = false
  certified : ∃ cert, w.scanner.certs (params.ammProgramId, params.poolAddress) = some cert ∧
    cert.isExpired w.scanner.clock.unixTimestamp = false ∧ cert.criteriaBitmap = 0x3F
  records : ∃ registry receipt, w'.vault.registries params.poolAddress = some registry ∧
    w'.vault.receipts params.poolAddress = some receipt ∧
    registry.ammProgramId = params.ammProgramId ∧ registry.poolAddress = params.poolAddress ∧
    registry.lpHolderPoolClaimedLamports = 0 ∧ receipt.dustSweptAtTs = 0 ∧
    PoolLpSupply w.ledger params.poolAddress registry.lpTotalSupplyAtSnapshot

/-- A salvage that succeeds was authorized. -/
theorem authorizedSalvage_of_ok {params : SalvagePoolParams} {accounts : SalvageAccounts}
    {programs : Programs}
    (h : exec rt w (.vault (.salvagePool params accounts programs)) = .ok w') :
    AuthorizedSalvage rt w params accounts programs w' := by
  obtain ⟨v, l, hsalvage, rfl⟩ := vault_ok_iff.1 h
  obtain ⟨p, s, dust, hpre, howner, _, rfl⟩ := salvagePool_effect hsalvage
  obtain ⟨cert, hcert, hlive, hbitmap, _⟩ := hpre.cert
  refine ⟨h, ⟨hpre.registry, hpre.receipt⟩, ⟨p.cfg, hpre.config, hpre.notPaused⟩,
    ⟨cert, hcert, hlive, hbitmap⟩, _, _, Function.update_self _ _ _, Function.update_self _ _ _,
    rfl, rfl, rfl, rfl, ?_⟩
  exact poolLpSupply_of_preflight hpre howner

/-- After a successful salvage of a pool no later salvage of it succeeds. -/
theorem salvage_once {w₀ w₁ w₂ : World} {pre mid rest post : List Ix}
    {params params' : SalvagePoolParams} {accounts accounts' : SalvageAccounts}
    {programs programs' : Programs}
    (h : exec rt (run (exec rt) w₀ pre) (.vault (.salvagePool params accounts programs)) = .ok w₁)
    (h' : exec rt (run (exec rt) w₀ (pre ++ mid))
      (.vault (.salvagePool params' accounts' programs')) = .ok w₂)
    (hpool : params'.poolAddress = params.poolAddress)
    (hsplit : Ix.vault (.salvagePool params accounts programs) :: post = mid ++ rest) :
    mid = [] := by
  cases mid with
  | nil => rfl
  | cons ix mid =>
    obtain ⟨rfl, _⟩ := List.cons.inj hsplit
    obtain ⟨registry, _, hreg, _⟩ := (authorizedSalvage_of_ok h).records
    obtain ⟨_, hlater, _⟩ := (evolved_run rt params.poolAddress w₁ mid).registry registry hreg
    have hfresh := (authorizedSalvage_of_ok h').fresh.1
    rw [hpool, run_append_cons h, hlater] at hfresh
    cases hfresh

/-- The history of every settled pool. Its registry and its receipt were created together by one
successful salvage of the run, of a fresh pool, with the vault not paused, under a live cert with
the full bitmap that a Phase 2 step for the same program and pool had issued, and with the supply
of the pool's own LP mint; no other salvage of the pool succeeds; and from then on, however the
run goes on, the registry changes only in its claimed total, which grows within the bucket, and
the receipt only in its stamp, once and from zero. -/
theorem salvage_authorized (rt : Runtime) (clock : Clock) (ledger : Ledger) (ixs : List Ix)
    (pool : Pubkey)
    (h : ((run (exec rt) (genesis clock ledger) ixs).vault.registries pool).isSome ∨
      ((run (exec rt) (genesis clock ledger) ixs).vault.receipts pool).isSome) :
    ∃ pre params accounts programs post w₁,
      ixs = pre ++ .vault (.salvagePool params accounts programs) :: post ∧
      params.poolAddress = pool ∧
      AuthorizedSalvage rt (run (exec rt) (genesis clock ledger) pre) params accounts programs w₁ ∧
      (∀ cert, (run (exec rt) (genesis clock ledger) pre).scanner.certs
          (params.ammProgramId, pool) = some cert →
        ∃ pre₂ params₂ accounts₂ post₂, IssuedIn rt (genesis clock ledger) pre
          (params.ammProgramId, pool) cert pre₂ params₂ accounts₂ post₂) ∧
      (∀ pre' params' accounts' programs' post' w',
        ixs = pre' ++ .vault (.salvagePool params' accounts' programs') :: post' →
        params'.poolAddress = pool →
        exec rt (run (exec rt) (genesis clock ledger) pre')
          (.vault (.salvagePool params' accounts' programs')) = .ok w' → pre' = pre) ∧
      ∀ mid later, Evolved pool (run (exec rt) w₁ mid) (run (exec rt) w₁ (mid ++ later)) ∧
        ∀ registry, (run (exec rt) w₁ mid).vault.registries pool = some registry →
          registry.lpHolderPoolClaimedLamports.val ≤ registry.lpHolderPoolTotalLamports.val := by
  have hreg : ((run (exec rt) (genesis clock ledger) ixs).vault.registries pool).isSome := by
    rcases h with h | h
    · exact h
    · rw [paired_run rt clock ledger pool ixs, h]
  obtain ⟨pre, ix, post, w₁, rfl, hn, hexec, hw₁, _⟩ :=
    exists_establishing (exec rt)
      (P := fun w : World => (w.vault.registries pool).isSome = true)
      (s := genesis clock ledger) (fun h => nomatch h) hreg
  rcases poolAccounts_exec hexec pool with ⟨h1, _⟩ | ⟨params, accounts, programs, rfl, rfl, _⟩ |
    ⟨_, _, h1, _⟩ | ⟨_, _, _, _, _, h1⟩
  · exact absurd (h1 ▸ hw₁) hn
  · refine ⟨pre, params, accounts, programs, post, w₁, rfl, rfl, authorizedSalvage_of_ok hexec,
      fun cert hcert => exists_issuedIn hcert, ?_, fun mid later => ⟨?_, fun registry hr => ?_⟩⟩
    · intro pre' params' accounts' programs' post' w' hsplit hpool hexec'
      rcases List.append_eq_append_iff.1 hsplit with ⟨mid, rfl, hmid⟩ | ⟨mid, rfl, hmid⟩
      · rw [salvage_once hexec hexec' hpool hmid, List.append_nil]
      · rw [salvage_once hexec' hexec hpool.symm hmid, List.append_nil]
    · rw [run_append]
      exact evolved_run rt _ _ later
    · rw [← run_append_cons hexec] at hr
      exact ((solvent_run rt clock ledger _).pools _ _ hr).capped
  · exact absurd (by rw [h1]; rfl) hn
  · exact absurd (h1 ▸ hw₁) hn

/-! ## A settled pool -/

/-- Who salvages in the demonstration. -/
def demoSalvor : Pubkey := Pubkey.fill 30

/-- Who holds its LP tokens. -/
def demoHolder : Pubkey := Pubkey.fill 32

/-- Its memecoin. -/
def demoMemecoin : Pubkey := Pubkey.fill 23

/-- Its LP mint. -/
def demoLpMint : Pubkey := Pubkey.fill 24

/-- A token account of a mint. -/
def demoToken (mint owner : Pubkey) (amount : U64) : AccountData :=
  .token (.fresh mint (.key owner) amount)

/-- The pool of the certification run with its mints and vaults, the salvor with nine tenths of
the LP supply, and an LP holder. -/
def demoLedger : Ledger
  | .key k =>
    if k = demoSalvor then .system 1000000000000
    else if k = demoHolder then .system 1000000000
    else if k = Scanner.demoPool then
      ⟨6124800, .program raydiumV4ProgramId false (Scanner.demoAccounts 0).pool.data⟩
    else if k = raydiumV4ProgramId then ⟨1141440, .program (Pubkey.fill 40) true []⟩
    else if k = demoLpMint then ⟨1461600, .mint ⟨1000, none⟩⟩
    else if k = demoMemecoin then ⟨1461600, .mint ⟨1000000000000, none⟩⟩
    else if k = wsolMint then ⟨1461600, .mint ⟨0, none⟩⟩
    else if k = Pubkey.fill 31 then ⟨2039280, demoToken demoLpMint demoSalvor 900⟩
    else if k = Pubkey.fill 21 then
      ⟨2039280, demoToken demoMemecoin raydiumV4AmmAuthority 1000000000000⟩
    else if k = Pubkey.fill 22 then ⟨2039280, demoToken wsolMint raydiumV4AmmAuthority 1000000000⟩
    else .system 0
  | _ => .system 0

/-- The sealed root is the leaf of one holder of the whole supply. -/
def demoSalvageParams : SalvagePoolParams where
  ammProgramId := raydiumV4ProgramId
  poolAddress := Scanner.demoPool
  lpSnapshotMerkleRoot := computeLeaf Machine.sha256 demoHolder 1000
  lpTotalSupplyAtSnapshot := 1000
  minQuoteOutputLamports := 0
  salvorLpAmount := 900
  jupiterRouteData := []
  maxSlippageBpsOverride := none
  jupiterRouteAccountsLen := 0

/-- The accounts of its salvage. -/
def demoSalvageAccounts : SalvageAccounts where
  salvor := demoSalvor
  pool := Scanner.demoPool
  ammProgram := raydiumV4ProgramId
  jupiterProgram := jupiterV6ProgramId
  salvorLpTokenAccount := .key (Pubkey.fill 31)
  lpMint := demoLpMint
  memecoinMint := demoMemecoin
  remainingAccounts := ⟨.key raydiumV4AmmAuthority, false, false⟩ ::
    [41, 42, 21, 22, 43, 44, 45, 46, 47, 48, 49, 51].map
      fun b => ⟨.key (Pubkey.fill b), false, true⟩

/-- The withdrawal pays out nine tenths of both reserves and burns the salvor's LP. -/
def demoRaydium : Program :=
  .writing [(vaultBaseAta, .token (.fresh wsolMint .vaultAuthority 900000000)),
    (vaultMemecoinAta demoMemecoin, .token (.fresh demoMemecoin .vaultAuthority 900000000000)),
    (.key (Pubkey.fill 22), demoToken wsolMint raydiumV4AmmAuthority 100000000),
    (.key (Pubkey.fill 21), demoToken demoMemecoin raydiumV4AmmAuthority 100000000000),
    (.key (Pubkey.fill 31), demoToken demoLpMint demoSalvor 0),
    (.key demoLpMint, .mint ⟨100, none⟩)]

/-- The certification of the pool, and a vault whose dust threshold leaves the swap out. -/
def demoSetup : List Ix :=
  Scanner.demoCalls.map .scanner ++
    [.scanner (.evaluatePoolPhase2 (Scanner.demoParams 899999) (Scanner.demoAccounts 899999)),
      .vault (.initializeProtocol ⟨Scanner.demoAuthority, 0, 0, 0, 0, 0, 1000000000000, 0⟩
        demoSalvor)]

/-- Its salvage. -/
def demoSalvage : Ix :=
  .vault (.salvagePool demoSalvageParams demoSalvageAccounts ⟨demoRaydium, .writing []⟩)

/-- The salvage succeeds. -/
theorem isOk_demoSalvage : (exec Scanner.demoRuntime (run (exec Scanner.demoRuntime)
    (genesis Scanner.demoClock demoLedger) demoSetup) demoSalvage).isOk = true := by
  decide +kernel

/-- The pool is registered then. -/
theorem isSome_demoRegistry : ((run (exec Scanner.demoRuntime)
    (genesis Scanner.demoClock demoLedger) (demoSetup ++ [demoSalvage])).vault.registries
      Scanner.demoPool).isSome = true := by
  decide +kernel

/-- The salvage of the demonstration run. -/
theorem salvage_authorized_demo : ∃ pre params accounts programs post w₁,
    demoSetup ++ [demoSalvage] = pre ++ .vault (.salvagePool params accounts programs) :: post ∧
      params.poolAddress = Scanner.demoPool ∧
      AuthorizedSalvage Scanner.demoRuntime (run (exec Scanner.demoRuntime)
        (genesis Scanner.demoClock demoLedger) pre) params accounts programs w₁ := by
  obtain ⟨pre, params, accounts, programs, post, w₁, hsplit, hpool, hauth, _⟩ :=
    salvage_authorized Scanner.demoRuntime Scanner.demoClock demoLedger (demoSetup ++ [demoSalvage])
      Scanner.demoPool (Or.inl isSome_demoRegistry)
  exact ⟨pre, params, accounts, programs, post, w₁, hsplit, hpool, hauth⟩

end GraveYield.World
