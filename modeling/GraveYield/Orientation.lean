import GraveYield.Certification
import GraveYield.Salvage

/-!
# The two sides of a pool

Both programs read the Raydium V4 pool account on their own. The scanner fixes the pc side as
the quote side : its balance is the residual TVL, and the price is pc per coin. The vault takes
the side whose mint is WSOL as its base. `OrientationAgrees` says that what the scanner
compares is about the WSOL side; `orientationAgrees_iff` when this is so.
-/

namespace GraveYield

open Machine Checked Scanner

/-- The balance of the vault that the pool names at `offset`. -/
def vaultBalance (accounts : EvaluateAccounts) (offset : ℕ) : Option U64 := do
  let key ← Bytes.ofList? 32 (slice accounts.pool.data offset 32)
  let info ← accounts.remainingAccounts.find? fun i => i.key = key
  return leWordAt 8 info.data RaydiumV4.offTokenAccountAmount

/-- The balance of the side that the vault pays out as base. -/
def baseBalance (accounts : EvaluateAccounts) (baseIsCoinSide : Bool) : Option U64 :=
  vaultBalance accounts (if baseIsCoinSide then RaydiumV4.offCoinVault else RaydiumV4.offPcVault)

/-- The balance of the other side. -/
def memecoinBalance (accounts : EvaluateAccounts) (baseIsCoinSide : Bool) : Option U64 :=
  vaultBalance accounts (if baseIsCoinSide then RaydiumV4.offPcVault else RaydiumV4.offCoinVault)

/-- The criteria are evaluated on the WSOL balance as the TVL, and on the price of the memecoin
in WSOL. -/
def OrientationAgrees (accounts : EvaluateAccounts) (baseIsCoinSide : Bool)
    (inputs : CriteriaInputs) : Prop :=
  ∃ wsol memecoin, baseBalance accounts baseIsCoinSide = some wsol ∧
    memecoinBalance accounts baseIsCoinSide = some memecoin ∧
    inputs.currentTvlLamports = wsol ∧
    inputs.currentPriceQ64x64.val = wsol.val * 2 ^ 64 / memecoin.val

/-- One of the phases accepts the pool, and has evaluated the criteria on `inputs`. -/
def Compares (rt : Runtime) (s : Scanner.State) (params : EvaluatePoolParams)
    (accounts : EvaluateAccounts) (inputs : CriteriaInputs) : Prop :=
  ∃ s' cfg lp pool, s.protocolConfig = some cfg ∧ s.launchPrices params.key = some lp ∧
    ((Scanner.exec rt s (.evaluatePoolPhase1 params accounts) = .ok s' ∧
        gatherInputs rt s.clock cfg lp params accounts none = .ok (pool, inputs)) ∨
      ∃ a, Scanner.exec rt s (.evaluatePoolPhase2 params accounts) = .ok s' ∧
        s.anchors params.key = some a ∧
        gatherInputs rt s.clock cfg lp params accounts (some a.firstEligibleEpoch) =
          .ok (pool, inputs))

/-! ## What each program reads -/

theorem readPubkey_ok {data : List Byte} {offset : ℕ} {key : Pubkey}
    (h : readPubkey data offset = .ok key) : Bytes.ofList? 32 (slice data offset 32) = some key :=
  okOr_ok_iff.1 h

theorem readTokenAccount_ok {a : AccountInfo} {mint : Pubkey} {amount : U64}
    (h : RaydiumV4.readTokenAccount a = .ok (mint, amount)) :
    amount = leWordAt 8 a.data RaydiumV4.offTokenAccountAmount := by
  simp only [RaydiumV4.readTokenAccount, readU64Le, bind_ok_iff, require_ok_iff, exists_const,
    pure_ok_iff, Prod.mk.injEq] at h
  obtain ⟨_, _, _, _, ⟨_, rfl⟩, _, rfl⟩ := h
  rfl

/-- The scanner's base reserve is the coin balance, its quote reserve the pc balance. -/
theorem parse_balances {accounts : EvaluateAccounts} {pool : PoolData}
    (h : RaydiumV4.parse accounts.pool accounts.remainingAccounts = .ok pool) :
    vaultBalance accounts RaydiumV4.offCoinVault = some pool.baseReserve ∧
      vaultBalance accounts RaydiumV4.offPcVault = some pool.quoteReserve := by
  simp only [RaydiumV4.parse, bind_ok_iff, require_ok_iff, exists_const, okOr_ok_iff, pure_ok_iff,
    Prod.exists] at h
  obtain ⟨_, coin, hcoin, pc, hpc, _, _, _, _, _, _, ci, hci, pi, hpi, _, _, _, _, _, _, ca, hca,
    _, pa, hpa, _, _, _, _, _, rfl⟩ := h
  simp only [vaultBalance, readPubkey_ok hcoin, readPubkey_ok hpc, Option.bind_eq_bind,
    Option.bind_some, hci, hpi, readTokenAccount_ok hca, readTokenAccount_ok hpa]
  exact ⟨rfl, rfl⟩

/-- The price is the quotient of the reserves. -/
theorem currentPriceQ64x64_ok {pool : PoolData} {price : U128}
    (h : pool.currentPriceQ64x64 = .ok price) :
    price.val = pool.quoteReserve.val * 2 ^ 64 / pool.baseReserve.val := by
  simp only [PoolData.currentPriceQ64x64, bind_ok_iff, require_ok_iff, exists_const,
    okOr_ok_iff] at h
  exact (Word.checkedDiv_eq_some.1 h.2).2

/-- The amount that Criterion 3 compares, and the price that Criterion 2 compares. -/
theorem gatherInputs_amounts {rt : Runtime} {clock : Clock} {cfg : Scanner.ProtocolConfig}
    {lp : LaunchPrice} {params : EvaluatePoolParams} {accounts : EvaluateAccounts}
    {anchorEpoch : Option U64} {pool : PoolData} {inputs : CriteriaInputs}
    (h : gatherInputs rt clock cfg lp params accounts anchorEpoch = .ok (pool, inputs)) :
    inputs.currentTvlLamports = pool.quoteReserve ∧
      inputs.currentPriceQ64x64.val = pool.quoteReserve.val * 2 ^ 64 / pool.baseReserve.val := by
  simp only [gatherInputs, bind_ok_iff, require_ok_iff, exists_const, pure_ok_iff] at h
  obtain ⟨_, _, _, _, _, _, _, price, hprice, h⟩ := h
  obtain ⟨rfl, rfl⟩ := Prod.mk.inj h
  exact ⟨rfl, currentPriceQ64x64_ok hprice⟩

/-- The pc mint of the pool is WSOL. -/
def PcSideWsol (pool : AccountInfo) : Prop :=
  slice pool.data RaydiumV4.offPcVaultMint 32 = wsolMint.val

/-- Whether the pc side is WSOL is decided. -/
instance (pool : AccountInfo) : Decidable (PcSideWsol pool) :=
  inferInstanceAs (Decidable (_ = _))

/-- The vault's orientation is the side whose mint is WSOL. -/
theorem derivePoolOrientation_ok {data : List Byte} {baseIsCoinSide : Bool}
    {memecoinMint lpMint : Pubkey}
    (h : Vault.derivePoolOrientation data = .ok (baseIsCoinSide, memecoinMint, lpMint)) :
    baseIsCoinSide = false ↔ slice data RaydiumV4.offPcVaultMint 32 = wsolMint.val := by
  simp only [Vault.derivePoolOrientation, Vault.readMint, bind_ok_iff, require_ok_iff, exists_const,
    okOr_ok_iff] at h
  obtain ⟨_, coinMint, _, pcMint, hpc, _, _, h⟩ := h
  have hslice : slice data RaydiumV4.offPcVaultMint 32 = pcMint.val :=
    (Bytes.ofList?_eq_some.1 hpc).symm
  rw [hslice]
  split_ifs at h with hcoin hside
  · obtain ⟨rfl, _⟩ := Prod.mk.inj (pure_ok_iff.1 h)
    simpa using fun heq => hcoin.2 (Subtype.ext heq)
  · obtain ⟨rfl, _⟩ := Prod.mk.inj (pure_ok_iff.1 h)
    simp [hside.1]

/-! ## When they agree -/

theorem Compares.gathered {rt : Runtime} {s : Scanner.State} {params : EvaluatePoolParams}
    {accounts : EvaluateAccounts} {inputs : CriteriaInputs}
    (h : Compares rt s params accounts inputs) :
    ∃ clock cfg lp anchorEpoch pool,
      gatherInputs rt clock cfg lp params accounts anchorEpoch = .ok (pool, inputs) := by
  obtain ⟨_, cfg, lp, pool, _, _, ⟨_, hg⟩ | ⟨a, _, _, hg⟩⟩ := h
  · exact ⟨s.clock, cfg, lp, none, pool, hg⟩
  · exact ⟨s.clock, cfg, lp, some a.firstEligibleEpoch, pool, hg⟩

/-- When the two programs agree about a pool. -/
theorem agrees_iff {rt : Runtime} {s : Scanner.State} {params : EvaluatePoolParams}
    {accounts : EvaluateAccounts} {inputs : CriteriaInputs} {baseIsCoinSide : Bool}
    {memecoinMint lpMint : Pubkey} (h : Compares rt s params accounts inputs)
    (ho : Vault.derivePoolOrientation accounts.pool.data =
      .ok (baseIsCoinSide, memecoinMint, lpMint)) :
    OrientationAgrees accounts baseIsCoinSide inputs ↔
      PcSideWsol accounts.pool ∨
        vaultBalance accounts RaydiumV4.offCoinVault =
          vaultBalance accounts RaydiumV4.offPcVault := by
  obtain ⟨_, _, _, _, pool, hg⟩ := h.gathered
  obtain ⟨_, _, hparse⟩ := extractPoolData_ok (gatherInputs_ok hg).1
  obtain ⟨hcoin, hpc⟩ := parse_balances hparse
  obtain ⟨htvl, hprice⟩ := gatherInputs_amounts hg
  have hside : baseIsCoinSide = false ↔ PcSideWsol accounts.pool := derivePoolOrientation_ok ho
  unfold OrientationAgrees baseBalance memecoinBalance
  rw [← hside, hcoin, hpc]
  cases baseIsCoinSide with
  | false =>
    -- The scanner's convention is the vault's orientation.
    have hagrees : ∃ wsol memecoin, some pool.quoteReserve = some wsol ∧
        some pool.baseReserve = some memecoin ∧ inputs.currentTvlLamports = wsol ∧
        inputs.currentPriceQ64x64.val = wsol.val * 2 ^ 64 / memecoin.val :=
      ⟨_, _, rfl, rfl, htvl, hprice⟩
    simpa [hcoin, hpc] using hagrees
  | true =>
    -- Criterion 3 is about the memecoin balance.
    simp only [if_true, hcoin, hpc, Option.some.injEq, reduceCtorEq, false_or]
    constructor
    · rintro ⟨wsol, memecoin, rfl, _, htvl', _⟩
      rw [← htvl', htvl]
    · intro heq
      exact ⟨_, _, rfl, rfl, htvl.trans heq.symm, by rw [hprice, heq]⟩

/-- For every evaluation that a phase accepts, of a pool whose orientation the vault derives :
the criteria were evaluated on the WSOL side exactly if this is the pc side, or the two vaults
hold the same amount. -/
theorem orientationAgrees_iff (rt : Runtime) (s : Scanner.State) (params : EvaluatePoolParams)
    (accounts : EvaluateAccounts) (inputs : CriteriaInputs) (baseIsCoinSide : Bool)
    (memecoinMint lpMint : Pubkey) (h : Compares rt s params accounts inputs)
    (ho : Vault.derivePoolOrientation accounts.pool.data =
      .ok (baseIsCoinSide, memecoinMint, lpMint)) :
    OrientationAgrees accounts baseIsCoinSide inputs ↔
      PcSideWsol accounts.pool ∨
        vaultBalance accounts RaydiumV4.offCoinVault =
          vaultBalance accounts RaydiumV4.offPcVault :=
  agrees_iff h ho

theorem compares_of_phase1 {rt : Runtime} {s : Scanner.State} {params : EvaluatePoolParams}
    {accounts : EvaluateAccounts}
    (h : (Scanner.exec rt s (.evaluatePoolPhase1 params accounts)).isOk = true) :
    ∃ inputs, Compares rt s params accounts inputs := by
  obtain ⟨s', hs'⟩ := exists_ok_of_isOk h
  obtain ⟨cfg, lp, pool, inputs, _, hcfg, _, _, hlp, hg, _⟩ := evaluatePoolPhase1_ok hs'
  exact ⟨inputs, s', cfg, lp, pool, hcfg, hlp, Or.inl ⟨hs', hg⟩⟩

theorem isOk_demoPhase1 :
    (Scanner.exec demoRuntime (run (Scanner.exec demoRuntime) (State.genesis demoClock)
      (demoCalls.take 2)) (.evaluatePoolPhase1 (demoParams 7) (demoAccounts 7))).isOk = true ∧
    Vault.derivePoolOrientation (demoAccounts 7).pool.data =
      .ok (false, Pubkey.fill 23, Pubkey.fill 24) := by
  decide +kernel

theorem orientationAgrees_iff_demo : ∃ inputs,
    Compares demoRuntime (run (Scanner.exec demoRuntime) (State.genesis demoClock)
      (demoCalls.take 2)) (demoParams 7) (demoAccounts 7) inputs ∧
    OrientationAgrees (demoAccounts 7) false inputs := by
  obtain ⟨hok, ho⟩ := isOk_demoPhase1
  obtain ⟨inputs, h⟩ := compares_of_phase1 hok
  exact ⟨inputs, h, (orientationAgrees_iff _ _ _ _ _ _ _ _ h ho).2 (Or.inl (by decide +kernel))⟩

/-! ## A pool whose coin side is WSOL -/

/-- The demo pool with the mints exchanged : 1000 lamports and a thousand million tokens. -/
def flippedAccounts : EvaluateAccounts :=
  { demoAccounts 7 with
    pool := ⟨demoPool, raydiumV4ProgramId, 6124800, List.replicate 336 0 ++ (Pubkey.fill 21).val ++
      (Pubkey.fill 22).val ++ wsolMint.val ++ (Pubkey.fill 23).val ++ (Pubkey.fill 24).val ++
      List.replicate 256 0⟩
    remainingAccounts := [demoTokenAccount (Pubkey.fill 21) wsolMint 1000,
      demoTokenAccount (Pubkey.fill 22) (Pubkey.fill 23) 1000000000,
      ⟨Pubkey.fill 24, tokenProgramId, 1461600, List.replicate 36 0 ++ leBytes 8 1000 ++
        List.replicate 38 0⟩, ⟨demoMarker, defaultPubkey, 0, []⟩] }

/-- A launch price of a hundred million tokens per lamport. -/
def flippedLaunchPriceMsg : Bytes 168 :=
  ⟨raydiumV4ProgramId.val ++ demoPool.val ++ wsolMint.val ++ (Pubkey.fill 23).val ++
    leBytes 8 5 ++ leBytes 8 800 ++ leBytes 16 (100000000 * 2 ^ 64) ++ leBytes 8 6,
    by decide +kernel⟩

/-- The run on the flipped pool. -/
def flippedCalls : List Call :=
  [.initializeProtocol ⟨demoAuthority, 0, 0, 0, 0, 500, 0⟩,
    .recordLaunchPrice ⟨raydiumV4ProgramId, demoPool, wsolMint, Pubkey.fill 23,
      1844674407370955161600000000, flippedLaunchPriceMsg⟩ (verifiedPair demoAuthority 152 168
        ⟨Pubkey.fill 6, List.replicate 152 0 ++ flippedLaunchPriceMsg.val⟩)]

theorem isOk_flippedPhase1 :
    (Scanner.exec demoRuntime (run (Scanner.exec demoRuntime) (State.genesis demoClock)
      flippedCalls) (.evaluatePoolPhase1 (demoParams 7) flippedAccounts)).isOk = true ∧
    Vault.derivePoolOrientation flippedAccounts.pool.data =
      .ok (true, Pubkey.fill 23, Pubkey.fill 24) ∧
    vaultBalance flippedAccounts RaydiumV4.offCoinVault = some 1000 ∧
    vaultBalance flippedAccounts RaydiumV4.offPcVault = some 1000000000 := by
  decide +kernel

/-- Phase 1 accepts a pool with 1000 lamports of WSOL against a floor of half a SOL. -/
theorem flippedPool_disagrees : ∃ inputs,
    Compares demoRuntime (run (Scanner.exec demoRuntime) (State.genesis demoClock) flippedCalls)
      (demoParams 7) flippedAccounts inputs ∧
    Vault.derivePoolOrientation flippedAccounts.pool.data =
      .ok (true, Pubkey.fill 23, Pubkey.fill 24) ∧
    ¬OrientationAgrees flippedAccounts true inputs := by
  obtain ⟨hok, ho, hcoin, hpc⟩ := isOk_flippedPhase1
  obtain ⟨inputs, h⟩ := compares_of_phase1 hok
  refine ⟨inputs, h, ho, ?_⟩
  rw [agrees_iff h ho, hcoin, hpc]
  have hside : ¬PcSideWsol flippedAccounts.pool := by decide +kernel
  rintro (hwsol | heq)
  · exact hside hwsol
  · exact absurd heq (by decide)

end GraveYield
