import GraveYield.Certification
import GraveYield.Sdk.Client

/-!
# The dry run against the chain

`evaluatePool` reports the price, TVL and LP-supply criteria of a pool, and the chain decides
them on the same accounts : the adapter parses the pool, `currentPriceQ64x64` divides the
reserves, and `evaluate` compares. `Diverges` lists where the two differ, and
`evaluatePool_agrees_iff` says that they agree everywhere else.
-/

namespace GraveYield

open Machine Checked

/-! ## A pool and its accounts -/

/-- The token account that a pool names at one offset, of the mint it names at another. -/
structure IsVault (pool vault : AccountInfo) (vaultOffset mintOffset : ℕ) : Prop where
  key : slice pool.data vaultOffset 32 = vault.key.val
  owner : vault.owner = tokenProgramId
  size : vault.data.length = 165
  mint : slice vault.data 0 32 = slice pool.data mintOffset 32

/-- A pool of Raydium V4 with its vaults and its LP mint. -/
structure V4Pool where
  pool : AccountInfo
  coinVault : AccountInfo
  pcVault : AccountInfo
  lpMint : AccountInfo
  owner : pool.owner = raydiumV4ProgramId
  size : pool.data.length = 752
  coin : IsVault pool coinVault 336 400
  pc : IsVault pool pcVault 368 432
  lp_key : slice pool.data 464 32 = lpMint.key.val
  lp_owner : lpMint.owner = tokenProgramId
  lp_size : lpMint.data.length = 82

namespace V4Pool

variable (p : V4Pool)

/-- What the coin vault holds. -/
def coinReserve : U64 := leWordAt 8 p.coinVault.data 64

/-- What the pc vault holds. -/
def pcReserve : U64 := leWordAt 8 p.pcVault.data 64

/-- The LP supply. -/
def lpSupply : U64 := leWordAt 8 p.lpMint.data 36

/-- The coin mint, which V4 takes as the base. -/
def baseMint : Pubkey :=
  ⟨slice p.pool.data 400 32, length_slice (by rw [p.size]; decide)⟩

/-- The pc mint, which V4 takes as the quote. -/
def quoteMint : Pubkey :=
  ⟨slice p.pool.data 432 32, length_slice (by rw [p.size]; decide)⟩

/-- What the adapter makes of the pool : the coin side is the base. -/
def poolData : Scanner.PoolData :=
  ⟨p.coinReserve, p.pcReserve, p.lpSupply, p.baseMint, p.quoteMint, p.lpMint.key⟩

/-- The price of the adapter in Q64.64, zero where there is no coin. -/
def price : ℕ :=
  p.pcReserve.val * 2 ^ 64 / p.coinReserve.val

/-- The accounts beside the pool's own. -/
def evidence : List AccountInfo :=
  [p.coinVault, p.pcVault, p.lpMint]

/-- The remaining accounts of an instruction that carries the evidence, in any order. -/
def Among (remaining : List AccountInfo) : Prop :=
  ∀ account ∈ p.evidence, remaining.find? (fun i => i.key = account.key) = some account

end V4Pool

namespace Scanner

variable {p : V4Pool} {remaining : List AccountInfo}

/-- The SDK reads the word at an offset that the data reaches. -/
theorem readU64Le_eq {data : List Byte} {offset : ℕ} (h : offset + 8 ≤ data.length) :
    readU64Le data offset = .ok (leWordAt 8 data offset) := by
  rw [readU64Le, require_of h]
  rfl

/-- A token account of the right size is read as its mint and its amount. -/
theorem readTokenAccount_eq {a : AccountInfo} {mint : Pubkey} (hsize : a.data.length = 165)
    (hmint : slice a.data 0 32 = mint.val) :
    RaydiumV4.readTokenAccount a = .ok (mint, leWordAt 8 a.data 64) := by
  have hle : RaydiumV4.tokenAccountSize ≤ a.data.length := by
    rw [hsize, RaydiumV4.tokenAccountSize]
  have hamount : RaydiumV4.offTokenAccountAmount + 8 ≤ a.data.length := by
    rw [hsize, RaydiumV4.offTokenAccountAmount]
    decide
  have hkey : readPubkey a.data RaydiumV4.offTokenAccountMint = .ok mint := readPubkey_eq hmint
  rw [RaydiumV4.readTokenAccount, require_of hle, ok_bind, hkey, ok_bind, readU64Le_eq hamount]
  rfl

/-- The adapter parses a pool whose accounts it is handed. -/
theorem parse_eq (h : p.Among remaining) :
    RaydiumV4.parse p.pool remaining = .ok (p.poolData) := by
  have hcoin := h p.coinVault (by simp [V4Pool.evidence])
  have hpc := h p.pcVault (by simp [V4Pool.evidence])
  have hlp := h p.lpMint (by simp [V4Pool.evidence])
  have hsize : p.pool.data.length = RaydiumV4.ammInfoSize := p.size
  have hlpSize : RaydiumV4.mintAccountSize ≤ p.lpMint.data.length := by
    rw [p.lp_size, RaydiumV4.mintAccountSize]
  have hsupply : RaydiumV4.offMintSupply + 8 ≤ p.lpMint.data.length := by
    rw [p.lp_size, RaydiumV4.offMintSupply]
    decide
  have hbase : slice p.pool.data RaydiumV4.offCoinVaultMint 32 = p.baseMint.val := rfl
  have hquote : slice p.pool.data RaydiumV4.offPcVaultMint 32 = p.quoteMint.val := rfl
  have hcoinKey : readPubkey p.pool.data RaydiumV4.offCoinVault = .ok p.coinVault.key :=
    readPubkey_eq p.coin.key
  have hpcKey : readPubkey p.pool.data RaydiumV4.offPcVault = .ok p.pcVault.key :=
    readPubkey_eq p.pc.key
  have hlpKey : readPubkey p.pool.data RaydiumV4.offLpMint = .ok p.lpMint.key :=
    readPubkey_eq p.lp_key
  simp only [RaydiumV4.parse, require_of hsize, hcoinKey, hpcKey, hlpKey,
    readPubkey_eq hbase, readPubkey_eq hquote, hcoin, hpc, hlp, okOr_some, ok_bind,
    require_of p.coin.owner, require_of p.pc.owner, require_of p.lp_owner,
    readTokenAccount_eq p.coin.size (p.coin.mint.trans hbase),
    readTokenAccount_eq p.pc.size (p.pc.mint.trans hquote), require_of hlpSize,
    readU64Le_eq hsupply]
  rfl

/-! ## The chain's verdict -/

/-- The criteria that are not about the price, the TVL or the LP supply. -/
structure OtherCriteria (inputs : CriteriaInputs) (thresholds : CriteriaThresholds)
    (phase : Phase) : Prop where
  clock : inputs.lastSwapUnixTs ≤ inputs.currentUnixTs
  inactive : (thresholds.inactivitySeconds.val : ℤ) ≤ inputs.currentUnixTs - inputs.lastSwapUnixTs
  no_lock : inputs.lpLockedAmount.val = 0
  epoch : EpochConfirmed inputs phase

/-- The evaluation of a pool : the parse, the current price, and the criteria on these and on
what `other` says of the rest. -/
def evaluateOnChain (pool : AccountInfo) (remaining : List AccountInfo) (launchPrice : LaunchPrice)
    (other : CriteriaInputs) (thresholds : CriteriaThresholds) (phase : Phase) :
    Except ProgramError U8 := do
  let poolData ← extractPoolData pool pool.key remaining
  let currentPriceQ64x64 ← poolData.currentPriceQ64x64
  evaluate { other with
    launchPriceQ64x64 := launchPrice.launchPriceQ64x64
    currentPriceQ64x64
    currentTvlLamports := poolData.quoteReserve
    lpSupply := poolData.lpSupply } thresholds phase

/-- What the chain asks of a pool's price, TVL and LP supply. -/
structure ChainAccepts (p : V4Pool) (launch : U128) (thresholds : CriteriaThresholds) : Prop where
  base : 0 < p.coinReserve.val
  launch_pos : 0 < launch.val
  collapsed : ∃ drop, thresholds.priceCollapseBps.val ≤ drop ∧
    (launch.val ≤ p.price ∧ drop = 0 ∨
      p.price < launch.val ∧ (launch.val - p.price) * 10000 < 2 ^ 128 ∧
        drop = (launch.val - p.price) * 10000 / launch.val)
  tvl : thresholds.minTvlLamports.val ≤ p.pcReserve.val
  not_burned : thresholds.lpBurnDustThreshold.val < p.lpSupply.val

/-- The chain accepts a pool for which the other criteria pass iff V4's own four do. -/
theorem evaluateOnChain_ok_iff (h : p.Among remaining) {launchPrice : LaunchPrice}
    {other : CriteriaInputs} {thresholds : CriteriaThresholds} {phase : Phase}
    (hother : OtherCriteria other thresholds phase) :
    (∃ bitmap, evaluateOnChain p.pool remaining launchPrice other thresholds phase = .ok bitmap) ↔
      ChainAccepts p launchPrice.launchPriceQ64x64 thresholds := by
  have hextract : extractPoolData p.pool p.pool.key remaining = .ok p.poolData := by
    rw [extractPoolData, require_of rfl, ok_bind, if_pos p.owner, parse_eq h]
  have hbase : p.poolData.baseReserve = p.coinReserve := rfl
  have hquote : p.poolData.quoteReserve = p.pcReserve := rfl
  have hsupply : p.poolData.lpSupply = p.lpSupply := rfl
  simp only [evaluateOnChain, hextract, ok_bind, bind_ok_iff, currentPriceQ64x64_ok_iff,
    evaluate_ok_iff, hbase, hquote, hsupply]
  constructor
  · rintro ⟨_, price, ⟨hpos, hprice⟩, -, hcommon, -⟩
    obtain ⟨drop, hdrop, hbps⟩ := hcommon.collapsed
    rw [computeDropBps_ok_iff] at hdrop
    simp only [hprice] at hdrop
    exact ⟨hpos, hcommon.launch_pos, ⟨drop.val, hbps, hdrop⟩, hcommon.tvl, hcommon.not_burned⟩
  · rintro ⟨hpos, hlaunch, ⟨drop, hbps, hdrop⟩, htvl, hburn⟩
    have hprice : p.price < 2 ^ 128 := by
      refine lt_of_le_of_lt (Nat.div_le_self _ _) ?_
      have := p.pcReserve.isLt
      omega
    have hfits : drop < 2 ^ 16 := by
      rcases hdrop with ⟨-, rfl⟩ | ⟨-, -, rfl⟩
      · decide
      · refine lt_of_le_of_lt (Nat.div_le_of_le_mul (Nat.mul_le_mul_right _ (Nat.sub_le _ _))) ?_
        decide
    refine ⟨_, ⟨_, hprice⟩, ⟨hpos, rfl⟩, rfl, ⟨hother.clock, hother.inactive, hlaunch,
      ⟨⟨drop, hfits⟩, computeDropBps_ok_iff.2 hdrop, hbps⟩, htvl, hburn, hother.no_lock⟩, ?_⟩
    exact hother.epoch

end Scanner

/-! ## The dry run -/

namespace Sdk

open Scanner

/-- The side that the dry run takes for the TVL. -/
def sideTvl (p : V4Pool) : U64 :=
  if p.quoteMint = wsolMint then p.pcReserve else p.coinReserve

/-- What the dry run asks of a pool's price, TVL and LP supply. -/
structure DryRunAccepts (p : V4Pool) (launch : U128) (thresholds : CriteriaThresholds) : Prop where
  collapsed : p.price < launch.val ∧
    thresholds.priceCollapseBps.val ≤ (launch.val - p.price) * 10000 / launch.val
  tvl : thresholds.minTvlLamports.val ≤ (sideTvl p).val
  not_burned : thresholds.lpBurnDustThreshold.val < p.lpSupply.val

/-- The node serves the pool and its accounts, the configurations where the client has not read
them, the launch price of the pool, and its anchor if there is one. -/
structure ServesPool (rt : Runtime) (client : GraveYieldClient) (p : V4Pool)
    (cfg : Scanner.ProtocolConfig) (launchPrice : LaunchPrice) : Prop where
  accounts : ∀ account ∈ p.pool :: p.evidence,
    client.connection.getAccountInfo account.key = some ⟨account.owner, account.data⟩
  scannerConfig : (∃ c, client.scannerConfig = some c ∧ c.toProtocolConfig = cfg) ∨
    client.scannerConfig = none ∧ cfg.InRange ∧ ∃ bump reserved,
      client.connection.getAccountInfo
        (scannerProtocolConfigPda rt client.graveScannerProgramId) =
          some ⟨client.graveScannerProgramId, cfg.accountData rt.sha256 bump reserved⟩
  vaultConfig : (∃ c, client.vaultConfig = some c) ∨
    client.vaultConfig = none ∧ ∃ (c : Vault.ProtocolConfig) (bump : U8) (reserved : Bytes 96),
      c.InRange ∧ client.connection.getAccountInfo
        (vaultProtocolConfigPda rt client.graveVaultProgramId) =
          some ⟨client.graveVaultProgramId, c.accountData rt.sha256 bump reserved⟩
  launchPrice : launchPrice.InRange ∧ ∃ bump reserved, client.connection.getAccountInfo
    (launchPricePda rt client.graveScannerProgramId raydiumV4ProgramId p.pool.key) =
      some ⟨client.graveScannerProgramId, launchPrice.accountData rt.sha256 bump reserved⟩
  anchor : client.connection.getAccountInfo
      (eligibilityAnchorPda rt client.graveScannerProgramId raydiumV4ProgramId p.pool.key) = none ∨
    ∃ (a : Scanner.EligibilityAnchor) (bump : U8) (reserved : Bytes 64), a.InRange ∧
      client.connection.getAccountInfo
        (eligibilityAnchorPda rt client.graveScannerProgramId raydiumV4ProgramId p.pool.key) =
          some ⟨client.graveScannerProgramId, a.accountData rt.sha256 bump reserved⟩
  epoch : client.connection.getEpoch.isSome

variable {rt : Runtime} {spl : SplToken} {client : GraveYieldClient} {p : V4Pool}
  {cfg : Scanner.ProtocolConfig} {launchPrice : LaunchPrice}

/-- An account that is served and decoded is fetched. -/
theorem fetchAccount_eq {α : Type} {decode : List Byte → Except BorshError α} {conn : Connection}
    {pda : Pubkey} {info : AccountInfo} {v : α} (hinfo : conn.getAccountInfo pda = some info)
    (hdecode : decode info.data = .ok v) : fetchAccount decode conn pda = .ok (some v) := by
  rw [fetchAccount, hinfo]
  simp only [hdecode]
  rfl

/-- The client has both configurations of a chain that serves the pool. -/
theorem ensureConfigs_eq (h : ServesPool rt client p cfg launchPrice) : ∃ scanner vault,
    client.ensureConfigs rt = .ok (scanner, vault) ∧ scanner.toProtocolConfig = cfg := by
  obtain ⟨scanner, hscanner, hcfg⟩ : ∃ scanner, loadConfig client.scannerConfig
      (fetchScannerProtocolConfig rt.sha256 client.connection.toConnection
        (scannerProtocolConfigPda rt client.graveScannerProgramId)) .scannerConfigNotInitialized =
      .ok scanner ∧ scanner.toProtocolConfig = cfg := by
    rcases h.scannerConfig with ⟨c, hcached, hc⟩ | ⟨hnone, hrange, bump, reserved, hinfo⟩
    · exact ⟨c, by rw [hcached]; rfl, hc⟩
    · rw [hnone, fetchScannerProtocolConfig,
        fetchAccount_eq hinfo (decodeScannerProtocolConfig_eq bump hrange reserved)]
      exact ⟨_, rfl, rfl⟩
  obtain ⟨vault, hvault⟩ : ∃ vault, loadConfig client.vaultConfig
      (fetchVaultProtocolConfig rt.sha256 client.connection.toConnection
        (vaultProtocolConfigPda rt client.graveVaultProgramId)) .vaultConfigNotInitialized =
      .ok vault := by
    rcases h.vaultConfig with ⟨c, hcached⟩ | ⟨hnone, c, bump, reserved, hrange, hinfo⟩
    · exact ⟨c, by rw [hcached]; rfl⟩
    · rw [hnone, fetchVaultProtocolConfig,
        fetchAccount_eq hinfo (decodeVaultProtocolConfig_eq bump hrange reserved)]
      exact ⟨_, rfl⟩
  refine ⟨scanner, vault, ?_, hcfg⟩
  simp only [GraveYieldClient.ensureConfigs, hscanner, hvault, ok_bind]
  rfl

/-- The pool as the SDK parses it. -/
def V4PoolAccount.of (p : V4Pool) : V4PoolAccount :=
  ⟨p.pool.key, p.coinVault.key, p.pcVault.key, p.baseMint, p.quoteMint, p.lpMint.key⟩

/-- The SDK reads a V4 pool as the program does. -/
theorem parseV4AmmInfo_eq (p : V4Pool) :
    parseV4AmmInfo p.pool.key p.pool.data = .ok (.of p) := by
  have hsize : p.pool.data.length = RAYDIUM_V4_AMM_INFO_SIZE := p.size
  rw [parseV4AmmInfo, dif_pos hsize]
  refine congrArg Except.ok ?_
  rw [V4PoolAccount.of, V4PoolAccount.mk.injEq]
  exact ⟨rfl, Subtype.ext p.coin.key, Subtype.ext p.pc.key, rfl, rfl, Subtype.ext p.lp_key⟩

/-- The current price of the dry run is the adapter's where there is a coin, and zero else. -/
theorem quotePerBaseQ64x64_eq (p : V4Pool) :
    quotePerBaseQ64x64 p.coinReserve.val p.pcReserve.val = p.price := by
  unfold quotePerBaseQ64x64 V4Pool.price
  by_cases hzero : p.coinReserve.val = 0
  · rw [if_pos (by omega), hzero, Nat.div_zero]
    rfl
  · rw [if_neg (by omega)]
    push_cast
    rfl

/-- A drop in basis points is exact as a double. -/
theorem toNumber_drop {launch price : ℕ} (h : price < launch) :
    toNumber (((launch : ℤ) - price) * 10000 / launch) =
      ((launch - price) * 10000 / launch : ℕ) := by
  have hdrop : ((launch : ℤ) - price) * 10000 / launch =
      ((launch - price) * 10000 / launch : ℕ) := by
    push_cast [Nat.cast_sub h.le]
    rfl
  have hle : (launch - price) * 10000 / launch ≤ 10000 :=
    Nat.div_le_of_le_mul (Nat.mul_le_mul_right _ (Nat.sub_le _ _))
  rw [hdrop]
  refine toNumber_of_safe ⟨?_, ?_⟩
  · exact lt_of_lt_of_le (by decide) (Nat.cast_nonneg _)
  · exact lt_of_le_of_lt (Nat.cast_le.2 hle) (by decide)

/-- Criterion 2 of the dry run. -/
theorem priceCollapsed_iff {scanner : ScannerProtocolConfig} {account : LaunchPriceAccount} :
    priceCollapsed scanner (some account) p.coinReserve p.pcReserve = true ↔
      p.price < account.launchPriceQ64x64.val ∧
      scanner.priceCollapseBps.val ≤ (account.launchPriceQ64x64.val - p.price) * 10000 /
        account.launchPriceQ64x64.val := by
  simp only [priceCollapsed, quotePerBaseQ64x64_eq]
  by_cases hlt : p.price < account.launchPriceQ64x64.val
  · rw [if_pos ⟨by omega, by omega⟩, toNumber_drop hlt, decide_eq_true_iff, Nat.cast_le]
    simp only [hlt, true_and]
  · rw [if_neg (by omega)]
    simp [hlt]

/-- What the dry run compares. -/
theorem evaluatePool_eq (h : ServesPool rt client p cfg launchPrice) (spl : SplToken)
    {optsAmmProgramId : Option Pubkey} (hopts : ∀ id ∈ optsAmmProgramId, id = raydiumV4ProgramId) :
    ∃ (scanner : ScannerProtocolConfig) (account : LaunchPriceAccount) (outcome : _),
      client.evaluatePool rt spl p.pool.key optsAmmProgramId = .ok outcome ∧
      scanner.toProtocolConfig = cfg ∧ account.toLaunchPrice = launchPrice ∧
      outcome.criteria.c2PriceCollapse =
        priceCollapsed scanner (some account) p.coinReserve p.pcReserve ∧
      outcome.criteria.c3MinTvl = decide (scanner.minTvlLamports.val ≤ (sideTvl p).val) ∧
      outcome.criteria.c4LpNotBurned =
        decide (scanner.lpBurnDustThreshold.val < p.lpSupply.val) := by
  have hpool := h.accounts p.pool (by simp)
  have hcoin := h.accounts p.coinVault (by simp [V4Pool.evidence])
  have hpc := h.accounts p.pcVault (by simp [V4Pool.evidence])
  have hlp := h.accounts p.lpMint (by simp [V4Pool.evidence])
  have hamm : optsAmmProgramId.or
      ((client.connection.getAccountInfo p.pool.key).map AccountInfo.owner) =
        some raydiumV4ProgramId := by
    cases optsAmmProgramId with
    | none => rw [hpool, Option.none_or, Option.map_some, p.owner]
    | some id => rw [Option.some_or, hopts id rfl]
  obtain ⟨scanner, vault, hconfigs, hcfg⟩ := ensureConfigs_eq h
  obtain ⟨hrange, bump, reserved, hinfo⟩ := h.launchPrice
  have hlaunch : fetchLaunchPrice rt.sha256 client.connection.toConnection
      (launchPricePda rt client.graveScannerProgramId raydiumV4ProgramId p.pool.key) =
        .ok (some { launchPrice with bump }) :=
    fetchAccount_eq hinfo (decodeLaunchPrice_eq bump hrange reserved)
  obtain ⟨anchor, hanchor⟩ : ∃ anchor, fetchEligibilityAnchor rt.sha256
      client.connection.toConnection (eligibilityAnchorPda rt client.graveScannerProgramId
        raydiumV4ProgramId p.pool.key) = .ok anchor := by
    rcases h.anchor with hnone | ⟨a, bump, reserved, hrange, hinfo⟩
    · exact ⟨none, by rw [fetchEligibilityAnchor, fetchAccount, hnone]⟩
    · exact ⟨_, fetchAccount_eq hinfo (decodeEligibilityAnchor_eq bump hrange reserved)⟩
  obtain ⟨confirmed, hconfirmed⟩ : ∃ c, epochConfirmed client.connection anchor = .ok c := by
    obtain ⟨e, he⟩ := Option.isSome_iff_exists.1 h.epoch
    cases anchor with
    | none => exact ⟨_, rfl⟩
    | some a => exact ⟨_, by rw [epochConfirmed, he]; rfl⟩
  have hcoinReserve : readVaultReserve spl client.connection.toConnection p.coinVault.key =
      .ok p.coinReserve := readVaultReserve_eq hcoin p.coin.owner p.coin.size
  have hpcReserve : readVaultReserve spl client.connection.toConnection p.pcVault.key =
      .ok p.pcReserve := readVaultReserve_eq hpc p.pc.owner p.pc.size
  have hsupply : readLpMintSupply spl client.connection.toConnection p.lpMint.key =
      .ok p.lpSupply := readLpMintSupply_eq hlp p.lp_owner p.lp_size
  have hfetch : fetchV4Pool client.connection.toConnection p.pool.key = .ok (.of p) := by
    rw [fetchV4Pool_eq hpool p.owner, parseV4AmmInfo_eq]
  refine ⟨scanner, { launchPrice with bump }, ?_⟩
  simp only [GraveYieldClient.evaluatePool, hamm, hconfigs, hfetch, okOr_some, ok_bind,
    Except.mapError, V4PoolAccount.of, hcoinReserve, hpcReserve, hsupply, hlaunch, hanchor,
    hconfirmed]
  exact ⟨_, rfl, hcfg, trivial, rfl, rfl, rfl⟩

/-- The dry run reports the three criteria iff the pool passes its comparisons. -/
theorem evaluatePool_iff (h : ServesPool rt client p cfg launchPrice) (spl : SplToken)
    {optsAmmProgramId : Option Pubkey} (hopts : ∀ id ∈ optsAmmProgramId, id = raydiumV4ProgramId) :
    ∃ outcome, client.evaluatePool rt spl p.pool.key optsAmmProgramId = .ok outcome ∧
      ((outcome.criteria.c2PriceCollapse = true ∧ outcome.criteria.c3MinTvl = true ∧
        outcome.criteria.c4LpNotBurned = true) ↔
      DryRunAccepts p launchPrice.launchPriceQ64x64 cfg.thresholds) := by
  obtain ⟨scanner, account, outcome, hok, rfl, rfl, h2, h3, h4⟩ := evaluatePool_eq h spl hopts
  refine ⟨outcome, hok, ?_⟩
  rw [h2, h3, h4, priceCollapsed_iff, decide_eq_true_iff, decide_eq_true_iff]
  constructor
  · rintro ⟨hprice, htvl, hburn⟩
    exact ⟨hprice, htvl, hburn⟩
  · rintro ⟨hprice, htvl, hburn⟩
    exact ⟨hprice, htvl, hburn⟩

/-! ## Where they differ -/

section Divergence

variable (p : V4Pool) (launch : U128) (thresholds : CriteriaThresholds)

/-- The price has fallen far enough below the launch price. -/
def Collapsed : Prop :=
  p.price < launch.val ∧
    thresholds.priceCollapseBps.val * launch.val ≤ (launch.val - p.price) * 10000

/-- No coin is left : the dry run takes the price for zero, the adapter refuses. -/
def NoCoin : Prop :=
  p.coinReserve.val = 0 ∧ thresholds.priceCollapseBps.val ≤ 10000 ∧
    thresholds.minTvlLamports.val ≤ (sideTvl p).val

/-- No drop is asked for, and there is none : the chain accepts, the dry run wants the price
below the launch price. -/
def NoDropAsked : Prop :=
  0 < p.coinReserve.val ∧ launch.val ≤ p.price ∧ thresholds.priceCollapseBps.val = 0 ∧
    thresholds.minTvlLamports.val ≤ p.pcReserve.val

/-- The drop leaves 128 bits in basis points : the chain fails, the dry run has no bound. -/
def DropOverflows : Prop :=
  0 < p.coinReserve.val ∧ Collapsed p launch thresholds ∧
    2 ^ 128 ≤ (launch.val - p.price) * 10000 ∧
    thresholds.minTvlLamports.val ≤ (sideTvl p).val

/-- The pc side is not wrapped SOL, and the two reserves are on different sides of the minimal
TVL : the chain takes the pc side, the dry run the coin side. -/
def OtherSide : Prop :=
  0 < p.coinReserve.val ∧ Collapsed p launch thresholds ∧
    (launch.val - p.price) * 10000 < 2 ^ 128 ∧ p.quoteMint ≠ wsolMint ∧
    (thresholds.minTvlLamports.val ≤ p.coinReserve.val ↔
      p.pcReserve.val < thresholds.minTvlLamports.val)

/-- A pool with a launch price and with LP tokens above the dust, where the two differ. -/
def Diverges : Prop :=
  0 < launch.val ∧ thresholds.lpBurnDustThreshold.val < p.lpSupply.val ∧
    (NoCoin p thresholds ∨ NoDropAsked p launch thresholds ∨ DropOverflows p launch thresholds ∨
      OtherSide p launch thresholds)

/-- Whether a pool has collapsed is decided. -/
instance : Decidable (Collapsed p launch thresholds) :=
  inferInstanceAs (Decidable (_ ∧ _))

/-- So is whether it has no coin. -/
instance : Decidable (NoCoin p thresholds) :=
  inferInstanceAs (Decidable (_ ∧ _ ∧ _))

/-- So is whether no drop is asked for. -/
instance : Decidable (NoDropAsked p launch thresholds) :=
  inferInstanceAs (Decidable (_ ∧ _ ∧ _ ∧ _))

/-- So is whether the drop overflows. -/
instance : Decidable (DropOverflows p launch thresholds) :=
  inferInstanceAs (Decidable (_ ∧ _ ∧ _ ∧ _))

/-- So is whether the other side decides. -/
instance : Decidable (OtherSide p launch thresholds) :=
  inferInstanceAs (Decidable (_ ∧ _ ∧ _ ∧ _ ∧ _))

/-- So is whether the verdicts diverge. -/
instance : Decidable (Diverges p launch thresholds) :=
  inferInstanceAs (Decidable (_ ∧ _ ∧ _))

end Divergence

variable {launch : U128} {thresholds : CriteriaThresholds}

/-- A pool has collapsed iff its drop reaches the bound. -/
theorem collapsed_iff_drop : Collapsed p launch thresholds ↔ p.price < launch.val ∧
    thresholds.priceCollapseBps.val ≤ (launch.val - p.price) * 10000 / launch.val := by
  refine and_congr_right fun hlt => ?_
  rw [Nat.le_div_iff_mul_le (by omega)]

/-- When the dry run accepts a pool. -/
theorem dryRunAccepts_iff : DryRunAccepts p launch thresholds ↔
    Collapsed p launch thresholds ∧ thresholds.minTvlLamports.val ≤ (sideTvl p).val ∧
      thresholds.lpBurnDustThreshold.val < p.lpSupply.val := by
  rw [collapsed_iff_drop]
  constructor
  · rintro ⟨hprice, htvl, hburn⟩
    exact ⟨hprice, htvl, hburn⟩
  · rintro ⟨hprice, htvl, hburn⟩
    exact ⟨hprice, htvl, hburn⟩

/-- When the chain accepts a pool. -/
theorem chainAccepts_iff : ChainAccepts p launch thresholds ↔
    0 < p.coinReserve.val ∧ 0 < launch.val ∧
      (launch.val ≤ p.price ∧ thresholds.priceCollapseBps.val = 0 ∨
        Collapsed p launch thresholds ∧ (launch.val - p.price) * 10000 < 2 ^ 128) ∧
      thresholds.minTvlLamports.val ≤ p.pcReserve.val ∧
      thresholds.lpBurnDustThreshold.val < p.lpSupply.val := by
  rw [collapsed_iff_drop]
  constructor
  · rintro ⟨hbase, hlaunch, ⟨drop, hbps, hdrop⟩, htvl, hburn⟩
    refine ⟨hbase, hlaunch, ?_, htvl, hburn⟩
    rcases hdrop with ⟨hle, rfl⟩ | ⟨hlt, hfits, rfl⟩
    · exact Or.inl ⟨hle, Nat.le_zero.1 hbps⟩
    · exact Or.inr ⟨⟨hlt, hbps⟩, hfits⟩
  · rintro ⟨hbase, hlaunch, hprice, htvl, hburn⟩
    refine ⟨hbase, hlaunch, ?_, htvl, hburn⟩
    rcases hprice with ⟨hle, hbps⟩ | ⟨⟨hlt, hbps⟩, hfits⟩
    · exact ⟨0, hbps.le, Or.inl ⟨hle, rfl⟩⟩
    · exact ⟨_, hbps, Or.inr ⟨hlt, hfits, rfl⟩⟩

/-- Without coin the price is zero, and every drop up to all of it is reached. -/
theorem collapsed_of_no_coin (hcoin : p.coinReserve.val = 0) (hlaunch : 0 < launch.val) :
    Collapsed p launch thresholds ↔ thresholds.priceCollapseBps.val ≤ 10000 := by
  have hprice : p.price = 0 := by rw [V4Pool.price, hcoin, Nat.div_zero]
  rw [Collapsed, hprice, Nat.sub_zero, mul_comm launch.val, Nat.mul_le_mul_right_iff hlaunch]
  simp only [hlaunch, true_and]

/-- The dry run and the chain decide alike iff the pool is none of these. -/
theorem accepts_iff_not_diverges (p : V4Pool) (launch : U128) (thresholds : CriteriaThresholds) :
    (DryRunAccepts p launch thresholds ↔ ChainAccepts p launch thresholds) ↔
      ¬Diverges p launch thresholds := by
  rw [dryRunAccepts_iff, chainAccepts_iff]
  unfold Diverges
  by_cases hlaunch : 0 < launch.val
  swap
  · have hnot : ¬Collapsed p launch thresholds := fun h => hlaunch (Nat.zero_lt_of_lt h.1)
    simp only [hlaunch, hnot, false_and, and_false, not_false_eq_true]
  by_cases hburn : thresholds.lpBurnDustThreshold.val < p.lpSupply.val
  swap
  · simp only [hburn, and_false, false_and, not_false_eq_true]
  simp only [hlaunch, hburn, true_and, and_true, NoCoin, NoDropAsked, DropOverflows, OtherSide]
  by_cases hcoin : p.coinReserve.val = 0
  · -- the chain refuses, whatever the rest
    simp only [hcoin, lt_irrefl, false_and, or_false, true_and, iff_false,
      collapsed_of_no_coin hcoin hlaunch]
  have hpos : 0 < p.coinReserve.val := Nat.pos_of_ne_zero hcoin
  simp only [hcoin, hpos, false_and, true_and, false_or]
  by_cases hle : launch.val ≤ p.price
  · have hnot : ¬Collapsed p launch thresholds := fun h => absurd h.1 (not_lt.2 hle)
    simp only [hnot, hle, false_and, true_and, or_false, false_iff]
  simp only [hle, false_and, false_or]
  by_cases hcollapsed : Collapsed p launch thresholds
  swap
  · simp only [hcollapsed, false_and, or_false, not_false_eq_true]
  by_cases hfits : (launch.val - p.price) * 10000 < 2 ^ 128
  · have hover : ¬2 ^ 128 ≤ (launch.val - p.price) * 10000 := not_le.2 hfits
    simp only [hcollapsed, hfits, hover, true_and, false_and, false_or, sideTvl]
    split_ifs with hwsol
    · simp only [hwsol, ne_eq, not_true_eq_false, false_and, not_false_eq_true]
    · simp only [hwsol, ne_eq, not_false_eq_true, true_and]
      omega
  · have hover : 2 ^ 128 ≤ (launch.val - p.price) * 10000 := not_lt.1 hfits
    simp only [hcollapsed, hfits, hover, true_and, false_and, and_false, or_false, iff_false]

/-- For every pool of Raydium V4, every recorded launch price and every configuration, which the
node serves : `evaluatePool` reports the price, TVL and LP-supply criteria as satisfied iff the
chain's evaluation succeeds where the other criteria are, unless the pool is one of those where
the two differ, and there they do differ. -/
theorem evaluatePool_agrees_iff (rt : Runtime) (spl : SplToken) (client : GraveYieldClient)
    (p : V4Pool) (cfg : Scanner.ProtocolConfig) (launchPrice : LaunchPrice)
    (hserves : ServesPool rt client p cfg launchPrice) (optsAmmProgramId : Option Pubkey)
    (hopts : ∀ id ∈ optsAmmProgramId, id = raydiumV4ProgramId)
    (remaining : List GraveYield.AccountInfo) (hamong : p.Among remaining)
    (other : CriteriaInputs) (phase : Phase)
    (hother : OtherCriteria other cfg.thresholds phase) :
    ∃ outcome, client.evaluatePool rt spl p.pool.key optsAmmProgramId = .ok outcome ∧
      (((outcome.criteria.c2PriceCollapse = true ∧ outcome.criteria.c3MinTvl = true ∧
          outcome.criteria.c4LpNotBurned = true) ↔
        ∃ bitmap, evaluateOnChain p.pool remaining launchPrice other cfg.thresholds phase =
          .ok bitmap) ↔
      ¬Diverges p launchPrice.launchPriceQ64x64 cfg.thresholds) := by
  obtain ⟨outcome, hok, hreports⟩ := evaluatePool_iff hserves spl hopts
  refine ⟨outcome, hok, ?_⟩
  rw [hreports, evaluateOnChain_ok_iff hamong hother]
  exact accepts_iff_not_diverges p launchPrice.launchPriceQ64x64 cfg.thresholds

/-! ## Two pools -/

/-- Among accounts of distinct addresses, the one at an address is found. -/
theorem find?_key {accounts : List GraveYield.AccountInfo}
    (h : (accounts.map GraveYield.AccountInfo.key).Nodup) {a : GraveYield.AccountInfo}
    (ha : a ∈ accounts) : accounts.find? (fun i => i.key = a.key) = some a := by
  induction accounts with
  | nil => cases ha
  | cons b accounts ih =>
    rw [List.map_cons, List.nodup_cons] at h
    rcases List.mem_cons.1 ha with rfl | ha
    · simp
    · have hne : b.key ≠ a.key := by
        intro heq
        exact h.1 (heq ▸ List.mem_map_of_mem ha)
      rw [List.find?_cons_of_neg (by simpa using hne)]
      exact ih h.2 ha

/-- A token account of the mint stands for the vault that the pool names. -/
theorem isVault_demoTokenAccount {pool : GraveYield.AccountInfo} {key mint : Pubkey} (amount : ℕ)
    {vaultOffset mintOffset : ℕ} (hkey : slice pool.data vaultOffset 32 = key.val)
    (hmint : slice pool.data mintOffset 32 = mint.val) :
    IsVault pool (demoTokenAccount key mint amount) vaultOffset mintOffset where
  key := hkey
  owner := rfl
  size := by simp [demoTokenAccount]
  mint := by
    rw [hmint, demoTokenAccount, List.append_assoc, List.append_assoc]
    exact slice_head mint.2

/-- A pool of a memecoin and wrapped SOL. -/
def demoV4Pool (coin pc : ℕ) : V4Pool where
  pool := (demoAccounts 0).pool
  coinVault := demoTokenAccount (Pubkey.fill 21) (Pubkey.fill 23) coin
  pcVault := demoTokenAccount (Pubkey.fill 22) wsolMint pc
  lpMint := ⟨Pubkey.fill 24, tokenProgramId, 1461600, List.replicate 36 0 ++ leBytes 8 1000 ++
    List.replicate 38 0⟩
  owner := rfl
  size := by decide +kernel
  coin := isVault_demoTokenAccount coin (by decide +kernel) (by decide +kernel)
  pc := isVault_demoTokenAccount pc (by decide +kernel) (by decide +kernel)
  lp_key := by decide +kernel
  lp_owner := rfl
  lp_size := by decide +kernel

/-- The launch price one, recorded for the pair of the pool. -/
def demoLaunchPrice : LaunchPrice :=
  ⟨raydiumV4ProgramId, demoPool, Pubkey.fill 23, wsolMint, 18446744073709551616, 5, 800, 10, 900⟩

/-- The configuration of the scanner with a dust threshold of 500. -/
def demoScannerConfig : ScannerProtocolConfig where
  authority := demoAuthority
  pendingAuthority := defaultPubkey
  pendingAuthorityEta := 0
  inactivitySeconds := defaultInactivitySeconds
  priceCollapseBps := defaultPriceCollapseBps
  minTvlLamports := defaultMinTvlLamports
  anchorStalenessSeconds := defaultAnchorStalenessSeconds
  lpBurnDustThreshold := 500
  certTtlSeconds := defaultCertTtlSeconds
  paused := false
  activityOracle := demoAuthority
  launchPriceOracle := demoAuthority
  accountDiscriminator := []
  bump := 255

/-- The vault's configuration of the demonstration. -/
def demoVaultConfig : VaultProtocolConfig where
  authority := demoAuthority
  pendingAuthority := defaultPubkey
  pendingAuthorityEta := 0
  lpHolderShareBps := 6500
  salvorShareBps := 2500
  protocolShareBps := 1000
  maxPriorityFeeCeilingLamports := 1000
  maxSlippageBps := 300
  jupiterDustThresholdLamports := 1000
  timelockSeconds := 259200
  emergencyPaused := false
  accountDiscriminator := []
  bump := 255

/-- The address of a launch price, and another one for everything else. -/
def dryRunRuntime : Runtime where
  sha256 := Machine.sha256
  findProgramAddress seeds _ :=
    if seeds.head? = some (ascii "launch_price") then Pubkey.fill 31 else Pubkey.fill 32
  rentMinimumBalance _ := 0

/-- A client that has read both configurations, with a node that serves the pool and its launch
price. -/
def demoClient (p : V4Pool) : GraveYieldClient where
  connection := {
    getAccountInfo := fun address =>
      if address = Pubkey.fill 31 then
        some ⟨Pubkey.fill 41, demoLaunchPrice.accountData Machine.sha256 255 (Bytes.ofNat 16 0)⟩
      else ((p.pool :: p.evidence).find? fun i => i.key = address).map fun i => ⟨i.owner, i.data⟩
    getProgramAccounts := fun _ => []
    getSlot := none
    getSignaturesForAddress := fun _ _ _ => none
    getTransaction := fun _ => none
    getBlockTime := fun _ => none
    localUnixTs := 10000000
    getEpoch := some 100 }
  graveScannerProgramId := Pubkey.fill 41
  graveVaultProgramId := Pubkey.fill 42
  scannerConfig := some demoScannerConfig
  vaultConfig := some demoVaultConfig

/-- What the demonstration connection serves at an address. -/
theorem getAccountInfo_demoClient (p : V4Pool) (address : Pubkey) :
    (demoClient p).connection.getAccountInfo address =
      if address = Pubkey.fill 31 then
        some ⟨Pubkey.fill 41, demoLaunchPrice.accountData Machine.sha256 255 (Bytes.ofNat 16 0)⟩
      else ((p.pool :: p.evidence).find? fun i => i.key = address).map fun i =>
        ⟨i.owner, i.data⟩ :=
  rfl

/-- The demonstration connection serves the pool. -/
theorem servesPool_demo (coin pc : ℕ) : ServesPool dryRunRuntime (demoClient (demoV4Pool coin pc))
    (demoV4Pool coin pc) demoScannerConfig.toProtocolConfig demoLaunchPrice := by
  have hkeys : ((demoV4Pool coin pc).pool :: (demoV4Pool coin pc).evidence).map
      GraveYield.AccountInfo.key =
        [demoPool, Pubkey.fill 21, Pubkey.fill 22, Pubkey.fill 24] := rfl
  have hnodup : [demoPool, Pubkey.fill 21, Pubkey.fill 22, Pubkey.fill 24].Nodup := by
    decide +kernel
  have hrange : demoLaunchPrice.InRange := by
    refine ⟨⟨?_, ?_⟩, ⟨?_, ?_⟩⟩ <;> decide
  refine ⟨fun account hmem => ?_, Or.inl ⟨_, rfl, rfl⟩, Or.inl ⟨_, rfl⟩,
    ⟨hrange, 255, Bytes.ofNat 16 0, rfl⟩, Or.inl ?_, rfl⟩
  · have hne : account.key ≠ Pubkey.fill 31 := by
      have hkey := hkeys ▸ List.mem_map_of_mem hmem
      intro heq
      rw [heq] at hkey
      exact absurd hkey (by decide +kernel)
    rw [getAccountInfo_demoClient, if_neg hne, find?_key (hkeys ▸ hnodup) hmem]
    rfl
  · have hnone : ((demoV4Pool coin pc).pool :: (demoV4Pool coin pc).evidence).find?
        (fun i => i.key = Pubkey.fill 32) = none := by
      refine List.find?_eq_none.2 fun account hmem => ?_
      have hkey := hkeys ▸ List.mem_map_of_mem hmem
      intro heq
      rw [of_decide_eq_true heq] at hkey
      exact absurd hkey (by decide +kernel)
    have hpda : eligibilityAnchorPda dryRunRuntime (Pubkey.fill 41) raydiumV4ProgramId demoPool =
        Pubkey.fill 32 := by decide +kernel
    have hne : Pubkey.fill 32 ≠ Pubkey.fill 31 := by decide +kernel
    rw [getAccountInfo_demoClient]
    change (if eligibilityAnchorPda dryRunRuntime (Pubkey.fill 41) raydiumV4ProgramId demoPool =
      Pubkey.fill 31 then _ else _) = _
    rw [hpda, if_neg hne]
    exact Option.map_eq_none_iff.2 hnone

/-- The evidence alone carries itself. -/
theorem among_evidence (coin pc : ℕ) :
    (demoV4Pool coin pc).Among (demoV4Pool coin pc).evidence := by
  have hnodup : ((demoV4Pool coin pc).evidence.map GraveYield.AccountInfo.key).Nodup := by
    change [Pubkey.fill 21, Pubkey.fill 22, Pubkey.fill 24].Nodup
    decide +kernel
  exact fun account hmem => find?_key hnodup hmem

/-- A last swap at the epoch, and no lock. -/
def demoOther : CriteriaInputs :=
  ⟨0, 10000000, 0, 0, 0, 0, 0, 100, none⟩

/-- The other criteria pass in the demonstration. -/
theorem otherCriteria_demo :
    OtherCriteria demoOther demoScannerConfig.toProtocolConfig.thresholds .one :=
  ⟨by decide, by decide, rfl, trivial⟩

/-- At a thousandth of the launch price the dry run and the chain agree. -/
theorem evaluatePool_agrees_demo : ∃ outcome,
    (demoClient (demoV4Pool 1000000000000 1000000000)).evaluatePool dryRunRuntime legacySplToken
      demoPool none = .ok outcome ∧
    ((outcome.criteria.c2PriceCollapse = true ∧ outcome.criteria.c3MinTvl = true ∧
        outcome.criteria.c4LpNotBurned = true) ↔
      ∃ bitmap, evaluateOnChain (demoV4Pool 1000000000000 1000000000).pool
        (demoV4Pool 1000000000000 1000000000).evidence demoLaunchPrice demoOther
        demoScannerConfig.toProtocolConfig.thresholds .one = .ok bitmap) := by
  obtain ⟨outcome, hok, hagrees⟩ := evaluatePool_agrees_iff dryRunRuntime legacySplToken _ _ _ _
    (servesPool_demo 1000000000000 1000000000) none (by simp) _ (among_evidence _ _) demoOther .one
    otherCriteria_demo
  exact ⟨outcome, hok, hagrees.2 (by decide +kernel)⟩

/-- Without coin the dry run reports all three criteria as satisfied, and the chain refuses. -/
theorem evaluatePool_noCoin : ∃ outcome,
    (demoClient (demoV4Pool 0 1000000000)).evaluatePool dryRunRuntime legacySplToken
      demoPool none = .ok outcome ∧
    (outcome.criteria.c2PriceCollapse = true ∧ outcome.criteria.c3MinTvl = true ∧
      outcome.criteria.c4LpNotBurned = true) ∧
    ¬∃ bitmap, evaluateOnChain (demoV4Pool 0 1000000000).pool (demoV4Pool 0 1000000000).evidence
      demoLaunchPrice demoOther demoScannerConfig.toProtocolConfig.thresholds .one =
        .ok bitmap := by
  have hopts : ∀ id ∈ (none : Option Pubkey), id = raydiumV4ProgramId := by simp
  obtain ⟨outcome, hok, hreports⟩ :=
    evaluatePool_iff (servesPool_demo 0 1000000000) legacySplToken hopts
  refine ⟨outcome, hok, hreports.2 ⟨by decide +kernel, by decide +kernel, by decide +kernel⟩, ?_⟩
  rw [evaluateOnChain_ok_iff (among_evidence 0 1000000000) otherCriteria_demo]
  intro haccepts
  exact absurd haccepts.base (by decide +kernel)

end Sdk

end GraveYield
