import GraveYield.Vault

/-!
# The settlement

`salvage_pool` in the stages of its handler : `prepare` opens the accounts and runs the
pre-flight checks, `removeLiquidity` withdraws through Raydium V4, `swapLeg` vets and forwards
the route to Jupiter, `settle` unwraps and splits, and `salvagePool` writes the registry and the
receipt. Raydium and Jupiter are arbitrary programs. The two balances that each leg compares are
read before and after its call, as in the handler.
-/

namespace GraveYield.Vault

open Machine Checked
open Scanner (loadAccount initAccount EligibilityCert loadAccount_ok_iff initAccount_ok_iff)

/-! ## Parameters and accounts -/

/-- `JUP6LkbZbjS1jKKwapdHNy74zcZ3tLUZoi5QNyVTaV4`. -/
def jupiterV6ProgramId : Pubkey :=
  Bytes.ofNat 32 0x0479d55bf231c06eee74c56ece681507fdb1b2dea3f48e5102b1cda256bc138f

/-- `5Q544fKrFoe6tsEbD7S8EmxGTJYAKtTVhAW5Q5pge4j1`. -/
def raydiumV4AmmAuthority : Pubkey :=
  Bytes.ofNat 32 0x4157b0580f31c5fce44a62582dbcf9d78ee75943a084a393b350368d22899308

/-- `ALL_CRITERIA_MASK`. -/
def allCriteriaMask : U8 := 0x3F

/-- `RAYDIUM_V4_INSTRUCTION_TAG_WITHDRAW`. -/
def raydiumV4InstructionTagWithdraw : Byte := 4

/-- `RAYDIUM_V4_WITHDRAW_REMAINING_ACCOUNTS_REQUIRED`. -/
def raydiumV4WithdrawRemainingAccountsRequired : ℕ := 13

/-- `RAYDIUM_V4_AMM_INFO_SIZE`. -/
def raydiumV4AmmInfoSize : ℕ := 752

/-- Where the coin mint stands in the pool. -/
def raydiumV4OffCoinMint : ℕ := 400

/-- Where the pc mint stands. -/
def raydiumV4OffPcMint : ℕ := 432

/-- Where the LP mint stands. -/
def raydiumV4OffLpMint : ℕ := 464

/-- `SalvagePoolParams`. -/
structure SalvagePoolParams where
  ammProgramId : Pubkey
  poolAddress : Pubkey
  lpSnapshotMerkleRoot : Hash
  lpTotalSupplyAtSnapshot : U64
  minQuoteOutputLamports : U64
  salvorLpAmount : U64
  jupiterRouteData : List Byte
  maxSlippageBpsOverride : Option U16
  jupiterRouteAccountsLen : U8

/-- The accounts of `salvage_pool` that the salvor chooses. The others are derived. -/
structure SalvageAccounts where
  salvor : Pubkey
  pool : Pubkey
  ammProgram : Pubkey
  jupiterProgram : Pubkey
  salvorLpTokenAccount : Account
  lpMint : Pubkey
  memecoinMint : Pubkey
  remainingAccounts : List AccountMeta

/-- The accounts of the withdrawal. -/
def SalvageAccounts.raydiumRemaining (accounts : SalvageAccounts) : List AccountMeta :=
  accounts.remainingAccounts.take raydiumV4WithdrawRemainingAccountsRequired

/-- The accounts of the route. -/
def SalvageAccounts.jupiterRemaining (accounts : SalvageAccounts) : List AccountMeta :=
  accounts.remainingAccounts.drop raydiumV4WithdrawRemainingAccountsRequired

/-- What stands behind the addresses of the two programs that a salvage calls. -/
structure Programs where
  raydiumV4 : Program
  jupiterV6 : Program

/-- `vault_base_token_account`. -/
def vaultBaseAta : Account :=
  .ata .vaultAuthority wsolMint

/-- `vault_memecoin_token_account`. -/
def vaultMemecoinAta (mint : Pubkey) : Account :=
  .ata .vaultAuthority mint

/-- `read_token_amount`. -/
def readTokenAmount (l : Ledger) (a : Account) (e : VaultError) : Except ProgramError U64 :=
  okOr (l a).data.tokenAmount? (.vault e)

/-! ## Pre-flight -/

/-- The account constraints : both records are new, the token accounts are the salvor's and the
vault's own, and no signature is claimed for an address that only the vault signs for. -/
def openAccounts (rt : Runtime) (v : State) (l : Ledger) (params : SalvagePoolParams)
    (accounts : SalvageAccounts) : Except ProgramError Ledger := do
  let pool := params.poolAddress
  let salvor := Account.key accounts.salvor
  require (∀ m ∈ accounts.remainingAccounts, m.isSigner = true → m.account.isVaultPda = false)
    (.fault .constraint)
  initAccount (v.registries pool)
  let l ← l.initRecord rt salvor (.poolRegistry pool) PoolRegistry.size
  initAccount (v.receipts pool)
  let l ← l.initRecord rt salvor (.salvageReceipt pool) SalvageReceipt.size
  require (accounts.jupiterProgram = jupiterV6ProgramId) (.fault .constraint)
  let t ← l.loadToken accounts.salvorLpTokenAccount
  require (t.mint = accounts.lpMint ∧ t.owner = salvor) (.fault .constraint)
  let l ← l.initAtaIfNeeded rt salvor .vaultAuthority wsolMint
  l.initAtaIfNeeded rt salvor .vaultAuthority accounts.memecoinMint

/-- The checks of the handler before it touches an account. -/
def preflight (clock : Clock) (cfg : ProtocolConfig) (cert : EligibilityCert) (l : Ledger)
    (params : SalvagePoolParams) (accounts : SalvageAccounts) : Except ProgramError Unit := do
  require (cfg.emergencyPaused = false) (.vault .protocolPaused)
  require (cert.isExpired clock.unixTimestamp = false) (.vault .eligibilityCertExpired)
  require (cert.criteriaBitmap = allCriteriaMask) (.vault .invalidEligibilityCert)
  require (cert.ammProgramId = params.ammProgramId) (.vault .invalidEligibilityCert)
  require (cert.poolAddress = params.poolAddress) (.vault .invalidEligibilityCert)
  require (accounts.pool = params.poolAddress) (.vault .preflightFailed)
  require ((l (.key accounts.ammProgram)).data.executable = true) (.vault .preflightFailed)
  require ((l (.key accounts.pool)).data.owner? = some accounts.ammProgram)
    (.vault .preflightFailed)

/-- A mint of the pool, at a fixed offset. -/
def readMint (data : List Byte) (offset : ℕ) : Except ProgramError Pubkey :=
  okOr (Bytes.ofList? 32 (slice data offset 32)) (.vault .preflightFailed)

/-- `derive_pool_orientation` : whether the coin side is WSOL, the other side's mint, and the
LP mint. Exactly one side must be WSOL. -/
def derivePoolOrientation (data : List Byte) : Except ProgramError (Bool × Pubkey × Pubkey) := do
  require (data.length = raydiumV4AmmInfoSize) (.vault .preflightFailed)
  let coinMint ← readMint data raydiumV4OffCoinMint
  let pcMint ← readMint data raydiumV4OffPcMint
  let lpMint ← readMint data raydiumV4OffLpMint
  if coinMint = wsolMint ∧ pcMint ≠ wsolMint then return (true, pcMint, lpMint)
  else if pcMint = wsolMint ∧ coinMint ≠ wsolMint then return (false, coinMint, lpMint)
  else .error (.vault .unsupportedBaseToken)

/-- The orientation of a Raydium V4 pool. Other pools fail later, at the dispatch. -/
def poolOrientation (pool : AccountData) (accounts : SalvageAccounts) :
    Except ProgramError (Bool × Pubkey × Pubkey) :=
  match pool with
  | .program owner _ bytes =>
    if owner = raydiumV4ProgramId then derivePoolOrientation bytes
    else return (true, accounts.memecoinMint, accounts.lpMint)
  | _ => return (true, accounts.memecoinMint, accounts.lpMint)

/-- Bind the submitted mints to the pool's own bytes, and the snapshot to the LP supply. -/
def bindPool (l : Ledger) (params : SalvagePoolParams) (accounts : SalvageAccounts) :
    Except ProgramError Bool := do
  let (baseIsCoinSide, poolMemecoinMint, poolLpMint) ←
    poolOrientation (l (.key accounts.pool)).data accounts
  require (accounts.memecoinMint = poolMemecoinMint) (.vault .preflightFailed)
  require (accounts.lpMint = poolLpMint) (.vault .preflightFailed)
  let lpMint ← loadAccount (l (.key accounts.lpMint)).mint?
  require (lpMint.supply = params.lpTotalSupplyAtSnapshot) (.vault .invalidSnapshotData)
  require (0 < params.salvorLpAmount.val) (.vault .preflightFailed)
  require (accounts.remainingAccounts.length =
    raydiumV4WithdrawRemainingAccountsRequired + params.jupiterRouteAccountsLen.val)
    (.vault .preflightFailed)
  return baseIsCoinSide

/-- The configuration, the ledger and the orientation with which the execution starts. -/
structure Prepared where
  cfg : ProtocolConfig
  ledger : Ledger
  baseIsCoinSide : Bool

/-- Everything before the first call of another program. -/
def prepare (rt : Runtime) (clock : Clock) (cert : Option EligibilityCert) (v : State) (l : Ledger)
    (params : SalvagePoolParams) (accounts : SalvageAccounts) : Except ProgramError Prepared := do
  let salvor := Account.key accounts.salvor
  let cfg ← loadAccount v.protocolConfig
  let cert ← loadAccount cert
  let l ← openAccounts rt v l params accounts
  let _ ← loadAccount (l (.key accounts.memecoinMint)).mint?
  let _ ← loadAccount (l (.key wsolMint)).mint?
  preflight clock cfg cert l params accounts
  let l ← l.lazyInitSystemPda rt salvor (.lpHolderPoolVault params.poolAddress)
  let l ← l.lazyInitSystemPda rt salvor (.vaultSolHolding params.poolAddress)
  let baseIsCoinSide ← bindPool l params accounts
  return ⟨cfg, l, baseIsCoinSide⟩

/-! ## The withdrawal -/

/-- What a withdrawal brought in. -/
structure RemoveLiquidityOutput where
  baseReceived : U64
  memecoinReceived : U64

/-- The 22 accounts of the Raydium V4 withdrawal. Positions 8 and 9 are padding. -/
def withdrawMetas (accounts : SalvageAccounts) (baseIsCoinSide : Bool) : List AccountMeta :=
  let remaining := fun i => ((accounts.raydiumRemaining[i]?).map AccountMeta.account).getD
    (.key defaultPubkey)
  let readonly := fun a => AccountMeta.mk a false false
  let writable := fun a => AccountMeta.mk a false true
  let pool := Account.key accounts.pool
  let memecoinAta := vaultMemecoinAta accounts.memecoinMint
  let (userCoin, userPc) :=
    if baseIsCoinSide then (vaultBaseAta, memecoinAta) else (memecoinAta, vaultBaseAta)
  [readonly (.key tokenProgramId), writable pool, readonly (remaining 0), writable (remaining 1),
    writable (remaining 2), writable (.key accounts.lpMint), writable (remaining 3),
    writable (remaining 4), writable pool, writable pool, readonly (remaining 5),
    writable (remaining 6), writable (remaining 7), writable (remaining 8),
    readonly (remaining 9), writable accounts.salvorLpTokenAccount, writable userCoin,
    writable userPc, ⟨.key accounts.salvor, true, true⟩, writable (remaining 10),
    writable (remaining 11), writable (remaining 12)]

/-- `[tag = 4][amount : u64]`. -/
def withdrawData (lpAmount : U64) : List Byte :=
  raydiumV4InstructionTagWithdraw :: leBytes 8 lpAmount.val

/-- `raydium_v4::remove_liquidity`. -/
def removeLiquidity (raydium : Program) (l : Ledger) (params : SalvagePoolParams)
    (accounts : SalvageAccounts) (baseIsCoinSide : Bool) :
    Except ProgramError (Ledger × RemoveLiquidityOutput) := do
  let memecoinAta := vaultMemecoinAta accounts.memecoinMint
  require (accounts.raydiumRemaining.length = raydiumV4WithdrawRemainingAccountsRequired)
    (.vault .preflightFailed)
  require ((l (.key accounts.pool)).data.owner? = some raydiumV4ProgramId) (.vault .preflightFailed)
  require (accounts.ammProgram = raydiumV4ProgramId) (.vault .preflightFailed)
  require ((accounts.raydiumRemaining[0]?).map AccountMeta.account =
    some (.key raydiumV4AmmAuthority)) (.vault .preflightFailed)
  let preBase ← readTokenAmount l vaultBaseAta .ammRedemptionFailed
  let preMemecoin ← readTokenAmount l memecoinAta .ammRedemptionFailed
  let l ← okOr (raydium.call (withdrawMetas accounts baseIsCoinSide)
    (withdrawData params.salvorLpAmount) l) (.vault .ammRedemptionFailed)
  let postBase ← readTokenAmount l vaultBaseAta .ammRedemptionFailed
  let postMemecoin ← readTokenAmount l memecoinAta .ammRedemptionFailed
  let baseReceived ← okOr (postBase.checkedSub preBase) (.vault .mathOverflow)
  let memecoinReceived ← okOr (postMemecoin.checkedSub preMemecoin) (.vault .mathOverflow)
  require (0 < baseReceived.val) (.vault .ammRedemptionFailed)
  return (l, ⟨baseReceived, memecoinReceived⟩)

/-- `dispatch_remove_liquidity`. Raydium V4 is the only program with an implementation. -/
def dispatchRemoveLiquidity (raydium : Program) (l : Ledger) (params : SalvagePoolParams)
    (accounts : SalvageAccounts) (baseIsCoinSide : Bool) :
    Except ProgramError (Ledger × RemoveLiquidityOutput) :=
  if (l (.key accounts.pool)).data.owner? = some raydiumV4ProgramId then
    removeLiquidity raydium l params accounts baseIsCoinSide
  else .error (.vault .ammCpiUnimplemented)

/-! ## The swap leg -/

/-- The accounts that no route may name. -/
def forbiddenAccounts (params : SalvagePoolParams) (accounts : SalvageAccounts) : List Account :=
  [.poolRegistry params.poolAddress, .salvageReceipt params.poolAddress,
    .lpHolderPoolVault params.poolAddress, .protocolTreasury, .vaultSolHolding params.poolAddress,
    .vaultConfig, .eligibilityCert params.ammProgramId params.poolAddress, .key accounts.salvor,
    accounts.salvorLpTokenAccount]

/-- The vetting of the route : none of the forbidden accounts, and the destination. -/
def vetRoute (params : SalvagePoolParams) (accounts : SalvageAccounts) :
    Except ProgramError Unit := do
  require (∀ m ∈ accounts.jupiterRemaining, m.account ∉ forbiddenAccounts params accounts)
    (.vault .preflightFailed)
  require (∃ m ∈ accounts.jupiterRemaining, m.account = vaultBaseAta) (.vault .preflightFailed)

/-- `effective_slippage_cap_bps`. -/
def effectiveSlippageCapBps (configBps : U16) (overrideBps : Option U16) : U16 :=
  let cap := min configBps hardMaxSlippageBps
  match overrideBps with
  | some o => min cap o
  | none => cap

/-- The slippage ceiling : the submitted floor against the conversion at the pool's reserves. -/
def checkSlippageFloor (cap : U16) (memecoinReceived wsolReserve memecoinReserve floor : U64) :
    Except ProgramError Unit := do
  require (0 < memecoinReserve.val) (.vault .mathOverflow)
  let product ← okOr ((memecoinReceived.widen 128 Word.u64_le_u128).checkedMul
    (wsolReserve.widen 128 Word.u64_le_u128)) (.vault .mathOverflow)
  let impliedWsolOut ← okOr (product.checkedDiv (memecoinReserve.widen 128 Word.u64_le_u128))
    (.vault .mathOverflow)
  let scaled ← okOr (impliedWsolOut.checkedMul ((bpsDenominator.widen 128 (by decide)).saturatingSub
    (cap.widen 128 (by decide)))) (.vault .mathOverflow)
  let minFloor ← okOr (scaled.checkedDiv (bpsDenominator.widen 128 (by decide)))
    (.vault .mathOverflow)
  require (minFloor.val ≤ floor.val) (.vault .slippageExceeded)

/-- The reserves are the balances of the pool's vaults after the withdrawal. -/
def checkSlippage (cfg : ProtocolConfig) (l : Ledger) (params : SalvagePoolParams)
    (accounts : SalvageAccounts) (baseIsCoinSide : Bool) (memecoinReceived : U64) :
    Except ProgramError Unit := do
  let coinVault ← okOr (accounts.raydiumRemaining[3]?) (.vault .preflightFailed)
  let pcVault ← okOr (accounts.raydiumRemaining[4]?) (.vault .preflightFailed)
  let coinVaultAmount ← readTokenAmount l coinVault.account .preflightFailed
  let pcVaultAmount ← readTokenAmount l pcVault.account .preflightFailed
  let cap := effectiveSlippageCapBps cfg.maxSlippageBps params.maxSlippageBpsOverride
  if baseIsCoinSide then
    checkSlippageFloor cap memecoinReceived coinVaultAmount pcVaultAmount
      params.minQuoteOutputLamports
  else
    checkSlippageFloor cap memecoinReceived pcVaultAmount coinVaultAmount
      params.minQuoteOutputLamports

/-- The route accounts as they are forwarded : the vault authority signs. -/
def routeMetas (accounts : SalvageAccounts) : List AccountMeta :=
  accounts.jupiterRemaining.map fun m =>
    if m.account = .vaultAuthority then { m with isSigner := true } else m

/-- `jupiter::swap`. -/
def jupiterSwap (jupiter : Program) (l : Ledger) (params : SalvagePoolParams)
    (accounts : SalvageAccounts) : Except ProgramError (Ledger × U64) := do
  require (params.jupiterRouteData ≠ []) (.vault .jupiterSwapFailed)
  require (accounts.jupiterProgram = jupiterV6ProgramId) (.vault .preflightFailed)
  let preBalance ← readTokenAmount l vaultBaseAta .jupiterSwapFailed
  let l ← okOr (jupiter.call (routeMetas accounts) params.jupiterRouteData l)
    (.vault .jupiterSwapFailed)
  let postBalance ← readTokenAmount l vaultBaseAta .jupiterSwapFailed
  let outputAmount ← okOr (postBalance.checkedSub preBalance) (.vault .mathOverflow)
  return (l, outputAmount)

/-- The swap leg, where it is active. The output that `jupiter::swap` returns is not used : the
floor is compared with the balance less the base that the withdrawal brought in. -/
def activeSwap (jupiter : Program) (cfg : ProtocolConfig) (l : Ledger) (params : SalvagePoolParams)
    (accounts : SalvageAccounts) (baseIsCoinSide : Bool) (removal : RemoveLiquidityOutput) :
    Except ProgramError Ledger := do
  vetRoute params accounts
  checkSlippage cfg l params accounts baseIsCoinSide removal.memecoinReceived
  let (l, _) ← jupiterSwap jupiter l params accounts
  let base ← l.loadToken vaultBaseAta
  let swapOnlyOutput ← okOr (base.amount.checkedSub removal.baseReceived) (.vault .mathOverflow)
  require (params.minQuoteOutputLamports.val ≤ swapOnlyOutput.val) (.vault .slippageExceeded)
  return l

/-- Whether the withdrawal brought in enough memecoin for the swap. -/
def swapIsActive (cfg : ProtocolConfig) (removal : RemoveLiquidityOutput) : Prop :=
  cfg.jupiterDustThresholdLamports.val ≤ removal.memecoinReceived.val

/-- Whether the swap leg is active is decided. -/
instance (cfg : ProtocolConfig) (removal : RemoveLiquidityOutput) :
    Decidable (swapIsActive cfg removal) :=
  inferInstanceAs (Decidable (_ ≤ _))

/-- The swap leg: the active one, or the ledger as it is. -/
def swapLeg (jupiter : Program) (cfg : ProtocolConfig) (l : Ledger) (params : SalvagePoolParams)
    (accounts : SalvageAccounts) (baseIsCoinSide : Bool) (removal : RemoveLiquidityOutput) :
    Except ProgramError Ledger :=
  if swapIsActive cfg removal then
    activeSwap jupiter cfg l params accounts baseIsCoinSide removal
  else return l

/-! ## The split -/

/-- `floor(total * bps / 10000)`, through 128 bits and truncated to 64. -/
def bpsShare (total : U64) (bps : U16) : Except ProgramError U64 := do
  let product ← okOr ((total.widen 128 Word.u64_le_u128).checkedMul (bps.widen 128 (by decide)))
    (.vault .mathOverflow)
  let share ← okOr (product.checkedDiv (bpsDenominator.widen 128 (by decide)))
    (.vault .mathOverflow)
  return share.truncate 64

/-- `split_proceeds` : the salvor's, the LP holders' and the protocol's share. The protocol takes
the remainder. -/
def splitProceeds (total : U64) (salvorShareBps lpHolderShareBps : U16) :
    Except ProgramError (U64 × U64 × U64) := do
  let salvor ← bpsShare total salvorShareBps
  let lp ← bpsShare total lpHolderShareBps
  let rest ← okOr (total.checkedSub salvor) (.vault .mathOverflow)
  let protocol ← okOr (rest.checkedSub lp) (.vault .mathOverflow)
  return (salvor, lp, protocol)

/-- The shares are checked again before the split. -/
def checkShares (cfg : ProtocolConfig) : Except ProgramError Unit := do
  let sum ← okOr (cfg.lpHolderShareBps.checkedAdd cfg.salvorShareBps) (.vault .mathOverflow)
  let sum ← okOr (sum.checkedAdd cfg.protocolShareBps) (.vault .mathOverflow)
  require (sum.val = bpsDenominator.val) (.vault .invalidShareSplit)
  require (cfg.protocolShareBps.val ≤ protocolShareBpsCeiling.val)
    (.vault .protocolShareExceedsCeiling)

/-- The amounts of a settlement. -/
structure Settlement where
  total : U64
  salvorShare : U64
  lpHolderShare : U64
  protocolShare : U64

/-- `transfer_from_vault_sol_holding`. -/
def payFromSolHolding (l : Ledger) (pool : Pubkey) (dst : Account) (amount : U64) :
    Except ProgramError Ledger :=
  (l.pay (.vaultSolHolding pool) dst amount.val).mapError fun _ => .vault .mathOverflow

/-- The three payments. -/
def distribute (l : Ledger) (pool salvor : Pubkey) (s : Settlement) :
    Except ProgramError Ledger := do
  let l ← payFromSolHolding l pool (.key salvor) s.salvorShare
  let l ← payFromSolHolding l pool (.lpHolderPoolVault pool) s.lpHolderShare
  payFromSolHolding l pool .protocolTreasury s.protocolShare

/-- Unwrap the recovered WSOL and pay the three shares. -/
def settle (cfg : ProtocolConfig) (l : Ledger) (pool salvor : Pubkey) :
    Except ProgramError (Ledger × Settlement) := do
  let base ← l.loadToken vaultBaseAta
  let total := base.amount
  require (0 < total.val) (.vault .ammRedemptionFailed)
  let l ← l.closeAccount vaultBaseAta (.vaultSolHolding pool) .vaultAuthority
  checkShares cfg
  let (salvorShare, lpHolderShare, protocolShare) ←
    splitProceeds total cfg.salvorShareBps cfg.lpHolderShareBps
  let s : Settlement := ⟨total, salvorShare, lpHolderShare, protocolShare⟩
  let l ← distribute l pool salvor s
  return (l, s)

/-! ## The instruction -/

/-- The registry that a settlement writes. -/
def newRegistry (clock : Clock) (params : SalvagePoolParams) (salvor : Pubkey) (s : Settlement) :
    PoolRegistry where
  ammProgramId := params.ammProgramId
  poolAddress := params.poolAddress
  salvor := salvor
  lpSnapshotMerkleRoot := params.lpSnapshotMerkleRoot
  lpTotalSupplyAtSnapshot := params.lpTotalSupplyAtSnapshot
  lpHolderPoolTotalLamports := s.lpHolderShare
  lpHolderPoolClaimedLamports := 0
  salvagedAtSlot := clock.slot
  salvagedAtTs := clock.unixTimestamp

/-- The receipt that a settlement writes. -/
def newReceipt (clock : Clock) (params : SalvagePoolParams) (accounts : SalvageAccounts)
    (s : Settlement) (dust : U64) : SalvageReceipt where
  poolAddress := params.poolAddress
  salvor := accounts.salvor
  lpHolderAmountLamports := s.lpHolderShare
  salvorAmountLamports := s.salvorShare
  protocolAmountLamports := s.protocolShare
  totalProceedsLamports := s.total
  issuedAtSlot := clock.slot
  issuedAtTs := clock.unixTimestamp
  memecoinMint := accounts.memecoinMint
  dustMemecoinLamports := dust
  dustSweptAtTs := 0

/-- `salvage_pool`. -/
def salvagePool (rt : Runtime) (clock : Clock) (cert : Option EligibilityCert) (v : State)
    (l : Ledger) (params : SalvagePoolParams) (accounts : SalvageAccounts) (programs : Programs) :
    Except ProgramError (State × Ledger) := do
  let p ← prepare rt clock cert v l params accounts
  let (l, removal) ←
    dispatchRemoveLiquidity programs.raydiumV4 p.ledger params accounts p.baseIsCoinSide
  let l ← swapLeg programs.jupiterV6 p.cfg l params accounts p.baseIsCoinSide removal
  let (l, s) ← settle p.cfg l params.poolAddress accounts.salvor
  let memecoin ← l.loadToken (vaultMemecoinAta accounts.memecoinMint)
  return ({ v with
    registries := Function.update v.registries params.poolAddress
      (some (newRegistry clock params accounts.salvor s))
    receipts := Function.update v.receipts params.poolAddress
      (some (newReceipt clock params accounts s memecoin.amount)) }, l)

/-! ## What a successful salvage has done -/

variable {rt : Runtime} {clock : Clock} {cert? : Option EligibilityCert} {v v' : State}
  {l l' : Ledger} {params : SalvagePoolParams} {accounts : SalvageAccounts} {programs : Programs}

/-- The stages of a successful salvage. -/
theorem salvagePool_ok
    (h : salvagePool rt clock cert? v l params accounts programs = .ok (v', l')) :
    ∃ p l₁ removal l₂ s dust, prepare rt clock cert? v l params accounts = .ok p ∧
      dispatchRemoveLiquidity programs.raydiumV4 p.ledger params accounts p.baseIsCoinSide =
        .ok (l₁, removal) ∧
      swapLeg programs.jupiterV6 p.cfg l₁ params accounts p.baseIsCoinSide removal = .ok l₂ ∧
      settle p.cfg l₂ params.poolAddress accounts.salvor = .ok (l', s) ∧
      v' = { v with
        registries := Function.update v.registries params.poolAddress
          (some (newRegistry clock params accounts.salvor s))
        receipts := Function.update v.receipts params.poolAddress
          (some (newReceipt clock params accounts s dust)) } := by
  simp only [salvagePool, bind_ok_iff, pure_ok_iff, Prod.exists, Prod.mk.injEq] at h
  obtain ⟨p, h1, l₁, removal, h2, l₂, h3, _, s, h4, t, _, rfl, rfl⟩ := h
  exact ⟨p, l₁, removal, l₂, s, t.amount, h1, h2, h3, h4, rfl⟩

/-- The receipt records what the memecoin account holds in the end. -/
theorem salvagePool_dust
    (h : salvagePool rt clock cert? v l params accounts programs = .ok (v', l')) :
    ∃ s t, (l' (vaultMemecoinAta accounts.memecoinMint)).data = .token t ∧
      v'.receipts = Function.update v.receipts params.poolAddress
        (some (newReceipt clock params accounts s t.amount)) := by
  simp only [salvagePool, bind_ok_iff, Ledger.loadToken_ok_iff, pure_ok_iff, Prod.exists,
    Prod.mk.injEq] at h
  obtain ⟨p, _, l₁, removal, _, l₂, _, _, s, _, t, ht, rfl, rfl⟩ := h
  exact ⟨s, t, ht, rfl⟩

/-- What the pre-flight of a salvage established. -/
structure Preflight (clock : Clock) (cert? : Option EligibilityCert) (v : State) (l : Ledger)
    (params : SalvagePoolParams) (accounts : SalvageAccounts) (p : Prepared) : Prop where
  config : v.protocolConfig = some p.cfg
  notPaused : p.cfg.emergencyPaused = false
  registry : v.registries params.poolAddress = none
  receipt : v.receipts params.poolAddress = none
  cert : ∃ c, cert? = some c ∧ c.isExpired clock.unixTimestamp = false ∧
    c.criteriaBitmap = allCriteriaMask ∧ c.ammProgramId = params.ammProgramId ∧
    c.poolAddress = params.poolAddress
  pool : accounts.pool = params.poolAddress
  unsigned : ∀ m ∈ accounts.remainingAccounts, m.isSigner = true → m.account.isVaultPda = false
  data : ∀ k, (p.ledger (.key k)).data = (l (.key k)).data
  bound : bindPool p.ledger params accounts = .ok p.baseIsCoinSide

/-- The ledgers between the accounts that are opened. -/
theorem openAccounts_ledgers {l' : Ledger} (h : openAccounts rt v l params accounts = .ok l') :
    ∃ l₁ l₂ l₃,
      l.initRecord rt (.key accounts.salvor) (.poolRegistry params.poolAddress)
        PoolRegistry.size = .ok l₁ ∧
      l₁.initRecord rt (.key accounts.salvor) (.salvageReceipt params.poolAddress)
        SalvageReceipt.size = .ok l₂ ∧
      l₂.initAtaIfNeeded rt (.key accounts.salvor) .vaultAuthority wsolMint = .ok l₃ ∧
      l₃.initAtaIfNeeded rt (.key accounts.salvor) .vaultAuthority accounts.memecoinMint =
        .ok l' := by
  simp only [openAccounts, bind_ok_iff] at h
  obtain ⟨_, _, _, _, l₁, h1, _, _, l₂, h2, _, _, _, _, _, _, l₃, h3, h4⟩ := h
  exact ⟨l₁, l₂, l₃, h1, h2, h3, h4⟩

/-- What a salvage has found when its accounts are open. -/
theorem openAccounts_ok {l' : Ledger} (h : openAccounts rt v l params accounts = .ok l') :
    (∀ m ∈ accounts.remainingAccounts, m.isSigner = true → m.account.isVaultPda = false) ∧
      v.registries params.poolAddress = none ∧ v.receipts params.poolAddress = none ∧
      ∀ k, (l' (.key k)).data = (l (.key k)).data := by
  obtain ⟨l₁, l₂, l₃, h1, h2, h3, h4⟩ := openAccounts_ledgers h
  simp only [openAccounts, bind_ok_iff, require_ok_iff, initAccount_ok_iff, exists_const] at h
  obtain ⟨hunsigned, hregistry, _, _, hreceipt, _⟩ := h
  refine ⟨hunsigned, hregistry, hreceipt, fun k => ?_⟩
  rw [Ledger.initAtaIfNeeded_data h4 (by simp), Ledger.initAtaIfNeeded_data h3 (by simp),
    Ledger.initRecord_data h2 (by simp), Ledger.initRecord_data h1 (by simp)]

/-- The opening of the accounts leaves the other accounts alone. -/
theorem openAccounts_frame {l' : Ledger} (h : openAccounts rt v l params accounts = .ok l')
    {a : Account} (hs : a ≠ .key accounts.salvor) (hreg : a ≠ .poolRegistry params.poolAddress)
    (hrec : a ≠ .salvageReceipt params.poolAddress) (hbase : a ≠ vaultBaseAta)
    (hmeme : a ≠ vaultMemecoinAta accounts.memecoinMint) : l' a = l a := by
  obtain ⟨l₁, l₂, l₃, h1, h2, h3, h4⟩ := openAccounts_ledgers h
  calc l' a = l₃ a := Ledger.initAtaIfNeeded_frame h4 hs hmeme
    _ = l₂ a := Ledger.initAtaIfNeeded_frame h3 hs hbase
    _ = l₁ a := Ledger.initRecord_frame h2 hs hrec
    _ = l a := Ledger.initRecord_frame h1 hs hreg

/-- The ledgers of the preparation, between its last two accounts. -/
theorem prepare_ledgers {p : Prepared} (h : prepare rt clock cert? v l params accounts = .ok p) :
    ∃ l₁ l₂, openAccounts rt v l params accounts = .ok l₁ ∧
      l₁.lazyInitSystemPda rt (.key accounts.salvor) (.lpHolderPoolVault params.poolAddress) =
        .ok l₂ ∧
      l₂.lazyInitSystemPda rt (.key accounts.salvor) (.vaultSolHolding params.poolAddress) =
        .ok p.ledger := by
  simp only [prepare, bind_ok_iff, pure_ok_iff] at h
  obtain ⟨_, _, _, _, l₁, h1, _, _, _, _, _, _, l₂, h2, l₃, h3, _, _, rfl⟩ := h
  exact ⟨l₁, l₂, h1, h2, h3⟩

/-- The preparation leaves the other accounts alone. -/
theorem prepare_frame {p : Prepared} (h : prepare rt clock cert? v l params accounts = .ok p)
    {a : Account} (hs : a ≠ .key accounts.salvor) (hreg : a ≠ .poolRegistry params.poolAddress)
    (hrec : a ≠ .salvageReceipt params.poolAddress)
    (hlp : a ≠ .lpHolderPoolVault params.poolAddress)
    (hsol : a ≠ .vaultSolHolding params.poolAddress) (hbase : a ≠ vaultBaseAta)
    (hmeme : a ≠ vaultMemecoinAta accounts.memecoinMint) : p.ledger a = l a := by
  obtain ⟨l₁, l₂, h1, h2, h3⟩ := prepare_ledgers h
  calc p.ledger a = l₂ a := Ledger.lazyInitSystemPda_frame h3 hs hsol
    _ = l₁ a := Ledger.lazyInitSystemPda_frame h2 hs hlp
    _ = l a := openAccounts_frame h1 hs hreg hrec hbase hmeme

/-- Before the first call the system accounts of other pools are as they were, and the pool's own
hold what they held or the minimum. -/
theorem prepare_ok {p : Prepared} (h : prepare rt clock cert? v l params accounts = .ok p) :
    Preflight clock cert? v l params accounts p ∧
      (∀ pool, pool ≠ params.poolAddress →
        p.ledger (.lpHolderPoolVault pool) = l (.lpHolderPoolVault pool)) ∧
      (p.ledger (.lpHolderPoolVault params.poolAddress)).data =
        (l (.lpHolderPoolVault params.poolAddress)).data ∧
      (p.ledger (.lpHolderPoolVault params.poolAddress)).lamports =
        if 0 < (l (.lpHolderPoolVault params.poolAddress)).lamports then
          (l (.lpHolderPoolVault params.poolAddress)).lamports
        else (rt.rentMinimumBalance 0).val := by
  have hframe : ∀ pool, pool ≠ params.poolAddress →
      p.ledger (.lpHolderPoolVault pool) = l (.lpHolderPoolVault pool) := fun pool hne =>
    prepare_frame h (by simp) (by simp) (by simp) (by simpa using hne) (by simp)
      (by simp [vaultBaseAta]) (by simp [vaultMemecoinAta])
  obtain ⟨l₁, l₂, hopened, hlp, hsol⟩ := prepare_ledgers h
  have hopen : l₁ (.lpHolderPoolVault params.poolAddress) =
      l (.lpHolderPoolVault params.poolAddress) :=
    openAccounts_frame hopened (by simp) (by simp) (by simp) (by simp [vaultBaseAta])
      (by simp [vaultMemecoinAta])
  obtain ⟨hunsigned, hregistry, hreceipt, hdata⟩ := openAccounts_ok hopened
  simp only [prepare, bind_ok_iff, loadAccount_ok_iff, preflight, require_ok_iff, exists_const,
    pure_ok_iff] at h
  obtain ⟨cfg, hcfg, cert, hcert, _, _, _, _, _, _, ⟨hpaused, hlive, hbitmap, hamm, hpool, heq, _⟩,
    _, _, _, _, side, hbound, rfl⟩ := h
  refine ⟨⟨hcfg, hpaused, hregistry, hreceipt, ⟨cert, hcert, hlive, hbitmap, hamm, hpool⟩, heq,
    hunsigned, fun k => ?_, hbound⟩, hframe, ?_, ?_⟩
  · rw [Ledger.lazyInitSystemPda_data hsol, Ledger.lazyInitSystemPda_data hlp, hdata]
  · rw [Ledger.lazyInitSystemPda_data hsol, Ledger.lazyInitSystemPda_data hlp, hopen]
  · rw [← hopen, ← Ledger.lazyInitSystemPda_lamports hlp (by simp)]
    exact congrArg _ (Ledger.lazyInitSystemPda_frame hsol (by simp) (by simp))

/-- Data of Raydium's V4 program is data of a program. -/
theorem eq_program_of_owner? {data : AccountData} (h : data.owner? = some raydiumV4ProgramId) :
    ∃ executable bytes, data = .program raydiumV4ProgramId executable bytes := by
  cases data with
  | program owner executable bytes =>
    obtain rfl := Option.some.inj h
    exact ⟨executable, bytes, rfl⟩
  | empty => exact absurd h (by decide)
  | token t => exact absurd h (by simp only [AccountData.owner?]; decide)
  | mint m => exact absurd h (by simp only [AccountData.owner?]; decide)
  | record n => exact absurd h (by simp [AccountData.owner?])

/-- The mints and the snapshot of a salvage are bound to the pool's own bytes and LP supply. -/
theorem Preflight.bytes {p : Prepared} (hpre : Preflight clock cert? v l params accounts p)
    (howner : (p.ledger (.key accounts.pool)).data.owner? = some raydiumV4ProgramId) :
    ∃ executable bytes mint,
      (l (.key params.poolAddress)).data = .program raydiumV4ProgramId executable bytes ∧
      derivePoolOrientation bytes = .ok (p.baseIsCoinSide, accounts.memecoinMint, accounts.lpMint) ∧
      (l (.key accounts.lpMint)).data = .mint mint ∧
      mint.supply = params.lpTotalSupplyAtSnapshot := by
  have hbound := hpre.bound
  simp only [bindPool, bind_ok_iff, require_ok_iff, exists_const, loadAccount_ok_iff,
    AccountState.mint?_eq_some, pure_ok_iff, Prod.exists] at hbound
  obtain ⟨side, memecoinMint, lpMint, horient, hmeme, hlp, mint, hmint, hsupply, _, _, hside⟩ :=
    hbound
  subst hmeme hlp hside
  rw [hpre.pool, hpre.data] at howner horient
  rw [hpre.data] at hmint
  obtain ⟨executable, bytes, hdata⟩ := eq_program_of_owner? howner
  rw [hdata, poolOrientation, if_pos rfl] at horient
  exact ⟨executable, bytes, mint, hdata, horient, hmint, hsupply⟩

/-- The salvor is the only signer of a withdrawal, and it writes to the pool, the mints and
accounts of the salvor and the vault, and the remaining accounts. -/
theorem mem_withdrawMetas {baseIsCoinSide : Bool} {m : AccountMeta}
    (hm : m ∈ withdrawMetas accounts baseIsCoinSide) :
    (m.isSigner = true → m.account = .key accounts.salvor) ∧
    (m.isWritable = true → m.account ∈ [.key accounts.pool, .key accounts.lpMint,
      accounts.salvorLpTokenAccount, vaultBaseAta, vaultMemecoinAta accounts.memecoinMint,
      .key accounts.salvor] ∨
      ∃ i < 13, m.account = ((accounts.raydiumRemaining[i]?).map AccountMeta.account).getD
        (.key defaultPubkey)) := by
  simp only [withdrawMetas, List.mem_cons, List.not_mem_nil, or_false] at hm
  rcases hm with rfl | rfl | rfl | rfl | rfl | rfl | rfl | rfl | rfl | rfl | rfl | rfl | rfl | rfl |
    rfl | rfl | rfl | rfl | rfl | rfl | rfl | rfl
  all_goals
    refine ⟨fun hs => ?_, fun hw => ?_⟩
    · first
      | rfl
      | cases hs
    · first
      | (cases hw; done)
      | (right; exact ⟨_, by decide, rfl⟩)
      | (left; cases baseIsCoinSide <;> simp)

/-- No account of the vault signs the withdrawal. -/
theorem not_signs_withdrawMetas {baseIsCoinSide : Bool} {a : Account} (ha : a.isVaultPda = true) :
    ¬Signs (withdrawMetas accounts baseIsCoinSide) a := by
  rintro ⟨m, hm, rfl, hs⟩
  rw [(mem_withdrawMetas hm).1 hs] at ha
  cases ha

/-- Of the vault's addresses only the vault authority signs a route. -/
theorem not_signs_routeMetas {a : Account} (ha : a.isVaultPda = true) (hne : a ≠ .vaultAuthority)
    (hu : ∀ m ∈ accounts.remainingAccounts, m.isSigner = true → m.account.isVaultPda = false) :
    ¬Signs (routeMetas accounts) a := by
  rintro ⟨m, hm, rfl, hs⟩
  obtain ⟨m', hm', rfl⟩ := List.mem_map.1 hm
  split_ifs at ha hne hs with hv
  · exact hne hv
  · rw [hu m' (List.mem_of_mem_drop hm') hs] at ha
    cases ha

/-- What a dispatched withdrawal has found. -/
theorem dispatchRemoveLiquidity_ok {raydium : Program} {baseIsCoinSide : Bool}
    {removal : RemoveLiquidityOutput}
    (h : dispatchRemoveLiquidity raydium l params accounts baseIsCoinSide = .ok (l', removal)) :
    (l (.key accounts.pool)).data.owner? = some raydiumV4ProgramId ∧
      removeLiquidity raydium l params accounts baseIsCoinSide = .ok (l', removal) ∧
      raydium.call (withdrawMetas accounts baseIsCoinSide) (withdrawData params.salvorLpAmount) l =
        some l' := by
  unfold dispatchRemoveLiquidity at h
  split_ifs at h with howner
  refine ⟨howner, h, ?_⟩
  simp only [removeLiquidity, bind_ok_iff, require_ok_iff, exists_const, okOr_ok_iff, pure_ok_iff,
    Prod.mk.injEq] at h
  obtain ⟨_, _, _, _, _, _, _, _, l₁, hcall, _, _, _, _, _, _, _, _, _, rfl, _⟩ := h
  exact hcall

/-- A withdrawal names thirteen accounts. -/
theorem removeLiquidity_length {raydium : Program} {baseIsCoinSide : Bool}
    {removal : RemoveLiquidityOutput}
    (h : removeLiquidity raydium l params accounts baseIsCoinSide = .ok (l', removal)) :
    accounts.raydiumRemaining.length = raydiumV4WithdrawRemainingAccountsRequired := by
  obtain ⟨_, hlen, _⟩ := bind_ok_iff.1 h
  exact require_ok_iff.1 hlen

/-- A withdrawal keeps the accounts of the vault. -/
theorem dispatchRemoveLiquidity_keeps {raydium : Program} {baseIsCoinSide : Bool}
    {removal : RemoveLiquidityOutput}
    (h : dispatchRemoveLiquidity raydium l params accounts baseIsCoinSide = .ok (l', removal))
    {a : Account} (ha : a.isVaultPda = true) : Ledger.Keeps a l l' :=
  raydium.custody (dispatchRemoveLiquidity_ok h).2.2 a ha (not_signs_withdrawMetas ha)

/-- A swap is the call of Jupiter with the route's accounts and data. -/
theorem jupiterSwap_ok {jupiter : Program} {output : U64}
    (h : jupiterSwap jupiter l params accounts = .ok (l', output)) :
    jupiter.call (routeMetas accounts) params.jupiterRouteData l = some l' := by
  simp only [jupiterSwap, bind_ok_iff, require_ok_iff, exists_const, okOr_ok_iff, pure_ok_iff,
    Prod.mk.injEq] at h
  obtain ⟨_, _, _, _, l₁, hcall, _, _, _, _, rfl, _⟩ := h
  exact hcall

/-- A swap leg that succeeds is idle or active. -/
theorem swapLeg_cases {jupiter : Program} {cfg : ProtocolConfig} {baseIsCoinSide : Bool}
    {removal : RemoveLiquidityOutput}
    (h : swapLeg jupiter cfg l params accounts baseIsCoinSide removal = .ok l') :
    (¬swapIsActive cfg removal ∧ l' = l) ∨ (swapIsActive cfg removal ∧
      activeSwap jupiter cfg l params accounts baseIsCoinSide removal = .ok l' ∧
      jupiter.call (routeMetas accounts) params.jupiterRouteData l = some l') := by
  unfold swapLeg at h
  split_ifs at h with hactive
  · refine Or.inr ⟨hactive, h, ?_⟩
    simp only [activeSwap, bind_ok_iff, require_ok_iff, exists_const, pure_ok_iff,
      Prod.exists] at h
    obtain ⟨_, _, _, _, l₁, output, hswap, _, _, _, _, _, rfl⟩ := h
    exact jupiterSwap_ok hswap
  · exact Or.inl ⟨hactive, (pure_ok_iff.1 h).symm⟩

/-- A swap leg keeps the accounts of the vault that its route does not sign for. -/
theorem swapLeg_keeps {jupiter : Program} {cfg : ProtocolConfig} {baseIsCoinSide : Bool}
    {removal : RemoveLiquidityOutput}
    (h : swapLeg jupiter cfg l params accounts baseIsCoinSide removal = .ok l')
    (hu : ∀ m ∈ accounts.remainingAccounts, m.isSigner = true → m.account.isVaultPda = false)
    {a : Account} (ha : a.isVaultPda = true) (hne : a ≠ .vaultAuthority) : Ledger.Keeps a l l' := by
  rcases swapLeg_cases h with ⟨_, rfl⟩ | ⟨_, _, hcall⟩
  · exact Ledger.Keeps.refl a _
  · exact jupiter.custody hcall a ha (not_signs_routeMetas ha hne hu)

/-- A payment out of the holding has been made. -/
theorem payFromSolHolding_ok {pool : Pubkey} {dst : Account} {amount : U64}
    (h : payFromSolHolding l pool dst amount = .ok l') (hne : Account.vaultSolHolding pool ≠ dst) :
    Ledger.Paid l (.vaultSolHolding pool) dst amount.val l' :=
  Ledger.pay_ok (mapError_ok_iff.1 h) hne

/-- The ledgers of a settlement : the unwrapping, and the three payments. -/
theorem settle_ledgers {cfg : ProtocolConfig} {pool salvor : Pubkey} {s : Settlement}
    (h : settle cfg l pool salvor = .ok (l', s)) : ∃ l₁ l₂ l₃,
      l.closeAccount vaultBaseAta (.vaultSolHolding pool) .vaultAuthority = .ok l₁ ∧
      Ledger.Paid l₁ (.vaultSolHolding pool) (.key salvor) s.salvorShare.val l₂ ∧
      Ledger.Paid l₂ (.vaultSolHolding pool) (.lpHolderPoolVault pool) s.lpHolderShare.val l₃ ∧
      Ledger.Paid l₃ (.vaultSolHolding pool) .protocolTreasury s.protocolShare.val l' := by
  simp only [settle, distribute, bind_ok_iff, pure_ok_iff, Prod.exists, Prod.mk.injEq] at h
  obtain ⟨_, _, _, _, l₁, hclose, _, _, _, _, _, _, _, ⟨l₂, h2, l₃, h3, h4⟩, rfl, rfl⟩ := h
  exact ⟨l₁, l₂, l₃, hclose, payFromSolHolding_ok h2 (by simp), payFromSolHolding_ok h3 (by simp),
    payFromSolHolding_ok h4 (by simp)⟩

/-- The settlement leaves the other accounts alone. -/
theorem settle_frame {cfg : ProtocolConfig} {pool salvor : Pubkey} {s : Settlement}
    (h : settle cfg l pool salvor = .ok (l', s)) {a : Account} (hs : a ≠ .key salvor)
    (hlp : a ≠ .lpHolderPoolVault pool) (hsol : a ≠ .vaultSolHolding pool)
    (htreasury : a ≠ .protocolTreasury) (hbase : a ≠ vaultBaseAta) : l' a = l a := by
  obtain ⟨l₁, l₂, l₃, hclose, h2, h3, h4⟩ := settle_ledgers h
  obtain ⟨_, _, _, _, _, rfl⟩ := Ledger.closeAccount_ok_iff.1 hclose
  rw [h4.frame a hsol htreasury, h3.frame a hsol hlp, h2.frame a hsol hs,
    Function.update_of_ne hbase, Function.update_of_ne hsol]

/-- What the settlement did to the LP holders' vaults : the pool's own received its share, the
others nothing. -/
theorem settle_ok {cfg : ProtocolConfig} {pool salvor : Pubkey} {s : Settlement}
    (h : settle cfg l pool salvor = .ok (l', s)) :
    (∀ q, q ≠ pool → l' (.lpHolderPoolVault q) = l (.lpHolderPoolVault q)) ∧
      (l' (.lpHolderPoolVault pool)).data = (l (.lpHolderPoolVault pool)).data ∧
      (l' (.lpHolderPoolVault pool)).lamports =
        (l (.lpHolderPoolVault pool)).lamports + s.lpHolderShare.val := by
  obtain ⟨l₁, l₂, l₃, hclose, h2, h3, h4⟩ := settle_ledgers h
  obtain ⟨_, _, _, _, _, rfl⟩ := Ledger.closeAccount_ok_iff.1 hclose
  refine ⟨fun q hq => ?_, ?_, ?_⟩
  · exact settle_frame h (by simp) (by simpa using hq) (by simp) (by simp) (by simp [vaultBaseAta])
  · rw [h4.data, h3.data, h2.data]
    simp [vaultBaseAta]
  · rw [h4.frame _ (by simp) (by simp), h3.credited, h2.frame _ (by simp) (by simp)]
    simp [vaultBaseAta]

/-- The effect of a salvage on the LP holders' vaults. -/
structure CreditedLpHolders (rt : Runtime) (l : Ledger) (pool : Pubkey) (share : U64)
    (l' : Ledger) : Prop where
  others : ∀ q, q ≠ pool →
    Ledger.Keeps (.lpHolderPoolVault q) l l'
  data : (l' (.lpHolderPoolVault pool)).data = (l (.lpHolderPoolVault pool)).data
  lamports : (if 0 < (l (.lpHolderPoolVault pool)).lamports then
      (l (.lpHolderPoolVault pool)).lamports else (rt.rentMinimumBalance 0).val) + share.val ≤
    (l' (.lpHolderPoolVault pool)).lamports

/-- A successful salvage : its pre-flight, what it wrote, and its effect on the LP holders'
vaults. -/
theorem salvagePool_effect
    (h : salvagePool rt clock cert? v l params accounts programs = .ok (v', l')) :
    ∃ p s dust, Preflight clock cert? v l params accounts p ∧
      (p.ledger (.key accounts.pool)).data.owner? = some raydiumV4ProgramId ∧
      CreditedLpHolders rt l params.poolAddress s.lpHolderShare l' ∧
      v' = { v with
        registries := Function.update v.registries params.poolAddress
          (some (newRegistry clock params accounts.salvor s))
        receipts := Function.update v.receipts params.poolAddress
          (some (newReceipt clock params accounts s dust)) } := by
  obtain ⟨p, l₁, removal, l₂, s, dust, h1, h2, h3, h4, rfl⟩ := salvagePool_ok h
  obtain ⟨hpre, hothers, hdata, hlamports⟩ := prepare_ok h1
  obtain ⟨hq, hd, hl⟩ := settle_ok h4
  have hkeeps : ∀ q, Ledger.Keeps (.lpHolderPoolVault q) p.ledger l₂ := fun q =>
    (dispatchRemoveLiquidity_keeps h2 rfl).trans (swapLeg_keeps h3 hpre.unsigned rfl (by simp))
  refine ⟨p, s, dust, hpre, (dispatchRemoveLiquidity_ok h2).1, ⟨fun q hne => ?_, ?_, ?_⟩, rfl⟩
  · exact (Ledger.Keeps.of_eq (hothers q hne)).trans
      ((hkeeps q).trans (Ledger.Keeps.of_eq (hq q hne)))
  · rw [hd, (hkeeps _).data, hdata]
  · rw [hl, ← hlamports]
    exact Nat.add_le_add_right (hkeeps _).lamports _

end GraveYield.Vault
