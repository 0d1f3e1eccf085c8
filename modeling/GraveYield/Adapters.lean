import GraveYield.Errors
import GraveYield.Lib.Checked
import GraveYield.Runtime

/-!
# Pool and locker adapters

`extractPoolData` dispatches on the owner of the pool account; only the Raydium V4 layout is
parsed, the other registered programs are refused. `lockedLpAmount` walks the remaining
accounts once and totals the UNCX lock records bound to the pool and its LP mint.
-/

namespace GraveYield.Scanner

open Machine Checked

/-! ## Pool data -/

/-- `PoolData`. -/
structure PoolData where
  baseReserve : U64
  quoteReserve : U64
  lpSupply : U64
  baseMint : Pubkey
  quoteMint : Pubkey
  lpMint : Pubkey
  deriving DecidableEq

/-- Quote per base as a Q64.64 number. -/
def PoolData.currentPriceQ64x64 (p : PoolData) : Except ProgramError U128 := do
  require (0 < p.baseReserve.val) (.scanner .poolDataParseError)
  let scaled : U128 := ⟨p.quoteReserve.val * 2 ^ 64, by have := p.quoteReserve.isLt; omega⟩
  okOr (scaled.checkedDiv (p.baseReserve.widen 128 Word.u64_le_u128)) (.scanner .mathOverflow)

/-- The price of a pool in the scanner's arithmetic. -/
theorem currentPriceQ64x64_ok_iff {poolData : PoolData} {price : U128} :
    poolData.currentPriceQ64x64 = .ok price ↔ 0 < poolData.baseReserve.val ∧
      price.val = poolData.quoteReserve.val * 2 ^ 64 / poolData.baseReserve.val := by
  simp only [PoolData.currentPriceQ64x64, bind_ok_iff, require_ok_iff, exists_const, okOr_ok_iff,
    Word.checkedDiv_eq_some, Word.widen_val]
  exact ⟨fun h => ⟨h.1, h.2.2⟩, fun h => ⟨h.1, h.1, h.2⟩⟩

/-- `whirLbMiicVdio4qvUfM5KAg6Ct8VwpYzGff3uctyCc`. -/
def orcaWhirlpoolProgramId : Pubkey :=
  Bytes.ofNat 32 0x0e03685f8e909053e458121c66f5a76aedc7706aa11c82f8aa952a8f2b7879a9

/-- `PSwapMdSai8tjrEXcxFeQth87xC4rRsa4VA5mhGhXkP`. -/
def pumpSwapProgramId : Pubkey :=
  Bytes.ofNat 32 0x05c01c06e46f4190c7755e2c25ed0cd6b204441e1d128b79df6118292787613c

/-- `CAMMCzo5YL8w4VFF8KVHrK22GGUsp5VTaW7grrKgrWqK`. -/
def raydiumClmmProgramId : Pubkey :=
  Bytes.ofNat 32 0xa5d5ca9e04cf5db590b714ba2fe32cb159133fc1c192b72257fd07d39cb0401e

/-- `LBUZKhRxPF3XUpBCjp4YzTKgLccjZhTSDM9YuVaPwxo`. -/
def meteoraProgramId : Pubkey :=
  Bytes.ofNat 32 0x04e9e12fbc84e826c932cce9e2640cce15590c1c6273b0925708ba3b8520b0bc

/-- The error of every malformed pool, vault or mint account. -/
def parseError : ProgramError :=
  .scanner .poolDataParseError

/-- A key of the data, if the data reaches that far. -/
def readPubkey (data : List Byte) (offset : ℕ) : Except ProgramError Pubkey :=
  okOr (Bytes.ofList? 32 (slice data offset 32)) parseError

/-- The key that stands at an offset. -/
theorem readPubkey_eq {data : List Byte} {offset : ℕ} {key : Pubkey}
    (h : slice data offset 32 = key.val) : readPubkey data offset = .ok key := by
  rw [readPubkey, h, Bytes.ofList?_eq_some.2 rfl, okOr_some]

/-- A number of the data, if the data reaches that far. -/
def readU64Le (data : List Byte) (offset : ℕ) : Except ProgramError U64 := do
  require (offset + 8 ≤ data.length) parseError
  return leWordAt 8 data offset

namespace RaydiumV4

/-- `AMM_INFO_SIZE`. -/
def ammInfoSize : ℕ := 752

/-- `TOKEN_ACCOUNT_SIZE`. -/
def tokenAccountSize : ℕ := 165

/-- `MINT_ACCOUNT_SIZE`. -/
def mintAccountSize : ℕ := 82

/-- Where the coin vault stands in an `AmmInfo`. -/
def offCoinVault : ℕ := 336

/-- Where the pc vault stands. -/
def offPcVault : ℕ := 368

/-- Where the coin mint stands. -/
def offCoinVaultMint : ℕ := 400

/-- Where the pc mint stands. -/
def offPcVaultMint : ℕ := 432

/-- Where the LP mint stands. -/
def offLpMint : ℕ := 464

/-- Where the mint stands in a token account. -/
def offTokenAccountMint : ℕ := 0

/-- Where the amount stands in a token account. -/
def offTokenAccountAmount : ℕ := 64

/-- Where the supply stands in a mint. -/
def offMintSupply : ℕ := 36

/-- The mint and the amount of a token account. -/
def readTokenAccount (a : AccountInfo) : Except ProgramError (Pubkey × U64) := do
  require (tokenAccountSize ≤ a.data.length) parseError
  let mint ← readPubkey a.data offTokenAccountMint
  let amount ← readU64Le a.data offTokenAccountAmount
  return (mint, amount)

/-- Read the pool account, and through it the two vaults and the LP mint among the
remaining accounts. The coin side is the base. -/
def parse (pool : AccountInfo) (remainingAccounts : List AccountInfo) :
    Except ProgramError PoolData := do
  require (pool.data.length = ammInfoSize) parseError
  let coinVault ← readPubkey pool.data offCoinVault
  let pcVault ← readPubkey pool.data offPcVault
  let coinVaultMint ← readPubkey pool.data offCoinVaultMint
  let pcVaultMint ← readPubkey pool.data offPcVaultMint
  let lpMint ← readPubkey pool.data offLpMint
  let find := fun key => okOr (remainingAccounts.find? fun i => i.key = key) parseError
  let coinVaultInfo ← find coinVault
  let pcVaultInfo ← find pcVault
  let lpMintInfo ← find lpMint
  require (coinVaultInfo.owner = tokenProgramId) parseError
  require (pcVaultInfo.owner = tokenProgramId) parseError
  require (lpMintInfo.owner = tokenProgramId) parseError
  let (coinActualMint, coinAmount) ← readTokenAccount coinVaultInfo
  let (pcActualMint, pcAmount) ← readTokenAccount pcVaultInfo
  require (mintAccountSize ≤ lpMintInfo.data.length) parseError
  let lpSupply ← readU64Le lpMintInfo.data offMintSupply
  require (coinActualMint = coinVaultMint) parseError
  require (pcActualMint = pcVaultMint) parseError
  return ⟨coinAmount, pcAmount, lpSupply, coinVaultMint, pcVaultMint, lpMint⟩

end RaydiumV4

/-- `extract_pool_data`. -/
def extractPoolData (pool : AccountInfo) (expectedPoolAddress : Pubkey)
    (remainingAccounts : List AccountInfo) : Except ProgramError PoolData := do
  require (pool.key = expectedPoolAddress) (.scanner .unsupportedAmm)
  if pool.owner = raydiumV4ProgramId then RaydiumV4.parse pool remainingAccounts
  else if pool.owner = raydiumClmmProgramId ∨ pool.owner = orcaWhirlpoolProgramId ∨
      pool.owner = pumpSwapProgramId ∨ pool.owner = meteoraProgramId then
    .error (.scanner .ammAdapterUnimplemented)
  else .error (.scanner .unsupportedAmm)

/-- Only a Raydium V4 pool at the submitted address is parsed. -/
theorem extractPoolData_ok {pool : AccountInfo} {address : Pubkey} {remaining : List AccountInfo}
    {poolData : PoolData} (h : extractPoolData pool address remaining = .ok poolData) :
    pool.key = address ∧ pool.owner = raydiumV4ProgramId ∧
      RaydiumV4.parse pool remaining = .ok poolData := by
  simp only [extractPoolData, bind_ok_iff, require_ok_iff, exists_const] at h
  obtain ⟨hkey, h⟩ := h
  split_ifs at h with howner
  exact ⟨hkey, howner, h⟩

/-! ## The UNCX Raydium V4 locker -/

namespace UncxV4

/-- `GsSCS3vPWrtJ5Y9aEVVT65fmrex5P5RGHXdZvsdbWgfo`. -/
def programId : Pubkey :=
  Bytes.ofNat 32 0xebcad5b5a3869c094b749546e7981be86f0801540a861e7a1c930f69ccb19b6e

/-- The discriminator of a lock. -/
def tokenLockDisc : List Byte := [0x49, 0xe4, 0x90, 0xf1, 0x9a, 0x2c, 0x5d, 0xee]

/-- The discriminator of a marker. -/
def markerDisc : List Byte := [0xc2, 0xd5, 0x88, 0xe2, 0x4a, 0x7e, 0x7b, 0xb2]

/-- `b"uncx_locker"`. -/
def tokenLockSeed : List Byte :=
  [0x75, 0x6e, 0x63, 0x78, 0x5f, 0x6c, 0x6f, 0x63, 0x6b, 0x65, 0x72]

/-- `b"global_lp_tracker"`. -/
def markerSeed : List Byte :=
  [0x67, 0x6c, 0x6f, 0x62, 0x61, 0x6c, 0x5f, 0x6c, 0x70, 0x5f, 0x74, 0x72, 0x61, 0x63, 0x6b, 0x65,
    0x72]

/-- The size of a lock. -/
def tokenLockSize : ℕ := 146

/-- The size of a marker. -/
def markerSize : ℕ := 9

/-- Where the pool stands in a lock. -/
def offAmmId : ℕ := 9

/-- Where the LP mint stands. -/
def offLpMint : ℕ := 41

/-- Where the id of the lock stands. -/
def offLockGlobalId : ℕ := 73

/-- Where the amount that is still locked stands. -/
def offCurrentLockedAmount : ℕ := 106

/-- The address of a lock, from its id. -/
def tokenLockAddress (rt : Runtime) (lockGlobalId : U64) : Pubkey :=
  rt.findProgramAddress [tokenLockSeed, leBytes 8 lockGlobalId.val] programId

/-- The address of the marker of a pool. -/
def markerAddress (rt : Runtime) (ammId : Pubkey) : Pubkey :=
  rt.findProgramAddress [markerSeed, ammId.val] programId

/-- What the walk over the remaining accounts has seen. -/
structure Scan where
  markerPresentOnChain : Bool
  markerSupplied : Bool
  locksSeen : U32
  totalLocked : U64

/-- What the adapter returns for an account that is not the locker's. -/
def invalid : ProgramError :=
  .scanner .invalidLockerAccount

/-- A locker-owned account that is not the marker : a lock of this pool and LP mint. -/
def scanLock (rt : Runtime) (lpMint poolAddress : Pubkey) (s : Scan) (account : AccountInfo) :
    Except ProgramError Scan := do
  let data := account.data
  require (data.length = tokenLockSize) invalid
  require (slice data 0 8 = tokenLockDisc) invalid
  let lockGlobalId : U64 := leWordAt 8 data offLockGlobalId
  require (account.key = tokenLockAddress rt lockGlobalId) invalid
  require (slice data offAmmId 32 = poolAddress.val) (.scanner .lockerAccountMismatch)
  require (slice data offLpMint 32 = lpMint.val) (.scanner .lockerAccountMismatch)
  let currentLocked : U64 := leWordAt 8 data offCurrentLockedAmount
  let totalLocked ← okOr (s.totalLocked.checkedAdd currentLocked) (.scanner .mathOverflow)
  let locksSeen ← okOr (s.locksSeen.checkedAdd 1) (.scanner .mathOverflow)
  return { s with totalLocked, locksSeen }

/-- One iteration of the walk. -/
def scanAccount (rt : Runtime) (lpMint poolAddress : Pubkey) (s : Scan) (account : AccountInfo) :
    Except ProgramError Scan :=
  if account.data.length = 0 ∧ account.lamports.val = 0 then
    return { s with
      markerSupplied := s.markerSupplied || account.key = markerAddress rt poolAddress }
  else if account.owner ≠ programId then
    return s
  else if account.key = markerAddress rt poolAddress then do
    require (account.data.length = markerSize) invalid
    require (slice account.data 0 8 = markerDisc) invalid
    return { s with markerSupplied := true, markerPresentOnChain := true }
  else scanLock rt lpMint poolAddress s account

/-- `uncx_v4::locked_lp_amount`. -/
def lockedLpAmount (rt : Runtime) (lpMint poolAddress : Pubkey)
    (remainingAccounts : List AccountInfo) : Except ProgramError U64 := do
  let s ← remainingAccounts.foldlM (scanAccount rt lpMint poolAddress) ⟨false, false, 0, 0⟩
  require (s.markerSupplied = true) (.scanner .lockerMarkerAccountRequired)
  if s.markerPresentOnChain then
    require (0 < s.locksSeen.val) (.scanner .lockerLockEvidenceRequired)
  else
    require (s.locksSeen.val = 0) invalid
  return s.totalLocked

end UncxV4

/-- The one supported locker. -/
def lockedLpAmount (rt : Runtime) (lpMint poolAddress : Pubkey)
    (remainingAccounts : List AccountInfo) : Except ProgramError U64 :=
  UncxV4.lockedLpAmount rt lpMint poolAddress remainingAccounts

end GraveYield.Scanner
