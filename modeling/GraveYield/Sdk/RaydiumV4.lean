import GraveYield.Basic
import GraveYield.Lib.Checked

/-!
# Raydium V4 pools as the SDK reads them

`fetchV4Pool` reads the vaults and the mints of a pool off its account, `readVaultReserve` and
`readLpMintSupply` the reserves and the LP supply off the accounts these name. A `Connection`
answers with the accounts of one state of the chain. The token accounts are decoded by the
spl-token package, `SplToken`, of which the SDK relies on the legacy layouts.
-/

namespace GraveYield.Sdk

open Machine Checked

/-! ## What the SDK reads from -/

/-- `AccountInfo` of web3, the fields that are read. -/
structure AccountInfo where
  owner : Pubkey
  data : List Byte
  deriving DecidableEq

/-- An account with its address, as `getProgramAccounts` lists it. -/
structure ProgramAccount where
  pubkey : Pubkey
  account : AccountInfo
  deriving DecidableEq

/-- The node, over one state of the chain. -/
structure Connection where
  getAccountInfo : Pubkey → Option AccountInfo
  /-- The token-program accounts of 165 bytes that start with the given mint. -/
  getProgramAccounts : Pubkey → List ProgramAccount
  getSlot : Option ℕ

/-- A token account, the fields that are read. -/
structure SplAccount where
  mint : Pubkey
  owner : Pubkey
  amount : U64
  deriving DecidableEq

/-- The size of a token account. -/
def accountSize : ℕ := 165

/-- The size of a mint. -/
def mintSize : ℕ := 82

/-- The legacy layout of a token account. -/
def legacyAccount (data : List Byte) (h : data.length = accountSize) : SplAccount where
  mint := ⟨slice data 0 32, length_slice (by rw [h]; decide)⟩
  owner := ⟨slice data 32 32, length_slice (by rw [h]; decide)⟩
  amount := leWordAt 8 data 64

/-- The decoders of the spl-token package. None is a throw. On accounts of the token program in
the legacy sizes they read the legacy layout. -/
structure SplToken where
  unpackAccount : Pubkey → AccountInfo → Option SplAccount
  unpackMint : Pubkey → AccountInfo → Option U64
  unpackAccount_legacy : ∀ address info, info.owner = tokenProgramId →
    ∀ h : info.data.length = accountSize,
      unpackAccount address info = some (legacyAccount info.data h)
  unpackMint_legacy : ∀ address info, info.owner = tokenProgramId →
    info.data.length = mintSize → unpackMint address info = some (leWordAt 8 info.data 36)

/-- What the readers throw. -/
inductive ReadError where
  | notFound (address : Pubkey)
  | notOwnedBy (address owner program : Pubkey)
  | notAmmInfo (length : ℕ)
  | unpack (address : Pubkey)
  | unsupportedBaseToken (pool coin pc : Pubkey)
  deriving DecidableEq

/-! ## The pool -/

/-- The size of an `AmmInfo`. -/
def RAYDIUM_V4_AMM_INFO_SIZE : ℕ := 752

namespace Off

/-- Where the coin vault stands in an `AmmInfo`. -/
def COIN_VAULT : ℕ := 336

/-- Where the pc vault stands. -/
def PC_VAULT : ℕ := 368

/-- Where the coin mint stands. -/
def COIN_VAULT_MINT : ℕ := 400

/-- Where the pc mint stands. -/
def PC_VAULT_MINT : ℕ := 432

/-- Where the LP mint stands. -/
def LP_MINT : ℕ := 464

end Off

/-- `V4PoolAccount`. -/
structure V4PoolAccount where
  poolAddress : Pubkey
  coinVault : Pubkey
  pcVault : Pubkey
  baseMint : Pubkey
  quoteMint : Pubkey
  lpMint : Pubkey
  deriving DecidableEq

/-- `parseV4AmmInfo`. -/
def parseV4AmmInfo (poolAddress : Pubkey) (data : List Byte) : Except ReadError V4PoolAccount :=
  if h : data.length = RAYDIUM_V4_AMM_INFO_SIZE then
    .ok {
      poolAddress
      coinVault := ⟨slice data Off.COIN_VAULT 32, length_slice (by rw [h]; decide)⟩
      pcVault := ⟨slice data Off.PC_VAULT 32, length_slice (by rw [h]; decide)⟩
      baseMint := ⟨slice data Off.COIN_VAULT_MINT 32, length_slice (by rw [h]; decide)⟩
      quoteMint := ⟨slice data Off.PC_VAULT_MINT 32, length_slice (by rw [h]; decide)⟩
      lpMint := ⟨slice data Off.LP_MINT 32, length_slice (by rw [h]; decide)⟩ }
  else .error (.notAmmInfo data.length)

/-- The account at an address, owned by `program`. -/
def fetchOwned (conn : Connection) (program address : Pubkey) : Except ReadError AccountInfo := do
  let info ← okOr (conn.getAccountInfo address) (.notFound address)
  require (info.owner = program) (.notOwnedBy address info.owner program)
  return info

/-- `fetchV4Pool`. -/
def fetchV4Pool (conn : Connection) (poolAddress : Pubkey) : Except ReadError V4PoolAccount := do
  let info ← fetchOwned conn raydiumV4ProgramId poolAddress
  parseV4AmmInfo poolAddress info.data

/-- `readVaultReserve`. -/
def readVaultReserve (spl : SplToken) (conn : Connection) (vault : Pubkey) :
    Except ReadError U64 := do
  let info ← fetchOwned conn tokenProgramId vault
  let acct ← okOr (spl.unpackAccount vault info) (.unpack vault)
  return acct.amount

/-- `readLpMintSupply`. -/
def readLpMintSupply (spl : SplToken) (conn : Connection) (lpMint : Pubkey) :
    Except ReadError U64 := do
  let info ← fetchOwned conn tokenProgramId lpMint
  okOr (spl.unpackMint lpMint info) (.unpack lpMint)

/-- Quote per base in Q64.64, over the unbounded integers. -/
def quotePerBaseQ64x64 (baseReserve quoteReserve : ℤ) : ℤ :=
  if baseReserve ≤ 0 then 0 else quoteReserve * 2 ^ 64 / baseReserve

/-! ## What they read -/

variable {conn : Connection} {spl : SplToken}

/-- An account of the program is fetched. -/
theorem fetchOwned_eq {program address : Pubkey} {info : AccountInfo}
    (hinfo : conn.getAccountInfo address = some info) (howner : info.owner = program) :
    fetchOwned conn program address = .ok info := by
  rw [fetchOwned, hinfo, okOr_some, ok_bind, require_of howner]
  rfl

/-- A pool of Raydium is parsed. -/
theorem fetchV4Pool_eq {poolAddress : Pubkey} {info : AccountInfo}
    (hinfo : conn.getAccountInfo poolAddress = some info)
    (howner : info.owner = raydiumV4ProgramId) :
    fetchV4Pool conn poolAddress = parseV4AmmInfo poolAddress info.data := by
  rw [fetchV4Pool, fetchOwned_eq hinfo howner]
  rfl

/-- The reserve of a vault is its amount. -/
theorem readVaultReserve_eq {vault : Pubkey} {info : AccountInfo}
    (hinfo : conn.getAccountInfo vault = some info) (howner : info.owner = tokenProgramId)
    (hsize : info.data.length = accountSize) :
    readVaultReserve spl conn vault = .ok (leWordAt 8 info.data 64) := by
  rw [readVaultReserve, fetchOwned_eq hinfo howner, ok_bind,
    spl.unpackAccount_legacy vault info howner hsize]
  rfl

/-- The supply of a mint is read from its data. -/
theorem readLpMintSupply_eq {lpMint : Pubkey} {info : AccountInfo}
    (hinfo : conn.getAccountInfo lpMint = some info) (howner : info.owner = tokenProgramId)
    (hsize : info.data.length = mintSize) :
    readLpMintSupply spl conn lpMint = .ok (leWordAt 8 info.data 36) := by
  rw [readLpMintSupply, fetchOwned_eq hinfo howner, ok_bind,
    spl.unpackMint_legacy lpMint info howner hsize]
  rfl

/-- The decoders on the legacy layouts, and nothing else. -/
def legacySplToken : SplToken where
  unpackAccount _ info :=
    if info.owner = tokenProgramId then
      if h : info.data.length = accountSize then some (legacyAccount info.data h) else none
    else none
  unpackMint _ info :=
    if info.owner = tokenProgramId ∧ info.data.length = mintSize then
      some (leWordAt 8 info.data 36)
    else none
  unpackAccount_legacy _ _ howner hsize := by rw [if_pos howner, dif_pos hsize]
  unpackMint_legacy _ _ howner hsize := if_pos ⟨howner, hsize⟩

end GraveYield.Sdk
