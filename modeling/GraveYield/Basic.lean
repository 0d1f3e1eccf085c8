import GraveYield.Lib.Word

/-!
# Values of the programs

The integer types of the sources, keys, digests and the addresses they compile in. Signed
64-bit values are integers; the arithmetic that can leave their range is checked where it
is used.
-/

namespace GraveYield

open Machine

/-- `u8`. -/
abbrev U8 := Word 8

/-- `u16`. -/
abbrev U16 := Word 16

/-- `u32`. -/
abbrev U32 := Word 32

/-- `u64`. -/
abbrev U64 := Word 64

/-- `u128`. -/
abbrev U128 := Word 128

/-- A 32-byte account address. -/
abbrev Pubkey := Bytes 32

/-- The equality of keys that is computed is equality. -/
instance lawfulBEqPubkey : LawfulBEq Pubkey := inferInstance

/-- The length of a key that is read off an account. -/
theorem length_key {data : List Byte} {off : ℕ} (h : off + 32 ≤ data.length) :
    (slice data off 32).length = 32 :=
  length_slice h

/-- A 32-byte digest. -/
abbrev Hash := Bytes 32

/-- The all-zero key, `Pubkey::default()`. It is also the System program's address. -/
def defaultPubkey : Pubkey :=
  Bytes.ofNat 32 0

/-- `So11111111111111111111111111111111111111112`. -/
def wsolMint : Pubkey :=
  Bytes.ofNat 32 0x069b8857feab8184fb687f634618c035dac439dc1aeb3b5598a0f00000000001

/-- `TokenkegQfeZyiNwAJbNbGKPFXCWuBvf9Ss623VQ5DA`, the SPL Token program. -/
def tokenProgramId : Pubkey :=
  Bytes.ofNat 32 0x06ddf6e1d765a193d9cbe146ceeb79ac1cb485ed5f5b37913a8cf5857eff00a9

/-- `Ed25519SigVerify111111111111111111111111111`, the ed25519 precompile. -/
def ed25519ProgramId : Pubkey :=
  Bytes.ofNat 32 0x037d46d67c93fbbe12f9428f838d40ff0570744927f48a64fcca704480000000

/-- `675kPX9MHTjS2zt1qfr1NYHuzeLXfQM9H24wFSUt1Mp8`. -/
def raydiumV4ProgramId : Pubkey :=
  Bytes.ofNat 32 0x4bd949c43602c33f207790ed16a3524ca1b9975cf121a2a90cffec7df8b68acd

/-- The key of which every byte is `b`. -/
def Pubkey.fill (b : Byte) : Pubkey :=
  ⟨List.replicate 32 b, by simp⟩

end GraveYield
