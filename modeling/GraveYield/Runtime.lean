import GraveYield.Basic

/-!
# The runtime as the programs see it

The clock, the accounts handed to an instruction, and the functions of the runtime that the
programs call and that are not part of them.
-/

namespace GraveYield

open Machine

/-- The `Clock` sysvar. -/
structure Clock where
  slot : U64
  epoch : U64
  unixTimestamp : ℤ
  deriving DecidableEq

/-- An account handed to an instruction. -/
structure AccountInfo where
  key : Pubkey
  owner : Pubkey
  lamports : U64
  data : List Byte
  deriving DecidableEq

/-- Functions of the runtime : SHA-256, the derivation of program addresses from seeds, and
the rent-exempt minimum for a data length. -/
structure Runtime where
  sha256 : List Byte → Hash
  findProgramAddress : List (List Byte) → Pubkey → Pubkey
  rentMinimumBalance : ℕ → U64

end GraveYield
