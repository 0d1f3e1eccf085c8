import GraveYield.Sdk.RaydiumV4

/-!
# Transaction histories

What the SDK reads of the transactions of a pool. A `Transaction` has its ordered account list, and
web3 gives the static part of it or throws; what it loads from lookup tables comes behind. A
transaction invokes a program on a pool if one of its instructions, at the top level or an inner
one, runs the program and has the pool among its accounts.
-/

namespace GraveYield.Sdk

/-! ## Transactions -/

/-- An account of an instruction, as a key or as an index into the account list. -/
inductive AccountRef where
  | key (k : Pubkey)
  | index (i : ℕ)
  deriving DecidableEq

/-- `CompiledInstruction`. -/
structure CompiledInstruction where
  programIdIndex : ℕ
  accounts : List AccountRef
  deriving DecidableEq

/-- `TokenBalance` of web3. The amount is written in decimal there. -/
structure TokenBalance where
  accountIndex : ℕ
  amount : U64
  deriving DecidableEq

/-- What `getTransaction` returns, the fields that are read. What `meta` lacks is empty. -/
structure Transaction where
  /-- The ordered account list. -/
  keys : List Pubkey
  /-- The segments of `getAccountKeys`. None is a throw. -/
  accountKeys : Option (List Pubkey)
  loadedWritable : List Pubkey
  loadedReadonly : List Pubkey
  compiledInstructions : List CompiledInstruction
  innerInstructions : List (List CompiledInstruction)
  preTokenBalances : List TokenBalance
  postTokenBalances : List TokenBalance
  ordered : ∀ ks, accountKeys = some ks → ks ++ loadedWritable ++ loadedReadonly = keys

namespace Transaction

variable (tx : Transaction)

/-- The account list that the SDK puts together. -/
def keyList? : Option (List Pubkey) :=
  tx.accountKeys.map fun ks => ks ++ tx.loadedWritable ++ tx.loadedReadonly

theorem keyList?_eq : tx.keyList? = if tx.accountKeys.isSome then some tx.keys else none := by
  unfold keyList?
  cases h : tx.accountKeys with
  | none => rfl
  | some ks => exact congrArg some (tx.ordered ks h)

end Transaction

section Invocation

variable (keyList : List Pubkey) (ammProgramId poolAddress : Pubkey)

/-- `keyAt`, where a key stands for the first index that it has. -/
def keyOf : AccountRef → Option Pubkey
  | .index i => keyList[i]?
  | .key k => (keyList.findIdx? (· = k)).bind fun i => keyList[i]?

/-- `touchesPool`. -/
def touchesPool (ix : CompiledInstruction) : Bool :=
  keyList[ix.programIdIndex]? = some ammProgramId &&
    ix.accounts.any fun a => keyOf keyList a = some poolAddress

/-- `topLevel || inner`. -/
def invokes (tx : Transaction) : Bool :=
  tx.compiledInstructions.any (touchesPool keyList ammProgramId poolAddress) ||
    tx.innerInstructions.any fun set => set.any (touchesPool keyList ammProgramId poolAddress)

end Invocation

/-! ## What the SDK asks for -/

/-- `ConfirmedSignatureInfo` of web3, the fields that are read. No error is a success. -/
structure SignatureInfo where
  signature : String
  err : Option String
  slot : ℤ
  blockTime : Option ℤ
  deriving DecidableEq

/-- The requests for the history of an address. None is a throw. -/
structure HistoryConnection where
  /-- At most so many signatures, newest first, before a given one if there is one. -/
  getSignaturesForAddress : Pubkey → ℕ → Option String → Option (List SignatureInfo)
  getTransaction : String → Option (Option Transaction)

/-- What a request throws. -/
inductive HistoryError where
  | signatures
  | transaction (signature : String)
  | accountKeys (signature : String)
  deriving DecidableEq

end GraveYield.Sdk
