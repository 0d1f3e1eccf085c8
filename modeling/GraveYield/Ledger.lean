import GraveYield.Errors
import GraveYield.Lib.Checked
import GraveYield.Runtime

/-!
# The ledger

The accounts that the vault shares with the rest of the chain : lamports, token accounts,
mints and raw program accounts, and the operations of the System, SPL Token and
associated-token programs on them. The contents of the accounts that the vault itself owns are
in its own state; here such an account has its lamports and its size.

The lamports behind wrapped SOL are not stored : an account has a reserve, and its lamports are
the reserve and the amount of a native token account. The rule that SPL Token keeps, an amount
of wrapped SOL is covered by lamports, then holds of every state that can be written down.

`Keeps a` relates two ledgers between which account `a` was not debited and kept its data.
Every operation keeps the accounts it does not debit, create or close. A `Program` is any
program that can be called : what it does is bounded only by the rules of the runtime.
-/

namespace GraveYield

open Machine Checked

/-! ## Accounts -/

/-- An account address. The addresses that the vault, the scanner and the associated-token
program derive are named by their seeds, and distinct seeds derive distinct addresses; every
other address is a `key`. -/
inductive Account where
  | key (k : Pubkey)
  | vaultConfig
  | poolRegistry (pool : Pubkey)
  | salvageReceipt (pool : Pubkey)
  | claimRecord (pool holder : Pubkey)
  | lpHolderPoolVault (pool : Pubkey)
  | vaultSolHolding (pool : Pubkey)
  | protocolTreasury
  | vaultAuthority
  | eligibilityCert (amm pool : Pubkey)
  | ata (owner : Account) (mint : Pubkey)
  deriving DecidableEq

/-- The addresses that only the vault program can sign for. -/
def Account.isVaultPda : Account → Bool
  | .key _ | .eligibilityCert _ _ | .ata _ _ => false
  | _ => true

/-- An SPL token account. -/
structure TokenAccount where
  mint : Pubkey
  owner : Account
  amount : U64
  delegate : Option Account
  delegatedAmount : U64
  frozen : Bool
  closeAuthority : Option Account
  deriving DecidableEq

/-- An SPL mint, as far as it is read. -/
structure Mint where
  supply : U64
  freezeAuthority : Option Account
  deriving DecidableEq

/-- The size of a token account. -/
def TokenAccount.size : ℕ := 165

/-- The size of a mint. -/
def Mint.size : ℕ := 82

/-- A fresh token account. -/
def TokenAccount.fresh (mint : Pubkey) (owner : Account) (amount : U64) : TokenAccount :=
  ⟨mint, owner, amount, none, 0, false, none⟩

/-- The token account after `amount` is spent under `authority` : its delegate, within the
delegated amount, or its owner. -/
def TokenAccount.debit (t : TokenAccount) (authority : Account) (amount : U64) :
    Except ProgramError TokenAccount := do
  require (t.frozen = false) (.fault .tokenError)
  let rest ← okOr (t.amount.checkedSub amount) (.fault .tokenError)
  if t.delegate = some authority then
    let delegated ← okOr (t.delegatedAmount.checkedSub amount) (.fault .tokenError)
    return { t with
      amount := rest
      delegatedAmount := delegated
      delegate := if delegated.val = 0 then none else t.delegate }
  else
    require (t.owner = authority) (.fault .tokenError)
    return { t with amount := rest }

/-- What an account holds besides lamports. `record n` is an account of `n` bytes of the vault
or the scanner. -/
inductive AccountData where
  | empty
  | token (t : TokenAccount)
  | mint (m : Mint)
  | program (owner : Pubkey) (executable : Bool) (bytes : List Byte)
  | record (size : ℕ)
  deriving DecidableEq

/-- The size of the data. -/
def AccountData.size : AccountData → ℕ
  | .empty => 0
  | .token _ => TokenAccount.size
  | .mint _ => Mint.size
  | .program _ _ bytes => bytes.length
  | .record n => n

/-- The program that owns an account, where it is one of those the vault asks about. -/
def AccountData.owner? : AccountData → Option Pubkey
  | .empty => some defaultPubkey
  | .token _ | .mint _ => some tokenProgramId
  | .program owner _ _ => some owner
  | .record _ => none

/-- Only the data of a program can be executable. -/
def AccountData.executable : AccountData → Bool
  | .program _ executable _ => executable
  | _ => false

/-- The tag of an optional field in a token account. -/
def isOptionTag (tag : List Byte) : Prop :=
  tag = [0, 0, 0, 0] ∨ tag = [1, 0, 0, 0]

/-- A tag is compared with both values. -/
instance (tag : List Byte) : Decidable (isOptionTag tag) :=
  inferInstanceAs (Decidable (_ ∨ _))

/-- The amount that the bytes of a token account carry. Reading them does not ask which program
owns the account. -/
def unpackTokenAmount? (d : List Byte) : Option U64 :=
  if d.length = TokenAccount.size ∧ isOptionTag (slice d 72 4) ∧
      (slice d 108 1 = [1] ∨ slice d 108 1 = [2]) ∧ isOptionTag (slice d 109 4) ∧
      isOptionTag (slice d 129 4) then
    some (leWordAt 8 d 64)
  else none

/-- The amount of a token account, of this program or of another one with its layout. -/
def AccountData.tokenAmount? : AccountData → Option U64
  | .token t => some t.amount
  | .program _ _ bytes => unpackTokenAmount? bytes
  | _ => none

/-- The wrapped SOL of a token account of the native mint. -/
def AccountData.wrapped : AccountData → ℕ
  | .token t => if t.mint = wsolMint then t.amount.val else 0
  | _ => 0

/-- An account : its lamports apart from wrapped SOL, and its data. -/
structure AccountState where
  reserve : ℕ
  data : AccountData
  deriving DecidableEq

namespace AccountState

/-- The lamports of an account. -/
def lamports (s : AccountState) : ℕ :=
  s.reserve + s.data.wrapped

/-- A system account without data. -/
def system (lamports : ℕ) : AccountState :=
  ⟨lamports, .empty⟩

/-- More lamports, the same data. -/
def credit (s : AccountState) (amount : ℕ) : AccountState :=
  { s with reserve := s.reserve + amount }

/-- The token account in an account. -/
def token? (s : AccountState) : Option TokenAccount :=
  match s.data with
  | .token t => some t
  | _ => none

/-- The mint in an account. -/
def mint? (s : AccountState) : Option Mint :=
  match s.data with
  | .mint m => some m
  | _ => none

@[simp] theorem system_lamports (n : ℕ) : (system n).lamports = n := rfl
@[simp] theorem system_data (n : ℕ) : (system n).data = .empty := rfl
@[simp] theorem credit_data (s : AccountState) (n : ℕ) : (s.credit n).data = s.data := rfl

@[simp] theorem credit_lamports (s : AccountState) (n : ℕ) :
    (s.credit n).lamports = s.lamports + n := by
  simp only [lamports, credit]
  omega

/-- A state with a token account. -/
theorem token?_eq_some {s : AccountState} {t : TokenAccount} :
    s.token? = some t ↔ s.data = .token t := by
  unfold token?
  split <;> simp_all

/-- A state with a mint. -/
theorem mint?_eq_some {s : AccountState} {m : Mint} : s.mint? = some m ↔ s.data = .mint m := by
  unfold mint?
  split <;> simp_all

end AccountState

/-- Every account of the chain. -/
abbrev Ledger := Account → AccountState

/-- An account of an instruction, with its privileges. -/
structure AccountMeta where
  account : Account
  isSigner : Bool
  isWritable : Bool
  deriving DecidableEq

/-- An instruction names the account as writable. -/
def Writable (metas : List AccountMeta) (a : Account) : Prop :=
  ∃ m ∈ metas, m.account = a ∧ m.isWritable = true

/-- An instruction has the signature of the account. -/
def Signs (metas : List AccountMeta) (a : Account) : Prop :=
  ∃ m ∈ metas, m.account = a ∧ m.isSigner = true

/-- The accounts of an instruction are finitely many. -/
instance (metas : List AccountMeta) (a : Account) : Decidable (Writable metas a) :=
  inferInstanceAs (Decidable (∃ m ∈ metas, _))

/-- The accounts of an instruction are finitely many. -/
instance (metas : List AccountMeta) (a : Account) : Decidable (Signs metas a) :=
  inferInstanceAs (Decidable (∃ m ∈ metas, _))

namespace Ledger

variable {l l' l'' : Ledger} {a : Account}

/-- Between `l` and `l'` account `a` was not debited and its data did not change. -/
structure Keeps (a : Account) (l l' : Ledger) : Prop where
  lamports : (l a).lamports ≤ (l' a).lamports
  data : (l' a).data = (l a).data

/-- An unchanged ledger keeps every account. -/
theorem Keeps.refl (a : Account) (l : Ledger) : Keeps a l l :=
  ⟨le_rfl, rfl⟩

/-- What two steps keep is kept. -/
theorem Keeps.trans (h : Keeps a l l') (h' : Keeps a l' l'') : Keeps a l l'' :=
  ⟨h.lamports.trans h'.lamports, h'.data.trans h.data⟩

/-- An account that is the same is kept. -/
theorem Keeps.of_eq (h : l' a = l a) : Keeps a l l' :=
  ⟨(congrArg _ h).ge, congrArg _ h⟩

/-! ## The System program -/

/-- Debit the system account `src` and credit `dst`. -/
def move (l : Ledger) (src dst : Account) (amount : ℕ) : Ledger :=
  let l₁ : Ledger := Function.update l src (.system ((l src).lamports - amount))
  Function.update l₁ dst ((l₁ dst).credit amount)

/-- `system_program::transfer`. -/
def transfer (l : Ledger) (src dst : Account) (amount : ℕ) : Except ProgramError Ledger := do
  require ((l src).data = .empty) (.fault .constraint)
  require (amount ≤ (l src).lamports) (.fault .insufficientFunds)
  return l.move src dst amount

/-- A transfer takes an account without data that has the lamports. -/
theorem transfer_ok_iff {src dst : Account} {n : ℕ} :
    l.transfer src dst n = .ok l' ↔
      (l src).data = .empty ∧ n ≤ (l src).lamports ∧ l.move src dst n = l' := by
  simp only [transfer, bind_ok_iff, require_ok_iff, exists_const, pure_ok_iff]

/-- Other accounts are left alone. -/
theorem move_of_ne {src dst : Account} (n : ℕ) (hs : a ≠ src) (hd : a ≠ dst) :
    l.move src dst n a = l a := by
  simp [move, hs, hd]

/-- The destination of a move. -/
theorem move_dst {src dst : Account} (n : ℕ) (h : src ≠ dst) :
    l.move src dst n dst = (l dst).credit n := by
  simp [move, Function.update_of_ne h.symm]

/-- The source of a move. -/
theorem move_src {src dst : Account} (n : ℕ) (h : src ≠ dst) :
    l.move src dst n src = .system ((l src).lamports - n) := by
  simp [move, Function.update_of_ne h]

/-- A transfer keeps every account but its source. -/
theorem move_keeps {src dst : Account} (n : ℕ) (h : a ≠ src) : Keeps a l (l.move src dst n) := by
  by_cases hd : a = dst
  · subst hd
    constructor <;> simp [move_dst n h.symm]
  · exact Keeps.of_eq (move_of_ne n h hd)

/-- A transfer changes no data. -/
theorem transfer_data {src dst : Account} {n : ℕ} (h : l.transfer src dst n = .ok l')
    (a : Account) : (l' a).data = (l a).data := by
  obtain ⟨hd, _, rfl⟩ := transfer_ok_iff.1 h
  by_cases ha : a = src
  · subst ha
    by_cases hs : a = dst
    · subst hs
      simp [move, hd]
    · rw [move_src n hs, AccountState.system_data, hd]
  · exact (move_keeps n ha).data

/-- A transfer that is left out when the amount is zero. -/
def pay (l : Ledger) (src dst : Account) (amount : ℕ) : Except ProgramError Ledger :=
  if 0 < amount then l.transfer src dst amount else return l

/-- What a payment between two accounts did. -/
structure Paid (l : Ledger) (src dst : Account) (amount : ℕ) (l' : Ledger) : Prop where
  debited : (l src).lamports = (l' src).lamports + amount
  credited : (l' dst).lamports = (l dst).lamports + amount
  data : ∀ a, (l' a).data = (l a).data
  frame : ∀ a, a ≠ src → a ≠ dst → l' a = l a

/-- What a payment between two accounts did. -/
theorem pay_ok {src dst : Account} {n : ℕ} (h : l.pay src dst n = .ok l') (hne : src ≠ dst) :
    Paid l src dst n l' := by
  unfold pay at h
  split_ifs at h with hpos
  · obtain ⟨hd, hle, rfl⟩ := transfer_ok_iff.1 h
    refine ⟨?_, ?_, fun a => ?_, fun a => move_of_ne n⟩
    · rw [move_src n hne, AccountState.system_lamports]
      omega
    · rw [move_dst n hne, AccountState.credit_lamports]
    · exact transfer_data h a
  · obtain rfl := pure_ok_iff.1 h
    obtain rfl : n = 0 := by omega
    exact ⟨rfl, rfl, fun _ => rfl, fun _ _ _ => rfl⟩

/-- `lazy_init_system_pda` : create the account with the rent-exempt minimum for no data,
unless it already holds lamports. -/
def lazyInitSystemPda (rt : Runtime) (l : Ledger) (payer pda : Account) :
    Except ProgramError Ledger :=
  if 0 < (l pda).lamports then return l
  else l.transfer payer pda (rt.rentMinimumBalance 0).val

/-- `init` of a record : its address must be unused, and is topped up to the rent-exempt
minimum of its size. -/
def initRecord (rt : Runtime) (l : Ledger) (payer pda : Account) (size : ℕ) :
    Except ProgramError Ledger := do
  require ((l pda).data = .empty) (.fault .accountAlreadyInUse)
  let l₁ ← l.transfer payer pda ((rt.rentMinimumBalance size).val - (l pda).lamports)
  return Function.update l₁ pda ⟨(l₁ pda).lamports, .record size⟩

/-- A lazy initialization leaves other accounts alone. -/
theorem lazyInitSystemPda_frame {rt : Runtime} {payer pda : Account}
    (h : l.lazyInitSystemPda rt payer pda = .ok l') (hp : a ≠ payer) (ha : a ≠ pda) :
    l' a = l a := by
  unfold lazyInitSystemPda at h
  split_ifs at h
  · rw [pure_ok_iff.1 h]
  · obtain ⟨_, _, rfl⟩ := transfer_ok_iff.1 h
    exact move_of_ne _ hp ha

/-- A lazy initialization changes no data. -/
theorem lazyInitSystemPda_data {rt : Runtime} {payer pda : Account}
    (h : l.lazyInitSystemPda rt payer pda = .ok l') (a : Account) :
    (l' a).data = (l a).data := by
  unfold lazyInitSystemPda at h
  split_ifs at h
  · rw [pure_ok_iff.1 h]
  · exact transfer_data h a

/-- After the lazy initialisation the account holds what it held, or the minimum for no data if
it held nothing. -/
theorem lazyInitSystemPda_lamports {rt : Runtime} {payer pda : Account}
    (h : l.lazyInitSystemPda rt payer pda = .ok l') (hne : payer ≠ pda) :
    (l' pda).lamports = if 0 < (l pda).lamports then (l pda).lamports
      else (rt.rentMinimumBalance 0).val := by
  unfold lazyInitSystemPda at h
  split_ifs at h ⊢ with hpos
  · rw [pure_ok_iff.1 h]
  · obtain ⟨_, _, rfl⟩ := transfer_ok_iff.1 h
    rw [move_dst _ hne, AccountState.credit_lamports]
    omega

/-- A new record changes the data of no other account. -/
theorem initRecord_data {rt : Runtime} {payer pda : Account} {size : ℕ}
    (h : l.initRecord rt payer pda size = .ok l') (ha : a ≠ pda) :
    (l' a).data = (l a).data := by
  simp only [initRecord, bind_ok_iff, require_ok_iff, exists_const, pure_ok_iff] at h
  obtain ⟨_, _, ht, rfl⟩ := h
  rw [Function.update_of_ne ha, transfer_data ht]

/-- A new record leaves other accounts alone but for the payer. -/
theorem initRecord_frame {rt : Runtime} {payer pda : Account} {size : ℕ}
    (h : l.initRecord rt payer pda size = .ok l') (hp : a ≠ payer) (ha : a ≠ pda) :
    l' a = l a := by
  simp only [initRecord, bind_ok_iff, require_ok_iff, exists_const, transfer_ok_iff,
    pure_ok_iff] at h
  obtain ⟨_, _, ⟨_, _, rfl⟩, rfl⟩ := h
  rw [Function.update_of_ne ha, move_of_ne _ hp ha]

/-! ## The SPL Token and associated-token programs -/

/-- The token account at `a`. -/
def loadToken (l : Ledger) (a : Account) : Except ProgramError TokenAccount :=
  okOr (l a).token? (.fault .tokenError)

/-- A token account is loaded iff there is one. -/
theorem loadToken_ok_iff {t : TokenAccount} :
    l.loadToken a = .ok t ↔ (l a).data = .token t :=
  okOr_ok_iff.trans AccountState.token?_eq_some

/-- Create the associated token account of `owner` for `mint`. Lamports above the rent of a
native account become its amount. -/
def createAta (rt : Runtime) (l : Ledger) (payer owner : Account) (mint : Pubkey) :
    Except ProgramError Ledger := do
  let rent := (rt.rentMinimumBalance TokenAccount.size).val
  let l₁ ← l.transfer payer (.ata owner mint) (rent - (l (.ata owner mint)).lamports)
  let lamports := (l₁ (.ata owner mint)).lamports
  let amount ← okOr (Word.ofNat? 64 (if mint = wsolMint then lamports - rent else 0))
    (.fault .tokenError)
  return Function.update l₁ (.ata owner mint)
    ⟨lamports - amount.val, .token (.fresh mint owner amount)⟩

/-- `init_if_needed` of an associated token account. An existing one must have the mint and
the owner. -/
def initAtaIfNeeded (rt : Runtime) (l : Ledger) (payer owner : Account) (mint : Pubkey) :
    Except ProgramError Ledger := do
  if (l (.ata owner mint)).data = .empty then createAta rt l payer owner mint
  else
    let t ← l.loadToken (.ata owner mint)
    require (t.mint = mint ∧ t.owner = owner) (.fault .constraint)
    return l

/-- `token::transfer`. Wrapped SOL takes its lamports along. -/
def tokenTransfer (l : Ledger) (src dst authority : Account) (amount : U64) :
    Except ProgramError Ledger := do
  let s ← l.loadToken src
  let d ← l.loadToken dst
  require (d.frozen = false) (.fault .tokenError)
  require (s.mint = d.mint) (.fault .tokenError)
  let s' ← s.debit authority amount
  if src = dst then return l
  else
    let sum ← okOr (d.amount.checkedAdd amount) (.fault .tokenError)
    let l₁ : Ledger := Function.update l src { l src with data := .token s' }
    return Function.update l₁ dst { l dst with data := .token { d with amount := sum } }

/-- `token::close_account`. All lamports go to `dst`; only a native account may still hold
tokens. -/
def closeAccount (l : Ledger) (account dst authority : Account) : Except ProgramError Ledger := do
  require (account ≠ dst) (.fault .tokenError)
  let t ← l.loadToken account
  require (t.mint = wsolMint ∨ t.amount.val = 0) (.fault .tokenError)
  require (t.closeAuthority.getD t.owner = authority) (.fault .tokenError)
  let l₁ : Ledger := Function.update l dst ((l dst).credit (l account).lamports)
  return Function.update l₁ account (.system 0)

/-- A new token account leaves other accounts alone but for the payer. -/
theorem createAta_frame {rt : Runtime} {payer owner : Account} {mint : Pubkey}
    (h : createAta rt l payer owner mint = .ok l') (hp : a ≠ payer) (ha : a ≠ .ata owner mint) :
    l' a = l a := by
  simp only [createAta, bind_ok_iff, okOr_ok_iff, transfer_ok_iff, pure_ok_iff] at h
  obtain ⟨_, ⟨_, _, rfl⟩, _, _, rfl⟩ := h
  rw [Function.update_of_ne ha, move_of_ne _ hp ha]

/-- `init_if_needed` changes the data of no other account. -/
theorem initAtaIfNeeded_data {rt : Runtime} {payer owner : Account} {mint : Pubkey}
    (h : initAtaIfNeeded rt l payer owner mint = .ok l') (ha : a ≠ .ata owner mint) :
    (l' a).data = (l a).data := by
  unfold initAtaIfNeeded at h
  split_ifs at h
  · simp only [createAta, bind_ok_iff, pure_ok_iff] at h
    obtain ⟨_, ht, _, _, rfl⟩ := h
    rw [Function.update_of_ne ha, transfer_data ht]
  · simp only [bind_ok_iff, require_ok_iff, exists_const, pure_ok_iff] at h
    obtain ⟨_, _, _, rfl⟩ := h
    rfl

/-- The creation of an associated account leaves the others alone. -/
theorem initAtaIfNeeded_frame {rt : Runtime} {payer owner : Account} {mint : Pubkey}
    (h : initAtaIfNeeded rt l payer owner mint = .ok l') (hp : a ≠ payer)
    (ha : a ≠ .ata owner mint) : l' a = l a := by
  unfold initAtaIfNeeded at h
  split_ifs at h
  · exact createAta_frame h hp ha
  · simp only [bind_ok_iff, require_ok_iff, exists_const, pure_ok_iff] at h
    obtain ⟨_, _, _, rfl⟩ := h
    rfl

/-- A token transfer leaves other accounts alone. -/
theorem tokenTransfer_frame {src dst authority : Account} {amount : U64}
    (h : l.tokenTransfer src dst authority amount = .ok l') (hs : a ≠ src) (hd : a ≠ dst) :
    l' a = l a := by
  simp only [tokenTransfer, bind_ok_iff, require_ok_iff, exists_const] at h
  obtain ⟨_, _, _, _, _, _, _, _, h⟩ := h
  split_ifs at h
  · rw [pure_ok_iff.1 h]
  · simp only [bind_ok_iff, pure_ok_iff] at h
    obtain ⟨_, _, rfl⟩ := h
    simp [hs, hd]

/-- A token account is closed by its close authority, if it is wrapped SOL or empty. -/
theorem closeAccount_ok_iff {account dst authority : Account} :
    l.closeAccount account dst authority = .ok l' ↔ account ≠ dst ∧ ∃ t,
      (l account).data = .token t ∧ (t.mint = wsolMint ∨ t.amount.val = 0) ∧
      t.closeAuthority.getD t.owner = authority ∧
      Function.update (Function.update l dst ((l dst).credit (l account).lamports)) account
        (.system 0) = l' := by
  simp only [closeAccount, bind_ok_iff, require_ok_iff, exists_const, loadToken_ok_iff,
    pure_ok_iff]

end Ledger

/-! ## Called programs -/

/-- A program that an instruction calls. It may do anything the runtime lets it do with the
accounts it is handed : it changes only writable ones, and without their signature it neither
debits the addresses that only the vault signs for nor touches their data. -/
structure Program where
  call : List AccountMeta → List Byte → Ledger → Option Ledger
  frame : ∀ {metas data l l'}, call metas data l = some l' → ∀ a, ¬Writable metas a → l' a = l a
  custody : ∀ {metas data l l'}, call metas data l = some l' → ∀ a, a.isVaultPda = true →
    ¬Signs metas a → Ledger.Keeps a l l'

/-- The program that, whatever it is told, writes the given data into those of the given accounts
that it is handed as writable. -/
def Program.writing (edits : List (Account × AccountData)) : Program where
  call metas _ l := some fun a =>
    match edits.lookup a with
    | some data => if Writable metas a ∧ a.isVaultPda = false then { l a with data } else l a
    | none => l a
  frame := by
    intro metas _ l l' h a ha
    obtain rfl := Option.some.inj h
    simp only [ha, false_and, if_false]
    split <;> rfl
  custody := by
    intro metas _ l l' h a ha _
    obtain rfl := Option.some.inj h
    refine Ledger.Keeps.of_eq ?_
    simp only [ha, Bool.true_eq_false, and_false, if_false]
    split <;> rfl

end GraveYield
