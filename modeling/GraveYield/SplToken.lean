import GraveYield.Ledger
import GraveYield.Lib.Run

/-!
# What a called program can do to token accounts

A program moves tokens only through instructions of the SPL Token program over the accounts it
was handed. `TokenInstruction` is one such instruction, or a write of another program to an
account that is neither a token account nor a mint. An address of the vault signs only where the
call carries its signature; of the others any that is handed over may. Tokens are issued without
asking the mint authority, which does not matter for what is taken, and no new mints are made.

`exec_token` says what one instruction can do to a token account : leave it, add to it, freeze or
thaw it, or else the account is writable, one of its authorities signs, and it is not frozen, or can
be thawed by a freeze authority that signs (`Exposed`). Without that, no sequence of instructions
takes anything from it (`batch_token`).
-/

namespace GraveYield

open Machine Checked

/-- Handed over, and signing if it is an address of the vault. -/
def CanSign (metas : List AccountMeta) (a : Account) : Prop :=
  (∃ m ∈ metas, m.account = a) ∧ (a.isVaultPda = true → Signs metas a)

/-- Writable, and signing if it is an address of the vault. -/
def Touches (metas : List AccountMeta) (a : Account) : Prop :=
  Writable metas a ∧ (a.isVaultPda = true → Signs metas a)

/-- Both conditions are decidable. -/
instance (metas : List AccountMeta) (a : Account) : Decidable (CanSign metas a) :=
  inferInstanceAs (Decidable (_ ∧ _))

/-- Both conditions are decidable. -/
instance (metas : List AccountMeta) (a : Account) : Decidable (Touches metas a) :=
  inferInstanceAs (Decidable (_ ∧ _))

/-- Whether an account belongs to neither a token account nor a mint. -/
def AccountData.isForeign : AccountData → Bool
  | .token _ | .mint _ => false
  | _ => true

/-- The owner, the delegate and the close authority. -/
def TokenAccount.HasAuthority (t : TokenAccount) (x : Account) : Prop :=
  x = t.owner ∨ t.delegate = some x ∨ t.closeAuthority = some x

/-! ## Instructions -/

/-- An instruction of the SPL Token program, or a write of another program. -/
inductive TokenInstruction where
  | transfer (src dst authority : Account) (amount : U64)
  | burn (account : Account) (mint : Pubkey) (authority : Account) (amount : U64)
  | mintTo (mint : Pubkey) (dst : Account) (amount : U64)
  | approve (account delegate owner : Account) (amount : U64)
  | revoke (account owner : Account)
  | setOwner (account newOwner owner : Account)
  | setCloseAuthority (account : Account) (new : Option Account) (authority : Account)
  | closeAccount (account dst authority : Account)
  | syncNative (account : Account) (amount : U64)
  | initializeAccount (account : Account) (mint : Pubkey) (owner : Account) (amount : U64)
  | freezeAccount (account : Account) (mint : Pubkey) (authority : Account)
  | thawAccount (account : Account) (mint : Pubkey) (authority : Account)
  | setFreezeAuthority (mint : Pubkey) (new : Option Account) (authority : Account)
  | other (account : Account) (state : AccountState)

namespace Ledger

/-- Replace the token account at `a`. -/
def setToken (l : Ledger) (a : Account) (t : TokenAccount) : Ledger :=
  Function.update l a { l a with data := .token t }

/-- Replace the mint. -/
def setMint (l : Ledger) (mint : Pubkey) (m : Mint) : Ledger :=
  Function.update l (.key mint) { l (.key mint) with data := .mint m }

/-- Change a token account that is not frozen, in the name of its owner. -/
def ownerChange (l : Ledger) (account owner : Account) (f : TokenAccount → TokenAccount) :
    Except ProgramError Ledger := do
  let t ← l.loadToken account
  require (t.frozen = false) (.fault .tokenError)
  require (t.owner = owner) (.fault .tokenError)
  return l.setToken account (f t)

/-- Freeze or thaw a token account, in the name of the freeze authority of its mint. Wrapped SOL
cannot be frozen. -/
def toggleFrozen (l : Ledger) (account : Account) (mint : Pubkey) (authority : Account)
    (freeze : Bool) : Except ProgramError Ledger := do
  let t ← l.loadToken account
  require (t.frozen ≠ freeze) (.fault .tokenError)
  require (t.mint = mint ∧ mint ≠ wsolMint) (.fault .tokenError)
  let m ← okOr (l (.key mint)).mint? (.fault .tokenError)
  require (m.freezeAuthority = some authority) (.fault .tokenError)
  return l.setToken account { t with frozen := freeze }

end Ledger

namespace TokenInstruction

open Ledger

/-- The privileges an instruction needs. -/
def Allowed (metas : List AccountMeta) : TokenInstruction → Prop
  | .transfer src dst authority _ =>
    Touches metas src ∧ Touches metas dst ∧ CanSign metas authority
  | .burn account mint authority _ =>
    Touches metas account ∧ Touches metas (.key mint) ∧ CanSign metas authority
  | .mintTo mint dst _ => Touches metas (.key mint) ∧ Touches metas dst
  | .approve account _ owner _ | .revoke account owner | .setOwner account _ owner =>
    Touches metas account ∧ CanSign metas owner
  | .setCloseAuthority account _ authority => Touches metas account ∧ CanSign metas authority
  | .closeAccount account dst authority =>
    Touches metas account ∧ Writable metas dst ∧ CanSign metas authority
  | .freezeAccount account mint authority | .thawAccount account mint authority =>
    Touches metas account ∧ (∃ m ∈ metas, m.account = .key mint) ∧ CanSign metas authority
  | .setFreezeAuthority mint _ authority => Touches metas (.key mint) ∧ CanSign metas authority
  | .syncNative account _ | .initializeAccount account _ _ _ | .other account _ =>
    Touches metas account

/-- Each instruction names finitely many accounts. -/
instance (metas : List AccountMeta) : (i : TokenInstruction) → Decidable (i.Allowed metas)
  | .transfer .. | .burn .. | .mintTo .. | .approve .. | .revoke .. | .setOwner ..
  | .setCloseAuthority .. | .closeAccount .. | .syncNative .. | .initializeAccount ..
  | .freezeAccount .. | .thawAccount .. | .setFreezeAuthority .. | .other .. =>
    inferInstanceAs (Decidable (_ ∧ _))

/-- The instruction itself. -/
def apply (l : Ledger) : TokenInstruction → Except ProgramError Ledger
  | .transfer src dst authority amount => l.tokenTransfer src dst authority amount
  | .burn account mint authority amount => do
    let t ← l.loadToken account
    require (t.mint = mint ∧ mint ≠ wsolMint) (.fault .tokenError)
    let t ← t.debit authority amount
    let m ← okOr (l (.key mint)).mint? (.fault .tokenError)
    let supply ← okOr (m.supply.checkedSub amount) (.fault .tokenError)
    return (l.setToken account t).setMint mint { m with supply }
  | .mintTo mint dst amount => do
    let t ← l.loadToken dst
    require (t.frozen = false ∧ t.mint = mint ∧ mint ≠ wsolMint) (.fault .tokenError)
    let m ← okOr (l (.key mint)).mint? (.fault .tokenError)
    let supply ← okOr (m.supply.checkedAdd amount) (.fault .tokenError)
    let sum ← okOr (t.amount.checkedAdd amount) (.fault .tokenError)
    return (l.setToken dst { t with amount := sum }).setMint mint { m with supply }
  | .approve account delegate owner amount =>
    l.ownerChange account owner fun t =>
      { t with delegate := some delegate, delegatedAmount := amount }
  | .revoke account owner =>
    l.ownerChange account owner fun t => { t with delegate := none, delegatedAmount := 0 }
  | .setOwner account newOwner owner =>
    l.ownerChange account owner fun t =>
      { t with
        owner := newOwner
        delegate := none
        delegatedAmount := 0
        closeAuthority := if t.mint = wsolMint then none else t.closeAuthority }
  | .setCloseAuthority account new authority => do
    let t ← l.loadToken account
    require (t.frozen = false) (.fault .tokenError)
    require (t.closeAuthority.getD t.owner = authority) (.fault .tokenError)
    return l.setToken account { t with closeAuthority := new }
  | .closeAccount account dst authority => l.closeAccount account dst authority
  | .syncNative account amount => do
    let t ← l.loadToken account
    require (t.mint = wsolMint ∧ t.amount.val ≤ amount.val ∧
      amount.val ≤ (l account).lamports) (.fault .tokenError)
    return Function.update l account
      ⟨(l account).lamports - amount.val, .token { t with amount }⟩
  | .initializeAccount account mint owner amount => do
    require ((l account).data.isForeign = true) (.fault .tokenError)
    require ((mint = wsolMint ∨ amount.val = 0) ∧ amount.val ≤ (l account).lamports)
      (.fault .tokenError)
    return Function.update l account
      ⟨(l account).lamports - amount.val, .token (.fresh mint owner amount)⟩
  | .freezeAccount account mint authority => l.toggleFrozen account mint authority true
  | .thawAccount account mint authority => l.toggleFrozen account mint authority false
  | .setFreezeAuthority mint new authority => do
    let m ← okOr (l (.key mint)).mint? (.fault .tokenError)
    require (m.freezeAuthority = some authority) (.fault .tokenError)
    return l.setMint mint { m with freezeAuthority := new }
  | .other account state => do
    require ((l account).data.isForeign = true ∧ state.data.isForeign = true) (.fault .tokenError)
    return Function.update l account state

/-- One instruction over the accounts of a call. -/
def exec (metas : List AccountMeta) (l : Ledger) (i : TokenInstruction) :
    Except ProgramError Ledger := do
  require (i.Allowed metas) (.fault .tokenError)
  i.apply l

/-- An instruction is executed iff it is allowed and its checks hold. -/
theorem exec_ok_iff {metas : List AccountMeta} {l l' : Ledger} {i : TokenInstruction} :
    i.exec metas l = .ok l' ↔ i.Allowed metas ∧ i.apply l = .ok l' :=
  require_bind_ok_iff

/-! ## What each instruction checks and writes -/

section Apply

variable {l l' : Ledger} {account authority : Account} {mint : Pubkey} {amount : U64}

/-- What a transfer between two accounts did, or it did nothing. -/
theorem tokenTransfer_ok {src dst : Account}
    (h : l.tokenTransfer src dst authority amount = .ok l') : l' = l ∨
    ∃ s d s' sum, src ≠ dst ∧ (l src).data = .token s ∧ (l dst).data = .token d ∧
      d.frozen = false ∧ s.mint = d.mint ∧ s.debit authority amount = .ok s' ∧
      sum.val = d.amount.val + amount.val ∧
      l' = (l.setToken src s').setToken dst { d with amount := sum } := by
  simp only [tokenTransfer, bind_ok_iff, require_ok_iff, exists_const, loadToken_ok_iff] at h
  obtain ⟨s, hs, d, hd, hfrozen, hmint, s', hdebit, h⟩ := h
  split_ifs at h with heq
  · exact Or.inl (pure_ok_iff.1 h).symm
  · simp only [bind_ok_iff, okOr_ok_iff, Word.checkedAdd_eq_some, pure_ok_iff] at h
    obtain ⟨sum, hsum, rfl⟩ := h
    refine Or.inr ⟨s, d, s', sum, heq, hs, hd, hfrozen, hmint, hdebit, hsum, ?_⟩
    simp only [setToken, Function.update_of_ne (Ne.symm heq)]

/-- A change that takes the owner. -/
theorem ownerChange_ok_iff {owner : Account} {f : TokenAccount → TokenAccount} :
    l.ownerChange account owner f = .ok l' ↔ ∃ t, (l account).data = .token t ∧
      t.frozen = false ∧ t.owner = owner ∧ l.setToken account (f t) = l' := by
  simp only [ownerChange, bind_ok_iff, require_ok_iff, exists_const, loadToken_ok_iff,
    pure_ok_iff]

/-- What a burn checks and writes. -/
theorem apply_burn_ok_iff : (burn account mint authority amount).apply l = .ok l' ↔
    ∃ t, (l account).data = .token t ∧ (t.mint = mint ∧ mint ≠ wsolMint) ∧
      ∃ t', t.debit authority amount = .ok t' ∧ ∃ m, (l (.key mint)).data = .mint m ∧
      ∃ supply : U64, m.supply.val = amount.val + supply.val ∧
        (l.setToken account t').setMint mint { m with supply } = l' := by
  simp only [apply, bind_ok_iff, require_ok_iff, exists_const, loadToken_ok_iff, okOr_ok_iff,
    AccountState.mint?_eq_some, Word.checkedSub_eq_some, pure_ok_iff]

/-- What a mint checks and writes. -/
theorem apply_mintTo_ok_iff : (mintTo mint account amount).apply l = .ok l' ↔
    ∃ t, (l account).data = .token t ∧ (t.frozen = false ∧ t.mint = mint ∧ mint ≠ wsolMint) ∧
      ∃ m, (l (.key mint)).data = .mint m ∧
      ∃ supply : U64, supply.val = m.supply.val + amount.val ∧
      ∃ sum : U64, sum.val = t.amount.val + amount.val ∧
        (l.setToken account { t with amount := sum }).setMint mint { m with supply } = l' := by
  simp only [apply, bind_ok_iff, require_ok_iff, exists_const, loadToken_ok_iff, okOr_ok_iff,
    AccountState.mint?_eq_some, Word.checkedAdd_eq_some, pure_ok_iff]

/-- A change of the close authority takes the close authority. -/
theorem apply_setCloseAuthority_ok_iff {new : Option Account} :
    (setCloseAuthority account new authority).apply l = .ok l' ↔
      ∃ t, (l account).data = .token t ∧ t.frozen = false ∧
        t.closeAuthority.getD t.owner = authority ∧
        l.setToken account { t with closeAuthority := new } = l' := by
  simp only [apply, bind_ok_iff, require_ok_iff, exists_const, loadToken_ok_iff, pure_ok_iff]

/-- What a synchronization of wrapped SOL checks and writes. -/
theorem apply_syncNative_ok_iff : (syncNative account amount).apply l = .ok l' ↔
    ∃ t, (l account).data = .token t ∧ (t.mint = wsolMint ∧ t.amount.val ≤ amount.val ∧
      amount.val ≤ (l account).lamports) ∧
      Function.update l account
        ⟨(l account).lamports - amount.val, .token { t with amount }⟩ = l' := by
  simp only [apply, bind_ok_iff, require_ok_iff, exists_const, loadToken_ok_iff, pure_ok_iff]

/-- What the creation of a token account checks and writes. -/
theorem apply_initializeAccount_ok_iff {owner : Account} :
    (initializeAccount account mint owner amount).apply l = .ok l' ↔
      (l account).data.isForeign = true ∧
      ((mint = wsolMint ∨ amount.val = 0) ∧ amount.val ≤ (l account).lamports) ∧
      Function.update l account
        ⟨(l account).lamports - amount.val, .token (.fresh mint owner amount)⟩ = l' := by
  simp only [apply, bind_ok_iff, require_ok_iff, exists_const, pure_ok_iff]

/-- What freezing and thawing check and write. -/
theorem toggleFrozen_ok_iff {freeze : Bool} :
    l.toggleFrozen account mint authority freeze = .ok l' ↔
      ∃ t, (l account).data = .token t ∧ t.frozen ≠ freeze ∧ (t.mint = mint ∧ mint ≠ wsolMint) ∧
        ∃ m, (l (.key mint)).data = .mint m ∧ m.freezeAuthority = some authority ∧
          l.setToken account { t with frozen := freeze } = l' := by
  simp only [toggleFrozen, bind_ok_iff, require_ok_iff, exists_const, loadToken_ok_iff, okOr_ok_iff,
    AccountState.mint?_eq_some, pure_ok_iff]

/-- A change of the freeze authority takes the freeze authority. -/
theorem apply_setFreezeAuthority_ok_iff {new : Option Account} :
    (setFreezeAuthority mint new authority).apply l = .ok l' ↔
      ∃ m, (l (.key mint)).data = .mint m ∧ m.freezeAuthority = some authority ∧
        l.setMint mint { m with freezeAuthority := new } = l' := by
  simp only [apply, bind_ok_iff, require_ok_iff, exists_const, okOr_ok_iff,
    AccountState.mint?_eq_some, pure_ok_iff]

/-- An instruction of another program replaces one of its own accounts by another. -/
theorem apply_other_ok_iff {state : AccountState} : (other account state).apply l = .ok l' ↔
    ((l account).data.isForeign = true ∧ state.data.isForeign = true) ∧
      Function.update l account state = l' := by
  simp only [apply, bind_ok_iff, require_ok_iff, exists_const, pure_ok_iff]

end Apply

/-! ## What an instruction can do to an account -/

variable {metas : List AccountMeta} {l l' : Ledger} {a : Account} {s s' : AccountState}

/-- The freeze authority of the mint signs. -/
def Thawable (metas : List AccountMeta) (l : Ledger) (t : TokenAccount) : Prop :=
  ∃ m x, (l (.key t.mint)).data = .mint m ∧ m.freezeAuthority = some x ∧ CanSign metas x

/-- All that an instruction can do to the account `a`. -/
inductive Effect (metas : List AccountMeta) (l : Ledger) (a : Account) (s' : AccountState) :
    Prop where
  | same (h : s' = l a)
  | credit (hw : Writable metas a) (n : ℕ) (h : s' = (l a).credit n)
  | grow (hw : Touches metas a) (t : TokenAccount) (ht : (l a).data = .token t)
      (hf : t.frozen = false ∨ t.mint = wsolMint) (amount : U64) (hle : t.amount.val ≤ amount.val)
      (h : s'.data = .token { t with amount })
  | toggle (hw : Touches metas a) (t : TokenAccount) (ht : (l a).data = .token t)
      (hx : Thawable metas l t) (freeze : Bool) (h : s'.data = .token { t with frozen := freeze })
  | spend (hw : Touches metas a) (t : TokenAccount) (ht : (l a).data = .token t)
      (hf : t.frozen = false ∨ t.mint = wsolMint ∨ t.amount.val = 0) (x : Account)
      (hx : t.HasAuthority x) (hs : CanSign metas x) (h : s'.mint? = none)
  | mint (hw : Touches metas a) (m m' : Mint) (hm : (l a).data = .mint m)
      (hx : m'.freezeAuthority = m.freezeAuthority ∨
        ∃ x, m.freezeAuthority = some x ∧ CanSign metas x) (h : s'.data = .mint m')
  | foreign (hw : Touches metas a) (hd : (l a).data.isForeign = true) (h : s'.mint? = none)

/-- Spending needs an account that is not frozen and the signature of its owner or delegate. -/
theorem debit_ok {t t' : TokenAccount} {authority : Account} {amount : U64}
    (h : t.debit authority amount = .ok t') : t.frozen = false ∧ t.HasAuthority authority := by
  simp only [TokenAccount.debit, bind_ok_iff, require_ok_iff, exists_const] at h
  obtain ⟨hf, _, _, h⟩ := h
  split_ifs at h with hd
  · exact ⟨hf, Or.inr (Or.inl hd)⟩
  · simp only [bind_ok_iff, require_ok_iff, exists_const] at h
    exact ⟨hf, Or.inl h.1.symm⟩

/-- A write to one token account is the only effect. -/
theorem setToken_effect {account : Account} {t' : TokenAccount}
    (h : Effect metas l account { l account with data := .token t' }) (a : Account) :
    Effect metas l a (l.setToken account t' a) := by
  by_cases ha : a = account
  · subst ha
    simpa [setToken] using h
  · exact .same (by simp [setToken, ha])

/-- A change of the mint, after what the instruction did to token accounts. -/
theorem setMint_effect {mint : Pubkey} {m m' : Mint} (hw : Touches metas (.key mint))
    (hm : (l (.key mint)).data = .mint m)
    (hx : m'.freezeAuthority = m.freezeAuthority ∨
      ∃ x, m.freezeAuthority = some x ∧ CanSign metas x) (h : Effect metas l a (l' a)) :
    Effect metas l a (l'.setMint mint m' a) := by
  by_cases ha : a = .key mint
  · subst ha
    exact .mint hw m m' hm hx (by simp [setMint])
  · rw [setMint, Function.update_of_ne ha]
    exact h

/-- The effect of a change that takes the owner. -/
theorem ownerChange_effect {account owner : Account} {f : TokenAccount → TokenAccount}
    (hp : Touches metas account ∧ CanSign metas owner)
    (h : l.ownerChange account owner f = .ok l') (a : Account) : Effect metas l a (l' a) := by
  obtain ⟨t, ht, hf, rfl, rfl⟩ := ownerChange_ok_iff.1 h
  exact setToken_effect (.spend hp.1 t ht (Or.inl hf) _ (Or.inl rfl) hp.2 rfl) a

/-- The effect of freezing or thawing. -/
theorem toggleFrozen_effect {account authority : Account} {mint : Pubkey} {freeze : Bool}
    (hw : Touches metas account) (hs : CanSign metas authority)
    (h : l.toggleFrozen account mint authority freeze = .ok l') (a : Account) :
    Effect metas l a (l' a) := by
  obtain ⟨t, ht, _, ⟨rfl, _⟩, m, hm, hx, rfl⟩ := toggleFrozen_ok_iff.1 h
  exact setToken_effect (.toggle hw t ht ⟨m, authority, hm, hx, hs⟩ freeze rfl) a

/-- Whoever may close an account has authority over it. -/
theorem closeAuthority_hasAuthority (t : TokenAccount) :
    t.HasAuthority (t.closeAuthority.getD t.owner) := by
  cases h : t.closeAuthority with
  | none => exact Or.inl rfl
  | some x => exact Or.inr (Or.inr h)

theorem mint?_of_isForeign (h : s.data.isForeign = true) : s.mint? = none := by
  unfold AccountState.mint?
  split
  · next hd => simp [hd, AccountData.isForeign] at h
  · rfl

/-- One account under one instruction. -/
theorem exec_effect {i : TokenInstruction} (h : i.exec metas l = .ok l') (a : Account) :
    Effect metas l a (l' a) := by
  obtain ⟨hp, h⟩ := exec_ok_iff.1 h
  cases i with
  | transfer src dst authority amount =>
    obtain ⟨hsrc, hdst, hs⟩ := hp
    rcases tokenTransfer_ok h with
      rfl | ⟨t, d, t', sum, _, ht, hd, hf, _, hdebit, hsum, rfl⟩
    · exact .same rfl
    · obtain ⟨hft, hx⟩ := debit_ok hdebit
      by_cases had : a = dst
      · subst had
        exact .grow hdst d hd (Or.inl hf) sum (by omega) (by simp [setToken])
      · rw [setToken, Function.update_of_ne had]
        exact setToken_effect (.spend hsrc t ht (Or.inl hft) authority hx hs rfl) a
  | burn account mint authority amount =>
    obtain ⟨hw, hm, hs⟩ := hp
    obtain ⟨t, ht, _, t', hdebit, m, hmint, supply, _, rfl⟩ := apply_burn_ok_iff.1 h
    obtain ⟨hft, hx⟩ := debit_ok hdebit
    exact setMint_effect hm hmint (Or.inl rfl)
      (setToken_effect (.spend hw t ht (Or.inl hft) authority hx hs rfl) a)
  | mintTo mint dst amount =>
    obtain ⟨hm, hw⟩ := hp
    obtain ⟨t, ht, ⟨hf, _, _⟩, m, hmint, supply, _, sum, hsum, rfl⟩ := apply_mintTo_ok_iff.1 h
    exact setMint_effect hm hmint (Or.inl rfl)
      (setToken_effect (.grow hw t ht (Or.inl hf) sum (by omega) rfl) a)
  | approve account delegate owner amount => exact ownerChange_effect hp h a
  | revoke account owner => exact ownerChange_effect hp h a
  | setOwner account newOwner owner => exact ownerChange_effect hp h a
  | setCloseAuthority account new authority =>
    obtain ⟨t, ht, hf, rfl, rfl⟩ := apply_setCloseAuthority_ok_iff.1 h
    exact setToken_effect (.spend hp.1 t ht (Or.inl hf) _ (closeAuthority_hasAuthority t)
      hp.2 rfl) a
  | closeAccount account dst authority =>
    obtain ⟨hw, hdst, hs⟩ := hp
    obtain ⟨_, t, ht, hempty, rfl, rfl⟩ := closeAccount_ok_iff.1 h
    by_cases ha : a = account
    · subst ha
      exact .spend hw t ht (Or.inr hempty) _ (closeAuthority_hasAuthority t) hs (by simp; rfl)
    · by_cases had : a = dst
      · subst had
        exact .credit hdst (l account).lamports (by simp [ha])
      · exact .same (by simp [ha, had])
  | syncNative account amount =>
    obtain ⟨t, ht, ⟨hn, hle, _⟩, rfl⟩ := apply_syncNative_ok_iff.1 h
    by_cases ha : a = account
    · subst ha
      exact .grow hp t ht (Or.inr hn) amount hle (by simp)
    · exact .same (by simp [ha])
  | initializeAccount account mint owner amount =>
    obtain ⟨hd, _, rfl⟩ := apply_initializeAccount_ok_iff.1 h
    by_cases ha : a = account
    · subst ha
      exact .foreign hp hd (by simp [AccountState.mint?])
    · exact .same (by simp [ha])
  | freezeAccount account mint authority => exact toggleFrozen_effect hp.1 hp.2.2 h a
  | thawAccount account mint authority => exact toggleFrozen_effect hp.1 hp.2.2 h a
  | setFreezeAuthority mint new authority =>
    obtain ⟨m, hm, hx, rfl⟩ := apply_setFreezeAuthority_ok_iff.1 h
    exact setMint_effect hp.1 hm (Or.inr ⟨authority, hx, hp.2⟩) (.same rfl)
  | other account state =>
    obtain ⟨⟨hd, hstate⟩, rfl⟩ := apply_other_ok_iff.1 h
    by_cases ha : a = account
    · subst ha
      exact .foreign hp hd (by rw [Function.update_self]; exact mint?_of_isForeign hstate)
    · exact .same (by simp [ha])

/-! ## What instructions leave in a token account -/

/-- The same token account with no less in it, which may have been frozen or thawed. -/
def Grows (t t' : TokenAccount) : Prop :=
  t.amount.val ≤ t'.amount.val ∧ t' = { t with amount := t'.amount, frozen := t'.frozen }

/-- The tokens of `a` are within reach of a call : the account is writable, one of its authorities
signs, and it is not frozen or can be thawed. A frozen account of wrapped SOL could still be
closed. -/
def Exposed (metas : List AccountMeta) (l : Ledger) (a : Account) (t : TokenAccount) : Prop :=
  Writable metas a ∧ (t.frozen = false ∨ t.mint = wsolMint ∨ Thawable metas l t) ∧
    ∃ x, t.HasAuthority x ∧ CanSign metas x

/-- A token account grows to itself. -/
theorem Grows.refl (t : TokenAccount) : Grows t t :=
  ⟨le_rfl, rfl⟩

/-- Growth composes. -/
theorem Grows.trans {t t' t'' : TokenAccount} (h : Grows t t') (h' : Grows t' t'') :
    Grows t t'' := by
  refine ⟨h.1.trans h'.1, ?_⟩
  rw [h'.2, h.2]

/-- Only a freeze authority that signs makes place for another one. -/
theorem exec_thawable {i : TokenInstruction} {t : TokenAccount} (h : i.exec metas l = .ok l')
    (ht : Thawable metas l' t) : Thawable metas l t := by
  obtain ⟨m, x, hm, hx, hs⟩ := ht
  cases exec_effect h (.key t.mint) with
  | same heq => exact ⟨m, x, heq ▸ hm, hx, hs⟩
  | credit _ n heq =>
    rw [heq, AccountState.credit_data] at hm
    exact ⟨m, x, hm, hx, hs⟩
  | grow _ _ _ _ _ _ heq => cases hm.symm.trans heq
  | toggle _ _ _ _ _ heq => cases hm.symm.trans heq
  | spend _ _ _ _ _ _ _ hnone =>
    rw [AccountState.mint?_eq_some.2 hm] at hnone
    cases hnone
  | mint _ k k' hk hkept heq =>
    obtain rfl := AccountData.mint.inj (hm.symm.trans heq)
    rcases hkept with hsame | ⟨y, hy, hys⟩
    · exact ⟨k, x, hk, hsame.symm.trans hx, hs⟩
    · exact ⟨k, y, hk, hy, hys⟩
  | foreign _ _ hnone =>
    rw [AccountState.mint?_eq_some.2 hm] at hnone
    cases hnone

/-- An account that has only grown, and is frozen unless it could be thawed, is no more within reach
than it was. -/
theorem Grows.exposed {i : TokenInstruction} {t t' : TokenAccount} (hg : Grows t t')
    (h : i.exec metas l = .ok l') (hf : t'.frozen = t.frozen ∨ Thawable metas l t)
    (ht : Exposed metas l' a t') : Exposed metas l a t := by
  obtain ⟨hw, hmovable, x, hx, hs⟩ := ht
  rw [hg.2] at hx hmovable
  refine ⟨hw, ?_, x, hx, hs⟩
  rcases hmovable with hfree | hn | hthaw
  · rcases hf with hsame | hthaw
    · exact Or.inl (hsame ▸ hfree)
    · exact Or.inr (Or.inr hthaw)
  · exact Or.inr (Or.inl hn)
  · exact Or.inr (Or.inr (exec_thawable (t := t) h hthaw))

/-- What is not within reach stays, and stays out of reach. -/
theorem exec_token {i : TokenInstruction} {t : TokenAccount} (h : i.exec metas l = .ok l')
    (ht : (l a).data = .token t) (hpos : 0 < t.amount.val) (hsafe : ¬Exposed metas l a t) :
    ∃ t', (l' a).data = .token t' ∧ Grows t t' ∧ ¬Exposed metas l' a t' := by
  suffices hgrows : ∃ t', (l' a).data = .token t' ∧ Grows t t' ∧
      (t'.frozen = t.frozen ∨ Thawable metas l t) by
    obtain ⟨t', ht', hg, hf⟩ := hgrows
    exact ⟨t', ht', hg, fun he => hsafe (hg.exposed h hf he)⟩
  cases exec_effect h a with
  | same heq => exact ⟨t, by rw [heq, ht], Grows.refl t, Or.inl rfl⟩
  | credit _ n heq =>
    exact ⟨t, by rw [heq, AccountState.credit_data, ht], Grows.refl t, Or.inl rfl⟩
  | grow _ u hu _ amount hle heq =>
    obtain rfl : t = u := AccountData.token.inj (ht.symm.trans hu)
    exact ⟨_, heq, ⟨hle, rfl⟩, Or.inl rfl⟩
  | toggle _ u hu hx freeze heq =>
    obtain rfl : t = u := AccountData.token.inj (ht.symm.trans hu)
    exact ⟨_, heq, ⟨le_rfl, rfl⟩, Or.inr hx⟩
  | spend hw u hu hf x hx hs _ =>
    obtain rfl : t = u := AccountData.token.inj (ht.symm.trans hu)
    refine absurd ⟨hw.1, ?_, x, hx, hs⟩ hsafe
    rcases hf with hf | hf | hf
    · exact Or.inl hf
    · exact Or.inr (Or.inl hf)
    · omega
  | mint _ m _ hm _ _ => cases ht.symm.trans hm
  | foreign _ hd _ =>
    rw [ht] at hd
    cases hd

/-- What is not within reach of a call stays through all of its instructions. -/
theorem batch_token {is : List TokenInstruction} {t : TokenAccount}
    (h : batch (exec metas) l is = .ok l') (ht : (l a).data = .token t) (hpos : 0 < t.amount.val)
    (hsafe : ¬Exposed metas l a t) : ∃ t', (l' a).data = .token t' ∧ Grows t t' := by
  obtain ⟨t', ht', hg, _⟩ := batch_preserves
    (I := fun l => ∃ t', (l a).data = .token t' ∧ Grows t t' ∧ ¬Exposed metas l a t') (by
      rintro s i s' ⟨u, hu, hg, hu'⟩ hstep
      obtain ⟨t', ht', hg', hsafe'⟩ := exec_token hstep hu (hpos.trans_le hg.1) hu'
      exact ⟨t', ht', hg.trans hg', hsafe'⟩) ⟨t, ht, Grows.refl t, hsafe⟩ h
  exact ⟨t', ht', hg⟩

/-- An account that is no mint does not become one. -/
theorem exec_mint {i : TokenInstruction} (h : i.exec metas l = .ok l') (hm : (l a).mint? = none) :
    (l' a).mint? = none := by
  cases exec_effect h a with
  | same heq => rw [heq, hm]
  | credit _ n heq => rw [heq]; exact hm
  | grow _ t _ _ amount _ heq => simp only [AccountState.mint?, heq]
  | toggle _ t _ _ _ heq => simp only [AccountState.mint?, heq]
  | spend _ _ _ _ _ _ _ heq => exact heq
  | mint _ m _ hd _ _ => exact absurd (AccountState.mint?_eq_some.2 hd) (by simp [hm])
  | foreign _ _ heq => exact heq

/-- No batch makes a mint out of something else. -/
theorem batch_mint {is : List TokenInstruction} (h : batch (exec metas) l is = .ok l')
    (hm : (l a).mint? = none) : (l' a).mint? = none :=
  batch_preserves (I := fun s => (s a).mint? = none) (fun _ _ _ hs hstep => exec_mint hstep hs) hm h

/-! ## What an owner that signs can take -/

/-- The owner renews its ownership, which drops every delegate, and then takes everything :
wrapped SOL is closed, other tokens are burned. -/
def taking (a : Account) (t : TokenAccount) : List TokenInstruction :=
  [.setOwner a t.owner t.owner,
    if t.mint = wsolMint then .closeAccount a (.key t.mint) t.owner
    else .burn a t.mint t.owner t.amount]

/-- The owner of an account without a delegate may spend all of it. -/
theorem debit_owner {t : TokenAccount} (hf : t.frozen = false) (hd : t.delegate = none) :
    t.debit t.owner t.amount = .ok { t with amount := 0 } := by
  simp only [TokenAccount.debit, hd, reduceCtorEq, if_false, bind_ok_iff, require_ok_iff,
    exists_const, okOr_ok_iff, Word.checkedSub_eq_some, pure_ok_iff]
  exact ⟨hf, 0, rfl, trivial, rfl⟩

/-- Nothing is left in a token account after `taking`, and nothing else has changed but its
mint. -/
theorem batch_taking {t : TokenAccount} {m : Mint} (ht : (l a).data = .token t)
    (hf : t.frozen = false) (hm : (l (.key t.mint)).data = .mint m)
    (hsupply : t.mint ≠ wsolMint → t.amount.val ≤ m.supply.val) (ha : Touches metas a)
    (hw : Touches metas (.key t.mint)) (hs : CanSign metas t.owner) :
    ∃ l', batch (exec metas) l (taking a t) = .ok l' ∧
      ((l' a).data = .empty ∨ ∃ t', (l' a).data = .token t' ∧ t'.amount.val = 0) ∧
      ∀ b, b ≠ a → b ≠ .key t.mint → l' b = l b := by
  have hne : a ≠ .key t.mint := by
    rintro rfl
    exact nomatch ht.symm.trans hm
  let t₁ : TokenAccount := { t with
    delegate := none
    delegatedAmount := 0
    closeAuthority := if t.mint = wsolMint then none else t.closeAuthority }
  have hown : (TokenInstruction.setOwner a t.owner t.owner).exec metas l =
      .ok (l.setToken a t₁) :=
    exec_ok_iff.2 ⟨⟨ha, hs⟩, ownerChange_ok_iff.2 ⟨t, ht, hf, rfl, rfl⟩⟩
  have ht₁ : (l.setToken a t₁ a).data = .token t₁ := by simp [setToken]
  have hm₁ : l.setToken a t₁ (.key t.mint) = l (.key t.mint) := by simp [setToken, hne.symm]
  simp only [taking, batch_cons_ok_iff]
  by_cases hn : t.mint = wsolMint
  · rw [if_pos hn]
    refine ⟨_, ⟨_, hown, _, exec_ok_iff.2 ⟨⟨ha, hw.1, hs⟩, closeAccount_ok_iff.2 ⟨hne, t₁, ht₁,
      Or.inl hn, by simp [t₁, hn], rfl⟩⟩, rfl⟩, Or.inl (by simp), fun b hb hbm => ?_⟩
    simp [setToken, hb, hbm]
  · rw [if_neg hn]
    have hlt := m.supply.isLt
    let supply : U64 := ⟨m.supply.val - t.amount.val, by omega⟩
    have hburn : (TokenInstruction.burn a t.mint t.owner t.amount).apply (l.setToken a t₁) =
        .ok (((l.setToken a t₁).setToken a { t₁ with amount := 0 }).setMint t.mint
          { m with supply }) := by
      refine apply_burn_ok_iff.2 ⟨t₁, ht₁, ⟨rfl, hn⟩, _, debit_owner (t := t₁) hf rfl, m,
        by rw [hm₁, hm], supply, ?_, rfl⟩
      have hle := hsupply hn
      simp only [supply]
      omega
    refine ⟨_, ⟨_, hown, _, exec_ok_iff.2 ⟨⟨ha, hw, hs⟩, hburn⟩, rfl⟩, Or.inr
      ⟨{ t₁ with amount := 0 }, by simp [setToken, setMint, hne], rfl⟩, fun b hb hbm => ?_⟩
    simp [setToken, setMint, hb, hbm]

/-- A frozen account is thawed first, in the name of the freeze authority. -/
def thawing (a : Account) (t : TokenAccount) (authority : Account) : List TokenInstruction :=
  if t.frozen = true then [.thawAccount a t.mint authority] else []

/-- A batch that thaws an account first, if that is needed and its authority signs. -/
theorem batch_thawing {t : TokenAccount} {m : Mint} {authority : Account}
    (ht : (l a).data = .token t) (hm : (l (.key t.mint)).data = .mint m)
    (hthaw : t.frozen = true → t.mint ≠ wsolMint ∧ m.freezeAuthority = some authority)
    (ha : Touches metas a) (hw : Touches metas (.key t.mint)) (hs : CanSign metas authority) :
    batch (exec metas) l (thawing a t authority) =
      .ok (l.setToken a { t with frozen := false }) := by
  unfold thawing
  split_ifs with hf
  · obtain ⟨hn, hx⟩ := hthaw hf
    obtain ⟨k, hk, hka, _⟩ := hw.1
    rw [batch_cons_ok_iff]
    refine ⟨_, exec_ok_iff.2 ⟨⟨ha, ⟨k, hk, hka⟩, hs⟩,
      toggleFrozen_ok_iff.2 ⟨t, ht, ?_, ⟨rfl, hn⟩, m, hm, hx, rfl⟩⟩, rfl⟩
    rw [hf]
    decide
  · have hsame : l.setToken a { t with frozen := false } = l := by
      have hfree : t.frozen = false := by simpa using hf
      rw [setToken, ← hfree, ← ht]
      exact Function.update_eq_self a l
    rw [hsame]
    rfl

/-- Whatever is frozen, nothing is left in a token account after it was thawed and taken. -/
theorem batch_taking_thawed {t : TokenAccount} {m : Mint} {authority : Account}
    (ht : (l a).data = .token t) (hm : (l (.key t.mint)).data = .mint m)
    (hthaw : t.frozen = true → t.mint ≠ wsolMint ∧ m.freezeAuthority = some authority)
    (hsupply : t.mint ≠ wsolMint → t.amount.val ≤ m.supply.val) (ha : Touches metas a)
    (hw : Touches metas (.key t.mint)) (hs : CanSign metas t.owner)
    (hx : CanSign metas authority) :
    ∃ l', batch (exec metas) l (thawing a t authority ++ taking a t) = .ok l' ∧
      ((l' a).data = .empty ∨ ∃ t', (l' a).data = .token t' ∧ t'.amount.val = 0) ∧
      ∀ b, b ≠ a → b ≠ .key t.mint → l' b = l b := by
  have hne : Account.key t.mint ≠ a := by
    rintro rfl
    cases hm.symm.trans ht
  obtain ⟨l', htake, hnone, hframe⟩ := batch_taking
    (l := l.setToken a { t with frozen := false }) (t := { t with frozen := false })
    (by simp [setToken]) rfl (by simpa [setToken, hne] using hm) hsupply ha hw hs
  refine ⟨l', ?_, hnone, fun b hb hbm => ?_⟩
  · rw [batch_append]
    exact bind_ok_iff.2 ⟨_, batch_thawing ht hm hthaw ha hw hx, htake⟩
  · rw [hframe b hb hbm]
    simp [setToken, hb]

/-! ## Programs -/

/-- An instruction leaves alone what it does not name as writable. -/
theorem exec_frame {i : TokenInstruction} (h : i.exec metas l = .ok l') (ha : ¬Writable metas a) :
    l' a = l a := by
  cases exec_effect h a with
  | same heq => exact heq
  | credit hw => exact absurd hw ha
  | grow hw | toggle hw | spend hw | mint hw | foreign hw => exact absurd hw.1 ha

/-- An instruction keeps an account of the vault that has not signed. -/
theorem exec_keeps {i : TokenInstruction} (h : i.exec metas l = .ok l') (ha : a.isVaultPda = true)
    (hs : ¬Signs metas a) : Keeps a l l' := by
  cases exec_effect h a with
  | same heq => exact Keeps.of_eq heq
  | credit hw n heq =>
    exact ⟨by rw [heq, AccountState.credit_lamports]; omega, by rw [heq, AccountState.credit_data]⟩
  | grow hw | toggle hw | spend hw | mint hw | foreign hw => exact absurd (hw.2 ha) hs

/-- A batch leaves alone what is not named as writable. -/
theorem batch_frame {is : List TokenInstruction} (h : batch (exec metas) l is = .ok l')
    (ha : ¬Writable metas a) : l' a = l a :=
  batch_preserves (I := fun s => s a = l a)
    (fun _ _ _ hs hstep => (exec_frame hstep ha).trans hs) rfl h

/-- A batch keeps an account of the vault that has not signed. -/
theorem batch_keeps {is : List TokenInstruction} (h : batch (exec metas) l is = .ok l')
    (ha : a.isVaultPda = true) (hs : ¬Signs metas a) : Keeps a l l' :=
  batch_preserves (I := fun s => Keeps a l s)
    (fun _ _ _ hk hstep => hk.trans (exec_keeps hstep ha hs)) (Keeps.refl a l) h

end TokenInstruction

/-! ## More accounts -/

theorem Writable.mono {metas metas' : List AccountMeta} {a : Account} (h : metas ⊆ metas')
    (ha : Writable metas a) : Writable metas' a := by
  obtain ⟨m, hm, hma⟩ := ha
  exact ⟨m, h hm, hma⟩

theorem Signs.mono {metas metas' : List AccountMeta} {a : Account} (h : metas ⊆ metas')
    (ha : Signs metas a) : Signs metas' a := by
  obtain ⟨m, hm, hma⟩ := ha
  exact ⟨m, h hm, hma⟩

theorem Touches.mono {metas metas' : List AccountMeta} {a : Account} (h : metas ⊆ metas')
    (ha : Touches metas a) : Touches metas' a :=
  ⟨ha.1.mono h, fun hpda => (ha.2 hpda).mono h⟩

theorem CanSign.mono {metas metas' : List AccountMeta} {a : Account} (h : metas ⊆ metas')
    (ha : CanSign metas a) : CanSign metas' a := by
  obtain ⟨⟨m, hm, hma⟩, hs⟩ := ha
  exact ⟨⟨m, h hm, hma⟩, fun hpda => (hs hpda).mono h⟩

namespace TokenInstruction

/-- More accounts allow no less. -/
theorem Allowed.mono {metas metas' : List AccountMeta} {i : TokenInstruction}
    (h : metas ⊆ metas') (hi : i.Allowed metas) : i.Allowed metas' := by
  cases i with
  | transfer | burn => exact ⟨hi.1.mono h, hi.2.1.mono h, hi.2.2.mono h⟩
  | closeAccount => exact ⟨hi.1.mono h, hi.2.1.mono h, hi.2.2.mono h⟩
  | freezeAccount | thawAccount =>
    obtain ⟨hw, ⟨m, hm, hma⟩, hs⟩ := hi
    exact ⟨hw.mono h, ⟨m, h hm, hma⟩, hs.mono h⟩
  | mintTo | approve | revoke | setOwner | setCloseAuthority | setFreezeAuthority =>
    exact ⟨hi.1.mono h, hi.2.mono h⟩
  | syncNative | initializeAccount | other => exact Touches.mono h hi

/-- More accounts allow the same instructions. -/
theorem batch_mono {metas metas' : List AccountMeta} {l l' : Ledger} {is : List TokenInstruction}
    (h : metas ⊆ metas') (hb : batch (exec metas) l is = .ok l') :
    batch (exec metas') l is = .ok l' := by
  induction is generalizing l with
  | nil => exact hb
  | cons i is ih =>
    obtain ⟨t, ht, hb⟩ := batch_cons_ok_iff.1 hb
    obtain ⟨hi, ht⟩ := exec_ok_iff.1 ht
    exact batch_cons_ok_iff.2 ⟨t, exec_ok_iff.2 ⟨hi.mono h, ht⟩, ih hb⟩

end TokenInstruction

open TokenInstruction

/-- A program that moves tokens only through instructions of the SPL Token program. -/
def Program.UsesSplToken (program : Program) : Prop :=
  ∀ {metas data l l'}, program.call metas data l = some l' →
    ∃ is, batch (exec metas) l is = .ok l'

/-- What `program` does with the first `n` accounts, and then the given instructions. -/
def Program.andThen (program : Program) (n : ℕ) (is : List TokenInstruction) : Program where
  call metas data l :=
    (program.call (metas.take n) data l).bind fun l' => (batch (exec metas) l' is).toOption
  frame := by
    intro metas data l l' h a ha
    obtain ⟨l₁, h1, h2⟩ := Option.bind_eq_some_iff.1 h
    rw [batch_frame (toOption_eq_some_iff.1 h2) ha]
    exact program.frame h1 a fun hw => ha (hw.mono (List.take_subset n metas))
  custody := by
    intro metas data l l' h a ha hs
    obtain ⟨l₁, h1, h2⟩ := Option.bind_eq_some_iff.1 h
    refine (program.custody h1 a ha fun hs' => hs (hs'.mono (List.take_subset n metas))).trans ?_
    exact batch_keeps (toOption_eq_some_iff.1 h2) ha hs

/-- A program that goes on with token instructions still uses SPL Token. -/
theorem Program.UsesSplToken.andThen {program : Program} (h : program.UsesSplToken) (n : ℕ)
    (is : List TokenInstruction) : (program.andThen n is).UsesSplToken := by
  intro metas data l l' hcall
  obtain ⟨l₁, h1, h2⟩ := Option.bind_eq_some_iff.1 hcall
  obtain ⟨is', h'⟩ := h h1
  refine ⟨is' ++ is, ?_⟩
  rw [batch_append]
  exact bind_ok_iff.2 ⟨l₁, batch_mono (List.take_subset n metas) h', toOption_eq_some_iff.1 h2⟩

/-- The program that executes the given instructions, whatever it is told. -/
def Program.executing (is : List TokenInstruction) : Program :=
  (Program.writing []).andThen 0 is

/-- A program that only sends token instructions uses SPL Token. -/
theorem Program.usesSplToken_executing (is : List TokenInstruction) :
    (Program.executing is).UsesSplToken := by
  refine Program.UsesSplToken.andThen ?_ 0 is
  intro metas data l l' hcall
  obtain rfl := Option.some.inj hcall
  exact ⟨[], rfl⟩

end GraveYield
