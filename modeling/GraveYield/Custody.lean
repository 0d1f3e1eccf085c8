import GraveYield.Lib.Supply
import GraveYield.SplToken

/-!
# The token accounts in custody

The associated token accounts of the vault's addresses are created by the associated-token
program, and nobody but the vault signs for their owners. A `Plain` instruction respects that :
it gives no authority over such an account to anybody, and fills no associated address but as
that program does. A program is `Plain` if its calls are made of such instructions.

A `Tidy` ledger has these accounts as they were created, with any amount, and covers the tokens
of a mint by its supply. `Tame` says of two ledgers that this was kept, and that no mint has
vanished; every operation of the System and token programs is tame.
-/

namespace GraveYield

open Machine Checked Supply

/-! ## Tidy ledgers -/

/-- The tokens of `mint` at an account. -/
def AccountState.holding (s : AccountState) (mint : Pubkey) : ℕ :=
  match s.data with
  | .token t => if t.mint = mint then t.amount.val else 0
  | _ => 0

/-- The supply of a mint. -/
def Ledger.supply (l : Ledger) (mint : Pubkey) : ℕ :=
  ((l (.key mint)).mint?.map fun m => m.supply.val).getD 0

namespace Ledger

/-- The associated account of `owner` is unused, or has only its amount changed since it was
created. -/
def AtaIntact (l : Ledger) (owner : Account) (mint : Pubkey) : Prop :=
  (l (.ata owner mint)).data = .empty ∨
    ∃ amount, (l (.ata owner mint)).data = .token (.fresh mint owner amount)

/-- The tokens of a mint are within its supply. -/
def Covered (l : Ledger) (mint : Pubkey) : Prop :=
  Within (fun a => (l a).holding mint) (l.supply mint)

/-- The vault's associated accounts are intact, and the tokens of every mint but wrapped SOL
are within its supply. -/
structure Tidy (l : Ledger) : Prop where
  intact : ∀ owner mint, owner.isVaultPda = true → l.AtaIntact owner mint
  covered : ∀ mint, mint ≠ wsolMint → l.Covered mint

/-- From `l` to `l'` the ledger stays tidy and no mint vanishes. -/
structure Tame (l l' : Ledger) : Prop where
  tidy : l.Tidy → l'.Tidy
  mint : ∀ k m, (l (.key k)).data = .mint m → ∃ m', (l' (.key k)).data = .mint m'

/-- Nothing happened. -/
theorem Tame.refl (l : Ledger) : Tame l l :=
  ⟨id, fun _ m h => ⟨m, h⟩⟩

/-- Two tame steps are tame. -/
theorem Tame.trans {l l' l'' : Ledger} (h : Tame l l') (h' : Tame l' l'') : Tame l l'' := by
  refine ⟨fun ht => h'.tidy (h.tidy ht), fun k m hm => ?_⟩
  obtain ⟨m', hm'⟩ := h.mint k m hm
  exact h'.mint k m' hm'

variable {l l' : Ledger} {mint : Pubkey} {a account : Account}

/-- What a token account holds of a mint. -/
theorem holding_token {s : AccountState} {t : TokenAccount} (h : s.data = .token t) :
    s.holding mint = if t.mint = mint then t.amount.val else 0 := by
  simp only [AccountState.holding, h]

/-- An account of another program holds no tokens. -/
theorem holding_of_isForeign {s : AccountState} (h : s.data.isForeign = true) :
    s.holding mint = 0 := by
  unfold AccountState.holding
  split
  · next t ht => simp [ht, AccountData.isForeign] at h
  · rfl

/-- A mint stays covered where no account holds more than before. -/
theorem Covered.of_le (h : l.Covered mint) (hs : l'.supply mint = l.supply mint)
    (hle : ∀ a, (l' a).holding mint ≤ (l a).holding mint) : l'.Covered mint := by
  rw [Covered, hs]
  exact h.mono hle

/-- Only the data of the accounts matters. -/
theorem Tame.of_data (h : ∀ a, (l' a).data = (l a).data) : Tame l l' := by
  refine ⟨fun ht => ⟨fun owner mint ho => ?_, fun mint hm => ?_⟩, fun k m hm => ⟨m, ?_⟩⟩
  · rw [AtaIntact, h]
    exact ht.intact owner mint ho
  · refine (ht.covered mint hm).of_le ?_ fun a => ?_
    · simp only [supply, AccountState.mint?, h]
    · simp only [AccountState.holding, h, le_refl]
  · rw [h, hm]

end Ledger

/-! ## Plain instructions -/

namespace TokenInstruction

open Ledger

/-- No authority over a token account of the vault's addresses is given away, none of their
associated accounts is frozen, and associated accounts are created by the associated-token
program. -/
def Plain : TokenInstruction → Prop
  | .approve _ _ owner _ | .setOwner _ _ owner | .setCloseAuthority _ _ owner =>
    owner.isVaultPda = false
  | .initializeAccount (.ata owner' mint') mint owner _ => mint = mint' ∧ owner = owner'
  | .freezeAccount (.ata owner _) _ _ => owner.isVaultPda = false
  | .other (.ata _ _) state => state.data = .empty
  | _ => True

variable {l l' : Ledger} {i : TokenInstruction} {mint : Pubkey} {owner : Account}

/-- A debit takes the amount, and keeps the mint. -/
theorem debit_amount {t t' : TokenAccount} {authority : Account} {amount : U64}
    (h : t.debit authority amount = .ok t') :
    t'.mint = t.mint ∧ t'.amount.val + amount.val = t.amount.val := by
  simp only [TokenAccount.debit, bind_ok_iff, require_ok_iff, exists_const, okOr_ok_iff,
    Word.checkedSub_eq_some] at h
  obtain ⟨_, rest, hrest, h⟩ := h
  split_ifs at h
  · simp only [bind_ok_iff, okOr_ok_iff, pure_ok_iff] at h
    obtain ⟨_, _, rfl⟩ := h
    exact ⟨rfl, (add_comm _ _).trans hrest.symm⟩
  · simp only [bind_ok_iff, require_ok_iff, exists_const, pure_ok_iff] at h
    obtain ⟨_, rfl⟩ := h
    exact ⟨rfl, (add_comm _ _).trans hrest.symm⟩

/-- A fresh account stays fresh under a debit. -/
theorem debit_fresh {authority : Account} {held amount : U64} {t' : TokenAccount}
    (h : (TokenAccount.fresh mint owner held).debit authority amount = .ok t') :
    ∃ rest, t' = .fresh mint owner rest := by
  simp only [TokenAccount.debit, TokenAccount.fresh, reduceCtorEq, if_false, bind_ok_iff,
    pure_ok_iff] at h
  obtain ⟨_, _, rest, _, _, _, rfl⟩ := h
  exact ⟨rest, rfl⟩

/-! ## The associated accounts -/

/-- A write elsewhere, or of a fresh account, keeps the associated account. -/
theorem setToken_intact {account : Account} {t t' : TokenAccount}
    (ht : (l account).data = .token t)
    (h : account = .ata owner mint → ∀ amount, t = .fresh mint owner amount →
      ∃ amount', t' = .fresh mint owner amount')
    (hi : l.AtaIntact owner mint) : (l.setToken account t').AtaIntact owner mint := by
  by_cases ha : Account.ata owner mint = account
  · subst ha
    rcases hi with hempty | ⟨amount, hdata⟩
    · cases ht.symm.trans hempty
    · obtain ⟨amount', rfl⟩ := h rfl amount (AccountData.token.inj (ht.symm.trans hdata))
      exact Or.inr ⟨amount', by simp [setToken]⟩
  · simpa [AtaIntact, setToken, ha] using hi

/-- A mint is no associated account. -/
theorem setMint_intact {k : Pubkey} {m : Mint} (hi : l.AtaIntact owner mint) :
    (l.setMint k m).AtaIntact owner mint := by
  simpa [AtaIntact, setMint] using hi

/-- An intact account stays intact. -/
theorem apply_intact (hp : i.Plain) (h : i.apply l = .ok l') (ho : owner.isVaultPda = true)
    (hi : l.AtaIntact owner mint) : l'.AtaIntact owner mint := by
  cases i with
  | transfer src dst authority amount =>
    rcases tokenTransfer_ok h with rfl | ⟨s, d, s', sum, hne, hs, hd, _, _, hdebit, _, rfl⟩
    · exact hi
    · refine setToken_intact (t := d) (by simp [setToken, hne.symm, hd]) ?_
        (setToken_intact hs ?_ hi)
      · rintro _ held rfl
        exact ⟨sum, rfl⟩
      · rintro _ held rfl
        exact debit_fresh hdebit
  | burn account k authority amount =>
    obtain ⟨t, ht, _, t', hdebit, _, _, _, _, rfl⟩ := apply_burn_ok_iff.1 h
    refine setMint_intact (setToken_intact ht ?_ hi)
    rintro _ held rfl
    exact debit_fresh hdebit
  | mintTo k dst amount =>
    obtain ⟨t, ht, _, _, _, _, _, sum, _, rfl⟩ := apply_mintTo_ok_iff.1 h
    refine setMint_intact (setToken_intact ht ?_ hi)
    rintro _ held rfl
    exact ⟨sum, rfl⟩
  | approve account delegate x amount =>
    obtain ⟨t, ht, _, rfl, rfl⟩ := ownerChange_ok_iff.1 h
    refine setToken_intact ht ?_ hi
    rintro _ held rfl
    exact absurd (ho.symm.trans hp) (by decide)
  | revoke account x =>
    obtain ⟨t, ht, _, rfl, rfl⟩ := ownerChange_ok_iff.1 h
    refine setToken_intact ht ?_ hi
    rintro _ held rfl
    exact ⟨held, rfl⟩
  | setOwner account newOwner x =>
    obtain ⟨t, ht, _, rfl, rfl⟩ := ownerChange_ok_iff.1 h
    refine setToken_intact ht ?_ hi
    rintro _ held rfl
    exact absurd (ho.symm.trans hp) (by decide)
  | setCloseAuthority account new authority =>
    obtain ⟨t, ht, _, rfl, rfl⟩ := apply_setCloseAuthority_ok_iff.1 h
    refine setToken_intact ht ?_ hi
    rintro _ held rfl
    exact absurd (ho.symm.trans hp) (by decide)
  | closeAccount account dst authority =>
    obtain ⟨_, t, ht, _, _, rfl⟩ := closeAccount_ok_iff.1 h
    by_cases ha : Account.ata owner mint = account
    · exact Or.inl (by simp [ha])
    · by_cases hd : Account.ata owner mint = dst
      · subst hd
        simpa [AtaIntact, ha] using hi
      · simpa [AtaIntact, ha, hd] using hi
  | syncNative account amount =>
    obtain ⟨t, ht, _, rfl⟩ := apply_syncNative_ok_iff.1 h
    by_cases ha : Account.ata owner mint = account
    · subst ha
      rcases hi with hempty | ⟨held, hdata⟩
      · cases ht.symm.trans hempty
      · obtain rfl := AccountData.token.inj (ht.symm.trans hdata)
        exact Or.inr ⟨amount, by simp; rfl⟩
    · simpa [AtaIntact, ha] using hi
  | initializeAccount account k x amount =>
    obtain ⟨_, _, rfl⟩ := apply_initializeAccount_ok_iff.1 h
    by_cases ha : Account.ata owner mint = account
    · subst ha
      obtain ⟨rfl, rfl⟩ := hp
      exact Or.inr ⟨amount, by simp⟩
    · simpa [AtaIntact, ha] using hi
  | freezeAccount account k x =>
    obtain ⟨t, ht, _, _, _, _, _, rfl⟩ := toggleFrozen_ok_iff.1 h
    refine setToken_intact ht ?_ hi
    rintro rfl
    exact absurd (ho.symm.trans hp) (by decide)
  | thawAccount account k x =>
    obtain ⟨t, ht, _, _, _, _, _, rfl⟩ := toggleFrozen_ok_iff.1 h
    refine setToken_intact ht ?_ hi
    rintro _ held rfl
    exact ⟨held, rfl⟩
  | setFreezeAuthority k new x =>
    obtain ⟨_, _, _, rfl⟩ := apply_setFreezeAuthority_ok_iff.1 h
    exact setMint_intact hi
  | other account state =>
    obtain ⟨_, rfl⟩ := apply_other_ok_iff.1 h
    by_cases ha : Account.ata owner mint = account
    · subst ha
      exact Or.inl (by rw [Function.update_self]; exact hp)
    · simpa [AtaIntact, ha] using hi

/-! ## The supplies -/

/-- A token account is no mint. -/
theorem mint?_token {s : AccountState} {t : TokenAccount} (h : s.data = .token t) :
    s.mint? = none := by
  simp only [AccountState.mint?, h]

/-- A write to a token account keeps the mints. -/
theorem mint?_setToken {account : Account} {t t' : TokenAccount}
    (ht : (l account).data = .token t) (a : Account) :
    (l.setToken account t' a).mint? = (l a).mint? := by
  by_cases ha : a = account
  · subst ha
    rw [mint?_token ht, mint?_token (t := t') (by simp [setToken])]
  · simp [setToken, ha]

/-- The holdings after a write to one token account. -/
theorem holding_setToken (l : Ledger) (account : Account) (t' : TokenAccount) :
    (fun a => (l.setToken account t' a).holding mint) =
      Function.update (fun a => (l a).holding mint) account
        (if t'.mint = mint then t'.amount.val else 0) := by
  funext a
  by_cases ha : a = account
  · subst ha
    rw [Function.update_self, holding_token (t := t') (by simp [setToken])]
  · simp [setToken, ha]

/-- One account is replaced by one with no more in it. -/
theorem update_covered {account : Account} {s : AccountState} (hm : s.mint? = (l account).mint?)
    (hle : s.holding mint ≤ (l account).holding mint) (hc : l.Covered mint) :
    Covered (Function.update l account s) mint := by
  refine hc.of_le ?_ fun a => ?_
  · by_cases ha : .key mint = account
    · subst ha
      rw [supply, Function.update_self, hm, supply]
    · rw [supply, Function.update_of_ne ha, supply]
  · by_cases ha : a = account
    · subst ha
      rwa [Function.update_self]
    · rw [Function.update_of_ne ha]

/-- A write that adds no tokens keeps a mint covered. -/
theorem setToken_covered {account : Account} {t t' : TokenAccount}
    (ht : (l account).data = .token t) (hm : t'.mint = t.mint)
    (hle : t'.amount.val ≤ t.amount.val) (hc : l.Covered mint) :
    (l.setToken account t').Covered mint := by
  refine update_covered ?_ ?_ hc
  · rw [mint?_token ht, mint?_token rfl]
  · rw [holding_token rfl, holding_token ht, hm]
    split_ifs
    · exact hle
    · exact le_rfl

/-- A transfer keeps a mint covered. -/
theorem transfer_covered {src dst authority : Account} {amount : U64}
    (h : l.tokenTransfer src dst authority amount = .ok l') (hc : l.Covered mint) :
    l'.Covered mint := by
  rcases tokenTransfer_ok h with rfl | ⟨s, d, s', sum, hne, hs, hd, _, hmint, hdebit, hsum, rfl⟩
  · exact hc
  · obtain ⟨hm', hamount⟩ := debit_amount hdebit
    have hd' : (l.setToken src s' dst).data = .token d := by simp [setToken, hne.symm, hd]
    have hsupply : ((l.setToken src s').setToken dst { d with amount := sum }).supply mint =
        l.supply mint := by
      rw [supply, mint?_setToken hd', mint?_setToken hs]
      rfl
    rw [Covered, hsupply, holding_setToken, holding_setToken]
    by_cases hm : d.mint = mint
    · have hsrc : (l src).holding mint = s.amount.val := by
        rw [holding_token hs, if_pos (hmint.trans hm)]
      have hdst : (l dst).holding mint = d.amount.val := by rw [holding_token hd, if_pos hm]
      have hmove := hc.move hne (n := amount.val) (by rw [hsrc]; omega)
      rw [hsrc, hdst, ← hamount, Nat.add_sub_cancel, ← hsum] at hmove
      rwa [if_pos (hm'.trans (hmint.trans hm)), if_pos hm]
    · rw [if_neg (by rwa [hm', hmint]), if_neg hm]
      refine hc.mono fun a => ?_
      by_cases hb : a = dst
      · simp [hb]
      · by_cases hb' : a = src
        · simp [hb', hne]
        · simp [hb, hb']

/-- The supply after a write to the mint. -/
theorem supply_setMint (l : Ledger) (k : Pubkey) (m : Mint) :
    (l.setMint k m).supply k = m.supply.val := by
  simp [supply, setMint, AccountState.mint?]

/-- A write to a mint adds no holdings. -/
theorem holding_setMint_le (l : Ledger) (k : Pubkey) (m : Mint) (a : Account) :
    (l.setMint k m a).holding mint ≤ (l a).holding mint := by
  by_cases ha : a = .key k
  · simp [setMint, ha, AccountState.holding]
  · simp [setMint, ha]

/-- A mint that keeps its supply still covers. -/
theorem setMint_kept_covered {k : Pubkey} {m m' : Mint} (hk : (l (.key k)).data = .mint m)
    (hs : m'.supply = m.supply) (hc : l.Covered mint) : (l.setMint k m').Covered mint := by
  refine hc.of_le ?_ (holding_setMint_le l k m')
  by_cases hmint : k = mint
  · subst hmint
    rw [supply_setMint, hs, supply, AccountState.mint?_eq_some.2 hk]
    rfl
  · simp [supply, setMint, Ne.symm hmint]

/-- A burn or an issue : one account and the supply of its mint are replaced. -/
theorem setMint_covered {account : Account} {t t' : TokenAccount} {m m' : Mint}
    (ht : (l account).data = .token t) (hm : t'.mint = t.mint)
    (hk : (l (.key t.mint)).data = .mint m)
    (h : ∀ f : Account → ℕ, f account = t.amount.val → Within f m.supply.val →
      Within (Function.update f account t'.amount.val) m'.supply.val)
    (hc : l.Covered mint) : ((l.setToken account t').setMint t.mint m').Covered mint := by
  have hle : ∀ a, (((l.setToken account t').setMint t.mint m') a).holding mint ≤
      ((l.setToken account t') a).holding mint :=
    holding_setMint_le _ _ _
  by_cases hmint : t.mint = mint
  · subst hmint
    have hsupply : l.supply t.mint = m.supply.val := by
      rw [supply, AccountState.mint?_eq_some.2 hk]
      rfl
    rw [Covered, hsupply] at hc
    have hnew := h _ (by rw [holding_token ht, if_pos rfl]) hc
    rw [Covered, supply_setMint]
    refine Within.mono ?_ hle
    rwa [holding_setToken, if_pos hm]
  · refine hc.of_le ?_ fun a => (hle a).trans ?_
    · rw [supply, setMint, Function.update_of_ne (by simpa using Ne.symm hmint),
        mint?_setToken ht, supply]
    · by_cases ha : a = account
      · subst ha
        rw [holding_token (t := t') (by simp [setToken]), if_neg (by rwa [hm])]
        exact Nat.zero_le _
      · simp [setToken, ha]

/-- The tokens of a mint stay within its supply. -/
theorem apply_covered (h : i.apply l = .ok l') (hn : mint ≠ wsolMint) (hc : l.Covered mint) :
    l'.Covered mint := by
  cases i with
  | transfer src dst authority amount => exact transfer_covered h hc
  | burn account k authority amount =>
    obtain ⟨t, ht, ⟨rfl, _⟩, t', hdebit, m, hk, issued, hissued, rfl⟩ :=
      apply_burn_ok_iff.1 h
    obtain ⟨hm, hamount⟩ := debit_amount hdebit
    refine setMint_covered ht hm hk (fun f hf hw => ?_) hc
    have htake := hw.take (n := amount.val) (a := account) (by omega)
    rwa [hf, ← hamount, Nat.add_sub_cancel, hissued, Nat.add_sub_cancel_left] at htake
  | mintTo k dst amount =>
    obtain ⟨t, ht, ⟨_, rfl, _⟩, m, hk, issued, hissued, sum, hsum, rfl⟩ :=
      apply_mintTo_ok_iff.1 h
    refine setMint_covered ht rfl hk (fun f hf hw => ?_) hc
    have hgive := hw.give dst amount.val
    rwa [hf, ← hsum, ← hissued] at hgive
  | approve | revoke | setOwner =>
    obtain ⟨t, ht, _, _, rfl⟩ := ownerChange_ok_iff.1 h
    exact setToken_covered ht rfl le_rfl hc
  | setCloseAuthority account new authority =>
    obtain ⟨t, ht, _, _, rfl⟩ := apply_setCloseAuthority_ok_iff.1 h
    exact setToken_covered ht rfl le_rfl hc
  | closeAccount account dst authority =>
    obtain ⟨hne, t, ht, _, _, rfl⟩ := closeAccount_ok_iff.1 h
    have hcredit := update_covered (s := (l dst).credit (l account).lamports) rfl le_rfl hc
    refine update_covered ?_ (Nat.zero_le _) hcredit
    rw [Function.update_of_ne hne, mint?_token ht]
    rfl
  | syncNative account amount =>
    obtain ⟨t, ht, ⟨hw, _⟩, rfl⟩ := apply_syncNative_ok_iff.1 h
    refine update_covered ?_ ?_ hc
    · rw [mint?_token ht, mint?_token rfl]
    · rw [holding_token rfl, if_neg (by simpa [hw] using hn.symm)]
      exact Nat.zero_le _
  | initializeAccount account k x amount =>
    obtain ⟨hd, ⟨hz, _⟩, rfl⟩ := apply_initializeAccount_ok_iff.1 h
    refine update_covered ?_ ?_ hc
    · rw [mint?_of_isForeign hd, mint?_token rfl]
    · rw [holding_token rfl]
      rcases hz with rfl | hz
      · rw [if_neg (by simpa [TokenAccount.fresh] using hn.symm)]
        exact Nat.zero_le _
      · simp [TokenAccount.fresh, hz]
  | freezeAccount | thawAccount =>
    obtain ⟨t, ht, _, _, _, _, _, rfl⟩ := toggleFrozen_ok_iff.1 h
    exact setToken_covered ht rfl le_rfl hc
  | setFreezeAuthority k new x =>
    obtain ⟨m, hk, _, rfl⟩ := apply_setFreezeAuthority_ok_iff.1 h
    exact setMint_kept_covered hk rfl hc
  | other account state =>
    obtain ⟨⟨hd, hs⟩, rfl⟩ := apply_other_ok_iff.1 h
    refine update_covered ?_ ?_ hc
    · rw [mint?_of_isForeign hd, mint?_of_isForeign hs]
    · rw [holding_of_isForeign hs]
      exact Nat.zero_le _

/-! ## Tame operations -/

/-- Every token instruction is allowed for some accounts. -/
theorem exists_allowed : ∀ i : TokenInstruction, ∃ metas, i.Allowed metas
  | .transfer src dst authority _ | .closeAccount src dst authority =>
    ⟨[⟨src, true, true⟩, ⟨dst, true, true⟩, ⟨authority, true, true⟩], by
      simp [Allowed, Touches, CanSign, Writable, Signs]⟩
  | .burn account mint authority _ | .freezeAccount account mint authority
  | .thawAccount account mint authority =>
    ⟨[⟨account, true, true⟩, ⟨.key mint, true, true⟩, ⟨authority, true, true⟩], by
      simp [Allowed, Touches, CanSign, Writable, Signs]⟩
  | .mintTo mint dst _ => ⟨[⟨.key mint, true, true⟩, ⟨dst, true, true⟩], by
      simp [Allowed, Touches, Writable, Signs]⟩
  | .setFreezeAuthority mint _ authority =>
    ⟨[⟨.key mint, true, true⟩, ⟨authority, true, true⟩], by
      simp [Allowed, Touches, CanSign, Writable, Signs]⟩
  | .approve account _ owner _ | .revoke account owner | .setOwner account _ owner
  | .setCloseAuthority account _ owner => ⟨[⟨account, true, true⟩, ⟨owner, true, true⟩], by
      simp [Allowed, Touches, CanSign, Writable, Signs]⟩
  | .syncNative account _ | .initializeAccount account _ _ _ | .other account _ =>
    ⟨[⟨account, true, true⟩], by simp [Allowed, Touches, Writable, Signs]⟩

/-- A mint stays a mint. -/
theorem Effect.isMint {metas : List AccountMeta} {a : Account} {s' : AccountState} {m : Mint}
    (h : Effect metas l a s') (hm : (l a).data = .mint m) : ∃ m', s'.data = .mint m' := by
  cases h with
  | same h => exact ⟨m, by rw [h, hm]⟩
  | credit _ n h => exact ⟨m, by rw [h, AccountState.credit_data, hm]⟩
  | grow _ t ht _ _ _ _ => cases hm.symm.trans ht
  | toggle _ t ht _ _ _ => cases hm.symm.trans ht
  | spend _ t ht _ _ _ _ _ => cases hm.symm.trans ht
  | mint _ _ m' _ _ h => exact ⟨m', h⟩
  | foreign _ hd _ =>
    rw [hm] at hd
    cases hd

/-- A plain instruction is tame. -/
theorem apply_tame (hp : i.Plain) (h : i.apply l = .ok l') : Tame l l' := by
  refine ⟨fun ht => ⟨fun owner mint ho => apply_intact hp h ho (ht.intact owner mint ho),
    fun mint hm => apply_covered h hm (ht.covered mint hm)⟩, fun k m hm => ?_⟩
  obtain ⟨metas, hallowed⟩ := exists_allowed i
  exact (exec_effect (exec_ok_iff.2 ⟨hallowed, h⟩) (.key k)).isMint hm

/-- A batch of plain instructions is tame. -/
theorem batch_tame {metas : List AccountMeta} {is : List TokenInstruction}
    (hp : ∀ i ∈ is, i.Plain) (h : batch (exec metas) l is = .ok l') : Tame l l' := by
  refine batch_invariant (I := fun s => Tame l s) (C := fun _ i => i.Plain) ?_ (Tame.refl l)
    (along_of_forall fun _ => hp) h
  intro s i s' hs hi hstep
  exact hs.trans (apply_tame hi (exec_ok_iff.1 hstep).2)

end TokenInstruction

open TokenInstruction

/-- A program whose calls are made of plain instructions. -/
def Program.Plain (program : Program) : Prop :=
  ∀ {metas data l l'}, program.call metas data l = some l' →
    ∃ is, (∀ i ∈ is, TokenInstruction.Plain i) ∧ batch (exec metas) l is = .ok l'

/-- A plain program uses SPL Token. -/
theorem Program.Plain.usesSplToken {program : Program} (h : program.Plain) :
    program.UsesSplToken := by
  intro metas data l l' hcall
  obtain ⟨is, _, his⟩ := h hcall
  exact ⟨is, his⟩

/-- A program that sends plain instructions only is plain. -/
theorem Program.plain_executing {is : List TokenInstruction}
    (h : ∀ i ∈ is, TokenInstruction.Plain i) : (Program.executing is).Plain := by
  intro metas data l l' hcall
  exact ⟨is, h, toOption_eq_some_iff.1 hcall⟩

namespace Ledger

variable {rt : Runtime} {l l' : Ledger}

/-- A call of a plain program is tame. -/
theorem Tame.call {program : Program} (hp : program.Plain) {metas : List AccountMeta}
    {data : List Byte} (h : program.call metas data l = some l') : Tame l l' := by
  obtain ⟨is, his, hbatch⟩ := hp h
  exact batch_tame his hbatch

/-- The creation of a record elsewhere is tame. -/
theorem Tame.initRecord {payer pda : Account} {size : ℕ}
    (h : l.initRecord rt payer pda size = .ok l') (hpda : ∀ owner mint, pda ≠ .ata owner mint) :
    Tame l l' := by
  simp only [Ledger.initRecord, bind_ok_iff, require_ok_iff, exists_const, pure_ok_iff] at h
  obtain ⟨hempty, l₁, ht, rfl⟩ := h
  have hdata := transfer_data ht
  refine (Tame.of_data hdata).trans (apply_tame (i := .other pda ⟨(l₁ pda).lamports, .record size⟩)
    ?_ ?_)
  · unfold TokenInstruction.Plain
    split
    all_goals simp_all
  · simp only [apply, bind_ok_iff, require_ok_iff, exists_const, pure_ok_iff, hdata, hempty]
    exact ⟨⟨rfl, rfl⟩, trivial⟩

/-- `init_if_needed` is tame. -/
theorem Tame.initAtaIfNeeded {payer owner : Account} {mint : Pubkey}
    (h : l.initAtaIfNeeded rt payer owner mint = .ok l') : Tame l l' := by
  unfold Ledger.initAtaIfNeeded at h
  split_ifs at h with hempty
  · simp only [createAta, bind_ok_iff, okOr_ok_iff, Word.ofNat?_eq_some, pure_ok_iff] at h
    obtain ⟨l₁, ht, amount, hamount, rfl⟩ := h
    have hdata := transfer_data ht
    refine (Tame.of_data hdata).trans
      (apply_tame (i := .initializeAccount (.ata owner mint) mint owner amount) ⟨rfl, rfl⟩ ?_)
    simp only [apply, bind_ok_iff, require_ok_iff, exists_const, pure_ok_iff, hdata, hempty]
    refine ⟨rfl, ⟨?_, ?_⟩, trivial⟩
    · by_cases hm : mint = wsolMint
      · exact Or.inl hm
      · exact Or.inr (by rw [hamount, if_neg hm])
    · rw [hamount]
      split_ifs <;> omega
  · simp only [bind_ok_iff, require_ok_iff, exists_const, pure_ok_iff] at h
    obtain ⟨_, _, _, rfl⟩ := h
    exact Tame.refl l

/-- A system account with the rent can open the associated account of a vault address. -/
theorem exists_initAtaIfNeeded {payer owner : Account} {mint : Pubkey} (hm : mint ≠ wsolMint)
    (hi : l.AtaIntact owner mint) (hd : (l payer).data = .empty)
    (hr : (rt.rentMinimumBalance TokenAccount.size).val ≤ (l payer).lamports) :
    ∃ l' amount, l.initAtaIfNeeded rt payer owner mint = .ok l' ∧
      (l' (.ata owner mint)).data = .token (.fresh mint owner amount) := by
  unfold Ledger.initAtaIfNeeded
  rcases hi with hempty | ⟨amount, hdata⟩
  · rw [if_pos hempty]
    simp only [createAta, if_neg hm, bind_ok_iff, okOr_ok_iff, transfer_ok_iff,
      Word.ofNat?_eq_some, pure_ok_iff]
    exact ⟨_, 0, ⟨_, ⟨hd, (Nat.sub_le _ _).trans hr, rfl⟩, 0, rfl, rfl⟩, by simp⟩
  · rw [if_neg (by simp [hdata])]
    simp only [bind_ok_iff, require_ok_iff, exists_const, loadToken_ok_iff, pure_ok_iff]
    exact ⟨l, amount, ⟨_, hdata, ⟨rfl, rfl⟩, rfl⟩, hdata⟩

/-- Closing a token account is tame. -/
theorem Tame.closeAccount {account dst authority : Account}
    (h : l.closeAccount account dst authority = .ok l') : Tame l l' :=
  apply_tame (i := .closeAccount account dst authority) trivial h

/-- The tokens of a mint fit in 64 bits, also those of two accounts together. -/
theorem Tidy.pair_lt (h : l.Tidy) {mint : Pubkey} (hm : mint ≠ wsolMint) {a b : Account}
    (hne : a ≠ b) : (l a).holding mint + (l b).holding mint < 2 ^ 64 := by
  have hpair := (h.covered mint hm).pair hne
  have hsupply : l.supply mint < 2 ^ 64 := by
    unfold supply
    cases (l (.key mint)).mint? with
    | none => simp
    | some m => exact m.supply.isLt
  omega

/-- The owner of an account can move all of it to another account of the mint. -/
theorem exists_tokenTransfer {src dst owner owner' : Account} {mint : Pubkey} {held kept : U64}
    (hne : src ≠ dst) (hs : (l src).data = .token (.fresh mint owner held))
    (hd : (l dst).data = .token (.fresh mint owner' kept))
    (hfit : held.val + kept.val < 2 ^ 64) :
    ∃ l', l.tokenTransfer src dst owner held = .ok l' ∧
      (l' src).data = .token (.fresh mint owner 0) := by
  have hdebit : (TokenAccount.fresh mint owner held).debit owner held =
      .ok (.fresh mint owner 0) := debit_owner (t := .fresh mint owner held) rfl rfl
  let sum : U64 := ⟨kept.val + held.val, by omega⟩
  simp only [Ledger.tokenTransfer, if_neg hne, bind_ok_iff, require_ok_iff, exists_const,
    loadToken_ok_iff, okOr_ok_iff, Word.checkedAdd_eq_some, pure_ok_iff]
  exact ⟨_, ⟨_, hs, _, hd, rfl, rfl, _, hdebit, sum, rfl, rfl⟩, by simp [hne]⟩

/-- A transfer is tame. -/
theorem Tame.tokenTransfer {src dst authority : Account} {amount : U64}
    (h : l.tokenTransfer src dst authority amount = .ok l') : Tame l l' :=
  apply_tame (i := .transfer src dst authority amount) trivial h

end Ledger

end GraveYield
