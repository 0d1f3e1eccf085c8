import GraveYield.Salvage

/-!
# When a settlement goes through

The last stage of a salvage depends on little : the vault's WSOL account can be closed, its amount
is positive, the shares of the configuration make up the whole, and the transient account holds
no data. `Settleable` says so, a successful settlement met it (`settleable_of_settle`), and every
ledger that meets it is settled (`exists_settle`). No rounding of the split and none of the three
payments can fail.
-/

namespace GraveYield.Vault

open Machine Checked

variable {l l' : Ledger} {cfg : ProtocolConfig} {pool salvor : Pubkey}

/-! ## The split -/

/-- A share of at most the whole, rounded down. -/
theorem bpsShare_ok (total : U64) {bps : U16} (h : bps.val ≤ 10000) :
    ∃ share, bpsShare total bps = .ok share ∧ share.val = total.val * bps.val / 10000 := by
  have hlt : total.val * bps.val < 2 ^ 128 := by
    have := Nat.mul_lt_mul'' total.isLt bps.isLt
    omega
  have hle : total.val * bps.val / 10000 ≤ total.val := by
    refine Nat.div_le_of_le_mul ?_
    rw [mul_comm]
    exact Nat.mul_le_mul_right _ h
  let product : U128 := ⟨total.val * bps.val, hlt⟩
  let share : U128 := ⟨total.val * bps.val / 10000, (Nat.div_le_self _ _).trans_lt hlt⟩
  refine ⟨share.truncate 64, ?_, Word.truncate_val _ (hle.trans_lt total.isLt)⟩
  simp only [bpsShare, bind_ok_iff, okOr_ok_iff, Word.checkedMul_eq_some, Word.checkedDiv_eq_some,
    Word.widen_val, pure_ok_iff]
  exact ⟨product, rfl, share, ⟨by decide, rfl⟩, rfl⟩

/-- The three shares are the total. -/
theorem splitProceeds_exhausts {total salvor lpHolder protocol : U64} {salvorBps lpHolderBps : U16}
    (h : splitProceeds total salvorBps lpHolderBps = .ok (salvor, lpHolder, protocol)) :
    salvor.val + lpHolder.val + protocol.val = total.val := by
  simp only [splitProceeds, bind_ok_iff, okOr_ok_iff, Word.checkedSub_eq_some, pure_ok_iff,
    Prod.mk.injEq] at h
  obtain ⟨s, _, lp, _, rest, hrest, p, hp, rfl, rfl, rfl⟩ := h
  omega

/-- The split of any amount succeeds and loses nothing. -/
theorem splitProceeds_ok (total : U64) {salvorBps lpBps : U16}
    (h : salvorBps.val + lpBps.val ≤ 10000) : ∃ salvor lp protocol,
      splitProceeds total salvorBps lpBps = .ok (salvor, lp, protocol) ∧
        salvor.val + lp.val + protocol.val = total.val := by
  obtain ⟨salvor, hsalvor, hsv⟩ := bpsShare_ok total (show salvorBps.val ≤ 10000 by omega)
  obtain ⟨lp, hlp, hlv⟩ := bpsShare_ok total (show lpBps.val ≤ 10000 by omega)
  have hle : salvor.val + lp.val ≤ total.val := by
    rw [hsv, hlv]
    calc total.val * salvorBps.val / 10000 + total.val * lpBps.val / 10000
        ≤ (total.val * salvorBps.val + total.val * lpBps.val) / 10000 :=
          Nat.div_add_div_le_add_div ..
      _ = total.val * (salvorBps.val + lpBps.val) / 10000 := by rw [Nat.mul_add]
      _ ≤ total.val * 10000 / 10000 := Nat.div_le_div_right (Nat.mul_le_mul_left _ h)
      _ = total.val := Nat.mul_div_cancel _ (by decide)
  have hbound := total.isLt
  refine ⟨salvor, lp, ⟨total.val - salvor.val - lp.val, by omega⟩, ?_, by simp only; omega⟩
  simp only [splitProceeds, bind_ok_iff, okOr_ok_iff, Word.checkedSub_eq_some, pure_ok_iff]
  exact ⟨salvor, hsalvor, lp, hlp, ⟨total.val - salvor.val, by omega⟩, by simp only; omega, _,
    by simp only; omega, rfl⟩

theorem shares_of_checkShares (h : checkShares cfg = .ok ()) :
    cfg.salvorShareBps.val + cfg.lpHolderShareBps.val ≤ 10000 := by
  simp only [checkShares, bind_ok_iff, okOr_ok_iff, Word.checkedAdd_eq_some, require_ok_iff,
    exists_const] at h
  obtain ⟨s₁, h1, s₂, h2, h3, _⟩ := h
  have : bpsDenominator.val = 10000 := rfl
  omega

/-! ## The payments -/

theorem exists_payFromSolHolding (dst : Account) (amount : U64)
    (hdata : (l (.vaultSolHolding pool)).data = .empty)
    (hle : amount.val ≤ (l (.vaultSolHolding pool)).lamports) :
    ∃ l', payFromSolHolding l pool dst amount = .ok l' := by
  simp only [payFromSolHolding, mapError_ok_iff, Ledger.pay]
  split_ifs
  · exact ⟨_, Ledger.transfer_ok_iff.2 ⟨hdata, hle, rfl⟩⟩
  · exact ⟨l, rfl⟩

/-- The three payments succeed if the transient account covers them together. -/
theorem exists_distribute (salvor : Pubkey) {s : Settlement}
    (hdata : (l (.vaultSolHolding pool)).data = .empty)
    (hle : s.salvorShare.val + s.lpHolderShare.val + s.protocolShare.val ≤
      (l (.vaultSolHolding pool)).lamports) : ∃ l', distribute l pool salvor s = .ok l' := by
  obtain ⟨l₁, h1⟩ := exists_payFromSolHolding (.key salvor) s.salvorShare hdata
    (by omega)
  have p1 := payFromSolHolding_ok h1 (by simp)
  have := p1.debited
  obtain ⟨l₂, h2⟩ := exists_payFromSolHolding (.lpHolderPoolVault pool) s.lpHolderShare
    ((p1.data _).trans hdata) (by omega)
  have p2 := payFromSolHolding_ok h2 (by simp)
  have := p2.debited
  obtain ⟨l₃, h3⟩ := exists_payFromSolHolding .protocolTreasury s.protocolShare
    ((p2.data _).trans ((p1.data _).trans hdata)) (by omega)
  exact ⟨l₃, by simp only [distribute, bind_ok_iff]; exact ⟨l₁, h1, l₂, h2, h3⟩⟩

/-- A payment that is not left out is made from an account without data. -/
theorem data_of_payFromSolHolding {dst : Account} {amount : U64}
    (h : payFromSolHolding l pool dst amount = .ok l') (hpos : 0 < amount.val) :
    (l (.vaultSolHolding pool)).data = .empty := by
  simp only [payFromSolHolding, mapError_ok_iff, Ledger.pay, hpos, if_true] at h
  exact (Ledger.transfer_ok_iff.1 h).1

theorem data_of_distribute {s : Settlement} (h : distribute l pool salvor s = .ok l')
    (hpos : 0 < s.salvorShare.val + s.lpHolderShare.val + s.protocolShare.val) :
    (l (.vaultSolHolding pool)).data = .empty := by
  simp only [distribute, bind_ok_iff] at h
  obtain ⟨l₁, h1, l₂, h2, h3⟩ := h
  have d1 := (payFromSolHolding_ok h1 (by simp)).data
  have d2 := (payFromSolHolding_ok h2 (by simp)).data
  rcases Nat.eq_zero_or_pos s.salvorShare.val with hs | hs
  · rcases Nat.eq_zero_or_pos s.lpHolderShare.val with hl | hl
    · rw [← d1, ← d2]
      exact data_of_payFromSolHolding h3 (by omega)
    · rw [← d1]
      exact data_of_payFromSolHolding h2 hl
  · exact data_of_payFromSolHolding h1 hs

/-! ## The settlement -/

/-- What a settlement needs of the configuration and the ledger. -/
structure Settleable (cfg : ProtocolConfig) (l : Ledger) (pool : Pubkey) (base : TokenAccount) :
    Prop where
  shares : checkShares cfg = .ok ()
  data : (l vaultBaseAta).data = .token base
  amount : 0 < base.amount.val
  mint : base.mint = wsolMint
  authority : base.closeAuthority.getD base.owner = .vaultAuthority
  holding : (l (.vaultSolHolding pool)).data = .empty

theorem settleable_of_settle {s : Settlement} (h : settle cfg l pool salvor = .ok (l', s)) :
    ∃ base, Settleable cfg l pool base ∧ (l' vaultBaseAta).data = .empty := by
  simp only [settle, bind_ok_iff, require_ok_iff, exists_const, Ledger.loadToken_ok_iff,
    pure_ok_iff, Prod.exists, Prod.mk.injEq] at h
  obtain ⟨base, hbase, hpos, l₁, hclose, _, hshares, a, b, c, hsplit, l₂, hdist, rfl, rfl⟩ := h
  obtain ⟨_, t, ht, hmint, hauth, rfl⟩ := Ledger.closeAccount_ok_iff.1 hclose
  obtain rfl : base = t := AccountData.token.inj (hbase.symm.trans ht)
  have hsum := splitProceeds_exhausts hsplit
  have hdata := data_of_distribute hdist (by simp only; omega)
  refine ⟨base, ⟨hshares, hbase, hpos, hmint.resolve_right hpos.ne', hauth, ?_⟩, ?_⟩
  · simpa [vaultBaseAta] using hdata
  · simp only [distribute, bind_ok_iff] at hdist
    obtain ⟨l₃, h3, l₄, h4, h5⟩ := hdist
    rw [(payFromSolHolding_ok h5 (by simp)).data, (payFromSolHolding_ok h4 (by simp)).data,
      (payFromSolHolding_ok h3 (by simp)).data]
    simp

/-- What is settleable is settled. -/
theorem exists_settle (salvor : Pubkey) {base : TokenAccount} (h : Settleable cfg l pool base) :
    ∃ l' s, settle cfg l pool salvor = .ok (l', s) := by
  obtain ⟨a, b, c, hsplit, hsum⟩ := splitProceeds_ok base.amount
    (shares_of_checkShares h.shares)
  let l₁ : Ledger := Function.update (Function.update l (.vaultSolHolding pool)
    ((l (.vaultSolHolding pool)).credit (l vaultBaseAta).lamports)) vaultBaseAta (.system 0)
  have hclose : l.closeAccount vaultBaseAta (.vaultSolHolding pool) .vaultAuthority = .ok l₁ :=
    Ledger.closeAccount_ok_iff.2 ⟨by simp [vaultBaseAta], base, h.data, Or.inl h.mint, h.authority,
      rfl⟩
  have hsol : l₁ (.vaultSolHolding pool) =
      (l (.vaultSolHolding pool)).credit (l vaultBaseAta).lamports := by
    simp [l₁, vaultBaseAta]
  have hbacked : base.amount.val ≤ (l vaultBaseAta).lamports := by
    simp [AccountState.lamports, h.data, AccountData.wrapped, h.mint]
  have hempty : (l₁ (.vaultSolHolding pool)).data = .empty := by
    rw [hsol]
    exact h.holding
  obtain ⟨l₂, hdist⟩ := exists_distribute salvor (s := ⟨base.amount, a, b, c⟩) hempty
    (by rw [hsol, AccountState.credit_lamports]; simp only; omega)
  refine ⟨l₂, ⟨base.amount, a, b, c⟩, ?_⟩
  simp only [settle, bind_ok_iff, require_ok_iff, exists_const, Ledger.loadToken_ok_iff,
    pure_ok_iff, Prod.exists, Prod.mk.injEq]
  exact ⟨base, h.data, h.amount, l₁, hclose, (), h.shares, a, b, c, hsplit, l₂, hdist, rfl, rfl⟩

end GraveYield.Vault
