import GraveYield.Custody
import GraveYield.Route
import GraveYield.World

/-!
# The recorded dust

A receipt records as dust whatever the vault's account of its memecoin holds when the salvage
ends. The account belongs to the mint, and the receipt to the pool. `DustCovered` says that the
dust of the receipts that are not swept is in the account of their mint, and that each of them
can be swept.

It holds along a run as long as the receipts do not meet (`Separate`) : no mint is salvaged
while another receipt has dust of it that is not swept, no route reaches such dust, and no sweep
takes what another receipt has recorded. Two pools of one mint are counted twice otherwise
(`twinPools_not_covered`).
-/

namespace GraveYield.World

open Machine Checked Vault

/-! ## Dust that is not swept -/

/-- The receipt of `pool` records dust that is not swept. -/
structure Unswept (v : Vault.State) (pool : Pubkey) (r : SalvageReceipt) : Prop where
  receipt : v.receipts pool = some r
  dust : 0 < r.dustMemecoinLamports.val
  stamp : r.dustSweptAtTs = 0

/-- What a receipt counts for `mint`. -/
def dustOf (mint : Pubkey) (r : SalvageReceipt) : ℕ :=
  if r.memecoinMint = mint ∧ r.dustSweptAtTs = 0 then r.dustMemecoinLamports.val else 0

/-- The sum of the dust of `mint` over all receipts that are not swept. -/
def unsweptDust (v : Vault.State) (mint : Pubkey) : ℕ :=
  ∑ pool, ((v.receipts pool).map (dustOf mint)).getD 0

/-- Any system account that can pay for the treasury's token account can sweep the receipt. -/
def Sweepable (rt : Runtime) (w : World) (pool : Pubkey) (r : SalvageReceipt) : Prop :=
  ∀ sweeper, (w.ledger (.key sweeper)).data = .empty →
    (rt.rentMinimumBalance TokenAccount.size).val ≤ (w.ledger (.key sweeper)).lamports →
    ∃ out, sweepDust rt w.scanner.clock w.vault w.ledger pool r.memecoinMint sweeper = .ok out

/-- The dust that is not swept is in the account of its mint, and can be swept. -/
structure DustCovered (rt : Runtime) (w : World) : Prop where
  covered : ∀ mint, unsweptDust w.vault mint ≤ tokensOf (w.ledger (vaultMemecoinAta mint))
  sweepable : ∀ pool r, Unswept w.vault pool r → Sweepable rt w pool r

/-- The programs that an instruction calls leave the vault's token accounts as the token programs
do. -/
def CallsPlain : Ix → Prop
  | .vault (.salvagePool _ _ programs) => programs.raydiumV4.Plain ∧ programs.jupiterV6.Plain
  | .external program _ _ => program.Plain
  | _ => True

/-- An instruction that keeps receipts apart : a salvage finds no dust of its mint, and its route
does not reach the dust of other mints; a sweep finds no other receipt with dust of its mint, and
the clock is not at zero. -/
def Separate (w : World) : Ix → Prop
  | .vault (.salvagePool _ accounts _) => ∀ pool r, Unswept w.vault pool r →
    r.memecoinMint ≠ accounts.memecoinMint ∧
      ∀ m ∈ accounts.jupiterRemaining, m.isWritable = true →
        m.account ≠ vaultMemecoinAta r.memecoinMint
  | .vault (.sweepDust pool mint _) => w.scanner.clock.unixTimestamp ≠ 0 ∧
    ∀ q r, Unswept w.vault q r → r.memecoinMint = mint → q = pool
  | _ => True

/-- The dust that is not swept is in the account of its mint, and no two receipts share it. -/
structure Backed (w : World) : Prop where
  tidy : w.ledger.Tidy
  mint : ∀ pool r, w.vault.receipts pool = some r → r.memecoinMint ≠ wsolMint ∧
    ∃ m, (w.ledger (.key r.memecoinMint)).data = .mint m
  backed : ∀ pool r, Unswept w.vault pool r → r.dustMemecoinLamports.val ≤
    tokensOf (w.ledger (vaultMemecoinAta r.memecoinMint))
  alone : ∀ pool r pool' r', Unswept w.vault pool r → Unswept w.vault pool' r' →
    r.memecoinMint = r'.memecoinMint → pool = pool'

/-! ## What a backed state gives -/

variable {rt : Runtime} {w w' : World} {ix : Ix}

/-- What is unswept is in the account of the mint. -/
theorem unsweptDust_le (h : Backed w) (mint : Pubkey) :
    unsweptDust w.vault mint ≤ tokensOf (w.ledger (vaultMemecoinAta mint)) := by
  -- a receipt that counts is an unswept one of the mint
  have hcount : ∀ pool, ((w.vault.receipts pool).map (dustOf mint)).getD 0 ≠ 0 →
      ∃ r, Unswept w.vault pool r ∧ r.memecoinMint = mint ∧
        ((w.vault.receipts pool).map (dustOf mint)).getD 0 = r.dustMemecoinLamports.val := by
    intro pool hpos
    cases hr : w.vault.receipts pool with
    | none => simp [hr] at hpos
    | some r =>
      simp only [hr, Option.map_some, Option.getD_some, dustOf] at hpos ⊢
      split_ifs at hpos ⊢ with hc
      · exact ⟨r, ⟨hr, Nat.pos_of_ne_zero hpos, hc.2⟩, hc.1, rfl⟩
      · exact absurd rfl hpos
  by_cases hnone : ∀ pool, ((w.vault.receipts pool).map (dustOf mint)).getD 0 = 0
  · rw [unsweptDust, Finset.sum_eq_zero fun pool _ => hnone pool]
    exact Nat.zero_le _
  · obtain ⟨pool, hpool⟩ := not_forall.1 hnone
    obtain ⟨r, hr, rfl, hdust⟩ := hcount pool hpool
    rw [unsweptDust, Finset.sum_eq_single pool, hdust]
    · exact h.backed pool r hr
    · intro q _ hne
      by_contra hq
      obtain ⟨r', hr', hm, _⟩ := hcount q hq
      exact hne (h.alone q r' pool r hr' hr hm)
    · exact fun hmem => absurd (Finset.mem_univ pool) hmem

/-- An intact account that holds something. -/
theorem exists_fresh_of_pos {l : Ledger} {owner : Account} {mint : Pubkey}
    (hi : l.AtaIntact owner mint) (hpos : 0 < tokensOf (l (.ata owner mint))) :
    ∃ amount, (l (.ata owner mint)).data = .token (.fresh mint owner amount) ∧
      0 < amount.val := by
  rcases hi with hempty | ⟨amount, hdata⟩
  · simp [tokensOf, AccountState.token?, hempty] at hpos
  · rw [tokensOf_token hdata] at hpos
    exact ⟨amount, hdata, hpos⟩

/-- A receipt of a backed state can be swept. -/
theorem sweepable_of_backed (h : Backed w) {pool : Pubkey} {r : SalvageReceipt}
    (hr : Unswept w.vault pool r) : Sweepable rt w pool r := by
  intro sweeper hsystem hrent
  obtain ⟨hm, m, hmint⟩ := h.mint pool r hr.receipt
  obtain ⟨held, hvault, hpos⟩ := exists_fresh_of_pos (h.tidy.intact .vaultAuthority _ rfl)
    (hr.dust.trans_le (h.backed pool r hr))
  obtain ⟨l₁, kept, hinit, htreasury⟩ := Ledger.exists_initAtaIfNeeded hm
    (h.tidy.intact .protocolTreasury _ rfl) hsystem hrent
  have hvault₁ : (l₁ (.ata .vaultAuthority r.memecoinMint)).data =
      .token (.fresh r.memecoinMint .vaultAuthority held) := by
    rw [Ledger.initAtaIfNeeded_data hinit (by simp), hvault]
  have hmint₁ : (l₁ (.key r.memecoinMint)).data = .mint m := by
    rw [Ledger.initAtaIfNeeded_data hinit (by simp), hmint]
  have hfit : held.val + kept.val < 2 ^ 64 := by
    have hpair := ((Ledger.Tame.initAtaIfNeeded hinit).tidy h.tidy).pair_lt hm
      (show Account.ata .vaultAuthority r.memecoinMint ≠ .ata .protocolTreasury r.memecoinMint by
        simp)
    rw [Ledger.holding_token hvault₁, Ledger.holding_token htreasury] at hpair
    simpa [TokenAccount.fresh] using hpair
  obtain ⟨l₂, htransfer, hempty⟩ := Ledger.exists_tokenTransfer (by simp) hvault₁ htreasury hfit
  simp only [sweepDust, bind_ok_iff, Scanner.loadAccount_ok_iff, require_ok_iff, exists_const,
    Ledger.loadToken_ok_iff, AccountState.mint?_eq_some, Ledger.closeAccount_ok_iff, pure_ok_iff]
  exact ⟨_, r, hr.receipt, _, hvault, ⟨rfl, rfl⟩, l₁, hinit, m, hmint₁, rfl, hr.stamp, hpos, l₂,
    htransfer, _, ⟨by simp, _, hempty, Or.inr rfl, rfl, rfl⟩, rfl⟩

/-- A backed state is covered. -/
theorem Backed.dustCovered (h : Backed w) : DustCovered rt w :=
  ⟨unsweptDust_le h, fun _ _ hr => sweepable_of_backed h hr⟩

/-! ## Tame steps -/

section Tame

open Ledger

variable {clock : Clock} {cert? : Option Scanner.EligibilityCert} {v v' : Vault.State}
  {l l' : Ledger} {params : SalvagePoolParams} {accounts : SalvageAccounts} {programs : Programs}

/-- The preparation of a salvage is tame. -/
theorem prepare_tame {p : Prepared} (h : prepare rt clock cert? v l params accounts = .ok p) :
    Tame l p.ledger := by
  obtain ⟨l₄, l₅, hopened, h5, h6⟩ := prepare_ledgers h
  obtain ⟨l₁, l₂, l₃, h1, h2, h3, h4⟩ := openAccounts_ledgers hopened
  have hrecords := (Tame.initRecord h1 (by simp)).trans (Tame.initRecord h2 (by simp))
  have hatas := (Tame.initAtaIfNeeded h3).trans (Tame.initAtaIfNeeded h4)
  have hlazy := (Tame.of_data (lazyInitSystemPda_data h5)).trans
    (Tame.of_data (lazyInitSystemPda_data h6))
  exact hrecords.trans (hatas.trans hlazy)

/-- The settlement of a salvage is tame. -/
theorem settle_tame {cfg : Vault.ProtocolConfig} {pool salvor : Pubkey} {s : Settlement}
    (h : settle cfg l pool salvor = .ok (l', s)) : Tame l l' := by
  obtain ⟨l₁, l₂, l₃, hclose, h2, h3, h4⟩ := settle_ledgers h
  refine (Tame.closeAccount hclose).trans (Tame.of_data fun a => ?_)
  rw [h4.data, h3.data, h2.data]

/-- A salvage with plain programs is tame. -/
theorem salvagePool_tame (hr : programs.raydiumV4.Plain) (hj : programs.jupiterV6.Plain)
    (h : salvagePool rt clock cert? v l params accounts programs = .ok (v', l')) : Tame l l' := by
  obtain ⟨p, l₁, removal, l₂, s, dust, h1, h2, h3, h4, rfl⟩ := salvagePool_ok h
  have hremoved := Tame.call hr (dispatchRemoveLiquidity_ok h2).2.2
  have hswapped : Tame l₁ l₂ := by
    rcases swapLeg_cases h3 with ⟨_, rfl⟩ | ⟨_, _, hcall⟩
    · exact Tame.refl _
    · exact Tame.call hj hcall
  exact (prepare_tame h1).trans (hremoved.trans (hswapped.trans (settle_tame h4)))

/-- A sweep is tame. -/
theorem sweepDust_tame {pool memecoinMint sweeper : Pubkey}
    (h : sweepDust rt clock v l pool memecoinMint sweeper = .ok (v', l')) : Tame l l' := by
  simp only [sweepDust, bind_ok_iff, pure_ok_iff, Prod.mk.injEq] at h
  obtain ⟨_, _, _, _, _, _, l₁, h1, _, _, _, _, _, _, _, _, l₂, h2, l₃, h3, _, rfl⟩ := h
  exact (Tame.initAtaIfNeeded h1).trans ((Tame.tokenTransfer h2).trans (Tame.closeAccount h3))

/-- A claim is tame. -/
theorem claimLpProceeds_tame {params : ClaimLpProceedsParams} {lpHolder : Pubkey}
    (h : claimLpProceeds rt clock v l params lpHolder = .ok (v', l')) : Tame l l' := by
  simp only [claimLpProceeds, bind_ok_iff, pure_ok_iff, Prod.exists, Prod.mk.injEq] at h
  obtain ⟨_, _, _, _, l₁, h1, _, _, _, _, _, l₂, h2, _, rfl⟩ := h
  exact (Tame.initRecord h1 (by simp)).trans (Tame.of_data (pay_ok h2 (by simp)).data)

/-- Every instruction that calls plain programs is tame. -/
theorem exec_tame (hp : CallsPlain ix) (h : exec rt w ix = .ok w') :
    Tame w.ledger w'.ledger := by
  cases ix with
  | scanner call =>
    obtain ⟨s, _, rfl⟩ := scanner_ok_iff.1 h
    exact Tame.refl _
  | vault call =>
    obtain ⟨v, l, hcall, rfl⟩ := vault_ok_iff.1 h
    rcases execVault_cases hcall with ⟨_, rfl | ⟨payer, hl⟩⟩ |
      ⟨params, accounts, programs, rfl, hcall⟩ | ⟨params, lpHolder, rfl, hcall⟩ |
      ⟨pool, mint, sweeper, rfl, hcall⟩
    · exact Tame.refl _
    · exact Tame.initRecord hl (by simp)
    · exact salvagePool_tame hp.1 hp.2 hcall
    · exact claimLpProceeds_tame hcall
    · exact sweepDust_tame hcall
  | systemTransfer src dst amount =>
    obtain ⟨l, ht, rfl⟩ := systemTransfer_ok_iff.1 h
    exact Tame.of_data (transfer_data ht)
  | external program metas data =>
    obtain ⟨_, l, hcall, rfl⟩ := external_ok_iff.1 h
    exact Tame.call hp hcall

end Tame

/-! ## Steps that spare an account -/

section Spares

variable {clock : Clock} {cert? : Option Scanner.EligibilityCert} {v v' : Vault.State}
  {l l' : Ledger} {params : SalvagePoolParams} {accounts : SalvageAccounts} {programs : Programs}
  {mint : Pubkey}

/-- The tokens of an account depend on its data only. -/
theorem tokensOf_congr {s s' : AccountState} (h : s'.data = s.data) : tokensOf s' = tokensOf s := by
  simp only [tokensOf, AccountState.token?, h]

/-- A call takes nothing from an intact account that it cannot write, or whose owner does not
sign. -/
theorem call_spares {program : Program} {metas : List AccountMeta} {data : List Byte}
    {owner : Account} (hp : program.Plain) (hcall : program.call metas data l = some l')
    (hi : l.AtaIntact owner mint)
    (h : ¬Writable metas (.ata owner mint) ∨ ¬CanSign metas owner) :
    tokensOf (l (.ata owner mint)) ≤ tokensOf (l' (.ata owner mint)) := by
  rcases Nat.eq_zero_or_pos (tokensOf (l (.ata owner mint))) with hzero | hpos
  · omega
  · obtain ⟨amount, hdata, hamount⟩ := exists_fresh_of_pos hi hpos
    obtain ⟨is, his⟩ := hp.usesSplToken hcall
    have hsafe :
        ¬TokenInstruction.Exposed metas l (.ata owner mint) (.fresh mint owner amount) := by
      rintro ⟨hw, _, x, hx, hs⟩
      -- the owner is the only authority
      obtain rfl : x = owner := by simpa [TokenAccount.HasAuthority, TokenAccount.fresh] using hx
      exact h.elim (fun hn => hn hw) fun hn => hn hs
    obtain ⟨t', ht', hg⟩ := TokenInstruction.batch_token his hdata hamount hsafe
    rw [tokensOf_token hdata, tokensOf_token ht']
    exact hg.1

/-- A salvage of another memecoin leaves the dust of a mint alone, if its route does not name the
account. -/
theorem salvagePool_spares (hr : programs.raydiumV4.Plain) (hj : programs.jupiterV6.Plain)
    (htidy : l.Tidy) (hwsol : mint ≠ wsolMint) (hne : mint ≠ accounts.memecoinMint)
    (hroute : ∀ m ∈ accounts.jupiterRemaining, m.isWritable = true →
      m.account ≠ vaultMemecoinAta mint)
    (h : salvagePool rt clock cert? v l params accounts programs = .ok (v', l')) :
    tokensOf (l (vaultMemecoinAta mint)) ≤ tokensOf (l' (vaultMemecoinAta mint)) := by
  obtain ⟨p, l₁, removal, l₂, s, dust, h1, h2, h3, h4, rfl⟩ := salvagePool_ok h
  have hbase : vaultMemecoinAta mint ≠ vaultBaseAta := by
    simpa [vaultMemecoinAta, vaultBaseAta] using hwsol
  have hmeme : vaultMemecoinAta mint ≠ vaultMemecoinAta accounts.memecoinMint := by
    simpa [vaultMemecoinAta] using hne
  have hprepared : p.ledger (vaultMemecoinAta mint) = l (vaultMemecoinAta mint) :=
    prepare_frame h1 (by simp [vaultMemecoinAta]) (by simp [vaultMemecoinAta])
      (by simp [vaultMemecoinAta]) (by simp [vaultMemecoinAta]) (by simp [vaultMemecoinAta])
      hbase hmeme
  have hcall := (dispatchRemoveLiquidity_ok h2).2.2
  have htidy₀ := (prepare_tame h1).tidy htidy
  have htidy₁ := (Ledger.Tame.call hr hcall).tidy htidy₀
  have hremoved : tokensOf (p.ledger (vaultMemecoinAta mint)) ≤
      tokensOf (l₁ (vaultMemecoinAta mint)) :=
    call_spares hr hcall (htidy₀.intact .vaultAuthority mint rfl)
      (Or.inr fun hs => not_signs_withdrawMetas rfl (hs.2 rfl))
  have hswapped : tokensOf (l₁ (vaultMemecoinAta mint)) ≤
      tokensOf (l₂ (vaultMemecoinAta mint)) := by
    rcases swapLeg_cases h3 with ⟨_, rfl⟩ | ⟨_, _, hcall⟩
    · exact le_rfl
    · refine call_spares hj hcall (htidy₁.intact .vaultAuthority mint rfl) (Or.inl fun hw => ?_)
      obtain ⟨m, hm, heq, hwritable⟩ := mem_of_writable_routeMetas hw
      exact hroute m hm hwritable heq
  have hsettled : l' (vaultMemecoinAta mint) = l₂ (vaultMemecoinAta mint) :=
    settle_frame h4 (by simp [vaultMemecoinAta]) (by simp [vaultMemecoinAta])
      (by simp [vaultMemecoinAta]) (by simp [vaultMemecoinAta]) hbase
  rw [← hprepared, hsettled]
  exact hremoved.trans hswapped

/-- An instruction that leaves the receipts alone takes no token of the vault. -/
theorem exec_spares (hp : CallsPlain ix) (htidy : w.ledger.Tidy) (h : exec rt w ix = .ok w')
    (hsalvage : ∀ params accounts programs, ix ≠ .vault (.salvagePool params accounts programs))
    (hsweep : ∀ pool mint sweeper, ix ≠ .vault (.sweepDust pool mint sweeper)) :
    w'.vault.receipts = w.vault.receipts ∧
      ∀ mint, tokensOf (w.ledger (vaultMemecoinAta mint)) ≤
        tokensOf (w'.ledger (vaultMemecoinAta mint)) := by
  cases ix with
  | scanner call =>
    obtain ⟨s, _, rfl⟩ := scanner_ok_iff.1 h
    exact ⟨rfl, fun _ => le_rfl⟩
  | vault call =>
    obtain ⟨v, l, hcall, rfl⟩ := vault_ok_iff.1 h
    rcases execVault_cases hcall with ⟨⟨_, hreceipts, _⟩, hl⟩ |
      ⟨params, accounts, programs, rfl, _⟩ | ⟨params, lpHolder, rfl, hcall⟩ |
      ⟨pool, mint, sweeper, rfl, _⟩
    · refine ⟨hreceipts, fun mint => (tokensOf_congr ?_).ge⟩
      rcases hl with rfl | ⟨payer, hl⟩
      · rfl
      · exact Ledger.initRecord_data hl (by simp [vaultMemecoinAta])
    · exact absurd rfl (hsalvage params accounts programs)
    · obtain ⟨_, _, _, _, _, _, _, _, _, rfl, _, _, hframe⟩ := claimLpProceeds_ok hcall
      refine ⟨rfl, fun mint => (congrArg tokensOf ?_).ge⟩
      exact hframe _ (by simp [vaultMemecoinAta]) (by simp [vaultMemecoinAta])
        (by simp [vaultMemecoinAta])
    · exact absurd rfl (hsweep pool mint sweeper)
  | systemTransfer src dst amount =>
    obtain ⟨l, ht, rfl⟩ := systemTransfer_ok_iff.1 h
    exact ⟨rfl, fun mint => (tokensOf_congr (Ledger.transfer_data ht _)).ge⟩
  | external program metas data =>
    obtain ⟨hu, l, hcall, rfl⟩ := external_ok_iff.1 h
    exact ⟨rfl, fun mint => call_spares hp hcall (htidy.intact .vaultAuthority mint rfl)
      (Or.inr fun hs => not_signs_external hu rfl (hs.2 rfl))⟩

end Spares

/-! ## One step -/

/-- A step that keeps the receipts and takes no dust keeps the state backed. -/
theorem Backed.of_receipts (hb : Backed w) (htame : Ledger.Tame w.ledger w'.ledger)
    (hreceipts : w'.vault.receipts = w.vault.receipts)
    (hkeep : ∀ mint, tokensOf (w.ledger (vaultMemecoinAta mint)) ≤
      tokensOf (w'.ledger (vaultMemecoinAta mint))) : Backed w' := by
  have hold : ∀ {pool r}, Unswept w'.vault pool r → Unswept w.vault pool r := fun h =>
    ⟨hreceipts ▸ h.receipt, h.dust, h.stamp⟩
  refine ⟨htame.tidy hb.tidy, fun pool r hr => ?_, fun pool r hr => ?_,
    fun pool r pool' r' hr hr' => hb.alone pool r pool' r' (hold hr) (hold hr')⟩
  · obtain ⟨hwsol, m, hm⟩ := hb.mint pool r (hreceipts ▸ hr)
    exact ⟨hwsol, htame.mint _ m hm⟩
  · exact (hb.backed pool r (hold hr)).trans (hkeep _)

/-- One receipt is written. If it has dust that is not swept, this is in its account, and no other
receipt has dust of the mint; the accounts of the others have lost nothing. -/
theorem Backed.update (hb : Backed w) (htame : Ledger.Tame w.ledger w'.ledger) {pool : Pubkey}
    {r₀ : SalvageReceipt}
    (hreceipts : w'.vault.receipts = Function.update w.vault.receipts pool (some r₀))
    (hmint : r₀.memecoinMint ≠ wsolMint ∧ ∃ m, (w.ledger (.key r₀.memecoinMint)).data = .mint m)
    (hown : r₀.dustSweptAtTs = 0 → r₀.dustMemecoinLamports.val ≤
      tokensOf (w'.ledger (vaultMemecoinAta r₀.memecoinMint)))
    (hothers : ∀ q r, q ≠ pool → Unswept w.vault q r →
      (r₀.dustSweptAtTs = 0 → r.memecoinMint ≠ r₀.memecoinMint) ∧
      tokensOf (w.ledger (vaultMemecoinAta r.memecoinMint)) ≤
        tokensOf (w'.ledger (vaultMemecoinAta r.memecoinMint))) : Backed w' := by
  have hcases : ∀ {q r}, Unswept w'.vault q r →
      (q = pool ∧ r = r₀) ∨ (q ≠ pool ∧ Unswept w.vault q r) := by
    rintro q r ⟨hr, hdust, hstamp⟩
    rw [hreceipts] at hr
    rcases of_update_eq_some hr with ⟨hq, heq⟩ | ⟨hq, hr⟩
    · exact Or.inl ⟨hq, heq.symm⟩
    · exact Or.inr ⟨hq, hr, hdust, hstamp⟩
  refine ⟨htame.tidy hb.tidy, fun q r hr => ?_, fun q r hr => ?_, fun q r q' r' hr hr' heq => ?_⟩
  · suffices h : r.memecoinMint ≠ wsolMint ∧
        ∃ m, (w.ledger (.key r.memecoinMint)).data = .mint m by
      obtain ⟨hwsol, m, hm⟩ := h
      exact ⟨hwsol, htame.mint _ m hm⟩
    rw [hreceipts] at hr
    rcases of_update_eq_some hr with ⟨rfl, rfl⟩ | ⟨_, hr⟩
    · exact hmint
    · exact hb.mint q r hr
  · rcases hcases hr with ⟨rfl, rfl⟩ | ⟨hq, hold⟩
    · exact hown hr.stamp
    · exact (hb.backed q r hold).trans (hothers q r hq hold).2
  · rcases hcases hr with ⟨rfl, rfl⟩ | ⟨hq, hold⟩ <;>
      rcases hcases hr' with ⟨rfl, rfl⟩ | ⟨hq', hold'⟩
    · rfl
    · exact absurd heq.symm ((hothers q' r' hq' hold').1 hr.stamp)
    · exact absurd heq ((hothers q r hq hold).1 hr'.stamp)
    · exact hb.alone q r q' r' hold hold' heq

/-- The memecoin of a salvage is a mint other than wrapped SOL. -/
theorem salvagePool_mint {clock : Clock} {cert? : Option Scanner.EligibilityCert}
    {v v' : Vault.State} {l l' : Ledger} {params : SalvagePoolParams} {accounts : SalvageAccounts}
    {programs : Programs}
    (h : salvagePool rt clock cert? v l params accounts programs = .ok (v', l')) :
    accounts.memecoinMint ≠ wsolMint ∧
      ∃ m, (l (.key accounts.memecoinMint)).data = .mint m := by
  obtain ⟨p, l₁, removal, l₂, s, dust, h1, h2, h3, h4, rfl⟩ := salvagePool_ok h
  constructor
  · obtain ⟨_, bytes, _, _, horient, _⟩ := (prepare_ok h1).1.bytes (dispatchRemoveLiquidity_ok h2).1
    simp only [derivePoolOrientation, bind_ok_iff] at horient
    obtain ⟨_, _, coinMint, _, pcMint, _, lpMint, _, hside⟩ := horient
    split_ifs at hside with hcoin hpc
    · obtain ⟨_, hm, _⟩ := by simpa only [pure_ok_iff, Prod.mk.injEq] using hside
      exact hm ▸ hcoin.2
    · obtain ⟨_, hm, _⟩ := by simpa only [pure_ok_iff, Prod.mk.injEq] using hside
      exact hm ▸ hpc.2
  · simp only [prepare, bind_ok_iff, Scanner.loadAccount_ok_iff, AccountState.mint?_eq_some] at h1
    obtain ⟨_, _, _, _, l₃, hopen, m, hm, _⟩ := h1
    exact ⟨m, ((openAccounts_ok hopen).2.2.2 _).symm.trans hm⟩

/-- A step of plain programs, with the receipts apart, keeps the state backed. -/
theorem backed_step (hb : Backed w) (hp : CallsPlain ix) (hs : Separate w ix)
    (h : exec rt w ix = .ok w') : Backed w' := by
  have htame := exec_tame hp h
  by_cases hsalvage : ∃ params accounts programs,
      ix = .vault (.salvagePool params accounts programs)
  · obtain ⟨params, accounts, programs, rfl⟩ := hsalvage
    obtain ⟨v, l, hcall, rfl⟩ := vault_ok_iff.1 h
    obtain ⟨s, t, ht, hreceipts⟩ := salvagePool_dust hcall
    refine hb.update htame hreceipts (salvagePool_mint hcall) (fun _ => ?_) fun q r hq hr => ?_
    · exact (tokensOf_token ht).ge
    · obtain ⟨hne, hroute⟩ := hs q r hr
      exact ⟨fun _ => hne, salvagePool_spares hp.1 hp.2 hb.tidy (hb.mint q r hr.receipt).1 hne
        hroute hcall⟩
  by_cases hsweep : ∃ pool mint sweeper, ix = .vault (.sweepDust pool mint sweeper)
  · obtain ⟨pool, mint, sweeper, rfl⟩ := hsweep
    obtain ⟨v, l, hcall, rfl⟩ := vault_ok_iff.1 h
    obtain ⟨receipt, hreceipt, rfl, _, rfl, hframe⟩ := sweepDust_ok hcall
    obtain ⟨hclock, hothers⟩ := hs
    refine hb.update htame rfl (hb.mint pool receipt hreceipt) (fun hstamp => ?_)
      fun q r hq hr => ⟨fun hstamp => ?_, ?_⟩
    · exact absurd hstamp hclock
    · exact absurd hstamp hclock
    · have hne : r.memecoinMint ≠ receipt.memecoinMint := fun heq => hq (hothers q r hr heq)
      refine (congrArg tokensOf ?_).ge
      exact hframe _ (by simp [vaultMemecoinAta]) (by simpa [vaultMemecoinAta] using hne)
        (by simp [vaultMemecoinAta])
  · simp only [not_exists] at hsalvage hsweep
    obtain ⟨hreceipts, hkeep⟩ := exec_spares hp hb.tidy h hsalvage hsweep
    exact hb.of_receipts htame hreceipts hkeep

/-! ## Whole runs -/

/-- A tidy ledger is backed before any receipt. -/
theorem backed_genesis (clock : Clock) {ledger : Ledger} (h : ledger.Tidy) :
    Backed (genesis clock ledger) := by
  have hnone : ∀ {pool r}, ¬Unswept (genesis clock ledger).vault pool r := fun h =>
    nomatch h.receipt
  refine ⟨h, fun _ _ hr => ?_, fun _ _ hr => absurd hr hnone,
    fun _ _ _ _ hr => absurd hr hnone⟩
  cases hr

/-- Along every run from a tidy ledger whose instructions call plain programs, and keep the
receipts apart where they succeed, in every state, the dust that is not swept is in the accounts
of its mints, and every receipt of it can be swept. -/
theorem dust_covered (rt : Runtime) (clock : Clock) (ledger : Ledger) (ixs : List Ix)
    (htidy : ledger.Tidy)
    (h : AlongRun (exec rt) (fun w ix => CallsPlain ix ∧ IfOk (exec rt) Separate w ix)
      (genesis clock ledger) ixs) :
    ∀ pre, pre <+: ixs → DustCovered rt (run (exec rt) (genesis clock ledger) pre) := by
  rintro pre ⟨post, rfl⟩
  have hbacked : Backed (run (exec rt) (genesis clock ledger) pre) :=
    run_invariant_of_along (fun w ix w' hb hc hstep => backed_step hb hc.1 (hc.2 w' hstep) hstep)
      (backed_genesis clock htidy) (alongRun_append.1 h).1
  exact hbacked.dustCovered

/-! ## Two pools of one mint -/

/-- A second pool of the memecoin. -/
def twinPool : Pubkey := Pubkey.fill 80

/-- The LP mint of the second pool. -/
def twinLpMint : Pubkey := Pubkey.fill 84

/-- `2Fff4nJqfAkpSejuQAijqdhkGWYtVTx8fr6vMRBxAwHA`, the lock marker address of that pool. -/
def twinMarker : Pubkey :=
  Bytes.ofNat 32 0x129d86edded04ddc39ea1017feaf9fa688281e01888ea64ffbfcf41fc73c1e59

/-- The runtime as far as the two pools need it. -/
def twinRuntime : Runtime :=
  { Scanner.demoRuntime with
    findProgramAddress := fun seeds programId =>
      if seeds = [Scanner.UncxV4.markerSeed, twinPool.val] ∧
        programId = Scanner.UncxV4.programId then twinMarker
      else Scanner.demoRuntime.findProgramAddress seeds programId }

/-- A second pool with the memecoin of the first. -/
def twinEvaluateAccounts (issuedSlot : ℕ) : Scanner.EvaluateAccounts :=
  { Scanner.demoAccounts issuedSlot with
    pool := ⟨twinPool, raydiumV4ProgramId, 6124800, List.replicate 336 0 ++ (Pubkey.fill 81).val ++
      (Pubkey.fill 82).val ++ demoMemecoin.val ++ wsolMint.val ++ twinLpMint.val ++
      List.replicate 256 0⟩
    remainingAccounts := [Scanner.demoTokenAccount (Pubkey.fill 81) demoMemecoin 1000000000000,
      Scanner.demoTokenAccount (Pubkey.fill 82) wsolMint 1000000000,
      ⟨twinLpMint, tokenProgramId, 1461600, List.replicate 36 0 ++ leBytes 8 1000 ++
        List.replicate 38 0⟩, ⟨twinMarker, defaultPubkey, 0, []⟩]
    instructionSysvar := Scanner.verifiedPair Scanner.demoAuthority 72 112
      ⟨Pubkey.fill 6, List.replicate 72 0 ++
        (Scanner.attestationMsg raydiumV4ProgramId twinPool 1 issuedSlot (Pubkey.fill 3)).val⟩ }

/-- The evaluation of the second pool. -/
def twinEvaluateParams (issuedSlot : ℕ) : Scanner.EvaluatePoolParams :=
  ⟨raydiumV4ProgramId, twinPool,
    Scanner.attestationMsg raydiumV4ProgramId twinPool 1 issuedSlot (Pubkey.fill 3)⟩

/-- The launch price of the second pool. -/
def twinLaunchPriceMsg : Bytes 168 :=
  ⟨raydiumV4ProgramId.val ++ twinPool.val ++ demoMemecoin.val ++ wsolMint.val ++
    leBytes 8 5 ++ leBytes 8 800 ++ leBytes 16 (2 ^ 64) ++ leBytes 8 6, by decide +kernel⟩

/-- The certification of both pools. -/
def twinCalls : List Scanner.Call :=
  Scanner.demoCalls.take 3 ++
    [.recordLaunchPrice ⟨raydiumV4ProgramId, twinPool, demoMemecoin, wsolMint,
        18446744073709551616, twinLaunchPriceMsg⟩ (Scanner.verifiedPair Scanner.demoAuthority 152
          168 ⟨Pubkey.fill 6, List.replicate 152 0 ++ twinLaunchPriceMsg.val⟩),
      .evaluatePoolPhase1 (twinEvaluateParams 7) (twinEvaluateAccounts 7),
      .tick ⟨900000, 102, 10360000⟩,
      .evaluatePoolPhase2 (Scanner.demoParams 899999) (Scanner.demoAccounts 899999),
      .evaluatePoolPhase2 (twinEvaluateParams 899999) (twinEvaluateAccounts 899999)]

/-- Both pools are certified, and the dust threshold of the vault leaves the swap out. -/
def twinSetup : List Ix :=
  twinCalls.map .scanner ++
    [.vault (.initializeProtocol ⟨Scanner.demoAuthority, 0, 0, 0, 0, 0, 1000000000000, 0⟩
      demoSalvor)]

/-- Both pools with their mints and vaults. The salvor has nine tenths of both LP supplies. -/
def twinLedger : Ledger
  | .key k =>
    if k = twinPool then
      ⟨6124800, .program raydiumV4ProgramId false (twinEvaluateAccounts 0).pool.data⟩
    else if k = demoMemecoin then ⟨1461600, .mint ⟨2000000000000, none⟩⟩
    else if k = twinLpMint then ⟨1461600, .mint ⟨1000, none⟩⟩
    else if k = Pubkey.fill 85 then ⟨2039280, demoToken twinLpMint demoSalvor 900⟩
    else if k = Pubkey.fill 81 then
      ⟨2039280, demoToken demoMemecoin raydiumV4AmmAuthority 1000000000000⟩
    else if k = Pubkey.fill 82 then ⟨2039280, demoToken wsolMint raydiumV4AmmAuthority 1000000000⟩
    else demoLedger (.key k)
  | _ => .system 0

/-- The accounts of the second salvage. -/
def twinSalvageAccounts : SalvageAccounts :=
  { demoSalvageAccounts with
    pool := twinPool
    salvorLpTokenAccount := .key (Pubkey.fill 85)
    lpMint := twinLpMint
    remainingAccounts := ⟨.key raydiumV4AmmAuthority, false, false⟩ ::
      [41, 42, 81, 82, 43, 44, 45, 46, 47, 48, 49, 51].map
        fun b => ⟨.key (Pubkey.fill b), false, true⟩ }

/-- The withdrawal from the second pool. -/
def twinWithdrawal : List TokenInstruction :=
  [.transfer (.key (Pubkey.fill 82)) vaultBaseAta (.key raydiumV4AmmAuthority) 900000000,
    .transfer (.key (Pubkey.fill 81)) (vaultMemecoinAta demoMemecoin) (.key raydiumV4AmmAuthority)
      900000000000,
    .burn (.key (Pubkey.fill 85)) twinLpMint (.key demoSalvor) 900]

/-- The salvage of the first pool. -/
def firstSalvage : Ix :=
  .vault (.salvagePool demoSalvageParams demoSalvageAccounts ⟨routeRaydium, .executing []⟩)

/-- The salvage of the second pool. -/
def twinSalvage : Ix :=
  .vault (.salvagePool { demoSalvageParams with poolAddress := twinPool } twinSalvageAccounts
    ⟨.executing twinWithdrawal, .executing []⟩)

/-- The sweep of the first pool. -/
def firstSweep : Ix :=
  .vault (.sweepDust Scanner.demoPool demoMemecoin demoSalvor)

/-- What a run leaves behind. -/
def twinWorld (ixs : List Ix) : World :=
  run (exec twinRuntime) (genesis Scanner.demoClock twinLedger) ixs

/-- The token accounts of the ledger. -/
theorem mem_of_holding {mint : Pubkey} {a : Account} (h : (twinLedger a).holding mint ≠ 0) :
    a ∈ ([21, 22, 31, 81, 82, 85].map fun b => Account.key (Pubkey.fill b)).toFinset := by
  rw [List.mem_toFinset]
  contrapose! h
  simp only [List.map_cons, List.map_nil, List.mem_cons, List.not_mem_nil, or_false,
    not_or] at h
  cases a with
  | key k =>
    simp only [Account.key.injEq] at h
    obtain ⟨h1, h2, h3, h4, h5, h6⟩ := h
    simp only [twinLedger, demoLedger, if_neg h1, if_neg h2, if_neg h3, if_neg h4, if_neg h5,
      if_neg h6]
    split_ifs <;> rfl
  | _ => rfl

/-- No vault account of the twin ledger has a delegate or a close authority. -/
theorem tidy_twinLedger : twinLedger.Tidy := by
  refine ⟨fun owner mint _ => Or.inl rfl, fun mint hm => ?_⟩
  refine Supply.within_of_support (fun a ha => mem_of_holding ha) ?_
  by_cases hmemecoin : mint = demoMemecoin
  · subst hmemecoin
    decide +kernel
  by_cases hlp : mint = demoLpMint
  · subst hlp
    decide +kernel
  by_cases htwin : mint = twinLpMint
  · subst htwin
    decide +kernel
  -- no account holds another mint
  rw [Finset.sum_eq_zero]
  · exact Nat.zero_le _
  · simp only [List.mem_toFinset, List.map_cons, List.map_nil, List.mem_cons, List.not_mem_nil,
      or_false]
    rintro a (rfl | rfl | rfl | rfl | rfl | rfl)
    · exact if_neg (Ne.symm hmemecoin)
    · exact if_neg (Ne.symm hm)
    · exact if_neg (Ne.symm hlp)
    · exact if_neg (Ne.symm hmemecoin)
    · exact if_neg (Ne.symm hm)
    · exact if_neg (Ne.symm htwin)

/-- The pool that an instruction salvages. -/
def salvagedPool : Ix → Option Pubkey
  | .vault (.salvagePool params _ _) => some params.poolAddress
  | _ => none

/-- A pool that is not salvaged has no receipt. -/
theorem receipts_run_eq_none {pool : Pubkey} {ixs : List Ix}
    (h0 : w.vault.receipts pool = none) (h : ∀ ix ∈ ixs, salvagedPool ix ≠ some pool) :
    (run (exec rt) w ixs).vault.receipts pool = none := by
  refine run_invariant_of_along (I := fun w : World => w.vault.receipts pool = none)
    (C := fun _ ix => salvagedPool ix ≠ some pool) (fun w ix w' hnone hix hstep => ?_) h0
    (alongRun_of_forall fun _ => h)
  rcases exec_cases hstep with hneutral | ⟨params, _, _, rfl, hcall⟩ | ⟨_, _, rfl, hcall⟩ |
    ⟨_, _, _, rfl, hcall⟩
  · rw [hneutral.receipts, hnone]
  · obtain ⟨_, _, _, hreceipts⟩ := salvagePool_dust hcall
    have hne : pool ≠ params.poolAddress := fun heq => hix (congrArg some heq.symm)
    rw [hreceipts, Function.update_of_ne hne, hnone]
  · obtain ⟨_, _, _, _, _, _, _, _, _, hv, _⟩ := claimLpProceeds_ok hcall
    rw [hv, hnone]
  · obtain ⟨receipt, hreceipt, _, _, hv, _⟩ := sweepDust_ok hcall
    rw [hv]
    refine (Function.update_of_ne ?_ _ _).trans hnone
    rintro rfl
    exact nomatch hreceipt.symm.trans hnone

/-- The two salvages with the sweep between them. -/
def sweptRun : List Ix :=
  twinSetup ++ [firstSalvage] ++ [firstSweep] ++ [twinSalvage]

/-- The two salvages one after the other. -/
def overlappingRun : List Ix :=
  twinSetup ++ [firstSalvage, twinSalvage]

/-- A program that does nothing is plain. -/
theorem plain_executing_nil : (Program.executing []).Plain :=
  Program.plain_executing (by simp)

theorem callsPlain_salvages : CallsPlain firstSalvage ∧ CallsPlain twinSalvage := by
  refine ⟨⟨Program.plain_executing ?_, plain_executing_nil⟩,
    ⟨Program.plain_executing ?_, plain_executing_nil⟩⟩
  · simp [TokenInstruction.Plain]
  · simp [twinWithdrawal, TokenInstruction.Plain]

theorem mem_twinSetup {ix : Ix} (h : ix ∈ twinSetup) : (∃ call, ix = .scanner call) ∨
    ∃ params payer, ix = .vault (.initializeProtocol params payer) := by
  rcases List.mem_append.1 h with h | h
  · obtain ⟨call, _, rfl⟩ := List.mem_map.1 h
    exact Or.inl ⟨call, rfl⟩
  · exact Or.inr ⟨_, _, List.mem_singleton.1 h⟩

/-- A pool that is not salvaged after the setup has no dust. -/
theorem not_unswept {q : Pubkey} {r : SalvageReceipt} {ixs : List Ix}
    (h : ∀ ix ∈ ixs, salvagedPool ix ≠ some q) :
    ¬Unswept (run (exec twinRuntime) (genesis Scanner.demoClock twinLedger)
      (twinSetup ++ ixs)).vault q r := by
  intro hr
  have hnone : (run (exec twinRuntime) (genesis Scanner.demoClock twinLedger)
      (twinSetup ++ ixs)).vault.receipts q = none := by
    refine receipts_run_eq_none rfl fun ix hix => ?_
    rcases List.mem_append.1 hix with hix | hix
    · rcases mem_twinSetup hix with ⟨call, rfl⟩ | ⟨params, payer, rfl⟩ <;> nofun
    · exact h ix hix
  exact nomatch hr.receipt.symm.trans hnone

/-- The clock of the sweep, the stamp of the first receipt, and the second receipt. -/
theorem sweptRun_receipts :
    (twinWorld (twinSetup ++ [firstSalvage])).scanner.clock.unixTimestamp ≠ 0 ∧
    ((twinWorld (twinSetup ++ [firstSalvage] ++ [firstSweep])).vault.receipts
      Scanner.demoPool).map (fun r => r.dustSweptAtTs) = some 10360000 ∧
    ((twinWorld sweptRun).vault.receipts twinPool).map (fun r =>
      (r.dustMemecoinLamports, r.dustSweptAtTs)) = some (900000000000, 0) := by
  decide +kernel

/-- The first salvage and its sweep keep the receipts apart. -/
theorem along_sweptRun : AlongRun (exec twinRuntime)
    (fun w ix => CallsPlain ix ∧ IfOk (exec twinRuntime) Separate w ix)
    (genesis Scanner.demoClock twinLedger) sweptRun := by
  have hfirst : ∀ {q : Pubkey}, q ≠ Scanner.demoPool → salvagedPool firstSalvage ≠ some q :=
    fun hq heq => hq (Option.some.inj heq).symm
  obtain ⟨hclock, hstamp, _⟩ := sweptRun_receipts
  unfold twinWorld at hclock hstamp
  rw [sweptRun, alongRun_concat, alongRun_concat, alongRun_concat]
  refine ⟨⟨⟨alongRun_of_forall fun w ix hix => ?_, callsPlain_salvages.1, .of fun q r hr => ?_⟩,
    trivial, .of ⟨hclock, fun q r hr _ => ?_⟩⟩, callsPlain_salvages.2, .of fun q r hr => ?_⟩
  · rcases mem_twinSetup hix with ⟨call, rfl⟩ | ⟨params, payer, rfl⟩ <;>
      exact ⟨trivial, .of trivial⟩
  · rw [← List.append_nil twinSetup] at hr
    exact absurd hr (not_unswept (by simp))
  · by_contra hq
    refine not_unswept (fun ix hix => ?_) hr
    rw [List.mem_singleton.1 hix]
    exact hfirst hq
  · by_cases hq : q = Scanner.demoPool
    · subst hq
      rw [hr.receipt, Option.map_some, Option.some.injEq, hr.stamp] at hstamp
      cases hstamp
    · rw [List.append_assoc] at hr
      refine absurd hr (not_unswept fun ix hix => ?_)
      simp only [List.cons_append, List.nil_append, List.mem_cons, List.not_mem_nil,
        or_false] at hix
      rcases hix with rfl | rfl
      · exact hfirst hq
      · nofun

/-- The second pool's dust alone is in the account, after the first pool's was swept. -/
theorem dust_covered_swept :
    ((twinWorld sweptRun).vault.receipts twinPool).map (fun r =>
      (r.dustMemecoinLamports, r.dustSweptAtTs)) = some (900000000000, 0) ∧
    DustCovered twinRuntime (twinWorld sweptRun) :=
  ⟨sweptRun_receipts.2.2, dust_covered twinRuntime Scanner.demoClock twinLedger sweptRun
    tidy_twinLedger along_sweptRun sweptRun (List.prefix_refl _)⟩

/-- After both salvages, what the receipts count and what the account holds; after the sweep for
the first pool, the second receipt, an account that can pay for the sweep, and that it fails. -/
theorem overlappingRun_receipts :
    ((twinWorld overlappingRun).vault.receipts Scanner.demoPool).map (dustOf demoMemecoin) =
      some 900000000000 ∧
    ((twinWorld overlappingRun).vault.receipts twinPool).map (dustOf demoMemecoin) =
      some 1800000000000 ∧
    tokensOf ((twinWorld overlappingRun).ledger (vaultMemecoinAta demoMemecoin)) =
      1800000000000 ∧
    ((twinWorld (overlappingRun ++ [firstSweep])).vault.receipts twinPool).map (fun r =>
      (r.memecoinMint, r.dustMemecoinLamports, r.dustSweptAtTs)) =
      some (demoMemecoin, 1800000000000, 0) ∧
    (twinWorld (overlappingRun ++ [firstSweep])).ledger (.key demoHolder) = .system 1000000000 ∧
    (sweepDust twinRuntime (twinWorld (overlappingRun ++ [firstSweep])).scanner.clock
      (twinWorld (overlappingRun ++ [firstSweep])).vault
      (twinWorld (overlappingRun ++ [firstSweep])).ledger twinPool demoMemecoin
      demoHolder).isOk = false := by
  decide +kernel

/-- The second receipt counts the dust of the first once more, and the sweep for the first pool
takes the dust of both. -/
theorem twinPools_not_covered : ¬DustCovered twinRuntime (twinWorld overlappingRun) ∧
    ∃ r, Unswept (twinWorld (overlappingRun ++ [firstSweep])).vault twinPool r ∧
      ¬Sweepable twinRuntime (twinWorld (overlappingRun ++ [firstSweep])) twinPool r := by
  obtain ⟨hfirst, htwin, hheld, hreceipt, hholder, hfails⟩ := overlappingRun_receipts
  constructor
  · intro h
    have hle := h.covered demoMemecoin
    have hpair : ∑ pool ∈ {Scanner.demoPool, twinPool},
        (((twinWorld overlappingRun).vault.receipts pool).map (dustOf demoMemecoin)).getD 0 ≤
          unsweptDust (twinWorld overlappingRun).vault demoMemecoin :=
      Finset.sum_le_sum_of_subset (Finset.subset_univ _)
    rw [Finset.sum_pair (by decide +kernel), hfirst, htwin] at hpair
    rw [hheld] at hle
    exact absurd (hpair.trans hle) (by decide)
  · obtain ⟨r, hr, hfields⟩ := Option.map_eq_some_iff.1 hreceipt
    obtain ⟨hmint, hdust, hstamp⟩ : _ ∧ _ ∧ _ := by simpa only [Prod.mk.injEq] using hfields
    refine ⟨r, ⟨hr, by rw [hdust]; decide, hstamp⟩, fun hs => ?_⟩
    obtain ⟨out, hout⟩ := hs demoHolder (by rw [hholder]; rfl) (by rw [hholder]; decide +kernel)
    rw [hmint] at hout
    rw [hout] at hfails
    cases hfails

end GraveYield.World
