import GraveYield.Authority
import GraveYield.Settlement

/-!
# The floor of the swap leg

`min_quote_output_lamports` is the floor of what Jupiter delivers. The handler does not compare it
with what the call brought in (`swapBalances`), but with the vault's WSOL balance after it less the
base of the withdrawal, which still counts whatever the account held before the withdrawal
(`prefundedWsol`). The floor holds for all behaviours of the two programs iff that was nothing, or
the floor is zero (`swapFloor_iff`) : in any other case a Jupiter that holds back
(`Program.delivering`) passes with less.
-/

namespace GraveYield.Vault

open Machine Checked
open Scanner (EligibilityCert)

variable {rt : Runtime} {clock : Clock} {cert? : Option EligibilityCert} {v : State}
  {l l' : Ledger} {params : SalvagePoolParams} {accounts : SalvageAccounts} {programs : Programs}

/-! ## Balances -/

/-- The ledgers just before and just after the call of Jupiter, if a salvage comes to an active
swap leg. -/
def swapLedgers (rt : Runtime) (clock : Clock) (cert : Option EligibilityCert) (v : State)
    (l : Ledger) (params : SalvagePoolParams) (accounts : SalvageAccounts) (programs : Programs) :
    Option (Ledger × Ledger) := do
  let p ← (prepare rt clock cert v l params accounts).toOption
  let (l₁, removal) ← (dispatchRemoveLiquidity programs.raydiumV4 p.ledger params accounts
    p.baseIsCoinSide).toOption
  guard (swapIsActive p.cfg removal)
  let l₂ ← programs.jupiterV6.call (routeMetas accounts) params.jupiterRouteData l₁
  return (l₁, l₂)

/-- The vault's WSOL balance just before and just after the call of Jupiter. -/
def swapBalances (rt : Runtime) (clock : Clock) (cert : Option EligibilityCert) (v : State)
    (l : Ledger) (params : SalvagePoolParams) (accounts : SalvageAccounts) (programs : Programs) :
    Option (U64 × U64) := do
  let (l₁, l₂) ← swapLedgers rt clock cert v l params accounts programs
  let before ← (l₁ vaultBaseAta).data.tokenAmount?
  let after ← (l₂ vaultBaseAta).data.tokenAmount?
  return (before, after)

/-- The WSOL that the vault's account holds when the withdrawal starts : what it holds, or, where
the salvage creates it, the lamports above its rent. -/
def prefundedWsol (rt : Runtime) (l : Ledger) : ℕ :=
  match (l vaultBaseAta).data with
  | .token t => t.amount.val
  | _ => (l vaultBaseAta).lamports - (rt.rentMinimumBalance TokenAccount.size).val

/-- Which ledgers stand before and after the swap. -/
theorem swapLedgers_eq_some {l₁ l₂ : Ledger} :
    swapLedgers rt clock cert? v l params accounts programs = some (l₁, l₂) ↔
      ∃ p removal, prepare rt clock cert? v l params accounts = .ok p ∧
        dispatchRemoveLiquidity programs.raydiumV4 p.ledger params accounts p.baseIsCoinSide =
          .ok (l₁, removal) ∧ swapIsActive p.cfg removal ∧
        programs.jupiterV6.call (routeMetas accounts) params.jupiterRouteData l₁ = some l₂ := by
  simp only [swapLedgers, Option.bind_eq_bind, Option.bind_eq_some_iff, toOption_eq_some_iff,
    Prod.exists, Option.guard_eq_some', exists_const, Option.pure_def, Option.some.injEq,
    Prod.mk.injEq]
  constructor
  · rintro ⟨p, h1, l₁, removal, h2, h3, l₂, h4, rfl, rfl⟩
    exact ⟨p, removal, h1, h2, h3, h4⟩
  · rintro ⟨p, removal, h1, h2, h3, h4⟩
    exact ⟨p, h1, l₁, removal, h2, h3, l₂, h4, rfl, rfl⟩

/-- Which balances stand there. -/
theorem swapBalances_eq_some {before after : U64} :
    swapBalances rt clock cert? v l params accounts programs = some (before, after) ↔
      ∃ l₁ l₂, swapLedgers rt clock cert? v l params accounts programs = some (l₁, l₂) ∧
        (l₁ vaultBaseAta).data.tokenAmount? = some before ∧
        (l₂ vaultBaseAta).data.tokenAmount? = some after := by
  simp only [swapBalances, Option.bind_eq_bind, Option.bind_eq_some_iff, Prod.exists,
    Option.pure_def, Option.some.injEq, Prod.mk.injEq]
  constructor
  · rintro ⟨l₁, l₂, h1, b, h2, a, h3, rfl, rfl⟩
    exact ⟨l₁, l₂, h1, h2, h3⟩
  · rintro ⟨l₁, l₂, h1, h2, h3⟩
    exact ⟨l₁, l₂, h1, before, h2, after, h3, rfl, rfl⟩

/-- An existing token account is not created again. -/
theorem initAtaIfNeeded_token {payer owner : Account} {mint : Pubkey} {a : Account}
    {t : TokenAccount} (h : l.initAtaIfNeeded rt payer owner mint = .ok l')
    (ht : (l a).data = .token t) : (l' a).data = .token t := by
  by_cases ha : a = .ata owner mint
  · subst ha
    unfold Ledger.initAtaIfNeeded at h
    rw [if_neg (by rw [ht]; nofun)] at h
    simp only [bind_ok_iff, require_ok_iff, exists_const, pure_ok_iff] at h
    obtain ⟨_, _, _, rfl⟩ := h
    exact ht
  · rw [Ledger.initAtaIfNeeded_data h ha, ht]

/-- The vault's WSOL account, once it is there. -/
theorem initAtaIfNeeded_base {payer : Account} (hp : payer ≠ .ata .vaultAuthority wsolMint)
    (h : l.initAtaIfNeeded rt payer .vaultAuthority wsolMint = .ok l') :
    ∃ t, (l' vaultBaseAta).data = .token t ∧ t.amount.val = prefundedWsol rt l := by
  unfold Ledger.initAtaIfNeeded at h
  split_ifs at h with hempty
  · simp only [Ledger.createAta, if_true, bind_ok_iff, okOr_ok_iff, Ledger.transfer_ok_iff,
      Word.ofNat?_eq_some, pure_ok_iff] at h
    obtain ⟨_, ⟨_, _, rfl⟩, amount, hamount, rfl⟩ := h
    refine ⟨.fresh wsolMint .vaultAuthority amount, by simp [vaultBaseAta], ?_⟩
    rw [Ledger.move_dst _ hp, AccountState.credit_lamports] at hamount
    simp only [prefundedWsol, vaultBaseAta, hempty, TokenAccount.fresh]
    rw [hamount]
    omega
  · simp only [bind_ok_iff, require_ok_iff, exists_const, Ledger.loadToken_ok_iff,
      pure_ok_iff] at h
    obtain ⟨t, ht, _, rfl⟩ := h
    exact ⟨t, ht, by simp only [prefundedWsol, vaultBaseAta, ht]⟩

/-- Before the withdrawal the base account holds what it was prefunded with. -/
theorem prepare_base {p : Prepared} (h : prepare rt clock cert? v l params accounts = .ok p) :
    ∃ t, (p.ledger vaultBaseAta).data = .token t ∧ t.amount.val = prefundedWsol rt l := by
  obtain ⟨l₅, l₆, hopened, h6, h7⟩ := prepare_ledgers h
  obtain ⟨l₂, l₃, l₄, h2, h3, h4, h5⟩ := openAccounts_ledgers hopened
  obtain ⟨t, ht, hamount⟩ := initAtaIfNeeded_base (by simp) h4
  have hsame : l₃ vaultBaseAta = l vaultBaseAta := by
    rw [Ledger.initRecord_frame h3 (by simp [vaultBaseAta]) (by simp [vaultBaseAta]),
      Ledger.initRecord_frame h2 (by simp [vaultBaseAta]) (by simp [vaultBaseAta])]
  refine ⟨t, ?_, by rw [hamount, prefundedWsol, prefundedWsol, hsame]⟩
  rw [Ledger.lazyInitSystemPda_data h7, Ledger.lazyInitSystemPda_data h6]
  exact initAtaIfNeeded_token h5 ht

/-- After the withdrawal the vault holds what it held and the base that was received. -/
theorem dispatchRemoveLiquidity_base {raydium : Program} {baseIsCoinSide : Bool}
    {removal : RemoveLiquidityOutput}
    (h : dispatchRemoveLiquidity raydium l params accounts baseIsCoinSide = .ok (l', removal))
    {t : TokenAccount} (ht : (l vaultBaseAta).data = .token t) {before : U64}
    (hb : (l' vaultBaseAta).data.tokenAmount? = some before) :
    before.val = t.amount.val + removal.baseReceived.val := by
  obtain ⟨_, h, _⟩ := dispatchRemoveLiquidity_ok h
  simp only [removeLiquidity, readTokenAmount, bind_ok_iff, require_ok_iff, exists_const,
    okOr_ok_iff, Word.checkedSub_eq_some, pure_ok_iff, Prod.mk.injEq] at h
  obtain ⟨_, _, _, _, pre, hpre, _, _, l₁, _, post, hpost, _, _, base, hbase, _, _, _, rfl,
    rfl⟩ := h
  rw [ht] at hpre
  obtain rfl := Option.some.inj hpre
  obtain rfl := Option.some.inj (hpost.symm.trans hb)
  exact hbase

/-- What an active swap leg checks. -/
theorem activeSwap_ok_iff {jupiter : Program} {cfg : ProtocolConfig} {baseIsCoinSide : Bool}
    {removal : RemoveLiquidityOutput} :
    activeSwap jupiter cfg l params accounts baseIsCoinSide removal = .ok l' ↔
      (vetRoute params accounts = .ok () ∧
        checkSlippage cfg l params accounts baseIsCoinSide removal.memecoinReceived = .ok () ∧
        params.jupiterRouteData ≠ [] ∧ accounts.jupiterProgram = jupiterV6ProgramId) ∧
      ∃ before t, (l vaultBaseAta).data.tokenAmount? = some before ∧
        jupiter.call (routeMetas accounts) params.jupiterRouteData l = some l' ∧
        (l' vaultBaseAta).data = .token t ∧ before.val ≤ t.amount.val ∧
        removal.baseReceived.val + params.minQuoteOutputLamports.val ≤ t.amount.val := by
  simp only [activeSwap, jupiterSwap, readTokenAmount, bind_ok_iff, require_ok_iff, exists_const,
    okOr_ok_iff, Word.checkedSub_eq_some, Ledger.loadToken_ok_iff, pure_ok_iff, Prod.exists,
    Prod.mk.injEq]
  constructor
  · rintro ⟨_, h1, _, h2, l₁, _, ⟨h3, h4, before, h5, _, h6, after, h7, _, h8, rfl, rfl⟩, t, h9, _,
      h10, h11, rfl⟩
    rw [h9] at h7
    obtain rfl := Option.some.inj h7
    exact ⟨⟨h1, h2, h3, h4⟩, before, t, h5, h6, h9, by omega, by omega⟩
  · rintro ⟨⟨h1, h2, h3, h4⟩, before, t, h5, h6, h7, h8, h9⟩
    have hlt := t.amount.isLt
    refine ⟨(), h1, (), h2, l', ⟨t.amount.val - before.val, by omega⟩, ⟨h3, h4, before, h5, l', h6,
      t.amount, by rw [h7]; rfl, _, by simp only; omega, rfl, rfl⟩, t, h7,
      ⟨t.amount.val - removal.baseReceived.val, by omega⟩, by simp only; omega, ?_, rfl⟩
    simp only
    omega

/-- The stages of a successful salvage around its call of Jupiter. -/
structure SwapStages (rt : Runtime) (clock : Clock) (cert? : Option EligibilityCert) (v : State)
    (l : Ledger) (params : SalvagePoolParams) (accounts : SalvageAccounts) (programs : Programs)
    (p : Prepared) (removal : RemoveLiquidityOutput) (l₁ l₂ : Ledger) : Prop where
  prepared : prepare rt clock cert? v l params accounts = .ok p
  removed : dispatchRemoveLiquidity programs.raydiumV4 p.ledger params accounts p.baseIsCoinSide =
    .ok (l₁, removal)
  active : swapIsActive p.cfg removal
  called : programs.jupiterV6.call (routeMetas accounts) params.jupiterRouteData l₁ = some l₂
  swapped : activeSwap programs.jupiterV6 p.cfg l₁ params accounts p.baseIsCoinSide removal = .ok l₂
  settleable : ∃ base, Settleable p.cfg l₂ params.poolAddress base
  memecoin : vaultMemecoinAta accounts.memecoinMint ≠ vaultBaseAta ∧
    ∃ t, (l₂ (vaultMemecoinAta accounts.memecoinMint)).data = .token t

theorem settle_memecoin {cfg : ProtocolConfig} {pool salvor mint : Pubkey} {s : Settlement}
    (h : settle cfg l pool salvor = .ok (l', s)) (hne : vaultMemecoinAta mint ≠ vaultBaseAta) :
    l' (vaultMemecoinAta mint) = l (vaultMemecoinAta mint) :=
  settle_frame h (by simp [vaultMemecoinAta]) (by simp [vaultMemecoinAta])
    (by simp [vaultMemecoinAta]) (by simp [vaultMemecoinAta]) hne

theorem exists_swapStages {out : State × Ledger} {l₁ l₂ : Ledger}
    (h : salvagePool rt clock cert? v l params accounts programs = .ok out)
    (hs : swapLedgers rt clock cert? v l params accounts programs = some (l₁, l₂)) :
    ∃ p removal, SwapStages rt clock cert? v l params accounts programs p removal l₁ l₂ := by
  obtain ⟨p, removal, hp, hr, hactive, hcall⟩ := swapLedgers_eq_some.1 hs
  simp only [salvagePool, swapLeg, hp, hr, ok_bind, if_pos hactive, bind_ok_iff, Prod.exists,
    Ledger.loadToken_ok_iff] at h
  obtain ⟨l₂', hswap, l₃, s, hsettle, t, ht, _⟩ := h
  obtain ⟨_, _, _, _, hcall', _⟩ := activeSwap_ok_iff.1 hswap
  obtain rfl : l₂ = l₂' := Option.some.inj (hcall.symm.trans hcall')
  obtain ⟨base, hsettleable, hclosed⟩ := settleable_of_settle hsettle
  have hne : vaultMemecoinAta accounts.memecoinMint ≠ vaultBaseAta := by
    intro heq
    rw [heq, hclosed] at ht
    cases ht
  rw [settle_memecoin hsettle hne] at ht
  exact ⟨p, removal, hp, hr, hactive, hcall, hswap, ⟨base, hsettleable⟩, hne, t, ht⟩

/-- The stages are all there is to a successful salvage. -/
theorem SwapStages.salvagePool {p : Prepared} {removal : RemoveLiquidityOutput} {l₁ l₂ : Ledger}
    (st : SwapStages rt clock cert? v l params accounts programs p removal l₁ l₂) :
    ∃ out, salvagePool rt clock cert? v l params accounts programs = .ok out := by
  obtain ⟨base, hsettleable⟩ := st.settleable
  obtain ⟨hne, t, ht⟩ := st.memecoin
  obtain ⟨l₃, s, hsettle⟩ := exists_settle accounts.salvor hsettleable
  simp only [Vault.salvagePool, swapLeg, st.prepared, st.removed, ok_bind, if_pos st.active,
    bind_ok_iff, Prod.exists, Ledger.loadToken_ok_iff, pure_ok_iff]
  exact ⟨_, _, l₂, st.swapped, l₃, s, hsettle, t, by rw [settle_memecoin hsettle hne, ht], rfl⟩

theorem SwapStages.swapLedgers {p : Prepared} {removal : RemoveLiquidityOutput} {l₁ l₂ : Ledger}
    (st : SwapStages rt clock cert? v l params accounts programs p removal l₁ l₂) :
    swapLedgers rt clock cert? v l params accounts programs = some (l₁, l₂) :=
  swapLedgers_eq_some.2 ⟨p, removal, st.prepared, st.removed, st.active, st.called⟩

/-- The balances around the call : of the balance after it the handler has checked that it is no
loss and covers the base and the floor together. -/
theorem SwapStages.balances {p : Prepared} {removal : RemoveLiquidityOutput} {l₁ l₂ : Ledger}
    (st : SwapStages rt clock cert? v l params accounts programs p removal l₁ l₂) :
    ∃ before base, (l₁ vaultBaseAta).data.tokenAmount? = some before ∧
      (l₂ vaultBaseAta).data = .token base ∧
      before.val = prefundedWsol rt l + removal.baseReceived.val ∧
      before.val ≤ base.amount.val ∧
      removal.baseReceived.val + params.minQuoteOutputLamports.val ≤ base.amount.val := by
  obtain ⟨_, before, base, hb, _, ht, hle, hfloor⟩ := activeSwap_ok_iff.1 st.swapped
  obtain ⟨t₀, ht₀, hpre⟩ := prepare_base st.prepared
  exact ⟨before, base, hb, ht, hpre ▸ dispatchRemoveLiquidity_base st.removed ht₀ hb, hle, hfloor⟩

/-! ## A Jupiter that holds back -/

/-- The account with less tokens. Its lamports stay, not wrapped. -/
def unwrapTo (amount : U64) (s : AccountState) : AccountState :=
  match s.data with
  | .token t => ⟨s.reserve + (t.amount.val - amount.val), .token { t with amount }⟩
  | _ => s

/-- What `jupiter` does, with the tokens of the vault's WSOL account brought down to `amount`. -/
def delivering (jupiter : Program) (amount : U64) : Program where
  call metas data l := (jupiter.call metas data l).map fun l' =>
    if Writable metas vaultBaseAta then
      Function.update l' vaultBaseAta (unwrapTo amount (l' vaultBaseAta))
    else l'
  frame := by
    intro metas data l l' h a ha
    obtain ⟨l₁, h1, rfl⟩ := Option.map_eq_some_iff.1 h
    rw [← jupiter.frame h1 a ha]
    split_ifs with hw
    · exact Function.update_of_ne (by rintro rfl; exact ha hw) _ _
    · rfl
  custody := by
    intro metas data l l' h a ha hs
    obtain ⟨l₁, h1, rfl⟩ := Option.map_eq_some_iff.1 h
    refine (jupiter.custody h1 a ha hs).trans (Ledger.Keeps.of_eq ?_)
    split_ifs
    · exact Function.update_of_ne (by rintro rfl; cases ha) _ _
    · rfl

theorem delivering_call (amount : U64) {jupiter : Program} {metas : List AccountMeta}
    {data : List Byte} (h : jupiter.call metas data l = some l')
    (hw : Writable metas vaultBaseAta) : (delivering jupiter amount).call metas data l =
      some (Function.update l' vaultBaseAta (unwrapTo amount (l' vaultBaseAta))) := by
  simp only [delivering, h, Option.map_some, hw, if_true]

theorem unwrapTo_data {amount : U64} {s : AccountState} {t : TokenAccount}
    (h : s.data = .token t) : (unwrapTo amount s).data = .token { t with amount } := by
  simp only [unwrapTo, h]

/-- Less in the vault's WSOL account, but something, is still settled. -/
theorem Settleable.unwrapTo {cfg : ProtocolConfig} {pool : Pubkey} {base : TokenAccount}
    {amount : U64} (h : Settleable cfg l pool base) (hpos : 0 < amount.val) :
    Settleable cfg (Function.update l vaultBaseAta (unwrapTo amount (l vaultBaseAta))) pool
      { base with amount } where
  shares := h.shares
  data := by rw [Function.update_self, unwrapTo_data h.data]
  amount := hpos
  mint := h.mint
  authority := h.authority
  holding := by
    rw [Function.update_of_ne (by simp [vaultBaseAta])]
    exact h.holding

/-- The stages are the same with every Jupiter that leaves the vault less WSOL, as long as it
covers what was there and the floor as the handler computes it. -/
theorem SwapStages.delivering {p : Prepared} {removal : RemoveLiquidityOutput} {l₁ l₂ : Ledger}
    {before : U64} (amount : U64)
    (st : SwapStages rt clock cert? v l params accounts programs p removal l₁ l₂)
    (hb : (l₁ vaultBaseAta).data.tokenAmount? = some before)
    (hw : Writable (routeMetas accounts) vaultBaseAta) (hpos : 0 < amount.val)
    (hbefore : before.val ≤ amount.val)
    (hfloor : removal.baseReceived.val + params.minQuoteOutputLamports.val ≤ amount.val) :
    SwapStages rt clock cert? v l params accounts
      ⟨programs.raydiumV4, delivering programs.jupiterV6 amount⟩ p removal l₁
      (Function.update l₂ vaultBaseAta (unwrapTo amount (l₂ vaultBaseAta))) := by
  obtain ⟨hchecks, _, base, _, _, ht, _⟩ := activeSwap_ok_iff.1 st.swapped
  obtain ⟨_, hsettleable⟩ := st.settleable
  obtain ⟨hne, t, hmeme⟩ := st.memecoin
  have hcall := delivering_call amount st.called hw
  refine ⟨st.prepared, st.removed, st.active, hcall, activeSwap_ok_iff.2 ⟨hchecks, before,
    { base with amount }, hb, hcall, ?_, hbefore, hfloor⟩, ⟨_, hsettleable.unwrapTo hpos⟩, hne,
    t, ?_⟩
  · rw [Function.update_self, unwrapTo_data ht]
  · rw [Function.update_of_ne hne, hmeme]

/-! ## The floor -/

/-- The WSOL that Jupiter delivers is at least the floor in every successful salvage with an
active swap leg, whatever the two programs do. -/
def SwapFloor (rt : Runtime) (clock : Clock) (cert? : Option EligibilityCert) (v : State)
    (l : Ledger) (params : SalvagePoolParams) (accounts : SalvageAccounts) : Prop :=
  ∀ (programs : Programs) (out : State × Ledger) (before after : U64),
    salvagePool rt clock cert? v l params accounts programs = .ok out →
    swapBalances rt clock cert? v l params accounts programs = some (before, after) →
      before.val + params.minQuoteOutputLamports.val ≤ after.val

/-- From any state in which some behaviour of the programs lets a salvage with an active swap leg
succeed, the floor holds for every behaviour iff the vault's WSOL account starts out empty or the
floor is zero. -/
theorem swapFloor_iff (rt : Runtime) (clock : Clock) (cert? : Option EligibilityCert) (v : State)
    (l : Ledger) (params : SalvagePoolParams) (accounts : SalvageAccounts)
    (hactive : ∃ programs out balances,
      salvagePool rt clock cert? v l params accounts programs = .ok out ∧
        swapBalances rt clock cert? v l params accounts programs = some balances) :
    SwapFloor rt clock cert? v l params accounts ↔
      prefundedWsol rt l = 0 ∨ params.minQuoteOutputLamports.val = 0 := by
  constructor
  · intro hfloor
    by_contra hno
    obtain ⟨hpre, hmin⟩ := not_or.1 hno
    obtain ⟨programs, out, ⟨before, after⟩, hok, hs⟩ := hactive
    have hdelivered := hfloor programs out before after hok hs
    obtain ⟨l₁, l₂, hl, hb, ha⟩ := swapBalances_eq_some.1 hs
    obtain ⟨p, removal, st⟩ := exists_swapStages hok hl
    obtain ⟨b, base, hb', ht, hheld, _, _⟩ := st.balances
    obtain rfl : before = b := Option.some.inj (hb.symm.trans hb')
    -- an account that the route does not hand over as writable receives nothing
    have hw : Writable (routeMetas accounts) vaultBaseAta := by
      by_contra hw
      rw [programs.jupiterV6.frame st.called _ hw] at ha
      obtain rfl := Option.some.inj (hb.symm.trans ha)
      omega
    have hlt := after.isLt
    let amount : U64 := ⟨before.val + (params.minQuoteOutputLamports.val - prefundedWsol rt l),
      by omega⟩
    have hval : amount.val =
        before.val + (params.minQuoteOutputLamports.val - prefundedWsol rt l) := rfl
    have st' := st.delivering amount hb hw (by omega) (by omega) (by omega)
    obtain ⟨out', hok'⟩ := st'.salvagePool
    have hless := hfloor _ out' before amount hok' (swapBalances_eq_some.2 ⟨l₁, _, st'.swapLedgers,
      hb, by rw [Function.update_self, unwrapTo_data ht]; rfl⟩)
    omega
  · intro h programs out before after hok hs
    obtain ⟨l₁, l₂, hl, hb, ha⟩ := swapBalances_eq_some.1 hs
    obtain ⟨p, removal, st⟩ := exists_swapStages hok hl
    obtain ⟨b, base, hb', ht, hheld, hnoLoss, hcovered⟩ := st.balances
    obtain rfl : before = b := Option.some.inj (hb.symm.trans hb')
    rw [ht] at ha
    obtain rfl := Option.some.inj ha
    omega

/-! ## A swap -/

open World

/-- The accounts of a certified pool, and two of a swap venue. -/
def swapLedger : Ledger :=
  Function.update (Function.update demoLedger (.key (Pubkey.fill 60))
    ⟨2039280, demoToken demoMemecoin (Pubkey.fill 62) 0⟩) (.key (Pubkey.fill 61))
    ⟨2039280, demoToken wsolMint (Pubkey.fill 62) 5000000000⟩

/-- A certified pool, and a vault whose dust threshold lets the swap happen. -/
def swapWorld (ledger : Ledger) : World :=
  run (exec Scanner.demoRuntime) (genesis Scanner.demoClock ledger)
    (Scanner.demoCalls.map .scanner ++
      [.scanner (.evaluatePoolPhase2 (Scanner.demoParams 899999) (Scanner.demoAccounts 899999)),
        .vault (.initializeProtocol ⟨Scanner.demoAuthority, 0, 0, 0, 0, 0, 1000000, 0⟩
          demoSalvor)])

/-- The certificate of the pool. -/
def swapCert (w : World) : Option EligibilityCert :=
  w.scanner.certs (raydiumV4ProgramId, Scanner.demoPool)

/-- The salvor asks for 900000000 lamports of the swap. -/
def swapParams : SalvagePoolParams :=
  { demoSalvageParams with
    minQuoteOutputLamports := 900000000
    jupiterRouteData := [1]
    jupiterRouteAccountsLen := 5 }

/-- The accounts of the swap. -/
def swapAccounts : SalvageAccounts :=
  { demoSalvageAccounts with
    remainingAccounts := demoSalvageAccounts.remainingAccounts ++
      [⟨.vaultAuthority, false, false⟩, ⟨vaultMemecoinAta demoMemecoin, false, true⟩,
        ⟨vaultBaseAta, false, true⟩, ⟨.key (Pubkey.fill 60), false, true⟩,
        ⟨.key (Pubkey.fill 61), false, true⟩] }

/-- The withdrawal of 900000000 lamports to a vault that then holds `base`. -/
def swapRaydium (base : U64) : Program :=
  .writing [(vaultBaseAta, .token (.fresh wsolMint .vaultAuthority base)),
    (vaultMemecoinAta demoMemecoin, .token (.fresh demoMemecoin .vaultAuthority 900000000000)),
    (.key (Pubkey.fill 22), demoToken wsolMint raydiumV4AmmAuthority 100000000),
    (.key (Pubkey.fill 21), demoToken demoMemecoin raydiumV4AmmAuthority 100000000000),
    (.key (Pubkey.fill 31), demoToken demoLpMint demoSalvor 0),
    (.key demoLpMint, .mint ⟨100, none⟩)]

/-- A Jupiter that pays for what it takes. -/
def payingJupiter : Program :=
  .writing [(vaultMemecoinAta demoMemecoin, .token (.fresh demoMemecoin .vaultAuthority 0)),
    (.key (Pubkey.fill 60), demoToken demoMemecoin (Pubkey.fill 62) 900000000000),
    (vaultBaseAta, .token (.fresh wsolMint .vaultAuthority 1800000000)),
    (.key (Pubkey.fill 61), demoToken wsolMint (Pubkey.fill 62) 4100000000)]

/-- A Jupiter that takes the memecoin and pays nothing. -/
def hoardingJupiter : Program :=
  .writing [(vaultMemecoinAta demoMemecoin, .token (.fresh demoMemecoin .vaultAuthority 0)),
    (.key (Pubkey.fill 60), demoToken demoMemecoin (Pubkey.fill 62) 900000000000)]

theorem swapFloor_iff_unfunded : SwapFloor Scanner.demoRuntime (swapWorld swapLedger).scanner.clock
    (swapCert (swapWorld swapLedger)) (swapWorld swapLedger).vault (swapWorld swapLedger).ledger
    swapParams swapAccounts := by
  have hok : (salvagePool Scanner.demoRuntime (swapWorld swapLedger).scanner.clock
      (swapCert (swapWorld swapLedger)) (swapWorld swapLedger).vault (swapWorld swapLedger).ledger
      swapParams swapAccounts ⟨swapRaydium 900000000, payingJupiter⟩).isOk = true := by
    decide +kernel
  obtain ⟨out, hout⟩ := exists_ok_of_isOk hok
  refine (swapFloor_iff _ _ _ _ _ _ _ ⟨⟨swapRaydium 900000000, payingJupiter⟩, out,
    (900000000, 1800000000), hout, by decide +kernel⟩).2 (Or.inl ?_)
  decide +kernel

/-- The vault's WSOL account, created and funded by somebody. -/
def prefundedLedger : Ledger :=
  Function.update swapLedger vaultBaseAta
    ⟨2039280, .token (.fresh wsolMint .vaultAuthority 900000000)⟩

theorem prefundedSwap_undelivered : ¬SwapFloor Scanner.demoRuntime
    (swapWorld prefundedLedger).scanner.clock (swapCert (swapWorld prefundedLedger))
    (swapWorld prefundedLedger).vault (swapWorld prefundedLedger).ledger swapParams
    swapAccounts := by
  intro h
  have hok : (salvagePool Scanner.demoRuntime (swapWorld prefundedLedger).scanner.clock
      (swapCert (swapWorld prefundedLedger)) (swapWorld prefundedLedger).vault
      (swapWorld prefundedLedger).ledger swapParams swapAccounts
      ⟨swapRaydium 1800000000, hoardingJupiter⟩).isOk = true := by
    decide +kernel
  obtain ⟨out, hout⟩ := exists_ok_of_isOk hok
  have hdelivered := h _ out 1800000000 1800000000 hout (by decide +kernel)
  revert hdelivered
  decide

end GraveYield.Vault
