import GraveYield.SplToken
import GraveYield.SwapFloor

/-!
# The isolation of the route

The route of the swap leg is forwarded with the signature of the vault authority, which owns the
token accounts of every pool. The vetting names the accounts of one pool only. `Isolated` says that
the call of Jupiter took nothing from the vault authority's other token accounts, for a Jupiter that
moves tokens only through the SPL Token program (`Program.UsesSplToken`).

A given route is isolated if none of these accounts is within its reach (`isolated_of_not_exposed`).
Over all routes that a salvor may choose, this is the case iff there is nothing to take
(`routeIsolated_iff`) : otherwise the account, its mint and, for a frozen account, the freeze
authority of the mint are appended to the route and pass the vetting, and the account is thawed and
emptied after the swap.
-/

namespace GraveYield.Vault

open Machine Checked TokenInstruction
open Scanner (EligibilityCert)

variable {rt : Runtime} {clock : Clock} {cert? : Option EligibilityCert} {v : State}
  {l l₁ l₂ : Ledger} {params : SalvagePoolParams} {accounts : SalvageAccounts}
  {programs : Programs} {p : Prepared}

/-! ## Other token accounts of the vault authority -/

/-- A token account of the vault authority that is not one of the pool's own two. Its mint is a
mint account that covers it, and wrapped SOL is never frozen. -/
structure OtherVaultToken (memecoinMint : Pubkey) (l : Ledger) (a : Account) (t : TokenAccount) :
    Prop where
  data : (l a).data = .token t
  owner : t.owner = .vaultAuthority
  pda : a.isVaultPda = false
  base : a ≠ vaultBaseAta
  memecoin : a ≠ vaultMemecoinAta memecoinMint
  minted : ∃ m, (l (.key t.mint)).data = .mint m ∧
    (t.mint ≠ wsolMint → t.amount.val ≤ m.supply.val)
  native : t.mint = wsolMint → t.frozen = false

/-- Frozen, and the freeze authority of its mint cannot be handed over, or cannot sign. -/
def FrozenForGood (params : SalvagePoolParams) (accounts : SalvageAccounts) (l : Ledger)
    (t : TokenAccount) : Prop :=
  t.frozen = true ∧ ∀ m f, (l (.key t.mint)).data = .mint m → m.freezeAuthority = some f →
    f ∈ forbiddenAccounts params accounts ∨ f.isVaultPda = true ∧ f ≠ .vaultAuthority

/-- The tokens at an account. -/
def tokensOf (s : AccountState) : ℕ :=
  (s.token?.map fun t => t.amount.val).getD 0

/-- No other token account of the vault authority has lost tokens. -/
def Isolated (memecoinMint : Pubkey) (l l' : Ledger) : Prop :=
  ∀ a t, OtherVaultToken memecoinMint l a t → t.amount.val ≤ tokensOf (l' a)

/-- What a token account holds. -/
theorem tokensOf_token {s : AccountState} {t : TokenAccount} (h : s.data = .token t) :
    tokensOf s = t.amount.val := by
  rw [tokensOf, AccountState.token?_eq_some.2 h]
  rfl

/-- A call is isolated if none of the accounts that hold tokens is within its reach. -/
theorem isolated_of_not_exposed {jupiter : Program} (hspl : jupiter.UsesSplToken)
    {metas : List AccountMeta} {data : List Byte} {memecoinMint : Pubkey}
    (hcall : jupiter.call metas data l₁ = some l₂)
    (h : ∀ a t, OtherVaultToken memecoinMint l₁ a t → 0 < t.amount.val →
      ¬Exposed metas l₁ a t) :
    Isolated memecoinMint l₁ l₂ := by
  intro a t ht
  rcases Nat.eq_zero_or_pos t.amount.val with hzero | hpos
  · omega
  · obtain ⟨is, his⟩ := hspl hcall
    obtain ⟨t', ht', hg⟩ := batch_token his ht.data hpos (h a t ht hpos)
    rw [tokensOf_token ht']
    exact hg.1

/-! ## Salvages that differ in the route -/

/-- The same parameters with another route. -/
def SalvagePoolParams.withRoute (params : SalvagePoolParams) (data : List Byte) (len : U8) :
    SalvagePoolParams :=
  { params with jupiterRouteData := data, jupiterRouteAccountsLen := len }

/-- The same accounts with another route. -/
def SalvageAccounts.withRoute (accounts : SalvageAccounts) (route : List AccountMeta) :
    SalvageAccounts :=
  { accounts with remainingAccounts := accounts.raydiumRemaining ++ route }

/-- The route of the other salvage. -/
theorem jupiterRemaining_withRoute (route : List AccountMeta)
    (h : accounts.raydiumRemaining.length = raydiumV4WithdrawRemainingAccountsRequired) :
    (accounts.withRoute route).jupiterRemaining = route :=
  List.drop_left' h

/-- The accounts of the withdrawal are the same. -/
theorem raydiumRemaining_withRoute (route : List AccountMeta)
    (h : accounts.raydiumRemaining.length = raydiumV4WithdrawRemainingAccountsRequired) :
    (accounts.withRoute route).raydiumRemaining = accounts.raydiumRemaining :=
  List.take_left' h

/-- The accounts are those of the withdrawal and those of the route. -/
theorem length_remaining (h : prepare rt clock cert? v l params accounts = .ok p) :
    accounts.remainingAccounts.length =
      raydiumV4WithdrawRemainingAccountsRequired + params.jupiterRouteAccountsLen.val := by
  have hbound := (prepare_ok h).1.bound
  simp only [bindPool, bind_ok_iff, require_ok_iff, exists_const, Prod.exists] at hbound
  obtain ⟨_, _, _, _, _, _, _, _, _, _, hlen, _⟩ := hbound
  exact hlen

/-- The pre-flight reads of the route its length and its signers. -/
theorem prepare_route (remaining : List AccountMeta) (data : List Byte) (len : U8)
    (h : prepare rt clock cert? v l params accounts = .ok p)
    (hsigned : ∀ m ∈ remaining, m.isSigner = true → m.account.isVaultPda = false)
    (hlen : remaining.length = raydiumV4WithdrawRemainingAccountsRequired + len.val) :
    prepare rt clock cert? v l
      { params with jupiterRouteData := data, jupiterRouteAccountsLen := len }
      { accounts with remainingAccounts := remaining } = .ok p := by
  simp only [prepare, bind_ok_iff, pure_ok_iff] at h ⊢
  obtain ⟨cfg, h1, cert, h2, l₁, h3, m, h4, w, h5, u, h6, l₂, h7, l₃, h8, side, h9, rfl⟩ := h
  refine ⟨cfg, h1, cert, h2, l₁, ?_, m, h4, w, h5, u, h6, l₂, h7, l₃, h8, side, ?_, rfl⟩
  · exact require_bind_ok_iff.2 ⟨hsigned, (require_bind_ok_iff.1 h3).2⟩
  · simp only [bindPool, bind_ok_iff, require_ok_iff, exists_const, Prod.exists] at h9 ⊢
    obtain ⟨a, b, c, g1, g2, g3, g4, g5, g6, g7, _, g8⟩ := h9
    exact ⟨a, b, c, g1, g2, g3, g4, g5, g6, g7, hlen, g8⟩

/-- The withdrawal does not read the route. -/
theorem dispatchRemoveLiquidity_route {raydium : Program} {remaining : List AccountMeta}
    {data : List Byte} {len : U8} {baseIsCoinSide : Bool}
    (h : remaining.take raydiumV4WithdrawRemainingAccountsRequired = accounts.raydiumRemaining) :
    dispatchRemoveLiquidity raydium l
        { params with jupiterRouteData := data, jupiterRouteAccountsLen := len }
        { accounts with remainingAccounts := remaining } baseIsCoinSide =
      dispatchRemoveLiquidity raydium l params accounts baseIsCoinSide := by
  have hr : SalvageAccounts.raydiumRemaining { accounts with remainingAccounts := remaining } =
      accounts.raydiumRemaining := h
  simp only [dispatchRemoveLiquidity, removeLiquidity, withdrawMetas, hr]

/-- The pool's ledger before the call of Jupiter does not depend on the route. -/
theorem swapLedgers_route {route : List AccountMeta} {data : List Byte} {len : U8}
    {raydium jupiter jupiter' : Program} {l₁' l₂' : Ledger}
    (h : swapLedgers rt clock cert? v l params accounts ⟨raydium, jupiter⟩ = some (l₁, l₂))
    (h' : swapLedgers rt clock cert? v l (params.withRoute data len) (accounts.withRoute route)
      ⟨raydium, jupiter'⟩ = some (l₁', l₂')) : l₁' = l₁ := by
  obtain ⟨p, removal, hp, hr, _, _⟩ := swapLedgers_eq_some.1 h
  obtain ⟨p', removal', hp', hr', _, _⟩ := swapLedgers_eq_some.1 h'
  have hraydium := raydiumRemaining_withRoute route
    (removeLiquidity_length (dispatchRemoveLiquidity_ok hr).2.1)
  have hback := prepare_route accounts.remainingAccounts params.jupiterRouteData
    params.jupiterRouteAccountsLen hp'
    (prepare_ok hp).1.unsigned (length_remaining hp)
  obtain rfl : p' = p := Except.ok.inj (hback.symm.trans hp)
  have hsame := hr'.symm.trans ((dispatchRemoveLiquidity_route hraydium).trans hr)
  exact (Prod.mk.inj (Except.ok.inj hsame)).1

/-- The accounts of the salvor are no mints when Jupiter is called. -/
theorem mint?_salvor {raydium : Program} (hspl : raydium.UsesSplToken)
    {removal : RemoveLiquidityOutput} {k : Pubkey}
    (hp : prepare rt clock cert? v l params accounts = .ok p)
    (hr : dispatchRemoveLiquidity raydium p.ledger params accounts p.baseIsCoinSide =
      .ok (l₁, removal))
    (hk : k = accounts.salvor ∨ .key k = accounts.salvorLpTokenAccount) :
    (l₁ (.key k)).mint? = none := by
  obtain ⟨is, his⟩ := hspl (dispatchRemoveLiquidity_ok hr).2.2
  refine batch_mint his ?_
  have hdata := (prepare_ok hp).1.data k
  suffices h : (l (.key k)).mint? = none by
    simp only [AccountState.mint?, hdata] at h ⊢
    exact h
  simp only [prepare, openAccounts, bind_ok_iff, require_ok_iff, exists_const,
    Ledger.loadToken_ok_iff] at hp
  obtain ⟨_, _, _, _, _, ⟨_, _, _, l₂, h2, _, _, l₃, h3, _, t, ht, _⟩, _⟩ := hp
  rcases hk with rfl | hk
  · simp only [Ledger.initRecord, bind_ok_iff, require_ok_iff, exists_const,
      Ledger.transfer_ok_iff] at h2
    obtain ⟨_, _, ⟨hempty, _⟩, _⟩ := h2
    simp only [AccountState.mint?, hempty]
  · rw [← hk, Ledger.initRecord_data h3 (by simp), Ledger.initRecord_data h2 (by simp)] at ht
    simp only [AccountState.mint?, ht]

/-! ## The isolation over all routes -/

/-- No route that passes the vetting lets Jupiter take tokens from the vault authority's other
accounts. -/
def RouteIsolated (rt : Runtime) (clock : Clock) (cert? : Option EligibilityCert) (v : State)
    (l : Ledger) (params : SalvagePoolParams) (accounts : SalvageAccounts) (raydium : Program) :
    Prop :=
  ∀ (route : List AccountMeta) (data : List Byte) (len : U8) (jupiter : Program)
    (out : State × Ledger) (l₁ l₂ : Ledger), jupiter.UsesSplToken →
    salvagePool rt clock cert? v l (params.withRoute data len) (accounts.withRoute route)
      ⟨raydium, jupiter⟩ = .ok out →
    swapLedgers rt clock cert? v l (params.withRoute data len) (accounts.withRoute route)
      ⟨raydium, jupiter⟩ = some (l₁, l₂) → Isolated accounts.memecoinMint l₁ l₂

/-- A route of the pool's own : with the vault authority, and without a mint or another token
account of the vault authority that is writable. -/
structure OwnRoute (accounts : SalvageAccounts) (l₁ : Ledger) : Prop where
  authority : ∃ m ∈ accounts.jupiterRemaining, m.account = .vaultAuthority
  mint : ∀ m ∈ accounts.jupiterRemaining, m.isWritable = true → (l₁ m.account).mint? = none
  token : ∀ m ∈ accounts.jupiterRemaining, m.isWritable = true → ∀ t,
    (l₁ m.account).data = .token t → t.owner = .vaultAuthority →
      m.account = vaultBaseAta ∨ m.account = vaultMemecoinAta accounts.memecoinMint

/-- Forwarding adds only the signature of the vault authority. -/
theorem mem_routeMetas {m : AccountMeta} (h : m ∈ routeMetas accounts) :
    ∃ m' ∈ accounts.jupiterRemaining, m'.account = m.account ∧ m'.isWritable = m.isWritable ∧
      (m.isSigner = true → m'.isSigner = true ∨ m.account = .vaultAuthority) := by
  obtain ⟨m', hm', rfl⟩ := List.mem_map.1 h
  refine ⟨m', hm', ?_⟩
  split_ifs with hauthority
  · exact ⟨rfl, rfl, fun _ => Or.inr hauthority⟩
  · exact ⟨rfl, rfl, Or.inl⟩

/-- What a route may write was given to it as writable. -/
theorem mem_of_writable_routeMetas {a : Account} (h : Writable (routeMetas accounts) a) :
    ∃ m ∈ accounts.jupiterRemaining, m.account = a ∧ m.isWritable = true := by
  obtain ⟨m, hm, rfl, hw⟩ := h
  obtain ⟨m', hm', heq, hwritable, _⟩ := mem_routeMetas hm
  exact ⟨m', hm', heq, hwritable.trans hw⟩

/-- What the vetting forbids is not writable in the route. -/
theorem not_writable_of_vetRoute (h : vetRoute params accounts = .ok ()) {a : Account}
    (ha : a ∈ forbiddenAccounts params accounts) : ¬Writable (routeMetas accounts) a := by
  intro hw
  simp only [vetRoute, bind_ok_iff, require_ok_iff, exists_const] at h
  obtain ⟨m, hm, rfl, _⟩ := mem_of_writable_routeMetas hw
  exact h.1 m hm ha

/-- What the vetting forbids is not handed over, and of the vault's addresses only the vault
authority signs. -/
theorem not_canSign_routeMetas (h : vetRoute params accounts = .ok ())
    (hunsigned : ∀ m ∈ accounts.remainingAccounts, m.isSigner = true →
      m.account.isVaultPda = false) {f : Account}
    (hf : f ∈ forbiddenAccounts params accounts ∨ f.isVaultPda = true ∧ f ≠ .vaultAuthority) :
    ¬CanSign (routeMetas accounts) f := by
  rintro ⟨⟨m, hm, hmf⟩, hsigns⟩
  simp only [vetRoute, bind_ok_iff, require_ok_iff, exists_const] at h
  rcases hf with hforbidden | ⟨hpda, hne⟩
  · obtain ⟨m', hm', heq, _⟩ := mem_routeMetas hm
    exact h.1 m' hm' (by rwa [heq, hmf])
  · obtain ⟨k, hk, hkf, hsigner⟩ := hsigns hpda
    obtain ⟨k', hk', heq, _, hsigned⟩ := mem_routeMetas hk
    rcases hsigned hsigner with hsigner' | hauthority
    · have hno := hunsigned k' (List.mem_of_mem_drop hk') hsigner'
      rw [heq, hkf, hpda] at hno
      cases hno
    · exact hne (hkf.symm.trans hauthority)

/-- The accounts of the vault authority that are not within reach of any route : those that the
vetting forbids, and those that hold nothing or cannot be thawed. -/
theorem isolated_of_nothing_to_take (params : SalvagePoolParams) (accounts : SalvageAccounts)
    {raydium jupiter : Program} {removal : RemoveLiquidityOutput}
    (hspl : jupiter.UsesSplToken)
    (st : SwapStages rt clock cert? v l params accounts ⟨raydium, jupiter⟩ p removal l₁ l₂)
    (h : ∀ a t, OtherVaultToken accounts.memecoinMint l₁ a t →
      a ∉ forbiddenAccounts params accounts →
        t.amount.val = 0 ∨ FrozenForGood params accounts l₁ t) :
    Isolated accounts.memecoinMint l₁ l₂ := by
  refine isolated_of_not_exposed hspl st.called fun a t ht hpos hexposed => ?_
  obtain ⟨hw, hmovable, _⟩ := hexposed
  have hvetted := (activeSwap_ok_iff.1 st.swapped).1.1
  have ha : a ∉ forbiddenAccounts params accounts := fun ha =>
    not_writable_of_vetRoute hvetted ha hw
  rcases h a t ht ha with hzero | ⟨hfrozen, hauthority⟩
  · omega
  · rcases hmovable with hfree | hnative | ⟨m, f, hm, hf, hsigns⟩
    · cases hfrozen.symm.trans hfree
    · cases hfrozen.symm.trans (ht.native hnative)
    · exact not_canSign_routeMetas hvetted (prepare_ok st.prepared).1.unsigned
        (hauthority m f hm hf) hsigns

/-! ## A route that takes -/

/-- The route with an account, its mint and a co-signer appended. -/
def robbedRoute (accounts : SalvageAccounts) (a : Account) (t : TokenAccount) (f : Account) :
    List AccountMeta :=
  accounts.jupiterRemaining ++
    [⟨a, false, true⟩, ⟨.key t.mint, false, true⟩, ⟨f, !f.isVaultPda, false⟩]

/-- What Jupiter is given then. -/
theorem routeMetas_robbedRoute {a f : Account} {t : TokenAccount}
    (hlen : accounts.raydiumRemaining.length = raydiumV4WithdrawRemainingAccountsRequired)
    (ha : a ≠ .vaultAuthority) (hf : f.isVaultPda = true → f = .vaultAuthority) :
    routeMetas (accounts.withRoute (robbedRoute accounts a t f)) =
      routeMetas accounts ++
        [⟨a, false, true⟩, ⟨.key t.mint, false, true⟩, ⟨f, true, false⟩] := by
  have hsigner : (if f = .vaultAuthority then (⟨f, true, false⟩ : AccountMeta)
      else ⟨f, !f.isVaultPda, false⟩) = ⟨f, true, false⟩ := by
    split_ifs with h
    · rfl
    · have hno : f.isVaultPda = false := by simpa using mt hf h
      rw [hno]
      rfl
  rw [routeMetas, jupiterRemaining_withRoute _ hlen]
  simp [routeMetas, robbedRoute, ha, hsigner]

/-- The vault authority signs where the route names it. -/
theorem canSign_routeMetas (h : ∃ m ∈ accounts.jupiterRemaining, m.account = .vaultAuthority) :
    CanSign (routeMetas accounts) .vaultAuthority := by
  obtain ⟨m, hm, ha⟩ := h
  have hmem : { m with isSigner := true } ∈ routeMetas accounts :=
    List.mem_map.2 ⟨m, hm, if_pos ha⟩
  exact ⟨⟨_, hmem, ha⟩, fun _ => ⟨_, hmem, ha, rfl⟩⟩

/-- With the appended accounts the account and its mint can be written, and the co-signer signs. -/
theorem appended_allow (metas : List AccountMeta) (k : Pubkey) (f : Account) {a : Account}
    (ha : a.isVaultPda = false) :
    let appended := metas ++ [⟨a, false, true⟩, ⟨.key k, false, true⟩, ⟨f, true, false⟩]
    Touches appended a ∧ Touches appended (.key k) ∧ CanSign appended f := by
  refine ⟨⟨⟨⟨a, false, true⟩, by simp, rfl, rfl⟩, fun h => absurd h (by simp [ha])⟩,
    ⟨⟨⟨.key k, false, true⟩, by simp, rfl, rfl⟩, fun h => by cases h⟩, ?_⟩
  have hmem : (⟨f, true, false⟩ : AccountMeta) ∈
      metas ++ [⟨a, false, true⟩, ⟨.key k, false, true⟩, ⟨f, true, false⟩] := by
    simp
  exact ⟨⟨_, hmem, rfl⟩, fun _ => ⟨_, hmem, rfl, rfl⟩⟩

/-- The appended accounts pass the vetting. -/
theorem vetRoute_robbedRoute {a f : Account} {t : TokenAccount} {data : List Byte} {len : U8}
    (hlen : accounts.raydiumRemaining.length = raydiumV4WithdrawRemainingAccountsRequired)
    (h : vetRoute params accounts = .ok ()) (ha : a ∉ forbiddenAccounts params accounts)
    (hm : Account.key t.mint ∉ forbiddenAccounts params accounts)
    (hf : f ∉ forbiddenAccounts params accounts) :
    vetRoute (params.withRoute data len) (accounts.withRoute (robbedRoute accounts a t f)) =
      .ok () := by
  simp only [vetRoute, bind_ok_iff, require_ok_iff, exists_const,
    jupiterRemaining_withRoute _ hlen] at h ⊢
  simp only [robbedRoute, List.mem_append, List.mem_cons, List.not_mem_nil, or_false]
  refine ⟨?_, ?_⟩
  · rintro m (hmem | rfl | rfl | rfl)
    · exact h.1 m hmem
    · exact ha
    · exact hm
    · exact hf
  · obtain ⟨m, hmem, hbase⟩ := h.2
    exact ⟨m, Or.inl hmem, hbase⟩

/-- The mint of a token account is not forbidden. -/
theorem mint_not_mem_forbiddenAccounts {raydium : Program} (hspl : raydium.UsesSplToken)
    {removal : RemoveLiquidityOutput} {k : Pubkey} {m : Mint}
    (hp : prepare rt clock cert? v l params accounts = .ok p)
    (hr : dispatchRemoveLiquidity raydium p.ledger params accounts p.baseIsCoinSide =
      .ok (l₁, removal))
    (hm : (l₁ (.key k)).data = .mint m) : Account.key k ∉ forbiddenAccounts params accounts := by
  have hno : ¬(k = accounts.salvor ∨ .key k = accounts.salvorLpTokenAccount) := fun hk => by
    have := mint?_salvor hspl hp hr hk
    rw [AccountState.mint?_eq_some.2 hm] at this
    cases this
  obtain ⟨h1, h2⟩ := not_or.1 hno
  simp [forbiddenAccounts, h1, h2]

/-- The swap itself leaves alone what is not writable in its route. -/
theorem SwapStages.swap_frame {raydium jupiter : Program} {removal : RemoveLiquidityOutput}
    (st : SwapStages rt clock cert? v l params accounts ⟨raydium, jupiter⟩ p removal l₁ l₂)
    {b : Account}
    (hb : ∀ m ∈ accounts.jupiterRemaining, m.isWritable = true → m.account ≠ b) : l₂ b = l₁ b :=
  jupiter.frame st.called b fun hw => by
    obtain ⟨m, hmem, heq, hwm⟩ := mem_of_writable_routeMetas hw
    exact hb m hmem hwm heq

/-- A route of the pool's own leaves alone another token account of the vault authority, and its
mint. -/
theorem SwapStages.spared {raydium jupiter : Program} {removal : RemoveLiquidityOutput}
    {a : Account} {t : TokenAccount}
    (st : SwapStages rt clock cert? v l params accounts ⟨raydium, jupiter⟩ p removal l₁ l₂)
    (hroute : OwnRoute accounts l₁) (ht : OtherVaultToken accounts.memecoinMint l₁ a t) :
    l₂ a = l₁ a ∧ l₂ (.key t.mint) = l₁ (.key t.mint) := by
  obtain ⟨m, hm, _⟩ := ht.minted
  constructor
  · refine st.swap_frame fun m hmem hw heq => ?_
    subst heq
    rcases hroute.token m hmem hw t ht.data ht.owner with h | h
    · exact ht.base h
    · exact ht.memecoin h
  · refine st.swap_frame fun m' hmem hw heq => ?_
    have hno := hroute.mint m' hmem hw
    rw [heq, AccountState.mint?_eq_some.2 hm] at hno
    cases hno

/-- The pre-flight does not mind the appended accounts. -/
theorem prepare_robbedRoute {a f : Account} {t : TokenAccount} {data : List Byte} {len : U8}
    (h : prepare rt clock cert? v l params accounts = .ok p)
    (hraydium : accounts.raydiumRemaining.length = raydiumV4WithdrawRemainingAccountsRequired)
    (hlen : len.val = accounts.jupiterRemaining.length + 3) :
    prepare rt clock cert? v l (params.withRoute data len)
      (accounts.withRoute (robbedRoute accounts a t f)) = .ok p := by
  have hunsigned := (prepare_ok h).1.unsigned
  refine prepare_route _ _ _ h (fun m hmem hsigner => ?_) ?_
  · rcases List.mem_append.1 hmem with hold | hnew
    · exact hunsigned m (List.mem_of_mem_take hold) hsigner
    · simp only [robbedRoute, List.mem_append, List.mem_cons, List.not_mem_nil, or_false] at hnew
      rcases hnew with hold | rfl | rfl | rfl
      · exact hunsigned m (List.mem_of_mem_drop hold) hsigner
      · cases hsigner
      · cases hsigner
      · simpa using hsigner
  · rw [List.length_append, hraydium, robbedRoute, List.length_append, hlen]
    rfl

/-- Tokens that are not frozen for good can be moved by somebody whom the vetting lets through. -/
theorem exists_thawing {l₁ : Ledger} {a : Account} {t : TokenAccount} {m : Mint}
    (hvet : vetRoute params accounts = .ok ()) (hroute : OwnRoute accounts l₁)
    (ht : OtherVaultToken accounts.memecoinMint l₁ a t) (hm : (l₁ (.key t.mint)).data = .mint m)
    (hf : ¬FrozenForGood params accounts l₁ t) : ∃ f, f ∉ forbiddenAccounts params accounts ∧
      (f.isVaultPda = true → f = .vaultAuthority) ∧
      (t.frozen = true → t.mint ≠ wsolMint ∧ m.freezeAuthority = some f) := by
  by_cases hfrozen : t.frozen = true
  · have hsome : ∃ f, m.freezeAuthority = some f ∧
        ¬(f ∈ forbiddenAccounts params accounts ∨ f.isVaultPda = true ∧ f ≠ .vaultAuthority) := by
      by_contra hnone
      refine hf ⟨hfrozen, fun m' f hm' hf' => ?_⟩
      obtain rfl := AccountData.mint.inj (hm.symm.trans hm')
      by_contra hno
      exact hnone ⟨f, hf', hno⟩
    obtain ⟨f, hauthority, hno⟩ := hsome
    obtain ⟨hforbidden, hpda⟩ := not_or.1 hno
    refine ⟨f, hforbidden, fun h => by_contra fun hne => hpda ⟨h, hne⟩, fun _ => ⟨?_, hauthority⟩⟩
    intro hn
    cases hfrozen.symm.trans (ht.native hn)
  · obtain ⟨k, hk, hauthority⟩ := hroute.authority
    simp only [vetRoute, bind_ok_iff, require_ok_iff, exists_const] at hvet
    exact ⟨.vaultAuthority, hauthority ▸ hvet.1 k hk, fun _ => rfl, fun h => absurd h hfrozen⟩

/-- The stages are the same with a Jupiter that, after the swap, thaws and takes the tokens of an
account that was appended to the route. -/
theorem SwapStages.robbing {raydium jupiter : Program} {removal : RemoveLiquidityOutput}
    {a : Account} {t : TokenAccount} (len : U8)
    (st : SwapStages rt clock cert? v l params accounts ⟨raydium, jupiter⟩ p removal l₁ l₂)
    (hspl : raydium.UsesSplToken) (hroute : OwnRoute accounts l₁)
    (hlen : len.val = accounts.jupiterRemaining.length + 3)
    (ht : OtherVaultToken accounts.memecoinMint l₁ a t)
    (hf : ¬FrozenForGood params accounts l₁ t) (ha : a ∉ forbiddenAccounts params accounts) :
    ∃ f l₃, SwapStages rt clock cert? v l (params.withRoute params.jupiterRouteData len)
        (accounts.withRoute (robbedRoute accounts a t f))
        ⟨raydium, jupiter.andThen accounts.jupiterRemaining.length
          (thawing a t f ++ taking a t)⟩ p removal l₁ l₃ ∧
      tokensOf (l₃ a) = 0 := by
  have hraydium := removeLiquidity_length (dispatchRemoveLiquidity_ok st.removed).2.1
  obtain ⟨m, hm, hsupply⟩ := ht.minted
  obtain ⟨hsa, hsm⟩ := st.spared hroute ht
  obtain ⟨hchecks, before, base, hb, _, hbase, hle, hfloor⟩ := activeSwap_ok_iff.1 st.swapped
  obtain ⟨f, hforbidden, hpda, hthaw⟩ := exists_thawing hchecks.1 hroute ht hm hf
  have hmetas := routeMetas_robbedRoute (t := t) hraydium
    (show a ≠ .vaultAuthority by rintro rfl; cases ht.pda) hpda
  obtain ⟨htouches, hmint, hcosign⟩ := appended_allow (routeMetas accounts) t.mint f ht.pda
  have hsign : CanSign (routeMetas (accounts.withRoute (robbedRoute accounts a t f))) t.owner := by
    rw [ht.owner, hmetas]
    exact (canSign_routeMetas hroute.authority).mono (List.subset_append_left _ _)
  rw [← hmetas] at htouches hmint hcosign
  obtain ⟨l₃, htake, hnone, hframe⟩ := batch_taking_thawed (l := l₂) (by rw [hsa, ht.data])
    (by rw [hsm, hm]) hthaw hsupply htouches hmint hsign hcosign
  have hcall : (jupiter.andThen accounts.jupiterRemaining.length (thawing a t f ++ taking a t)).call
      (routeMetas (accounts.withRoute (robbedRoute accounts a t f))) params.jupiterRouteData l₁ =
        some l₃ := by
    refine Option.bind_eq_some_iff.2 ⟨l₂, ?_, toOption_eq_some_iff.2 htake⟩
    rw [hmetas, List.take_left' (by simp [routeMetas])]
    exact st.called
  have hbase₃ : l₃ vaultBaseAta = l₂ vaultBaseAta := hframe _ ht.base.symm (by simp [vaultBaseAta])
  have hallowed := mint_not_mem_forbiddenAccounts hspl st.prepared st.removed hm
  refine ⟨f, l₃, ⟨prepare_robbedRoute st.prepared hraydium hlen, ?_, st.active, hcall, ?_, ?_,
    st.memecoin.1, ?_⟩, ?_⟩
  · exact (dispatchRemoveLiquidity_route (raydiumRemaining_withRoute _ hraydium)).trans st.removed
  · refine activeSwap_ok_iff.2 ⟨⟨vetRoute_robbedRoute hraydium hchecks.1 ha hallowed hforbidden, ?_,
      hchecks.2.2⟩, before, base, hb, hcall, by rw [hbase₃, hbase], hle, hfloor⟩
    rw [← hchecks.2.1]
    simp only [checkSlippage, raydiumRemaining_withRoute _ hraydium]
    rfl
  · obtain ⟨base', hs⟩ := st.settleable
    refine ⟨base', hs.shares, by rw [hbase₃, hs.data], hs.amount, hs.mint, hs.authority, ?_⟩
    rw [hframe _ (by rintro rfl; cases ht.pda) (by simp)]
    exact hs.holding
  · obtain ⟨t', ht'⟩ := st.memecoin.2
    have hmeme := hframe _ ht.memecoin.symm (by simp [vaultMemecoinAta])
    exact ⟨t', (congrArg AccountState.data hmeme).trans ht'⟩
  · rcases hnone with hempty | ⟨t', ht', hzero⟩
    · simp [tokensOf, AccountState.token?, hempty]
    · rw [tokensOf_token ht', hzero]

/-! ## When every route is isolated -/

/-- From a state in which the salvage succeeds with a route of the pool's own, of at most 252
accounts, every route that passes the vetting is isolated iff no other token account of the vault
authority, apart from what the vetting forbids, holds tokens that are not frozen for good. -/
theorem routeIsolated_iff (rt : Runtime) (clock : Clock) (cert? : Option EligibilityCert)
    (v : State) (l : Ledger) (params : SalvagePoolParams) (accounts : SalvageAccounts)
    (raydium jupiter : Program) (out : State × Ledger) (l₁ l₂ : Ledger)
    (hraydium : raydium.UsesSplToken) (hjupiter : jupiter.UsesSplToken)
    (hok : salvagePool rt clock cert? v l params accounts ⟨raydium, jupiter⟩ = .ok out)
    (hledgers : swapLedgers rt clock cert? v l params accounts ⟨raydium, jupiter⟩ = some (l₁, l₂))
    (hroute : OwnRoute accounts l₁) (hlen : accounts.jupiterRemaining.length ≤ 252) :
    (RouteIsolated rt clock cert? v l params accounts raydium ↔
      ∀ a t, OtherVaultToken accounts.memecoinMint l₁ a t →
        a ∉ forbiddenAccounts params accounts →
          t.amount.val = 0 ∨ FrozenForGood params accounts l₁ t) ∧
    ∀ (route : List AccountMeta) (data : List Byte) (len : U8) (jupiter' : Program)
      (out' : State × Ledger) (l₁' l₂' : Ledger), jupiter'.UsesSplToken →
      salvagePool rt clock cert? v l (params.withRoute data len) (accounts.withRoute route)
        ⟨raydium, jupiter'⟩ = .ok out' →
      swapLedgers rt clock cert? v l (params.withRoute data len) (accounts.withRoute route)
        ⟨raydium, jupiter'⟩ = some (l₁', l₂') →
      (∀ a t, OtherVaultToken accounts.memecoinMint l₁ a t → 0 < t.amount.val →
        ¬Exposed (routeMetas (accounts.withRoute route)) l₁ a t) →
      Isolated accounts.memecoinMint l₁ l₂' := by
  obtain ⟨p, removal, st⟩ := exists_swapStages hok hledgers
  refine ⟨⟨fun h a t ht ha => ?_, fun h => ?_⟩, ?_⟩
  · by_contra hno
    obtain ⟨hamount, hfrozen⟩ := not_or.1 hno
    obtain ⟨f, l₃, st', hnone⟩ := st.robbing
      ⟨accounts.jupiterRemaining.length + 3, by omega⟩ hraydium hroute rfl ht hfrozen ha
    obtain ⟨out', hok'⟩ := st'.salvagePool
    have hkept := h _ _ _ _ out' l₁ l₃ (hjupiter.andThen _ _) hok' st'.swapLedgers a t ht
    omega
  · intro route data len jupiter' out' l₁' l₂' hspl hok' hledgers'
    obtain rfl := swapLedgers_route hledgers hledgers'
    obtain ⟨p', removal', st'⟩ := exists_swapStages hok' hledgers'
    exact isolated_of_nothing_to_take (params.withRoute data len)
      (accounts.withRoute route) hspl st' h
  · intro route data len jupiter' out' l₁' l₂' hspl hok' hledgers' hexposed
    obtain rfl := swapLedgers_route hledgers hledgers'
    obtain ⟨p', removal', st'⟩ := exists_swapStages hok' hledgers'
    exact isolated_of_not_exposed hspl st'.called hexposed

/-! ## Another pool's dust -/

open World

/-- The memecoin of another pool. -/
def dustMint : Pubkey := Pubkey.fill 70

/-- The pool and the swap venue, and dust of another pool in its vault account. -/
def dustyLedger : Ledger :=
  Function.update (Function.update swapLedger (vaultMemecoinAta dustMint)
    ⟨2039280, .token (.fresh dustMint .vaultAuthority 5000)⟩) (.key dustMint)
    ⟨1461600, .mint ⟨5000, none⟩⟩

/-- The parameters with a route of six accounts. -/
def routeParams : SalvagePoolParams :=
  { swapParams with jupiterRouteAccountsLen := 6 }

/-- The authority of the swap venue is one of the route's accounts. -/
def routeAccounts : SalvageAccounts :=
  { swapAccounts with
    remainingAccounts := swapAccounts.remainingAccounts ++ [⟨.key (Pubkey.fill 62), false, false⟩] }

/-- The withdrawal as instructions. -/
def routeRaydium : Program :=
  .executing [.transfer (.key (Pubkey.fill 22)) vaultBaseAta (.key raydiumV4AmmAuthority) 900000000,
    .transfer (.key (Pubkey.fill 21)) (vaultMemecoinAta demoMemecoin) (.key raydiumV4AmmAuthority)
      900000000000,
    .burn (.key (Pubkey.fill 31)) demoLpMint (.key demoSalvor) 900]

/-- A swap of the memecoin as instructions. -/
def routeSwap : List TokenInstruction :=
  [.transfer (vaultMemecoinAta demoMemecoin) (.key (Pubkey.fill 60)) .vaultAuthority 900000000000,
    .transfer (.key (Pubkey.fill 61)) vaultBaseAta (.key (Pubkey.fill 62)) 900000000]

/-- The ledgers around the swap. -/
def routeLedgers (params : SalvagePoolParams) (accounts : SalvageAccounts) (jupiter : Program) :
    Option (Ledger × Ledger) :=
  swapLedgers Scanner.demoRuntime (swapWorld dustyLedger).scanner.clock
    (swapCert (swapWorld dustyLedger)) (swapWorld dustyLedger).vault (swapWorld dustyLedger).ledger
    params accounts ⟨routeRaydium, jupiter⟩

theorem routeIsolated_iff_dusty : ∃ l₁,
    (RouteIsolated Scanner.demoRuntime (swapWorld dustyLedger).scanner.clock
      (swapCert (swapWorld dustyLedger)) (swapWorld dustyLedger).vault
      (swapWorld dustyLedger).ledger routeParams routeAccounts routeRaydium ↔
      ∀ a t, OtherVaultToken demoMemecoin l₁ a t → a ∉ forbiddenAccounts routeParams routeAccounts →
        t.amount.val = 0 ∨ FrozenForGood routeParams routeAccounts l₁ t) := by
  have hok : (salvagePool Scanner.demoRuntime (swapWorld dustyLedger).scanner.clock
      (swapCert (swapWorld dustyLedger)) (swapWorld dustyLedger).vault
      (swapWorld dustyLedger).ledger routeParams routeAccounts
      ⟨routeRaydium, .executing routeSwap⟩).isOk = true := by
    decide +kernel
  have hdata : (routeLedgers routeParams routeAccounts (.executing routeSwap)).map (fun q =>
      routeAccounts.jupiterRemaining.map fun m => (q.1 m.account).data) =
        some [.empty, .token (.fresh demoMemecoin .vaultAuthority 900000000000),
          .token (.fresh wsolMint .vaultAuthority 900000000),
          demoToken demoMemecoin (Pubkey.fill 62) 0, demoToken wsolMint (Pubkey.fill 62) 5000000000,
          .empty] := by
    decide +kernel
  have hremaining : routeAccounts.jupiterRemaining =
      [⟨.vaultAuthority, false, false⟩, ⟨vaultMemecoinAta demoMemecoin, false, true⟩,
        ⟨vaultBaseAta, false, true⟩, ⟨.key (Pubkey.fill 60), false, true⟩,
        ⟨.key (Pubkey.fill 61), false, true⟩, ⟨.key (Pubkey.fill 62), false, false⟩] := rfl
  obtain ⟨out, hout⟩ := exists_ok_of_isOk hok
  obtain ⟨⟨l₁, l₂⟩, hl, hmap⟩ := Option.map_eq_some_iff.1 hdata
  simp only [hremaining, List.map_cons, List.map_nil, List.cons.injEq, and_true] at hmap
  obtain ⟨_, h1, h2, h3, h4, _⟩ := hmap
  have hown : OwnRoute routeAccounts l₁ := by
    have hwritable : ∀ m ∈ routeAccounts.jupiterRemaining, m.isWritable = true →
        ∃ t, (l₁ m.account).data = .token t ∧ (t.owner = .vaultAuthority →
          m.account = vaultBaseAta ∨ m.account = vaultMemecoinAta demoMemecoin) := by
      simp only [hremaining, List.mem_cons, List.not_mem_nil, or_false]
      rintro m (rfl | rfl | rfl | rfl | rfl | rfl) hw
      · cases hw
      · exact ⟨_, h1, fun _ => Or.inr rfl⟩
      · exact ⟨_, h2, fun _ => Or.inl rfl⟩
      · exact ⟨_, h3, fun h => nomatch h⟩
      · exact ⟨_, h4, fun h => nomatch h⟩
      · cases hw
    refine ⟨⟨⟨.vaultAuthority, false, false⟩, by rw [hremaining]; exact List.mem_cons_self, rfl⟩,
      fun m hm hw => ?_, fun m hm hw t ht howner => ?_⟩
    · obtain ⟨t, ht, _⟩ := hwritable m hm hw
      simp only [AccountState.mint?, ht]
    · obtain ⟨t', ht', h⟩ := hwritable m hm hw
      obtain rfl := AccountData.token.inj (ht.symm.trans ht')
      exact h howner
  exact ⟨l₁, (routeIsolated_iff _ _ _ _ _ _ _ _ _ out l₁ l₂ (Program.usesSplToken_executing _)
    (Program.usesSplToken_executing _) hout hl hown (by rw [hremaining]; decide)).1⟩

/-- The route with the account of the dust and its mint. -/
def dustRoute : List AccountMeta :=
  routeAccounts.jupiterRemaining ++
    [⟨vaultMemecoinAta dustMint, false, true⟩, ⟨.key dustMint, false, true⟩]

/-- The swap, and then the dust is burned with the signature of the vault authority. -/
def dustSwap : Program :=
  .executing (routeSwap ++ [.burn (vaultMemecoinAta dustMint) dustMint .vaultAuthority 5000])

/-- The route through the dust is not isolated. -/
theorem dustRoute_not_isolated : ¬RouteIsolated Scanner.demoRuntime
    (swapWorld dustyLedger).scanner.clock (swapCert (swapWorld dustyLedger))
    (swapWorld dustyLedger).vault (swapWorld dustyLedger).ledger routeParams routeAccounts
    routeRaydium := by
  intro h
  have hok : (salvagePool Scanner.demoRuntime (swapWorld dustyLedger).scanner.clock
      (swapCert (swapWorld dustyLedger)) (swapWorld dustyLedger).vault
      (swapWorld dustyLedger).ledger (routeParams.withRoute [1] 8)
      (routeAccounts.withRoute dustRoute) ⟨routeRaydium, dustSwap⟩).isOk = true := by
    decide +kernel
  have hdata : (routeLedgers (routeParams.withRoute [1] 8) (routeAccounts.withRoute dustRoute)
      dustSwap).map (fun q => ((q.1 (vaultMemecoinAta dustMint)).data, (q.1 (.key dustMint)).data,
        tokensOf (q.2 (vaultMemecoinAta dustMint)))) =
      some (.token (.fresh dustMint .vaultAuthority 5000), .mint ⟨5000, none⟩, 0) := by
    decide +kernel
  obtain ⟨out, hout⟩ := exists_ok_of_isOk hok
  obtain ⟨⟨l₁, l₂⟩, hl, hmap⟩ := Option.map_eq_some_iff.1 hdata
  obtain ⟨h1, h2, h3⟩ : _ ∧ _ ∧ _ := by simpa only [Prod.mk.injEq] using hmap
  have hkept := h dustRoute [1] 8 dustSwap out l₁ l₂ (Program.usesSplToken_executing _) hout hl
    (vaultMemecoinAta dustMint) (.fresh dustMint .vaultAuthority 5000)
    ⟨h1, rfl, rfl, by decide, by decide, ⟨⟨5000, none⟩, h2, fun _ => le_rfl⟩, fun _ => rfl⟩
  rw [h3] at hkept
  revert hkept
  decide

end GraveYield.Vault
