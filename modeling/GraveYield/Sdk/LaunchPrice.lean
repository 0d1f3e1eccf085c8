import GraveYield.Adapters
import GraveYield.Sdk.History

/-!
# The launch price of a pool

`deriveLaunchPriceV4` lists the signatures of a pool back to its first transaction, in pages of
1000, and walks forward from there to the first swap. The price is the one that the vaults of the
pool had before it.

`deriveLaunchPriceV4_spec` : for a history that fits into the pages, the result is what the first
candidate of the history decides, however the pages fall. For any longer history it throws.
-/

namespace GraveYield.Sdk

open Machine Checked Scanner

/-! ## The source -/

/-- What `readV4PoolPair` reads of a pool. -/
structure V4PoolPair where
  coinVault : Pubkey
  pcVault : Pubkey
  baseMint : Pubkey
  quoteMint : Pubkey
  deriving DecidableEq

/-- `LaunchPriceDerivation`. -/
structure LaunchPriceDerivation where
  launchPriceQ64x64 : ℕ
  firstSwapSlot : ℤ
  firstSwapUnixTs : ℤ
  baseMint : Pubkey
  quoteMint : Pubkey
  signature : String
  deriving DecidableEq

/-- What the derivation throws. -/
inductive LaunchPriceError where
  | notAmmInfo
  | history (e : HistoryError)
  | pageLimit
  | noBlockTime
  | transactionUnavailable
  | noBaseLiquidity
  deriving DecidableEq

/-- `readV4PoolPair`. -/
def readV4PoolPair (conn : Connection) (poolAddress : Pubkey) :
    Except LaunchPriceError V4PoolPair := do
  let info ← okOr (conn.getAccountInfo poolAddress) .notAmmInfo
  if h : info.data.length = RAYDIUM_V4_AMM_INFO_SIZE then
    return {
      coinVault := ⟨slice info.data Off.COIN_VAULT 32, length_slice (by rw [h]; decide)⟩
      pcVault := ⟨slice info.data Off.PC_VAULT 32, length_slice (by rw [h]; decide)⟩
      baseMint := ⟨slice info.data Off.COIN_VAULT_MINT 32, length_slice (by rw [h]; decide)⟩
      quoteMint := ⟨slice info.data Off.PC_VAULT_MINT 32, length_slice (by rw [h]; decide)⟩ }
  else .error .notAmmInfo

/-- `PAGE_SIZE`. -/
def pageSize : ℕ := 1000

/-- The loop over the pages, with the number of pages that are left. -/
def signaturePages (connection : HistoryConnection) (poolAddress : Pubkey) :
    ℕ → Option String → List (List SignatureInfo) →
      Except LaunchPriceError (List (List SignatureInfo))
  | 0, _, _ => .error .pageLimit
  | page + 1, cursor, pages => do
    let batch ← okOr (connection.getSignaturesForAddress poolAddress pageSize cursor)
      (.history .signatures)
    match batch.getLast? with
    | none => return pages
    | some last =>
      if batch.length < pageSize then return pages ++ [batch]
      else signaturePages connection poolAddress page (some last.signature) (pages ++ [batch])

/-- Oldest page first, oldest signature first. -/
def chronological (pages : List (List SignatureInfo)) : List SignatureInfo :=
  pages.reverse.flatMap List.reverse

section Source

variable (keyList : List Pubkey) (vault : Pubkey) (tx : Transaction)

/-- The amount of the vault among the balances of a transaction. -/
def amountOf (balances : List TokenBalance) : U64 :=
  match keyList.findIdx? (· = vault) with
  | none => 0
  | some idx => ((balances.find? fun e => e.accountIndex = idx).map TokenBalance.amount).getD 0

/-- `coinDelta` and `pcDelta`. -/
def vaultDelta : ℤ :=
  (amountOf keyList vault tx.postTokenBalances).val -
    (amountOf keyList vault tx.preTokenBalances).val

/-- A swap moves the two vaults in opposite directions and touches both. -/
def opposite (coinDelta pcDelta : ℤ) : Bool :=
  coinDelta ≠ 0 && pcDelta ≠ 0 && decide (0 < coinDelta) != decide (0 < pcDelta)

variable (connection : HistoryConnection) (ammProgramId poolAddress : Pubkey) (pair : V4PoolPair)

/-- One turn of the walk. None is a `continue`. -/
def launchPriceTurn (info : SignatureInfo) :
    Option (Except LaunchPriceError LaunchPriceDerivation) :=
  if info.err ≠ none then none
  else match info.blockTime with
  | none => some (.error .noBlockTime)
  | some blockTime =>
    match connection.getTransaction info.signature with
    | none => some (.error (.history (.transaction info.signature)))
    | some none => some (.error .transactionUnavailable)
    | some (some tx) =>
      match tx.keyList? with
      | none => some (.error (.history (.accountKeys info.signature)))
      | some keyList =>
        if !invokes keyList ammProgramId poolAddress tx then none
        -- An initialization, a deposit, a withdrawal, or one side alone.
        else if !opposite (vaultDelta keyList pair.coinVault tx)
            (vaultDelta keyList pair.pcVault tx) then none
        else
          let coinPre := amountOf keyList pair.coinVault tx.preTokenBalances
          let pcPre := amountOf keyList pair.pcVault tx.preTokenBalances
          if coinPre.val ≤ 0 then some (.error .noBaseLiquidity)
          else some (.ok {
            launchPriceQ64x64 := pcPre.val * 2 ^ 64 / coinPre.val
            firstSwapSlot := info.slot
            firstSwapUnixTs := blockTime
            baseMint := pair.baseMint
            quoteMint := pair.quoteMint
            signature := info.signature })

/-- `deriveLaunchPriceV4`. -/
def deriveLaunchPriceV4 (conn : Connection) (maxPages : Option ℕ) :
    Except LaunchPriceError (Option LaunchPriceDerivation) := do
  let pair ← readV4PoolPair conn poolAddress
  let pages ← signaturePages connection poolAddress (maxPages.getD 50) none []
  match (chronological pages).findSome?
      (launchPriceTurn connection ammProgramId poolAddress pair) with
  | none => return none
  | some turn => some <$> turn

end Source

/-! ## What a history decides -/

section History

variable (connection : HistoryConnection) (ammProgramId poolAddress : Pubkey) (pair : V4PoolPair)

/-- The node lists the history of the pool newest first, in pages of what comes strictly before the
cursor, and each transaction that it has comes with its account list. -/
structure ServesPages (history : List SignatureInfo) : Prop where
  newest : ∀ limit ≤ pageSize,
    connection.getSignaturesForAddress poolAddress limit none = some (history.take limit)
  before : ∀ limit ≤ pageSize, ∀ newer info older, history = newer ++ info :: older →
    connection.getSignaturesForAddress poolAddress limit (some info.signature) =
      some (older.take limit)
  keys : ∀ info ∈ history, ∀ tx, connection.getTransaction info.signature = some (some tx) →
    tx.accountKeys.isSome = true

/-- The body of a transaction, if the node gives one. -/
def bodyOf (signature : String) : Option Transaction :=
  (connection.getTransaction signature).join

/-- The transaction invokes the program on the pool, and the vaults change by amounts of opposite
signs. -/
def Swaps (tx : Transaction) : Prop :=
  invokes tx.keys ammProgramId poolAddress tx = true ∧
    vaultDelta tx.keys pair.coinVault tx * vaultDelta tx.keys pair.pcVault tx < 0

/-- A successful transaction that lacks a block time or a body, or is a swap. -/
def Candidate (info : SignatureInfo) : Prop :=
  info.err = none ∧ (info.blockTime = none ∨ bodyOf connection info.signature = none ∨
    ∃ tx, bodyOf connection info.signature = some tx ∧ Swaps ammProgramId poolAddress pair tx)

/-- The first candidate of a history in chronological order. -/
def First (history : List SignatureInfo) (info : SignatureInfo) : Prop :=
  ∃ earlier later, history = earlier ++ info :: later ∧
    Candidate connection ammProgramId poolAddress pair info ∧
    ∀ e ∈ earlier, ¬Candidate connection ammProgramId poolAddress pair e

/-- What a candidate decides. -/
inductive Outcome (info : SignatureInfo) :
    Except LaunchPriceError LaunchPriceDerivation → Prop where
  | unserved (h : info.blockTime = none ∨ bodyOf connection info.signature = none)
      (e : LaunchPriceError) : Outcome info (.error e)
  | noLiquidity {tx : Transaction} (hbody : bodyOf connection info.signature = some tx)
      (h : (amountOf tx.keys pair.coinVault tx.preTokenBalances).val = 0)
      (e : LaunchPriceError) : Outcome info (.error e)
  | swap {time : ℤ} {tx : Transaction} {price : U128} (htime : info.blockTime = some time)
      (hbody : bodyOf connection info.signature = some tx)
      (hprice : ∀ lpSupply lpMint, PoolData.currentPriceQ64x64 {
        baseReserve := amountOf tx.keys pair.coinVault tx.preTokenBalances
        quoteReserve := amountOf tx.keys pair.pcVault tx.preTokenBalances
        lpSupply
        baseMint := pair.baseMint
        quoteMint := pair.quoteMint
        lpMint } = .ok price) :
      Outcome info (.ok ⟨price.val, info.slot, time, pair.baseMint, pair.quoteMint, info.signature⟩)

/-- What a history decides, in chronological order. -/
inductive Decides (history : List SignatureInfo) :
    Except LaunchPriceError (Option LaunchPriceDerivation) → Prop where
  | noSwap (h : ∀ info ∈ history, ¬Candidate connection ammProgramId poolAddress pair info) :
      Decides history (.ok none)
  | first {info : SignatureInfo} {out : Except LaunchPriceError LaunchPriceDerivation}
      (hfirst : First connection ammProgramId poolAddress pair history info)
      (hout : Outcome connection pair info out) : Decides history (some <$> out)

end History

/-! ## The pages -/

/-- The pages in the order of time. -/
theorem chronological_eq (pages : List (List SignatureInfo)) :
    chronological pages = pages.flatten.reverse := by
  rw [chronological, List.reverse_flatten, List.flatMap_def, List.map_reverse]

section Pages

variable {connection : HistoryConnection} {poolAddress : Pubkey} {history rest : List SignatureInfo}
  {cursor : Option String}

/-- What the node lists before the cursor. -/
def Before (history rest : List SignatureInfo) (cursor : Option String) : Prop :=
  cursor = none ∧ rest = history ∨
    ∃ newer info, history = newer ++ info :: rest ∧ cursor = some info.signature

/-- A page of the history. -/
theorem getSignaturesForAddress_eq (hserves : ServesPages connection poolAddress history)
    (hbefore : Before history rest cursor) :
    connection.getSignaturesForAddress poolAddress pageSize cursor =
      some (rest.take pageSize) := by
  rcases hbefore with ⟨rfl, rfl⟩ | ⟨newer, info, hsplit, rfl⟩
  · exact hserves.newest pageSize le_rfl
  · exact hserves.before pageSize le_rfl newer info rest hsplit

/-- The last signature of a page is the cursor for what comes behind the page. -/
theorem Before.drop {last : SignatureInfo} (hbefore : Before history rest cursor)
    (hlast : (rest.take pageSize).getLast? = some last) :
    Before history (rest.drop pageSize) (some last.signature) := by
  obtain ⟨page, hpage⟩ := List.getLast?_eq_some_iff.1 hlast
  have hrest : rest = page ++ last :: rest.drop pageSize := by
    conv_lhs => rw [← List.take_append_drop pageSize rest, hpage]
    simp
  rcases hbefore with ⟨_, rfl⟩ | ⟨newer, info, hsplit, _⟩
  · exact .inr ⟨page, last, hrest, rfl⟩
  · refine .inr ⟨newer ++ info :: page, last, ?_, rfl⟩
    rw [hsplit, List.append_assoc, List.cons_append, ← hrest]

/-- The loop lists all that is left if it is less than the pages hold, and throws otherwise. -/
theorem signaturePages_spec (hserves : ServesPages connection poolAddress history) (page : ℕ)
    (hbefore : Before history rest cursor) (pages : List (List SignatureInfo)) :
    (rest.length < page * pageSize → ∃ more,
      signaturePages connection poolAddress page cursor pages = .ok (pages ++ more) ∧
        more.flatten = rest) ∧
    (page * pageSize ≤ rest.length →
      signaturePages connection poolAddress page cursor pages = .error .pageLimit) := by
  induction page generalizing rest cursor pages with
  | zero => simp [signaturePages]
  | succ page ih =>
    rw [signaturePages, getSignaturesForAddress_eq hserves hbefore, okOr_some, ok_bind]
    cases hlast : (rest.take pageSize).getLast? with
    | none =>
      have hnil : rest = [] := by
        simpa [pageSize] using List.getLast?_eq_none_iff.1 hlast
      refine ⟨fun _ => ⟨[], congrArg Except.ok (List.append_nil pages).symm, by simp [hnil]⟩,
        fun hle => ?_⟩
      rw [hnil, List.length_nil, pageSize] at hle
      omega
    | some last =>
      have hlength : (rest.take pageSize).length = min pageSize rest.length := List.length_take
      by_cases hfull : rest.length < pageSize
      · have hshort : (rest.take pageSize).length < pageSize := by omega
        simp only [if_pos hshort]
        refine ⟨fun _ => ⟨[rest.take pageSize], rfl, ?_⟩, fun hle => ?_⟩
        · rw [List.flatten_singleton, List.take_of_length_le (by omega)]
        · rw [add_mul] at hle
          omega
      · have hshort : ¬(rest.take pageSize).length < pageSize := by omega
        have hdrop : (rest.drop pageSize).length = rest.length - pageSize := List.length_drop
        obtain ⟨hfits, hlimit⟩ := ih (hbefore.drop hlast) (pages ++ [rest.take pageSize])
        simp only [if_neg hshort]
        rw [add_mul, one_mul]
        constructor
        · intro hlt
          obtain ⟨more, hpages, hflatten⟩ := hfits (by omega)
          refine ⟨rest.take pageSize :: more, ?_, ?_⟩
          · rw [hpages, List.append_assoc, List.singleton_append]
          · rw [List.flatten_cons, hflatten, List.take_append_drop]
        · intro hle
          exact hlimit (by omega)

end Pages

/-! ## The walk -/

section Walk

variable {connection : HistoryConnection} (ammProgramId poolAddress : Pubkey) (pair : V4PoolPair)
  {info : SignatureInfo} {history : List SignatureInfo}

theorem opposite_iff {coinDelta pcDelta : ℤ} :
    opposite coinDelta pcDelta = true ↔ coinDelta * pcDelta < 0 := by
  rw [mul_neg_iff]
  simp only [opposite, Bool.and_eq_true, decide_eq_true_eq, bne_iff_ne, ne_eq, decide_eq_decide]
  omega

/-- The price of a pool whose base vault is not empty, whatever its LP token. -/
theorem Outcome.of_pos {time : ℤ} {tx : Transaction} (htime : info.blockTime = some time)
    (hbody : bodyOf connection info.signature = some tx)
    (hpos : 0 < (amountOf tx.keys pair.coinVault tx.preTokenBalances).val) :
    Outcome connection pair info (.ok {
      launchPriceQ64x64 := (amountOf tx.keys pair.pcVault tx.preTokenBalances).val * 2 ^ 64 /
        (amountOf tx.keys pair.coinVault tx.preTokenBalances).val
      firstSwapSlot := info.slot
      firstSwapUnixTs := time
      baseMint := pair.baseMint
      quoteMint := pair.quoteMint
      signature := info.signature }) := by
  have hquote := (amountOf tx.keys pair.pcVault tx.preTokenBalances).isLt
  have hfits : (amountOf tx.keys pair.pcVault tx.preTokenBalances).val * 2 ^ 64 /
      (amountOf tx.keys pair.coinVault tx.preTokenBalances).val < 2 ^ 128 :=
    (Nat.div_le_self _ _).trans_lt (by omega)
  have hprice : ∀ lpSupply lpMint, PoolData.currentPriceQ64x64
      ⟨amountOf tx.keys pair.coinVault tx.preTokenBalances,
        amountOf tx.keys pair.pcVault tx.preTokenBalances, lpSupply, pair.baseMint, pair.quoteMint,
        lpMint⟩ = .ok ⟨_, hfits⟩ :=
    fun _ _ => currentPriceQ64x64_ok_iff.2 ⟨hpos, rfl⟩
  exact .swap htime hbody hprice

theorem bodyOf_eq_some_iff {signature : String} {tx : Transaction} :
    bodyOf connection signature = some tx ↔
      connection.getTransaction signature = some (some tx) :=
  Option.join_eq_some_iff

/-- The turn of a transaction that is served continues unless the transaction is a swap. -/
theorem launchPriceTurn_served {time : ℤ} {tx : Transaction} (herr : info.err = none)
    (htime : info.blockTime = some time) (hbody : bodyOf connection info.signature = some tx)
    (hkeys : tx.accountKeys.isSome = true) :
    (launchPriceTurn connection ammProgramId poolAddress pair info = none ∧
      ¬Swaps ammProgramId poolAddress pair tx) ∨
    ∃ out, launchPriceTurn connection ammProgramId poolAddress pair info = some out ∧
      Swaps ammProgramId poolAddress pair tx ∧ Outcome connection pair info out := by
  simp only [launchPriceTurn, herr, htime, bodyOf_eq_some_iff.1 hbody, Transaction.keyList?_eq,
    if_pos hkeys, Swaps, ← opposite_iff, ne_eq, not_true_eq_false, if_false]
  by_cases hinvokes : invokes tx.keys ammProgramId poolAddress tx = true
  swap
  · exact .inl ⟨by simp [hinvokes], fun h => hinvokes h.1⟩
  by_cases hopposite : opposite (vaultDelta tx.keys pair.coinVault tx)
      (vaultDelta tx.keys pair.pcVault tx) = true
  swap
  · exact .inl ⟨by simp [hopposite], fun h => hopposite h.2⟩
  simp only [hinvokes, hopposite, Bool.not_true, Bool.false_eq_true, if_false]
  right
  by_cases hpre : (amountOf tx.keys pair.coinVault tx.preTokenBalances).val ≤ 0
  · exact ⟨_, if_pos hpre, ⟨trivial, trivial⟩, .noLiquidity hbody (Nat.le_zero.1 hpre) _⟩
  · exact ⟨_, if_neg hpre, ⟨trivial, trivial⟩, .of_pos pair htime hbody (Nat.lt_of_not_le hpre)⟩

/-- A turn continues, or its transaction is a candidate and the turn is what that decides. -/
theorem launchPriceTurn_spec (hkeys : ∀ tx,
      connection.getTransaction info.signature = some (some tx) → tx.accountKeys.isSome = true) :
    (launchPriceTurn connection ammProgramId poolAddress pair info = none ∧
      ¬Candidate connection ammProgramId poolAddress pair info) ∨
    ∃ out, launchPriceTurn connection ammProgramId poolAddress pair info = some out ∧
      Candidate connection ammProgramId poolAddress pair info ∧
        Outcome connection pair info out := by
  by_cases herr : info.err = none
  swap
  · exact .inl ⟨if_pos herr, fun h => herr h.1⟩
  cases htime : info.blockTime with
  | none =>
    have hturn : launchPriceTurn connection ammProgramId poolAddress pair info =
        some (.error .noBlockTime) := by
      simp [launchPriceTurn, herr, htime]
    exact .inr ⟨_, hturn, ⟨herr, .inl htime⟩, .unserved (.inl htime) _⟩
  | some time =>
    cases hbody : bodyOf connection info.signature with
    | none =>
      have hturn : ∃ e, launchPriceTurn connection ammProgramId poolAddress pair info =
          some (.error e) := by
        rcases hanswer : connection.getTransaction info.signature with _ | _ | tx
        · exact ⟨.history (.transaction info.signature),
            by simp [launchPriceTurn, herr, htime, hanswer]⟩
        · exact ⟨.transactionUnavailable, by simp [launchPriceTurn, herr, htime, hanswer]⟩
        · simp [bodyOf, hanswer] at hbody
      obtain ⟨e, hturn⟩ := hturn
      exact .inr ⟨_, hturn, ⟨herr, .inr (.inl hbody)⟩, .unserved (.inr hbody) e⟩
    | some tx =>
      rcases launchPriceTurn_served ammProgramId poolAddress pair herr htime hbody
        (hkeys tx (bodyOf_eq_some_iff.1 hbody)) with ⟨hturn, hswaps⟩ | ⟨out, hturn, hswaps, hout⟩
      · refine .inl ⟨hturn, ?_⟩
        rintro ⟨_, hnone | hnone | ⟨tx', hbody', hswaps'⟩⟩
        · simp [htime] at hnone
        · simp [hbody] at hnone
        · obtain rfl := Option.some.inj (hbody.symm.trans hbody')
          exact hswaps hswaps'
      · exact .inr ⟨out, hturn, ⟨herr, .inr (.inr ⟨tx, hbody, hswaps⟩)⟩, hout⟩

variable {ammProgramId poolAddress pair}

/-- The first turn that does not continue decides. -/
theorem decides_findSome (hkeys : ∀ info ∈ history, ∀ tx,
      connection.getTransaction info.signature = some (some tx) → tx.accountKeys.isSome = true) :
    Decides connection ammProgramId poolAddress pair history
      (match history.findSome? (launchPriceTurn connection ammProgramId poolAddress pair) with
      | none => .ok none
      | some turn => some <$> turn) := by
  have hskip : ∀ info ∈ history,
      launchPriceTurn connection ammProgramId poolAddress pair info = none →
        ¬Candidate connection ammProgramId poolAddress pair info := by
    intro info hinfo hnone
    rcases launchPriceTurn_spec ammProgramId poolAddress pair (hkeys info hinfo) with
      ⟨_, hcandidate⟩ | ⟨out, hsome, _⟩
    · exact hcandidate
    · simp [hnone] at hsome
  cases hfind : history.findSome? (launchPriceTurn connection ammProgramId poolAddress pair) with
  | none =>
    exact .noSwap fun info hinfo => hskip info hinfo (List.findSome?_eq_none_iff.1 hfind info hinfo)
  | some turn =>
    obtain ⟨earlier, info, later, hsplit, hturn, hearlier⟩ := List.findSome?_eq_some_iff.1 hfind
    have hmem : ∀ e ∈ earlier, e ∈ history := fun e he => hsplit ▸ List.mem_append_left _ he
    have hinfo : info ∈ history := hsplit ▸ List.mem_append_right earlier List.mem_cons_self
    rcases launchPriceTurn_spec ammProgramId poolAddress pair (hkeys info hinfo) with
      ⟨hnone, _⟩ | ⟨out, hsome, hcandidate, hout⟩
    · simp [hnone] at hturn
    · obtain rfl := Option.some.inj (hsome.symm.trans hturn)
      exact .first ⟨earlier, later, hsplit, hcandidate,
        fun e he => hskip e (hmem e he) (hearlier e he)⟩ hout

end Walk

/-! ## The derivation -/

/-- For every history of the pool : if it fits into the pages, the derivation gives what the history
decides from its oldest transaction on, and otherwise it throws. -/
theorem deriveLaunchPriceV4_spec (conn : Connection) (connection : HistoryConnection)
    (ammProgramId poolAddress : Pubkey) (maxPages : Option ℕ) (history : List SignatureInfo)
    (hserves : ServesPages connection poolAddress history) :
    (∀ pair, readV4PoolPair conn poolAddress = .ok pair →
      history.length < maxPages.getD 50 * 1000 →
      Decides connection ammProgramId poolAddress pair history.reverse
        (deriveLaunchPriceV4 connection ammProgramId poolAddress conn maxPages)) ∧
    (maxPages.getD 50 * 1000 ≤ history.length →
      ∃ e, deriveLaunchPriceV4 connection ammProgramId poolAddress conn maxPages = .error e) := by
  obtain ⟨hfits, hlimit⟩ :=
    signaturePages_spec hserves (maxPages.getD 50) (.inl ⟨rfl, rfl⟩) []
  constructor
  · intro pair hpair hlt
    obtain ⟨pages, hpages, hflatten⟩ := hfits hlt
    rw [deriveLaunchPriceV4, hpair, ok_bind, hpages, ok_bind, List.nil_append, chronological_eq,
      hflatten]
    exact decides_findSome fun info hinfo => hserves.keys info (List.mem_reverse.1 hinfo)
  · intro hle
    cases hpair : readV4PoolPair conn poolAddress with
    | error e => exact ⟨e, bind_error_iff.2 (.inl hpair)⟩
    | ok pair =>
      refine ⟨.pageLimit, bind_error_iff.2 (.inr ⟨pair, hpair, ?_⟩)⟩
      exact bind_error_iff.2 (.inl (hlimit hle))

/-! ## A pool with a deposit and a swap -/

/-- The node of a history. -/
def pagedNode (history : List SignatureInfo) (body : String → Option Transaction) :
    HistoryConnection where
  getSignaturesForAddress _ limit
    | none => some (history.take limit)
    | some cursor => some (((history.dropWhile fun i => i.signature ≠ cursor).drop 1).take limit)
  getTransaction signature := some (body signature)

/-- The paged node serves the history. -/
theorem servesPages_pagedNode {history : List SignatureInfo} {body : String → Option Transaction}
    {poolAddress : Pubkey} (hnodup : (history.map SignatureInfo.signature).Nodup)
    (hkeys : ∀ signature tx, body signature = some tx → tx.accountKeys.isSome = true) :
    ServesPages (pagedNode history body) poolAddress history where
  newest _ _ := rfl
  before limit _ newer info older hsplit := by
    have hnewer : ∀ i ∈ newer, i.signature ≠ info.signature := by
      intro i hi heq
      rw [hsplit, List.map_append, List.map_cons] at hnodup
      exact List.disjoint_of_nodup_append hnodup (List.mem_map_of_mem hi)
        (heq ▸ List.mem_cons_self)
    have hdrop : (history.dropWhile fun i => i.signature ≠ info.signature) = info :: older := by
      rw [hsplit, List.dropWhile_append_of_pos (by simpa using hnewer)]
      simp
    simp only [pagedNode, hdrop, List.drop_one, List.tail_cons]
  keys info _ tx hbody := hkeys info.signature tx (Option.some.inj hbody)

/-- A pool with its vaults and mints. -/
def tradedPool : Connection where
  getAccountInfo _ := some ⟨raydiumV4ProgramId, List.replicate 336 0 ++ (Pubkey.fill 2).val ++
    (Pubkey.fill 3).val ++ (Pubkey.fill 4).val ++ (Pubkey.fill 5).val ++ List.replicate 288 0⟩
  getProgramAccounts _ := []
  getSlot := none

/-- A transaction on the pool, with the balances of the two vaults before and after it. -/
def tradeTransaction (coinPre pcPre coinPost pcPost : U64) : Transaction where
  keys := [raydiumV4ProgramId, Pubkey.fill 1, Pubkey.fill 2, Pubkey.fill 3]
  accountKeys := some [raydiumV4ProgramId, Pubkey.fill 1, Pubkey.fill 2, Pubkey.fill 3]
  loadedWritable := []
  loadedReadonly := []
  compiledInstructions := [⟨0, [.index 1, .index 2, .index 3]⟩]
  innerInstructions := []
  preTokenBalances := [⟨2, coinPre⟩, ⟨3, pcPre⟩]
  postTokenBalances := [⟨2, coinPost⟩, ⟨3, pcPost⟩]
  ordered := by
    rintro ks ⟨rfl⟩
    rfl

/-- The swap takes 10 of 100 base tokens, where the deposit has left 300 quote tokens. -/
def tradedNode : HistoryConnection :=
  pagedNode [⟨"swap", none, 20, some 2000⟩, ⟨"deposit", none, 10, some 1000⟩] fun signature =>
    some (if signature = "deposit" then tradeTransaction 0 0 100 300
      else tradeTransaction 100 300 90 340)

theorem deriveLaunchPriceV4_tradedPool :
    deriveLaunchPriceV4 tradedNode raydiumV4ProgramId (Pubkey.fill 1) tradedPool none =
        .ok (some ⟨3 * 2 ^ 64, 20, 2000, Pubkey.fill 4, Pubkey.fill 5, "swap"⟩) ∧
      Decides tradedNode raydiumV4ProgramId (Pubkey.fill 1)
        ⟨Pubkey.fill 2, Pubkey.fill 3, Pubkey.fill 4, Pubkey.fill 5⟩
        [⟨"deposit", none, 10, some 1000⟩, ⟨"swap", none, 20, some 2000⟩]
        (deriveLaunchPriceV4 tradedNode raydiumV4ProgramId (Pubkey.fill 1) tradedPool none) := by
  have hserves : ServesPages tradedNode (Pubkey.fill 1)
      [⟨"swap", none, 20, some 2000⟩, ⟨"deposit", none, 10, some 1000⟩] := by
    refine servesPages_pagedNode (by decide) fun signature tx hbody => ?_
    obtain rfl := Option.some.inj hbody
    split_ifs
    · rfl
    · rfl
  exact ⟨by decide +kernel, (deriveLaunchPriceV4_spec tradedPool tradedNode raydiumV4ProgramId
    (Pubkey.fill 1) none _ hserves).1 _ (by decide +kernel) (by decide)⟩

end GraveYield.Sdk
