import GraveYield.Sdk.History

/-!
# The last swap of a pool

`deriveLastSwapV4` goes through the signatures of a pool, newest first, and returns the first
transaction that it finds to invoke the program on the pool. A transaction without a block time, and
one that the node does not return, it skips.

`failsClosed_iff` : the result is no older than any such transaction exactly where a request throws
in time, or each of them that is not served has one that is served and at least as recent.
-/

namespace GraveYield.Sdk

open Machine Checked

/-! ## The source -/

/-- `LastSwapDerivation`, the fields that are read. -/
structure LastSwapDerivation where
  lastSwapUnixTs : ℤ
  slot : ℤ
  deriving DecidableEq

/-- `LastSwapDerivation` with its signature. -/
structure DerivedLastSwap extends LastSwapDerivation where
  signature : String
  deriving DecidableEq

section Source

variable (connection : HistoryConnection) (ammProgramId poolAddress : Pubkey)

/-- One turn of the loop over the signatures. None is a `continue`. -/
def lastSwapTurn (info : SignatureInfo) : Option (Except HistoryError DerivedLastSwap) :=
  if info.err ≠ none then none
  else match info.blockTime with
  | none => none
  | some blockTime =>
    match connection.getTransaction info.signature with
    | none => some (.error (.transaction info.signature))
    | some none => none
    | some (some tx) =>
      match tx.keyList? with
      | none => some (.error (.accountKeys info.signature))
      | some keyList =>
        if invokes keyList ammProgramId poolAddress tx then
          some (.ok ⟨⟨blockTime, info.slot⟩, info.signature⟩)
        else none

/-- `deriveLastSwapV4`. -/
def deriveLastSwapV4 (scanLimit : Option ℕ) : Except HistoryError (Option DerivedLastSwap) := do
  let sigInfos ← okOr (connection.getSignaturesForAddress poolAddress (scanLimit.getD 1000) none)
    .signatures
  match sigInfos.findSome? (lastSwapTurn connection ammProgramId poolAddress) with
  | none => return none
  | some turn => some <$> turn

end Source

/-! ## A history and what is served of it -/

/-- How a node answers a request for a transaction. -/
inductive Answer where
  | throws
  | missing
  | body
  deriving DecidableEq

/-- A transaction of a pool, with what the node serves of it. -/
structure HistoryEntry where
  signature : String
  err : Option String
  slot : ℤ
  blockTime : ℤ
  tx : Transaction
  servesTime : Bool
  answer : Answer

/-- The transactions of a pool, newest first. -/
structure History where
  entries : List HistoryEntry
  newestFirst : entries.Pairwise fun a b => b.blockTime ≤ a.blockTime

namespace HistoryEntry

/-- The signature as the node lists it. -/
def info (e : HistoryEntry) : SignatureInfo :=
  ⟨e.signature, e.err, e.slot, if e.servesTime then some e.blockTime else none⟩

/-- What the node answers to the request for the transaction. -/
def response (e : HistoryEntry) : Option (Option Transaction) :=
  match e.answer with
  | .throws => none
  | .missing => some none
  | .body => some (some e.tx)

/-- A successful transaction that invoked the program on the pool. -/
def IsSwap (ammProgramId poolAddress : Pubkey) (e : HistoryEntry) : Prop :=
  e.err = none ∧ invokes e.tx.keys ammProgramId poolAddress e.tx = true

/-- The node gives the time, the body and its account keys. -/
def Served (e : HistoryEntry) : Prop :=
  e.servesTime = true ∧ e.answer = .body ∧ e.tx.accountKeys.isSome = true

/-- The transaction is asked for, and the node or web3 throws. -/
def Throws (e : HistoryEntry) : Prop :=
  e.err = none ∧ e.servesTime = true ∧
    (e.answer = .throws ∨ e.answer = .body ∧ e.tx.accountKeys.isSome = false)

end HistoryEntry

/-- The node lists the signatures of the history, or throws, and answers for each transaction. -/
structure ServesHistory (connection : HistoryConnection) (poolAddress : Pubkey) (h : History) :
    Prop where
  signatures : ∀ limit, connection.getSignaturesForAddress poolAddress limit none = none ∨
    connection.getSignaturesForAddress poolAddress limit none =
      some ((h.entries.take limit).map HistoryEntry.info)
  transactions : ∀ e ∈ h.entries, connection.getTransaction e.signature = e.response

/-- The result is no older than any swap of the scanned entries, or there is none. -/
def FailsClosed (ammProgramId poolAddress : Pubkey) (scanned : List HistoryEntry) :
    Except HistoryError (Option DerivedLastSwap) → Prop
  | .error _ => True
  | .ok none => ∀ e ∈ scanned, ¬e.IsSwap ammProgramId poolAddress
  | .ok (some d) => ∀ e ∈ scanned, e.IsSwap ammProgramId poolAddress →
    e.blockTime ≤ d.lastSwapUnixTs

/-- A request throws before any swap has been served. -/
def ThrowsInTime (ammProgramId poolAddress : Pubkey) (scanned : List HistoryEntry) : Prop :=
  ∃ newer e older, scanned = newer ++ e :: older ∧ e.Throws ∧
    ∀ d ∈ newer, ¬(d.IsSwap ammProgramId poolAddress ∧ d.Served)

/-- Every swap that is not served has one that is served and at least as recent. -/
def NoneHidden (ammProgramId poolAddress : Pubkey) (scanned : List HistoryEntry) : Prop :=
  ∀ e ∈ scanned, e.IsSwap ammProgramId poolAddress → ¬e.Served →
    ∃ d ∈ scanned, d.IsSwap ammProgramId poolAddress ∧ d.Served ∧ e.blockTime ≤ d.blockTime

section Turns

variable {connection : HistoryConnection} {e : HistoryEntry} (ammProgramId poolAddress : Pubkey)

/-- What a turn does : it throws, it returns a swap, or it continues. -/
theorem lastSwapTurn_info (hresponse : connection.getTransaction e.signature = e.response) :
    (∃ err, lastSwapTurn connection ammProgramId poolAddress e.info = some (.error err) ∧
      e.Throws) ∨
    (lastSwapTurn connection ammProgramId poolAddress e.info =
        some (.ok ⟨⟨e.blockTime, e.slot⟩, e.signature⟩) ∧
      e.IsSwap ammProgramId poolAddress ∧ e.Served) ∨
    (lastSwapTurn connection ammProgramId poolAddress e.info = none ∧ ¬e.Throws ∧
      ¬(e.IsSwap ammProgramId poolAddress ∧ e.Served)) := by
  unfold lastSwapTurn HistoryEntry.Throws HistoryEntry.IsSwap HistoryEntry.Served
  simp only [HistoryEntry.info, hresponse, HistoryEntry.response, Transaction.keyList?_eq]
  by_cases herr : e.err = none
  swap
  · simp [herr]
  by_cases htime : e.servesTime = true
  swap
  · simp [htime]
  cases hanswer : e.answer with
  | throws => simp [herr, htime]
  | missing => simp [herr, htime]
  | body =>
    by_cases hkeys : e.tx.accountKeys.isSome = true
    · by_cases hswap : invokes e.tx.keys ammProgramId poolAddress e.tx = true
      · simp [herr, htime, hkeys, hswap]
      · simp [herr, htime, hkeys, hswap]
    · simp [herr, htime, hkeys]

variable {ammProgramId poolAddress}

/-- When the loop goes on to the next signature. -/
theorem lastSwapTurn_eq_none_iff
    (hresponse : connection.getTransaction e.signature = e.response) :
    lastSwapTurn connection ammProgramId poolAddress e.info = none ↔
      ¬e.Throws ∧ ¬(e.IsSwap ammProgramId poolAddress ∧ e.Served) := by
  rcases lastSwapTurn_info ammProgramId poolAddress hresponse with
    ⟨err, hturn, hthrows⟩ | ⟨hturn, hswap⟩ | ⟨hturn, hskip⟩
  · simp [hturn, hthrows]
  · simp [hturn, hswap]
  · simp [hturn, hskip]

/-- When it throws. -/
theorem lastSwapTurn_error {err : HistoryError}
    (hresponse : connection.getTransaction e.signature = e.response)
    (h : lastSwapTurn connection ammProgramId poolAddress e.info = some (.error err)) :
    e.Throws := by
  rcases lastSwapTurn_info ammProgramId poolAddress hresponse with
    ⟨_, _, hthrows⟩ | ⟨hturn, _⟩ | ⟨hturn, _⟩
  · exact hthrows
  · simp [hturn] at h
  · simp [hturn] at h

/-- What it returns. -/
theorem lastSwapTurn_ok {d : DerivedLastSwap}
    (hresponse : connection.getTransaction e.signature = e.response)
    (h : lastSwapTurn connection ammProgramId poolAddress e.info = some (.ok d)) :
    e.IsSwap ammProgramId poolAddress ∧ e.Served ∧ d.lastSwapUnixTs = e.blockTime := by
  rcases lastSwapTurn_info ammProgramId poolAddress hresponse with
    ⟨_, hturn, _⟩ | ⟨hturn, hswap, hserved⟩ | ⟨hturn, _⟩
  · simp [hturn] at h
  · obtain rfl := Except.ok.inj (Option.some.inj (hturn.symm.trans h))
    exact ⟨hswap, hserved, rfl⟩
  · simp [hturn] at h

end Turns

/-! ## Failing closed -/

section Scan

variable {connection : HistoryConnection} {ammProgramId poolAddress : Pubkey}
  {scanned newer older : List HistoryEntry} {e : HistoryEntry}

theorem HistoryEntry.Served.not_throws (h : e.Served) : ¬e.Throws := by
  rintro ⟨_, _, hthrows | ⟨_, hkeys⟩⟩
  · simp [h.2.1] at hthrows
  · simp [h.2.2] at hkeys

/-- The scan stops at `e`. Then no request throws in time. -/
theorem not_throwsInTime (hsplit : scanned = newer ++ e :: older)
    (hswap : e.IsSwap ammProgramId poolAddress) (hserved : e.Served)
    (hnewer : ∀ d ∈ newer, ¬d.Throws) : ¬ThrowsInTime ammProgramId poolAddress scanned := by
  rintro ⟨newer', e', older', hsplit', hthrows, hnone⟩
  rcases List.append_eq_append_iff.1 (hsplit.symm.trans hsplit') with
    ⟨between, rfl, hcons⟩ | ⟨between, rfl, hcons⟩
  · rcases between with _ | ⟨d, between⟩
    · obtain rfl := List.head_eq_of_cons_eq hcons
      exact hserved.not_throws hthrows
    · obtain rfl := List.head_eq_of_cons_eq hcons
      exact hnone e (by simp) ⟨hswap, hserved⟩
  · rcases between with _ | ⟨d, between⟩
    · obtain rfl := List.head_eq_of_cons_eq hcons
      exact hserved.not_throws hthrows
    · obtain rfl := List.head_eq_of_cons_eq hcons
      exact hnewer e' (by simp) hthrows

/-- The first swap that is served is the most recent one of them. -/
theorem le_of_served (hsorted : scanned.Pairwise fun a b => b.blockTime ≤ a.blockTime)
    (hsplit : scanned = newer ++ e :: older)
    (hnewer : ∀ d ∈ newer, ¬(d.IsSwap ammProgramId poolAddress ∧ d.Served)) :
    ∀ d ∈ scanned, d.IsSwap ammProgramId poolAddress ∧ d.Served → d.blockTime ≤ e.blockTime := by
  intro d hd hserved
  rw [hsplit] at hd hsorted
  rcases List.mem_append.1 hd with hd | hd
  · exact absurd hserved (hnewer d hd)
  · rcases List.mem_cons.1 hd with rfl | hd
    · exact le_rfl
    · exact List.rel_of_pairwise_cons (List.pairwise_append.1 hsorted).2.1 hd

/-- The scan comes to its end without a result. -/
theorem forall_not_isSwap_iff
    (hskip : ∀ e ∈ scanned, ¬e.Throws ∧ ¬(e.IsSwap ammProgramId poolAddress ∧ e.Served)) :
    (∀ e ∈ scanned, ¬e.IsSwap ammProgramId poolAddress) ↔
      ThrowsInTime ammProgramId poolAddress scanned ∨
        NoneHidden ammProgramId poolAddress scanned := by
  constructor
  · intro hclosed
    exact .inr fun e he hswap _ => absurd hswap (hclosed e he)
  · rintro (⟨newer, e, older, rfl, hthrows, _⟩ | hhidden) d hd hswap
    · exact (hskip e (by simp)).1 hthrows
    · obtain ⟨d', hd', hswap', hserved', _⟩ :=
        hhidden d hd hswap fun hserved => (hskip d hd).2 ⟨hswap, hserved⟩
      exact (hskip d' hd').2 ⟨hswap', hserved'⟩

/-- The scan stops at `e`, which no swap that is served is younger than. -/
theorem forall_le_iff (he : e ∈ scanned) (hswap : e.IsSwap ammProgramId poolAddress)
    (hserved : e.Served)
    (hle : ∀ d ∈ scanned, d.IsSwap ammProgramId poolAddress ∧ d.Served →
      d.blockTime ≤ e.blockTime) :
    (∀ d ∈ scanned, d.IsSwap ammProgramId poolAddress → d.blockTime ≤ e.blockTime) ↔
      NoneHidden ammProgramId poolAddress scanned := by
  constructor
  · intro hclosed d hd hswap' _
    exact ⟨e, he, hswap, hserved, hclosed d hd hswap'⟩
  · intro hhidden d hd hswap'
    by_cases hserved' : d.Served
    · exact hle d hd ⟨hswap', hserved'⟩
    · obtain ⟨y, hy, hswapy, hservedy, hdy⟩ := hhidden d hd hswap' hserved'
      exact hdy.trans (hle y hy ⟨hswapy, hservedy⟩)

end Scan

/-- For every history and whatever the node serves of it : the derivation fails closed iff a request
throws in time, or no swap is hidden. -/
theorem failsClosed_iff (connection : HistoryConnection) (ammProgramId poolAddress : Pubkey)
    (scanLimit : Option ℕ) (h : History) (hserves : ServesHistory connection poolAddress h) :
    FailsClosed ammProgramId poolAddress (h.entries.take (scanLimit.getD 1000))
        (deriveLastSwapV4 connection ammProgramId poolAddress scanLimit) ↔
      connection.getSignaturesForAddress poolAddress (scanLimit.getD 1000) none = none ∨
      ThrowsInTime ammProgramId poolAddress (h.entries.take (scanLimit.getD 1000)) ∨
      NoneHidden ammProgramId poolAddress (h.entries.take (scanLimit.getD 1000)) := by
  rcases hserves.signatures (scanLimit.getD 1000) with hnone | hsome
  · simp only [deriveLastSwapV4, hnone]
    exact iff_of_true trivial (.inl trivial)
  have hresponse : ∀ e ∈ h.entries.take (scanLimit.getD 1000),
      connection.getTransaction e.signature = e.response :=
    fun e he => hserves.transactions e (List.mem_of_mem_take he)
  have hsorted : (h.entries.take (scanLimit.getD 1000)).Pairwise
      fun a b => b.blockTime ≤ a.blockTime := h.newestFirst.sublist (List.take_sublist _ _)
  rw [deriveLastSwapV4, hsome, okOr_some, ok_bind, List.findSome?_map]
  generalize h.entries.take (scanLimit.getD 1000) = scanned at hresponse hsorted ⊢
  simp only [reduceCtorEq, false_or]
  cases hfind : scanned.findSome?
      (lastSwapTurn connection ammProgramId poolAddress ∘ HistoryEntry.info) with
  | none =>
    have hskip : ∀ e ∈ scanned, ¬e.Throws ∧ ¬(e.IsSwap ammProgramId poolAddress ∧ e.Served) :=
      fun e he => (lastSwapTurn_eq_none_iff (hresponse e he)).1
        (List.findSome?_eq_none_iff.1 hfind e he)
    exact forall_not_isSwap_iff hskip
  | some turn =>
    obtain ⟨newer, e, older, hsplit, hturn, hskip⟩ := List.findSome?_eq_some_iff.1 hfind
    have he : e ∈ scanned := hsplit ▸ List.mem_append_right newer List.mem_cons_self
    have hnewer : ∀ d ∈ newer, ¬d.Throws ∧ ¬(d.IsSwap ammProgramId poolAddress ∧ d.Served) :=
      fun d hd => (lastSwapTurn_eq_none_iff
        (hresponse d (hsplit ▸ List.mem_append_left _ hd))).1 (hskip d hd)
    cases turn with
    | error err =>
      have hthrows := lastSwapTurn_error (hresponse e he) hturn
      exact iff_of_true trivial
        (.inl ⟨newer, e, older, hsplit, hthrows, fun d hd => (hnewer d hd).2⟩)
    | ok d =>
      obtain ⟨hswap, hserved, htime⟩ := lastSwapTurn_ok (hresponse e he) hturn
      have hintime := not_throwsInTime hsplit hswap hserved fun d hd => (hnewer d hd).1
      have hle := le_of_served hsorted hsplit fun d hd => (hnewer d hd).2
      rw [or_iff_right hintime, ← forall_le_iff he hswap hserved hle, ← htime]
      rfl

/-! ## A missing transaction -/

/-- The node of a list of entries. -/
def nodeOf (entries : List HistoryEntry) : HistoryConnection where
  getSignaturesForAddress _ limit _ := some ((entries.take limit).map HistoryEntry.info)
  getTransaction signature :=
    match entries.find? fun e => e.signature = signature with
    | some e => e.response
    | none => some none

/-- A transaction of one instruction of the program on the pool. -/
def swapTransaction (ammProgramId poolAddress : Pubkey) : Transaction where
  keys := [ammProgramId, poolAddress]
  accountKeys := some [ammProgramId, poolAddress]
  loadedWritable := []
  loadedReadonly := []
  compiledInstructions := [⟨0, [.index 1]⟩]
  innerInstructions := []
  preTokenBalances := []
  postTokenBalances := []
  ordered := by
    rintro ks ⟨rfl⟩
    rfl

/-- Two swaps, with the answer of the node for the newer one. -/
def twoSwaps (answer : Answer) : History where
  entries := [
    ⟨"newer", none, 20, 2000, swapTransaction raydiumV4ProgramId (Pubkey.fill 1), true, answer⟩,
    ⟨"older", none, 10, 1000, swapTransaction raydiumV4ProgramId (Pubkey.fill 1), true, .body⟩]
  newestFirst := by simp

theorem serves_twoSwaps (answer : Answer) :
    ServesHistory (nodeOf (twoSwaps answer).entries) (Pubkey.fill 1) (twoSwaps answer) where
  signatures _ := .inr rfl
  transactions e he := by
    rcases List.mem_cons.1 he with rfl | he
    · rfl
    · obtain rfl := List.mem_singleton.1 he
      rfl

theorem failsClosed_twoSwaps : FailsClosed raydiumV4ProgramId (Pubkey.fill 1)
    ((twoSwaps .body).entries.take 1000)
    (deriveLastSwapV4 (nodeOf (twoSwaps .body).entries) raydiumV4ProgramId (Pubkey.fill 1)
      none) := by
  refine (failsClosed_iff _ _ _ none _ (serves_twoSwaps .body)).2 (.inr (.inr ?_))
  intro e he _ hserved
  refine absurd ?_ hserved
  rcases List.mem_cons.1 he with rfl | he
  · exact ⟨rfl, rfl, rfl⟩
  · obtain rfl := List.mem_singleton.1 he
    exact ⟨rfl, rfl, rfl⟩

/-- The node does not have the newer swap : the older one is returned. -/
theorem not_failsClosed_twoSwaps :
    deriveLastSwapV4 (nodeOf (twoSwaps .missing).entries) raydiumV4ProgramId (Pubkey.fill 1) none =
        .ok (some ⟨⟨1000, 10⟩, "older"⟩) ∧
      ¬FailsClosed raydiumV4ProgramId (Pubkey.fill 1) ((twoSwaps .missing).entries.take 1000)
        (deriveLastSwapV4 (nodeOf (twoSwaps .missing).entries) raydiumV4ProgramId (Pubkey.fill 1)
          none) := by
  have hderive : deriveLastSwapV4 (nodeOf (twoSwaps .missing).entries) raydiumV4ProgramId
      (Pubkey.fill 1) none = .ok (some ⟨⟨1000, 10⟩, "older"⟩) := by
    decide +kernel
  refine ⟨hderive, fun hclosed => ?_⟩
  rw [hderive] at hclosed
  have hle := hclosed _ List.mem_cons_self ⟨rfl, by decide +kernel⟩
  exact absurd hle (by decide)

end GraveYield.Sdk
