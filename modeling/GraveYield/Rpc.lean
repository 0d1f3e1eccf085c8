import GraveYield.Enumeration
import GraveYield.Lib.PermUpTo
import GraveYield.Locks

/-!
# Snapshots over RPC

The sources of the builder ask a node : for the mint account, for the token accounts of the mint
and for the lock records of the pool. The two enumerations are `getProgramAccounts` queries, with
filters on the size and on bytes at offsets, whose answers are parsed account by account.

`Bank` is the state of the chain that the node serves. A truthful node may answer an enumeration
in any order and leave accounts out (`Truthful`), a complete one leaves out nothing (`Complete`).
The builder compares the sum of the enumerated balances with the supply, so that an account which
is left out has no balance (`PermUpTo.of_subperm`), and what it builds is exact for the bank
(`rpcSnapshot_exact`).
-/

namespace GraveYield.Snapshotter

open Machine Checked

/-! ## Queries -/

/-- `Account`, as far as it is read. -/
structure RpcAccount where
  owner : Pubkey
  data : List Byte
  deriving DecidableEq

/-- `RpcFilterType`. -/
inductive RpcFilter where
  | dataSize (size : ℕ)
  | memcmp (offset : ℕ) (bytes : List Byte)
  deriving DecidableEq

/-- What a node checks of the data of an account. -/
def RpcFilter.Matches (data : List Byte) : RpcFilter → Prop
  | .dataSize size => data.length = size
  | .memcmp offset bytes => slice data offset bytes.length = bytes

/-- Whether data matches a filter is decided. -/
instance (data : List Byte) (f : RpcFilter) : Decidable (f.Matches data) :=
  match f with
  | .dataSize _ => inferInstanceAs (Decidable (_ = _))
  | .memcmp _ _ => inferInstanceAs (Decidable (_ = _))

/-- `RpcClient` : a call fails, or the node answers it. An account comes with the slot at which it
is served. -/
structure RpcClient where
  getAccount : Pubkey → Option (U64 × Option RpcAccount)
  getProgramAccounts : Pubkey → List RpcFilter → Option (List (Pubkey × RpcAccount))

/-- Every classic token account of a mint. -/
def tokenAccountFilters (lpMint : Pubkey) : List RpcFilter :=
  [.dataSize SplLayout.accountSize, .memcmp SplLayout.mintOffset lpMint.val]

/-- Every lock record of a pool and its LP mint. -/
def tokenLockFilters (ammId lpMint : Pubkey) : List RpcFilter :=
  [.dataSize Uncx.tokenLockSize, .memcmp 0 Uncx.tokenLockDisc, .memcmp Uncx.offAmmId ammId.val,
    .memcmp Uncx.offLpMint lpMint.val]

/-! ## The sources -/

namespace SplLayout

/-- `MINT_SIZE`. -/
def mintSize : ℕ := 82

/-- `MINT_SUPPLY_OFFSET`. -/
def mintSupplyOffset : ℕ := 36

end SplLayout

/-- `parse_spl_mint_supply`. -/
def parseSplMintSupply (account : RpcAccount) (tokenProgramId : Pubkey) :
    Except SnapshotError U64 := do
  require (account.owner = tokenProgramId) .source
  require (account.data.length = SplLayout.mintSize) .source
  return leWordAt 8 account.data SplLayout.mintSupplyOffset

/-- `RpcLpAccountSource`. -/
def rpcLpAccountSource (client : RpcClient) (tokenProgramId : Pubkey) : LpAccountSource where
  lpMintSupply lpMint := do
    let (slot, value) ← okOr (client.getAccount lpMint) .source
    let account ← okOr value .source
    let amount ← parseSplMintSupply account tokenProgramId
    return ⟨amount, slot⟩
  tokenAccounts lpMint := do
    let accounts ← okOr (client.getProgramAccounts tokenProgramId (tokenAccountFilters lpMint))
      .source
    accounts.mapM fun x => parseSplTokenAccount x.1 x.2.data lpMint

/-- The derived order of lock records. -/
def TokenLockRecord.Le (a b : TokenLockRecord) : Prop :=
  a.address < b.address ∨ a.address = b.address ∧ (a.lockGlobalId < b.lockGlobalId ∨
    a.lockGlobalId = b.lockGlobalId ∧ (a.currentLockedAmount < b.currentLockedAmount ∨
      a.currentLockedAmount = b.currentLockedAmount ∧ a.lockOwner ≤ b.lockOwner))

/-- The order of the records is decided. -/
instance (a b : TokenLockRecord) : Decidable (a.Le b) :=
  inferInstanceAs (Decidable (_ ∨ _))

/-- `RpcLockedLpEvidence`. An invalid record is an error of the source here. -/
def rpcLockedLpEvidence (rt : Runtime) (client : RpcClient) : LockedLpEvidence where
  tokenLocks ammId lpMint := do
    let accounts ← okOr (client.getProgramAccounts Uncx.programId (tokenLockFilters ammId lpMint))
      .source
    let records ← accounts.mapM fun x =>
      (TokenLockRecord.parse rt x.1 x.2.data ammId lpMint).mapError fun _ => .source
    return records.insertionSort TokenLockRecord.Le

/-! ## The state of the chain -/

/-- The accounts of the chain at a slot. -/
structure Bank where
  slot : U64
  accounts : List (Pubkey × RpcAccount)
  nodup : (accounts.map Prod.fst).Nodup

namespace Bank

variable (b : Bank)

/-- The account at an address. -/
def account? (k : Pubkey) : Option RpcAccount :=
  (b.accounts.find? fun x => x.1 = k).map Prod.snd

/-- The accounts that a program owns. -/
def ownedBy (program : Pubkey) : List (Pubkey × RpcAccount) :=
  b.accounts.filter fun x => x.2.owner = program

/-- The accounts of a program that match all filters. -/
def matching (program : Pubkey) (filters : List RpcFilter) : List (Pubkey × RpcAccount) :=
  (b.ownedBy program).filter fun x => ∀ f ∈ filters, f.Matches x.2.data

/-- The token accounts of a mint. -/
def tokenAccounts (tokenProgramId lpMint : Pubkey) : List TokenAccountSnapshot :=
  (b.ownedBy tokenProgramId).filterMap fun x =>
    (parseSplTokenAccount x.1 x.2.data lpMint).toOption

/-- The lock records of a pool and its LP mint. -/
def tokenLocks (rt : Runtime) (ammId lpMint : Pubkey) : List TokenLockRecord :=
  (b.ownedBy Uncx.programId).filterMap fun x =>
    (TokenLockRecord.parse rt x.1 x.2.data ammId lpMint).toOption

/-- The token program keeps the supply of a mint equal to what its accounts hold. -/
def Coherent (tokenProgramId lpMint : Pubkey) : Prop :=
  ∀ mint, b.account? lpMint = some mint →
    enumerated (b.tokenAccounts tokenProgramId lpMint) =
      (leWordAt 8 mint.data SplLayout.mintSupplyOffset).val

end Bank

/-- What a node answers is so, but an enumeration may be incomplete. -/
structure RpcClient.Truthful (client : RpcClient) (b : Bank) : Prop where
  account : ∀ k r, client.getAccount k = some r → r = (b.slot, b.account? k)
  programAccounts : ∀ program filters served,
    client.getProgramAccounts program filters = some served →
      served.Subperm (b.matching program filters)

/-- What a node answers is so, and an enumeration is complete. -/
structure RpcClient.Complete (client : RpcClient) (b : Bank) : Prop where
  account : ∀ k r, client.getAccount k = some r → r = (b.slot, b.account? k)
  programAccounts : ∀ program filters served,
    client.getProgramAccounts program filters = some served →
      served.Perm (b.matching program filters)

/-- No call to the node fails. -/
structure RpcClient.Answers (client : RpcClient) : Prop where
  account : ∀ k, (client.getAccount k).isSome
  programAccounts : ∀ program filters, (client.getProgramAccounts program filters).isSome

/-! ## What the answers are parsed to -/

variable {rt : Runtime} {b : Bank} {client : RpcClient}

section Parse

variable {ε α β : Type} {parse : α → Except ε β}

/-- What a list is mapped to is what its elements are mapped to. -/
theorem filterMap_of_mapM {l : List α} {l' : List β} (h : l.mapM parse = .ok l') :
    l.filterMap (fun a => (parse a).toOption) = l' := by
  induction mapM_ok_iff.1 h with
  | nil => rfl
  | cons hb hrest ih =>
    rw [List.filterMap_cons, hb]
    exact congrArg _ (ih (mapM_ok_iff.2 hrest))

/-- A list is parsed if each of its members is. -/
theorem exists_mapM {l : List α} (h : ∀ a ∈ l, ∃ b, parse a = .ok b) :
    ∃ l', l.mapM parse = .ok l' := by
  induction l with
  | nil => exact ⟨[], rfl⟩
  | cons a l ih =>
    obtain ⟨b, hb⟩ := h a List.mem_cons_self
    obtain ⟨l', hl'⟩ := ih fun x hx => h x (List.mem_cons_of_mem a hx)
    exact ⟨b :: l', mapM_ok_iff.2 (.cons hb (mapM_ok_iff.1 hl'))⟩

/-- A condition that every parsed element meets may be checked first. -/
theorem filterMap_filter {p : α → Prop} [DecidablePred p] (hp : ∀ a b, parse a = .ok b → p a)
    (l : List α) : (l.filter p).filterMap (fun a => (parse a).toOption) =
      l.filterMap fun a => (parse a).toOption := by
  rw [List.filterMap_filter]
  refine List.filterMap_congr fun a _ => ?_
  cases h : parse a with
  | ok b => simp [hp a b h]
  | error e => simp [Except.toOption]

end Parse

/-- A token account of the mint passes the filters. -/
theorem matches_tokenAccount {lpMint address : Pubkey} {data : List Byte}
    {a : TokenAccountSnapshot} (h : parseSplTokenAccount address data lpMint = .ok a) :
    ∀ f ∈ tokenAccountFilters lpMint, f.Matches data := by
  simp only [parseSplTokenAccount, require_bind_ok_iff] at h
  obtain ⟨hsize, hmint, _⟩ := h
  simpa [tokenAccountFilters, RpcFilter.Matches] using ⟨hsize, hmint⟩

/-- So does a lock of the pool. -/
theorem matches_tokenLock {ammId lpMint address : Pubkey} {data : List Byte} {r : TokenLockRecord}
    (h : TokenLockRecord.parse rt address data ammId lpMint = .ok r) :
    ∀ f ∈ tokenLockFilters ammId lpMint, f.Matches data := by
  simp only [TokenLockRecord.parse, require_bind_ok_iff] at h
  obtain ⟨hsize, hdisc, _, hamm, hmint, _⟩ := h
  simpa [tokenLockFilters, RpcFilter.Matches] using ⟨hsize, hdisc, hamm, hmint⟩

/-- The token accounts of the mint are among those that match the filters. -/
theorem filterMap_matching (b : Bank) (tokenProgramId lpMint : Pubkey) :
    (b.matching tokenProgramId (tokenAccountFilters lpMint)).filterMap
      (fun x => (parseSplTokenAccount x.1 x.2.data lpMint).toOption) =
        b.tokenAccounts tokenProgramId lpMint :=
  filterMap_filter (fun _ _ => matches_tokenAccount) _

/-- A truthful node serves token accounts of the mint, possibly not all. -/
theorem tokenAccounts_subperm {tokenProgramId lpMint : Pubkey}
    {accounts : List TokenAccountSnapshot} (hclient : client.Truthful b)
    (h : (rpcLpAccountSource client tokenProgramId).tokenAccounts lpMint = .ok accounts) :
    accounts.Subperm (b.tokenAccounts tokenProgramId lpMint) := by
  simp only [rpcLpAccountSource, okOr_bind_ok_iff] at h
  obtain ⟨served, hserved, h⟩ := h
  rw [← filterMap_of_mapM h, ← filterMap_matching]
  obtain ⟨l, hl, hsub⟩ := hclient.programAccounts _ _ _ hserved
  exact ⟨_, hl.filterMap _, hsub.filterMap _⟩

/-- A complete node serves the token accounts of the bank, in some order. -/
theorem tokenAccounts_perm {tokenProgramId lpMint : Pubkey}
    {accounts : List TokenAccountSnapshot} (hclient : client.Complete b)
    (h : (rpcLpAccountSource client tokenProgramId).tokenAccounts lpMint = .ok accounts) :
    accounts.Perm (b.tokenAccounts tokenProgramId lpMint) := by
  simp only [rpcLpAccountSource, okOr_bind_ok_iff] at h
  obtain ⟨served, hserved, h⟩ := h
  rw [← filterMap_of_mapM h, ← filterMap_matching]
  exact (hclient.programAccounts _ _ _ hserved).filterMap _

/-- A complete node serves the lock records of the pool, if they can all be read. -/
theorem tokenLocks_perm {ammId lpMint : Pubkey} {records : List TokenLockRecord}
    (hclient : client.Complete b)
    (h : (rpcLockedLpEvidence rt client).tokenLocks ammId lpMint = .ok records) :
    records.Perm (b.tokenLocks rt ammId lpMint) := by
  simp only [rpcLockedLpEvidence, bind_ok_iff, okOr_ok_iff, pure_ok_iff] at h
  obtain ⟨served, hserved, parsed, hparsed, rfl⟩ := h
  have hmap : served.mapM (fun x => TokenLockRecord.parse rt x.1 x.2.data ammId lpMint) =
      .ok parsed :=
    mapM_ok_iff.2 ((mapM_ok_iff.1 hparsed).imp fun _ _ => mapError_ok_iff.1)
  have hbank : (b.matching Uncx.programId (tokenLockFilters ammId lpMint)).filterMap
      (fun x => (TokenLockRecord.parse rt x.1 x.2.data ammId lpMint).toOption) =
        b.tokenLocks rt ammId lpMint :=
    filterMap_filter (fun _ _ => matches_tokenLock) _
  refine (List.perm_insertionSort _ _).trans ?_
  rw [← filterMap_of_mapM hmap, ← hbank]
  exact (hclient.programAccounts _ _ _ hserved).filterMap _

/-- The supply is the bank's. -/
theorem lpMintSupply_ok {tokenProgramId lpMint : Pubkey} {supply : MintSupply}
    (hclient : client.Truthful b)
    (h : (rpcLpAccountSource client tokenProgramId).lpMintSupply lpMint = .ok supply) :
    ∃ mint, b.account? lpMint = some mint ∧
      supply = ⟨leWordAt 8 mint.data SplLayout.mintSupplyOffset, b.slot⟩ := by
  simp only [rpcLpAccountSource, parseSplMintSupply, bind_ok_iff, okOr_ok_iff, require_ok_iff,
    exists_const, pure_ok_iff] at h
  obtain ⟨⟨slot, value⟩, hserved, mint, hvalue, _, ⟨_, _, rfl⟩, rfl⟩ := h
  obtain ⟨rfl, rfl⟩ := Prod.mk.inj (hclient.account _ _ hserved)
  exact ⟨mint, hvalue, rfl⟩

/-! ## What is left out has no balance -/

/-- A specification that holds of some of the accounts holds of all, if the others have no
balance, and of the records in any order. -/
theorem Attributes.of_permUpTo {sinks : List Pubkey} {supply : MintSupply}
    {accounts accounts' : List TokenAccountSnapshot} {records records' : List TokenLockRecord}
    {snapshot : LpSnapshot} (h : Attributes sinks supply accounts records snapshot)
    (haccounts : PermUpTo (fun a : TokenAccountSnapshot => a.amount.val = 0) accounts accounts')
    (hsub : ∀ a ∈ accounts, a ∈ accounts') (hrecords : records.Perm records') :
    Attributes sinks supply accounts' records' snapshot := by
  have howner : ∀ o, ownerBalance accounts' o = ownerBalance accounts o := fun o =>
    (haccounts.sum_filter_eq (fun a => a.owner = o)).symm
  have hlocked : ∀ o, lockedBalance records' o = lockedBalance records o := fun o =>
    (((hrecords.filter _).map _).sum_eq).symm
  have htotal : lockedTotal records' = lockedTotal records := (hrecords.map _).sum_eq.symm
  refine { h with
    balances := fun o ho => by rw [howner, hlocked, h.balances o ho]
    custody := fun hpos => ?_
    enumerated := ?_ }
  · rw [htotal] at hpos ⊢
    obtain ⟨c, hc, ⟨a, ha, haddress, hown, hamount⟩, hbalance, hwhole, hentries⟩ := h.custody hpos
    exact ⟨c, hc, ⟨a, hsub a ha, haddress, hown, hamount⟩, hbalance, (howner _).trans hwhole,
      hentries⟩
  · have hsum := haccounts.sum_filter_eq fun _ => True
    simp only [decide_true, List.filter_true] at hsum
    rw [h.enumerated, hsum]

/-- What is built is exact for the bank. -/
theorem attributes_of_rpc {lockClient : RpcClient} {request : SnapshotRequest}
    {tokenProgramId : Pubkey} {snapshot : LpSnapshot}
    (hclient : client.Truthful b) (hlocks : lockClient.Complete b)
    (hcoherent : b.Coherent tokenProgramId request.lpMint)
    (h : build request (rpcLpAccountSource client tokenProgramId)
      (rpcLockedLpEvidence rt lockClient) = .ok snapshot) :
    ∃ mint, b.account? request.lpMint = some mint ∧
      Attributes request.sinkExclusions
        ⟨leWordAt 8 mint.data SplLayout.mintSupplyOffset, b.slot⟩
        (b.tokenAccounts tokenProgramId request.lpMint)
        (b.tokenLocks rt request.poolAddress request.lpMint) snapshot := by
  obtain ⟨st⟩ := exists_stages h
  obtain ⟨mint, hmint, hsupply⟩ := lpMintSupply_ok hclient st.supply_ok
  have hsub := tokenAccounts_subperm hclient st.accounts_ok
  have hsum : enumerated (b.tokenAccounts tokenProgramId request.lpMint) =
      enumerated st.accounts := by
    rw [hcoherent mint hmint, enumerated, st.complete, hsupply]
  refine ⟨mint, hmint, ?_⟩
  rw [← hsupply]
  exact st.attributes.of_permUpTo (.of_subperm hsub hsum.le) hsub.subset
    (tokenLocks_perm hlocks st.records_ok)

/-! ## When a build succeeds -/

/-- What the filters let through is parsed. -/
theorem parse_of_matches {lpMint address : Pubkey} {data : List Byte}
    (h : ∀ f ∈ tokenAccountFilters lpMint, f.Matches data) :
    ∃ a, parseSplTokenAccount address data lpMint = .ok a := by
  have hsize : data.length = SplLayout.accountSize := h _ List.mem_cons_self
  have hmint : slice data SplLayout.mintOffset lpMint.val.length = lpMint.val :=
    h (.memcmp SplLayout.mintOffset lpMint.val) (by simp [tokenAccountFilters])
  rw [lpMint.2] at hmint
  exact ⟨_, parseSplTokenAccount_eq ⟨address, data, hsize, hmint⟩⟩

/-- The accounts of a truthful answer can be parsed. -/
theorem exists_tokenAccounts (tokenProgramId lpMint : Pubkey) (hanswers : client.Answers)
    (hclient : client.Truthful b) : ∃ accounts,
      (rpcLpAccountSource client tokenProgramId).tokenAccounts lpMint = .ok accounts := by
  obtain ⟨served, hserved⟩ := Option.isSome_iff_exists.1
    (hanswers.programAccounts tokenProgramId (tokenAccountFilters lpMint))
  have hparse : ∀ x ∈ served, ∃ a, parseSplTokenAccount x.1 x.2.data lpMint = .ok a := by
    intro x hx
    have hmatch := (List.mem_filter.1 ((hclient.programAccounts _ _ _ hserved).subset hx)).2
    exact parse_of_matches (by simpa using hmatch)
  obtain ⟨accounts, haccounts⟩ := exists_mapM hparse
  exact ⟨accounts, by simp only [rpcLpAccountSource, hserved, okOr_some, ok_bind, haccounts]⟩

/-- The supply of a truthful answer can be read. -/
theorem exists_lpMintSupply {tokenProgramId lpMint : Pubkey} (hanswers : client.Answers)
    (hclient : client.Truthful b) {mint : RpcAccount} (hmint : b.account? lpMint = some mint)
    (howner : mint.owner = tokenProgramId) (hsize : mint.data.length = SplLayout.mintSize) :
    (rpcLpAccountSource client tokenProgramId).lpMintSupply lpMint =
      .ok ⟨leWordAt 8 mint.data SplLayout.mintSupplyOffset, b.slot⟩ := by
  obtain ⟨r, hr⟩ := Option.isSome_iff_exists.1 (hanswers.account lpMint)
  obtain rfl := hclient.account _ _ hr
  simp only [rpcLpAccountSource, parseSplMintSupply, hr, hmint, okOr_some, ok_bind,
    require_of howner, require_of hsize]
  rfl

/-- A successful build leaves something to whoever is no sink. -/
theorem Stages.sinkBalance_lt {request : SnapshotRequest} {source : LpAccountSource}
    {locks : LockedLpEvidence} {snapshot : LpSnapshot} (st : Stages request source locks snapshot) :
    sinkBalance request.sinkExclusions st.accounts < Snapshotter.enumerated st.accounts := by
  have hsinks := (sums_of_pass st.perOwner_ok st.pass_ok).1
  have hcomplete : Snapshotter.enumerated st.accounts = st.supply.amount.val := st.complete
  have hpos := st.canonical.sum_pos
  have hclosing := st.closing
  rw [st.entriesTotal, st.sinkTotal, st.enumerated, hsinks] at hclosing
  omega

/-- A snapshot that was built over RPC is exact for the bank. The node that serves the mint and its
accounts may leave accounts out, and the answers come in any order; the lock records must be
complete. Over nodes that answer completely a pool without lock records has a snapshot iff not all
of its LP belongs to sinks. -/
theorem rpcSnapshot_exact (rt : Runtime) (b : Bank) (client lockClient : RpcClient)
    (request : SnapshotRequest) (tokenProgramId : Pubkey) (hclient : client.Truthful b)
    (hlocks : lockClient.Complete b) (hcoherent : b.Coherent tokenProgramId request.lpMint) :
    (∀ snapshot, build request (rpcLpAccountSource client tokenProgramId)
        (rpcLockedLpEvidence rt lockClient) = .ok snapshot →
      ∃ mint, b.account? request.lpMint = some mint ∧
        Attributes request.sinkExclusions
          ⟨leWordAt 8 mint.data SplLayout.mintSupplyOffset, b.slot⟩
          (b.tokenAccounts tokenProgramId request.lpMint)
          (b.tokenLocks rt request.poolAddress request.lpMint) snapshot) ∧
    (client.Complete b → client.Answers → lockClient.Answers →
      b.matching Uncx.programId (tokenLockFilters request.poolAddress request.lpMint) = [] →
      ∀ mint, b.account? request.lpMint = some mint → mint.owner = tokenProgramId →
        mint.data.length = SplLayout.mintSize →
        ((∃ snapshot, build request (rpcLpAccountSource client tokenProgramId)
            (rpcLockedLpEvidence rt lockClient) = .ok snapshot) ↔
          sinkBalance request.sinkExclusions (b.tokenAccounts tokenProgramId request.lpMint) <
            enumerated (b.tokenAccounts tokenProgramId request.lpMint))) := by
  refine ⟨fun snapshot => attributes_of_rpc hclient hlocks hcoherent,
    fun hcomplete hanswers hlockAnswers hnone mint hmint howner hsize => ?_⟩
  obtain ⟨accounts, haccounts⟩ :=
    exists_tokenAccounts tokenProgramId request.lpMint hanswers hclient
  have hperm := tokenAccounts_perm hcomplete haccounts
  have hsum : enumerated accounts = enumerated (b.tokenAccounts tokenProgramId request.lpMint) :=
    (hperm.map _).sum_eq
  have hsinks : sinkBalance request.sinkExclusions accounts =
      sinkBalance request.sinkExclusions (b.tokenAccounts tokenProgramId request.lpMint) :=
    ((hperm.filter _).map _).sum_eq
  rw [← hsum, ← hsinks]
  constructor
  · rintro ⟨snapshot, h⟩
    obtain ⟨st⟩ := exists_stages h
    obtain rfl : st.accounts = accounts := Except.ok.inj (st.accounts_ok.symm.trans haccounts)
    exact st.sinkBalance_lt
  · intro hleft
    have hsupply := exists_lpMintSupply hanswers hclient hmint howner hsize
    have hrecords : (rpcLockedLpEvidence rt lockClient).tokenLocks request.poolAddress
        request.lpMint = .ok [] := by
      obtain ⟨served, hserved⟩ := Option.isSome_iff_exists.1 (hlockAnswers.programAccounts
        Uncx.programId (tokenLockFilters request.poolAddress request.lpMint))
      obtain rfl : served = [] := by
        simpa [hnone] using hlocks.programAccounts _ _ _ hserved
      simp only [rpcLockedLpEvidence, hserved]
      rfl
    exact exists_build_withdrawn hsupply haccounts hrecords
      (hsum.trans (hcoherent mint hmint)) hleft (fun _ hr => absurd hr List.not_mem_nil)
      fun _ hr => absurd hr List.not_mem_nil

/-! ## A node that leaves accounts out -/

/-- The node that serves the accounts of the bank in `keep`. -/
def Bank.node (b : Bank) (keep : Pubkey → Bool) : RpcClient where
  getAccount k := some (b.slot, b.account? k)
  getProgramAccounts program filters :=
    some ((b.matching program filters).filter fun x => keep x.1)

/-- The node of a bank is truthful. -/
theorem Bank.truthful_node (b : Bank) (keep : Pubkey → Bool) : (b.node keep).Truthful b where
  account _ _ h := (Option.some.inj h).symm
  programAccounts _ _ _ h := Option.some.inj h ▸ List.filter_sublist.subperm

/-- It is complete if it keeps every account. -/
theorem Bank.complete_node (b : Bank) : (b.node fun _ => true).Complete b where
  account _ _ h := (Option.some.inj h).symm
  programAccounts _ _ _ h := by
    rw [← Option.some.inj h, List.filter_true]

/-- It always answers. -/
theorem Bank.answers_node (b : Bank) (keep : Pubkey → Bool) : (b.node keep).Answers :=
  ⟨fun _ => rfl, fun _ _ => rfl⟩

/-- A mint of 1000, an account that holds it all, and an empty one. -/
def servedBank : Bank where
  slot := 5
  accounts := [(Pubkey.fill 4, ⟨tokenProgramId, List.replicate 36 0 ++ leBytes 8 1000 ++
      List.replicate 38 0⟩),
    (Pubkey.fill 5, ⟨tokenProgramId, (Pubkey.fill 4).val ++ (Pubkey.fill 6).val ++
      leBytes 8 1000 ++ List.replicate 93 0⟩),
    (Pubkey.fill 7, ⟨tokenProgramId, (Pubkey.fill 4).val ++ (Pubkey.fill 8).val ++
      List.replicate 101 0⟩)]
  nodup := by decide +kernel

/-- The request of the demonstration. -/
def servedRequest : SnapshotRequest :=
  ⟨Pubkey.fill 2, raydiumV4ProgramId, Pubkey.fill 4, [], []⟩

/-- The accounts of the bank add up to the supply. -/
theorem coherent_servedBank : servedBank.Coherent tokenProgramId servedRequest.lpMint := by
  have h : servedBank.account? servedRequest.lpMint = some ⟨tokenProgramId,
      List.replicate 36 0 ++ leBytes 8 1000 ++ List.replicate 38 0⟩ := by
    decide +kernel
  intro mint hmint
  obtain rfl := Option.some.inj (h.symm.trans hmint)
  decide +kernel

/-- A node that leaves out an empty account serves a build as well. -/
theorem isOk_servedBuild : (build servedRequest
    (rpcLpAccountSource (servedBank.node fun k => k ≠ Pubkey.fill 7) tokenProgramId)
    (rpcLockedLpEvidence Scanner.UncxV4.lockRuntime (servedBank.node fun _ => true))).isOk =
      true := by
  decide +kernel

/-- The empty account is left out of the first build. -/
theorem rpcSnapshot_exact_served :
    (∃ (snapshot : LpSnapshot) (mint : RpcAccount), Attributes servedRequest.sinkExclusions
      ⟨leWordAt 8 mint.data SplLayout.mintSupplyOffset, servedBank.slot⟩
      (servedBank.tokenAccounts tokenProgramId servedRequest.lpMint)
      (servedBank.tokenLocks Scanner.UncxV4.lockRuntime servedRequest.poolAddress
        servedRequest.lpMint) snapshot) ∧
    ∃ snapshot, build servedRequest
      (rpcLpAccountSource (servedBank.node fun _ => true) tokenProgramId)
      (rpcLockedLpEvidence Scanner.UncxV4.lockRuntime (servedBank.node fun _ => true)) =
        .ok snapshot := by
  obtain ⟨snapshot, h⟩ := exists_ok_of_isOk isOk_servedBuild
  obtain ⟨mint, _, hattributes⟩ := (rpcSnapshot_exact Scanner.UncxV4.lockRuntime servedBank _ _
    servedRequest tokenProgramId (servedBank.truthful_node _) servedBank.complete_node
    coherent_servedBank).1 snapshot h
  refine ⟨⟨snapshot, mint, hattributes⟩, ?_⟩
  exact ((rpcSnapshot_exact Scanner.UncxV4.lockRuntime servedBank _ _ servedRequest tokenProgramId
    (servedBank.truthful_node _) servedBank.complete_node coherent_servedBank).2
      servedBank.complete_node (servedBank.answers_node _) (servedBank.answers_node _)
      (by decide +kernel) ⟨tokenProgramId, List.replicate 36 0 ++ leBytes 8 1000 ++
        List.replicate 38 0⟩ (by decide +kernel) rfl (by decide +kernel)).2 (by decide +kernel)

end GraveYield.Snapshotter
