import GraveYield.Reconciliation

/-!
# Snapshots without locked LP

The part of the builder that the SDK repeats : the token accounts as the node serves them, 165
bytes each, and a build with no lock records. `exists_build_iff` says when it succeeds : the
enumerated balances make up the supply, and not all of them belong to sinks. With lock records that
are all withdrawn it succeeds where the lock owners hold LP besides (`exists_build_withdrawn`).
What a build without lock records attributes is `entryBalance_build`, and `eq_of_entryBalance` says
that an ascending list of positive entries is determined by what it attributes to whom.
-/

namespace GraveYield.Snapshotter

open Machine Checked Tally

/-! ## Token accounts as they are served -/

namespace SplLayout

/-- `ACCOUNT_SIZE`. -/
def accountSize : ℕ := 165

/-- `MINT_OFFSET`. -/
def mintOffset : ℕ := 0

/-- `OWNER_OFFSET`. -/
def ownerOffset : ℕ := 32

/-- `AMOUNT_OFFSET`. -/
def amountOffset : ℕ := 64

end SplLayout

/-- `parse_spl_token_account`. -/
def parseSplTokenAccount (address : Pubkey) (data : List Byte) (lpMint : Pubkey) :
    Except SnapshotError TokenAccountSnapshot := do
  require (data.length = SplLayout.accountSize) .source
  require (slice data SplLayout.mintOffset 32 = lpMint.val) .source
  let owner ← okOr (Bytes.ofList? 32 (slice data SplLayout.ownerOffset 32)) .source
  return ⟨address, owner, leWordAt 8 data SplLayout.amountOffset⟩

/-- A token account of `lpMint`, as a node serves it. -/
structure LpTokenAccount (lpMint : Pubkey) where
  address : Pubkey
  data : List Byte
  size : data.length = 165
  mint : slice data 0 32 = lpMint.val

namespace LpTokenAccount

variable {lpMint : Pubkey}

/-- The owner that its data names. -/
def owner (a : LpTokenAccount lpMint) : Pubkey :=
  ⟨slice a.data 32 32, length_slice (by rw [a.size]; decide)⟩

/-- The amount that its data states. -/
def amount (a : LpTokenAccount lpMint) : U64 :=
  leWordAt 8 a.data 64

/-- The account as the snapshotter reads it. -/
def snapshot (a : LpTokenAccount lpMint) : TokenAccountSnapshot :=
  ⟨a.address, a.owner, a.amount⟩

end LpTokenAccount

/-- An account that was served is read. -/
theorem parseSplTokenAccount_eq {lpMint : Pubkey} (a : LpTokenAccount lpMint) :
    parseSplTokenAccount a.address a.data lpMint = .ok a.snapshot := by
  have howner : Bytes.ofList? 32 (slice a.data SplLayout.ownerOffset 32) = some a.owner :=
    Bytes.ofList?_eq_some.2 rfl
  rw [parseSplTokenAccount, require_of (show a.data.length = SplLayout.accountSize from a.size),
    ok_bind, require_of (show slice a.data SplLayout.mintOffset 32 = lpMint.val from a.mint),
    ok_bind, howner]
  rfl

/-- The RPC source over a node that serves a supply and token accounts of the mint. -/
def rpcSource {lpMint : Pubkey} (supply : MintSupply) (accounts : List (LpTokenAccount lpMint)) :
    LpAccountSource where
  lpMintSupply _ := .ok supply
  tokenAccounts mint := accounts.mapM fun a => parseSplTokenAccount a.address a.data mint

/-- No lock records. -/
def noLocks : LockedLpEvidence where
  tokenLocks _ _ := .ok []

/-- The source returns all the accounts it is given. -/
theorem tokenAccounts_rpcSource {lpMint : Pubkey} (supply : MintSupply)
    (accounts : List (LpTokenAccount lpMint)) : (rpcSource supply accounts).tokenAccounts lpMint =
      .ok (accounts.map LpTokenAccount.snapshot) :=
  mapM_eq_map fun a _ => parseSplTokenAccount_eq a

/-! ## Totals -/

/-- All that the accounts hold. -/
def enumerated (accounts : List TokenAccountSnapshot) : ℕ :=
  (accounts.map fun a => a.amount.val).sum

/-- What the accounts of the sinks hold. -/
def sinkBalance (sinks : List Pubkey) (accounts : List TokenAccountSnapshot) : ℕ :=
  ((accounts.filter fun a => a.owner ∈ sinks).map fun a => a.amount.val).sum

/-- One more account adds what it holds. -/
theorem enumerated_append (accounts : List TokenAccountSnapshot) (a : TokenAccountSnapshot) :
    enumerated (accounts ++ [a]) = enumerated accounts + a.amount.val := by
  simp [enumerated]

/-- One more account adds to the sinks if its owner is one. -/
theorem sinkBalance_append (sinks : List Pubkey) (accounts : List TokenAccountSnapshot)
    (a : TokenAccountSnapshot) : sinkBalance sinks (accounts ++ [a]) =
      sinkBalance sinks accounts + if a.owner ∈ sinks then a.amount.val else 0 := by
  rw [sinkBalance, sinkBalance, List.filter_append, List.map_append, List.sum_append]
  split_ifs with h
  · simp [h]
  · simp [h]

/-- One more account adds to its own owner. -/
theorem ownerBalance_append (accounts : List TokenAccountSnapshot) (a : TokenAccountSnapshot)
    (o : Pubkey) : ownerBalance (accounts ++ [a]) o =
      ownerBalance accounts o + if a.owner = o then a.amount.val else 0 := by
  rw [ownerBalance, ownerBalance, List.filter_append, List.map_append, List.sum_append]
  split_ifs with h
  · simp [h]
  · simp [h]

/-- A sum is the sum over either side of a predicate. -/
theorem sum_filter_add_not {α : Type} (l : List α) (p : α → Prop) [DecidablePred p] (f : α → ℕ) :
    ((l.filter fun x => p x).map f).sum + ((l.filter fun x => ¬p x).map f).sum =
      (l.map f).sum := by
  rw [← List.sum_append, ← List.map_append]
  refine (List.Perm.map f ?_).sum_eq
  simpa using List.filter_append_perm (fun x => decide (p x)) l

/-- The sinks hold a part of what was enumerated. -/
theorem sinkBalance_le (sinks : List Pubkey) (accounts : List TokenAccountSnapshot) :
    sinkBalance sinks accounts ≤ enumerated accounts := by
  have h := sum_filter_add_not accounts (fun a => a.owner ∈ sinks) fun a => a.amount.val
  rw [sinkBalance, enumerated]
  omega

/-- Owner by owner, a tally holds what the accounts hold. -/
theorem sum_toList_perOwner {accounts : List TokenAccountSnapshot} {perOwner : Balances}
    (h : tally SnapshotError.overflow ∅ (ownerAmounts accounts) = .ok perOwner)
    (p : Pubkey → Prop) [DecidablePred p] :
    ((perOwner.toList.filter fun x => p x.1).map fun x => x.2.val).sum =
      ((accounts.filter fun a => p a.owner).map fun a => a.amount.val).sum := by
  have hkeys : ∀ x ∈ perOwner.toList.filter fun x => p x.1,
      x.1 ∈ ((ownerAmounts accounts).map Prod.fst).toFinset := by
    intro x hx
    have hmem := mem_keys_toList.1 (List.mem_map_of_mem (f := Prod.fst) (List.mem_filter.1 hx).1)
    rcases ((tally_ok h).2 x.1).1 hmem with hempty | hk
    · simp at hempty
    · exact List.mem_toFinset.2 hk
  have hkeys' : ∀ x ∈ (ownerAmounts accounts).filter fun x => p x.1,
      x.1 ∈ ((ownerAmounts accounts).map Prod.fst).toFinset :=
    fun x hx => List.mem_toFinset.2 (List.mem_map_of_mem (List.mem_filter.1 hx).1)
  calc ((perOwner.toList.filter fun x => p x.1).map fun x => x.2.val).sum
      = ∑ k ∈ ((ownerAmounts accounts).map Prod.fst).toFinset,
          keySum (perOwner.toList.filter fun x => p x.1) k := (sum_keySum hkeys).symm
    _ = ∑ k ∈ ((ownerAmounts accounts).map Prod.fst).toFinset,
          keySum ((ownerAmounts accounts).filter fun x => p x.1) k := by
      refine Finset.sum_congr rfl fun k _ => ?_
      rw [keySum_filter, keySum_filter, keySum_toList, (tally_ok h).1, amount_of_not_mem (by simp),
        zero_add]
    _ = (((ownerAmounts accounts).filter fun x => p x.1).map fun x => x.2.val).sum :=
      sum_keySum hkeys'
    _ = ((accounts.filter fun a => p a.owner).map fun a => a.amount.val).sum := by
      rw [ownerAmounts, List.filter_map, List.map_map]
      rfl

/-! ## The exclusion pass -/

/-- The pass succeeds as long as the sinks' balances fit. -/
theorem exists_exclude {sinks : List Pubkey} {s : Exclusions} {l : List (Pubkey × U64)}
    (h : s.sinkTotal.val + ((l.filter fun x => x.1 ∈ sinks).map fun x => x.2.val).sum < 2 ^ 128) :
    ∃ s', l.foldlM (excludeOwner sinks) s = .ok s' := by
  induction l generalizing s with
  | nil => exact ⟨s, rfl⟩
  | cons x l ih =>
    have hstep : ∃ s₁, excludeOwner sinks s x = .ok s₁ := by
      by_cases hsink : x.1 ∈ sinks
      · rw [List.filter_cons_of_pos (by simpa using hsink), List.map_cons, List.sum_cons] at h
        have hfits : s.sinkTotal.checkedAdd (x.2.widen 128 Word.u64_le_u128) =
            some ⟨s.sinkTotal.val + x.2.val, by omega⟩ := Word.checkedAdd_eq_some.2 rfl
        simp only [excludeOwner, hsink, if_true, hfits, okOr_some, ok_bind]
        split_ifs
        · exact ⟨_, rfl⟩
        · exact ⟨_, rfl⟩
      · simp only [excludeOwner, hsink, if_false]
        split_ifs
        · exact ⟨_, rfl⟩
        · exact ⟨_, rfl⟩
    obtain ⟨s₁, hs₁⟩ := hstep
    have htotal := (excludeOwner_ok hs₁).1
    obtain ⟨s', hs'⟩ := ih (s := s₁) (by
      by_cases hsink : x.1 ∈ sinks
      · rw [List.filter_cons_of_pos (by simpa using hsink), List.map_cons, List.sum_cons] at h
        rw [htotal, if_pos hsink]
        omega
      · rw [List.filter_cons_of_neg (by simpa using hsink)] at h
        rw [htotal, if_neg hsink]
        omega)
    exact ⟨s', by rw [List.foldlM_cons, hs₁, ok_bind, hs']⟩

/-- Whoever is claimable has a balance. -/
theorem exclude_pos {sinks : List Pubkey} {s s' : Exclusions} {l : List (Pubkey × U64)}
    (h : l.foldlM (excludeOwner sinks) s = .ok s')
    (hs : ∀ x ∈ s.claimable.toList, 0 < x.2.val) : ∀ x ∈ s'.claimable.toList, 0 < x.2.val := by
  induction l generalizing s with
  | nil =>
    obtain rfl := pure_ok_iff.1 h
    exact hs
  | cons x l ih =>
    rw [List.foldlM_cons, bind_ok_iff] at h
    obtain ⟨s₁, hx, h⟩ := h
    refine ih h ?_
    rw [(excludeOwner_ok hx).2]
    split_ifs with hcase
    · exact hs
    · intro y hy
      rw [Std.TreeMap.mem_toList_iff_getElem?_eq_some, Std.TreeMap.getElem?_insert] at hy
      split_ifs at hy
      · rw [← Option.some.inj hy]
        exact Nat.pos_of_ne_zero (not_or.1 hcase).2
      · exact hs y (Std.TreeMap.mem_toList_iff_getElem?_eq_some.2 hy)

/-! ## When a build succeeds -/

/-- The entries of a map without zeros are canonical. -/
theorem canonical_entriesOf {m : Balances} (hne : (m.toList.map fun x => x.2.val).sum ≠ 0)
    (hpos : ∀ x ∈ m.toList, 0 < x.2.val) : Canonical (entriesOf m) := by
  refine ⟨?_, ?_, ?_⟩
  · intro hnil
    rw [entriesOf, List.map_eq_nil_iff] at hnil
    rw [hnil] at hne
    exact hne rfl
  · rw [entriesOf, List.pairwise_map]
    refine Std.TreeMap.ordered_keys_toList.imp ?_
    intro a b hab
    exact (Bytes.compare_eq_lt_iff _ _).1 hab
  · intro e he
    obtain ⟨x, hx, rfl⟩ := List.mem_map.1 he
    exact hpos x hx

/-- The pass divides the accounts between the sinks and the claimable balances. -/
theorem sums_of_pass {sinks : List Pubkey} {accounts : List TokenAccountSnapshot}
    {perOwner : Balances} {pass : Exclusions}
    (hper : tally SnapshotError.overflow ∅ (ownerAmounts accounts) = .ok perOwner)
    (hpass : perOwner.toList.foldlM (excludeOwner sinks) ⟨[], 0, ∅⟩ = .ok pass) :
    pass.sinkTotal.val = sinkBalance sinks accounts ∧
      (pass.claimable.toList.map fun x => x.2.val).sum + sinkBalance sinks accounts =
        enumerated accounts := by
  obtain ⟨htotal, hamount, hmem⟩ := exclude_ok hpass (nodup_keys_toList _) (by simp)
  constructor
  · rw [htotal, sum_toList_perOwner hper fun o => o ∈ sinks]
    exact zero_add _
  · have hkeys : ∀ k, k ∈ pass.claimable → k ∈ (perOwner.toList.map Prod.fst).toFinset := by
      intro k hk
      rcases hmem k hk with hempty | ⟨_, hk⟩
      · simp at hempty
      · exact List.mem_toFinset.2 hk
    have hkeys' : ∀ x ∈ perOwner.toList.filter fun x => x.1 ∉ sinks,
        x.1 ∈ (perOwner.toList.map Prod.fst).toFinset :=
      fun x hx => List.mem_toFinset.2 (List.mem_map_of_mem (List.mem_filter.1 hx).1)
    have hclaim : (pass.claimable.toList.map fun x => x.2.val).sum =
        ((accounts.filter fun a => a.owner ∉ sinks).map fun a => a.amount.val).sum := by
      rw [sum_toList hkeys, ← sum_toList_perOwner hper fun o => o ∉ sinks, ← sum_keySum hkeys']
      refine Finset.sum_congr rfl fun k _ => ?_
      rw [hamount, amount_of_not_mem (by simp), zero_add]
    rw [hclaim, sinkBalance, enumerated, add_comm,
      ← sum_filter_add_not accounts (fun a => a.owner ∈ sinks) fun a => a.amount.val]

/-- Every lock is fully withdrawn. -/
def Withdrawn (records : List TokenLockRecord) : Prop :=
  ∀ r ∈ records, r.currentLockedAmount.val = 0

/-- Every lock owner has a balance besides its locks, and is no sink. -/
def OwnersHold (sinks : List Pubkey) (accounts : List TokenAccountSnapshot)
    (records : List TokenLockRecord) : Prop :=
  ∀ r ∈ records, r.lockOwner ∉ sinks ∧ 0 < ownerBalance accounts r.lockOwner

/-- Where all is withdrawn nothing is locked. -/
theorem Withdrawn.lockedBalance {records : List TokenLockRecord} (h : Withdrawn records)
    (o : Pubkey) : lockedBalance records o = 0 := by
  refine List.sum_eq_zero_iff.2 fun n hn => ?_
  obtain ⟨r, hr, rfl⟩ := List.mem_map.1 hn
  exact h r (List.mem_filter.1 hr).1

/-- Withdrawn locks of owners with a balance add nothing to the claimable balances. -/
theorem exists_merge {sinks : List Pubkey} {accounts : List TokenAccountSnapshot}
    {records : List TokenLockRecord} {perOwner attributions : Balances} {pass : Exclusions}
    (hper : tally SnapshotError.overflow ∅ (ownerAmounts accounts) = .ok perOwner)
    (hpass : perOwner.toList.foldlM (excludeOwner sinks) ⟨[], 0, ∅⟩ = .ok pass)
    (hattr : tally SnapshotError.overflow ∅ (lockAmounts records) = .ok attributions)
    (hwithdrawn : Withdrawn records) (hhold : OwnersHold sinks accounts records) : ∃ merged,
      tally SnapshotError.overflow pass.claimable attributions.toList = .ok merged ∧
        (∀ x ∈ merged.toList, 0 < x.2.val) ∧
        (merged.toList.map fun x => x.2.val).sum =
          (pass.claimable.toList.map fun x => x.2.val).sum := by
  have hzero : ∀ k, keySum attributions.toList k = 0 := by
    intro k
    rw [keySum_toList, (tally_ok hattr).1, amount_of_not_mem (by simp), zero_add,
      keySum_lockAmounts, hwithdrawn.lockedBalance]
  obtain ⟨merged, hmerged⟩ := exists_tally SnapshotError.overflow (m := pass.claimable)
    (l := attributions.toList) fun k => by
      rw [hzero, add_zero]
      exact (pass.claimable[k]?.getD 0).isLt
  have hamount : ∀ k, amount merged k = amount pass.claimable k := by
    intro k
    rw [(tally_ok hmerged).1, hzero, add_zero]
  have hval : ∀ (m : Balances), ∀ x ∈ m.toList, x.2.val = amount m x.1 := by
    intro m x hx
    rw [← keySum_toList, keySum_of_mem (nodup_keys_toList m) hx]
  refine ⟨merged, hmerged, fun x hx => ?_, ?_⟩
  · rw [hval merged x hx, hamount]
    rcases ((tally_ok hmerged).2 x.1).1 (mem_keys_toList.1 (List.mem_map_of_mem hx)) with hk | hk
    · obtain ⟨y, hy, hyx⟩ := List.mem_map.1 (mem_keys_toList.2 hk)
      rw [← hyx, ← hval pass.claimable y hy]
      exact exclude_pos hpass (by simp) y hy
    · rcases ((tally_ok hattr).2 x.1).1 (mem_keys_toList.1 hk) with hempty | hk
      · simp at hempty
      · obtain ⟨y, hy, hyx⟩ := List.mem_map.1 hk
        obtain ⟨r, hr, rfl⟩ := List.mem_map.1 hy
        obtain ⟨hsink, hpos⟩ := hhold r hr
        rw [← hyx, amount_of_pass hper hpass, if_neg hsink]
        exact hpos
  · have hkeys : ∀ k, k ∈ merged → k ∈ (merged.toList.map Prod.fst).toFinset :=
      fun k hk => List.mem_toFinset.2 (mem_keys_toList.2 hk)
    have hkeys' : ∀ k, k ∈ pass.claimable → k ∈ (merged.toList.map Prod.fst).toFinset :=
      fun k hk => hkeys k (((tally_ok hmerged).2 k).2 (Or.inl hk))
    rw [sum_toList hkeys, sum_toList hkeys']
    exact Finset.sum_congr rfl fun k _ => hamount k

/-- A total below the bound is computed. -/
theorem checkedTotal_of_sum {amounts : List U64} {n : ℕ} (hn : n < 2 ^ 128)
    (h : (amounts.map Fin.val).sum = n) : checkedTotal amounts = .ok ⟨n, hn⟩ := by
  rw [checkedTotal_eq, okOr_ok_iff, Word.ofNat?_eq_some, h]

/-- A value below the bound is converted. -/
theorem exists_toU64 {v : U128} (h : v.val < 2 ^ 64) : ∃ u, toU64 v = .ok u :=
  ⟨⟨v.val, h⟩, okOr_ok_iff.2 (Word.ofNat?_eq_some.2 rfl)⟩

/-- Withdrawn locks sum to nothing. -/
theorem Withdrawn.checkedTotal {records : List TokenLockRecord} (h : Withdrawn records) :
    checkedTotal (records.map TokenLockRecord.currentLockedAmount) = .ok 0 := by
  refine checkedTotal_of_sum (by decide) ?_
  rw [List.map_map]
  refine List.sum_eq_zero_iff.2 fun n hn => ?_
  obtain ⟨r, hr, rfl⟩ := List.mem_map.1 hn
  exact h r hr

/-- A build over withdrawn locks succeeds if the accounts make up the supply, something is left
without the sinks, and every lock owner has a balance besides. -/
theorem exists_build_withdrawn {request : SnapshotRequest} {source : LpAccountSource}
    {locks : LockedLpEvidence} {supply : MintSupply} {accounts : List TokenAccountSnapshot}
    {records : List TokenLockRecord}
    (hsupply : source.lpMintSupply request.lpMint = .ok supply)
    (haccounts : source.tokenAccounts request.lpMint = .ok accounts)
    (hrecords : locks.tokenLocks request.poolAddress request.lpMint = .ok records)
    (hcomplete : enumerated accounts = supply.amount.val)
    (hleft : sinkBalance request.sinkExclusions accounts < enumerated accounts)
    (hwithdrawn : Withdrawn records)
    (hhold : OwnersHold request.sinkExclusions accounts records) :
    ∃ snapshot, build request source locks = .ok snapshot := by
  have hfits := supply.amount.isLt
  have henum : checkedTotal (accounts.map TokenAccountSnapshot.amount) =
      .ok ⟨enumerated accounts, by omega⟩ :=
    checkedTotal_of_sum _ (by rw [List.map_map]; rfl)
  obtain ⟨perOwner, hper⟩ : ∃ perOwner : Balances,
      tally SnapshotError.overflow ∅ (ownerAmounts accounts) = .ok perOwner := by
    refine exists_tally _ fun k => ?_
    rw [amount_of_not_mem (by simp), zero_add, keySum_ownerAmounts]
    have hle : ownerBalance accounts k ≤ enumerated accounts :=
      (List.filter_sublist.map _).sum_le_sum fun _ _ => Nat.zero_le _
    omega
  obtain ⟨pass, hpass⟩ := @exists_exclude request.sinkExclusions ⟨[], 0, ∅⟩ perOwner.toList (by
      rw [sum_toList_perOwner hper fun o => o ∈ request.sinkExclusions, ← sinkBalance]
      change 0 + sinkBalance request.sinkExclusions accounts < 2 ^ 128
      omega)
  obtain ⟨hsinks, hclaim⟩ := sums_of_pass hper hpass
  -- the records are sorted first, which changes nothing about them
  have hperm := List.perm_insertionSort (fun a b : TokenLockRecord => a.address ≤ b.address) records
  have hwithdrawn' : Withdrawn (records.insertionSort fun a b => a.address ≤ b.address) :=
    fun r hr => hwithdrawn r (hperm.mem_iff.1 hr)
  have hhold' : OwnersHold request.sinkExclusions accounts
      (records.insertionSort fun a b => a.address ≤ b.address) :=
    fun r hr => hhold r (hperm.mem_iff.1 hr)
  have hlocked : checkedTotal ((records.insertionSort fun a b => a.address ≤ b.address).map
      TokenLockRecord.currentLockedAmount) = .ok 0 := hwithdrawn'.checkedTotal
  obtain ⟨attributions, hattr⟩ := exists_tally SnapshotError.overflow (m := (∅ : Balances))
    (l := lockAmounts (records.insertionSort fun a b => a.address ≤ b.address)) fun k => by
      rw [keySum_lockAmounts, hwithdrawn'.lockedBalance, amount_of_not_mem (by simp)]
      exact Nat.two_pow_pos 64
  obtain ⟨merged, hmerged, hpos, hsum⟩ := exists_merge hper hpass hattr hwithdrawn' hhold'
  have hne : (merged.toList.map fun x => x.2.val).sum ≠ 0 := by omega
  have hcanonical : Canonical (entriesOf merged) := canonical_entriesOf hne hpos
  have htotal : checkedTotal ((entriesOf merged).map HolderEntry.lpBalance) =
      .ok ⟨(merged.toList.map fun x => x.2.val).sum, by omega⟩ :=
    checkedTotal_of_sum _ (by rw [entriesOf, List.map_map, List.map_map]; rfl)
  obtain ⟨enum64, henum64⟩ :=
    @exists_toU64 ⟨enumerated accounts, by omega⟩ (by dsimp only; omega)
  obtain ⟨total64, htotal64⟩ :=
    @exists_toU64 ⟨(merged.toList.map fun x => x.2.val).sum, by omega⟩ (by dsimp only; omega)
  obtain ⟨sink64, hsink64⟩ := @exists_toU64 pass.sinkTotal (by omega)
  have hcustody : resolveCustody request.custodyOwnerOverrides accounts 0 attributions
      pass.claimable = .ok (none, pass.claimable) := rfl
  have hzero : toU64 0 = .ok 0 := rfl
  have hclosing : (merged.toList.map fun x => x.2.val).sum + pass.sinkTotal.val =
      enumerated accounts := by
    rw [hsinks, hsum, hclaim]
  have hmerged' : attributions.toList.foldlM (fun m e => addBalance m e.1 e.2) pass.claimable =
      .ok merged := hmerged
  rw [build, hsupply, ok_bind, haccounts, ok_bind, henum, ok_bind, if_neg (not_ne_iff.2 hcomplete),
    foldlM_accounts, hper, ok_bind, hpass, ok_bind, hrecords, ok_bind]
  simp only [ok_bind, hlocked, foldlM_records, hattr, hcustody, hmerged', htotal,
    require_of hclosing, hzero, henum64, htotal64, hsink64, validateEntries_ok_iff.2 hcanonical]
  exact ⟨_, rfl⟩

/-- A build without locks succeeds if the accounts make up the supply and something is left
without the sinks. -/
theorem exists_build {request : SnapshotRequest} {source : LpAccountSource} {supply : MintSupply}
    {accounts : List TokenAccountSnapshot}
    (hsupply : source.lpMintSupply request.lpMint = .ok supply)
    (haccounts : source.tokenAccounts request.lpMint = .ok accounts)
    (hcomplete : enumerated accounts = supply.amount.val)
    (hleft : sinkBalance request.sinkExclusions accounts < enumerated accounts) :
    ∃ snapshot, build request source noLocks = .ok snapshot :=
  exists_build_withdrawn hsupply haccounts rfl hcomplete hleft
    (fun _ hr => absurd hr List.not_mem_nil) fun _ hr => absurd hr List.not_mem_nil

/-- A build over served accounts and without locks succeeds iff the accounts make up the supply
and not all of it belongs to sinks. -/
theorem exists_build_iff {request : SnapshotRequest} (supply : MintSupply)
    (accounts : List (LpTokenAccount request.lpMint)) :
    (∃ snapshot, build request (rpcSource supply accounts) noLocks = .ok snapshot) ↔
      enumerated (accounts.map LpTokenAccount.snapshot) = supply.amount.val ∧
        sinkBalance request.sinkExclusions (accounts.map LpTokenAccount.snapshot) <
          enumerated (accounts.map LpTokenAccount.snapshot) := by
  constructor
  · rintro ⟨snapshot, h⟩
    obtain ⟨st⟩ := exists_stages h
    have haccounts : st.accounts = accounts.map LpTokenAccount.snapshot :=
      Except.ok.inj (st.accounts_ok.symm.trans (tokenAccounts_rpcSource supply accounts))
    have hsupply : st.supply = supply := Except.ok.inj st.supply_ok.symm
    have hsinks := (sums_of_pass st.perOwner_ok st.pass_ok).1
    have hcomplete : enumerated st.accounts = st.supply.amount.val := st.complete
    have hpos := st.canonical.sum_pos
    have hclosing := st.closing
    rw [st.entriesTotal, st.sinkTotal, st.enumerated, hsinks] at hclosing
    rw [← haccounts]
    exact ⟨hcomplete.trans (by rw [hsupply]), by omega⟩
  · rintro ⟨hcomplete, hleft⟩
    exact exists_build rfl (tokenAccounts_rpcSource supply accounts) hcomplete hleft

/-! ## What it attributes -/

/-- The balance that a snapshot gives an owner. -/
theorem entryBalance_build {request : SnapshotRequest} {supply : MintSupply}
    {accounts : List (LpTokenAccount request.lpMint)} {snapshot : LpSnapshot}
    (h : build request (rpcSource supply accounts) noLocks = .ok snapshot) (o : Pubkey) :
    entryBalance snapshot.entries o = if o ∈ request.sinkExclusions then 0
      else ownerBalance (accounts.map LpTokenAccount.snapshot) o := by
  obtain ⟨st⟩ := exists_stages h
  have haccounts : st.accounts = accounts.map LpTokenAccount.snapshot :=
    Except.ok.inj (st.accounts_ok.symm.trans (tokenAccounts_rpcSource supply accounts))
  have hrecords : st.records = [] := (Except.ok.inj st.records_ok).symm
  have hlocked : st.totalLocked.val = 0 := by
    rw [st.locked, hrecords]
    rfl
  have hcustody := st.custody_ok
  rw [resolveCustody, if_pos hlocked, pure_ok_iff, Prod.mk.injEq] at hcustody
  rw [st.entries, entryBalance_entriesOf, st.amount_merged, ← hcustody.2, st.amount_pass, hrecords,
    haccounts]
  rfl

/-- The entries are the owners with a balance, each with its balance. -/
theorem Canonical.mem_iff {l : List HolderEntry} (h : Canonical l) (e : HolderEntry) :
    e ∈ l ↔ 0 < e.lpBalance.val ∧ entryBalance l e.owner = e.lpBalance.val := by
  have hnodup : (l.map HolderEntry.owner).Nodup :=
    List.pairwise_map.2 (h.sorted.imp fun hlt => ne_of_lt hlt)
  unfold entryBalance
  cases hfind : l.find? fun x => x.owner = e.owner with
  | none =>
    have hnone : e ∉ l := fun he => by simpa using List.find?_eq_none.1 hfind e he
    simp only [hnone, Option.map_none, Option.getD_none, false_iff]
    omega
  | some x =>
    have hx := List.mem_of_find?_eq_some hfind
    have howner : x.owner = e.owner := by simpa using List.find?_some hfind
    simp only [Option.map_some, Option.getD_some]
    constructor
    · intro he
      rw [List.inj_on_of_nodup_map hnodup hx he howner]
      exact ⟨h.pos e he, rfl⟩
    · rintro ⟨_, hval⟩
      have heq : x = e := by
        cases x
        cases e
        simp_all [Fin.ext_iff]
      exact heq ▸ hx

/-- An ascending list of positive entries is determined by the balances it gives. -/
theorem eq_of_entryBalance {l l' : List HolderEntry} (hl : Canonical l) (hl' : Canonical l')
    (h : ∀ o, entryBalance l o = entryBalance l' o) : l = l' := by
  have hnodup : l.Nodup := hl.sorted.imp fun {a b} hlt heq => absurd (heq ▸ hlt) (lt_irrefl _)
  have hnodup' : l'.Nodup := hl'.sorted.imp fun {a b} hlt heq => absurd (heq ▸ hlt) (lt_irrefl _)
  have hperm : l.Perm l' := by
    rw [List.perm_ext_iff_of_nodup hnodup hnodup']
    intro e
    rw [hl.mem_iff, hl'.mem_iff, h]
  refine hperm.eq_of_pairwise ?_ hl.sorted hl'.sorted
  intro a b _ _ hab hba
  exact absurd hab hba.not_gt

end GraveYield.Snapshotter
