import GraveYield.Enumeration

/-!
# Snapshots over withdrawn locks

Criterion 5 admits a locked pool only when all of its locks are withdrawn. The builder merges the
owners of such locks into the claimable balances all the same, with an amount of zero. Where such
an owner holds no LP besides, or is a sink, that is a new entry of zero, which the last check of
the builder refuses : a snapshot exists iff there is no such owner (`withdrawnLocks_iff`).
-/

namespace GraveYield.Snapshotter

open Machine Checked Tally

variable {request : SnapshotRequest} {source : LpAccountSource} {locks : LockedLpEvidence}
  {snapshot : LpSnapshot} {accounts : List TokenAccountSnapshot} {records : List TokenLockRecord}
  {sinks : List Pubkey}

/-- The entries are the holders that are no sinks, in ascending order, each with its balance. -/
structure HolderBalances (sinks : List Pubkey) (accounts : List TokenAccountSnapshot)
    (entries : List HolderEntry) : Prop where
  ascending : entries.Pairwise fun a b => a.owner < b.owner
  mem_iff : ∀ e, e ∈ entries ↔
    e.owner ∉ sinks ∧ 0 < e.lpBalance.val ∧ e.lpBalance.val = ownerBalance accounts e.owner

theorem Withdrawn.lockedTotal (h : Withdrawn records) : lockedTotal records = 0 := by
  refine List.sum_eq_zero_iff.2 fun n hn => ?_
  obtain ⟨r, hr, rfl⟩ := List.mem_map.1 hn
  exact h r hr

/-- Withdrawn locks take no balance out and add none. -/
theorem Stages.amount_withdrawn (st : Stages request source locks snapshot)
    (h : Withdrawn st.records) (k : Pubkey) : amount st.merged k =
      if k ∈ request.sinkExclusions then 0 else ownerBalance st.accounts k := by
  have hcustody := st.custody_ok
  rw [resolveCustody, if_pos (st.locked.trans h.lockedTotal), pure_ok_iff, Prod.mk.injEq]
    at hcustody
  rw [st.amount_merged, h.lockedBalance, add_zero, ← hcustody.2, st.amount_pass]

theorem Stages.holderBalances (st : Stages request source locks snapshot)
    (h : Withdrawn st.records) :
    HolderBalances request.sinkExclusions st.accounts snapshot.entries := by
  refine ⟨st.canonical.sorted, fun e => ?_⟩
  rw [st.canonical.mem_iff, st.entries, entryBalance_entriesOf, st.amount_withdrawn h]
  split_ifs with hsink
  · simp only [hsink, not_true_eq_false, false_and, iff_false]
    omega
  · simp only [hsink, not_false_eq_true, true_and, eq_comm]

/-- A lock owner is in the merged balances, so it has a positive one. -/
theorem Stages.ownersHold (st : Stages request source locks snapshot) (h : Withdrawn st.records) :
    OwnersHold request.sinkExclusions st.accounts st.records := by
  intro r hr
  have hmerged : r.lockOwner ∈ st.merged :=
    st.mem_merged_iff.2 (Or.inr (List.mem_map_of_mem (f := Prod.fst) (List.mem_map_of_mem hr)))
  obtain ⟨x, hx, howner⟩ := List.mem_map.1 (mem_keys_toList.2 hmerged)
  have hpos : 0 < x.2.val := by
    refine st.canonical.pos ⟨x.1, x.2⟩ ?_
    rw [st.entries]
    exact List.mem_map_of_mem hx
  rw [← keySum_of_mem (nodup_keys_toList _) hx, keySum_toList, howner,
    st.amount_withdrawn h] at hpos
  split_ifs at hpos with hsink
  · omega
  · exact ⟨hsink, hpos⟩

/-- A holder that is no sink leaves something to claim. -/
theorem sinkBalance_lt {o : Pubkey} (ho : o ∉ sinks) (hpos : 0 < ownerBalance accounts o) :
    sinkBalance sinks accounts < enumerated accounts := by
  have hsplit := sum_filter_add_not accounts (fun a => a.owner ∈ sinks) fun a => a.amount.val
  have hfilter : accounts.filter (fun a => a.owner = o) =
      (accounts.filter fun a => a.owner ∉ sinks).filter fun a => a.owner = o := by
    rw [List.filter_filter]
    refine List.filter_congr fun a _ => ?_
    by_cases h : a.owner = o
    · simp [h, ho]
    · simp [h]
  have hle : ownerBalance accounts o ≤
      ((accounts.filter fun a => a.owner ∉ sinks).map fun a => a.amount.val).sum := by
    rw [ownerBalance, hfilter]
    exact (List.filter_sublist.map _).sum_le_sum fun _ _ => Nat.zero_le _
  rw [sinkBalance, enumerated]
  omega

/-- Over accounts that make up the supply, with a holder that is no sink, and over withdrawn locks,
a snapshot of the holders' balances is built iff every lock owner is itself such a holder. -/
theorem withdrawnLocks_iff (request : SnapshotRequest) (source : LpAccountSource)
    (locks : LockedLpEvidence) (supply : MintSupply) (accounts : List TokenAccountSnapshot)
    (records : List TokenLockRecord) (hsupply : source.lpMintSupply request.lpMint = .ok supply)
    (haccounts : source.tokenAccounts request.lpMint = .ok accounts)
    (hrecords : locks.tokenLocks request.poolAddress request.lpMint = .ok records)
    (hcomplete : enumerated accounts = supply.amount.val)
    (hholder : ∃ o, o ∉ request.sinkExclusions ∧ 0 < ownerBalance accounts o)
    (hwithdrawn : ∀ r ∈ records, r.currentLockedAmount.val = 0) :
    (∃ snapshot, build request source locks = .ok snapshot ∧
        HolderBalances request.sinkExclusions accounts snapshot.entries) ↔
      ∀ r ∈ records, r.lockOwner ∉ request.sinkExclusions ∧
        0 < ownerBalance accounts r.lockOwner := by
  have hstages : ∀ {snapshot} (st : Stages request source locks snapshot),
      st.accounts = accounts ∧ st.records = records := fun st =>
    ⟨Except.ok.inj (st.accounts_ok.symm.trans haccounts),
      Except.ok.inj (st.records_ok.symm.trans hrecords)⟩
  constructor
  · rintro ⟨snapshot, hbuild, _⟩
    obtain ⟨st⟩ := exists_stages hbuild
    obtain ⟨rfl, rfl⟩ := hstages st
    exact st.ownersHold hwithdrawn
  · intro hhold
    obtain ⟨o, ho, hpos⟩ := hholder
    obtain ⟨snapshot, hbuild⟩ := exists_build_withdrawn hsupply haccounts hrecords hcomplete
      (sinkBalance_lt ho hpos) hwithdrawn hhold
    obtain ⟨st⟩ := exists_stages hbuild
    obtain ⟨rfl, rfl⟩ := hstages st
    exact ⟨snapshot, hbuild, st.holderBalances hwithdrawn⟩

/-- One withdrawn lock of `owner`. -/
def withdrawnLock (owner : Pubkey) : LockedLpEvidence where
  tokenLocks _ _ := .ok [⟨Pubkey.fill 31, 1, 0, owner⟩]

theorem withdrawnLocks_iff_demo : ∃ snapshot,
    build lockedRequest lockedAccounts (withdrawnLock (Pubkey.fill 1)) = .ok snapshot := by
  obtain ⟨snapshot, h, _⟩ := (withdrawnLocks_iff lockedRequest lockedAccounts
    (withdrawnLock (Pubkey.fill 1)) ⟨1000, 5⟩ _ _ rfl rfl rfl (by decide)
    ⟨Pubkey.fill 1, by decide, by decide⟩ (by decide)).2 (by decide)
  exact ⟨snapshot, h⟩

/-- The owner of the lock has moved its LP away after it withdrew. -/
theorem movedAway_refused :
    lockedAccounts.lpMintSupply lockedRequest.lpMint = .ok ⟨1000, 5⟩ ∧
    (∃ accounts, lockedAccounts.tokenAccounts lockedRequest.lpMint = .ok accounts ∧
      enumerated accounts = 1000 ∧ Pubkey.fill 1 ∉ lockedRequest.sinkExclusions ∧
      0 < ownerBalance accounts (Pubkey.fill 1)) ∧
    (∃ records, (withdrawnLock (Pubkey.fill 4)).tokenLocks lockedRequest.poolAddress
        lockedRequest.lpMint = .ok records ∧ ∀ r ∈ records, r.currentLockedAmount.val = 0) ∧
    build lockedRequest lockedAccounts (withdrawnLock (Pubkey.fill 4)) =
      .error (.invariantViolated .zeroBalanceFinalEntry) := by
  refine ⟨rfl, ⟨_, rfl, by decide, by decide, by decide⟩, ⟨_, rfl, by decide⟩, ?_⟩
  decide +kernel

end GraveYield.Snapshotter
