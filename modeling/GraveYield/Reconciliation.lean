import GraveYield.Lib.Tally
import GraveYield.Snapshot

/-!
# What a snapshot attributes to whom

`Attributes` is the specification of the builder, in terms of the accounts and the lock records
it was handed : every owner is credited with its token accounts, unless it is a declared sink,
and with its locks, and the one account that holds the locked LP is left out together with its
owner. `build_attributes` proves it of every successful build.

The maps of the builder are tallies, and `Stages` lists what each of its stages has computed.
That the custody owner holds nothing besides the locked LP is checked nowhere : it follows from
the closing identity (`Stages.custody_whole`), by comparing both sides owner by owner.

The sinks are taken out before the locks are attributed, so that a sink that owns a lock is an entry
after all (`sinksExcluded_iff`).
-/

namespace GraveYield.Snapshotter

open Machine Checked Tally

/-! ## The specification -/

/-- The amounts of an owner's token accounts. -/
def ownerBalance (accounts : List TokenAccountSnapshot) (o : Pubkey) : ℕ :=
  ((accounts.filter fun a => a.owner = o).map fun a => a.amount.val).sum

/-- The locked amounts of an owner. -/
def lockedBalance (records : List TokenLockRecord) (o : Pubkey) : ℕ :=
  ((records.filter fun r => r.lockOwner = o).map fun r => r.currentLockedAmount.val).sum

/-- The locked amounts of everyone. -/
def lockedTotal (records : List TokenLockRecord) : ℕ :=
  (records.map fun r => r.currentLockedAmount.val).sum

/-- The balance of an owner's entry, zero if it has none. -/
def entryBalance (entries : List HolderEntry) (o : Pubkey) : ℕ :=
  ((entries.find? fun e => e.owner = o).map fun e => e.lpBalance.val).getD 0

/-- What a snapshot must say about the accounts and the locks it was built from. -/
structure Attributes (sinks : List Pubkey) (supply : MintSupply)
    (accounts : List TokenAccountSnapshot) (records : List TokenLockRecord)
    (snapshot : LpSnapshot) : Prop where
  ascending : snapshot.entries.Pairwise fun a b => a.owner < b.owner
  positive : ∀ e ∈ snapshot.entries, 0 < e.lpBalance.val
  balances : ∀ o, (∀ c ∈ snapshot.locked.custody, o ≠ c.owner) →
    entryBalance snapshot.entries o =
      (if o ∈ sinks then 0 else ownerBalance accounts o) + lockedBalance records o
  custody : 0 < lockedTotal records → ∃ c ∈ snapshot.locked.custody,
    (∃ a ∈ accounts, a.address = c.tokenAccount ∧ a.owner = c.owner ∧ a.amount = c.balance) ∧
    c.balance.val = lockedTotal records ∧ ownerBalance accounts c.owner = lockedTotal records ∧
    ∀ e ∈ snapshot.entries, e.owner ≠ c.owner
  entriesTotal : snapshot.reconciliation.entriesTotal.val =
    (snapshot.entries.map fun e => e.lpBalance.val).sum
  closed : snapshot.reconciliation.entriesTotal.val +
    snapshot.reconciliation.sinkExclusionsTotal.val = snapshot.reconciliation.enumeratedTotal.val
  enumerated : snapshot.reconciliation.enumeratedTotal.val =
    (accounts.map fun a => a.amount.val).sum
  supply : snapshot.reconciliation.enumeratedTotal = snapshot.lpTotalSupplyAtSnapshot ∧
    snapshot.lpTotalSupplyAtSnapshot = supply.amount

/-! ## The maps of the builder as tallies -/

/-- The amounts of the token accounts, by owner. -/
def ownerAmounts (accounts : List TokenAccountSnapshot) : List (Pubkey × U64) :=
  accounts.map fun a => (a.owner, a.amount)

/-- The locked amounts, by lock owner. -/
def lockAmounts (records : List TokenLockRecord) : List (Pubkey × U64) :=
  records.map fun r => (r.lockOwner, r.currentLockedAmount)

/-- The accounts are added up by owner. -/
theorem foldlM_accounts (m : Balances) (accounts : List TokenAccountSnapshot) :
    accounts.foldlM (fun m a => addBalance m a.owner a.amount) m =
      tally SnapshotError.overflow m (ownerAmounts accounts) := by
  rw [tally, ownerAmounts, List.foldlM_map]
  rfl

/-- The lock records are added up by lock owner. -/
theorem foldlM_records (m : Balances) (records : List TokenLockRecord) :
    records.foldlM (fun m r => addBalance m r.lockOwner r.currentLockedAmount) m =
      tally SnapshotError.overflow m (lockAmounts records) := by
  rw [tally, lockAmounts, List.foldlM_map]
  rfl

/-- The amounts of an owner add up to its balance. -/
theorem keySum_ownerAmounts (accounts : List TokenAccountSnapshot) (o : Pubkey) :
    keySum (ownerAmounts accounts) o = ownerBalance accounts o := by
  simp [keySum, ownerAmounts, ownerBalance, List.filter_map, Function.comp_def]

/-- The amounts of a lock owner add up to its locked balance. -/
theorem keySum_lockAmounts (records : List TokenLockRecord) (o : Pubkey) :
    keySum (lockAmounts records) o = lockedBalance records o := by
  simp [keySum, lockAmounts, lockedBalance, List.filter_map, Function.comp_def]

/-- The entries of a map say what its amounts are. -/
theorem entryBalance_entriesOf (m : Balances) (o : Pubkey) :
    entryBalance (entriesOf m) o = amount m o := by
  unfold entryBalance
  cases hfind : (entriesOf m).find? fun e => e.owner = o with
  | none =>
    have hn : o ∉ m.toList.map Prod.fst := by
      rintro hmem
      obtain ⟨x, hx, rfl⟩ := List.mem_map.1 hmem
      have := List.find?_eq_none.1 hfind ⟨x.1, x.2⟩ (List.mem_map.2 ⟨x, hx, rfl⟩)
      simp at this
    rw [← keySum_toList, keySum_eq_zero hn]
    rfl
  | some e =>
    have ho : e.owner = o := by simpa using List.find?_some hfind
    obtain ⟨x, hx, rfl⟩ := List.mem_map.1 (List.mem_of_find?_eq_some hfind)
    subst ho
    rw [← keySum_toList, keySum_of_mem (nodup_keys_toList m) hx]
    rfl

/-- An entry is of an owner of the map. -/
theorem mem_of_entriesOf {m : Balances} {e : HolderEntry} (h : e ∈ entriesOf m) : e.owner ∈ m := by
  obtain ⟨x, hx, rfl⟩ := List.mem_map.1 h
  exact mem_keys_toList.1 (List.mem_map_of_mem hx)

/-- Every key of the map has an entry. -/
theorem exists_entry {m : Balances} {k : Pubkey} (h : k ∈ m) : ∃ e ∈ entriesOf m, e.owner = k := by
  obtain ⟨x, hx, rfl⟩ := List.mem_map.1 (mem_keys_toList.2 h)
  exact ⟨⟨x.1, x.2⟩, List.mem_map_of_mem hx, rfl⟩

/-! ## The exclusion pass -/

/-- One step of the exclusion pass. -/
theorem excludeOwner_ok {sinks : List Pubkey} {s s' : Exclusions} {x : Pubkey × U64}
    (h : excludeOwner sinks s x = .ok s') :
    s'.sinkTotal.val = s.sinkTotal.val + (if x.1 ∈ sinks then x.2.val else 0) ∧
      s'.claimable = (if x.1 ∈ sinks ∨ x.2.val = 0 then s.claimable
        else s.claimable.insert x.1 x.2) := by
  obtain ⟨owner, a⟩ := x
  simp only [excludeOwner] at h
  split_ifs at h with hzero hsink
  · obtain rfl := pure_ok_iff.1 h
    simp [hzero]
  · obtain ⟨total, htotal, h⟩ := okOr_bind_ok_iff.1 h
    obtain rfl := pure_ok_iff.1 h
    simp [hsink, Word.checkedAdd_eq_some.1 htotal]
  · obtain rfl := pure_ok_iff.1 h
    simp [hsink, hzero]

/-- One owner becomes claimable at most, and only if it is no sink. -/
theorem mem_excludeOwner {sinks : List Pubkey} {s s' : Exclusions} {x : Pubkey × U64}
    (h : excludeOwner sinks s x = .ok s') {k : Pubkey} (hk : k ∈ s'.claimable) :
    k ∈ s.claimable ∨ k = x.1 ∧ x.1 ∉ sinks := by
  rw [(excludeOwner_ok h).2] at hk
  split_ifs at hk with hcase
  · exact Or.inl hk
  · rw [Std.TreeMap.mem_insert, Std.LawfulEqCmp.compare_eq_iff_eq] at hk
    rcases hk with rfl | hk
    · exact Or.inr ⟨rfl, fun hsink => hcase (Or.inl hsink)⟩
    · exact Or.inl hk

/-- A new owner gets its balance, unless it is a sink. -/
theorem amount_excludeOwner {sinks : List Pubkey} {s s' : Exclusions} {x : Pubkey × U64}
    (h : excludeOwner sinks s x = .ok s') (hfresh : x.1 ∉ s.claimable) (k : Pubkey) :
    amount s'.claimable k =
      amount s.claimable k + if x.1 ∉ sinks ∧ x.1 = k then x.2.val else 0 := by
  rw [(excludeOwner_ok h).2]
  by_cases hsink : x.1 ∈ sinks
  · simp [hsink]
  by_cases hzero : x.2.val = 0
  · simp [hzero]
  simp only [hsink, hzero, or_self, if_false, amount_insert, not_false_eq_true, true_and]
  split_ifs with hk
  · rw [← hk, amount_of_not_mem hfresh, zero_add]
  · rfl

/-- The pass over owners that are all different : the sinks are totalled, and of the others
those with a balance become claimable. -/
theorem exclude_ok {sinks : List Pubkey} {s s' : Exclusions} {l : List (Pubkey × U64)}
    (h : l.foldlM (excludeOwner sinks) s = .ok s') (hl : (l.map Prod.fst).Nodup)
    (hs : ∀ x ∈ l, x.1 ∉ s.claimable) :
    s'.sinkTotal.val =
        s.sinkTotal.val + ((l.filter fun x => x.1 ∈ sinks).map fun x => x.2.val).sum ∧
      (∀ k, amount s'.claimable k =
        amount s.claimable k + keySum (l.filter fun x => x.1 ∉ sinks) k) ∧
      ∀ k, k ∈ s'.claimable → k ∈ s.claimable ∨ k ∉ sinks ∧ k ∈ l.map Prod.fst := by
  induction l generalizing s with
  | nil =>
    obtain rfl := pure_ok_iff.1 h
    simp
  | cons x l ih =>
    rw [List.foldlM_cons, bind_ok_iff] at h
    obtain ⟨s₁, hx, h⟩ := h
    rw [List.map_cons, List.nodup_cons] at hl
    have hs₁ : ∀ y ∈ l, y.1 ∉ s₁.claimable := by
      intro y hy hmem
      rcases mem_excludeOwner hx hmem with hmem | ⟨heq, _⟩
      · exact hs y (List.mem_cons_of_mem x hy) hmem
      · exact hl.1 (heq ▸ List.mem_map_of_mem hy)
    obtain ⟨ih₁, ih₂, ih₃⟩ := ih h hl.2 hs₁
    refine ⟨?_, fun k => ?_, fun k hk => ?_⟩
    · rw [ih₁, (excludeOwner_ok hx).1]
      by_cases hsink : x.1 ∈ sinks
      · simp [hsink, add_assoc]
      · simp [hsink]
    · rw [ih₂, amount_excludeOwner hx (hs x List.mem_cons_self), add_assoc]
      by_cases hsink : x.1 ∈ sinks
      · simp [hsink]
      · rw [List.filter_cons_of_pos (by simpa using hsink), keySum_cons]
        simp [hsink]
    · rcases ih₃ k hk with hk | ⟨hns, hmem⟩
      · rcases mem_excludeOwner hx hk with hk | ⟨rfl, hsink⟩
        · exact Or.inl hk
        · exact Or.inr ⟨hsink, List.mem_cons_self⟩
      · exact Or.inr ⟨hns, List.mem_cons_of_mem _ hmem⟩

/-- After the pass over the tally of the accounts, an owner has what its accounts hold, unless it is
a sink. -/
theorem amount_of_pass {sinks : List Pubkey} {accounts : List TokenAccountSnapshot}
    {perOwner : Balances} {pass : Exclusions}
    (hper : tally SnapshotError.overflow ∅ (ownerAmounts accounts) = .ok perOwner)
    (hpass : perOwner.toList.foldlM (excludeOwner sinks) ⟨[], 0, ∅⟩ = .ok pass) (k : Pubkey) :
    amount pass.claimable k = if k ∈ sinks then 0 else ownerBalance accounts k := by
  obtain ⟨_, hamount, _⟩ := exclude_ok hpass (nodup_keys_toList _) (by simp)
  rw [hamount, amount_of_not_mem (by simp), zero_add, keySum_filter _ fun k => k ∉ sinks,
    keySum_toList, (tally_ok hper).1, amount_of_not_mem (by simp), zero_add, keySum_ownerAmounts,
    ite_not]

/-! ## The stages of a successful build -/

/-- What the stages of a build that returned `snapshot` have computed. -/
structure Stages (request : SnapshotRequest) (source : LpAccountSource)
    (locks : LockedLpEvidence) (snapshot : LpSnapshot) where
  supply : MintSupply
  accounts : List TokenAccountSnapshot
  records : List TokenLockRecord
  perOwner : Balances
  pass : Exclusions
  totalLocked : U128
  attributions : Balances
  claimable : Balances
  merged : Balances
  supply_ok : source.lpMintSupply request.lpMint = .ok supply
  accounts_ok : source.tokenAccounts request.lpMint = .ok accounts
  records_ok : locks.tokenLocks request.poolAddress request.lpMint = .ok records
  complete : (accounts.map fun a => a.amount.val).sum = supply.amount.val
  perOwner_ok : tally SnapshotError.overflow ∅ (ownerAmounts accounts) = .ok perOwner
  pass_ok : perOwner.toList.foldlM (excludeOwner request.sinkExclusions) ⟨[], 0, ∅⟩ = .ok pass
  locked : totalLocked.val = lockedTotal records
  attributions_ok : tally SnapshotError.overflow ∅
    (lockAmounts (records.insertionSort fun a b => a.address ≤ b.address)) = .ok attributions
  custody_ok : resolveCustody request.custodyOwnerOverrides accounts totalLocked attributions
    pass.claimable = .ok (snapshot.locked.custody, claimable)
  merged_ok : tally SnapshotError.overflow claimable attributions.toList = .ok merged
  entries : snapshot.entries = entriesOf merged
  canonical : Canonical snapshot.entries
  supply_eq : snapshot.lpTotalSupplyAtSnapshot = supply.amount
  entriesTotal : snapshot.reconciliation.entriesTotal.val =
    (snapshot.entries.map fun e => e.lpBalance.val).sum
  sinkTotal : snapshot.reconciliation.sinkExclusionsTotal.val = pass.sinkTotal.val
  enumerated : snapshot.reconciliation.enumeratedTotal.val = supply.amount.val
  closing : snapshot.reconciliation.entriesTotal.val +
    snapshot.reconciliation.sinkExclusionsTotal.val = snapshot.reconciliation.enumeratedTotal.val

/-- A conversion that succeeds keeps the value. -/
theorem toU64_ok {value : U128} {v : U64} (h : toU64 value = .ok v) : v.val = value.val :=
  Word.ofNat?_eq_some.1 (okOr_ok_iff.1 h)

/-- A build that succeeds went through its stages. -/
theorem exists_stages {request : SnapshotRequest} {source : LpAccountSource}
    {locks : LockedLpEvidence} {snapshot : LpSnapshot}
    (h : build request source locks = .ok snapshot) :
    Nonempty (Stages request source locks snapshot) := by
  simp only [build, bind_ok_iff] at h
  obtain ⟨supply, hsupply, accounts, haccounts, enumeratedTotal, henum, h⟩ := h
  split_ifs at h with hcomplete
  · simp only [bind_ok_iff, reduceCtorEq, and_false, exists_false] at h
  · simp only [bind_ok_iff, require_ok_iff, exists_const, pure_ok_iff, Prod.exists, foldlM_accounts,
      foldlM_records] at h
    obtain ⟨perOwner, hper, pass, hpass, records, hrecords, totalLocked, hlocked, attributions,
      hattr, custody, claimable, hcustody, merged, hmerged, entriesTotal, hentries, hclose,
      lockedTotal', _, enumerated, henum', total, htotal, sinks, hsinks, _, hvalid, rfl⟩ := h
    have hcomplete' := not_ne_iff.1 hcomplete
    have henumerated := checkedTotal_ok henum
    have hlocked' := checkedTotal_ok hlocked
    have hentries' := checkedTotal_ok hentries
    rw [List.map_map] at henumerated hlocked' hentries'
    refine ⟨⟨supply, accounts, records, perOwner, pass, totalLocked, attributions, claimable,
      merged, hsupply, haccounts, hrecords, ?_, hper, hpass, ?_, hattr, hcustody, hmerged, rfl,
      validateEntries_ok_iff.1 hvalid, rfl, ?_, toU64_ok hsinks, ?_, ?_⟩⟩
    · rw [← hcomplete', henumerated]
      rfl
    · rw [hlocked', lockedTotal]
      exact ((List.perm_insertionSort _ records).map _).sum_eq
    · rw [toU64_ok htotal, hentries']
      rfl
    · rw [toU64_ok henum', hcomplete']
    · rw [toU64_ok htotal, toU64_ok hsinks, toU64_ok henum', hclose]

/-! ## The custody account -/

/-- The custody account is one of the candidates. -/
theorem chooseCustody_ok {overrides : List Pubkey} {total : U64}
    {candidates : List TokenAccountSnapshot} {a : TokenAccountSnapshot}
    {method : CustodyMatchMethod}
    (h : chooseCustody overrides total candidates = .ok (a, method)) : a ∈ candidates := by
  unfold chooseCustody at h
  split at h
  · obtain ⟨rfl, _⟩ := Prod.mk.inj (pure_ok_iff.1 h)
    exact List.mem_singleton_self _
  · cases h
  · split at h
    · rename_i chosen hfilter
      obtain ⟨rfl, _⟩ := Prod.mk.inj (pure_ok_iff.1 h)
      exact (List.mem_filter.1 (hfilter ▸ List.mem_singleton_self chosen)).1
    · cases h

/-- Nothing is locked and nothing changes, or an account with the locked total is taken out,
together with its owner, who has a claimable balance and no lock. -/
theorem resolveCustody_ok {overrides : List Pubkey} {accounts : List TokenAccountSnapshot}
    {totalLocked : U128} {attributions claimable claimable' : Balances}
    {custody : Option CustodyResolution}
    (h : resolveCustody overrides accounts totalLocked attributions claimable =
      .ok (custody, claimable')) :
    (totalLocked.val = 0 ∧ custody = none ∧ claimable' = claimable) ∨
      ∃ a ∈ accounts, ∃ method, a.amount.val = totalLocked.val ∧ a.owner ∉ attributions ∧
        a.owner ∈ claimable ∧ custody = some ⟨a.address, a.owner, a.amount, method⟩ ∧
        claimable' = claimable.erase a.owner := by
  unfold resolveCustody at h
  split_ifs at h with hzero
  · obtain ⟨rfl, rfl⟩ := Prod.mk.inj (pure_ok_iff.1 h)
    exact Or.inl ⟨hzero, rfl, rfl⟩
  · simp only [bind_ok_iff, require_ok_iff, exists_const, pure_ok_iff, Prod.exists,
      Prod.mk.injEq] at h
    obtain ⟨total, _, a, method, hchosen, hattr, hclaim, rfl, rfl⟩ := h
    obtain ⟨hmem, hamount⟩ := List.mem_filter.1 (chooseCustody_ok hchosen)
    refine Or.inr ⟨a, hmem, method, by simpa using hamount, ?_, ?_, rfl, rfl⟩
    · rw [← Std.TreeMap.contains_iff_mem, hattr]
      exact Bool.false_ne_true
    · rwa [Std.TreeMap.contains_iff_mem] at hclaim

/-! ## Owner by owner -/

namespace Stages

variable {request : SnapshotRequest} {source : LpAccountSource} {locks : LockedLpEvidence}
  {snapshot : LpSnapshot} (st : Stages request source locks snapshot)

/-- The empty map has no balance. -/
theorem amount_empty (k : Pubkey) : amount (∅ : Balances) k = 0 :=
  amount_of_not_mem (by simp)

/-- An owner's balance in the first map is that of its accounts. -/
theorem amount_perOwner (k : Pubkey) : amount st.perOwner k = ownerBalance st.accounts k := by
  rw [(tally_ok st.perOwner_ok).1, amount_empty, zero_add, keySum_ownerAmounts]

/-- Sorting the records does not change what they give to an owner. -/
theorem sorted_perm : (lockAmounts (st.records.insertionSort fun a b => a.address ≤ b.address)).Perm
    (lockAmounts st.records) :=
  (List.perm_insertionSort _ _).map _

/-- An owner's attribution is its locked balance. -/
theorem amount_attributions (k : Pubkey) :
    amount st.attributions k = lockedBalance st.records k := by
  rw [(tally_ok st.attributions_ok).1, amount_empty, zero_add, keySum_perm st.sorted_perm,
    keySum_lockAmounts]

/-- After the exclusion pass a sink has nothing, and every other owner its balance. -/
theorem amount_pass (k : Pubkey) : amount st.pass.claimable k =
    if k ∈ request.sinkExclusions then 0 else ownerBalance st.accounts k :=
  amount_of_pass st.perOwner_ok st.pass_ok k

/-- No sink is left after the exclusion pass. -/
theorem not_sink_of_mem {k : Pubkey} (h : k ∈ st.pass.claimable) : k ∉ request.sinkExclusions := by
  obtain ⟨_, _, hmem⟩ := exclude_ok st.pass_ok (nodup_keys_toList _) (by simp)
  rcases hmem k h with hempty | ⟨hsink, _⟩
  · simp at hempty
  · exact hsink

/-- The merge adds what is locked to what is claimable. -/
theorem amount_merged (k : Pubkey) :
    amount st.merged k = amount st.claimable k + lockedBalance st.records k := by
  rw [(tally_ok st.merged_ok).1, keySum_toList, st.amount_attributions]

/-- Every owner of an account or of a lock. -/
def owners : Finset Pubkey :=
  ((ownerAmounts st.accounts ++ lockAmounts st.records).map Prod.fst).toFinset

/-- The owners are those of accounts and of locks. -/
theorem mem_owners {k : Pubkey} : k ∈ st.owners ↔
    k ∈ (ownerAmounts st.accounts).map Prod.fst ∨ k ∈ (lockAmounts st.records).map Prod.fst := by
  rw [owners, List.mem_toFinset, List.map_append, List.mem_append]

theorem mem_owners_of_perOwner {k : Pubkey} (h : k ∈ st.perOwner) : k ∈ st.owners := by
  rcases ((tally_ok st.perOwner_ok).2 k).1 h with hempty | hk
  · simp at hempty
  · exact st.mem_owners.2 (Or.inl hk)

theorem mem_owners_of_pass {k : Pubkey} (h : k ∈ st.pass.claimable) : k ∈ st.owners := by
  obtain ⟨_, _, hmem⟩ := exclude_ok st.pass_ok (nodup_keys_toList _) (by simp)
  rcases hmem k h with hempty | ⟨_, hk⟩
  · simp at hempty
  · exact st.mem_owners_of_perOwner (mem_keys_toList.1 hk)

/-- What is claimable is left of the exclusion pass. -/
theorem mem_pass_of_claimable {k : Pubkey} (h : k ∈ st.claimable) : k ∈ st.pass.claimable := by
  rcases resolveCustody_ok st.custody_ok with ⟨_, _, heq⟩ | ⟨_, _, _, _, _, _, _, heq⟩
  · rwa [heq] at h
  · rw [heq, Std.TreeMap.mem_erase] at h
    exact h.2

/-- Every lock owner is merged, whatever its amount. -/
theorem mem_merged_iff {k : Pubkey} :
    k ∈ st.merged ↔ k ∈ st.claimable ∨ k ∈ (lockAmounts st.records).map Prod.fst := by
  have hattr : k ∈ st.attributions ↔ k ∈ (lockAmounts st.records).map Prod.fst := by
    rw [(tally_ok st.attributions_ok).2 k, (st.sorted_perm.map Prod.fst).mem_iff]
    simp
  rw [(tally_ok st.merged_ok).2 k, mem_keys_toList, hattr]

theorem mem_owners_of_merged {k : Pubkey} (h : k ∈ st.merged) : k ∈ st.owners := by
  rcases st.mem_merged_iff.1 h with hk | hk
  · exact st.mem_owners_of_pass (st.mem_pass_of_claimable hk)
  · exact st.mem_owners.2 (Or.inr hk)

/-! ## The closing identity, owner by owner -/

/-- The balances make up the supply. -/
theorem sum_ownerBalance : ∑ k ∈ st.owners, ownerBalance st.accounts k = st.supply.amount.val := by
  have hsum : ∑ k ∈ st.owners, keySum (ownerAmounts st.accounts) k =
      ((ownerAmounts st.accounts).map fun x => x.2.val).sum :=
    sum_keySum fun x hx => st.mem_owners.2 (Or.inl (List.mem_map_of_mem hx))
  simp only [keySum_ownerAmounts] at hsum
  rw [hsum, ← st.complete, ownerAmounts, List.map_map]
  rfl

/-- The locked balances make up the locked total. -/
theorem sum_lockedBalance :
    ∑ k ∈ st.owners, lockedBalance st.records k = lockedTotal st.records := by
  have hsum : ∑ k ∈ st.owners, keySum (lockAmounts st.records) k =
      ((lockAmounts st.records).map fun x => x.2.val).sum :=
    sum_keySum fun x hx => st.mem_owners.2 (Or.inr (List.mem_map_of_mem hx))
  simp only [keySum_lockAmounts] at hsum
  rw [hsum, lockAmounts, List.map_map]
  rfl

/-- The sink total is the balances of the sinks. -/
theorem sum_sinks : st.pass.sinkTotal.val =
    ∑ k ∈ st.owners, if k ∈ request.sinkExclusions then ownerBalance st.accounts k else 0 := by
  obtain ⟨htotal, _, _⟩ := exclude_ok st.pass_ok (nodup_keys_toList _) (by simp)
  have hsum : ∑ k ∈ st.owners,
      keySum (st.perOwner.toList.filter fun x => x.1 ∈ request.sinkExclusions) k = _ :=
    sum_keySum fun x hx => st.mem_owners_of_perOwner
      (mem_keys_toList.1 (List.mem_map_of_mem (List.mem_filter.1 hx).1))
  rw [htotal, ← hsum]
  simp only [keySum_filter _ fun k => k ∈ request.sinkExclusions, keySum_toList, st.amount_perOwner]
  exact Nat.zero_add _

/-- The entries add up to what is claimable and what is locked. -/
theorem sum_entries : snapshot.reconciliation.entriesTotal.val =
    ∑ k ∈ st.owners, amount st.claimable k + lockedTotal st.records := by
  have hsum : (st.merged.toList.map fun x => x.2.val).sum = ∑ k ∈ st.owners, amount st.merged k :=
    sum_toList fun k hk => st.mem_owners_of_merged hk
  simp only [st.amount_merged, Finset.sum_add_distrib, st.sum_lockedBalance] at hsum
  rw [st.entriesTotal, st.entries, entriesOf, List.map_map, ← hsum]
  rfl

/-- What the claimable balances lose to the custody is what is locked. -/
theorem sum_claimable : ∑ k ∈ st.owners, amount st.claimable k + lockedTotal st.records =
    ∑ k ∈ st.owners, amount st.pass.claimable k := by
  have hsplit : ∑ k ∈ st.owners, amount st.pass.claimable k + st.pass.sinkTotal.val =
      st.supply.amount.val := by
    rw [st.sum_sinks, ← Finset.sum_add_distrib, ← st.sum_ownerBalance]
    refine Finset.sum_congr rfl fun k _ => ?_
    rw [st.amount_pass]
    split_ifs <;> simp
  have hclosing := st.closing
  rw [st.sum_entries, st.sinkTotal, st.enumerated] at hclosing
  omega

/-- The custody owner's whole balance is the locked total. -/
theorem custody_whole {a : TokenAccountSnapshot} (hmem : a.owner ∈ st.pass.claimable)
    (hclaim : st.claimable = st.pass.claimable.erase a.owner) :
    ownerBalance st.accounts a.owner = lockedTotal st.records := by
  have hin := st.mem_owners_of_pass hmem
  have hpass : amount st.pass.claimable a.owner = ownerBalance st.accounts a.owner := by
    rw [st.amount_pass, if_neg (st.not_sink_of_mem hmem)]
  have hsum := st.sum_claimable
  rw [← Finset.add_sum_erase _ _ hin, ← Finset.add_sum_erase _ _ hin, hclaim, amount_erase,
    if_pos rfl, hpass] at hsum
  have hrest : ∑ k ∈ st.owners.erase a.owner, amount (st.pass.claimable.erase a.owner) k =
      ∑ k ∈ st.owners.erase a.owner, amount st.pass.claimable k := by
    refine Finset.sum_congr rfl fun k hk => ?_
    rw [amount_erase, if_neg (Ne.symm (Finset.ne_of_mem_erase hk))]
  omega

end Stages

/-- Every successful build meets the specification. -/
theorem Stages.attributes {request : SnapshotRequest} {source : LpAccountSource}
    {locks : LockedLpEvidence} {snapshot : LpSnapshot}
    (st : Stages request source locks snapshot) :
    Attributes request.sinkExclusions st.supply st.accounts st.records snapshot where
  ascending := st.canonical.sorted
  positive := st.canonical.pos
  balances := by
    intro o ho
    rw [st.entries, entryBalance_entriesOf, st.amount_merged, ← st.amount_pass]
    rcases resolveCustody_ok st.custody_ok with ⟨_, _, heq⟩ | ⟨a, _, _, _, _, _, hcustody, heq⟩
    · rw [heq]
    · rw [heq, amount_erase, if_neg fun h => ho _ hcustody h.symm]
  custody := by
    intro hpos
    rcases resolveCustody_ok st.custody_ok with ⟨hzero, _⟩ | ⟨a, ha, method, hamount, hattr, hmem,
      hcustody, hclaim⟩
    · rw [st.locked] at hzero
      omega
    · refine ⟨_, hcustody, ⟨a, ha, rfl, rfl, rfl⟩, ?_, st.custody_whole hmem hclaim, ?_⟩
      · rw [hamount, st.locked]
      · intro e he heq
        rw [st.entries] at he
        have hmerged := mem_of_entriesOf he
        rcases ((tally_ok st.merged_ok).2 e.owner).1 hmerged with hk | hk
        · rw [hclaim, heq] at hk
          simp at hk
        · rw [heq] at hk
          exact hattr (mem_keys_toList.1 hk)
  entriesTotal := st.entriesTotal
  closed := st.closing
  enumerated := by rw [st.enumerated, st.complete]
  supply := ⟨Fin.ext (by rw [st.enumerated, st.supply_eq]), st.supply_eq⟩

/-- A successful build was handed a supply, accounts and records, and its snapshot is what the
specification makes of them. -/
theorem build_attributes (request : SnapshotRequest) (source : LpAccountSource)
    (locks : LockedLpEvidence) (snapshot : LpSnapshot)
    (h : build request source locks = .ok snapshot) :
    ∃ supply accounts records, source.lpMintSupply request.lpMint = .ok supply ∧
      source.tokenAccounts request.lpMint = .ok accounts ∧
      locks.tokenLocks request.poolAddress request.lpMint = .ok records ∧
      Attributes request.sinkExclusions supply accounts records snapshot := by
  obtain ⟨st⟩ := exists_stages h
  exact ⟨st.supply, st.accounts, st.records, st.supply_ok, st.accounts_ok, st.records_ok,
    st.attributes⟩

/-- A holder, a custody account and a sink. -/
def lockedAccounts : LpAccountSource where
  lpMintSupply _ := .ok ⟨1000, 5⟩
  tokenAccounts _ := .ok [⟨Pubkey.fill 11, Pubkey.fill 2, 300⟩,
    ⟨Pubkey.fill 12, Pubkey.fill 1, 600⟩, ⟨Pubkey.fill 13, Pubkey.fill 3, 100⟩]

/-- Two locks, one of them of the holder. -/
def twoLocks : LockedLpEvidence where
  tokenLocks _ _ := .ok [⟨Pubkey.fill 32, 2, 100, Pubkey.fill 4⟩,
    ⟨Pubkey.fill 31, 1, 200, Pubkey.fill 1⟩]

/-- A request with one sink. -/
def lockedRequest : SnapshotRequest :=
  ⟨Pubkey.fill 21, raydiumV4ProgramId, Pubkey.fill 24, [Pubkey.fill 3], []⟩

/-- The snapshot with two locks, whose owners get what the locker holds. -/
def lockedSnapshot : LpSnapshot where
  poolAddress := Pubkey.fill 21
  ammProgramId := raydiumV4ProgramId
  lpMint := Pubkey.fill 24
  snapshotSlot := 5
  lpTotalSupplyAtSnapshot := 1000
  entries := [⟨Pubkey.fill 1, 800⟩, ⟨Pubkey.fill 4, 100⟩]
  exclusions := [⟨Pubkey.fill 3, 100, .explicitSink⟩]
  locked := ⟨2, 300, [⟨Pubkey.fill 1, 200⟩, ⟨Pubkey.fill 4, 100⟩],
    some ⟨Pubkey.fill 11, Pubkey.fill 2, 300, .exactBalanceMatch⟩⟩
  reconciliation := ⟨1000, 900, 100⟩

theorem build_lockedAccounts :
    build lockedRequest lockedAccounts twoLocks = .ok lockedSnapshot := by
  decide +kernel

theorem build_attributes_locked : ∃ supply accounts records,
    lockedAccounts.lpMintSupply (Pubkey.fill 24) = .ok supply ∧
    lockedAccounts.tokenAccounts (Pubkey.fill 24) = .ok accounts ∧
    twoLocks.tokenLocks (Pubkey.fill 21) (Pubkey.fill 24) = .ok records ∧
    Attributes [Pubkey.fill 3] supply accounts records lockedSnapshot :=
  build_attributes lockedRequest lockedAccounts twoLocks lockedSnapshot build_lockedAccounts

/-! ## Sinks -/

/-- The exclusion pass takes the sinks out, so that a sink among the entries is a lock owner. -/
theorem Stages.lockOwner_of_sink {request : SnapshotRequest} {source : LpAccountSource}
    {locks : LockedLpEvidence} {snapshot : LpSnapshot} (st : Stages request source locks snapshot)
    {e : HolderEntry} (he : e ∈ snapshot.entries) (hsink : e.owner ∈ request.sinkExclusions) :
    ∃ r ∈ st.records, r.lockOwner = e.owner := by
  rw [st.entries] at he
  rcases st.mem_merged_iff.1 (mem_of_entriesOf he) with hclaimable | hlock
  · exact absurd hsink (st.not_sink_of_mem (st.mem_pass_of_claimable hclaimable))
  · obtain ⟨x, hx, howner⟩ := List.mem_map.1 hlock
    obtain ⟨r, hr, rfl⟩ := List.mem_map.1 hx
    exact ⟨r, hr, howner⟩

/-- A snapshot has no sink among its entries iff no lock owner is a sink : the attributions are
merged after the pass. -/
theorem sinksExcluded_iff (request : SnapshotRequest) (source : LpAccountSource)
    (locks : LockedLpEvidence) (snapshot : LpSnapshot)
    (h : build request source locks = .ok snapshot) :
    (∀ e ∈ snapshot.entries, e.owner ∉ request.sinkExclusions) ↔
      ∀ records, locks.tokenLocks request.poolAddress request.lpMint = .ok records →
        ∀ r ∈ records, r.lockOwner ∉ request.sinkExclusions := by
  obtain ⟨st⟩ := exists_stages h
  constructor
  · intro hentries records hrecords r hr
    obtain rfl := Except.ok.inj (st.records_ok.symm.trans hrecords)
    have hmerged : r.lockOwner ∈ st.merged :=
      st.mem_merged_iff.2 (Or.inr (List.mem_map_of_mem (f := Prod.fst) (List.mem_map_of_mem hr)))
    obtain ⟨e, he, howner⟩ := exists_entry hmerged
    rw [← howner]
    exact hentries e (st.entries ▸ he)
  · intro hrecords e he hsink
    obtain ⟨r, hr, howner⟩ := st.lockOwner_of_sink he hsink
    exact hrecords st.records st.records_ok r hr (howner ▸ hsink)

/-- Where no sink has a lock, none has an entry. -/
theorem sinksExcluded_iff_locked :
    build lockedRequest lockedAccounts twoLocks = .ok lockedSnapshot ∧
      ∀ e ∈ lockedSnapshot.entries, e.owner ∉ lockedRequest.sinkExclusions := by
  refine ⟨build_lockedAccounts, (sinksExcluded_iff lockedRequest lockedAccounts twoLocks
    lockedSnapshot build_lockedAccounts).2 fun records hrecords => ?_⟩
  obtain rfl := Except.ok.inj hrecords
  decide

/-- The owner of the second lock declared a sink. -/
def sinkRequest : SnapshotRequest :=
  { lockedRequest with sinkExclusions := [Pubkey.fill 3, Pubkey.fill 4] }

theorem lockOwner_sink_attributed : ∃ snapshot,
    build sinkRequest lockedAccounts twoLocks = .ok snapshot ∧
      ∃ e ∈ snapshot.entries, e.owner ∈ sinkRequest.sinkExclusions := by
  have hbuild : build sinkRequest lockedAccounts twoLocks = .ok lockedSnapshot := by
    decide +kernel
  exact ⟨lockedSnapshot, hbuild, ⟨Pubkey.fill 4, 100⟩, by decide, by decide⟩

end GraveYield.Snapshotter
