import GraveYield.Reconciliation

/-!
# The snapshot does not depend on the order of its inputs

The node serves token accounts and lock records in no particular order, and the sinks and the
overrides of a request are lists. `build_reordered` : reordering all of them changes nothing in
the outcome of the builder, neither in the snapshot nor in the error. Sums fail in every order or
in none, the maps are read in key order, and the custody account is the only one that passes
its filter.
-/

namespace GraveYield.Snapshotter

open Machine Checked Tally

/-- The same request to the same chain, with every list in another order. -/
structure Reordered (request request' : SnapshotRequest) (source source' : LpAccountSource)
    (locks locks' : LockedLpEvidence) : Prop where
  poolAddress : request'.poolAddress = request.poolAddress
  ammProgramId : request'.ammProgramId = request.ammProgramId
  lpMint : request'.lpMint = request.lpMint
  sinks : request.sinkExclusions.Perm request'.sinkExclusions
  overrides : request.custodyOwnerOverrides.Perm request'.custodyOwnerOverrides
  supply : source'.lpMintSupply request.lpMint = source.lpMintSupply request.lpMint
  accounts : Agree List.Perm (source.tokenAccounts request.lpMint)
    (source'.tokenAccounts request.lpMint)
  records : Agree List.Perm (locks.tokenLocks request.poolAddress request.lpMint)
    (locks'.tokenLocks request.poolAddress request.lpMint)

/-- The order of the amounts does not matter. -/
theorem checkedTotal_perm {l l' : List U64} (h : l.Perm l') : checkedTotal l = checkedTotal l' := by
  rw [checkedTotal_eq, checkedTotal_eq, (h.map Fin.val).sum_eq]

/-- The order of the sinks does not matter. -/
theorem excludeOwner_congr {sinks sinks' : List Pubkey} (h : sinks.Perm sinks') :
    excludeOwner sinks = excludeOwner sinks' := by
  funext s e
  simp only [excludeOwner, h.mem_iff]

/-- A list is empty, has one element, or has more, whatever its order. -/
theorem perm_cases {α : Type} {l l' : List α} (h : l.Perm l') :
    (l = [] ∧ l' = []) ∨ (∃ a, l = [a] ∧ l' = [a]) ∨
      ∃ a b k a' b' k', l = a :: b :: k ∧ l' = a' :: b' :: k' := by
  match l, l', h, h.length_eq with
  | [], l', h, _ => exact Or.inl ⟨rfl, h.nil_eq.symm⟩
  | [a], l', h, _ => exact Or.inr (Or.inl ⟨a, rfl, (List.singleton_perm.1 h).symm⟩)
  | a :: b :: k, a' :: b' :: k', _, _ => exact Or.inr (Or.inr ⟨a, b, k, a', b', k', rfl, rfl⟩)

/-- Of several candidates, the overrides pick the same one or none, in every order. -/
theorem chooseCustody_perm {overrides overrides' : List Pubkey} {total : U64}
    {candidates candidates' : List TokenAccountSnapshot} (ho : overrides.Perm overrides')
    (hc : candidates.Perm candidates') :
    chooseCustody overrides total candidates = chooseCustody overrides' total candidates' := by
  have hfilter : (candidates.filter fun a => a.owner ∈ overrides).Perm
      (candidates'.filter fun a => a.owner ∈ overrides') := by
    simp only [ho.mem_iff]
    exact hc.filter _
  have hlen := hc.length_eq
  rcases perm_cases hc with ⟨rfl, rfl⟩ | ⟨a, rfl, rfl⟩ | ⟨a, b, k, a', b', k', rfl, rfl⟩
  · rfl
  · rfl
  · simp only [chooseCustody]
    rcases perm_cases hfilter with ⟨hf, hf'⟩ | ⟨x, hf, hf'⟩ | ⟨x, y, j, x', y', j', hf, hf'⟩
    · rw [hf, hf', hlen]
    · rw [hf, hf']
    · rw [hf, hf', hlen]

/-- The custodian that is found does not depend on the order. -/
theorem resolveCustody_perm {overrides overrides' : List Pubkey}
    {accounts accounts' : List TokenAccountSnapshot} {totalLocked : U128}
    {attributions attributions' claimable : Balances} (ho : overrides.Perm overrides')
    (ha : accounts.Perm accounts') (hattr : attributions.Equiv attributions') :
    resolveCustody overrides accounts totalLocked attributions claimable =
      resolveCustody overrides' accounts' totalLocked attributions' claimable := by
  have hchoose : ∀ total, chooseCustody overrides total
      (accounts.filter fun a => a.amount.val = totalLocked.val) = chooseCustody overrides' total
        (accounts'.filter fun a => a.amount.val = totalLocked.val) :=
    fun total => chooseCustody_perm ho (ha.filter _)
  simp only [resolveCustody, hchoose, hattr.contains_eq]

/-- The outcome of a build, the snapshot as well as the error, does not depend on the order of
the token accounts, the lock records, the sinks and the overrides. -/
theorem build_reordered (request request' : SnapshotRequest) (source source' : LpAccountSource)
    (locks locks' : LockedLpEvidence)
    (h : Reordered request request' source source' locks locks') :
    build request source locks = build request' source' locks' := by
  obtain ⟨hpool, hamm, hmint, hsinks, hoverrides, hsupply, haccounts, hrecords⟩ := h
  simp only [build, hpool, hamm, hmint, hsupply, foldlM_accounts, foldlM_records]
  congr 1
  funext supply
  refine haccounts.bind_eq fun accounts accounts' ha => ?_
  rw [checkedTotal_perm (ha.map TokenAccountSnapshot.amount)]
  congr 1
  funext enumeratedTotal
  split_ifs with hcomplete
  · rfl
  -- The balances by owner are read in key order, so that the exclusion pass is the same.
  refine (tally_perm _ _ (ha.map _)).bind_eq fun perOwner perOwner' hper => ?_
  rw [hper.toList_eq, excludeOwner_congr hsinks]
  congr 1
  funext pass
  refine hrecords.bind_eq fun records records' hr => ?_
  have hsort : (records.insertionSort fun a b => a.address ≤ b.address).Perm
      (records'.insertionSort fun a b => a.address ≤ b.address) :=
    ((List.perm_insertionSort _ _).trans hr).trans (List.perm_insertionSort _ _).symm
  rw [checkedTotal_perm (hsort.map TokenLockRecord.currentLockedAmount), hsort.length_eq]
  congr 1
  funext totalLocked
  -- The attributions are used through their entries and their keys.
  refine (tally_perm _ _ (hsort.map _)).bind_eq fun attributions attributions' hattr => ?_
  rw [resolveCustody_perm hoverrides ha hattr, hattr.toList_eq]
  simp only [entriesOf, hattr.toList_eq]

/-- The accounts of the demonstration in another order. -/
def shuffledAccounts : LpAccountSource where
  lpMintSupply _ := .ok ⟨1000, 5⟩
  tokenAccounts _ := .ok [⟨Pubkey.fill 12, Pubkey.fill 1, 600⟩,
    ⟨Pubkey.fill 11, Pubkey.fill 2, 300⟩, ⟨Pubkey.fill 13, Pubkey.fill 3, 100⟩]

/-- The lock records, in the other order. -/
def shuffledLocks : LockedLpEvidence where
  tokenLocks _ _ := .ok [⟨Pubkey.fill 31, 1, 200, Pubkey.fill 1⟩,
    ⟨Pubkey.fill 32, 2, 100, Pubkey.fill 4⟩]

theorem build_reordered_shuffled :
    build lockedRequest shuffledAccounts shuffledLocks = .ok lockedSnapshot := by
  rw [← build_lockedAccounts]
  symm
  refine build_reordered _ _ _ _ _ _ ⟨rfl, rfl, rfl, .refl _, .refl _, rfl, ?_, ?_⟩
  · exact .ok (.swap _ _ _)
  · exact .ok (.swap _ _ _)

end GraveYield.Snapshotter
