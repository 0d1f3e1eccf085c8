import GraveYield.Enumeration
import GraveYield.Lib.InsertionMap
import GraveYield.Sdk.Merkle
import GraveYield.Sdk.RaydiumV4

/-!
# The snapshot of the SDK

`snapshotLpHolders` : enumerate the token accounts of the LP mint, add them up by owner without
the zero balances and the declared sinks, compare with the supply, sort and hash. The builder of
the snapshotter compares before it takes the sinks out, the SDK after.

With `S` enumerated, `K` of it in the hands of sinks and a supply `U`, the builder succeeds iff
`S = U` and `K < S`, the SDK iff `S = K + U` and `K < S`. `snapshotLpHolders_agrees_iff` is the
comparison.
-/

namespace GraveYield.Sdk

open Machine Checked Snapshotter

/-! ## The source -/

/-- What the snapshot throws. -/
inductive SnapshotError where
  | read (e : ReadError)
  | mintNotFound (lpMint : Pubkey)
  | unpackMint (lpMint : Pubkey)
  | completenessGate (enumeratedTotal totalSupply entriesTotal : ℤ)
  | merkle (e : MerkleError)
  deriving DecidableEq

/-- `ExclusionReason`. -/
inductive ExclusionReason where
  | zero
  | sink
  deriving DecidableEq

/-- An owner kept out of the leaf set. -/
structure Exclusion where
  holder : Pubkey
  balance : ℤ
  reason : ExclusionReason
  deriving DecidableEq

/-- `SnapshotHolder`. -/
structure SnapshotHolder where
  holder : Pubkey
  balance : ℤ
  deriving DecidableEq

/-- `LpSnapshot` of the SDK. -/
structure HolderSnapshot where
  poolAddress : Pubkey
  lpMint : Pubkey
  totalSupply : ℤ
  holders : List SnapshotHolder
  merkleRoot : Hash
  deriving DecidableEq

/-- `SnapshotResult`. -/
structure SnapshotResult where
  snapshot : HolderSnapshot
  proofs : List (List Hash)
  snapshotSlot : ℕ
  tree : SnapshotMerkleTree
  uncxMarkerPresent : Bool
  exclusions : List Exclusion
  deriving DecidableEq

/-- `SPL_TOKEN_ACCOUNT_SIZE`. -/
def SPL_TOKEN_ACCOUNT_SIZE : ℕ := 165

/-- What the loop over the accounts keeps. -/
structure Aggregation where
  byOwner : InsertionMap Pubkey ℤ
  enumeratedTotal : ℤ
  exclusions : List Exclusion

/-- One iteration of the loop over the accounts. -/
def aggregate (spl : SplToken) (lpMint : Pubkey) (sinks : List Pubkey) (s : Aggregation)
    (entry : ProgramAccount) : Aggregation :=
  if entry.account.data.length ≠ SPL_TOKEN_ACCOUNT_SIZE then s
  else
    match spl.unpackAccount entry.pubkey entry.account with
    | none => s
    | some parsed =>
      if parsed.mint ≠ lpMint then s
      else
        let amount : ℤ := parsed.amount.val
        let s := { s with enumeratedTotal := s.enumeratedTotal + amount }
        if amount = 0 then
          { s with exclusions := s.exclusions ++ [⟨parsed.owner, 0, .zero⟩] }
        else if parsed.owner ∈ sinks then
          { s with exclusions := s.exclusions ++ [⟨parsed.owner, amount, .sink⟩] }
        else
          let prev := (s.byOwner.get? parsed.owner).getD 0
          { s with byOwner := s.byOwner.set parsed.owner (prev + amount) }

/-- The comparator of the sort, the loop over the bytes of the first key. -/
def compareOwners : List Byte → List Byte → ℤ
  | [], _ => 0
  | x :: xs, ys =>
    let y := ys.head?.getD 0
    if x ≠ y then (x.val : ℤ) - y.val else compareOwners xs ys.tail

/-- The owners with their balances, in the order of their bytes. -/
def holderPairs (byOwner : InsertionMap Pubkey ℤ) : List (Pubkey × ℤ) :=
  byOwner.entries.mergeSort fun a b => compareOwners a.1.val b.1.val ≤ 0

/-- `snapshotLpHolders`, behind its completeness gate. -/
def snapshotLpHolders (sha256 : List Byte → Hash) (spl : SplToken) (conn : Connection)
    (poolAddress : Pubkey) (sinkExclusions : List Pubkey) :
    Except SnapshotError SnapshotResult := do
  let pool ← (fetchV4Pool conn poolAddress).mapError .read
  let lpMint := pool.lpMint
  let supplyInfo ← okOr (conn.getAccountInfo lpMint) (.mintNotFound lpMint)
  let totalSupply ← okOr (spl.unpackMint lpMint supplyInfo) (.unpackMint lpMint)
  let pass := (conn.getProgramAccounts lpMint).foldl (aggregate spl lpMint sinkExclusions)
    ⟨.empty, 0, []⟩
  let entriesTotal := pass.byOwner.values.sum
  require (entriesTotal = totalSupply.val)
    (.completenessGate pass.enumeratedTotal totalSupply.val entriesTotal)
  let pairs := holderPairs pass.byOwner
  let tree ← (SnapshotMerkleTree.fromEntries sha256
    (pairs.map fun p => ⟨p.1, p.2⟩)).mapError .merkle
  let root ← tree.root.mapError .merkle
  let proofs ← tree.proofs.mapError .merkle
  return {
    snapshot := ⟨poolAddress, lpMint, totalSupply.val, pairs.map fun p => ⟨p.1, p.2⟩, root⟩
    proofs
    snapshotSlot := conn.getSlot.getD 0
    tree
    uncxMarkerPresent := false
    exclusions := pass.exclusions }

/-! ## The loop over the accounts -/

/-- An account of the mint as the node lists it. -/
def served {lpMint : Pubkey} (a : LpTokenAccount lpMint) : ProgramAccount :=
  ⟨a.address, ⟨tokenProgramId, a.data⟩⟩

variable {spl : SplToken} {lpMint : Pubkey} {sinks : List Pubkey}

/-- One turn of the loop, by the cases of the account. -/
theorem aggregate_served (s : Aggregation) (a : LpTokenAccount lpMint) :
    aggregate spl lpMint sinks s (served a) =
      if a.amount.val = 0 then
        { s with
          enumeratedTotal := s.enumeratedTotal + a.amount.val
          exclusions := s.exclusions ++ [⟨a.owner, 0, .zero⟩] }
      else if a.owner ∈ sinks then
        { s with
          enumeratedTotal := s.enumeratedTotal + a.amount.val
          exclusions := s.exclusions ++ [⟨a.owner, a.amount.val, .sink⟩] }
      else
        { s with
          enumeratedTotal := s.enumeratedTotal + a.amount.val
          byOwner := s.byOwner.set a.owner ((s.byOwner.get? a.owner).getD 0 + a.amount.val) } := by
  have hunpack : spl.unpackAccount (served a).pubkey (served a).account =
      some (legacyAccount a.data a.size) :=
    spl.unpackAccount_legacy _ _ rfl a.size
  have hsize : (served a).account.data.length = SPL_TOKEN_ACCOUNT_SIZE := a.size
  have hmint : (legacyAccount a.data a.size).mint = lpMint := Subtype.ext a.mint
  have hzero : ((legacyAccount a.data a.size).amount.val : ℤ) = 0 ↔ a.amount.val = 0 :=
    Nat.cast_eq_zero
  rw [aggregate, if_neg (not_ne_iff.2 hsize), hunpack]
  simp only [hmint, ne_eq, not_true_eq_false, if_false, hzero]
  rfl

/-- What the loop has added up for an owner. -/
def held (s : Aggregation) (o : Pubkey) : ℤ :=
  (s.byOwner.get? o).getD 0

/-- One turn adds the amount to its owner, unless the owner is a sink. -/
theorem held_aggregate (s : Aggregation) (a : LpTokenAccount lpMint) (o : Pubkey) :
    held (aggregate spl lpMint sinks s (served a)) o =
      held s o + if a.owner = o ∧ o ∉ sinks then (a.amount.val : ℤ) else 0 := by
  rw [aggregate_served]
  by_cases hzero : a.amount.val = 0
  · rw [if_pos hzero]
    simp [held, hzero]
  · rw [if_neg hzero]
    by_cases hsink : a.owner ∈ sinks
    · have hnot : ¬(a.owner = o ∧ o ∉ sinks) := by
        rintro ⟨rfl, h⟩
        exact h hsink
      rw [if_pos hsink, if_neg hnot, add_zero]
      rfl
    · rw [if_neg hsink]
      simp only [held, InsertionMap.get?_set]
      by_cases ho : o = a.owner
      · subst ho
        simp [hsink]
      · simp [ho, Ne.symm ho]

/-- No owner is kept with nothing. -/
theorem pos_aggregate {s : Aggregation} (h : ∀ v ∈ s.byOwner.values, 0 < v)
    (a : LpTokenAccount lpMint) :
    ∀ v ∈ (aggregate spl lpMint sinks s (served a)).byOwner.values, 0 < v := by
  intro v hv
  rw [aggregate_served] at hv
  split_ifs at hv with hzero hsink
  · exact h v hv
  · exact h v hv
  · obtain ⟨k, hk⟩ := InsertionMap.mem_values_iff.1 hv
    rw [InsertionMap.get?_set] at hk
    split_ifs at hk with hkey
    · rw [← Option.some.inj hk]
      have hprev : 0 ≤ (s.byOwner.get? a.owner).getD 0 := by
        cases hget : s.byOwner.get? a.owner with
        | none => exact le_rfl
        | some w => exact (h w (InsertionMap.mem_values_iff.2 ⟨_, hget⟩)).le
      have hamount : 0 < a.amount.val := Nat.pos_of_ne_zero hzero
      omega
    · exact h v (InsertionMap.mem_values_iff.2 ⟨k, hk⟩)

/-- One turn adds the amount to the total, unless the owner is a sink. -/
theorem sum_aggregate (s : Aggregation) (a : LpTokenAccount lpMint) :
    (aggregate spl lpMint sinks s (served a)).byOwner.values.sum =
      s.byOwner.values.sum + if a.owner ∈ sinks then 0 else (a.amount.val : ℤ) := by
  rw [aggregate_served]
  split_ifs with hzero hsink hsink
  · exact (add_zero _).symm
  · simp [hzero]
  · exact (add_zero _).symm
  · have h := InsertionMap.sum_values_set (m := s.byOwner) (k := a.owner)
      (v := (s.byOwner.get? a.owner).getD 0 + (a.amount.val : ℤ)) (id : ℤ → ℤ)
    simp only [List.map_id, id_eq] at h
    cases hget : s.byOwner.get? a.owner with
    | none =>
      simp only [hget, Option.elim_none, Option.getD_none] at h ⊢
      omega
    | some w =>
      simp only [hget, Option.elim_some, Option.getD_some, id_eq] at h ⊢
      omega

/-- What the loop keeps at its end. -/
structure Aggregated (sinks : List Pubkey) (accounts : List TokenAccountSnapshot)
    (s : Aggregation) : Prop where
  held : ∀ o, held s o = if o ∈ sinks then 0 else (ownerBalance accounts o : ℤ)
  pos : ∀ v ∈ s.byOwner.values, 0 < v
  sum : s.byOwner.values.sum + sinkBalance sinks accounts = enumerated accounts

/-- What the loop has gathered at its end. -/
theorem aggregated_foldl (spl : SplToken) (sinks : List Pubkey)
    (accounts : List (LpTokenAccount lpMint)) :
    Aggregated sinks (accounts.map LpTokenAccount.snapshot)
      ((accounts.map served).foldl (aggregate spl lpMint sinks) ⟨.empty, 0, []⟩) := by
  induction accounts using List.reverseRecOn with
  | nil =>
    refine ⟨fun o => ?_, ?_, ?_⟩
    · simp [Sdk.held, ownerBalance]
    · simp [InsertionMap.values, InsertionMap.empty]
    · simp [InsertionMap.values, InsertionMap.empty, sinkBalance, enumerated]
  | append_singleton accounts a ih =>
    simp only [List.map_append, List.map_cons, List.map_nil, List.foldl_append, List.foldl_cons,
      List.foldl_nil]
    refine ⟨fun o => ?_, pos_aggregate ih.pos a, ?_⟩
    · rw [held_aggregate, ih.held, ownerBalance_append]
      change _ + _ = if o ∈ sinks then (0 : ℤ) else
        ((ownerBalance _ o + if a.owner = o then a.amount.val else 0 : ℕ) : ℤ)
      by_cases hsink : o ∈ sinks
      · simp [hsink]
      · simp [hsink]
    · have hsum := ih.sum
      rw [sum_aggregate, sinkBalance_append, enumerated_append]
      change _ + _ + ((_ + (if a.owner ∈ sinks then a.amount.val else 0) : ℕ) : ℤ) =
        ((_ + a.amount.val : ℕ) : ℤ)
      by_cases hsink : a.owner ∈ sinks
      · rw [if_pos hsink, if_pos hsink]
        push_cast
        omega
      · rw [if_neg hsink, if_neg hsink]
        push_cast
        omega

/-! ## The leaf set -/

/-- On addresses of one length the comparisons are the same. -/
theorem compareOwners_eq : ∀ {a b : List Byte}, a.length = b.length →
    compareOwners a b = compareBytes a b
  | [], [], _ => rfl
  | [], _ :: _, h => by simp at h
  | _ :: _, [], h => by simp at h
  | x :: xs, y :: ys, h => by
    have ih := compareOwners_eq (Nat.succ_injective h)
    have hne : x ≠ y ↔ (x.val : ℤ) - y.val ≠ 0 := by
      rw [Ne, Fin.ext_iff]
      omega
    simp only [compareOwners, compareBytes, List.head?_cons, Option.getD_some, List.tail_cons, ih,
      hne]

/-- The pairs are those of the map, in strictly ascending order. -/
theorem sorted_holderPairs (m : InsertionMap Pubkey ℤ) :
    (holderPairs m).Perm m.entries ∧ (holderPairs m).Pairwise fun a b => a.1 < b.1 := by
  have hperm : (holderPairs m).Perm m.entries := List.mergeSort_perm _ _
  refine ⟨hperm, ?_⟩
  have hle : ∀ a b : Pubkey × ℤ, compareOwners a.1.val b.1.val ≤ 0 ↔ a.1 ≤ b.1 := by
    intro a b
    rw [compareOwners_eq (a.1.2.trans b.1.2.symm), compareBytes_nonpos_iff]
  have hsorted : (holderPairs m).Pairwise fun a b => a.1 ≤ b.1 := by
    refine (List.pairwise_mergeSort ?_ ?_ _).imp fun h => (hle _ _).1 (of_decide_eq_true h)
    · intro a b c hab hbc
      rw [decide_eq_true_eq, hle] at hab hbc ⊢
      exact hab.trans hbc
    · intro a b
      rw [Bool.or_eq_true, decide_eq_true_eq, decide_eq_true_eq, hle, hle]
      exact le_total _ _
  have hnodup : (holderPairs m).Pairwise fun a b => a.1 ≠ b.1 :=
    List.pairwise_map.1 ((hperm.map Prod.fst).nodup_iff.2 m.nodup)
  exact (hsorted.and hnodup).imp fun h => lt_of_le_of_ne h.1 h.2

/-- The pairs as rows of the snapshotter. -/
def rowsOf (m : InsertionMap Pubkey ℤ) : List Snapshotter.HolderEntry :=
  (holderPairs m).map fun p => ⟨p.1, Fin.ofNat (2 ^ 64) p.2.toNat⟩

/-- Nothing the owners hold exceeds the total. -/
theorem fits_of_sum {m : InsertionMap Pubkey ℤ} (hpos : ∀ v ∈ m.values, 0 < v) {total : ℤ}
    (hsum : m.values.sum = total) : ∀ v ∈ m.values, v ≤ total := by
  intro v hv
  rw [← hsum]
  exact List.single_le_sum (fun w hw => (hpos w hw).le) v hv

section Rows

variable {m : InsertionMap Pubkey ℤ} (hpos : ∀ v ∈ m.values, 0 < v)
  (hfits : ∀ v ∈ m.values, v < 2 ^ 64)

include hpos hfits

/-- The balance of a row is positive, and fits. -/
theorem rowBalance_eq {p : Pubkey × ℤ} (hp : p ∈ holderPairs m) :
    0 < (Fin.ofNat (2 ^ 64) p.2.toNat).val ∧ ((Fin.ofNat (2 ^ 64) p.2.toNat).val : ℤ) = p.2 := by
  have hmem : p.2 ∈ m.values :=
    List.mem_map_of_mem (f := Prod.snd) ((sorted_holderPairs m).1.mem_iff.1 hp)
  have h0 := hpos p.2 hmem
  have h1 := hfits p.2 hmem
  have hval : (Fin.ofNat (2 ^ 64) p.2.toNat).val = p.2.toNat := Nat.mod_eq_of_lt (by omega)
  rw [hval]
  omega

theorem map_ofRow_rowsOf : (rowsOf m).map HolderEntry.ofRow =
    (holderPairs m).map fun p => ⟨p.1, p.2⟩ := by
  rw [rowsOf, List.map_map]
  refine List.map_congr_left fun p hp => ?_
  exact congrArg (HolderEntry.mk p.1) (rowBalance_eq hpos hfits hp).2

/-- The rows are canonical if there is one. -/
theorem canonical_rowsOf (hne : m.entries ≠ []) : Canonical (rowsOf m) := by
  refine ⟨?_, ?_, ?_⟩
  · rw [rowsOf, Ne, List.map_eq_nil_iff]
    intro hnil
    exact hne (List.nil_perm.1 (hnil ▸ (sorted_holderPairs m).1))
  · exact List.pairwise_map.2 (sorted_holderPairs m).2
  · intro e he
    obtain ⟨p, hp, rfl⟩ := List.mem_map.1 he
    exact (rowBalance_eq hpos hfits hp).1

/-- An owner's row has its balance. -/
theorem entryBalance_rowsOf (hne : m.entries ≠ []) (o : Pubkey) :
    (entryBalance (rowsOf m) o : ℤ) = (m.get? o).getD 0 := by
  cases hget : m.get? o with
  | some v =>
    have hp : (o, v) ∈ holderPairs m :=
      (sorted_holderPairs m).1.mem_iff.2 (InsertionMap.mem_entries_iff.2 hget)
    have hmem : ⟨o, Fin.ofNat (2 ^ 64) v.toNat⟩ ∈ rowsOf m :=
      List.mem_map_of_mem (f := fun p : Pubkey × ℤ =>
        (⟨p.1, Fin.ofNat (2 ^ 64) p.2.toNat⟩ : Snapshotter.HolderEntry)) hp
    rw [(((canonical_rowsOf hpos hfits hne).mem_iff _).1 hmem).2]
    exact (rowBalance_eq hpos hfits hp).2
  | none =>
    have hfind : (rowsOf m).find? (fun e => e.owner = o) = none := by
      refine List.find?_eq_none.2 fun e he howner => ?_
      obtain ⟨p, hp, rfl⟩ := List.mem_map.1 he
      have hkey := InsertionMap.get?_eq_none_iff.1 hget
      refine hkey (List.mem_map.2 ⟨p, (sorted_holderPairs m).1.mem_iff.1 hp, ?_⟩)
      exact of_decide_eq_true howner
    rw [entryBalance, hfind]
    rfl

end Rows

/-- A tree has at least one leaf. -/
theorem entries_ne_nil_of_fromEntries {sha256 : List Byte → Hash} {m : InsertionMap Pubkey ℤ}
    {t : SnapshotMerkleTree} (h : SnapshotMerkleTree.fromEntries sha256
      ((holderPairs m).map fun p => ⟨p.1, p.2⟩) = .ok t) : m.entries ≠ [] := by
  intro hnil
  rw [SnapshotMerkleTree.fromEntries, require_bind_ok_iff, List.length_map, holderPairs,
    List.length_mergeSort, hnil] at h
  exact h.1 rfl

/-- Every proof of a tree can be taken. -/
theorem exists_proofs (t : SnapshotMerkleTree) : ∃ proofs, t.proofs = .ok proofs := by
  refine ⟨_, mapM_eq_map (g := fun i => SnapshotMerkleTree.proofFrom i t.levels) ?_⟩
  intro i hi
  have hlt : ¬((i : ℤ) < 0 ∨ (t.leafCount : ℤ) ≤ i) := by
    have := List.mem_range.1 hi
    omega
  rw [SnapshotMerkleTree.proof, if_neg hlt, Int.toNat_natCast]
  rfl

/-! ## When the snapshot succeeds -/

/-- The node serves the pool, the supply and the token accounts. -/
structure Serves (spl : SplToken) (conn : Connection) (request : SnapshotRequest)
    (supply : MintSupply) (accounts : List (LpTokenAccount request.lpMint)) : Prop where
  pool : ∃ pool, fetchV4Pool conn request.poolAddress = .ok pool ∧ pool.lpMint = request.lpMint
  supply : ∃ info, conn.getAccountInfo request.lpMint = some info ∧
    spl.unpackMint request.lpMint info = some supply.amount
  accounts : conn.getProgramAccounts request.lpMint = accounts.map served

/-- The holders and the root of the SDK are the entries and the root of the builder. -/
structure SameSnapshot (sha256 : List Byte → Hash) (result : SnapshotResult)
    (snapshot : LpSnapshot) : Prop where
  holders : result.snapshot.holders = snapshot.entries.map fun e => ⟨e.owner, e.lpBalance.val⟩
  root : ∃ t, Snapshotter.SnapshotMerkleTree.fromEntries sha256 snapshot.entries = .ok t ∧
    t.root = some result.snapshot.merkleRoot

section Served

variable {sha256 : List Byte → Hash} {conn : Connection} {request : SnapshotRequest}
  {supply : MintSupply} {accounts : List (LpTokenAccount request.lpMint)}
  (h : Serves spl conn request supply accounts)

include h

/-- A snapshot that succeeds has passed the gate, and its holders are the rows of an owner map
that agrees with the accounts. -/
theorem snapshotLpHolders_ok {result : SnapshotResult}
    (hok : snapshotLpHolders sha256 spl conn request.poolAddress request.sinkExclusions =
      .ok result) : ∃ s, Aggregated request.sinkExclusions
        (accounts.map LpTokenAccount.snapshot) s ∧
      s.byOwner.values.sum = supply.amount.val ∧
      result.snapshot.holders = ((holderPairs s.byOwner).map fun p => ⟨p.1, p.2⟩) ∧
      SnapshotMerkleTree.fromEntries sha256 ((holderPairs s.byOwner).map fun p => ⟨p.1, p.2⟩) =
        .ok result.tree ∧
      result.tree.root = .ok result.snapshot.merkleRoot := by
  obtain ⟨pool, hpool, hlp⟩ := h.pool
  obtain ⟨info, hinfo, hmint⟩ := h.supply
  simp only [snapshotLpHolders, hpool, bind_ok_iff, mapError_ok_iff, Except.ok.injEq,
    exists_eq_left', hlp, hinfo, okOr_some, hmint, h.accounts, require_ok_iff, exists_const] at hok
  obtain ⟨hgate, tree, htree, root, hroot, proofs, _, hresult⟩ := hok
  obtain rfl := Except.ok.inj hresult
  exact ⟨_, aggregated_foldl spl _ accounts, hgate, rfl, htree, hroot⟩

/-- Behind the gate the rest of the snapshot succeeds. -/
theorem exists_snapshotLpHolders {s : Aggregation}
    (hs : s = (accounts.map served).foldl (aggregate spl request.lpMint request.sinkExclusions)
      ⟨.empty, 0, []⟩) (hgate : s.byOwner.values.sum = supply.amount.val)
    (hne : s.byOwner.entries ≠ []) : ∃ result,
      snapshotLpHolders sha256 spl conn request.poolAddress request.sinkExclusions =
        .ok result := by
  have hpos : ∀ v ∈ s.byOwner.values, 0 < v := by
    rw [hs]
    exact (aggregated_foldl spl _ accounts).pos
  have hfits : ∀ v ∈ s.byOwner.values, v < 2 ^ 64 := by
    intro v hv
    have hle := fits_of_sum hpos hgate v hv
    have hlt := supply.amount.isLt
    omega
  obtain ⟨t', ht'⟩ := Snapshotter.SnapshotMerkleTree.exists_fromEntries sha256
    (canonical_rowsOf hpos hfits hne)
  have htree : SnapshotMerkleTree.fromEntries sha256 ((rowsOf s.byOwner).map HolderEntry.ofRow) =
      .ok ⟨t'.levels⟩ := SnapshotMerkleTree.fromEntries_ok_iff.2 ht'
  obtain ⟨root, hroot⟩ := Snapshotter.SnapshotMerkleTree.exists_root ht'
  rw [← (sameTree_of_fromEntries htree ht').root, toOption_eq_some_iff] at hroot
  rw [map_ofRow_rowsOf hpos hfits] at htree
  obtain ⟨proofs, hproofs⟩ := exists_proofs ⟨t'.levels⟩
  obtain ⟨pool, hpool, hlp⟩ := h.pool
  obtain ⟨info, hinfo, hmint⟩ := h.supply
  simp only [snapshotLpHolders, hpool, bind_ok_iff, mapError_ok_iff, Except.ok.injEq,
    exists_eq_left', hlp, hinfo, okOr_some, hmint, h.accounts, require_ok_iff, exists_const, ← hs]
  exact ⟨_, hgate, _, htree, _, hroot, _, hproofs, rfl⟩

/-- With `S` enumerated, `K` of sinks and the supply `U`, the SDK succeeds iff `S = K + U` and
`K < S`. -/
theorem exists_snapshotLpHolders_iff :
    (∃ result, snapshotLpHolders sha256 spl conn request.poolAddress request.sinkExclusions =
      .ok result) ↔
      enumerated (accounts.map LpTokenAccount.snapshot) =
        sinkBalance request.sinkExclusions (accounts.map LpTokenAccount.snapshot) +
          supply.amount.val ∧
        sinkBalance request.sinkExclusions (accounts.map LpTokenAccount.snapshot) <
          enumerated (accounts.map LpTokenAccount.snapshot) := by
  constructor
  · rintro ⟨result, hok⟩
    obtain ⟨s, hs, hgate, _, htree, _⟩ := snapshotLpHolders_ok h hok
    have hsum := hs.sum
    have hne : s.byOwner.values ≠ [] :=
      mt List.map_eq_nil_iff.1 (entries_ne_nil_of_fromEntries htree)
    have hpos : 0 < s.byOwner.values.sum := List.sum_pos _ hs.pos hne
    omega
  · rintro ⟨hgate, hleft⟩
    have hs := aggregated_foldl spl request.sinkExclusions accounts
    have hsum := hs.sum
    refine exists_snapshotLpHolders h rfl (by omega) fun hnil => ?_
    rw [InsertionMap.values, hnil, List.map_nil, List.sum_nil] at hsum
    omega

/-- Where both succeed, they agree. -/
theorem same_of_ok {result : SnapshotResult} {snapshot : LpSnapshot}
    (hok : snapshotLpHolders sha256 spl conn request.poolAddress request.sinkExclusions =
      .ok result)
    (hbuild : build request (rpcSource supply accounts) noLocks = .ok snapshot) :
    SameSnapshot sha256 result snapshot := by
  obtain ⟨s, hs, hgate, hholders, htree, hroot⟩ := snapshotLpHolders_ok h hok
  have hfits : ∀ v ∈ s.byOwner.values, v < 2 ^ 64 := by
    intro v hv
    have hle := fits_of_sum hs.pos hgate v hv
    have hlt := supply.amount.isLt
    omega
  have hne := entries_ne_nil_of_fromEntries htree
  have hrows : rowsOf s.byOwner = snapshot.entries := by
    refine eq_of_entryBalance (canonical_rowsOf hs.pos hfits hne) (build_ok hbuild).1 fun o => ?_
    have hheld := hs.held o
    rw [held, ← entryBalance_rowsOf hs.pos hfits hne] at hheld
    rw [entryBalance_build hbuild]
    exact_mod_cast hheld
  rw [← map_ofRow_rowsOf hs.pos hfits, hrows] at htree
  have hpairs : ((holderPairs s.byOwner).map fun p => (⟨p.1, p.2⟩ : SnapshotHolder)) =
      ((rowsOf s.byOwner).map HolderEntry.ofRow).map fun e => ⟨e.owner, e.lpBalance⟩ := by
    rw [map_ofRow_rowsOf hs.pos hfits, List.map_map]
    rfl
  refine ⟨?_, ?_⟩
  · rw [hholders, hpairs, hrows, List.map_map]
    rfl
  · have ht' := SnapshotMerkleTree.fromEntries_ok_iff.1 htree
    refine ⟨_, ht', ?_⟩
    rw [← (sameTree_of_fromEntries htree ht').root, toOption_eq_some_iff]
    exact hroot

end Served

/-- The snapshot of the SDK agrees with the builder, in whether it succeeds and in what it says,
iff the sinks hold nothing, or hold everything, or the accounts make up neither the supply nor
the supply and the sinks' balance. -/
theorem snapshotLpHolders_agrees_iff (sha256 : List Byte → Hash) (spl : SplToken)
    (conn : Connection) (request : SnapshotRequest) (supply : MintSupply)
    (accounts : List (LpTokenAccount request.lpMint))
    (h : Serves spl conn request supply accounts) :
    (((∃ result, snapshotLpHolders sha256 spl conn request.poolAddress request.sinkExclusions =
        .ok result) ↔
        ∃ snapshot, build request (rpcSource supply accounts) noLocks = .ok snapshot) ∧
      ∀ result snapshot,
        snapshotLpHolders sha256 spl conn request.poolAddress request.sinkExclusions =
          .ok result →
        build request (rpcSource supply accounts) noLocks = .ok snapshot →
          SameSnapshot sha256 result snapshot) ↔
      sinkBalance request.sinkExclusions (accounts.map LpTokenAccount.snapshot) = 0 ∨
      sinkBalance request.sinkExclusions (accounts.map LpTokenAccount.snapshot) =
        enumerated (accounts.map LpTokenAccount.snapshot) ∨
      enumerated (accounts.map LpTokenAccount.snapshot) ≠ supply.amount.val ∧
        enumerated (accounts.map LpTokenAccount.snapshot) ≠
          sinkBalance request.sinkExclusions (accounts.map LpTokenAccount.snapshot) +
            supply.amount.val := by
  have hle := sinkBalance_le request.sinkExclusions (accounts.map LpTokenAccount.snapshot)
  rw [exists_snapshotLpHolders_iff h, exists_build_iff,
    and_iff_left fun _ _ hok hbuild => same_of_ok h hok hbuild]
  omega

/-! ## Two nodes -/

/-- A token account of `lpMint` with an owner and an amount. -/
def heldBy (lpMint owner : Pubkey) (amount : ℕ) : LpTokenAccount lpMint where
  address := owner
  data := lpMint.val ++ owner.val ++ leBytes 8 amount ++ List.replicate 93 0
  size := by simp
  mint := by
    rw [List.append_assoc, List.append_assoc]
    exact slice_head lpMint.2

/-- What the builder reads of such an account. -/
theorem heldBy_snapshot (lpMint owner : Pubkey) {amount : ℕ} (h : amount < 2 ^ 64) :
    (heldBy lpMint owner amount).snapshot = ⟨owner, owner, ⟨amount, h⟩⟩ := by
  have hslices : slice (heldBy lpMint owner amount).data 32 32 = owner.val ∧
      slice (heldBy lpMint owner amount).data 64 8 = leBytes 8 amount := by
    simp (disch := simp) only [heldBy, List.append_assoc, slice_append_right, slice_head,
      Bytes.length_val, Nat.reduceSub, and_self]
  have howner : (heldBy lpMint owner amount).owner = owner := Subtype.ext hslices.1
  have hamount : (heldBy lpMint owner amount).amount = ⟨amount, h⟩ :=
    Fin.ext (leWordAt_of_slice (k := 8) h hslices.2)
  rw [LpTokenAccount.snapshot, howner, hamount]
  rfl

/-- The pool at address 1 with the LP mint 2. -/
abbrev lpRequest (sinks : List Pubkey) : SnapshotRequest :=
  ⟨Pubkey.fill 1, raydiumV4ProgramId, Pubkey.fill 2, sinks, []⟩

/-- The bytes of the pool, as far as they are read. -/
def lpPoolData : List Byte :=
  List.replicate 464 0 ++ (Pubkey.fill 2).val ++ List.replicate 256 0

/-- The bytes of the LP mint, as far as they are read. -/
def lpMintData (supply : ℕ) : List Byte :=
  List.replicate 36 0 ++ leBytes 8 supply ++ List.replicate 38 0

/-- A node with that pool, a supply and some token accounts. -/
def lpNode (supply : ℕ) (accounts : List (LpTokenAccount (Pubkey.fill 2))) : Connection where
  getAccountInfo address :=
    if address = Pubkey.fill 1 then some ⟨raydiumV4ProgramId, lpPoolData⟩
    else if address = Pubkey.fill 2 then some ⟨tokenProgramId, lpMintData supply⟩ else none
  getProgramAccounts _ := accounts.map served
  getSlot := none

/-- The node serves the pool. -/
theorem lpNode_pool (supply : ℕ) (accounts : List (LpTokenAccount (Pubkey.fill 2))) : ∃ pool,
    fetchV4Pool (lpNode supply accounts) (Pubkey.fill 1) = .ok pool ∧
      pool.lpMint = Pubkey.fill 2 := by
  have hinfo : (lpNode supply accounts).getAccountInfo (Pubkey.fill 1) =
      some ⟨raydiumV4ProgramId, lpPoolData⟩ := by simp [lpNode]
  have hsize : lpPoolData.length = RAYDIUM_V4_AMM_INFO_SIZE := by
    rw [lpPoolData, List.length_append, List.length_append, List.length_replicate,
      List.length_replicate, Bytes.length_val, RAYDIUM_V4_AMM_INFO_SIZE]
  have hmint : slice lpPoolData Off.LP_MINT 32 = (Pubkey.fill 2).val := by
    have hlength : (List.replicate 464 (0 : Byte)).length = Off.LP_MINT := List.length_replicate
    rw [lpPoolData, List.append_assoc, slice_append_right hlength.le, hlength, Nat.sub_self]
    exact slice_head (Pubkey.fill 2).2
  rw [fetchV4Pool_eq hinfo rfl, parseV4AmmInfo, dif_pos hsize]
  exact ⟨_, rfl, Subtype.ext hmint⟩

/-- The node serves the supply. -/
theorem lpNode_supply (spl : SplToken) {supply : ℕ} (h : supply < 2 ^ 64)
    (accounts : List (LpTokenAccount (Pubkey.fill 2))) : ∃ info,
    (lpNode supply accounts).getAccountInfo (Pubkey.fill 2) = some info ∧
      spl.unpackMint (Pubkey.fill 2) info = some ⟨supply, h⟩ := by
  have hne : Pubkey.fill 2 ≠ Pubkey.fill 1 := by decide
  have hsize : (lpMintData supply).length = mintSize := by
    rw [lpMintData, List.length_append, List.length_append, List.length_replicate,
      List.length_replicate, length_leBytes, mintSize]
  have hslice : slice (lpMintData supply) 36 8 = leBytes 8 supply := by
    have hlength : (List.replicate 36 (0 : Byte)).length = 36 := List.length_replicate
    rw [lpMintData, List.append_assoc, slice_append_right hlength.le, hlength, Nat.sub_self]
    exact slice_head (length_leBytes 8 supply)
  have hword : leWordAt 8 (lpMintData supply) 36 = (⟨supply, h⟩ : U64) :=
    Fin.ext (leWordAt_of_slice (k := 8) h hslice)
  refine ⟨⟨tokenProgramId, lpMintData supply⟩, by simp [lpNode, hne], ?_⟩
  rw [← hword]
  exact spl.unpackMint_legacy _ _ rfl hsize

/-- The node serves the accounts. -/
theorem serves_lpNode (spl : SplToken) (sinks : List Pubkey) (supply : ℕ) (h : supply < 2 ^ 64)
    (accounts : List (LpTokenAccount (Pubkey.fill 2))) :
    Serves spl (lpNode supply accounts) (lpRequest sinks) ⟨⟨supply, h⟩, 0⟩ accounts :=
  ⟨lpNode_pool supply accounts, lpNode_supply spl h accounts, rfl⟩

/-- Two holders, of 900 and of 100. -/
def twoHolders : List (LpTokenAccount (Pubkey.fill 2)) :=
  [heldBy _ (Pubkey.fill 3) 900, heldBy _ (Pubkey.fill 4) 100]

theorem snapshots_twoHolders : twoHolders.map LpTokenAccount.snapshot =
    [⟨Pubkey.fill 3, Pubkey.fill 3, 900⟩, ⟨Pubkey.fill 4, Pubkey.fill 4, 100⟩] := by
  rw [twoHolders, List.map_cons, List.map_cons, List.map_nil,
    heldBy_snapshot _ _ (by decide), heldBy_snapshot _ _ (by decide)]
  rfl

/-- The builder succeeds whichever of the smaller holders is a sink. -/
theorem build_twoHolders (sinks : List Pubkey) (h : Pubkey.fill 3 ∉ sinks) : ∃ snapshot,
    build (lpRequest sinks) (rpcSource ⟨1000, 0⟩ twoHolders) noLocks = .ok snapshot := by
  refine (@exists_build_iff (lpRequest sinks) ⟨1000, 0⟩ twoHolders).2 ?_
  rw [snapshots_twoHolders]
  refine ⟨rfl, ?_⟩
  change sinkBalance sinks _ < _
  by_cases hsink : Pubkey.fill 4 ∈ sinks
  · simp [sinkBalance, enumerated, h, hsink]
  · simp [sinkBalance, enumerated, h, hsink]

/-- Two holders make up the supply of 1000, and one of them is a declared sink. The builder
succeeds, the SDK does not. -/
theorem snapshotLpHolders_refused :
    Serves legacySplToken (lpNode 1000 twoHolders) (lpRequest [Pubkey.fill 4]) ⟨1000, 0⟩
      twoHolders ∧
    (∃ snapshot, build (lpRequest [Pubkey.fill 4]) (rpcSource ⟨1000, 0⟩ twoHolders) noLocks =
      .ok snapshot) ∧
    ¬∃ result, snapshotLpHolders Machine.sha256 legacySplToken (lpNode 1000 twoHolders)
      (Pubkey.fill 1) [Pubkey.fill 4] = .ok result := by
  have hserves := serves_lpNode legacySplToken [Pubkey.fill 4] 1000 (by decide)
    twoHolders
  refine ⟨hserves, build_twoHolders _ (by decide), ?_⟩
  intro hok
  have hgate := ((exists_snapshotLpHolders_iff hserves).1 hok).1
  rw [snapshots_twoHolders] at hgate
  exact absurd hgate (by decide)

/-- The two holders, and a sink that holds nothing any more. -/
def withEmptySink : List (LpTokenAccount (Pubkey.fill 2)) :=
  twoHolders ++ [heldBy _ (Pubkey.fill 5) 0]

theorem snapshots_withEmptySink : withEmptySink.map LpTokenAccount.snapshot =
    [⟨Pubkey.fill 3, Pubkey.fill 3, 900⟩, ⟨Pubkey.fill 4, Pubkey.fill 4, 100⟩,
      ⟨Pubkey.fill 5, Pubkey.fill 5, 0⟩] := by
  rw [withEmptySink, List.map_append, snapshots_twoHolders, List.map_cons, List.map_nil,
    heldBy_snapshot _ _ (by decide)]
  rfl

/-- With that sink declared the two agree on the same accounts. -/
theorem snapshotLpHolders_agrees_demo : ∃ result snapshot,
    snapshotLpHolders (fun _ => Pubkey.fill 0) legacySplToken (lpNode 1000 withEmptySink)
      (Pubkey.fill 1) [Pubkey.fill 5] = .ok result ∧
    build (lpRequest [Pubkey.fill 5]) (rpcSource ⟨1000, 0⟩ withEmptySink) noLocks = .ok snapshot ∧
    SameSnapshot (fun _ => Pubkey.fill 0) result snapshot := by
  have hagrees := (snapshotLpHolders_agrees_iff (fun _ => Pubkey.fill 0) legacySplToken
    (lpNode 1000 withEmptySink) (lpRequest [Pubkey.fill 5]) ⟨1000, 0⟩ withEmptySink
    (serves_lpNode legacySplToken [Pubkey.fill 5] 1000 (by decide) withEmptySink)).2
    (Or.inl (by rw [snapshots_withEmptySink]; decide))
  have hbuild : ∃ snapshot, build (lpRequest [Pubkey.fill 5]) (rpcSource ⟨1000, 0⟩ withEmptySink)
      noLocks = .ok snapshot := by
    refine (@exists_build_iff (lpRequest [Pubkey.fill 5]) ⟨1000, 0⟩ withEmptySink).2 ?_
    rw [snapshots_withEmptySink]
    exact ⟨by decide, by decide⟩
  obtain ⟨snapshot, hsnapshot⟩ := hbuild
  obtain ⟨result, hok⟩ := hagrees.1.2 ⟨snapshot, hsnapshot⟩
  exact ⟨result, snapshot, hok, hsnapshot, hagrees.2 result snapshot hok hsnapshot⟩

end GraveYield.Sdk
