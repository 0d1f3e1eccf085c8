import GraveYield.Merkle

/-!
# The snapshot tree of the SDK

A third implementation of the snapshot format, in TypeScript. Balances are `bigint`s, levels are
paired by an index loop, and byte arrays are compared by the first difference. `validate` stops at
the first entry out of place, where the snapshotter looks at windows of two.

`fromEntries_agrees` : on every list of rows the two builders accept or refuse together, and build
the same levels, so that every accessor agrees. `verifyMerkleProof_eq` is the verifier.
-/

namespace GraveYield.Sdk

open Machine Checked

/-! ## Bytes -/

/-- The first difference of two byte strings, or that of their lengths. -/
def compareBytes : List Byte → List Byte → ℤ
  | a :: as, b :: bs =>
    let d : ℤ := (a.val : ℤ) - b.val
    if d ≠ 0 then d else compareBytes as bs
  | as, bs => (as.length : ℤ) - bs.length

/-- `DataView.setBigUint64`, little-endian : the number modulo `2 ^ 64`. -/
def setBigUint64 (v : ℤ) : List Byte :=
  leBytes 8 (v % 2 ^ 64).toNat

/-- `setBigUint64` writes the bytes of a `u64`. -/
theorem setBigUint64_of_word (v : U64) : setBigUint64 v.val = leBytes 8 v.val := by
  have hmod : ((v.val : ℤ) % 2 ^ 64).toNat = v.val := by
    have := v.isLt
    omega
  rw [setBigUint64, hmod]

/-- The comparison is negative iff the first string is the smaller one. -/
theorem compareBytes_neg_iff : ∀ a b : List Byte, compareBytes a b < 0 ↔ a < b
  | [], [] => by simp [compareBytes]
  | [], b :: bs => by simp [compareBytes]; omega
  | a :: as, [] => by simp [compareBytes]; omega
  | a :: as, b :: bs => by
    have ih := compareBytes_neg_iff as bs
    rw [compareBytes, List.cons_lt_cons_iff, ← ih]
    rcases lt_trichotomy a b with h | rfl | h
    · have hval : a.val < b.val := h
      rw [if_pos (by omega)]
      exact ⟨fun _ => Or.inl h, fun _ => by omega⟩
    · simp
    · have hval : b.val < a.val := h
      rw [if_pos (by omega)]
      refine ⟨fun hneg => by omega, ?_⟩
      rintro (hlt | ⟨heq, _⟩)
      · exact absurd hlt (not_lt.2 h.le)
      · exact absurd heq h.ne'

/-- Two byte strings compare as zero iff they are equal. -/
theorem compareBytes_eq_zero_iff : ∀ a b : List Byte, compareBytes a b = 0 ↔ a = b
  | [], [] => by simp [compareBytes]
  | [], b :: bs => by simp [compareBytes]; omega
  | a :: as, [] => by simp [compareBytes]; omega
  | a :: as, b :: bs => by
    have ih := compareBytes_eq_zero_iff as bs
    rw [compareBytes, List.cons.injEq, ← ih, Fin.ext_iff]
    by_cases h : a.val = b.val
    · simp [h]
    · rw [if_pos (by omega)]
      simp only [h, false_and, iff_false]
      omega

/-- The comparison is the order of the bytes. -/
theorem compareBytes_nonpos_iff {n : ℕ} (a b : Bytes n) :
    compareBytes a.val b.val ≤ 0 ↔ a ≤ b := by
  have hlt : compareBytes a.val b.val < 0 ↔ a < b := compareBytes_neg_iff a.val b.val
  have heq : compareBytes a.val b.val = 0 ↔ a = b :=
    (compareBytes_eq_zero_iff a.val b.val).trans Subtype.ext_iff.symm
  rw [le_iff_lt_or_eq, le_iff_lt_or_eq, hlt, heq]

/-! ## The builder -/

/-- What the tree throws. -/
inductive MerkleError where
  | emptyEntrySet
  | nonPositiveBalance (index : ℕ) (balance : ℤ)
  | duplicateOwner (index : ℕ)
  | notSorted (index : ℕ)
  | negativeBalance
  | noRoot
  | proofMissing (index : ℕ)
  deriving DecidableEq

/-- `HolderEntry`. -/
structure HolderEntry where
  owner : Pubkey
  lpBalance : ℤ
  deriving DecidableEq

variable (sha256 : List Byte → Hash)

/-- `computeLeaf`. -/
def computeLeaf (holder : Pubkey) (lpBalance : ℤ) : Except MerkleError Hash := do
  require (0 ≤ lpBalance) .negativeBalance
  return sha256 (holder.val ++ setBigUint64 lpBalance)

/-- `hashPair`: the smaller hash first. -/
def hashPair (a b : Hash) : Hash :=
  let le := if compareBytes a.val b.val ≤ 0 then a else b
  let hi := if compareBytes a.val b.val ≤ 0 then b else a
  sha256 (le.val ++ hi.val)

/-- The checks of the entries from index `i` on, after the entry `prev`. -/
def validateFrom (prev : Option HolderEntry) (i : ℕ) : List HolderEntry → Except MerkleError Unit
  | [] => .ok ()
  | e :: es => do
    require (0 < e.lpBalance) (.nonPositiveBalance i e.lpBalance)
    require (∀ p ∈ prev, compareBytes p.owner.val e.owner.val ≠ 0) (.duplicateOwner i)
    require (∀ p ∈ prev, compareBytes p.owner.val e.owner.val ≤ 0) (.notSorted i)
    validateFrom (some e) (i + 1) es

/-- The loop over a level, from index `i` in steps of two. An odd last node is promoted. -/
def pairFrom (last : List Hash) (i : ℕ) : List Hash :=
  if h : i < last.length then
    (match last[i + 1]? with
    | some b => hashPair sha256 last[i] b
    | none => last[i]) :: pairFrom last (i + 2)
  else []
termination_by last.length - i

/-- A level has half the nodes of the level below, rounded up. -/
theorem length_pairFrom (last : List Hash) (i : ℕ) :
    (pairFrom sha256 last i).length = (last.length - i + 1) / 2 := by
  induction i using pairFrom.induct last with
  | case1 i h ih =>
    rw [pairFrom, dif_pos h, List.length_cons, ih]
    omega
  | case2 i h =>
    rw [pairFrom, dif_neg h, List.length_nil]
    omega

/-- The levels that the outer loop appends, from `last` on. -/
def levelsFrom (last : List Hash) : List (List Hash) :=
  if last.length ≤ 1 then [last] else last :: levelsFrom (pairFrom sha256 last 0)
termination_by last.length
decreasing_by
  rw [length_pairFrom]
  omega

/-- The levels of a tree, leaves first. -/
structure SnapshotMerkleTree where
  levels : List (List Hash)
  deriving DecidableEq

namespace SnapshotMerkleTree

/-- `fromEntries`. -/
def fromEntries (entries : List HolderEntry) : Except MerkleError SnapshotMerkleTree := do
  require (entries.length ≠ 0) .emptyEntrySet
  validateFrom none 0 entries
  let leaves ← entries.mapM fun e => computeLeaf sha256 e.owner e.lpBalance
  return ⟨levelsFrom sha256 leaves⟩

/-- `root`. -/
def root (t : SnapshotMerkleTree) : Except MerkleError Hash :=
  okOr (t.levels.getLast?.bind fun last => last[0]?) .noRoot

/-- `leafCount`. -/
def leafCount (t : SnapshotMerkleTree) : ℕ :=
  match t.levels[0]? with
  | some first => first.length
  | none => 0

/-- `treeDepth`. -/
def treeDepth (t : SnapshotMerkleTree) : ℤ :=
  (t.levels.length : ℤ) - 1

/-- A negative index of an array names no element. -/
def leaf (t : SnapshotMerkleTree) (index : ℤ) : Option Hash :=
  t.levels[0]?.bind fun first => if index < 0 then none else first[index.toNat]?

/-- The loop over all levels but the last. -/
def proofFrom (idx : ℕ) : List (List Hash) → List Hash
  | [] => []
  | [_] => []
  | level :: levels =>
    (if idx % 2 = 0 then
      if idx + 1 < level.length then level[idx + 1]?.toList else []
    else level[idx - 1]?.toList) ++ proofFrom (idx / 2) levels

/-- `proof`: none for an index out of range. -/
def proof (t : SnapshotMerkleTree) (index : ℤ) : Option (List Hash) :=
  if index < 0 ∨ t.leafCount ≤ index then none else some (proofFrom index.toNat t.levels)

/-- `proofs`: one for each leaf. -/
def proofs (t : SnapshotMerkleTree) : Except MerkleError (List (List Hash)) :=
  (List.range t.leafCount).mapM fun i => okOr (t.proof (i : ℕ)) (.proofMissing i)

end SnapshotMerkleTree

/-- Fold the siblings onto the leaf and compare with the root. -/
def verifyMerkleProof (root leaf : Hash) (proof : List Hash) : Bool :=
  let current := proof.foldl (hashPair sha256) leaf
  compareBytes current.val root.val = 0

/-! ## Agreement with the snapshotter -/

/-- A row of the snapshotter as the SDK takes it. -/
def HolderEntry.ofRow (e : Snapshotter.HolderEntry) : HolderEntry :=
  ⟨e.owner, e.lpBalance.val⟩

/-- The pairs are the snapshotter's. -/
theorem hashPair_eq : hashPair sha256 = Snapshotter.hashPair sha256 := by
  funext a b
  simp only [hashPair, Snapshotter.hashPair, compareBytes_nonpos_iff]
  split_ifs <;> rfl

/-- The leaves are the snapshotter's. -/
theorem computeLeaf_ofRow (e : Snapshotter.HolderEntry) :
    computeLeaf sha256 (HolderEntry.ofRow e).owner (HolderEntry.ofRow e).lpBalance =
      .ok (Snapshotter.computeLeaf sha256 e.owner e.lpBalance) := by
  rw [computeLeaf, HolderEntry.ofRow, require_of (Int.natCast_nonneg _), setBigUint64_of_word]
  rfl

/-- The index loop pairs what is left of the level. -/
theorem pairFrom_eq (last : List Hash) (i : ℕ) :
    pairFrom sha256 last i = PairTree.nextLevel (hashPair sha256) (last.drop i) := by
  induction i using pairFrom.induct last with
  | case1 i h ih =>
    rw [pairFrom, dif_pos h, ih, List.drop_eq_getElem_cons h]
    cases hb : last[i + 1]? with
    | none =>
      have hlen := List.getElem?_eq_none_iff.1 hb
      rw [List.drop_eq_nil_of_le hlen, List.drop_eq_nil_of_le (by omega)]
      rfl
    | some b =>
      obtain ⟨hlt, rfl⟩ := List.getElem?_eq_some_iff.1 hb
      rw [List.drop_eq_getElem_cons hlt]
      rfl
  | case2 i h =>
    rw [pairFrom, dif_neg h, List.drop_eq_nil_of_le (by omega)]
    rfl

/-- The levels are the snapshotter's. -/
theorem levelsFrom_eq (last : List Hash) :
    levelsFrom sha256 last = PairTree.levels (Snapshotter.hashPair sha256) last := by
  rw [← hashPair_eq]
  induction last using PairTree.levels_induction (hashPair sha256) with
  | top last h => rw [levelsFrom, if_pos h, PairTree.levels_of_le _ h]
  | up last h ih =>
    have hpair : pairFrom sha256 last 0 = PairTree.nextLevel (hashPair sha256) last := by
      rw [pairFrom_eq, List.drop_zero]
    rw [levelsFrom, if_neg (not_le.2 h), hpair, ih, ← PairTree.levels_of_lt _ h]

/-- The loop accepts rows whose owners ascend from `prev` on and whose balances are positive. -/
theorem validateFrom_ofRow_iff (prev : Option Snapshotter.HolderEntry) (i : ℕ)
    (rows : List Snapshotter.HolderEntry) :
    validateFrom (prev.map HolderEntry.ofRow) i (rows.map HolderEntry.ofRow) = .ok () ↔
      (prev.toList ++ rows).IsChain (fun a b => a.owner < b.owner) ∧
        ∀ e ∈ rows, 0 < e.lpBalance.val := by
  induction rows generalizing prev i with
  | nil => cases prev <;> simp [validateFrom]
  | cons e rows ih =>
    have hrest := ih (some e) (i + 1)
    rw [Option.map_some] at hrest
    simp only [List.map_cons, validateFrom, require_bind_ok_iff, hrest, Option.toList_some,
      List.singleton_append, List.forall_mem_cons]
    have hpos : 0 < (HolderEntry.ofRow e).lpBalance ↔ 0 < e.lpBalance.val := by
      simp [HolderEntry.ofRow]
    cases prev with
    | none =>
      simp only [Option.map_none, Option.not_mem_none, false_imp_iff, implies_true, true_and, hpos,
        Option.toList_none, List.nil_append]
      tauto
    | some p =>
      have hlt : compareBytes (HolderEntry.ofRow p).owner.val (HolderEntry.ofRow e).owner.val ≠ 0 ∧
          compareBytes (HolderEntry.ofRow p).owner.val (HolderEntry.ofRow e).owner.val ≤ 0 ↔
            p.owner < e.owner := by
        rw [compareBytes_nonpos_iff, lt_iff_le_and_ne, Ne, compareBytes_eq_zero_iff,
          ← Subtype.ext_iff]
        exact and_comm
      simp only [Option.map_some, Option.mem_some_iff, forall_eq', hpos, Option.toList_some,
        List.singleton_append, List.isChain_cons_cons, ← hlt]
      tauto

namespace SnapshotMerkleTree

variable {sha256}

/-- The SDK accepts the lists that the snapshotter accepts, and builds the same levels. -/
theorem fromEntries_ok_iff {rows : List Snapshotter.HolderEntry} {t : SnapshotMerkleTree} :
    fromEntries sha256 (rows.map HolderEntry.ofRow) = .ok t ↔
      Snapshotter.SnapshotMerkleTree.fromEntries sha256 rows = .ok ⟨t.levels⟩ := by
  have hvalid : rows ≠ [] ∧ validateFrom none 0 (rows.map HolderEntry.ofRow) = .ok () ↔
      Snapshotter.validateEntries rows = .ok () := by
    rw [Snapshotter.validateEntries, require_bind_ok_iff, Snapshotter.validateWindows_ok_iff]
    exact and_congr_right fun _ => validateFrom_ofRow_iff none 0 rows
  have hleaves : (rows.map HolderEntry.ofRow).mapM
      (fun e => computeLeaf sha256 e.owner e.lpBalance) =
        .ok (rows.map fun e => Snapshotter.computeLeaf sha256 e.owner e.lpBalance) := by
    rw [List.mapM_map]
    simp only [Function.comp_def, computeLeaf_ofRow]
    exact List.mapM_pure
  rw [fromEntries, require_bind_ok_iff, List.length_map, Ne, List.length_eq_zero_iff, hleaves,
    ok_bind, levelsFrom_eq, Snapshotter.SnapshotMerkleTree.fromEntries]
  simp only [bind_ok_iff, pure_ok_iff, ← hvalid]
  constructor
  · rintro ⟨hne, u, hv, rfl⟩
    exact ⟨u, ⟨hne, hv⟩, rfl⟩
  · rintro ⟨u, ⟨hne, hv⟩, hlevels⟩
    refine ⟨hne, u, hv, ?_⟩
    cases t
    exact congrArg SnapshotMerkleTree.mk (Snapshotter.SnapshotMerkleTree.mk.inj hlevels)

/-- The proofs are the siblings on the way up. -/
theorem proofFrom_eq : ∀ (idx : ℕ) (levels : List (List Hash)),
    proofFrom idx levels = PairTree.siblings idx levels.dropLast
  | _, [] => rfl
  | _, [_] => rfl
  | idx, level :: above :: levels => by
    have hlast : (if idx + 1 < level.length then level[idx + 1]?.toList else []) =
        level[idx + 1]?.toList := by
      split_ifs with h
      · rfl
      · rw [List.getElem?_eq_none (not_lt.1 h), Option.toList_none]
    rw [proofFrom, hlast, proofFrom_eq (idx / 2) (above :: levels), List.dropLast_cons_cons,
      PairTree.siblings, PairTree.sibling]
    exact List.cons_ne_nil _ _

end SnapshotMerkleTree

/-- All that the accessors of two trees show is the same. -/
structure SameTree (t : SnapshotMerkleTree) (t' : Snapshotter.SnapshotMerkleTree) : Prop where
  root : t.root.toOption = t'.root
  leafCount : t.leafCount = t'.leafCount
  treeDepth : t.treeDepth = t'.treeDepth
  leaf : ∀ i : ℕ, t.leaf i = t'.leaf i
  proof : ∀ i : ℕ, t.proof i = t'.proof i

/-- Trees with the same levels are the same. -/
theorem sameTree_of_levels {t : SnapshotMerkleTree} {t' : Snapshotter.SnapshotMerkleTree}
    (h : t.levels = t'.levels) (hne : t'.levels ≠ []) : SameTree t t' := by
  have hcount : t.leafCount = t'.leafCount := by
    rw [SnapshotMerkleTree.leafCount, Snapshotter.SnapshotMerkleTree.leafCount, h,
      List.head?_eq_getElem?]
    cases t'.levels[0]? <;> rfl
  refine ⟨?_, hcount, ?_, fun i => ?_, fun i => ?_⟩
  · rw [SnapshotMerkleTree.root, Snapshotter.SnapshotMerkleTree.root, h]
    cases t'.levels.getLast? with
    | none => rfl
    | some last => cases last <;> rfl
  · have hpos := List.length_pos_iff.2 hne
    rw [SnapshotMerkleTree.treeDepth, Snapshotter.SnapshotMerkleTree.treeDepth, h]
    omega
  · have hnonneg : ¬(i : ℤ) < 0 := not_lt.2 (Int.natCast_nonneg i)
    rw [SnapshotMerkleTree.leaf, Snapshotter.SnapshotMerkleTree.leaf, h, List.head?_eq_getElem?]
    simp only [hnonneg, if_false, Int.toNat_natCast]
  · have hcond : ((i : ℤ) < 0 ∨ (t.leafCount : ℤ) ≤ i) ↔ t'.leafCount ≤ i := by
      rw [hcount]
      omega
    rw [SnapshotMerkleTree.proof, Snapshotter.SnapshotMerkleTree.proof, h,
      SnapshotMerkleTree.proofFrom_eq, Int.toNat_natCast]
    simp only [hcond]

/-- Over rows the trees of the SDK and of the snapshotter are the same. -/
theorem sameTree_of_fromEntries {sha256 : List Byte → Hash} {rows : List Snapshotter.HolderEntry}
    {t : SnapshotMerkleTree} {t' : Snapshotter.SnapshotMerkleTree}
    (ht : SnapshotMerkleTree.fromEntries sha256 (rows.map HolderEntry.ofRow) = .ok t)
    (ht' : Snapshotter.SnapshotMerkleTree.fromEntries sha256 rows = .ok t') : SameTree t t' := by
  obtain rfl := Except.ok.inj ((SnapshotMerkleTree.fromEntries_ok_iff.1 ht).symm.trans ht')
  refine sameTree_of_levels rfl ?_
  rw [(Snapshotter.SnapshotMerkleTree.fromEntries_ok_iff.1 ht').2]
  exact PairTree.levels_ne_nil _ _

/-- The SDK verifies a proof as the vault does. -/
theorem verifyMerkleProof_eq (root leaf : Hash) (proof : List Hash) :
    verifyMerkleProof sha256 root leaf proof = Vault.verifyProof sha256 root leaf proof := by
  have hfold : proof.foldl (hashPair sha256) leaf = root ↔
      Vault.verifyProof sha256 root leaf proof = true := by
    rw [hashPair_eq, Snapshotter.hashPair_eq, Snapshotter.verifyProof_iff]
  rw [verifyMerkleProof, Bool.eq_iff_iff, ← hfold, decide_eq_true_eq, compareBytes_eq_zero_iff,
    Subtype.ext_iff]

/-! ## Balances of any size -/

/-- What is left of a balance in the eight bytes of a leaf. -/
def wrapped (lpBalance : ℤ) : U64 :=
  ⟨(lpBalance % 2 ^ 64).toNat, by omega⟩

/-- A balance is its own remainder iff it is a `u64`. -/
theorem wrapped_eq_iff {b : ℤ} (h : 0 ≤ b) : ((wrapped b).val : ℤ) = b ↔ b < 2 ^ 64 := by
  simp only [wrapped]
  omega

/-- The leaf of a balance is the vault's leaf of its remainder. -/
theorem computeLeaf_of_nonneg (holder : Pubkey) {b : ℤ} (h : 0 ≤ b) :
    computeLeaf sha256 holder b = .ok (Vault.computeLeaf sha256 holder (wrapped b)) := by
  rw [computeLeaf, require_of h]
  rfl

/-- Entries that are accepted are positive. -/
theorem pos_of_validateFrom {prev : Option HolderEntry} {i : ℕ} {es : List HolderEntry} {u : Unit}
    (h : validateFrom prev i es = .ok u) : ∀ e ∈ es, 0 < e.lpBalance := by
  induction es generalizing prev i with
  | nil => simp
  | cons e es ih =>
    simp only [validateFrom, require_bind_ok_iff] at h
    obtain ⟨hpos, _, _, hrest⟩ := h
    exact List.forall_mem_cons.2 ⟨hpos, ih hrest⟩

namespace SnapshotMerkleTree

variable {sha256} {entries : List HolderEntry} {t : SnapshotMerkleTree}

/-- The balances of a tree are positive, and its levels are those of the wrapped balances. -/
theorem levels_of_fromEntries (h : fromEntries sha256 entries = .ok t) :
    (∀ e ∈ entries, 0 < e.lpBalance) ∧
      t.levels = PairTree.levels (Snapshotter.snapshotScheme sha256).pair
        (entries.map fun e => Vault.computeLeaf sha256 e.owner (wrapped e.lpBalance)) := by
  simp only [fromEntries, bind_ok_iff, pure_ok_iff] at h
  obtain ⟨_, _, _, hvalid, leaves, hleaves, rfl⟩ := h
  have hpos := pos_of_validateFrom hvalid
  have hmap := mapM_eq_map (f := fun e : HolderEntry => computeLeaf sha256 e.owner e.lpBalance)
    fun e he => computeLeaf_of_nonneg sha256 e.owner (hpos e he).le
  obtain rfl := Except.ok.inj (hmap.symm.trans hleaves)
  exact ⟨hpos, by rw [levelsFrom_eq, Snapshotter.hashPair_eq]⟩

/-- The vault accepts every entry with its wrapped balance. -/
theorem exists_verifyProof_wrapped (h : fromEntries sha256 entries = .ok t) {i : ℕ}
    {e : HolderEntry} (hi : entries[i]? = some e) : ∃ root proof, t.root = .ok root ∧
      t.proof i = some proof ∧ Vault.verifyProof sha256 root
        (Vault.computeLeaf sha256 e.owner (wrapped e.lpBalance)) proof = true := by
  obtain ⟨_, hlevels⟩ := levels_of_fromEntries h
  have hleaf : (entries.map fun e => Vault.computeLeaf sha256 e.owner (wrapped e.lpBalance))[i]? =
      some (Vault.computeLeaf sha256 e.owner (wrapped e.lpBalance)) := by
    rw [List.getElem?_map, hi]
    rfl
  have hroot := PairTree.foldl_siblings (Snapshotter.snapshotScheme sha256).pair_comm _ hleaf
  have hcount : t.leafCount = entries.length := by
    rw [leafCount, ← List.head?_eq_getElem?, hlevels, PairTree.head?_levels]
    exact List.length_map _
  have hrange : ¬((i : ℤ) < 0 ∨ (t.leafCount : ℤ) ≤ i) := by
    have := (List.getElem?_eq_some_iff.1 hi).1
    omega
  refine ⟨_, PairTree.siblings i t.levels.dropLast, ?_, ?_,
    (Snapshotter.verifyProof_iff sha256).2 rfl⟩
  · rw [root, okOr_ok_iff, hlevels, ← hroot]
    simp only [PairTree.root?, List.head?_eq_getElem?]
  · rw [proof, if_neg hrange, proofFrom_eq]
    rfl

end SnapshotMerkleTree

/-- On every list of rows, sorted or not, the SDK builds a tree iff the snapshotter does, and the
two trees have the same root, leaf count, depth, leaves and proofs. The verifier of the SDK
answers as the vault does. -/
theorem fromEntries_agrees (sha256 : List Byte → Hash) :
    (∀ rows : List Snapshotter.HolderEntry,
      ((∃ t, SnapshotMerkleTree.fromEntries sha256 (rows.map HolderEntry.ofRow) = .ok t) ↔
        ∃ t', Snapshotter.SnapshotMerkleTree.fromEntries sha256 rows = .ok t') ∧
      ∀ t t', SnapshotMerkleTree.fromEntries sha256 (rows.map HolderEntry.ofRow) = .ok t →
        Snapshotter.SnapshotMerkleTree.fromEntries sha256 rows = .ok t' → SameTree t t') ∧
    ∀ root leaf proof,
      verifyMerkleProof sha256 root leaf proof = Vault.verifyProof sha256 root leaf proof := by
  refine ⟨fun rows => ⟨⟨?_, ?_⟩, ?_⟩, verifyMerkleProof_eq sha256⟩
  · rintro ⟨t, ht⟩
    exact ⟨_, SnapshotMerkleTree.fromEntries_ok_iff.1 ht⟩
  · rintro ⟨t', ht'⟩
    exact ⟨⟨t'.levels⟩, SnapshotMerkleTree.fromEntries_ok_iff.2 ht'⟩
  · intro t t' ht ht'
    exact sameTree_of_fromEntries ht ht'

/-- Three rows in the order of their owners have one tree on both sides, and two rows in the other
order have none on either. -/
theorem fromEntries_agrees_demo :
    (∃ t t', SnapshotMerkleTree.fromEntries Machine.sha256
        (Snapshotter.SnapshotMerkleTree.threeHolders.map HolderEntry.ofRow) = .ok t ∧
      Snapshotter.SnapshotMerkleTree.fromEntries Machine.sha256
        Snapshotter.SnapshotMerkleTree.threeHolders = .ok t' ∧ SameTree t t') ∧
    ¬∃ t, SnapshotMerkleTree.fromEntries Machine.sha256
      ([⟨Pubkey.fill 2, 300⟩, ⟨Pubkey.fill 1, 500⟩].map HolderEntry.ofRow) = .ok t := by
  obtain ⟨hrows, _⟩ := fromEntries_agrees Machine.sha256
  obtain ⟨t', ht'⟩ := Snapshotter.SnapshotMerkleTree.exists_fromEntries Machine.sha256
    Snapshotter.SnapshotMerkleTree.canonical_threeHolders
  obtain ⟨t, ht⟩ := (hrows _).1.2 ⟨t', ht'⟩
  refine ⟨⟨t, t', ht, ht', (hrows _).2 t t' ht ht'⟩, fun h => ?_⟩
  obtain ⟨t'', ht''⟩ := (hrows _).1.1 h
  have hsorted := (Snapshotter.SnapshotMerkleTree.fromEntries_ok_iff.1 ht'').1.sorted
  exact absurd (List.pairwise_cons.1 hsorted).1 (by decide)

end GraveYield.Sdk
