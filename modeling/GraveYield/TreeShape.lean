import GraveYield.Merkle

/-!
# The shape of the snapshot tree

`from_entries` pushes levels until the last one has a single node, and `proof` indexes them on the
way up. `buildLevels` is that loop with a number of turns, and `checkedProof` is `proof` with
look-ups that can fail, as an index out of bounds is a panic.

`tree_shape` : the loop ends after as many turns as the tree is deep, the sizes halve, rounded up,
until one node is left, no look-up fails, and the proofs are as long as the depth allows.
-/

namespace GraveYield.Snapshotter

open Machine Checked

variable (sha256 : List Byte → Hash)

/-! ## The loops of the source -/

/-- The loop of `from_entries`, for at most `turns` turns. `none` if it has not ended by then. -/
def buildLevels : ℕ → List (List Hash) → Option (List (List Hash))
  | 0, _ => none
  | turns + 1, levels =>
    match levels.getLast? with
    | none => some levels
    | some current =>
      if 1 < current.length then
        buildLevels turns (levels ++ [PairTree.nextLevel (hashPair sha256) current])
      else some levels

/-- What one turn of `proof` pushes. `none` is an index out of bounds. -/
def siblingAt (level : List Hash) (idx : ℕ) : Option (List Hash) :=
  if idx % 2 = 0 then
    if idx + 1 < level.length then level[idx + 1]?.map ([·]) else some []
  else level[idx - 1]?.map ([·])

/-- The loop of `proof` over the levels below the root. -/
def walk : ℕ → List (List Hash) → Option (List Hash)
  | _, [] => some []
  | idx, level :: levels => do return (← siblingAt level idx) ++ (← walk (idx / 2) levels)

/-- `proof` with its panics : `none` where the source would index out of bounds, or subtract from
an empty number of levels. -/
def SnapshotMerkleTree.checkedProof (t : SnapshotMerkleTree) (index : ℕ) :
    Option (Option (List Hash)) :=
  if t.leafCount ≤ index then some none
  else if t.levels = [] then none
  else some <$> walk index t.levels.dropLast

/-! ## The loop over the levels -/

/-- The loop goes on with the levels above the last one, and needs one turn for each of them. -/
theorem buildLevels_append {turns : ℕ} (below : List (List Hash)) (l : List Hash)
    (h : Nat.clog 2 l.length < turns) :
    buildLevels sha256 turns (below ++ [l]) =
      some (below ++ PairTree.levels (hashPair sha256) l) := by
  induction l using PairTree.levels_induction (hashPair sha256) generalizing turns below with
  | top l hl =>
    obtain ⟨turns, rfl⟩ : ∃ m, turns = m + 1 := ⟨turns - 1, by omega⟩
    simp only [buildLevels, List.getLast?_concat]
    rw [if_neg (not_lt.2 hl), PairTree.levels_of_le _ hl]
  | up l hl ih =>
    obtain ⟨turns, rfl⟩ : ∃ m, turns = m + 1 := ⟨turns - 1, by omega⟩
    have hturn : Nat.clog 2 (PairTree.nextLevel (hashPair sha256) l).length < turns := by
      have hclog := Nat.clog_of_two_le (by decide : 1 < 2) hl
      rw [PairTree.length_nextLevel]
      change _ = Nat.clog 2 ((l.length + 1) / 2) + 1 at hclog
      omega
    simp only [buildLevels, List.getLast?_concat]
    rw [if_pos hl, ih (below ++ [l]) hturn, PairTree.levels_of_lt _ hl, List.append_assoc,
      List.singleton_append]

/-! ## The loop over a proof -/

theorem siblingAt_eq {level : List Hash} {idx : ℕ} (h : idx < level.length) :
    siblingAt level idx = some (PairTree.sibling level idx) := by
  unfold siblingAt PairTree.sibling
  split_ifs with heven hnext
  · rw [List.getElem?_eq_getElem hnext]
    rfl
  · rw [List.getElem?_eq_none (not_lt.1 hnext)]
    rfl
  · rw [List.getElem?_eq_getElem (by omega)]
    rfl

/-- No look-up on the way from a leaf to the root is out of bounds : halving the index keeps it
within the next level. -/
theorem walk_levels (f : Hash → Hash → Hash) {l : List Hash} {idx : ℕ} (h : idx < l.length) :
    walk idx (PairTree.levels f l).dropLast =
      some (PairTree.siblings idx (PairTree.levels f l).dropLast) := by
  induction l using PairTree.levels_induction f generalizing idx with
  | top l hl =>
    rw [PairTree.levels_of_le f hl]
    rfl
  | up l hl ih =>
    have hnext : idx / 2 < (PairTree.nextLevel f l).length := by
      rw [PairTree.length_nextLevel]
      omega
    rw [PairTree.dropLast_levels f hl]
    simp only [walk, siblingAt_eq h, ih hnext]
    rfl

/-! ## The shape -/

/-- The shape of the tree over `n` leaves. -/
structure Shape (t : SnapshotMerkleTree) (n : ℕ) : Prop where
  depth : IsLeast {d | n ≤ 2 ^ d} t.treeDepth
  sizes : t.levels.map List.length = (List.range (t.treeDepth + 1)).map fun k => n ⌈/⌉ 2 ^ k
  root : ∃ root, t.levels.getLast? = some [root] ∧ t.root = some root
  proof : ∀ i < n, ∃ proof, t.checkedProof i = some (some proof) ∧ t.proof i = some proof ∧
    proof.length ≤ t.treeDepth ∧ (proof = [] ↔ n = 1)
  beyond : ∀ i, n ≤ i → t.checkedProof i = some none ∧ t.proof i = none

variable {sha256} {entries : List HolderEntry} {t : SnapshotMerkleTree}

namespace SnapshotMerkleTree

theorem treeDepth_of_fromEntries (h : fromEntries sha256 entries = .ok t) :
    t.treeDepth = Nat.clog 2 entries.length := by
  obtain ⟨hcanonical, hlevels⟩ := fromEntries_ok_iff.1 h
  have hne : entries.map (snapshotScheme sha256).leaf ≠ [] := by
    simpa using hcanonical.ne_nil
  rw [treeDepth, hlevels, PairTree.length_levels hne, List.length_map, Nat.add_sub_cancel]

/-- Beside the proof of an entry : the index is in bounds all the way up. -/
theorem checkedProof_of_fromEntries (h : fromEntries sha256 entries = .ok t) {i : ℕ}
    (hi : i < entries.length) : t.checkedProof i = some (t.proof i) := by
  have hleaf : i < (entries.map (snapshotScheme sha256).leaf).length := by
    simpa using hi
  have hcount : ¬ t.leafCount ≤ i := by
    rw [leafCount_of_fromEntries h]
    omega
  have hlevels := (fromEntries_ok_iff.1 h).2
  have hne : t.levels ≠ [] := hlevels ▸ PairTree.levels_ne_nil _ _
  rw [checkedProof, proof, if_neg hcount, if_neg hcount, if_neg hne, hlevels, walk_levels _ hleaf]
  rfl

theorem shape (h : fromEntries sha256 entries = .ok t) : Shape t entries.length := by
  obtain ⟨hcanonical, hlevels⟩ := fromEntries_ok_iff.1 h
  have hlength : (entries.map (snapshotScheme sha256).leaf).length = entries.length :=
    List.length_map _
  have hne : entries.map (snapshotScheme sha256).leaf ≠ [] := by
    simpa using hcanonical.ne_nil
  have hdepth := treeDepth_of_fromEntries h
  refine ⟨?_, ?_, ?_, fun i hi => ?_, fun i hi => ?_⟩
  · rw [hdepth]
    exact ⟨Nat.le_pow_clog (by decide) _, fun d hd => Nat.clog_le_of_le_pow hd⟩
  · rw [hdepth, hlevels, PairTree.map_length_levels hne, hlength]
  · rw [root_of_fromEntries h, hlevels]
    exact PairTree.exists_getLast?_levels hne
  · have hproof := proof_of_fromEntries h hi
    refine ⟨_, hproof ▸ checkedProof_of_fromEntries h hi, hproof, ?_, ?_⟩
    · rw [treeDepth, ← List.length_dropLast, hlevels]
      exact PairTree.length_siblings_le i _
    · constructor
      · intro hnil
        by_contra hone
        exact PairTree.siblings_ne_nil (by omega) (hlength.symm ▸ hi) hnil
      · intro hone
        rw [PairTree.Scheme.honestProof, PairTree.levels_of_le _ (hlength.trans hone).le]
        rfl
  · have hcount : t.leafCount ≤ i := by rwa [leafCount_of_fromEntries h]
    rw [checkedProof, proof, if_pos hcount, if_pos hcount]
    exact ⟨rfl, rfl⟩

/-- `proof` does not panic, for any index. -/
theorem checkedProof_ne_none (h : fromEntries sha256 entries = .ok t) (i : ℕ) :
    t.checkedProof i ≠ none := by
  rcases lt_or_ge i entries.length with hi | hi
  · simp [checkedProof_of_fromEntries h hi]
  · simp [((shape h).beyond i hi).1]

/-- Every canonical entry set has its tree : the loop pushes all levels in `treeDepth` turns and
stops in the next one, and the tree has its shape. -/
theorem tree_shape (sha256 : List Byte → Hash) (entries : List HolderEntry)
    (hc : Canonical entries) : ∃ t, fromEntries sha256 entries = .ok t ∧
      (∀ turns, t.treeDepth < turns → buildLevels sha256 turns
        [entries.map fun e => computeLeaf sha256 e.owner e.lpBalance] = some t.levels) ∧
      Shape t entries.length := by
  obtain ⟨t, ht⟩ := exists_fromEntries sha256 hc
  refine ⟨t, ht, fun turns hturns => ?_, shape ht⟩
  rw [treeDepth_of_fromEntries ht, ← List.length_map
    (f := fun e => computeLeaf sha256 e.owner e.lpBalance)] at hturns
  rw [(fromEntries_ok_iff.1 ht).2, ← hashPair_eq]
  exact buildLevels_append sha256 [] _ hturns

theorem tree_shape_threeHolders : ∃ t, fromEntries Machine.sha256 threeHolders = .ok t ∧
    t.treeDepth = 2 ∧ t.levels.map List.length = [3, 2, 1] := by
  obtain ⟨t, ht, _, hshape⟩ := tree_shape Machine.sha256 threeHolders canonical_threeHolders
  have hdepth : t.treeDepth = 2 := by
    rw [treeDepth_of_fromEntries ht]
    rfl
  refine ⟨t, ht, hdepth, ?_⟩
  rw [hshape.sizes, hdepth]
  rfl

end SnapshotMerkleTree

end GraveYield.Snapshotter
