import GraveYield.Lib.ProRata
import GraveYield.Reconciliation
import GraveYield.TreeShape

/-!
# The sealed artifact

`SnapshotArtifact` is what a claims service publishes : the root, the supply, and for every holder
the balance, the leaf and the proof. `seal` makes it from a snapshot and its tree, and
`verifyIntegrity` checks a loaded one against the tree of its own entries, and its totals against
the supply.

The workspace is built with overflow checks in every profile, so that the one unchecked sum of the
check panics where it does not fit; `panicked` is the outcome of such a run. Hence an artifact that
passes closes in exact integers (`verifyIntegrity_sound`), whoever made it.
-/

namespace GraveYield.Snapshotter

open Machine Checked

/-! ## The data model -/

/-- `ARTIFACT_FORMAT_VERSION`. -/
def artifactFormatVersion : U32 := 1

/-- `ArtifactEntry`. -/
structure ArtifactEntry where
  owner : Pubkey
  lpBalance : U64
  leaf : Hash
  proof : List Hash
  deriving DecidableEq

/-- `SnapshotArtifact`. -/
structure SnapshotArtifact where
  formatVersion : U32
  poolAddress : Pubkey
  ammProgramId : Pubkey
  lpMint : Pubkey
  snapshotSlot : U64
  lpTotalSupplyAtSnapshot : U64
  merkleRoot : Hash
  leafCount : ℕ
  treeDepth : ℕ
  entries : List ArtifactEntry
  reconciliation : Reconciliation
  deriving DecidableEq

/-- What `SnapshotError::ArtifactMismatch` is about. -/
inductive ArtifactMismatch where
  | formatVersion (version : U32)
  | tree
  | root
  | leafCount
  | treeDepth
  | leaf (index : ℕ) (owner : Pubkey)
  | proof (index : ℕ) (owner : Pubkey)
  | entriesTotal (total : U128) (entriesTotal : U64)
  | identity
  | supply
  deriving DecidableEq

/-- How sealing or checking an artifact can end without a result. -/
inductive ArtifactError where
  | snapshot (e : SnapshotError)
  | mismatch (what : ArtifactMismatch)
  | panicked
  deriving DecidableEq

/-! ## Sealing and checking -/

variable (sha256 : List Byte → Hash)

/-- The published entries, from index `i` on. -/
def sealEntries (tree : SnapshotMerkleTree) :
    ℕ → List HolderEntry → Except ArtifactError (List ArtifactEntry)
  | _, [] => return []
  | i, e :: es => do
    let leaf ← okOr (tree.leaf i) .panicked
    let proof ← okOr (tree.proof i) .panicked
    let rest ← sealEntries tree (i + 1) es
    return ⟨e.owner, e.lpBalance, leaf, proof⟩ :: rest

/-- `SnapshotArtifact::seal`. -/
def SnapshotArtifact.seal (snapshot : LpSnapshot) (tree : SnapshotMerkleTree) :
    Except ArtifactError SnapshotArtifact := do
  let rebuilt ← (SnapshotMerkleTree.fromEntries sha256 snapshot.entries).mapError .snapshot
  require (rebuilt = tree) (.mismatch .tree)
  let entries ← sealEntries tree 0 snapshot.entries
  let merkleRoot ← okOr tree.root .panicked
  return {
    formatVersion := artifactFormatVersion
    poolAddress := snapshot.poolAddress
    ammProgramId := snapshot.ammProgramId
    lpMint := snapshot.lpMint
    snapshotSlot := snapshot.snapshotSlot
    lpTotalSupplyAtSnapshot := snapshot.lpTotalSupplyAtSnapshot
    merkleRoot
    leafCount := tree.leafCount
    treeDepth := tree.treeDepth
    entries
    reconciliation := snapshot.reconciliation }

/-- The holders of an artifact. -/
def SnapshotArtifact.holders (a : SnapshotArtifact) : List HolderEntry :=
  a.entries.map fun e => ⟨e.owner, e.lpBalance⟩

/-- The leaf and the proof of every entry, from index `i` on. -/
def checkEntries (tree : SnapshotMerkleTree) : ℕ → List ArtifactEntry → Except ArtifactError Unit
  | _, [] => return ()
  | i, e :: es => do
    require (tree.leaf i = some e.leaf) (.mismatch (.leaf i e.owner))
    require (tree.proof i = some e.proof) (.mismatch (.proof i e.owner))
    checkEntries tree (i + 1) es

/-- The closing identity, from the fields of the artifact alone. -/
def checkTotals (a : SnapshotArtifact) : Except ArtifactError Unit := do
  let total ← (checkedTotal (a.entries.map ArtifactEntry.lpBalance)).mapError .snapshot
  require (total.val = a.reconciliation.entriesTotal.val)
    (.mismatch (.entriesTotal total a.reconciliation.entriesTotal))
  let sum ← okOr (a.reconciliation.entriesTotal.checkedAdd a.reconciliation.sinkExclusionsTotal)
    .panicked
  require (sum = a.reconciliation.enumeratedTotal) (.mismatch .identity)
  require (a.reconciliation.enumeratedTotal = a.lpTotalSupplyAtSnapshot) (.mismatch .supply)

/-- `SnapshotArtifact::verify_integrity`. -/
def SnapshotArtifact.verifyIntegrity (a : SnapshotArtifact) : Except ArtifactError Unit := do
  require (a.formatVersion = artifactFormatVersion) (.mismatch (.formatVersion a.formatVersion))
  let tree ← (SnapshotMerkleTree.fromEntries sha256 a.holders).mapError .snapshot
  let root ← okOr tree.root .panicked
  require (root = a.merkleRoot) (.mismatch .root)
  require (a.leafCount = a.holders.length ∧ a.leafCount = tree.leafCount) (.mismatch .leafCount)
  require (a.treeDepth = tree.treeDepth) (.mismatch .treeDepth)
  checkEntries tree 0 a.entries
  checkTotals a

/-! ## What the checks say -/

variable {sha256} {a : SnapshotArtifact} {tree : SnapshotMerkleTree}

/-- Entries pass iff the tree has their leaves and proofs. -/
theorem checkEntries_ok_iff {i : ℕ} {es : List ArtifactEntry} {u : Unit} :
    checkEntries tree i es = .ok u ↔ ∀ j e, es[j]? = some e →
      tree.leaf (i + j) = some e.leaf ∧ tree.proof (i + j) = some e.proof := by
  induction es generalizing i with
  | nil => simp [checkEntries, pure_ok_iff]
  | cons e es ih =>
    simp only [checkEntries, require_bind_ok_iff, ih]
    constructor
    · rintro ⟨hleaf, hproof, h⟩ j e' hj
      cases j with
      | zero =>
        obtain rfl := Option.some.inj hj
        exact ⟨hleaf, hproof⟩
      | succ j =>
        have hstep := h j e' hj
        rwa [add_assoc, add_comm 1] at hstep
    · intro h
      refine ⟨(h 0 e rfl).1, (h 0 e rfl).2, fun j e' hj => ?_⟩
      rw [add_assoc, add_comm 1]
      exact h (j + 1) e' hj

/-- When the totals pass. -/
theorem checkTotals_ok_iff {u : Unit} : checkTotals a = .ok u ↔
    (a.entries.map fun e => e.lpBalance.val).sum = a.reconciliation.entriesTotal.val ∧
      a.reconciliation.entriesTotal.val + a.reconciliation.sinkExclusionsTotal.val =
        a.reconciliation.enumeratedTotal.val ∧
      a.reconciliation.enumeratedTotal = a.lpTotalSupplyAtSnapshot := by
  have hmap : (a.entries.map ArtifactEntry.lpBalance).map Fin.val =
      a.entries.map fun e => e.lpBalance.val := List.map_map
  simp only [checkTotals, bind_ok_iff, mapError_ok_iff, require_ok_iff, exists_const, okOr_ok_iff,
    checkedTotal_eq, Word.ofNat?_eq_some, Word.checkedAdd_eq_some, hmap]
  constructor
  · rintro ⟨total, htotal, hentries, sum, hsum, rfl, hsupply⟩
    exact ⟨htotal ▸ hentries, hsum.symm, hsupply⟩
  · rintro ⟨hentries, hsum, hsupply⟩
    have hlt : a.reconciliation.entriesTotal.val < 2 ^ 128 :=
      a.reconciliation.entriesTotal.isLt.trans (by decide)
    exact ⟨⟨_, hlt⟩, hentries.symm, rfl, _, hsum.symm, rfl, hsupply⟩

/-- What an artifact that passes has been checked against. -/
theorem verifyIntegrity_ok_iff {u : Unit} : a.verifyIntegrity sha256 = .ok u ↔
    a.formatVersion = artifactFormatVersion ∧ ∃ tree,
      SnapshotMerkleTree.fromEntries sha256 a.holders = .ok tree ∧
      tree.root = some a.merkleRoot ∧ a.leafCount = a.holders.length ∧
      a.treeDepth = tree.treeDepth ∧ checkEntries tree 0 a.entries = .ok () ∧
      checkTotals a = .ok () := by
  simp only [SnapshotArtifact.verifyIntegrity, bind_ok_iff, require_ok_iff, exists_const,
    mapError_ok_iff, okOr_ok_iff]
  constructor
  · rintro ⟨hv, tree, ht, root, hroot, rfl, hcount, hdepth, _, he, htotals⟩
    exact ⟨hv, tree, ht, hroot, hcount.1, hdepth, he, htotals⟩
  · rintro ⟨hv, tree, ht, hroot, hcount, hdepth, he, htotals⟩
    refine ⟨hv, tree, ht, _, hroot, rfl, ⟨hcount, ?_⟩, hdepth, (), he, htotals⟩
    rw [hcount, SnapshotMerkleTree.leafCount_of_fromEntries ht]

/-! ## Sealing -/

/-- The entries of a tree can be sealed. -/
theorem sealEntries_ok {entries : List HolderEntry}
    (ht : SnapshotMerkleTree.fromEntries sha256 entries = .ok tree) {i : ℕ} {es : List HolderEntry}
    (hes : entries.drop i = es) : ∃ out, sealEntries tree i es = .ok out ∧
      (out.map fun e => (⟨e.owner, e.lpBalance⟩ : HolderEntry)) = es ∧
      checkEntries tree i out = .ok () := by
  induction es generalizing i with
  | nil => exact ⟨[], rfl, rfl, rfl⟩
  | cons e es ih =>
    have hi : i < entries.length := by
      rw [← List.drop_eq_nil_iff.not.trans not_le, hes]
      exact List.cons_ne_nil e es
    have hnext : entries.drop (i + 1) = es := by
      rw [← List.tail_drop, hes]
      rfl
    obtain ⟨out, hout, hmap, hcheck⟩ := ih hnext
    obtain ⟨leaf, hleaf⟩ : ∃ leaf, tree.leaf i = some leaf := by
      rw [SnapshotMerkleTree.leaf_of_fromEntries ht, List.getElem?_eq_getElem hi]
      exact ⟨_, rfl⟩
    obtain ⟨proof, hproof⟩ : ∃ proof, tree.proof i = some proof :=
      ⟨_, SnapshotMerkleTree.proof_of_fromEntries ht hi⟩
    refine ⟨⟨e.owner, e.lpBalance, leaf, proof⟩ :: out, ?_, ?_, ?_⟩
    · simp only [sealEntries, hleaf, hproof, okOr_some, ok_bind, hout]
      rfl
    · rw [List.map_cons, hmap]
    · simp only [checkEntries, hleaf, hproof, require_of, ok_bind, hcheck]

/-- The artifact of a canonical snapshot with closed totals, and that it passes. -/
theorem exists_seal {snapshot : LpSnapshot}
    (ht : SnapshotMerkleTree.fromEntries sha256 snapshot.entries = .ok tree)
    (htotal : snapshot.reconciliation.entriesTotal.val =
      (snapshot.entries.map fun e => e.lpBalance.val).sum)
    (hclosed : snapshot.reconciliation.entriesTotal.val +
      snapshot.reconciliation.sinkExclusionsTotal.val = snapshot.reconciliation.enumeratedTotal.val)
    (hsupply : snapshot.reconciliation.enumeratedTotal = snapshot.lpTotalSupplyAtSnapshot) :
    ∃ a, SnapshotArtifact.seal sha256 snapshot tree = .ok a ∧
      a.verifyIntegrity sha256 = .ok () := by
  obtain ⟨out, hout, hmap, hcheck⟩ := sealEntries_ok ht (List.drop_zero)
  obtain ⟨root, hroot⟩ := SnapshotMerkleTree.exists_root ht
  refine ⟨⟨artifactFormatVersion, snapshot.poolAddress, snapshot.ammProgramId, snapshot.lpMint,
    snapshot.snapshotSlot, snapshot.lpTotalSupplyAtSnapshot, root, tree.leafCount, tree.treeDepth,
    out, snapshot.reconciliation⟩, ?_, ?_⟩
  · simp only [SnapshotArtifact.seal, ht, Except.mapError, ok_bind, require_of, hout, hroot,
      okOr_some]
    rfl
  · have hsum : (out.map fun e => e.lpBalance.val).sum =
        snapshot.reconciliation.entriesTotal.val := by
      rw [htotal, ← hmap, List.map_map]
      rfl
    refine verifyIntegrity_ok_iff.2 ⟨rfl, tree, ?_, hroot, ?_, rfl, hcheck,
      checkTotals_ok_iff.2 ⟨hsum, hclosed, hsupply⟩⟩
    · rw [SnapshotArtifact.holders, hmap, ht]
    · rw [SnapshotArtifact.holders, hmap]
      exact SnapshotMerkleTree.leafCount_of_fromEntries ht

/-! ## Trusting an artifact -/

/-- What a reader may rely on : the vault accepts every entry with its proof, the owners are
ascending, and the balances and the sinks are exactly the supply, so that the shares of any
bucket fit in it. -/
structure Trustworthy (sha256 : List Byte → Hash) (a : SnapshotArtifact) : Prop where
  accepted : ∀ e ∈ a.entries, Vault.verifyProof sha256 a.merkleRoot
    (Vault.computeLeaf sha256 e.owner e.lpBalance) e.proof = true
  ascending : a.entries.Pairwise fun e e' => e.owner < e'.owner
  closed : (a.entries.map fun e => e.lpBalance.val).sum +
    a.reconciliation.sinkExclusionsTotal.val = a.lpTotalSupplyAtSnapshot.val
  shares : ∀ bucket : ℕ, (a.entries.map fun e =>
    ProRata.share bucket a.lpTotalSupplyAtSnapshot.val e.lpBalance.val).sum ≤ bucket

/-- The entries of an artifact are those of its holders. -/
theorem getElem_holders {i : ℕ} {e : ArtifactEntry} (h : a.entries[i]? = some e) :
    a.holders[i]? = some ⟨e.owner, e.lpBalance⟩ := by
  rw [SnapshotArtifact.holders, List.getElem?_map, h]
  rfl

/-- An artifact that passes can be trusted. -/
theorem verifyIntegrity_sound (h : a.verifyIntegrity sha256 = .ok ()) : Trustworthy sha256 a := by
  obtain ⟨_, tree, ht, hroot, _, _, hcheck, htotals⟩ := verifyIntegrity_ok_iff.1 h
  obtain ⟨hsum, hclosed, hsupply⟩ := checkTotals_ok_iff.1 htotals
  obtain ⟨hcanonical, _⟩ := SnapshotMerkleTree.fromEntries_ok_iff.1 ht
  have hexact : (a.entries.map fun e => e.lpBalance.val).sum +
      a.reconciliation.sinkExclusionsTotal.val = a.lpTotalSupplyAtSnapshot.val := by
    rw [hsum, hclosed, hsupply]
  refine ⟨?_, ?_, hexact, ?_⟩
  · intro e he
    obtain ⟨i, hi, rfl⟩ := List.getElem_of_mem he
    have hget := List.getElem?_eq_getElem hi
    obtain ⟨_, hproof⟩ := checkEntries_ok_iff.1 hcheck i _ hget
    rw [zero_add] at hproof
    rw [verifyProof_iff, ← Option.some_inj, ← hroot]
    exact (SnapshotMerkleTree.root_eq_foldl_proof ht (getElem_holders hget) hproof).symm
  · have hsorted := hcanonical.sorted
    rw [SnapshotArtifact.holders, List.pairwise_map] at hsorted
    exact hsorted
  · intro bucket
    have hpos : 0 < a.lpTotalSupplyAtSnapshot.val := by
      have hsome := hcanonical.sum_pos
      rw [SnapshotArtifact.holders, List.map_map] at hsome
      exact (hsome.trans_le (Nat.le_add_right _ _)).trans_eq hexact
    have hle : ∑ i : Fin a.entries.length, a.entries[i].lpBalance.val ≤
        a.lpTotalSupplyAtSnapshot.val := by
      rw [← hexact, ← Fin.sum_univ_fun_getElem]
      exact Nat.le_add_right _ _
    rw [← Fin.sum_univ_fun_getElem]
    exact ProRata.sum_share_le bucket hpos hle

/-- Every snapshot of the builder seals with its own tree into an artifact that passes, and every
artifact that passes, whatever its fields, is trustworthy. -/
theorem artifact_trustworthy (sha256 : List Byte → Hash) :
    (∀ request source locks snapshot, build request source locks = .ok snapshot →
      ∃ tree a, SnapshotMerkleTree.fromEntries sha256 snapshot.entries = .ok tree ∧
        SnapshotArtifact.seal sha256 snapshot tree = .ok a ∧
        a.verifyIntegrity sha256 = .ok ()) ∧
    ∀ a : SnapshotArtifact, a.verifyIntegrity sha256 = .ok () → Trustworthy sha256 a := by
  constructor
  · intro request source locks snapshot h
    obtain ⟨st⟩ := exists_stages h
    obtain ⟨tree, ht⟩ := SnapshotMerkleTree.exists_fromEntries sha256 st.canonical
    obtain ⟨a, hseal, hverify⟩ := exists_seal ht st.attributes.entriesTotal st.attributes.closed
      st.attributes.supply.1
    exact ⟨tree, a, ht, hseal, hverify⟩
  · intro a h
    exact verifyIntegrity_sound h

/-- The snapshot of three holders seals into an artifact that passes. -/
theorem artifact_trustworthy_three : ∃ tree a,
    SnapshotMerkleTree.fromEntries Machine.sha256 threeSnapshot.entries = .ok tree ∧
    SnapshotArtifact.seal Machine.sha256 threeSnapshot tree = .ok a ∧
    a.verifyIntegrity Machine.sha256 = .ok () ∧ Trustworthy Machine.sha256 a := by
  obtain ⟨hbuilt, htrusted⟩ := artifact_trustworthy Machine.sha256
  obtain ⟨tree, a, ht, hseal, hverify⟩ := hbuilt _ _ _ _ build_threeAccounts
  exact ⟨tree, a, ht, hseal, hverify, htrusted a hverify⟩

/-! ## Panics -/

/-- No sum and no look-up of the check panics. -/
def NoPanic (sha256 : List Byte → Hash) (a : SnapshotArtifact) : Prop :=
  a.verifyIntegrity sha256 ≠ .error .panicked ∧
    ∀ tree, SnapshotMerkleTree.fromEntries sha256 a.holders = .ok tree →
      ∀ i, tree.checkedProof i ≠ none

/-- The artifact passes every check before the sum of its totals. -/
structure Rederived (sha256 : List Byte → Hash) (a : SnapshotArtifact)
    (tree : SnapshotMerkleTree) : Prop where
  version : a.formatVersion = artifactFormatVersion
  built : SnapshotMerkleTree.fromEntries sha256 a.holders = .ok tree
  root : tree.root = some a.merkleRoot
  leafCount : a.leafCount = a.entries.length
  treeDepth : a.treeDepth = tree.treeDepth
  entries : ∀ i e, a.entries[i]? = some e →
    tree.leaf i = some e.leaf ∧ tree.proof i = some e.proof
  total : (a.entries.map fun e => e.lpBalance.val).sum = a.reconciliation.entriesTotal.val

/-- No entry makes the check panic. -/
theorem checkEntries_not_panicked {i : ℕ} {es : List ArtifactEntry} :
    checkEntries tree i es ≠ .error .panicked := by
  induction es generalizing i with
  | nil => simp [checkEntries, pure, Except.pure]
  | cons e es ih =>
    simp only [checkEntries, ne_eq, bind_error_iff, require_error_iff, reduceCtorEq, and_false,
      false_or, not_exists, not_and]
    intro _ _ _ _
    exact ih

/-- When the totals make it panic. -/
theorem checkTotals_panicked_iff : checkTotals a = .error .panicked ↔
    (a.entries.map fun e => e.lpBalance.val).sum = a.reconciliation.entriesTotal.val ∧
      2 ^ 64 ≤ a.reconciliation.entriesTotal.val + a.reconciliation.sinkExclusionsTotal.val := by
  have hmap : (a.entries.map ArtifactEntry.lpBalance).map Fin.val =
      a.entries.map fun e => e.lpBalance.val := List.map_map
  simp only [checkTotals, bind_error_iff, mapError_error_iff, mapError_ok_iff, require_error_iff,
    require_ok_iff, okOr_error_iff, reduceCtorEq, and_false, exists_false, false_or, or_false,
    exists_const, checkedTotal_eq, okOr_ok_iff, Word.ofNat?_eq_some, Word.checkedAdd,
    Word.ofNat?_eq_none, and_true, hmap]
  constructor
  · rintro ⟨total, htotal, hentries, hsum⟩
    exact ⟨htotal ▸ hentries, hsum⟩
  · rintro ⟨hentries, hsum⟩
    have hlt : a.reconciliation.entriesTotal.val < 2 ^ 128 :=
      a.reconciliation.entriesTotal.isLt.trans (by decide)
    exact ⟨⟨_, hlt⟩, hentries.symm, rfl, hsum⟩

/-- When the whole check panics. -/
theorem verifyIntegrity_panicked_iff : a.verifyIntegrity sha256 = .error .panicked ↔
    ∃ tree, Rederived sha256 a tree ∧
      2 ^ 64 ≤ a.reconciliation.entriesTotal.val + a.reconciliation.sinkExclusionsTotal.val := by
  simp only [SnapshotArtifact.verifyIntegrity, bind_error_iff, mapError_error_iff, mapError_ok_iff,
    require_error_iff, require_ok_iff, okOr_error_iff, okOr_ok_iff, reduceCtorEq, and_false,
    exists_false, false_or, exists_const, and_true, checkEntries_not_panicked,
    checkTotals_panicked_iff, checkEntries_ok_iff, zero_add]
  constructor
  · rintro ⟨hversion, tree, ht, hnone | ⟨root, hroot, rfl, hcount, hdepth, hentries, htotal, hsum⟩⟩
    · obtain ⟨root, hroot⟩ := SnapshotMerkleTree.exists_root ht
      simp [hnone] at hroot
    · rw [SnapshotArtifact.holders, List.length_map] at hcount
      exact ⟨tree, ⟨hversion, ht, hroot, hcount.1, hdepth, hentries, htotal⟩, hsum⟩
  · rintro ⟨tree, h, hsum⟩
    have hcount : a.leafCount = a.holders.length := by
      rw [h.leafCount, SnapshotArtifact.holders, List.length_map]
    refine ⟨h.version, tree, h.built, .inr ⟨_, h.root, rfl, ⟨hcount, ?_⟩, h.treeDepth, h.entries,
      h.total, hsum⟩⟩
    rw [hcount, SnapshotMerkleTree.leafCount_of_fromEntries h.built]

/-- The check panics on exactly the artifacts that pass all of it up to the sum of their totals, and
whose totals do not fit together in 64 bits. -/
theorem noPanic_iff (sha256 : List Byte → Hash) (a : SnapshotArtifact) :
    NoPanic sha256 a ↔ ((∃ tree, Rederived sha256 a tree) →
      a.reconciliation.entriesTotal.val + a.reconciliation.sinkExclusionsTotal.val < 2 ^ 64) := by
  have hindex : ∀ tree, SnapshotMerkleTree.fromEntries sha256 a.holders = .ok tree →
      ∀ i, tree.checkedProof i ≠ none :=
    fun _ ht => SnapshotMerkleTree.checkedProof_ne_none ht
  rw [NoPanic, and_iff_left hindex, ne_eq, verifyIntegrity_panicked_iff, exists_and_right, not_and,
    not_le]

/-- The artifact of one holder, with the largest total of sinks. -/
def largestSinks (sha256 : List Byte → Hash) : SnapshotArtifact where
  formatVersion := artifactFormatVersion
  poolAddress := Pubkey.fill 1
  ammProgramId := raydiumV4ProgramId
  lpMint := Pubkey.fill 2
  snapshotSlot := 0
  lpTotalSupplyAtSnapshot := 500
  merkleRoot := computeLeaf sha256 (Pubkey.fill 3) 500
  leafCount := 1
  treeDepth := 0
  entries := [⟨Pubkey.fill 3, 500, computeLeaf sha256 (Pubkey.fill 3) 500, []⟩]
  reconciliation := {
    enumeratedTotal := 500
    entriesTotal := 500
    sinkExclusionsTotal := ⟨2 ^ 64 - 1, by decide⟩ }

theorem verifyIntegrity_largestSinks :
    (largestSinks Machine.sha256).verifyIntegrity Machine.sha256 = .error .panicked := by
  have htree : SnapshotMerkleTree.fromEntries Machine.sha256 (largestSinks Machine.sha256).holders =
      .ok ⟨[[computeLeaf Machine.sha256 (Pubkey.fill 3) 500]]⟩ := by
    refine SnapshotMerkleTree.fromEntries_ok_iff.2 ⟨validateEntries_ok_iff.1 (by rfl), ?_⟩
    rfl
  refine verifyIntegrity_panicked_iff.2 ⟨_, ⟨rfl, htree, rfl, rfl, rfl, ?_, rfl⟩, by decide⟩
  intro i e hi
  obtain ⟨rfl, rfl⟩ : i = 0 ∧ e = _ := by
    simpa [largestSinks, List.getElem?_singleton, eq_comm] using hi
  exact ⟨rfl, rfl⟩

end GraveYield.Snapshotter
