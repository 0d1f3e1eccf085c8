import GraveYield.Basic
import GraveYield.Lib.Checked
import GraveYield.Lib.PairTree
import GraveYield.Lib.Sha256

/-!
# The LP-holder snapshot tree

Two implementations of one format. The snapshotter (`Snapshotter.SnapshotMerkleTree`)
builds the levels of a tree over the holder entries and emits sibling proofs; the vault
(`Vault.verifyProof`) folds a proof of any length onto a leaf and compares the result with
the sealed root. Leaves hash 40 bytes, parents hash the sorted pair of 64 bytes, and an odd
node moves up a level unhashed and leaves no element in the proof.

`Snapshotter.SnapshotMerkleTree.verifyProof_proof` is completeness across the two. SHA-256 is an
arbitrary function on byte strings.
-/

namespace GraveYield

open Machine Checked

variable (sha256 : List Byte → Hash)

/-! ## The verifier of the vault -/

namespace Vault

/-- `sha256(pubkey || lp_balance_le_u64)`. -/
def computeLeaf (holder : Pubkey) (lpBalance : U64) : Hash :=
  sha256 (holder.val ++ leBytes 8 lpBalance.val)

/-- Fold the siblings onto the leaf, each pair in byte order, and compare with the root. -/
def verifyProof (root leaf : Hash) (proof : List Hash) : Bool :=
  proof.foldl (fun current sibling =>
    if current ≤ sibling then sha256 (current.val ++ sibling.val)
    else sha256 (sibling.val ++ current.val)) leaf = root

end Vault

/-! ## The builder of the snapshotter -/

namespace Snapshotter

/-- One holder of the canonical leaf set. -/
structure HolderEntry where
  owner : Pubkey
  lpBalance : U64
  deriving DecidableEq

/-- What an `InvariantViolated` error reports. -/
inductive Violation where
  | notSortedOrUnique (owner : Pubkey)
  | zeroBalanceEntry (owner : Pubkey)
  | zeroBalanceFinalEntry
  | closingIdentity (entriesTotal sinkTotal enumeratedTotal : U128)
  deriving DecidableEq

/-- The errors of the snapshot builder and of the tree. -/
inductive SnapshotError where
  | source
  | supplyMismatch (mintSupply enumeratedTotal : U64)
  | custodyNotFound (lockedTotal : U64)
  | custodyAmbiguous (lockedTotal : U64) (candidates : ℕ)
  | lockOwnerIsCustody (owner : Pubkey)
  | custodyExcludedAsSink
  | emptySnapshot
  | invariantViolated (what : Violation)
  | overflow
  deriving DecidableEq

/-- The windows of two neighbours, checked in order, and the balance of the last entry. -/
def validateWindows : List HolderEntry → Except SnapshotError Unit
  | [] => .ok ()
  | [e] => require (e.lpBalance.val ≠ 0) (.invariantViolated .zeroBalanceFinalEntry)
  | a :: b :: es => do
    require (a.owner < b.owner) (.invariantViolated (.notSortedOrUnique a.owner))
    require (a.lpBalance.val ≠ 0) (.invariantViolated (.zeroBalanceEntry a.owner))
    validateWindows (b :: es)

/-- `LpSnapshot::validate_entries` : not empty, strictly ascending owners, no zero. -/
def validateEntries (entries : List HolderEntry) : Except SnapshotError Unit := do
  require (entries ≠ []) .emptySnapshot
  validateWindows entries

/-- The canonical form of a leaf set. -/
structure Canonical (entries : List HolderEntry) : Prop where
  ne_nil : entries ≠ []
  sorted : entries.Pairwise fun a b => a.owner < b.owner
  pos : ∀ e ∈ entries, 0 < e.lpBalance.val

/-- What the windows check. -/
theorem validateWindows_ok_iff : ∀ entries : List HolderEntry,
    validateWindows entries = .ok () ↔
      entries.IsChain (fun a b => a.owner < b.owner) ∧ ∀ e ∈ entries, 0 < e.lpBalance.val
  | [] => by simp [validateWindows]
  | [e] => by simp [validateWindows, require_ok_iff, Nat.pos_iff_ne_zero]
  | a :: b :: es => by
    simp only [validateWindows, require_bind_ok_iff, validateWindows_ok_iff (b :: es),
      List.isChain_cons_cons, List.forall_mem_cons, Nat.pos_iff_ne_zero]
    tauto

/-- Entries are valid iff they are canonical. -/
theorem validateEntries_ok_iff {entries : List HolderEntry} :
    validateEntries entries = .ok () ↔ Canonical entries := by
  rw [validateEntries, require_bind_ok_iff, validateWindows_ok_iff]
  have htrans : IsTrans HolderEntry fun a b => a.owner < b.owner := ⟨fun _ _ _ => lt_trans⟩
  rw [List.isChain_iff_pairwise]
  exact ⟨fun ⟨h1, h2, h3⟩ => ⟨h1, h2, h3⟩, fun ⟨h1, h2, h3⟩ => ⟨h1, h2, h3⟩⟩

/-- A canonical leaf set holds something. -/
theorem Canonical.sum_pos {entries : List HolderEntry} (h : Canonical entries) :
    0 < (entries.map fun e => e.lpBalance.val).sum := by
  obtain ⟨e, he⟩ := List.exists_mem_of_ne_nil entries h.ne_nil
  have hmem : e.lpBalance.val ∈ entries.map fun e => e.lpBalance.val :=
    List.mem_map_of_mem he
  exact (h.pos e he).trans_le (List.le_sum_of_mem hmem)

/-- The leaf hash of the builder. -/
def computeLeaf (holder : Pubkey) (lpBalance : U64) : Hash :=
  sha256 (holder.val ++ leBytes 8 lpBalance.val)

/-- The parent hash of the builder. -/
def hashPair (a b : Hash) : Hash :=
  let (lo, hi) := if a ≤ b then (a, b) else (b, a)
  sha256 (lo.val ++ hi.val)

/-- The levels of a tree, leaves first. -/
structure SnapshotMerkleTree where
  levels : List (List Hash)
  deriving DecidableEq

namespace SnapshotMerkleTree

/-- Build the tree over a canonical entry set. -/
def fromEntries (entries : List HolderEntry) : Except SnapshotError SnapshotMerkleTree := do
  validateEntries entries
  let leaves := entries.map fun e => computeLeaf sha256 e.owner e.lpBalance
  return ⟨PairTree.levels (hashPair sha256) leaves⟩

/-- The root, or `none` where the source would panic. -/
def root (t : SnapshotMerkleTree) : Option Hash :=
  t.levels.getLast?.bind List.head?

/-- `leaf_count`. -/
def leafCount (t : SnapshotMerkleTree) : ℕ :=
  (t.levels.head?.map List.length).getD 0

/-- `tree_depth`. -/
def treeDepth (t : SnapshotMerkleTree) : ℕ :=
  t.levels.length - 1

/-- `leaf`. -/
def leaf (t : SnapshotMerkleTree) (index : ℕ) : Option Hash :=
  t.levels.head?.bind fun level => level[index]?

/-- The siblings from the leaf at `index` to the root, if the index is in range. -/
def proof (t : SnapshotMerkleTree) (index : ℕ) : Option (List Hash) :=
  if t.leafCount ≤ index then none else some (PairTree.siblings index t.levels.dropLast)

end SnapshotMerkleTree

/-! ## The format as a hashing scheme -/

/-- Byte strings of one length are determined by what they begin. -/
theorem append_inj_of_bytes {n : ℕ} {a b : Bytes n} {x y : List Byte}
    (h : a.val ++ x = b.val ++ y) : a = b ∧ x = y := by
  obtain ⟨h1, h2⟩ := List.append_inj h (a.2.trans b.2.symm)
  exact ⟨Subtype.ext h1, h2⟩

/-- The 40-byte preimage of a leaf. -/
def leafPreimage (e : HolderEntry) : List Byte :=
  e.owner.val ++ leBytes 8 e.lpBalance.val

/-- The 64-byte preimage of a sorted pair. -/
def pairPreimage (a b : Hash) : List Byte :=
  if a ≤ b then a.val ++ b.val else b.val ++ a.val

/-- An entry is hashed as 40 bytes. -/
@[simp] theorem length_leafPreimage (e : HolderEntry) : (leafPreimage e).length = 40 := by
  simp [leafPreimage, e.owner.2]

/-- A pair is hashed as 64 bytes. -/
@[simp] theorem length_pairPreimage (a b : Hash) : (pairPreimage a b).length = 64 := by
  unfold pairPreimage
  split_ifs <;> simp [a.2, b.2]

/-- The order of a pair does not matter. -/
theorem pairPreimage_comm (a b : Hash) : pairPreimage a b = pairPreimage b a := by
  unfold pairPreimage
  rcases lt_trichotomy a b with h | rfl | h
  · rw [if_pos h.le, if_neg (not_le.2 h)]
  · rfl
  · rw [if_neg (not_le.2 h), if_pos h.le]

/-- A preimage determines its pair, up to the order. -/
theorem pairPreimage_cases {a b c d : Hash} (h : pairPreimage a b = pairPreimage c d) :
    a = c ∧ b = d ∨ a = d ∧ b = c := by
  unfold pairPreimage at h
  split_ifs at h <;> obtain ⟨h1, h2⟩ := append_inj_of_bytes h <;>
    have h2 := Subtype.ext h2 <;> tauto

/-- The snapshot format over a given SHA-256. -/
def snapshotScheme : PairTree.Scheme HolderEntry Hash (List Byte) where
  hash := sha256
  leafEnc := leafPreimage
  pairEnc := pairPreimage
  pairEnc_comm := pairPreimage_comm
  leafEnc_injective := by
    rintro ⟨o, b⟩ ⟨o', b'⟩ h
    obtain ⟨ho, hb⟩ := append_inj_of_bytes h
    simpa [HolderEntry.mk.injEq, Fin.ext_iff] using
      And.intro ho (leBytes_inj (k := 8) b.isLt b'.isLt hb)
  pairEnc_cases := pairPreimage_cases
  leafEnc_ne_pairEnc := by
    intro e a b h
    simpa using congrArg List.length h

/-- The snapshotter's pairs are the scheme's. -/
theorem hashPair_eq : hashPair sha256 = (snapshotScheme sha256).pair := by
  funext a b
  simp only [hashPair, PairTree.Scheme.pair, snapshotScheme, pairPreimage]
  split_ifs <;> rfl

/-- The vault's leaves are the scheme's. -/
theorem computeLeaf_eq (e : HolderEntry) :
    Vault.computeLeaf sha256 e.owner e.lpBalance = (snapshotScheme sha256).leaf e :=
  rfl

/-- The verifier compares the root with a fold of the scheme. -/
theorem verifyProof_iff {root leaf : Hash} {proof : List Hash} :
    Vault.verifyProof sha256 root leaf proof = true ↔
      proof.foldl (snapshotScheme sha256).pair leaf = root := by
  have hstep : (fun current sibling : Hash =>
      if current ≤ sibling then sha256 (current.val ++ sibling.val)
      else sha256 (sibling.val ++ current.val)) = (snapshotScheme sha256).pair := by
    funext a b
    simp only [PairTree.Scheme.pair, snapshotScheme, pairPreimage]
    split_ifs <;> rfl
  rw [Vault.verifyProof, hstep, decide_eq_true_eq]

namespace SnapshotMerkleTree

variable {sha256}

/-- The tree of an entry set is the levels of the scheme. -/
theorem fromEntries_ok_iff {entries : List HolderEntry} {t : SnapshotMerkleTree} :
    fromEntries sha256 entries = .ok t ↔ Canonical entries ∧
      t.levels = PairTree.levels (snapshotScheme sha256).pair
        (entries.map (snapshotScheme sha256).leaf) := by
  rw [fromEntries, bind_ok_iff, hashPair_eq]
  constructor
  · rintro ⟨_, hv, h⟩
    obtain rfl := (Except.ok.inj h).symm
    exact ⟨validateEntries_ok_iff.1 hv, rfl⟩
  · rintro ⟨hc, hl⟩
    refine ⟨(), validateEntries_ok_iff.2 hc, ?_⟩
    cases t
    exact congrArg (fun l => Except.ok (SnapshotMerkleTree.mk l)) hl.symm

variable {entries : List HolderEntry} {t : SnapshotMerkleTree}

/-- The root of a tree that was built. -/
theorem root_of_fromEntries (h : fromEntries sha256 entries = .ok t) :
    t.root = PairTree.root? (snapshotScheme sha256).pair
      (entries.map (snapshotScheme sha256).leaf) := by
  rw [root, (fromEntries_ok_iff.1 h).2]
  rfl

/-- The leaves of a tree that was built. -/
theorem leaf_of_fromEntries (h : fromEntries sha256 entries = .ok t) (i : ℕ) :
    t.leaf i = entries[i]?.map (snapshotScheme sha256).leaf := by
  rw [leaf, (fromEntries_ok_iff.1 h).2, PairTree.head?_levels]
  exact List.getElem?_map

/-- A tree has a leaf for each entry. -/
theorem leafCount_of_fromEntries (h : fromEntries sha256 entries = .ok t) :
    t.leafCount = entries.length := by
  simp [leafCount, (fromEntries_ok_iff.1 h).2, PairTree.head?_levels]

/-- The proof of an entry is the honest one. -/
theorem proof_of_fromEntries (h : fromEntries sha256 entries = .ok t) {i : ℕ}
    (hi : i < entries.length) :
    t.proof i = some ((snapshotScheme sha256).honestProof entries i) := by
  rw [proof, leafCount_of_fromEntries h, if_neg (not_le.2 hi), (fromEntries_ok_iff.1 h).2]
  rfl

/-- Every canonical entry set has a tree. -/
theorem exists_fromEntries (sha256 : List Byte → Hash) (hc : Canonical entries) :
    ∃ t, fromEntries sha256 entries = .ok t :=
  ⟨⟨_⟩, fromEntries_ok_iff.2 ⟨hc, rfl⟩⟩

/-- The vault folds the proof of entry `i` to the root. -/
theorem root_eq_foldl_proof (h : fromEntries sha256 entries = .ok t) {i : ℕ} {e : HolderEntry}
    (hi : entries[i]? = some e) {proof : List Hash} (hp : t.proof i = some proof) :
    t.root = some (proof.foldl (snapshotScheme sha256).pair ((snapshotScheme sha256).leaf e)) := by
  rw [proof_of_fromEntries h (List.getElem?_eq_some_iff.1 hi).1, Option.some.injEq] at hp
  rw [root_of_fromEntries h, ← hp]
  refine PairTree.foldl_siblings (snapshotScheme sha256).pair_comm _ ?_
  rw [List.getElem?_map, hi]
  rfl

/-- A tree has a root. -/
theorem exists_root (h : fromEntries sha256 entries = .ok t) : ∃ root, t.root = some root := by
  have hpos := List.length_pos_iff.2 (fromEntries_ok_iff.1 h).1.ne_nil
  exact ⟨_, root_eq_foldl_proof h (List.getElem?_eq_getElem hpos) (proof_of_fromEntries h hpos)⟩

/-- The vault accepts the proof of an entry against the root. -/
theorem exists_verifyProof (h : fromEntries sha256 entries = .ok t) {root : Hash}
    (hroot : t.root = some root) {i : ℕ} (hi : i < entries.length) :
    ∃ proof, t.proof i = some proof ∧ Vault.verifyProof sha256 root
      (Vault.computeLeaf sha256 entries[i].owner entries[i].lpBalance) proof = true := by
  refine ⟨_, proof_of_fromEntries h hi, ?_⟩
  rw [verifyProof_iff, computeLeaf_eq, ← Option.some_inj, ← hroot]
  exact (root_eq_foldl_proof h (List.getElem?_eq_getElem hi) (proof_of_fromEntries h hi)).symm

/-- Completeness across the two implementations : the tree of a canonical entry set has a
root, and the vault accepts the proof of every index for the leaf of its entry. -/
theorem verifyProof_proof (sha256 : List Byte → Hash) (entries : List HolderEntry)
    (hc : Canonical entries) : ∃ t root, fromEntries sha256 entries = .ok t ∧
      t.root = some root ∧ ∀ (i : ℕ) (hi : i < entries.length), ∃ proof, t.proof i = some proof ∧
        t.leaf i = some (Vault.computeLeaf sha256 entries[i].owner entries[i].lpBalance) ∧
        Vault.verifyProof sha256 root
          (Vault.computeLeaf sha256 entries[i].owner entries[i].lpBalance) proof = true := by
  obtain ⟨t, ht⟩ := exists_fromEntries sha256 hc
  obtain ⟨root, hroot⟩ := exists_root ht
  refine ⟨t, root, ht, hroot, fun i hi => ?_⟩
  obtain ⟨proof, hp, hv⟩ := exists_verifyProof ht hroot hi
  refine ⟨proof, hp, ?_, hv⟩
  rw [leaf_of_fromEntries ht, List.getElem?_eq_getElem hi]
  rfl

/-- Three holders, of which the last is promoted unhashed. -/
def threeHolders : List HolderEntry :=
  [⟨Pubkey.fill 1, 500⟩, ⟨Pubkey.fill 2, 300⟩, ⟨Pubkey.fill 3, 200⟩]

/-- The three holders are canonical. -/
theorem canonical_threeHolders : Canonical threeHolders :=
  validateEntries_ok_iff.1 (by rfl)

/-- The third of three leaves is promoted, so its proof has one hash. -/
theorem verifyProof_proof_threeHolders : ∃ t root,
    fromEntries Machine.sha256 threeHolders = .ok t ∧ t.root = some root ∧
      ∃ proof, t.proof 2 = some proof ∧ proof.length = 1 ∧ Vault.verifyProof Machine.sha256 root
        (Vault.computeLeaf Machine.sha256 (Pubkey.fill 3) 200) proof = true := by
  obtain ⟨t, root, ht, hr, h⟩ :=
    verifyProof_proof Machine.sha256 threeHolders canonical_threeHolders
  obtain ⟨proof, hp, _, hv⟩ := h 2 (by decide)
  refine ⟨t, root, ht, hr, proof, hp, ?_, hv⟩
  rw [proof_of_fromEntries ht (by decide), Option.some.injEq] at hp
  rw [← hp]
  rfl

end SnapshotMerkleTree

end Snapshotter

end GraveYield
