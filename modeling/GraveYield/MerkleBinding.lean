import GraveYield.Merkle

/-!
# Binding of the sealed root

The format has no domain separation tags, sorts its pairs, promotes odd nodes unhashed and
puts no bound on the length of a proof. Binding is stated as a reduction : from an accepted
proof of an entry that is not in the list, `proofCollision` computes two distinct preimages
with one SHA-256 digest, and from two lists with one root `rootCollision` does.

The two preimages come from walking the proof down the tree from the root. Where a proof
stops above the leaves or runs past them, a 40-byte leaf preimage meets a 64-byte pair
preimage, which differ by their length.
-/

namespace GraveYield.Snapshotter.SnapshotMerkleTree

open Machine Checked

/-- The preimages found when `proof` is walked down the tree of `entries`. -/
def proofCollision (sha256 : List Byte → Hash) (entries : List HolderEntry) (holder : Pubkey)
    (lpBalance : U64) (proof : List Hash) : Option (List Byte × List Byte) :=
  (snapshotScheme sha256).listCollision entries ⟨holder, lpBalance⟩ proof

/-- The preimages found when each list's own proofs are walked down the other's tree. -/
def rootCollision (sha256 : List Byte → Hash) (entries entries' : List HolderEntry) :
    Option (List Byte × List Byte) :=
  ((snapshotScheme sha256).crossCollision entries entries').or
    ((snapshotScheme sha256).crossCollision entries' entries)

/-- Two distinct byte strings, each the preimage of a leaf or of a pair, with one digest. -/
structure IsCollision (sha256 : List Byte → Hash) (x y : List Byte) : Prop where
  left : (∃ e, x = leafPreimage e) ∨ ∃ a b, x = pairPreimage a b
  right : (∃ e, y = leafPreimage e) ∨ ∃ a b, y = pairPreimage a b
  ne : x ≠ y
  hash_eq : sha256 x = sha256 y

variable {sha256 : List Byte → Hash} {entries entries' : List HolderEntry}

/-- A result of a search, read as the disjunction it stands for. -/
theorem or_isCollision {P : Prop} {o : Option (List Byte × List Byte)}
    (h : o.elim P (snapshotScheme sha256).IsCollision) :
    P ∨ ∃ x y, o = some (x, y) ∧ IsCollision sha256 x y := by
  cases o with
  | none => exact Or.inl h
  | some p =>
    obtain ⟨hl, hr, hne, heq⟩ := h
    exact Or.inr ⟨p.1, p.2, rfl, hl, hr, hne, heq⟩

theorem eq_of_subset (hc : Canonical entries) (hc' : Canonical entries')
    (h : entries ⊆ entries') (h' : entries' ⊆ entries) : entries = entries' := by
  have hirrefl : Std.Irrefl fun a b : HolderEntry => a.owner < b.owner :=
    ⟨fun a => lt_irrefl a.owner⟩
  have hantisymm : Std.Antisymm fun a b : HolderEntry => a.owner < b.owner :=
    ⟨fun _ _ h1 h2 => absurd h1 (lt_asymm h2)⟩
  exact List.Subset.antisymm_of_pairwise hc.sorted hc'.sorted h h'

/-- An accepted proof is of an entry, or gives a collision. -/
theorem mem_or_proofCollision {t : SnapshotMerkleTree} {root : Hash}
    (ht : fromEntries sha256 entries = .ok t) (hroot : t.root = some root) {holder : Pubkey}
    {lpBalance : U64} {proof : List Hash}
    (hv : Vault.verifyProof sha256 root (Vault.computeLeaf sha256 holder lpBalance) proof = true) :
    ⟨holder, lpBalance⟩ ∈ entries ∨
      ∃ x y, proofCollision sha256 entries holder lpBalance proof = some (x, y) ∧
        IsCollision sha256 x y := by
  apply or_isCollision
  apply PairTree.Scheme.listCollision_elim
  rw [← root_of_fromEntries ht, hroot, ← (verifyProof_iff sha256).1 hv]
  rfl

/-- Two canonical lists with one root are equal, or give a collision. -/
theorem eq_or_rootCollision {t t' : SnapshotMerkleTree} (ht : fromEntries sha256 entries = .ok t)
    (ht' : fromEntries sha256 entries' = .ok t') (hroot : t.root = t'.root) :
    entries = entries' ∨ ∃ x y, rootCollision sha256 entries entries' = some (x, y) ∧
      IsCollision sha256 x y := by
  rw [root_of_fromEntries ht, root_of_fromEntries ht'] at hroot
  have hc := (fromEntries_ok_iff.1 ht).1
  have hc' := (fromEntries_ok_iff.1 ht').1
  apply or_isCollision
  exact PairTree.elim_imp (fun h => eq_of_subset hc hc' h.1 h.2)
    (PairTree.elim_or ((snapshotScheme sha256).crossCollision_elim hroot)
      ((snapshotScheme sha256).crossCollision_elim hroot.symm))

/-- Binding : of every canonical list, an accepted proof of any length is of an entry or
gives an explicit collision, and so does another canonical list with the same root. -/
theorem verifyProof_binding (sha256 : List Byte → Hash) (entries : List HolderEntry)
    (hc : Canonical entries) : ∃ t root, fromEntries sha256 entries = .ok t ∧
      t.root = some root ∧
      (∀ (holder : Pubkey) (lpBalance : U64) (proof : List Hash),
        Vault.verifyProof sha256 root (Vault.computeLeaf sha256 holder lpBalance) proof = true →
          ⟨holder, lpBalance⟩ ∈ entries ∨
            ∃ x y, proofCollision sha256 entries holder lpBalance proof = some (x, y) ∧
              IsCollision sha256 x y) ∧
      ∀ (entries' : List HolderEntry) (t' : SnapshotMerkleTree), Canonical entries' →
        fromEntries sha256 entries' = .ok t' → t'.root = some root →
          entries = entries' ∨ ∃ x y, rootCollision sha256 entries entries' = some (x, y) ∧
            IsCollision sha256 x y := by
  obtain ⟨t, ht⟩ := exists_fromEntries sha256 hc
  have hroot := root_eq_foldl_proof ht (List.getElem?_eq_getElem (List.length_pos_iff.2 hc.ne_nil))
    (proof_of_fromEntries ht (List.length_pos_iff.2 hc.ne_nil))
  exact ⟨t, _, ht, hroot, fun _ _ _ hv => mem_or_proofCollision ht hroot hv,
    fun _ _ _ ht' hr' => eq_or_rootCollision ht ht' (hroot.trans hr'.symm)⟩

/-- The proof of the second of three holders. -/
def secondProof : List Hash :=
  [Vault.computeLeaf Machine.sha256 (Pubkey.fill 1) 500,
    Vault.computeLeaf Machine.sha256 (Pubkey.fill 3) 200]

theorem verifyProof_binding_threeHolders : ∃ t root,
    fromEntries Machine.sha256 threeHolders = .ok t ∧ t.root = some root ∧
      Vault.verifyProof Machine.sha256 root
        (Vault.computeLeaf Machine.sha256 (Pubkey.fill 2) 300) secondProof = true ∧
      (⟨Pubkey.fill 2, 300⟩ ∈ threeHolders ∨ ∃ x y,
        proofCollision Machine.sha256 threeHolders (Pubkey.fill 2) 300 secondProof = some (x, y) ∧
          IsCollision Machine.sha256 x y) ∧
      (threeHolders = threeHolders ∨ ∃ x y,
        rootCollision Machine.sha256 threeHolders threeHolders = some (x, y) ∧
          IsCollision Machine.sha256 x y) := by
  obtain ⟨t, root, ht, hr, hproof, hroot⟩ :=
    verifyProof_binding Machine.sha256 threeHolders canonical_threeHolders
  have hv : Vault.verifyProof Machine.sha256 root
      (Vault.computeLeaf Machine.sha256 (Pubkey.fill 2) 300) secondProof = true := by
    have hroot := root_eq_foldl_proof ht (i := 1) rfl (proof_of_fromEntries ht (by decide))
    rw [hr, Option.some.injEq] at hroot
    rw [verifyProof_iff, hroot]
    rfl
  exact ⟨t, root, ht, hr, hv, hproof _ _ _ hv, hroot _ t canonical_threeHolders ht hr⟩

end GraveYield.Snapshotter.SnapshotMerkleTree
