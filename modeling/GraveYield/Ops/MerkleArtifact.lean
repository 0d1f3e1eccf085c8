import GraveYield.Lib.Js
import GraveYield.Sdk.Merkle

/-!
# The snapshot artifact of the operations service

`verifyArtifactInternally` checks a stored artifact before it reaches a claim : the integrity hash,
the root of the tree that the holder rows rebuild, and the proof of the first row. Balances are
texts of any size, and the leaves of the tree hold eight bytes of them.

`claimable_iff` : an artifact that passes is claimable row by row exactly where no balance is too
large for its leaf. For a larger one the vault accepts the proof with what is left of the balance
(`exists_verifyProof_wrapped`).

`publicKey` is the constructor of keys from texts, and `numberText` the text of a number.
-/

namespace GraveYield.Ops

open Machine Checked Sdk Js

/-! ## The source -/

/-- `ArtifactHolder`. -/
structure ArtifactHolder where
  owner : String
  lpBalance : String
  deriving DecidableEq

/-- Why an owner was left out. -/
inductive ExclusionReason where
  | zero
  | sink
  deriving DecidableEq

/-- The reason as it is written. -/
def ExclusionReason.text : ExclusionReason → String
  | .zero => "zero"
  | .sink => "sink"

/-- `ArtifactExclusion`. -/
structure ArtifactExclusion where
  owner : String
  lpBalance : String
  reason : ExclusionReason
  deriving DecidableEq

/-- All fields of an artifact but its integrity hash. -/
structure ArtifactFields where
  schema : Number
  pool : String
  lpMint : String
  snapshotSlot : Number
  totalSupply : String
  holderCount : Number
  rootHex : String
  holders : List ArtifactHolder
  exclusions : List ArtifactExclusion
  uncxMarkerPresent : Bool
  builtAtTs : Number
  deriving DecidableEq

/-- `MerkleArtifact`. -/
structure MerkleArtifact extends ArtifactFields where
  integrity : String
  deriving DecidableEq

/-- What the check of an artifact throws. -/
inductive ArtifactError where
  | integrityMismatch (pool : String) (snapshotSlot : Number)
  | publicKey (owner : String)
  | bigInt (lpBalance : String)
  | tree (e : MerkleError)
  | rootMismatch (pool stored rebuilt : String)
  | proofFailed (pool : String)
  deriving DecidableEq

variable (numberText : Number → String) (publicKey : String → Option Pubkey)
  (sha256 : List Byte → Hash)

/-- The fixed-order serialization. -/
def canonical (artifact : ArtifactFields) : String :=
  "\n".intercalate [
    "schema=" ++ numberText artifact.schema,
    "pool=" ++ artifact.pool,
    "lpMint=" ++ artifact.lpMint,
    "slot=" ++ numberText artifact.snapshotSlot,
    "totalSupply=" ++ artifact.totalSupply,
    "holderCount=" ++ numberText artifact.holderCount,
    "root=" ++ artifact.rootHex,
    "holders=" ++ ",".intercalate (artifact.holders.map fun h => h.owner ++ ":" ++ h.lpBalance),
    "exclusions=" ++ ",".intercalate (artifact.exclusions.map fun e =>
      e.owner ++ ":" ++ e.lpBalance ++ ":" ++ e.reason.text),
    "uncx=" ++ (if artifact.uncxMarkerPresent then "true" else "false"),
    "builtAt=" ++ numberText artifact.builtAtTs]

/-- `artifactIntegrity`: the digest of the canonical text. -/
def artifactIntegrity (artifact : ArtifactFields) : String :=
  hex (sha256 (utf8 (canonical numberText artifact))).val

/-- The entry of a holder row. -/
def parseHolder (holder : ArtifactHolder) : Except ArtifactError HolderEntry := do
  let owner ← okOr (publicKey holder.owner) (.publicKey holder.owner)
  let lpBalance ← okOr (bigInt? holder.lpBalance) (.bigInt holder.lpBalance)
  return ⟨owner, lpBalance⟩

/-- The check of the sampled proof, if there is a leaf and a proof. -/
def sampleHolds (root : Hash) (leaf : Option Hash) (proof : Option (List Hash)) : Bool :=
  match leaf, proof with
  | some leaf, some proof => verifyMerkleProof sha256 root leaf proof
  | _, _ => true

/-- `verifyArtifactInternally`. -/
def verifyArtifactInternally (artifact : MerkleArtifact) : Except ArtifactError Unit := do
  require (artifactIntegrity numberText sha256 artifact.toArtifactFields = artifact.integrity)
    (.integrityMismatch artifact.pool artifact.snapshotSlot)
  let entries ← artifact.holders.mapM (parseHolder publicKey)
  let rebuilt ← (SnapshotMerkleTree.fromEntries sha256 entries).mapError .tree
  let root ← rebuilt.root.mapError .tree
  require (hex root.val = artifact.rootHex)
    (.rootMismatch artifact.pool artifact.rootHex (hex root.val))
  require (sampleHolds sha256 root (rebuilt.leaf 0) (rebuilt.proof 0) = true)
    (.proofFailed artifact.pool)

/-! ## What an artifact that passes lets one claim -/

variable {numberText publicKey sha256} {artifact : MerkleArtifact} {entries : List HolderEntry}

/-- A row is read iff its owner and its balance are. -/
theorem parseHolder_ok_iff {holder : ArtifactHolder} {e : HolderEntry} :
    parseHolder publicKey holder = .ok e ↔
      publicKey holder.owner = some e.owner ∧ bigInt? holder.lpBalance = some e.lpBalance := by
  simp only [parseHolder, okOr_bind_ok_iff, pure_ok_iff]
  constructor
  · rintro ⟨owner, howner, b, hb, rfl⟩
    exact ⟨howner, hb⟩
  · rintro ⟨howner, hb⟩
    exact ⟨e.owner, howner, e.lpBalance, hb, rfl⟩

theorem map_bigInt? (h : artifact.holders.mapM (parseHolder publicKey) = .ok entries) :
    (artifact.holders.map fun holder => bigInt? holder.lpBalance) =
      entries.map fun e => some e.lpBalance := by
  rw [← List.forall₂_eq_eq_eq, List.forall₂_map_left_iff, List.forall₂_map_right_iff]
  exact (mapM_ok_iff.1 h).imp fun _ _ hp => (parseHolder_ok_iff.1 hp).2

/-- What an artifact that passes has been checked for. -/
theorem verifyArtifactInternally_ok {u : Unit}
    (h : verifyArtifactInternally numberText publicKey sha256 artifact = .ok u) :
    ∃ entries t root, artifact.holders.mapM (parseHolder publicKey) = .ok entries ∧
      SnapshotMerkleTree.fromEntries sha256 entries = .ok t ∧ t.root = .ok root ∧
      hex root.val = artifact.rootHex := by
  simp only [verifyArtifactInternally, bind_ok_iff, mapError_ok_iff, require_ok_iff] at h
  obtain ⟨_, _, entries, hentries, t, ht, root, hroot, _, hhex, _⟩ := h
  exact ⟨entries, t, root, hentries, ht, hroot, hhex⟩

/-- Every balance fits in 64 bits, and the proof of every row in the tree that the rows rebuild
makes the vault accept its owner and its balance against the stored root. -/
def Claimable (publicKey : String → Option Pubkey) (sha256 : List Byte → Hash)
    (artifact : MerkleArtifact) : Prop :=
  ∃ entries t root, artifact.holders.mapM (parseHolder publicKey) = .ok entries ∧
    SnapshotMerkleTree.fromEntries sha256 entries = .ok t ∧ hex root.val = artifact.rootHex ∧
    ∀ (i : ℕ) (e : HolderEntry), entries[i]? = some e → ∃ (balance : U64) (proof : List Hash),
      (balance.val : ℤ) = e.lpBalance ∧ t.proof i = some proof ∧
      Vault.verifyProof sha256 root (Vault.computeLeaf sha256 e.owner balance) proof = true

/-- No balance is too large for its leaf. -/
def BalancesFit (artifact : MerkleArtifact) : Prop :=
  ∀ holder ∈ artifact.holders, ∀ balance, bigInt? holder.lpBalance = some balance →
    balance < 2 ^ 64

/-- The balances fit iff the entries do. -/
theorem balancesFit_iff (h : artifact.holders.mapM (parseHolder publicKey) = .ok entries) :
    BalancesFit artifact ↔ ∀ e ∈ entries, e.lpBalance < 2 ^ 64 := by
  have hmap : BalancesFit artifact ↔
      ∀ b ∈ artifact.holders.map fun holder => bigInt? holder.lpBalance,
        ∀ balance, b = some balance → balance < 2 ^ 64 := by
    rw [List.forall_mem_map]
    rfl
  rw [hmap, map_bigInt? h]
  simp only [List.forall_mem_map, Option.some.injEq, forall_eq']

/-- An artifact that passes is claimable row by row iff no balance is too large for its leaf. -/
theorem claimable_iff
    (h : verifyArtifactInternally numberText publicKey sha256 artifact = .ok ()) :
    Claimable publicKey sha256 artifact ↔ BalancesFit artifact := by
  obtain ⟨entries, t, root, hentries, ht, hroot, hhex⟩ := verifyArtifactInternally_ok h
  have hpos := (SnapshotMerkleTree.levels_of_fromEntries ht).1
  rw [balancesFit_iff hentries]
  constructor
  · rintro ⟨entries', _, _, hentries', _, _, hrows⟩
    obtain rfl := Except.ok.inj (hentries.symm.trans hentries')
    intro e he
    obtain ⟨i, hi⟩ := List.mem_iff_getElem?.1 he
    obtain ⟨balance, _, hbalance, _⟩ := hrows i e hi
    have := balance.isLt
    omega
  · intro hfit
    refine ⟨entries, t, root, hentries, ht, hhex, fun i e hi => ?_⟩
    have he := List.mem_of_getElem? hi
    obtain ⟨root', proof, hroot', hproof, hverify⟩ :=
      SnapshotMerkleTree.exists_verifyProof_wrapped ht hi
    obtain rfl := Except.ok.inj (hroot.symm.trans hroot')
    exact ⟨wrapped e.lpBalance, proof, (wrapped_eq_iff (hpos e he).le).2 (hfit e he), hproof,
      hverify⟩

/-- An artifact of one holder, for which root and integrity hash are computed from the rest. -/
def oneHolder (numberText : Number → String) (sha256 : List Byte → Hash) (lpBalance : String)
    (leafBalance : U64) : MerkleArtifact :=
  let fields : ArtifactFields := {
    schema := .finite 1
    pool := "11111111111111111111111111111111"
    lpMint := "11111111111111111111111111111111"
    snapshotSlot := .finite 0
    totalSupply := lpBalance
    holderCount := .finite 1
    rootHex := hex (Vault.computeLeaf sha256 defaultPubkey leafBalance).val
    holders := [⟨"11111111111111111111111111111111", lpBalance⟩]
    exclusions := []
    uncxMarkerPresent := false
    builtAtTs := .finite 0 }
  ⟨fields, artifactIntegrity numberText sha256 fields⟩

/-- The constructor of keys on the text of the zero key. -/
def zeroKey (s : String) : Option Pubkey :=
  if s = "11111111111111111111111111111111" then some defaultPubkey else none

/-- The one row is read. -/
theorem mapM_parseHolder_oneHolder {lpBalance : String} {balance : ℤ} {leafBalance : U64}
    (hparse : bigInt? lpBalance = some balance) :
    (oneHolder numberText sha256 lpBalance leafBalance).holders.mapM (parseHolder zeroKey) =
      .ok [⟨defaultPubkey, balance⟩] :=
  mapM_ok_iff.2 (.cons (parseHolder_ok_iff.2 ⟨rfl, hparse⟩) .nil)

/-- The tree of the one row. -/
theorem fromEntries_oneHolder {balance : ℤ} (hpos : 0 < balance) :
    SnapshotMerkleTree.fromEntries sha256 [⟨defaultPubkey, balance⟩] =
      .ok ⟨[[Vault.computeLeaf sha256 defaultPubkey (wrapped balance)]]⟩ := by
  have hvalid : validateFrom none 0 [⟨defaultPubkey, balance⟩] = .ok () := by
    simp [validateFrom, hpos]
  have hleaves : [(⟨defaultPubkey, balance⟩ : HolderEntry)].mapM
      (fun e => computeLeaf sha256 e.owner e.lpBalance) =
        .ok [Vault.computeLeaf sha256 defaultPubkey (wrapped balance)] :=
    mapM_ok_iff.2 (.cons (computeLeaf_of_nonneg sha256 defaultPubkey hpos.le) .nil)
  have hlevels (leaf : Hash) : levelsFrom sha256 [leaf] = [[leaf]] := by
    rw [levelsFrom, if_pos (by rw [List.length_singleton])]
  rw [SnapshotMerkleTree.fromEntries, require_of (List.length_pos_iff.2 (List.cons_ne_nil _ _)).ne',
    ok_bind, hvalid, ok_bind, hleaves, ok_bind, hlevels]
  rfl

/-- It passes if the leaf holds what is left of the balance. -/
theorem verifyArtifactInternally_oneHolder {lpBalance : String} {balance : ℤ} (hpos : 0 < balance)
    (hparse : bigInt? lpBalance = some balance) :
    verifyArtifactInternally numberText zeroKey sha256
      (oneHolder numberText sha256 lpBalance (wrapped balance)) = .ok () := by
  have hsample : sampleHolds sha256 (Vault.computeLeaf sha256 defaultPubkey (wrapped balance))
      (some (Vault.computeLeaf sha256 defaultPubkey (wrapped balance))) (some []) = true := by
    simp [sampleHolds, verifyMerkleProof, compareBytes_eq_zero_iff]
  have hroot (leaf : Hash) : (SnapshotMerkleTree.mk [[leaf]]).root = .ok leaf := rfl
  rw [verifyArtifactInternally, mapM_parseHolder_oneHolder hparse]
  simp only [ok_bind, fromEntries_oneHolder hpos, Except.mapError, hroot]
  rw [require_of (by rfl), ok_bind, require_of (by rfl), ok_bind]
  exact require_of hsample

/-- The text of a number that is an integer. -/
def integerText : Number → String
  | .finite value => toString value.num
  | .notFinite => "NaN"

/-- The key of 31 zeros and a last byte. -/
def lowKey (b : Byte) : Pubkey :=
  ⟨List.replicate 31 0 ++ [b], by simp⟩

/-- The constructor of keys on the texts of three low keys. -/
def lowKeys (s : String) : Option Pubkey :=
  if s = "11111111111111111111111111111112" then some (lowKey 1)
  else if s = "11111111111111111111111111111113" then some (lowKey 2)
  else if s = "11111111111111111111111111111114" then some (lowKey 3)
  else none

/-- The root that the rows rebuild, as text. -/
def rebuiltHex (publicKey : String → Option Pubkey) (sha256 : List Byte → Hash)
    (holders : List ArtifactHolder) : String :=
  let rebuilt := do
    let entries ← holders.mapM (parseHolder publicKey)
    let t ← (SnapshotMerkleTree.fromEntries sha256 entries).mapError .tree
    t.root.mapError .tree
  match rebuilt with
  | .ok root => hex root.val
  | .error _ => ""

/-- An artifact of three holders, the second with the largest balance that fits. -/
def threeRows : MerkleArtifact :=
  let holders : List ArtifactHolder := [⟨"11111111111111111111111111111112", "500"⟩,
    ⟨"11111111111111111111111111111113", "18446744073709551615"⟩,
    ⟨"11111111111111111111111111111114", "7"⟩]
  let fields : ArtifactFields := {
    schema := .finite 1
    pool := "11111111111111111111111111111111"
    lpMint := "11111111111111111111111111111111"
    snapshotSlot := .finite 0
    totalSupply := "18446744073709552122"
    holderCount := .finite 3
    rootHex := rebuiltHex lowKeys Machine.sha256 holders
    holders := holders
    exclusions := []
    uncxMarkerPresent := false
    builtAtTs := .finite 0 }
  ⟨fields, artifactIntegrity integerText Machine.sha256 fields⟩

/-- The three rows are read. -/
theorem mapM_parseHolder_threeRows : threeRows.holders.mapM (parseHolder lowKeys) =
    .ok [⟨lowKey 1, 500⟩, ⟨lowKey 2, 18446744073709551615⟩, ⟨lowKey 3, 7⟩] := by
  decide +kernel

/-- Every row is claimable, the last one with its seven units. -/
theorem claimable_threeRows : Claimable lowKeys Machine.sha256 threeRows ∧
    ∃ root proof, hex root.val = threeRows.rootHex ∧
      Vault.verifyProof Machine.sha256 root (Vault.computeLeaf Machine.sha256 (lowKey 3) 7) proof =
        true := by
  have hok : verifyArtifactInternally integerText lowKeys Machine.sha256 threeRows = .ok () := by
    decide +kernel
  have hfit : BalancesFit threeRows :=
    (balancesFit_iff mapM_parseHolder_threeRows).2 (by decide)
  have hclaimable := (claimable_iff hok).2 hfit
  refine ⟨hclaimable, ?_⟩
  obtain ⟨entries, t, root, hentries, _, hhex, hrows⟩ := hclaimable
  obtain rfl := Except.ok.inj (mapM_parseHolder_threeRows.symm.trans hentries)
  obtain ⟨balance, proof, hbalance, _, hverify⟩ := hrows 2 ⟨lowKey 3, 7⟩ rfl
  obtain rfl : balance = 7 := Fin.ext (Int.ofNat.inj hbalance)
  exact ⟨root, proof, hhex, hverify⟩

/-- The balance `2 ^ 64 + 5` : the artifact passes, and the vault accepts five. -/
theorem not_claimable_oneHolder :
    verifyArtifactInternally integerText zeroKey Machine.sha256
        (oneHolder integerText Machine.sha256 "18446744073709551621" 5) = .ok () ∧
      ¬Claimable zeroKey Machine.sha256
        (oneHolder integerText Machine.sha256 "18446744073709551621" 5) := by
  have hparse : bigInt? "18446744073709551621" = some 18446744073709551621 := by decide +kernel
  have hok : verifyArtifactInternally integerText zeroKey Machine.sha256
      (oneHolder integerText Machine.sha256 "18446744073709551621" (wrapped 18446744073709551621)) =
        .ok () := verifyArtifactInternally_oneHolder (by decide) hparse
  have hleaf : wrapped 18446744073709551621 = 5 := by decide
  rw [hleaf] at hok
  refine ⟨hok, ?_⟩
  rintro ⟨entries, _, _, hentries, _, _, hrows⟩
  obtain rfl := Except.ok.inj ((mapM_parseHolder_oneHolder hparse).symm.trans hentries)
  obtain ⟨balance, _, hbalance, _⟩ := hrows 0 _ List.getElem?_cons_zero
  have hlt := balance.isLt
  simp only at hbalance
  omega

end GraveYield.Ops
