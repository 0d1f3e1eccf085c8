import GraveYield.Lib.Checked
import GraveYield.Merkle

/-!
# The snapshot builder

`SnapshotBuilder::build` : enumerate the LP token accounts, check them against the supply,
aggregate by owner, move the zero balances and the declared sinks to the exclusion ledger,
attribute locked LP from its custody account to the owners of the locks, and close the ledger.
The account source and the lock evidence are whatever the caller hands in. Ordered maps are
`Std.TreeMap`, iterated in key order.

`build_ok` reads a successful build back as what its last checks say : the entries are canonical,
and with the excluded sinks they make up the supply.
-/

namespace GraveYield.Snapshotter

open Machine Checked

/-! ## The data model -/

/-- `ExclusionReason`. -/
inductive ExclusionReason where
  | zeroBalance
  | explicitSink
  deriving DecidableEq

/-- A balance kept out of the leaf set. -/
structure ExcludedBalance where
  owner : Pubkey
  lpBalance : U64
  reason : ExclusionReason
  deriving DecidableEq

/-- A token account of the LP mint. -/
structure TokenAccountSnapshot where
  address : Pubkey
  owner : Pubkey
  amount : U64
  deriving DecidableEq

/-- `MintSupply`. -/
structure MintSupply where
  amount : U64
  slot : U64
  deriving DecidableEq

/-- `CustodyMatchMethod`. -/
inductive CustodyMatchMethod where
  | exactBalanceMatch
  | explicitOverride
  deriving DecidableEq

/-- The account that holds the locked LP. -/
structure CustodyResolution where
  tokenAccount : Pubkey
  owner : Pubkey
  balance : U64
  method : CustodyMatchMethod
  deriving DecidableEq

/-- `LockedReport`. -/
structure LockedReport where
  lockRecordsSeen : ℕ
  totalLocked : U64
  attributions : List HolderEntry
  custody : Option CustodyResolution
  deriving DecidableEq

/-- `Reconciliation`. -/
structure Reconciliation where
  enumeratedTotal : U64
  entriesTotal : U64
  sinkExclusionsTotal : U64
  deriving DecidableEq

/-- `LpSnapshot`. -/
structure LpSnapshot where
  poolAddress : Pubkey
  ammProgramId : Pubkey
  lpMint : Pubkey
  snapshotSlot : U64
  lpTotalSupplyAtSnapshot : U64
  entries : List HolderEntry
  exclusions : List ExcludedBalance
  locked : LockedReport
  reconciliation : Reconciliation
  deriving DecidableEq

/-- A validated lock record. -/
structure TokenLockRecord where
  address : Pubkey
  lockGlobalId : U64
  currentLockedAmount : U64
  lockOwner : Pubkey
  deriving DecidableEq

/-- `SnapshotRequest`. -/
structure SnapshotRequest where
  poolAddress : Pubkey
  ammProgramId : Pubkey
  lpMint : Pubkey
  sinkExclusions : List Pubkey
  custodyOwnerOverrides : List Pubkey

/-- `LpAccountSource`. -/
structure LpAccountSource where
  lpMintSupply : Pubkey → Except SnapshotError MintSupply
  tokenAccounts : Pubkey → Except SnapshotError (List TokenAccountSnapshot)

/-- `LockedLpEvidence`. -/
structure LockedLpEvidence where
  tokenLocks : Pubkey → Pubkey → Except SnapshotError (List TokenLockRecord)

/-! ## The builder -/

/-- Balances by owner, in key order. -/
abbrev Balances := Std.TreeMap Pubkey U64

/-- `to_u64`. -/
def toU64 (value : U128) : Except SnapshotError U64 :=
  okOr (Word.ofNat? 64 value.val) .overflow

/-- The sum of 64-bit amounts in 128 bits. -/
def checkedTotal (amounts : List U64) : Except SnapshotError U128 :=
  amounts.foldlM (fun total a => okOr (total.checkedAdd (a.widen 128 Word.u64_le_u128)) .overflow) 0

/-- Add to an owner's balance, which starts at zero. -/
def addBalance (m : Balances) (owner : Pubkey) (amount : U64) : Except SnapshotError Balances := do
  let sum ← okOr (((m[owner]?).getD 0).checkedAdd amount) .overflow
  return m.insert owner sum

/-- The exclusion pass. -/
structure Exclusions where
  exclusions : List ExcludedBalance
  sinkTotal : U128
  claimable : Balances

/-- One owner of the exclusion pass : nothing, a sink, or claimable. -/
def excludeOwner (sinks : List Pubkey) (s : Exclusions) (e : Pubkey × U64) :
    Except SnapshotError Exclusions := do
  let (owner, amount) := e
  if amount.val = 0 then
    return { s with exclusions := s.exclusions ++ [⟨owner, 0, .zeroBalance⟩] }
  else if owner ∈ sinks then
    let sinkTotal ← okOr (s.sinkTotal.checkedAdd (amount.widen 128 Word.u64_le_u128)) .overflow
    return { s with sinkTotal, exclusions := s.exclusions ++ [⟨owner, amount, .explicitSink⟩] }
  else return { s with claimable := s.claimable.insert owner amount }

/-- The custody account among those that hold exactly the locked total. An override may pick one
of several. -/
def chooseCustody (overrides : List Pubkey) (lockedTotal : U64)
    (candidates : List TokenAccountSnapshot) :
    Except SnapshotError (TokenAccountSnapshot × CustodyMatchMethod) :=
  match candidates with
  | [a] => return (a, .exactBalanceMatch)
  | [] => .error (.custodyNotFound lockedTotal)
  | _ =>
    match candidates.filter fun a => a.owner ∈ overrides with
    | [a] => return (a, .explicitOverride)
    | _ => .error (.custodyAmbiguous lockedTotal candidates.length)

/-- Take the custody owner out of the claimable balances, if anything is locked. -/
def resolveCustody (overrides : List Pubkey) (accounts : List TokenAccountSnapshot)
    (totalLocked : U128) (attributions claimable : Balances) :
    Except SnapshotError (Option CustodyResolution × Balances) := do
  if totalLocked.val = 0 then return (none, claimable)
  else
    let lockedTotal ← toU64 totalLocked
    let (chosen, method) ← chooseCustody overrides lockedTotal
      (accounts.filter fun a => a.amount.val = totalLocked.val)
    require (attributions.contains chosen.owner = false) (.lockOwnerIsCustody chosen.owner)
    require (claimable.contains chosen.owner = true) .custodyExcludedAsSink
    return (some ⟨chosen.address, chosen.owner, chosen.amount, method⟩,
      claimable.erase chosen.owner)

/-- The entries of a map, in its order. -/
def entriesOf (m : Balances) : List HolderEntry :=
  m.toList.map fun e => ⟨e.1, e.2⟩

/-- `SnapshotBuilder::build`. -/
def build (request : SnapshotRequest) (source : LpAccountSource) (locks : LockedLpEvidence) :
    Except SnapshotError LpSnapshot := do
  let supply ← source.lpMintSupply request.lpMint
  let accounts ← source.tokenAccounts request.lpMint
  let enumeratedTotal ← checkedTotal (accounts.map TokenAccountSnapshot.amount)
  if enumeratedTotal.val ≠ supply.amount.val then
    let enumerated ← toU64 enumeratedTotal
    .error (.supplyMismatch supply.amount enumerated)
  else
    let perOwner ← accounts.foldlM (fun m a => addBalance m a.owner a.amount) ∅
    let pass ← perOwner.toList.foldlM (excludeOwner request.sinkExclusions) ⟨[], 0, ∅⟩
    let records ← locks.tokenLocks request.poolAddress request.lpMint
    let records := records.insertionSort fun a b => a.address ≤ b.address
    let totalLocked ← checkedTotal (records.map TokenLockRecord.currentLockedAmount)
    let attributions ← records.foldlM (fun m r => addBalance m r.lockOwner r.currentLockedAmount) ∅
    let (custody, claimable) ← resolveCustody request.custodyOwnerOverrides accounts totalLocked
      attributions pass.claimable
    let claimable ← attributions.toList.foldlM (fun m e => addBalance m e.1 e.2) claimable
    let entries := entriesOf claimable
    let entriesTotal ← checkedTotal (entries.map HolderEntry.lpBalance)
    require (entriesTotal.val + pass.sinkTotal.val = enumeratedTotal.val)
      (.invariantViolated (.closingIdentity entriesTotal pass.sinkTotal enumeratedTotal))
    let lockedTotal ← toU64 totalLocked
    let enumerated ← toU64 enumeratedTotal
    let total ← toU64 entriesTotal
    let sinks ← toU64 pass.sinkTotal
    validateEntries entries
    return {
      poolAddress := request.poolAddress
      ammProgramId := request.ammProgramId
      lpMint := request.lpMint
      snapshotSlot := supply.slot
      lpTotalSupplyAtSnapshot := supply.amount
      entries
      exclusions := pass.exclusions
      locked := ⟨records.length, lockedTotal, entriesOf attributions, custody⟩
      reconciliation := ⟨enumerated, total, sinks⟩ }

/-! ## What a successful build has checked -/

/-- The loop overflows exactly if the sum does not fit. -/
theorem checkedTotal_eq (amounts : List U64) :
    checkedTotal amounts = okOr (Word.ofNat? 128 (amounts.map Fin.val).sum) .overflow := by
  have hfold : ∀ (amounts : List U64) (acc : U128), amounts.foldlM
      (fun total a => okOr (total.checkedAdd (a.widen 128 Word.u64_le_u128))
        SnapshotError.overflow) acc =
        okOr (Word.ofNat? 128 (acc.val + (amounts.map Fin.val).sum)) .overflow := by
    intro amounts
    induction amounts with
    | nil =>
      intro acc
      rw [List.map_nil, List.sum_nil, add_zero, Word.ofNat?_of_lt acc.isLt]
      rfl
    | cons a amounts ih =>
      intro acc
      rw [List.foldlM_cons, List.map_cons, List.sum_cons, ← add_assoc]
      cases hsum : acc.checkedAdd (a.widen 128 Word.u64_le_u128) with
      | some mid =>
        rw [okOr_some, ok_bind, ih, Word.checkedAdd_eq_some.1 hsum, Word.widen_val]
      | none =>
        have hover : Word.ofNat? 128 (acc.val + a.val + (amounts.map Fin.val).sum) = none := by
          have hsum' := Word.ofNat?_eq_none.1 hsum
          rw [Word.widen_val] at hsum'
          exact Word.ofNat?_eq_none.2 (by omega)
        rw [hover]
        rfl
  rw [checkedTotal, hfold]
  simp

/-- A total that was computed is the sum. -/
theorem checkedTotal_ok {amounts : List U64} {total : U128} (h : checkedTotal amounts = .ok total) :
    total.val = (amounts.map Fin.val).sum := by
  rw [checkedTotal_eq, okOr_ok_iff, Word.ofNat?_eq_some] at h
  exact h

/-- The entries of a snapshot are canonical, and do not add up to more than the supply. -/
theorem build_ok {request : SnapshotRequest} {source : LpAccountSource} {locks : LockedLpEvidence}
    {snapshot : LpSnapshot} (h : build request source locks = .ok snapshot) :
    Canonical snapshot.entries ∧
      (snapshot.entries.map fun e => e.lpBalance.val).sum +
        snapshot.reconciliation.sinkExclusionsTotal.val = snapshot.lpTotalSupplyAtSnapshot.val := by
  simp only [build, bind_ok_iff] at h
  obtain ⟨supply, _, accounts, _, enumeratedTotal, _, h⟩ := h
  split_ifs at h with hsupply
  · simp only [bind_ok_iff, reduceCtorEq, and_false, exists_false] at h
  · simp only [bind_ok_iff, require_ok_iff, exists_const, pure_ok_iff, Prod.exists] at h
    obtain ⟨_, _, pass, _, records, _, totalLocked, _, attributions, _, custody, claimable, _,
      merged, _, entriesTotal, hentries, hclose, _, _, _, _, _, _, sinks, hsinks, _, hvalid,
      rfl⟩ := h
    refine ⟨validateEntries_ok_iff.1 hvalid, ?_⟩
    have hs := Word.ofNat?_eq_some.1 (okOr_ok_iff.1 hsinks)
    have htotal := checkedTotal_ok hentries
    rw [List.map_map] at htotal
    rw [hs, ← not_ne_iff.1 hsupply, ← hclose, htotal]
    rfl

/-- Three token accounts of an LP mint, in no order. -/
def threeAccounts : LpAccountSource where
  lpMintSupply _ := .ok ⟨1000, 5⟩
  tokenAccounts _ := .ok [⟨Pubkey.fill 11, Pubkey.fill 2, 300⟩,
    ⟨Pubkey.fill 12, Pubkey.fill 1, 500⟩, ⟨Pubkey.fill 13, Pubkey.fill 3, 200⟩]

/-- The request of the demonstration. -/
def threeRequest : SnapshotRequest :=
  ⟨Pubkey.fill 21, raydiumV4ProgramId, Pubkey.fill 24, [], []⟩

/-- The snapshot of the three accounts, with nothing locked and no sink. -/
def threeSnapshot : LpSnapshot where
  poolAddress := Pubkey.fill 21
  ammProgramId := raydiumV4ProgramId
  lpMint := Pubkey.fill 24
  snapshotSlot := 5
  lpTotalSupplyAtSnapshot := 1000
  entries := SnapshotMerkleTree.threeHolders
  exclusions := []
  locked := ⟨0, 0, [], none⟩
  reconciliation := ⟨1000, 1000, 0⟩

/-- The snapshot of the three accounts. -/
theorem build_threeAccounts :
    build threeRequest threeAccounts ⟨fun _ _ => .ok []⟩ = .ok threeSnapshot := by
  decide +kernel

end GraveYield.Snapshotter
