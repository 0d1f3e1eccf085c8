import GraveYield.Exit
import GraveYield.Rpc

/-!
# From the chain to the exit

The snapshot that a pool is settled with is built from the token accounts and the lock records of
the chain. `holders_exit` joins both ends : whoever holds LP in the bank, in token accounts or in
locks, has an entry of just that balance, and can claim its share of the pool.
-/

namespace GraveYield

open Machine Checked Snapshotter SnapshotMerkleTree Vault

namespace World

variable {rt : Runtime}

/-- Whoever has an entry balance has an entry of this balance. -/
theorem exists_entry_of_balance {entries : List HolderEntry} {o : Pubkey}
    (h : 0 < entryBalance entries o) :
    ∃ i : Fin entries.length, (entries.get i).owner = o ∧
      (entries.get i).lpBalance.val = entryBalance entries o := by
  cases hfind : entries.find? fun e => e.owner = o with
  | none =>
    rw [entryBalance, hfind] at h
    exact absurd h (lt_irrefl 0)
  | some e =>
    obtain ⟨i, hi⟩ := List.mem_iff_get.1 (List.mem_of_find?_eq_some hfind)
    have howner : e.owner = o := by simpa using List.find?_some hfind
    refine ⟨i, by rw [hi, howner], ?_⟩
    rw [entryBalance, hfind, hi]
    rfl

/-- The exit of every holder of LP. In every run of both programs and any others, from any ledger
in which the addresses of the vault have no data : if a pool was settled with the root and the
supply of a snapshot that was built over RPC, then whoever holds LP in the bank that was served, in
token accounts or in locks, is no declared sink and does not hold the locked LP for others, can
claim its share of the pool by just what it holds, or one of the claims of the run carries an
explicit collision of two preimages. -/
theorem holders_exit (rt : Runtime) (clock : Clock) (ledger : Ledger)
    (hblank : ∀ a, a.isVaultPda = true → (ledger a).data = .empty) (ixs : List Ix) (b : Bank)
    (client lockClient : RpcClient) (request : SnapshotRequest) (program : Pubkey)
    (hclient : client.Truthful b) (hlocks : lockClient.Complete b)
    (hcoherent : b.Coherent program request.lpMint) {snapshot : LpSnapshot}
    (hbuild : build request (rpcLpAccountSource client program)
      (rpcLockedLpEvidence rt lockClient) = .ok snapshot)
    {t : SnapshotMerkleTree} {root : Hash}
    (ht : fromEntries rt.sha256 snapshot.entries = .ok t) (hroot : t.root = some root)
    {registry : PoolRegistry}
    (hreg : (run (exec rt) (genesis clock ledger) ixs).vault.registries snapshot.poolAddress =
      some registry)
    (hsealed : registry.lpSnapshotMerkleRoot = root)
    (hsupply : registry.lpTotalSupplyAtSnapshot = snapshot.lpTotalSupplyAtSnapshot) :
    ClaimedCollision rt ixs snapshot.entries ∨
      ∀ o, o ∉ request.sinkExclusions → (∀ c ∈ snapshot.locked.custody, o ≠ c.owner) →
        0 < ownerBalance (b.tokenAccounts program request.lpMint) o +
          lockedBalance (b.tokenLocks rt request.poolAddress request.lpMint) o →
        ∃ i : Fin snapshot.entries.length, (snapshot.entries.get i).owner = o ∧
          (snapshot.entries.get i).lpBalance.val =
            ownerBalance (b.tokenAccounts program request.lpMint) o +
              lockedBalance (b.tokenLocks rt request.poolAddress request.lpMint) o ∧
          CanExit rt (run (exec rt) (genesis clock ledger) ixs) snapshot t registry i := by
  obtain ⟨hc, hclose⟩ := build_ok hbuild
  by_cases hcollision : ClaimedCollision rt ixs snapshot.entries
  · exact Or.inl hcollision
  · refine Or.inr fun o hsink hcustody hpos => ?_
    obtain ⟨mint, _, hattributes⟩ := attributes_of_rpc hclient hlocks hcoherent hbuild
    have hbalance := hattributes.balances o hcustody
    rw [if_neg hsink] at hbalance
    obtain ⟨i, howner, hentry⟩ := exists_entry_of_balance (by rwa [hbalance])
    refine ⟨i, howner, hentry.trans hbalance, ?_⟩
    exact canExit_of_mem (unsquatted_run rt clock hblank ixs) (solvent_run rt clock ledger ixs) hc
      (by omega) ht hroot hreg hsealed hsupply (fun _ _ => mem_entries_of_record
        (evidenced_run rt clock ledger ixs) ht hroot hreg hsealed hcollision) i

/-! ## The holders of the demonstration pool -/

/-- A token account of the LP mint, as it is served. -/
def demoAccount (owner : Pubkey) (amount : ℕ) : RpcAccount :=
  ⟨tokenProgramId, demoLpMint.val ++ owner.val ++ leBytes 8 amount ++ List.replicate 93 0⟩

/-- The LP mint, and the accounts of its three holders. -/
def demoBank : Bank where
  slot := 5
  accounts := [(demoLpMint, ⟨tokenProgramId, List.replicate 36 0 ++ leBytes 8 1000 ++
      List.replicate 38 0⟩),
    (Pubkey.fill 33, demoAccount demoHolder 60), (Pubkey.fill 31, demoAccount demoSalvor 900),
    (Pubkey.fill 35, demoAccount (Pubkey.fill 34) 40)]
  nodup := by decide +kernel

theorem coherent_demoBank : demoBank.Coherent tokenProgramId demoRequest.lpMint := by
  have h : demoBank.account? demoRequest.lpMint = some ⟨tokenProgramId,
      List.replicate 36 0 ++ leBytes 8 1000 ++ List.replicate 38 0⟩ := by
    decide +kernel
  intro mint hmint
  obtain rfl := Option.some.inj (h.symm.trans hmint)
  decide +kernel

theorem build_demoBank : build demoRequest
    (rpcLpAccountSource (demoBank.node fun _ => true) tokenProgramId)
    (rpcLockedLpEvidence Scanner.demoRuntime (demoBank.node fun _ => true)) =
      .ok demoSnapshot := by
  decide +kernel

/-- The salvor can claim its nine tenths after the claim of another holder. -/
theorem holders_exit_demo : ∃ t, fromEntries Machine.sha256 demoSnapshot.entries = .ok t ∧
    ∃ i, (demoSnapshot.entries.get i).owner = demoSalvor ∧
      (demoSnapshot.entries.get i).lpBalance = 900 ∧
      CanExit Scanner.demoRuntime (run (exec Scanner.demoRuntime)
        (genesis Scanner.demoClock demoLedger) sharedRun) demoSnapshot t sharedRegistry i := by
  obtain ⟨t, ht⟩ := exists_fromEntries Machine.sha256 (build_ok build_demoBank).1
  have hexit := holders_exit Scanner.demoRuntime Scanner.demoClock demoLedger blank_demoLedger
    sharedRun demoBank _ _ demoRequest tokenProgramId (demoBank.truthful_node _)
    demoBank.complete_node coherent_demoBank build_demoBank ht (root_demoSnapshot ht)
    registered_sharedRun sealed_sharedRegistry supply_sharedRegistry
  have hall := hexit.resolve_left not_claimedCollision_sharedRun
  obtain ⟨i, howner, hbalance, hi⟩ := hall demoSalvor (by decide) (by simp [demoSnapshot])
    (by decide +kernel)
  have hheld : ownerBalance (demoBank.tokenAccounts tokenProgramId demoRequest.lpMint) demoSalvor +
      lockedBalance (demoBank.tokenLocks Scanner.demoRuntime demoRequest.poolAddress
        demoRequest.lpMint) demoSalvor = 900 := by
    decide +kernel
  exact ⟨t, ht, i, howner, Fin.ext (hbalance.trans hheld), hi⟩

end World

end GraveYield
