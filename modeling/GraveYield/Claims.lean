import GraveYield.Lib.ProRata
import GraveYield.Lib.Run
import GraveYield.Salvage
import GraveYield.Snapshot

/-!
# Claims against a snapshot

From the snapshotter to the payouts. `claimAll` is a sequence of claims against one registry, with
the checks and the update of `claim_lp_proceeds`; the handler itself, run over the same claims,
moves its registry in the same way (`claimAll_of_batch`). `honestClaim` is what the holder of an
entry submits : the balance of the entry and the proof of the tree.

A sequence of claims with valid proofs is refused nowhere if its shares fit in the bucket
(`claimAll_ok`), and rounding down makes the shares of any of the entries fit, in any order
(`honestClaims_paid`).
-/

namespace GraveYield

open Machine Checked

namespace Vault

variable {sha256 : List Byte → Hash}

/-! ## Claims in sequence -/

/-- The claims in order, and what each is paid. -/
def claimAll (sha256 : List Byte → Hash) :
    PoolRegistry → List (ClaimLpProceedsParams × Pubkey) →
      Except ProgramError (PoolRegistry × List U64)
  | registry, [] => return (registry, [])
  | registry, (params, lpHolder) :: claims => do
    let (amount, newClaimed) ← claimAmount sha256 registry params lpHolder
    let (registry, payouts) ←
      claimAll sha256 { registry with lpHolderPoolClaimedLamports := newClaimed } claims
    return (registry, amount :: payouts)

theorem claimAll_cons_ok_iff {registry registry' : PoolRegistry} {params : ClaimLpProceedsParams}
    {lpHolder : Pubkey} {claims : List (ClaimLpProceedsParams × Pubkey)} {payouts : List U64} :
    claimAll sha256 registry ((params, lpHolder) :: claims) = .ok (registry', payouts) ↔
      ∃ amount newClaimed rest, claimAmount sha256 registry params lpHolder =
          .ok (amount, newClaimed) ∧
        claimAll sha256 { registry with lpHolderPoolClaimedLamports := newClaimed } claims =
          .ok (registry', rest) ∧ payouts = amount :: rest := by
  simp only [claimAll, bind_ok_iff, pure_ok_iff, Prod.exists, Prod.mk.injEq]
  constructor
  · rintro ⟨amount, newClaimed, h1, _, rest, h2, rfl, rfl⟩
    exact ⟨amount, newClaimed, rest, h1, h2, rfl⟩
  · rintro ⟨amount, newClaimed, rest, h1, h2, rfl⟩
    exact ⟨amount, newClaimed, h1, registry', rest, h2, rfl, rfl⟩

/-- The handler, run over claims of one pool, moves the registry as `claimAll` does. -/
theorem claimAll_of_batch {rt : Runtime} {pool : Pubkey} {s s' : State × Ledger}
    {claims : List (Clock × ClaimLpProceedsParams × Pubkey)}
    (h : batch (fun s c => claimLpProceeds rt c.1 s.1 s.2 c.2.1 c.2.2) s claims = .ok s')
    (hpool : ∀ c ∈ claims, c.2.1.poolAddress = pool) {registry : PoolRegistry}
    (hr : s.1.registries pool = some registry) :
    ∃ registry' payouts, claimAll rt.sha256 registry (claims.map Prod.snd) =
      .ok (registry', payouts) ∧ s'.1.registries pool = some registry' := by
  induction claims generalizing s registry with
  | nil =>
    obtain rfl := Except.ok.inj h
    exact ⟨registry, [], rfl, hr⟩
  | cons c claims ih =>
    obtain ⟨t, ht, h⟩ := batch_cons_ok_iff.1 h
    obtain ⟨registry₁, amount, newClaimed, record, h1, _, h2, _, _, hv, _⟩ := claimLpProceeds_ok ht
    have hc : c.2.1.poolAddress = pool := hpool c List.mem_cons_self
    rw [hc, hr, Option.some.injEq] at h1
    subst h1
    have hreg : t.1.registries pool =
        some { registry with lpHolderPoolClaimedLamports := newClaimed } := by
      rw [hv, hc]
      exact Function.update_self _ _ _
    obtain ⟨registry', payouts, h3, h4⟩ :=
      ih h (fun c' hc' => hpool c' (List.mem_cons_of_mem c hc')) hreg
    exact ⟨registry', amount :: payouts, claimAll_cons_ok_iff.2 ⟨amount, newClaimed, payouts, h2,
      h3, rfl⟩, h4⟩

/-- The share of a claim in the bucket of a registry. -/
def claimShare (registry : PoolRegistry) (lpBalance : U64) : ℕ :=
  ProRata.share registry.lpHolderPoolTotalLamports.val registry.lpTotalSupplyAtSnapshot.val
    lpBalance.val

/-- A claim of a balance with a valid proof, which no claim of its sequence can spoil : the
root and the supply of the registry do not change. -/
structure ValidClaim (sha256 : List Byte → Hash) (registry : PoolRegistry)
    (claim : ClaimLpProceedsParams × Pubkey) : Prop where
  balance : 0 < claim.1.lpBalanceAtSnapshot.val
  proof : verifyProof sha256 registry.lpSnapshotMerkleRoot
    (computeLeaf sha256 claim.2 claim.1.lpBalanceAtSnapshot) claim.1.merkleProof = true

/-- Valid claims whose shares fit in what is left of the bucket are all paid, each its share. -/
theorem claimAll_ok (sha256 : List Byte → Hash) (registry : PoolRegistry)
    (claims : List (ClaimLpProceedsParams × Pubkey))
    (hsupply : 0 < registry.lpTotalSupplyAtSnapshot.val)
    (hvalid : ∀ c ∈ claims, ValidClaim sha256 registry c)
    (hcap : registry.lpHolderPoolClaimedLamports.val +
      (claims.map fun c => claimShare registry c.1.lpBalanceAtSnapshot).sum ≤
        registry.lpHolderPoolTotalLamports.val) :
    ∃ claimed payouts, claimAll sha256 registry claims =
        .ok ({ registry with lpHolderPoolClaimedLamports := claimed }, payouts) ∧
      payouts.map Fin.val = (claims.map fun c => claimShare registry c.1.lpBalanceAtSnapshot) ∧
      claimed.val = registry.lpHolderPoolClaimedLamports.val +
        (claims.map fun c => claimShare registry c.1.lpBalanceAtSnapshot).sum := by
  induction claims generalizing registry with
  | nil => exact ⟨registry.lpHolderPoolClaimedLamports, [], rfl, rfl, rfl⟩
  | cons c claims ih =>
    obtain ⟨params, lpHolder⟩ := c
    simp only [List.map_cons, List.sum_cons] at hcap
    have hbound := registry.lpHolderPoolTotalLamports.isLt
    let amount : U64 := ⟨claimShare registry params.lpBalanceAtSnapshot, by omega⟩
    let newClaimed : U64 := ⟨registry.lpHolderPoolClaimedLamports.val + amount.val, by
      simp only [amount]
      omega⟩
    have hstep : claimAmount sha256 registry params lpHolder = .ok (amount, newClaimed) := by
      have hv := hvalid (params, lpHolder) List.mem_cons_self
      refine claimAmount_ok_iff.2 ⟨hv.balance, hsupply, hv.proof, rfl, rfl, ?_⟩
      simp only [newClaimed, amount]
      omega
    obtain ⟨claimed, payouts, h1, h2, h3⟩ :=
      @ih { registry with lpHolderPoolClaimedLamports := newClaimed } hsupply
        (fun c hc => ⟨(hvalid c (List.mem_cons_of_mem _ hc)).balance,
          (hvalid c (List.mem_cons_of_mem _ hc)).proof⟩)
        (by simp only [newClaimed, amount]; exact (Nat.add_assoc _ _ _).trans_le hcap)
    refine ⟨claimed, amount :: payouts,
      claimAll_cons_ok_iff.2 ⟨amount, newClaimed, payouts, hstep, h1, rfl⟩, ?_, ?_⟩
    · rw [List.map_cons, List.map_cons, h2]
      rfl
    · rw [h3, List.map_cons, List.sum_cons, ← Nat.add_assoc]
      rfl

end Vault

/-! ## Claims of the entries -/

namespace Snapshotter

variable {sha256 : List Byte → Hash} {snapshot : LpSnapshot} {t : SnapshotMerkleTree}

/-- What the holder of an entry submits. -/
def honestClaim (snapshot : LpSnapshot) (t : SnapshotMerkleTree)
    (i : Fin snapshot.entries.length) : Vault.ClaimLpProceedsParams × Pubkey :=
  (⟨snapshot.poolAddress, (snapshot.entries.get i).lpBalance, (t.proof i).getD []⟩,
    (snapshot.entries.get i).owner)

/-- The balances of some of the entries. -/
theorem sum_entries_eq (snapshot : LpSnapshot) :
    ∑ i, (snapshot.entries.get i).lpBalance.val =
      (snapshot.entries.map fun e => e.lpBalance.val).sum := by
  rw [← List.sum_ofFn]
  congr 1
  exact List.ofFn_getElem_eq_map snapshot.entries fun e => e.lpBalance.val

theorem sum_order_le (order : List (Fin snapshot.entries.length)) :
    ∑ i ∈ order.toFinset, (snapshot.entries.get i).lpBalance.val ≤
      (snapshot.entries.map fun e => e.lpBalance.val).sum := by
  rw [← sum_entries_eq]
  exact Finset.sum_le_univ_sum_of_nonneg fun _ => Nat.zero_le _

/-- The claims of entries of a canonical snapshot are all paid, in any order, while the shares fit
in the bucket. -/
theorem claimAll_honest {root : Hash} (hc : Canonical snapshot.entries)
    (ht : SnapshotMerkleTree.fromEntries sha256 snapshot.entries = .ok t)
    (hroot : t.root = some root) (hpos : 0 < snapshot.lpTotalSupplyAtSnapshot.val)
    (clock : Clock) {params : Vault.SalvagePoolParams} (salvor : Pubkey) (s : Vault.Settlement)
    (hr : params.lpSnapshotMerkleRoot = root)
    (hs : params.lpTotalSupplyAtSnapshot = snapshot.lpTotalSupplyAtSnapshot)
    {order : List (Fin snapshot.entries.length)}
    (hfit : (order.map fun i => ProRata.share s.lpHolderShare.val
      snapshot.lpTotalSupplyAtSnapshot.val (snapshot.entries.get i).lpBalance.val).sum ≤
        s.lpHolderShare.val) :
    ∃ claimed payouts, Vault.claimAll sha256 (Vault.newRegistry clock params salvor s)
        (order.map (honestClaim snapshot t)) =
          .ok ({ Vault.newRegistry clock params salvor s with
            lpHolderPoolClaimedLamports := claimed }, payouts) ∧
      payouts.map Fin.val = (order.map fun i => ProRata.share s.lpHolderShare.val
        snapshot.lpTotalSupplyAtSnapshot.val (snapshot.entries.get i).lpBalance.val) ∧
      claimed.val = (payouts.map Fin.val).sum := by
  have hshares : ((order.map (honestClaim snapshot t)).map fun c =>
      Vault.claimShare (Vault.newRegistry clock params salvor s) c.1.lpBalanceAtSnapshot) =
        order.map fun i => ProRata.share s.lpHolderShare.val snapshot.lpTotalSupplyAtSnapshot.val
          (snapshot.entries.get i).lpBalance.val := by
    rw [List.map_map, ← hs]
    rfl
  have hzero : (Vault.newRegistry clock params salvor s).lpHolderPoolClaimedLamports.val = 0 := rfl
  have hvalid : ∀ c ∈ order.map (honestClaim snapshot t),
      Vault.ValidClaim sha256 (Vault.newRegistry clock params salvor s) c := by
    intro c hcm
    obtain ⟨i, _, rfl⟩ := List.mem_map.1 hcm
    obtain ⟨proof, hp, hv⟩ := SnapshotMerkleTree.exists_verifyProof ht hroot i.isLt
    refine ⟨hc.pos _ (List.get_mem _ i), ?_⟩
    simp only [honestClaim, hp, Vault.newRegistry, hr]
    exact hv
  obtain ⟨claimed, payouts, hok, hpay, hclaimed⟩ := Vault.claimAll_ok sha256
    (Vault.newRegistry clock params salvor s) (order.map (honestClaim snapshot t))
    (by rw [← hs] at hpos; exact hpos) hvalid
    (by rw [hshares]; simpa [Vault.newRegistry] using hfit)
  rw [hshares] at hpay hclaimed
  rw [hzero, Nat.zero_add, ← hpay] at hclaimed
  exact ⟨claimed, payouts, hok, hpay, hclaimed⟩

/-- Every honest claimant is paid, in any order. -/
theorem honestClaims_paid (sha256 : List Byte → Hash) (request : SnapshotRequest)
    (source : LpAccountSource) (locks : LockedLpEvidence) (snapshot : LpSnapshot)
    (h : build request source locks = .ok snapshot) :
    ∃ t root, SnapshotMerkleTree.fromEntries sha256 snapshot.entries = .ok t ∧
      t.root = some root ∧ (∀ i, i < snapshot.entries.length → (t.proof i).isSome) ∧
      ∀ (clock : Clock) (params : Vault.SalvagePoolParams) (salvor : Pubkey)
        (s : Vault.Settlement), params.lpSnapshotMerkleRoot = root →
        params.lpTotalSupplyAtSnapshot = snapshot.lpTotalSupplyAtSnapshot →
        ∀ order : List (Fin snapshot.entries.length), order.Nodup →
          ∃ claimed payouts, Vault.claimAll sha256 (Vault.newRegistry clock params salvor s)
              (order.map (honestClaim snapshot t)) =
                .ok ({ Vault.newRegistry clock params salvor s with
                  lpHolderPoolClaimedLamports := claimed }, payouts) ∧
            payouts.map Fin.val = (order.map fun i => s.lpHolderShare.val *
              (snapshot.entries.get i).lpBalance.val / snapshot.lpTotalSupplyAtSnapshot.val) ∧
            claimed.val = (payouts.map Fin.val).sum ∧ claimed.val ≤ s.lpHolderShare.val ∧
            ((snapshot.entries.map fun e => e.lpBalance.val).sum =
                snapshot.lpTotalSupplyAtSnapshot.val → order.length = snapshot.entries.length →
              s.lpHolderShare.val - claimed.val ≤ snapshot.entries.length - 1) := by
  obtain ⟨hc, hclose⟩ := build_ok h
  obtain ⟨t, ht⟩ := SnapshotMerkleTree.exists_fromEntries sha256 hc
  obtain ⟨root, hroot⟩ := SnapshotMerkleTree.exists_root ht
  refine ⟨t, root, ht, hroot, fun i hi => ?_, fun clock params salvor s hr hs order hnodup => ?_⟩
  · obtain ⟨proof, hp, _⟩ := SnapshotMerkleTree.exists_verifyProof ht hroot hi
    exact Option.isSome_of_mem hp
  have hsum : ∀ f : Fin snapshot.entries.length → ℕ,
      (order.map f).sum = ∑ i ∈ order.toFinset, f i :=
    fun f => (List.sum_toFinset f hnodup).symm
  have hpos : 0 < snapshot.lpTotalSupplyAtSnapshot.val := hc.sum_pos.trans_le (by omega)
  have hfit := ProRata.sum_share_le s.lpHolderShare.val hpos
    ((sum_order_le order).trans (by omega))
  rw [← hsum] at hfit
  obtain ⟨claimed, payouts, hok, hpay, hclaimed⟩ :=
    claimAll_honest hc ht hroot hpos clock salvor s hr hs hfit
  refine ⟨claimed, payouts, hok, hpay, hclaimed, by rwa [hclaimed, hpay], fun hall hlen => ?_⟩
  -- every entry has claimed, so rounding leaves less than one unit for each
  have huniv : order.toFinset = Finset.univ := by
    apply Finset.eq_univ_of_card
    rw [List.toFinset_card_of_nodup hnodup, hlen, Fintype.card_fin]
  have hlt := ProRata.total_lt_sum_share_add s.lpHolderShare.val hpos
    ((sum_entries_eq snapshot).trans hall)
  rw [hclaimed, hpay, hsum, huniv]
  rw [Finset.card_univ, Fintype.card_fin] at hlt
  omega

/-- A salvage that seals a root over the three holders. -/
def threeParams (root : Hash) : Vault.SalvagePoolParams where
  ammProgramId := raydiumV4ProgramId
  poolAddress := Pubkey.fill 21
  lpSnapshotMerkleRoot := root
  lpTotalSupplyAtSnapshot := 1000
  minQuoteOutputLamports := 0
  salvorLpAmount := 1
  jupiterRouteData := []
  maxSlippageBpsOverride := none
  jupiterRouteAccountsLen := 0

/-- The registry of that salvage, with a bucket of 1001 lamports. -/
def threeRegistry (root : Hash) : Vault.PoolRegistry :=
  Vault.newRegistry ⟨1000, 10, 0⟩ (threeParams root) (Pubkey.fill 30) ⟨2503, 1251, 1001, 251⟩

theorem honestClaims_paid_three : ∃ t root,
    SnapshotMerkleTree.fromEntries Machine.sha256 threeSnapshot.entries = .ok t ∧
      t.root = some root ∧ ∃ claimed payouts,
        Vault.claimAll Machine.sha256 (threeRegistry root)
          ([⟨2, by decide⟩, ⟨0, by decide⟩, ⟨1, by decide⟩].map (honestClaim threeSnapshot t)) =
            .ok ({ threeRegistry root with lpHolderPoolClaimedLamports := claimed }, payouts) ∧
        payouts.map Fin.val = [200, 500, 300] ∧ 1001 - claimed.val ≤ 2 := by
  obtain ⟨t, root, ht, hr, _, h⟩ := honestClaims_paid Machine.sha256 _ _ _ _ build_threeAccounts
  obtain ⟨claimed, payouts, h1, h2, _, _, h3⟩ := h ⟨1000, 10, 0⟩ (threeParams root) (Pubkey.fill 30)
    ⟨2503, 1251, 1001, 251⟩ rfl rfl [⟨2, by decide⟩, ⟨0, by decide⟩, ⟨1, by decide⟩] (by decide)
  exact ⟨t, root, ht, hr, claimed, payouts, h1, h2.trans (by decide), h3 (by decide) rfl⟩

end Snapshotter

end GraveYield
