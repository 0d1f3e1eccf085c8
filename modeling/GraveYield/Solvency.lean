import GraveYield.Lib.ProRata
import GraveYield.World

/-!
# Solvency of the LP holders' vaults

`Solvent` ties the registry, the claim records and the lamports of every settled pool together.
It is preserved by every step (`solvent_step`), whatever root the salvor sealed : the cumulative
check of a claim is what protects the bucket. `claimRecords_exec` and `lamports_exec` are the two
history facts : a claim record is written once, by a claim, and the lamports of a vault go down
only by the amount of the record that the same claim creates.
-/

namespace GraveYield.World

open Machine Checked Vault

variable {rt : Runtime} {w w' : World} {ix : Ix}

/-- Who was paid what from a pool. -/
def claimBook (v : Vault.State) (pool : Pubkey) : ProRata.Book Pubkey :=
  fun holder => (v.claimRecords (pool, holder)).map fun r => r.amountLamports.val

/-- The accounts of a settled pool agree. -/
structure PoolSolvent (w : World) (pool : Pubkey) (registry : PoolRegistry) : Prop where
  recorded : registry.lpHolderPoolClaimedLamports.val = (claimBook w.vault pool).paid
  capped : registry.lpHolderPoolClaimedLamports.val ≤ registry.lpHolderPoolTotalLamports.val
  covered : registry.lpHolderPoolTotalLamports.val - registry.lpHolderPoolClaimedLamports.val ≤
    (w.ledger (.lpHolderPoolVault pool)).lamports

/-- Every settled pool is solvent, and every claim record belongs to a settled pool. -/
structure Solvent (w : World) : Prop where
  pools : ∀ pool registry, w.vault.registries pool = some registry → PoolSolvent w pool registry
  records : ∀ pool holder record, w.vault.claimRecords (pool, holder) = some record →
    ∃ registry, w.vault.registries pool = some registry ∧ record.amountLamports.val =
      ProRata.share registry.lpHolderPoolTotalLamports.val registry.lpTotalSupplyAtSnapshot.val
        record.lpBalanceAtSnapshot.val

theorem solvent_genesis (clock : Clock) (ledger : Ledger) : Solvent (genesis clock ledger) :=
  ⟨fun _ _ h => (nomatch h), fun _ _ _ h => (nomatch h)⟩

/-! ## Preservation -/

theorem claimBook_update (v : Vault.State) (pool holder : Pubkey) (record : ClaimRecord) :
    claimBook { v with
      claimRecords := Function.update v.claimRecords (pool, holder) (some record) } pool =
      Function.update (claimBook v pool) holder (some record.amountLamports.val) := by
  funext h
  by_cases hh : h = holder
  · subst hh
    simp [claimBook]
  · simp [claimBook, hh]

/-- A pool whose accounts kept their values and whose vault was not debited stays solvent. -/
theorem PoolSolvent.of_keeps {pool : Pubkey} {registry : PoolRegistry}
    (h : PoolSolvent w pool registry)
    (hrecords : ∀ holder,
      w'.vault.claimRecords (pool, holder) = w.vault.claimRecords (pool, holder))
    (hkeeps : Ledger.Keeps (.lpHolderPoolVault pool) w.ledger w'.ledger) :
    PoolSolvent w' pool registry := by
  have hbook : claimBook w'.vault pool = claimBook w.vault pool := by
    funext holder
    simp only [claimBook, hrecords]
  exact ⟨by rw [hbook, h.recorded], h.capped, h.covered.trans hkeeps.lamports⟩

theorem solvent_neutral (hs : Solvent w) (h : Neutral w w') : Solvent w' := by
  refine ⟨fun pool registry hr => ?_, fun pool holder record hr => ?_⟩
  · rw [h.registries] at hr
    exact (hs.pools pool registry hr).of_keeps (fun _ => by rw [h.claimRecords]) (h.keeps pool)
  · rw [h.claimRecords] at hr
    rw [h.registries]
    exact hs.records pool holder record hr

/-- A salvage opens an empty bucket and fills it. -/
theorem solvent_salvage {clock : Clock} {cert? : Option Scanner.EligibilityCert}
    {params : SalvagePoolParams} {accounts : SalvageAccounts} {programs : Programs}
    (hs : Solvent w)
    (h : salvagePool rt clock cert? w.vault w.ledger params accounts programs =
      .ok (w'.vault, w'.ledger)) : Solvent w' := by
  obtain ⟨p, s, dust, hpre, _, hcredit, hv⟩ := salvagePool_effect h
  have hrecords : w'.vault.claimRecords = w.vault.claimRecords := by rw [hv]
  have hreg : w'.vault.registries = Function.update w.vault.registries params.poolAddress
    (some (newRegistry clock params accounts.salvor s)) := by rw [hv]
  refine ⟨fun pool registry hr => ?_, fun pool holder record hr => ?_⟩
  · rw [hreg] at hr
    rcases of_update_eq_some hr with ⟨rfl, rfl⟩ | ⟨hp, hr⟩
    · have hempty : ∀ holder, claimBook w'.vault params.poolAddress holder = none := by
        intro holder
        rw [claimBook, hrecords, Option.map_eq_none_iff, Option.eq_none_iff_forall_not_mem]
        intro record hmem
        obtain ⟨registry, hold, _⟩ := hs.records _ _ _ hmem
        rw [hpre.registry] at hold
        cases hold
      refine ⟨(ProRata.Book.paid_eq_zero hempty).symm, Nat.zero_le _, ?_⟩
      exact (Nat.le_add_left _ _).trans hcredit.lamports
    · exact (hs.pools pool registry hr).of_keeps (fun _ => by rw [hrecords])
        (hcredit.others pool hp)
  · rw [hrecords] at hr
    obtain ⟨registry, hold, hamount⟩ := hs.records pool holder record hr
    refine ⟨registry, ?_, hamount⟩
    rw [hreg, Function.update_of_ne, hold]
    rintro rfl
    rw [hpre.registry] at hold
    cases hold

/-- A claim moves the same amount from the vault to the claimed total and to one new record. -/
theorem solvent_claim {clock : Clock} {params : ClaimLpProceedsParams} {lpHolder : Pubkey}
    (hs : Solvent w)
    (h : claimLpProceeds rt clock w.vault w.ledger params lpHolder = .ok (w'.vault, w'.ledger)) :
    Solvent w' := by
  obtain ⟨registry, amount, newClaimed, record, hreg, hnone, hamount, hra, hrb, hv, _, hpaid,
    hframe⟩ := claimLpProceeds_ok h
  obtain ⟨_, _, _, hshare, hnew, hcap⟩ := claimAmount_ok_iff.1 hamount
  have hold := hs.pools _ _ hreg
  have hregs : w'.vault.registries = Function.update w.vault.registries params.poolAddress
    (some { registry with lpHolderPoolClaimedLamports := newClaimed }) := by rw [hv]
  have hrecs : w'.vault.claimRecords = Function.update w.vault.claimRecords
    (params.poolAddress, lpHolder) (some record) := by rw [hv]
  refine ⟨fun pool r hr => ?_, fun pool holder r hr => ?_⟩
  · rw [hregs] at hr
    rcases of_update_eq_some hr with ⟨rfl, rfl⟩ | ⟨hp, hr⟩
    · have hbook : claimBook w'.vault params.poolAddress = Function.update
          (claimBook w.vault params.poolAddress) lpHolder (some amount.val) := by
        rw [hv, ← hra]
        exact claimBook_update w.vault params.poolAddress lpHolder record
      refine ⟨?_, hcap, ?_⟩
      · have hfree : claimBook w.vault params.poolAddress lpHolder = none := by
          simp [claimBook, hnone]
        rw [hbook, ProRata.Book.paid_update hfree, ← hold.recorded]
        exact hnew
      · have hcovered := hold.covered
        simp only
        omega
    · refine (hs.pools pool r hr).of_keeps (fun holder => ?_) (Ledger.Keeps.of_eq ?_)
      · rw [hrecs, Function.update_of_ne (by simp [hp])]
      · exact hframe _ (by simp) (by simp) (by simpa using hp)
  · rw [hrecs] at hr
    rcases of_update_eq_some hr with ⟨hk, rfl⟩ | ⟨_, hr⟩
    · obtain ⟨rfl, rfl⟩ := Prod.mk.inj hk
      refine ⟨_, by rw [hregs, Function.update_self], ?_⟩
      rw [hra, hrb, hshare]
      rfl
    · obtain ⟨r', hr', ha'⟩ := hs.records pool holder r hr
      by_cases hp : pool = params.poolAddress
      · subst hp
        rw [hreg, Option.some.injEq] at hr'
        subst hr'
        exact ⟨{ registry with lpHolderPoolClaimedLamports := newClaimed },
          by rw [hregs, Function.update_self], ha'⟩
      · exact ⟨r', by rw [hregs, Function.update_of_ne hp, hr'], ha'⟩

/-- A sweep touches no account of the LP holders. -/
theorem solvent_sweep {clock : Clock} {pool mint sweeper : Pubkey} (hs : Solvent w)
    (h : sweepDust rt clock w.vault w.ledger pool mint sweeper = .ok (w'.vault, w'.ledger)) :
    Solvent w' := by
  obtain ⟨receipt, _, _, _, hv, hframe⟩ := sweepDust_ok h
  have hregs : w'.vault.registries = w.vault.registries := by rw [hv]
  have hrecs : w'.vault.claimRecords = w.vault.claimRecords := by rw [hv]
  refine ⟨fun pool registry hr => ?_, fun pool holder record hr => ?_⟩
  · rw [hregs] at hr
    exact (hs.pools pool registry hr).of_keeps (fun _ => by rw [hrecs])
      (Ledger.Keeps.of_eq (hframe _ (by simp) (by simp) (by simp)))
  · rw [hrecs] at hr
    rw [hregs]
    exact hs.records pool holder record hr

theorem solvent_step (hs : Solvent w) (h : exec rt w ix = .ok w') : Solvent w' := by
  rcases exec_cases h with hn | ⟨_, _, _, _, hsalvage⟩ | ⟨_, _, _, hclaim⟩ | ⟨_, _, _, _, hsweep⟩
  · exact solvent_neutral hs hn
  · exact solvent_salvage hs hsalvage
  · exact solvent_claim hs hclaim
  · exact solvent_sweep hs hsweep

theorem solvent_run (rt : Runtime) (clock : Clock) (ledger : Ledger) (ixs : List Ix) :
    Solvent (run (exec rt) (genesis clock ledger) ixs) :=
  run_invariant (fun _ _ _ => solvent_step) (solvent_genesis clock ledger) ixs

/-! ## Claim records and lamports along a run -/

/-- A claim record is written by a claim of its holder on its pool, into a free slot, and never
changes. -/
theorem claimRecords_exec (h : exec rt w ix = .ok w') (pool holder : Pubkey) :
    w'.vault.claimRecords (pool, holder) = w.vault.claimRecords (pool, holder) ∨
      w.vault.claimRecords (pool, holder) = none := by
  rcases exec_cases h with hn | ⟨_, _, _, _, hsalvage⟩ | ⟨params, lpHolder, _, hclaim⟩ |
    ⟨_, _, _, _, hsweep⟩
  · exact Or.inl (by rw [hn.claimRecords])
  · obtain ⟨_, _, _, _, _, _, hv⟩ := salvagePool_effect hsalvage
    exact Or.inl (by rw [hv])
  · obtain ⟨_, _, _, record, _, hnone, _, _, _, hv, _⟩ := claimLpProceeds_ok hclaim
    have hrecs : w'.vault.claimRecords = Function.update w.vault.claimRecords
      (params.poolAddress, lpHolder) (some record) := by rw [hv]
    by_cases hk : (pool, holder) = (params.poolAddress, lpHolder)
    · exact Or.inr (hk ▸ hnone)
    · exact Or.inl (by rw [hrecs, Function.update_of_ne hk])
  · obtain ⟨_, _, _, _, hv, _⟩ := sweepDust_ok hsweep
    exact Or.inl (by rw [hv])

theorem claimRecords_run {pool holder : Pubkey} {record : ClaimRecord}
    (h : w.vault.claimRecords (pool, holder) = some record) (ixs : List Ix) :
    (run (exec rt) w ixs).vault.claimRecords (pool, holder) = some record := by
  refine run_invariant
    (I := fun w : World => w.vault.claimRecords (pool, holder) = some record) ?_ h ixs
  intro w ix w' hw hexec
  rcases claimRecords_exec hexec pool holder with heq | hnone
  · rw [heq, hw]
  · rw [hw] at hnone
    cases hnone

/-- The lamports of a vault of the LP holders go down only by a claim on its pool, and by the
amount of the record that this claim creates. -/
theorem lamports_exec (h : exec rt w ix = .ok w') (pool : Pubkey) :
    (w.ledger (.lpHolderPoolVault pool)).lamports ≤
        (w'.ledger (.lpHolderPoolVault pool)).lamports ∨
      ∃ params lpHolder record, ix = .vault (.claimLpProceeds params lpHolder) ∧
        params.poolAddress = pool ∧ w.vault.claimRecords (pool, lpHolder) = none ∧
        w'.vault.claimRecords (pool, lpHolder) = some record ∧
        (w.ledger (.lpHolderPoolVault pool)).lamports =
          (w'.ledger (.lpHolderPoolVault pool)).lamports + record.amountLamports.val := by
  rcases exec_cases h with hn | ⟨params, _, _, _, hsalvage⟩ | ⟨params, lpHolder, hix, hclaim⟩ |
    ⟨_, _, _, _, hsweep⟩
  · exact Or.inl (hn.keeps pool).lamports
  · obtain ⟨_, s, _, _, _, hcredit, _⟩ := salvagePool_effect hsalvage
    by_cases hp : pool = params.poolAddress
    · subst hp
      refine Or.inl (le_trans ?_ ((Nat.le_add_right _ _).trans hcredit.lamports))
      split_ifs <;> omega
    · exact Or.inl (hcredit.others pool hp).lamports
  · obtain ⟨_, _, _, record, _, hnone, _, hra, _, hv, _, hpaid, hframe⟩ :=
      claimLpProceeds_ok hclaim
    by_cases hp : pool = params.poolAddress
    · subst hp
      refine Or.inr ⟨params, lpHolder, record, hix, rfl, hnone, ?_, hra ▸ hpaid⟩
      rw [hv]
      exact Function.update_self _ _ _
    · have heq := hframe (.lpHolderPoolVault pool) (by simp) (by simp) (by simpa using hp)
      exact Or.inl (by rw [heq])
  · obtain ⟨_, _, _, _, _, hframe⟩ := sweepDust_ok hsweep
    have heq := hframe (.lpHolderPoolVault pool) (by simp) (by simp) (by simp)
    exact Or.inl (by rw [heq])

/-- In every run, with any roots and any interleaving : every settled pool's claimed total is the
sum of its claim records, within the bucket and covered by its vault; the vault's lamports go
down only by a claim on the pool, by the amount of the record it creates; and a claim record is
for the rounded share of its balance, stays as it is, and admits no second claim. -/
theorem lpHolderPool_solvent (rt : Runtime) (clock : Clock) (ledger : Ledger) (ixs : List Ix) :
    let w := run (exec rt) (genesis clock ledger) ixs
    (∀ pool registry, w.vault.registries pool = some registry → PoolSolvent w pool registry) ∧
    (∀ pool ix w', exec rt w ix = .ok w' →
      (w.ledger (.lpHolderPoolVault pool)).lamports ≤
        (w'.ledger (.lpHolderPoolVault pool)).lamports ∨
      ∃ params lpHolder record, ix = .vault (.claimLpProceeds params lpHolder) ∧
        params.poolAddress = pool ∧ w.vault.claimRecords (pool, lpHolder) = none ∧
        w'.vault.claimRecords (pool, lpHolder) = some record ∧
        (w.ledger (.lpHolderPoolVault pool)).lamports =
          (w'.ledger (.lpHolderPoolVault pool)).lamports + record.amountLamports.val) ∧
    ∀ pool holder record, w.vault.claimRecords (pool, holder) = some record →
      (∃ registry, w.vault.registries pool = some registry ∧
        record.amountLamports.val = ProRata.share registry.lpHolderPoolTotalLamports.val
          registry.lpTotalSupplyAtSnapshot.val record.lpBalanceAtSnapshot.val) ∧
      (∀ later, (run (exec rt) w later).vault.claimRecords (pool, holder) = some record) ∧
      ∀ params w', params.poolAddress = pool →
        exec rt w (.vault (.claimLpProceeds params holder)) ≠ .ok w' := by
  intro w
  have hs : Solvent w := solvent_run rt clock ledger ixs
  refine ⟨hs.pools, fun pool ix w' h => lamports_exec h pool, fun pool holder record hr => ?_⟩
  refine ⟨hs.records pool holder record hr, claimRecords_run hr, ?_⟩
  rintro params w' rfl h
  obtain ⟨v, l, hclaim, _⟩ := vault_ok_iff.1 h
  obtain ⟨_, _, _, _, _, hnone, _⟩ := claimLpProceeds_ok hclaim
  rw [hr] at hnone
  cases hnone

end GraveYield.World
