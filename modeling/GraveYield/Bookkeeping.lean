import GraveYield.Authority

/-!
# The books of the vault

`Booked` says what the vault's accounts record about each other, beside the lamports that
`Solvent` is about : a registry, a receipt and a claim record carry the seeds of their addresses,
and a pool has its registry and its receipt together, with one amount for the LP holders. It is
an invariant of the world (`booked_run`). `salvaged_of_registry` and `claimed_of_record` read a
run back off these accounts.
-/

namespace GraveYield.World

open Machine Checked Vault

variable {rt : Runtime} {w w' : World} {ix : Ix}

/-- The accounts of the vault belong together. -/
structure Booked (v : Vault.State) : Prop where
  registries : ∀ pool registry, v.registries pool = some registry → registry.poolAddress = pool ∧
    ∃ receipt, v.receipts pool = some receipt ∧
      registry.lpHolderPoolTotalLamports = receipt.lpHolderAmountLamports
  receipts : ∀ pool receipt, v.receipts pool = some receipt → receipt.poolAddress = pool ∧
    ∃ registry, v.registries pool = some registry
  claimRecords : ∀ pool holder record, v.claimRecords (pool, holder) = some record →
    record.poolAddress = pool ∧ record.lpHolder = holder

theorem booked_genesis : Booked Vault.State.genesis :=
  ⟨fun _ _ h => (nomatch h), fun _ _ h => (nomatch h), fun _ _ _ h => (nomatch h)⟩

theorem booked_neutral (hb : Booked w.vault) (h : Neutral w w') : Booked w'.vault := by
  refine ⟨fun pool registry hr => ?_, fun pool receipt hr => ?_, fun pool holder record hr => ?_⟩
  · rw [h.registries] at hr
    rw [h.receipts]
    exact hb.registries pool registry hr
  · rw [h.receipts] at hr
    rw [h.registries]
    exact hb.receipts pool receipt hr
  · rw [h.claimRecords] at hr
    exact hb.claimRecords pool holder record hr

/-- A salvage writes a registry and a receipt, with the same share. -/
theorem booked_salvage {clock : Clock} {cert? : Option Scanner.EligibilityCert}
    {params : SalvagePoolParams} {accounts : SalvageAccounts} {programs : Programs}
    (hb : Booked w.vault)
    (h : salvagePool rt clock cert? w.vault w.ledger params accounts programs =
      .ok (w'.vault, w'.ledger)) : Booked w'.vault := by
  obtain ⟨_, s, dust, _, _, _, hv⟩ := salvagePool_effect h
  have hregs : w'.vault.registries = Function.update w.vault.registries params.poolAddress
    (some (newRegistry clock params accounts.salvor s)) := by rw [hv]
  have hrecs : w'.vault.receipts = Function.update w.vault.receipts params.poolAddress
    (some (newReceipt clock params accounts s dust)) := by rw [hv]
  have hclaims : w'.vault.claimRecords = w.vault.claimRecords := by rw [hv]
  refine ⟨fun pool registry hr => ?_, fun pool receipt hr => ?_, fun pool holder record hr => ?_⟩
  · rw [hregs] at hr
    rcases of_update_eq_some hr with ⟨rfl, rfl⟩ | ⟨hp, hr⟩
    · exact ⟨rfl, _, by rw [hrecs, Function.update_self], rfl⟩
    · rw [hrecs, Function.update_of_ne hp]
      exact hb.registries pool registry hr
  · rw [hrecs] at hr
    rcases of_update_eq_some hr with ⟨rfl, rfl⟩ | ⟨hp, hr⟩
    · exact ⟨rfl, _, by rw [hregs, Function.update_self]⟩
    · rw [hregs, Function.update_of_ne hp]
      exact hb.receipts pool receipt hr
  · rw [hclaims] at hr
    exact hb.claimRecords pool holder record hr

/-- A claim changes the claimed total of its registry, and writes its record. -/
theorem booked_claim {clock : Clock} {params : ClaimLpProceedsParams} {lpHolder : Pubkey}
    (hb : Booked w.vault)
    (h : claimLpProceeds rt clock w.vault w.ledger params lpHolder = .ok (w'.vault, w'.ledger)) :
    Booked w'.vault := by
  obtain ⟨registry, _, newClaimed, _, hreg, _, _, _, _, hv, _⟩ := claimLpProceeds_ok h
  obtain ⟨record, hpool, hholder, hclaims⟩ := claimLpProceeds_record h
  have hregs : w'.vault.registries = Function.update w.vault.registries params.poolAddress
    (some { registry with lpHolderPoolClaimedLamports := newClaimed }) := by rw [hv]
  have hrecs : w'.vault.receipts = w.vault.receipts := by rw [hv]
  refine ⟨fun pool r hr => ?_, fun pool receipt hr => ?_, fun pool holder r hr => ?_⟩
  · rw [hregs] at hr
    rw [hrecs]
    rcases of_update_eq_some hr with ⟨rfl, rfl⟩ | ⟨_, hr⟩
    · exact hb.registries params.poolAddress registry hreg
    · exact hb.registries pool r hr
  · rw [hrecs] at hr
    obtain ⟨hkey, old, hold⟩ := hb.receipts pool receipt hr
    by_cases hp : pool = params.poolAddress
    · subst hp
      exact ⟨hkey, _, by rw [hregs, Function.update_self]⟩
    · exact ⟨hkey, old, by rw [hregs, Function.update_of_ne hp, hold]⟩
  · rw [hclaims] at hr
    rcases of_update_eq_some hr with ⟨hk, rfl⟩ | ⟨_, hr⟩
    · obtain ⟨rfl, rfl⟩ := Prod.mk.inj hk
      exact ⟨hpool, hholder⟩
    · exact hb.claimRecords pool holder r hr

/-- A sweep changes one field of a receipt, which nothing else records. -/
theorem booked_sweep {clock : Clock} {pool mint sweeper : Pubkey} (hb : Booked w.vault)
    (h : sweepDust rt clock w.vault w.ledger pool mint sweeper = .ok (w'.vault, w'.ledger)) :
    Booked w'.vault := by
  obtain ⟨receipt, hreceipt, _, _, hv, _⟩ := sweepDust_ok h
  have hregs : w'.vault.registries = w.vault.registries := by rw [hv]
  have hclaims : w'.vault.claimRecords = w.vault.claimRecords := by rw [hv]
  have hrecs : w'.vault.receipts = Function.update w.vault.receipts pool
    (some { receipt with dustSweptAtTs := clock.unixTimestamp }) := by rw [hv]
  refine ⟨fun q registry hr => ?_, fun q r hr => ?_, fun q holder record hr => ?_⟩
  · rw [hregs] at hr
    obtain ⟨hkey, old, hold, htotal⟩ := hb.registries q registry hr
    by_cases hq : q = pool
    · subst hq
      rw [hreceipt, Option.some.injEq] at hold
      subst hold
      exact ⟨hkey, { receipt with dustSweptAtTs := clock.unixTimestamp },
        by rw [hrecs, Function.update_self], htotal⟩
    · exact ⟨hkey, old, by rw [hrecs, Function.update_of_ne hq, hold], htotal⟩
  · rw [hrecs] at hr
    rw [hregs]
    rcases of_update_eq_some hr with ⟨rfl, rfl⟩ | ⟨_, hr⟩
    · exact hb.receipts q receipt hreceipt
    · exact hb.receipts q r hr
  · rw [hclaims] at hr
    exact hb.claimRecords q holder record hr

theorem booked_step (hb : Booked w.vault) (h : exec rt w ix = .ok w') : Booked w'.vault := by
  rcases exec_cases h with hn | ⟨_, _, _, _, hsalvage⟩ | ⟨_, _, _, hclaim⟩ | ⟨_, _, _, _, hsweep⟩
  · exact booked_neutral hb hn
  · exact booked_salvage hb hsalvage
  · exact booked_claim hb hclaim
  · exact booked_sweep hb hsweep

theorem booked_run (rt : Runtime) (clock : Clock) (ledger : Ledger) (ixs : List Ix) :
    Booked (run (exec rt) (genesis clock ledger) ixs).vault :=
  @run_invariant _ _ _ _ (fun w : World => Booked w.vault) (fun _ _ _ => booked_step)
    (genesis clock ledger) booked_genesis ixs

/-! ## What is recorded was executed -/

section Executed

variable {clock : Clock} {ledger : Ledger} {ixs : List Ix} {pool : Pubkey}

/-- A settled pool was salvaged in the run. -/
theorem salvaged_of_registry {registry : PoolRegistry}
    (h : (run (exec rt) (genesis clock ledger) ixs).vault.registries pool = some registry) :
    ∃ params accounts programs, .vault (.salvagePool params accounts programs) ∈ ixs ∧
      params.poolAddress = pool := by
  obtain ⟨pre, ix, post, w', rfl, hn, hexec, hw', _⟩ :=
    exists_establishing (exec rt)
      (P := fun w : World => (w.vault.registries pool).isSome = true)
      (s := genesis clock ledger) (fun h => nomatch h) (by rw [h]; rfl)
  rcases poolAccounts_exec hexec pool with ⟨h1, _⟩ | ⟨params, accounts, programs, rfl, hpool, _⟩ |
    ⟨_, _, h1, _⟩ | ⟨_, _, _, _, _, h1⟩
  · exact absurd (h1 ▸ hw') hn
  · exact ⟨params, accounts, programs, by simp, hpool⟩
  · exact absurd (by rw [h1]; rfl) hn
  · exact absurd (h1 ▸ hw') hn

/-- A holder with a claim record claimed in the run. -/
theorem claimed_of_record {holder : Pubkey} {record : ClaimRecord}
    (h : (run (exec rt) (genesis clock ledger) ixs).vault.claimRecords (pool, holder) =
      some record) :
    ∃ params, .vault (.claimLpProceeds params holder) ∈ ixs ∧ params.poolAddress = pool := by
  obtain ⟨pre, ix, post, w', rfl, hn, hexec, hw', _⟩ :=
    exists_establishing (exec rt)
      (P := fun w : World => w.vault.claimRecords (pool, holder) = some record)
      (s := genesis clock ledger) (fun h => nomatch h) h
  rcases exec_cases hexec with hneutral | ⟨_, _, _, _, hsalvage⟩ |
    ⟨params, lpHolder, rfl, hclaim⟩ | ⟨_, _, _, _, hsweep⟩
  · exact absurd (hneutral.claimRecords ▸ hw') hn
  · obtain ⟨_, _, _, _, _, _, hv⟩ := salvagePool_effect hsalvage
    exact absurd (by rw [← hw', hv]) hn
  · obtain ⟨_, _, _, hclaims⟩ := claimLpProceeds_record hclaim
    rw [hclaims] at hw'
    rcases of_update_eq_some hw' with ⟨hk, _⟩ | ⟨_, hw'⟩
    · obtain ⟨rfl, rfl⟩ := Prod.mk.inj hk
      exact ⟨params, by simp, rfl⟩
    · exact absurd hw' hn
  · obtain ⟨_, _, _, _, hv, _⟩ := sweepDust_ok hsweep
    exact absurd (by rw [← hw', hv]) hn

end Executed

end GraveYield.World
