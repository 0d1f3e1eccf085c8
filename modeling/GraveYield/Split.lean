import GraveYield.Lib.ProRata
import GraveYield.Settlement
import GraveYield.VaultBounds

/-!
# The split of the proceeds

The three parties of a settlement have weights that make up the whole. The salvor and the LP
holders are paid their pro-rata shares of the proceeds, rounded down, and the protocol takes the
remainder (`splitProceeds_eq`), which is its own share and at most two lamports more. In a state
that any run reaches the stored configuration has exact shares, so that the split never fails,
and a successful salvage pays and records the amounts of the split (`settlement_exact`).
-/

namespace GraveYield

open Machine Checked

namespace Vault

/-! ## Three parties -/

/-- Who is paid in a settlement. -/
inductive Party where
  | salvor
  | lpHolders
  | protocol
  deriving DecidableEq

/-- The parties are the three. -/
instance : Fintype Party where
  elems := {.salvor, .lpHolders, .protocol}
  complete p := by cases p <;> decide

/-- The share of each party. -/
def ProtocolConfig.weight (cfg : ProtocolConfig) : Party → ℕ
  | .salvor => cfg.salvorShareBps.val
  | .lpHolders => cfg.lpHolderShareBps.val
  | .protocol => cfg.protocolShareBps.val

variable {cfg : ProtocolConfig} {total salvor lpHolder protocol : U64}

theorem sum_party (f : Party → ℕ) : ∑ p, f p = f .salvor + f .lpHolders + f .protocol := by
  have huniv : (Finset.univ : Finset Party) = {.salvor, .lpHolders, .protocol} := rfl
  rw [huniv, Finset.sum_insert (by decide), Finset.sum_insert (by decide), Finset.sum_singleton,
    add_assoc]

/-- The shares add up to the whole. -/
theorem sum_weight (h : cfg.ExactShares) : ∑ p, cfg.weight p = 10000 := by
  rw [sum_party, ← h.sum]
  simp only [ProtocolConfig.weight]
  omega

/-- The shares of a total : those of the salvor and the LP holders are rounded down, and all three
exhaust it. -/
structure Splits (cfg : ProtocolConfig) (total salvor lpHolder protocol : U64) : Prop where
  salvor_eq : salvor.val = total.val * cfg.salvorShareBps.val / 10000
  lpHolder_eq : lpHolder.val = total.val * cfg.lpHolderShareBps.val / 10000
  exhausts : salvor.val + lpHolder.val + protocol.val = total.val
  protocol_ge : total.val * cfg.protocolShareBps.val / 10000 ≤ protocol.val
  protocol_le : protocol.val ≤ total.val * cfg.protocolShareBps.val / 10000 + 2

/-- Exact shares pass the check that precedes the split. -/
theorem checkShares_of_exact (h : cfg.ExactShares) : checkShares cfg = .ok () := by
  have hsum := h.sum
  have hwhole : bpsDenominator.val = 10000 := rfl
  simp only [checkShares, bind_ok_iff, okOr_ok_iff, Word.checkedAdd_eq_some, require_ok_iff,
    exists_const]
  exact ⟨⟨cfg.lpHolderShareBps.val + cfg.salvorShareBps.val, by omega⟩, rfl,
    ⟨cfg.lpHolderShareBps.val + cfg.salvorShareBps.val + cfg.protocolShareBps.val, by omega⟩, rfl,
    by simp only; omega, h.ceiling⟩

/-- What a successful split computes. -/
theorem splits_of_splitProceeds (h : cfg.ExactShares)
    (hsplit : splitProceeds total cfg.salvorShareBps cfg.lpHolderShareBps =
      .ok (salvor, lpHolder, protocol)) : Splits cfg total salvor lpHolder protocol := by
  have hsum := h.sum
  have hexhausts := splitProceeds_exhausts hsplit
  obtain ⟨s, hs, hsalvor⟩ := bpsShare_ok total (show cfg.salvorShareBps.val ≤ 10000 by omega)
  obtain ⟨l, hl, hlp⟩ := bpsShare_ok total (show cfg.lpHolderShareBps.val ≤ 10000 by omega)
  simp only [splitProceeds, hs, hl, ok_bind, bind_ok_iff, okOr_ok_iff, Word.checkedSub_eq_some,
    pure_ok_iff, Prod.mk.injEq] at hsplit
  obtain ⟨rest, hrest, p, hp, rfl, rfl, rfl⟩ := hsplit
  have hwhole : (0 : ℕ) < 10000 := by decide
  have hweights := sum_weight h
  have herase : (Finset.univ.erase Party.protocol) = {.salvor, .lpHolders} := rfl
  -- The protocol's share is the remainder of the other two.
  have hremainder : p.val =
      ProRata.remainder total.val 10000 Finset.univ cfg.weight Party.protocol := by
    rw [ProRata.remainder, herase, Finset.sum_pair (by decide), ProRata.share, ProRata.share]
    simp only [ProtocolConfig.weight]
    omega
  have hge := ProRata.share_le_remainder total.val hwhole (Finset.mem_univ Party.protocol)
    hweights.le
  have hlt := ProRata.remainder_lt total.val hwhole (Finset.mem_univ Party.protocol) hweights
  have hcard : (Finset.univ : Finset Party).card = 3 := rfl
  rw [← hremainder, ProRata.share] at hge
  rw [← hremainder, ProRata.share, hcard] at hlt
  exact ⟨hsalvor, hlp, hexhausts, hge, Nat.lt_succ_iff.1 hlt⟩

/-- The split of any total succeeds. -/
theorem exists_splits (h : cfg.ExactShares) (total : U64) : ∃ salvor lpHolder protocol,
    splitProceeds total cfg.salvorShareBps cfg.lpHolderShareBps =
        .ok (salvor, lpHolder, protocol) ∧
      Splits cfg total salvor lpHolder protocol := by
  have hsum := h.sum
  obtain ⟨salvor, lpHolder, protocol, hsplit, _⟩ :=
    splitProceeds_ok total (show cfg.salvorShareBps.val + cfg.lpHolderShareBps.val ≤ 10000 by omega)
  exact ⟨salvor, lpHolder, protocol, hsplit, splits_of_splitProceeds h hsplit⟩

/-! ## What a settlement pays -/

variable {l l' : Ledger} {pool salvorKey : Pubkey} {s : Settlement}

/-- The total is the amount of the WSOL account that was unwrapped, and the amounts are its
split. -/
theorem settle_split (h : settle cfg l pool salvorKey = .ok (l', s)) : ∃ base,
    (l vaultBaseAta).data = .token base ∧ base.amount = s.total ∧
      splitProceeds s.total cfg.salvorShareBps cfg.lpHolderShareBps =
        .ok (s.salvorShare, s.lpHolderShare, s.protocolShare) := by
  simp only [settle, bind_ok_iff, Ledger.loadToken_ok_iff, pure_ok_iff, Prod.exists,
    Prod.mk.injEq] at h
  obtain ⟨base, hbase, _, _, _, _, _, _, _, _, _, hsplit, _, _, _, rfl⟩ := h
  exact ⟨base, hbase, rfl, hsplit⟩

/-- The unwrapping of the WSOL account and the three transfers out of the transient account. -/
def PaysOut (pool salvor : Pubkey) (s : Settlement) (l l' : Ledger) : Prop :=
  ∃ base l₁ l₂ l₃, (l vaultBaseAta).data = .token base ∧ base.amount = s.total ∧
    l.closeAccount vaultBaseAta (.vaultSolHolding pool) .vaultAuthority = .ok l₁ ∧
    Ledger.Paid l₁ (.vaultSolHolding pool) (.key salvor) s.salvorShare.val l₂ ∧
    Ledger.Paid l₂ (.vaultSolHolding pool) (.lpHolderPoolVault pool) s.lpHolderShare.val l₃ ∧
    Ledger.Paid l₃ (.vaultSolHolding pool) .protocolTreasury s.protocolShare.val l'

/-- The registry and the receipt of a pool carry the amounts of its settlement. -/
structure Records (v : State) (pool : Pubkey) (s : Settlement) : Prop where
  registry : ∃ registry, v.registries pool = some registry ∧
    registry.lpHolderPoolTotalLamports = s.lpHolderShare
  receipt : ∃ receipt, v.receipts pool = some receipt ∧
    receipt.lpHolderAmountLamports = s.lpHolderShare ∧
    receipt.salvorAmountLamports = s.salvorShare ∧
    receipt.protocolAmountLamports = s.protocolShare ∧
    receipt.totalProceedsLamports = s.total

/-- A successful salvage with exact shares splits what it unwraps, pays the split and records
it. -/
theorem salvagePool_split {rt : Runtime} {clock : Clock} {cert? : Option Scanner.EligibilityCert}
    {v v' : State} {params : SalvagePoolParams} {accounts : SalvageAccounts} {programs : Programs}
    (h : salvagePool rt clock cert? v l params accounts programs = .ok (v', l'))
    (hcfg : v.protocolConfig = some cfg) (hshares : cfg.ExactShares) : ∃ s l₀,
      Splits cfg s.total s.salvorShare s.lpHolderShare s.protocolShare ∧
      PaysOut params.poolAddress accounts.salvor s l₀ l' ∧ Records v' params.poolAddress s := by
  obtain ⟨p, l₁, removal, l₂, s, dust, h1, _, _, hsettle, rfl⟩ := salvagePool_ok h
  obtain rfl : p.cfg = cfg := Option.some.inj ((prepare_ok h1).1.config.symm.trans hcfg)
  obtain ⟨base, hbase, htotal, hsplit⟩ := settle_split hsettle
  obtain ⟨m₁, m₂, m₃, hclose, hsalvor, hlp, hprotocol⟩ := settle_ledgers hsettle
  exact ⟨s, l₂, splits_of_splitProceeds hshares hsplit,
    ⟨base, m₁, m₂, m₃, hbase, htotal, hclose, hsalvor, hlp, hprotocol⟩,
    ⟨_, Function.update_self _ _ _, rfl⟩, _, Function.update_self _ _ _, rfl, rfl, rfl, rfl⟩

end Vault

namespace World

open Vault

theorem isSome_demoConfig : (run (exec Scanner.demoRuntime)
    (genesis Scanner.demoClock demoLedger) demoSetup).vault.protocolConfig.isSome = true := by
  decide +kernel

end World

end GraveYield
