import GraveYield.Bookkeeping
import GraveYield.Claims
import GraveYield.Lib.Tally
import GraveYield.MerkleBinding
import GraveYield.Rent

/-!
# The exit of every holder

Whatever the parties and the other programs do, the holder of an entry of the sealed snapshot can
claim. Nothing stands in the way of its account (`unsquatted_run`) : an address of the vault has
data only where the vault has a record. Nobody else has taken its share : every claim record comes
from a claim of the run whose proof was accepted (`evidenced_run`), so it is for an entry and its
balance, or its proof gives a collision, and the shares of the others leave the share of this one
in the bucket.
-/

namespace GraveYield.World

open Machine Checked Vault
open Scanner (loadAccount_ok_iff initAccount_ok_iff)

variable {rt : Runtime} {w w' : World} {ix : Ix}

/-! ## The addresses of the vault -/

/-- The vault has a record at the address. -/
def hasRecord (v : Vault.State) : Account → Bool
  | .vaultConfig => v.protocolConfig.isSome
  | .poolRegistry pool => (v.registries pool).isSome
  | .salvageReceipt pool => (v.receipts pool).isSome
  | .claimRecord pool holder => (v.claimRecords (pool, holder)).isSome
  | _ => false

/-- An address of the vault without a record has no data. The vault authority is left out : it
signs the routes of salvages. -/
def Unsquatted (w : World) : Prop :=
  ∀ a, a.isVaultPda = true → a ≠ .vaultAuthority → hasRecord w.vault a = false →
    (w.ledger a).data = .empty

/-- An update to something leaves nothing empty. -/
theorem isSome_update {κ α : Type} [DecidableEq κ] {f : κ → Option α} {k k' : κ} (b : α)
    (h : (f k').isSome = true) : (Function.update f k (some b) k').isSome = true := by
  by_cases hk : k' = k
  · rw [hk, Function.update_self]
    rfl
  · rwa [Function.update_of_ne hk]

/-- A call of the vault closes none of its records. -/
theorem hasRecord_execVault {call : Vault.Call} {v : Vault.State} {l : Ledger}
    (h : execVault rt w call = .ok (v, l)) {a : Account} (ha : hasRecord w.vault a = true) :
    hasRecord v a = true := by
  cases call with
  | initializeProtocol params payer =>
    obtain ⟨_, _, cfg, _, rfl⟩ := initializeProtocol_ok h
    cases a with
    | vaultConfig => rfl
    | _ => exact ha
  | updateProtocolConfig params authority =>
    simp only [execVault, bind_ok_iff, pure_ok_iff, Prod.mk.injEq] at h
    obtain ⟨_, h, rfl, rfl⟩ := h
    obtain ⟨_, _, _, _, _, rfl⟩ := updateProtocolConfig_ok h
    cases a with
    | vaultConfig => rfl
    | _ => exact ha
  | emergencyPause paused authority =>
    simp only [execVault, bind_ok_iff, pure_ok_iff, Prod.mk.injEq] at h
    obtain ⟨_, h, rfl, rfl⟩ := h
    obtain ⟨_, _, _, _, rfl⟩ := emergencyPause_ok h
    cases a with
    | vaultConfig => rfl
    | _ => exact ha
  | salvagePool params accounts programs =>
    obtain ⟨_, _, _, _, _, _, rfl⟩ := salvagePool_effect h
    cases a with
    | poolRegistry pool => exact isSome_update _ ha
    | salvageReceipt pool => exact isSome_update _ ha
    | _ => exact ha
  | claimLpProceeds params lpHolder =>
    obtain ⟨_, _, _, _, _, _, _, _, _, rfl, _⟩ := claimLpProceeds_ok h
    cases a with
    | poolRegistry pool => exact isSome_update _ ha
    | claimRecord pool holder => exact isSome_update _ ha
    | _ => exact ha
  | sweepDust pool mint sweeper =>
    obtain ⟨_, _, _, _, rfl, _⟩ := sweepDust_ok h
    cases a with
    | salvageReceipt pool => exact isSome_update _ ha
    | _ => exact ha

/-- Closing an account changes the data of no other account. -/
theorem closeAccount_data {l l' : Ledger} {account dst authority a : Account}
    (h : l.closeAccount account dst authority = .ok l') (ha : a ≠ account) :
    (l' a).data = (l a).data := by
  obtain ⟨_, _, _, _, _, rfl⟩ := Ledger.closeAccount_ok_iff.1 h
  rw [Function.update_of_ne ha]
  by_cases hd : a = dst
  · subst hd
    rw [Function.update_self, AccountState.credit_data]
  · rw [Function.update_of_ne hd]

/-- What a salvage can have done to the data of an account. -/
theorem salvage_data {clock : Clock} {cert? : Option Scanner.EligibilityCert} {v v' : Vault.State}
    {l l' : Ledger} {params : SalvagePoolParams} {accounts : SalvageAccounts} {programs : Programs}
    (h : salvagePool rt clock cert? v l params accounts programs = .ok (v', l')) {a : Account}
    (ha : a.isVaultPda = true) (hne : a ≠ .vaultAuthority)
    (hreg : a ≠ .poolRegistry params.poolAddress) (hrec : a ≠ .salvageReceipt params.poolAddress) :
    (l' a).data = (l a).data := by
  obtain ⟨p, l₁, removal, l₂, s, dust, h1, h2, h3, h4, _⟩ := salvagePool_ok h
  have hata : ∀ owner mint, a ≠ .ata owner mint := by
    rintro owner mint rfl
    cases ha
  obtain ⟨m₁, m₂, m₃, hclose, hp1, hp2, hp3⟩ := settle_ledgers h4
  obtain ⟨k₁, k₂, hopen, hlp, hsol⟩ := prepare_ledgers h1
  obtain ⟨n₁, n₂, n₃, hn1, hn2, hn3, hn4⟩ := openAccounts_ledgers hopen
  calc (l' a).data = (l₂ a).data := by
        rw [hp3.data, hp2.data, hp1.data, closeAccount_data hclose (hata _ _)]
    _ = (l₁ a).data := (swapLeg_keeps h3 (prepare_ok h1).1.unsigned ha hne).data
    _ = (p.ledger a).data := (dispatchRemoveLiquidity_keeps h2 ha).data
    _ = (k₁ a).data := by
        rw [Ledger.lazyInitSystemPda_data hsol, Ledger.lazyInitSystemPda_data hlp]
    _ = (l a).data := by
        rw [Ledger.initAtaIfNeeded_data hn4 (hata _ _), Ledger.initAtaIfNeeded_data hn3 (hata _ _),
          Ledger.initRecord_data hn2 hrec, Ledger.initRecord_data hn1 hreg]

/-- A call of the vault gives data to an address of the vault only with a record. -/
theorem data_execVault {call : Vault.Call} {v : Vault.State} {l : Ledger}
    (h : execVault rt w call = .ok (v, l)) {a : Account} (ha : a.isVaultPda = true)
    (hne : a ≠ .vaultAuthority) (hfree : hasRecord v a = false)
    (hempty : (w.ledger a).data = .empty) : (l a).data = .empty := by
  have hkey : ∀ k, a ≠ .key k := by
    rintro k rfl
    cases ha
  have hata : ∀ owner mint, a ≠ .ata owner mint := by
    rintro owner mint rfl
    cases ha
  cases call with
  | initializeProtocol params payer =>
    obtain ⟨_, hl, _, _, rfl⟩ := initializeProtocol_ok h
    rw [Ledger.initRecord_data hl, hempty]
    rintro rfl
    cases hfree
  | updateProtocolConfig params authority =>
    simp only [execVault, bind_ok_iff, pure_ok_iff, Prod.mk.injEq] at h
    obtain ⟨_, _, _, rfl⟩ := h
    exact hempty
  | emergencyPause paused authority =>
    simp only [execVault, bind_ok_iff, pure_ok_iff, Prod.mk.injEq] at h
    obtain ⟨_, _, _, rfl⟩ := h
    exact hempty
  | salvagePool params accounts programs =>
    obtain ⟨_, _, _, _, _, _, rfl⟩ := salvagePool_effect h
    rw [salvage_data h ha hne, hempty]
    · rintro rfl
      simp [hasRecord] at hfree
    · rintro rfl
      simp [hasRecord] at hfree
  | claimLpProceeds params lpHolder =>
    obtain ⟨_, _, _, _, _, _, _, _, _, rfl, hdata, _, hframe⟩ := claimLpProceeds_ok h
    by_cases hv : a = .lpHolderPoolVault params.poolAddress
    · rw [hv, hdata]
    · rw [hframe a (hkey _) ?_ hv, hempty]
      rintro rfl
      simp [hasRecord] at hfree
  | sweepDust pool mint sweeper =>
    obtain ⟨_, _, _, _, _, hframe⟩ := sweepDust_ok h
    rw [hframe a (hkey _) (hata _ _) (hata _ _), hempty]

/-- Every instruction leaves the addresses of the vault to the vault. -/
theorem unsquatted_step (hu : Unsquatted w) (h : exec rt w ix = .ok w') : Unsquatted w' := by
  intro a ha hne hfree
  cases ix with
  | scanner call =>
    obtain ⟨s, _, rfl⟩ := scanner_ok_iff.1 h
    exact hu a ha hne hfree
  | vault call =>
    obtain ⟨v, l, hcall, rfl⟩ := vault_ok_iff.1 h
    refine data_execVault hcall ha hne hfree (hu a ha hne ?_)
    rw [← Bool.not_eq_true]
    intro hold
    simp only [hasRecord_execVault hcall hold, Bool.true_eq_false] at hfree
  | systemTransfer src dst amount =>
    obtain ⟨l, ht, rfl⟩ := systemTransfer_ok_iff.1 h
    rw [Ledger.transfer_data ht, hu a ha hne hfree]
  | external program metas data =>
    obtain ⟨hs, l, hcall, rfl⟩ := external_ok_iff.1 h
    rw [(program.custody hcall a ha (not_signs_external hs ha)).data, hu a ha hne hfree]

/-- Nobody can put data at an address of the vault before the vault does. -/
theorem unsquatted_run (rt : Runtime) (clock : Clock) {ledger : Ledger}
    (hblank : ∀ a, a.isVaultPda = true → (ledger a).data = .empty) (ixs : List Ix) :
    Unsquatted (run (exec rt) (genesis clock ledger) ixs) :=
  run_invariant (fun _ _ _ => unsquatted_step) (s := genesis clock ledger)
    (fun a ha _ _ => hblank a ha) ixs

/-! ## The claims behind the records -/

/-- Every claim record comes from one of `ixs`, with an accepted proof of its balance. -/
def Evidenced (rt : Runtime) (ixs : List Ix) (w : World) : Prop :=
  ∀ pool holder record, w.vault.claimRecords (pool, holder) = some record →
    ∃ params registry, .vault (.claimLpProceeds params holder) ∈ ixs ∧
      params.poolAddress = pool ∧ params.lpBalanceAtSnapshot = record.lpBalanceAtSnapshot ∧
      w.vault.registries pool = some registry ∧
      verifyProof rt.sha256 registry.lpSnapshotMerkleRoot
        (computeLeaf rt.sha256 holder params.lpBalanceAtSnapshot) params.merkleProof = true

/-- Every record of the next state has a claim behind it. -/
theorem evidenced_step {ixs : List Ix} (he : Evidenced rt ixs w) (hix : ix ∈ ixs)
    (h : exec rt w ix = .ok w') : Evidenced rt ixs w' := by
  -- the root of a settled pool stays as it is, so an accepted proof stays accepted
  have hkept : ∀ pool holder record, w.vault.claimRecords (pool, holder) = some record →
      ∃ params registry, .vault (.claimLpProceeds params holder) ∈ ixs ∧
        params.poolAddress = pool ∧ params.lpBalanceAtSnapshot = record.lpBalanceAtSnapshot ∧
        w'.vault.registries pool = some registry ∧
        verifyProof rt.sha256 registry.lpSnapshotMerkleRoot
          (computeLeaf rt.sha256 holder params.lpBalanceAtSnapshot) params.merkleProof = true := by
    intro pool holder record hr
    obtain ⟨params, registry, hmem, hpool, hbalance, hreg, hproof⟩ := he pool holder record hr
    obtain ⟨_, hreg', _⟩ := (evolved_step h pool).registry registry hreg
    exact ⟨params, _, hmem, hpool, hbalance, hreg', hproof⟩
  intro pool holder record hr
  rcases claimRecords_exec h pool holder with heq | hnone
  · exact hkept pool holder record (heq ▸ hr)
  rcases exec_cases h with hn | ⟨_, _, _, _, hsalvage⟩ | ⟨params, lpHolder, rfl, hclaim⟩ |
    ⟨_, _, _, _, hsweep⟩
  · rw [hn.claimRecords, hnone] at hr
    cases hr
  · obtain ⟨_, _, _, _, _, _, hv⟩ := salvagePool_effect hsalvage
    rw [hv, hnone] at hr
    cases hr
  · obtain ⟨registry, amount, newClaimed, record', hreg, _, hamount, _, hbalance, hv, _⟩ :=
      claimLpProceeds_ok hclaim
    have hrecs : w'.vault.claimRecords = Function.update w.vault.claimRecords
      (params.poolAddress, lpHolder) (some record') := by rw [hv]
    obtain ⟨_, hreg', _⟩ := (evolved_step h params.poolAddress).registry registry hreg
    rw [hrecs] at hr
    rcases of_update_eq_some hr with ⟨hk, rfl⟩ | ⟨_, hold⟩
    · obtain ⟨rfl, rfl⟩ := Prod.mk.inj hk
      obtain ⟨_, _, hproof, _⟩ := claimAmount_ok_iff.1 hamount
      exact ⟨params, _, hix, rfl, hbalance.symm, hreg', hproof⟩
    · rw [hnone] at hold
      cases hold
  · obtain ⟨_, _, _, _, hv, _⟩ := sweepDust_ok hsweep
    rw [hv, hnone] at hr
    cases hr

/-- Every record of a run has a claim of the run behind it. -/
theorem evidenced_run (rt : Runtime) (clock : Clock) (ledger : Ledger) (ixs : List Ix) :
    Evidenced rt ixs (run (exec rt) (genesis clock ledger) ixs) :=
  run_invariant_of_along (C := fun _ ix => ix ∈ ixs) (s := genesis clock ledger)
    (fun _ _ _ => evidenced_step) (fun _ _ _ h => nomatch h)
    (alongRun_of_forall fun _ _ hi => hi)

/-! ## A claim that must succeed -/

/-- The rent of a claim record, over what its address holds already. -/
def recordRent (rt : Runtime) (w : World) (pool holder : Pubkey) : ℕ :=
  (rt.rentMinimumBalance ClaimRecord.size).val - (w.ledger (.claimRecord pool holder)).lamports

/-- The holder is a system account that can pay for its claim record. -/
structure CanOpenRecord (rt : Runtime) (w : World) (pool holder : Pubkey) : Prop where
  system : (w.ledger (.key holder)).data = .empty
  funded : recordRent rt w pool holder ≤ (w.ledger (.key holder)).lamports

/-- What a claim of `amount` for `balance` left behind. -/
structure PaidClaim (rt : Runtime) (w : World) (pool holder : Pubkey) (balance : U64)
    (amount : ℕ) (w' : World) : Prop where
  record : ∃ r, w'.vault.claimRecords (pool, holder) = some r ∧ r.amountLamports.val = amount ∧
    r.lpBalanceAtSnapshot = balance
  credited : (w'.ledger (.key holder)).lamports + recordRent rt w pool holder =
    (w.ledger (.key holder)).lamports + amount
  debited : (w.ledger (.lpHolderPoolVault pool)).lamports =
    (w'.ledger (.lpHolderPoolVault pool)).lamports + amount
  opened : (w'.ledger (.claimRecord pool holder)).data = .record ClaimRecord.size ∧
    (rt.rentMinimumBalance ClaimRecord.size).val ≤
      (w'.ledger (.claimRecord pool holder)).lamports
  system : (w'.ledger (.key holder)).data = .empty ∧
    (w'.ledger (.lpHolderPoolVault pool)).data = .empty

/-- A record is created where its address has no data and its payer has the rent. -/
theorem initRecord_eq_ok {l : Ledger} {payer pda : Account} {size : ℕ}
    (hpda : (l pda).data = .empty) (hpayer : (l payer).data = .empty)
    (hfunded : (rt.rentMinimumBalance size).val - (l pda).lamports ≤ (l payer).lamports)
    (hne : payer ≠ pda) : ∃ l', l.initRecord rt payer pda size = .ok l' ∧
      l' payer = .system
        ((l payer).lamports - ((rt.rentMinimumBalance size).val - (l pda).lamports)) ∧
      (l' pda).data = .record size ∧ (rt.rentMinimumBalance size).val ≤ (l' pda).lamports := by
  refine ⟨_, bind_ok_iff.2 ⟨(), require_ok_iff.2 hpda, bind_ok_iff.2
    ⟨_, Ledger.transfer_ok_iff.2 ⟨hpayer, hfunded, rfl⟩, rfl⟩⟩, ?_, ?_, ?_⟩
  · rw [Function.update_of_ne hne, Ledger.move_src _ hne]
  · rw [Function.update_self]
  · rw [Function.update_self, Ledger.move_dst _ hne, AccountState.credit_lamports]
    simp only [AccountState.lamports, AccountData.wrapped]
    omega

/-- A payment out of an account without data succeeds where it has the lamports. -/
theorem pay_eq_ok {l : Ledger} {src : Account} (dst : Account) {amount : ℕ}
    (hsrc : (l src).data = .empty) (hle : amount ≤ (l src).lamports) :
    ∃ l', l.pay src dst amount = .ok l' := by
  unfold Ledger.pay
  split_ifs
  · exact ⟨_, Ledger.transfer_ok_iff.2 ⟨hsrc, hle, rfl⟩⟩
  · exact ⟨l, rfl⟩

/-- A claim that passes its own checks is executed, if the addresses are free and the bucket is
covered. -/
theorem claim_executed (hu : Unsquatted w) (hs : Solvent w) {params : ClaimLpProceedsParams}
    {holder : Pubkey} {registry : PoolRegistry} {amount newClaimed : U64}
    (hreg : w.vault.registries params.poolAddress = some registry)
    (hnone : w.vault.claimRecords (params.poolAddress, holder) = none)
    (hopen : CanOpenRecord rt w params.poolAddress holder)
    (hamount : claimAmount rt.sha256 registry params holder = .ok (amount, newClaimed)) :
    ∃ w', exec rt w (.vault (.claimLpProceeds params holder)) = .ok w' ∧
      PaidClaim rt w params.poolAddress holder params.lpBalanceAtSnapshot amount.val w' := by
  have hpda : (w.ledger (.claimRecord params.poolAddress holder)).data = .empty :=
    hu _ rfl (by simp) (by simp [hasRecord, hnone])
  have hvault : (w.ledger (.lpHolderPoolVault params.poolAddress)).data = .empty :=
    hu _ rfl (by simp) rfl
  obtain ⟨l₁, hl₁, hholder, hrecord, hrent⟩ :=
    initRecord_eq_ok hpda hopen.system hopen.funded (by simp)
  have hframe : l₁ (.lpHolderPoolVault params.poolAddress) =
      w.ledger (.lpHolderPoolVault params.poolAddress) :=
    Ledger.initRecord_frame hl₁ (by simp) (by simp)
  have hle : amount.val ≤ (l₁ (.lpHolderPoolVault params.poolAddress)).lamports := by
    obtain ⟨_, _, _, _, hnew, hcap⟩ := claimAmount_ok_iff.1 hamount
    have hcovered := (hs.pools _ _ hreg).covered
    rw [hframe]
    omega
  obtain ⟨l₂, hl₂⟩ := pay_eq_ok (.key holder) (hframe ▸ hvault) hle
  have hpaid := Ledger.pay_ok hl₂ (by simp)
  have hclaim : ∃ v', claimLpProceeds rt w.scanner.clock w.vault w.ledger params holder =
      .ok (v', l₂) := by
    simp only [claimLpProceeds, bind_ok_iff, initAccount_ok_iff, loadAccount_ok_iff,
      require_ok_iff, exists_const, pure_ok_iff, Prod.exists, Prod.mk.injEq]
    exact ⟨_, registry, hreg, hnone, l₁, hl₁, hframe ▸ hvault, amount, newClaimed, hamount, l₂,
      hl₂, rfl, rfl⟩
  obtain ⟨v', hclaim⟩ := hclaim
  obtain ⟨_, amount', _, record, hreg', _, hamount', hra, hrb, hv, _, hdebit, _⟩ :=
    claimLpProceeds_ok hclaim
  obtain rfl : registry = _ := Option.some.inj (hreg.symm.trans hreg')
  rw [hamount, Except.ok.injEq, Prod.mk.injEq] at hamount'
  refine ⟨_, vault_ok_iff.2 ⟨v', l₂, hclaim, rfl⟩, ⟨record, ?_, ?_, hrb⟩, ?_, ?_, ⟨?_, ?_⟩,
    ⟨?_, ?_⟩⟩
  · rw [hv]
    exact Function.update_self _ _ _
  · rw [hra, hamount'.1]
  · have hcredit := hpaid.credited
    have hfunded := hopen.funded
    rw [hholder, AccountState.system_lamports] at hcredit
    unfold recordRent at hfunded ⊢
    simp only
    omega
  · rw [hamount'.1]
    exact hdebit
  · exact (hpaid.data _).trans hrecord
  · exact hrent.trans_eq (congrArg _ (hpaid.frame _ (by simp) (by simp)).symm)
  · exact (hpaid.data _).trans (congrArg _ hholder)
  · exact (hpaid.data _).trans (hframe ▸ hvault)

/-! ## The entries of a snapshot -/

open Snapshotter SnapshotMerkleTree

/-- A claim of the run whose proof leads to two preimages of one digest. -/
def ClaimedCollision (rt : Runtime) (ixs : List Ix) (entries : List HolderEntry) : Prop :=
  ∃ params holder, .vault (.claimLpProceeds params holder) ∈ ixs ∧ ∃ x y,
    proofCollision rt.sha256 entries holder params.lpBalanceAtSnapshot params.merkleProof =
      some (x, y) ∧ IsCollision rt.sha256 x y

/-- More instructions have no fewer collisions. -/
theorem ClaimedCollision.mono {ixs ixs' : List Ix} {entries : List HolderEntry} (h : ixs ⊆ ixs')
    (hc : ClaimedCollision rt ixs entries) : ClaimedCollision rt ixs' entries := by
  obtain ⟨params, holder, hmem, hxy⟩ := hc
  exact ⟨params, holder, h hmem, hxy⟩

/-- The holder of entry `i` has claimed its share, or its claim is executed now. -/
def CanExit (rt : Runtime) (w : World) (snapshot : LpSnapshot) (t : SnapshotMerkleTree)
    (registry : PoolRegistry) (i : Fin snapshot.entries.length) : Prop :=
  let e := snapshot.entries.get i
  let amount := registry.lpHolderPoolTotalLamports.val * e.lpBalance.val /
    registry.lpTotalSupplyAtSnapshot.val
  (∃ record, w.vault.claimRecords (snapshot.poolAddress, e.owner) = some record ∧
    record.lpBalanceAtSnapshot = e.lpBalance ∧ record.amountLamports.val = amount) ∨
  w.vault.claimRecords (snapshot.poolAddress, e.owner) = none ∧
    (CanOpenRecord rt w snapshot.poolAddress e.owner → ∃ w',
      exec rt w (.vault (.claimLpProceeds (honestClaim snapshot t i).1 e.owner)) = .ok w' ∧
      PaidClaim rt w snapshot.poolAddress e.owner e.lpBalance amount w')

/-- The owners of a canonical list, with their balances. -/
def allocation (entries : List HolderEntry) : List (Pubkey × U64) :=
  entries.map fun e => (e.owner, e.lpBalance)

/-- The owners of a canonical list are distinct. -/
theorem nodup_allocation {entries : List HolderEntry} (hc : Canonical entries) :
    ((allocation entries).map Prod.fst).Nodup := by
  rw [allocation, List.map_map, List.Nodup, List.pairwise_map]
  exact hc.sorted.imp ne_of_lt

theorem mem_allocation {entries : List HolderEntry} {holder : Pubkey} {balance : U64}
    (h : ⟨holder, balance⟩ ∈ entries) : (holder, balance) ∈ allocation entries :=
  List.mem_map.2 ⟨_, h, rfl⟩

/-- The allocation adds up to the entries. -/
theorem sum_allocation (entries : List HolderEntry) :
    ∑ holder, Tally.keySum (allocation entries) holder =
      (entries.map fun e => e.lpBalance.val).sum := by
  rw [Tally.sum_keySum fun _ _ => Finset.mem_univ _, allocation, List.map_map]
  rfl

/-- Where the records of a pool are of entries, every holder can exit. -/
theorem canExit_of_mem (hu : Unsquatted w) (hs : Solvent w) {snapshot : LpSnapshot}
    {t : SnapshotMerkleTree} {root : Hash} {registry : PoolRegistry}
    (hc : Canonical snapshot.entries)
    (hfit : (snapshot.entries.map fun e => e.lpBalance.val).sum ≤
      snapshot.lpTotalSupplyAtSnapshot.val)
    (ht : fromEntries rt.sha256 snapshot.entries = .ok t) (hroot : t.root = some root)
    (hreg : w.vault.registries snapshot.poolAddress = some registry)
    (hsealed : registry.lpSnapshotMerkleRoot = root)
    (hsupply : registry.lpTotalSupplyAtSnapshot = snapshot.lpTotalSupplyAtSnapshot)
    (hmem : ∀ holder record,
      w.vault.claimRecords (snapshot.poolAddress, holder) = some record →
        ⟨holder, record.lpBalanceAtSnapshot⟩ ∈ snapshot.entries)
    (i : Fin snapshot.entries.length) : CanExit rt w snapshot t registry i := by
  have hshare : ∀ holder record,
      w.vault.claimRecords (snapshot.poolAddress, holder) = some record →
        record.amountLamports.val = ProRata.share registry.lpHolderPoolTotalLamports.val
          registry.lpTotalSupplyAtSnapshot.val (Tally.keySum (allocation snapshot.entries) holder)
      := by
    intro holder record hr
    obtain ⟨registry', hreg', hamount⟩ := hs.records _ _ _ hr
    rw [Tally.keySum_of_mem (nodup_allocation hc) (mem_allocation (hmem _ _ hr)), hamount,
      Option.some.inj (hreg'.symm.trans hreg)]
  have hentry := Tally.keySum_of_mem (nodup_allocation hc)
    (mem_allocation (List.get_mem snapshot.entries i))
  cases hr : w.vault.claimRecords (snapshot.poolAddress, (snapshot.entries.get i).owner) with
  | some record =>
    have hrecord := Tally.keySum_of_mem (nodup_allocation hc) (mem_allocation (hmem _ _ hr))
    have hamount := hshare _ _ hr
    rw [hentry] at hrecord hamount
    exact Or.inl ⟨record, hr, (Fin.ext hrecord).symm, hamount⟩
  | none =>
    refine Or.inr ⟨hr, fun hopen => ?_⟩
    have hpos : 0 < registry.lpTotalSupplyAtSnapshot.val := by
      rw [hsupply]
      exact hc.sum_pos.trans_le hfit
    -- the shares of those who have claimed leave the share of this entry
    have hroom : (claimBook w.vault snapshot.poolAddress).paid +
        ProRata.share registry.lpHolderPoolTotalLamports.val registry.lpTotalSupplyAtSnapshot.val
          (snapshot.entries.get i).lpBalance.val ≤ registry.lpHolderPoolTotalLamports.val := by
      rw [← hentry]
      refine ProRata.Book.paid_add_share_le hpos ?_ ?_ ?_
      · rw [sum_allocation, hsupply]
        exact hfit
      · intro holder n hn
        obtain ⟨record, hrecord, rfl⟩ := Option.map_eq_some_iff.1 hn
        exact (hshare holder record hrecord).le
      · rw [claimBook, hr]
        rfl
    have hclaimed := (hs.pools _ _ hreg).recorded
    have hbound := registry.lpHolderPoolTotalLamports.isLt
    obtain ⟨proof, hproof, hverify⟩ := exists_verifyProof ht hroot i.isLt
    have hamount : claimAmount rt.sha256 registry (honestClaim snapshot t i).1
        (snapshot.entries.get i).owner =
          .ok (⟨ProRata.share registry.lpHolderPoolTotalLamports.val
            registry.lpTotalSupplyAtSnapshot.val (snapshot.entries.get i).lpBalance.val,
              by omega⟩, ⟨registry.lpHolderPoolClaimedLamports.val +
            ProRata.share registry.lpHolderPoolTotalLamports.val
              registry.lpTotalSupplyAtSnapshot.val (snapshot.entries.get i).lpBalance.val,
              by omega⟩) := by
      refine claimAmount_ok_iff.2 ⟨hc.pos _ (List.get_mem _ i), hpos, ?_, rfl, rfl, ?_⟩
      · simp only [honestClaim, hproof, hsealed]
        exact hverify
      · simp only
        omega
    exact claim_executed hu hs hreg hr hopen hamount

/-- Without a collision among the claims, the records of a pool are of entries. -/
theorem mem_entries_of_record {ixs : List Ix} (he : Evidenced rt ixs w)
    {entries : List HolderEntry} {t : SnapshotMerkleTree} {root : Hash}
    (ht : fromEntries rt.sha256 entries = .ok t) (hroot : t.root = some root) {pool : Pubkey}
    {registry : PoolRegistry} (hreg : w.vault.registries pool = some registry)
    (hsealed : registry.lpSnapshotMerkleRoot = root) (hfree : ¬ClaimedCollision rt ixs entries)
    {holder : Pubkey} {record : ClaimRecord}
    (hr : w.vault.claimRecords (pool, holder) = some record) :
    ⟨holder, record.lpBalanceAtSnapshot⟩ ∈ entries := by
  obtain ⟨params, registry', hmem, _, hbalance, hreg', hproof⟩ := he _ _ _ hr
  obtain rfl := Option.some.inj (hreg.symm.trans hreg')
  rw [hsealed] at hproof
  rw [← hbalance]
  exact (mem_or_proofCollision ht hroot hproof).resolve_right
    fun hxy => hfree ⟨params, holder, hmem, hxy⟩

/-- The exit of every holder. In every run of both programs and any others, from any ledger in
which the addresses of the vault have no data : a pool that was settled with the root and the
supply of a snapshot lets the holder of every entry claim its whole share, whoever has claimed
before and whatever else was done, or one of the claims of the run carries an explicit collision
of two preimages. The holder needs the rent of its record and nothing else : no pause, no
configuration and no other signature enters. -/
theorem exit_guaranteed (rt : Runtime) (clock : Clock) (ledger : Ledger)
    (hblank : ∀ a, a.isVaultPda = true → (ledger a).data = .empty) (ixs : List Ix)
    {request : SnapshotRequest} {source : LpAccountSource} {locks : LockedLpEvidence}
    {snapshot : LpSnapshot} (hbuild : build request source locks = .ok snapshot)
    {t : SnapshotMerkleTree} {root : Hash}
    (ht : fromEntries rt.sha256 snapshot.entries = .ok t) (hroot : t.root = some root)
    {registry : PoolRegistry}
    (hreg : (run (exec rt) (genesis clock ledger) ixs).vault.registries snapshot.poolAddress =
      some registry)
    (hsealed : registry.lpSnapshotMerkleRoot = root)
    (hsupply : registry.lpTotalSupplyAtSnapshot = snapshot.lpTotalSupplyAtSnapshot) :
    ClaimedCollision rt ixs snapshot.entries ∨
      ∀ i, CanExit rt (run (exec rt) (genesis clock ledger) ixs) snapshot t registry i := by
  obtain ⟨hc, hclose⟩ := build_ok hbuild
  by_cases hcollision : ClaimedCollision rt ixs snapshot.entries
  · exact Or.inl hcollision
  · exact Or.inr (canExit_of_mem (unsquatted_run rt clock hblank ixs)
      (solvent_run rt clock ledger ixs) hc (by omega) ht hroot hreg hsealed hsupply fun _ _ =>
        mem_entries_of_record (evidenced_run rt clock ledger ixs) ht hroot hreg hsealed hcollision)

/-! ## Three holders of the demonstration pool, one of whom has claimed -/

/-- The token accounts of the LP mint : the salvor's and two others. -/
def demoSource : LpAccountSource where
  lpMintSupply _ := .ok ⟨1000, 5⟩
  tokenAccounts _ := .ok [⟨Pubkey.fill 33, demoHolder, 60⟩, ⟨Pubkey.fill 31, demoSalvor, 900⟩,
    ⟨Pubkey.fill 35, Pubkey.fill 34, 40⟩]

/-- The request for the demonstration pool, without sinks. -/
def demoRequest : SnapshotRequest :=
  ⟨Scanner.demoPool, raydiumV4ProgramId, demoLpMint, [], []⟩

/-- The snapshot of the three accounts, in the order of their owners. -/
def demoSnapshot : LpSnapshot where
  poolAddress := Scanner.demoPool
  ammProgramId := raydiumV4ProgramId
  lpMint := demoLpMint
  snapshotSlot := 5
  lpTotalSupplyAtSnapshot := 1000
  entries := [⟨demoSalvor, 900⟩, ⟨demoHolder, 60⟩, ⟨Pubkey.fill 34, 40⟩]
  exclusions := []
  locked := ⟨0, 0, [], none⟩
  reconciliation := ⟨1000, 1000, 0⟩

theorem build_demoSource : build demoRequest demoSource ⟨fun _ _ => .ok []⟩ = .ok demoSnapshot := by
  decide +kernel

/-- The leaves of the three, from the first to the last. -/
def demoLeaf (owner : Pubkey) (lpBalance : U64) : Hash :=
  Vault.computeLeaf Machine.sha256 owner lpBalance

/-- The root of the three, the third leaf being promoted. -/
def demoRoot : Hash :=
  hashPair Machine.sha256
    (hashPair Machine.sha256 (demoLeaf demoSalvor 900) (demoLeaf demoHolder 60))
    (demoLeaf (Pubkey.fill 34) 40)

/-- The tree of the entries has this root. -/
theorem root_demoSnapshot {t : SnapshotMerkleTree}
    (ht : fromEntries Machine.sha256 demoSnapshot.entries = .ok t) : t.root = some demoRoot := by
  rw [root_of_fromEntries ht]
  decide +kernel

/-- The salvage of the demonstration pool with the root of the three. -/
def sharedSalvage : Ix :=
  .vault (.salvagePool { demoSalvageParams with lpSnapshotMerkleRoot := demoRoot }
    demoSalvageAccounts ⟨demoRaydium, .writing []⟩)

/-- The claim of the second of them. -/
def sharedClaim : ClaimLpProceedsParams :=
  ⟨Scanner.demoPool, 60, [demoLeaf demoSalvor 900, demoLeaf (Pubkey.fill 34) 40]⟩

/-- The salvage, and the claim of the second holder. -/
def sharedRun : List Ix :=
  demoSetup ++ [sharedSalvage, .vault (.claimLpProceeds sharedClaim demoHolder)]

/-- The registry of the pool after this claim. -/
def sharedRegistry : PoolRegistry :=
  { demoRegistry with
    lpSnapshotMerkleRoot := demoRoot
    lpHolderPoolClaimedLamports := 21600000 }

/-- The demonstration ledger has no data at the addresses of the vault. -/
theorem blank_demoLedger (a : Account) (ha : a.isVaultPda = true) :
    (demoLedger a).data = .empty := by
  cases a with
  | key k => cases ha
  | _ => rfl

theorem sealed_sharedRegistry : sharedRegistry.lpSnapshotMerkleRoot = demoRoot := by
  rw [sharedRegistry]

theorem supply_sharedRegistry :
    sharedRegistry.lpTotalSupplyAtSnapshot = demoSnapshot.lpTotalSupplyAtSnapshot := by
  rw [sharedRegistry, demoRegistry, newRegistry, demoSalvageParams, demoSnapshot]

/-- What the vault stores for the pool after the run. -/
theorem registered_sharedRun : (run (exec Scanner.demoRuntime)
    (genesis Scanner.demoClock demoLedger) sharedRun).vault.registries demoSnapshot.poolAddress =
      some sharedRegistry := by
  decide +kernel

/-- The one claim of the run is of an entry, so no collision is found in it. -/
theorem not_claimedCollision_sharedRun :
    ¬ClaimedCollision Scanner.demoRuntime sharedRun demoSnapshot.entries := by
  rintro ⟨params, holder, hmem, x, y, hxy, _⟩
  simp only [sharedRun, demoSetup, sharedSalvage, Scanner.demoCalls, List.map_cons, List.map_nil,
    List.cons_append, List.nil_append, List.mem_cons, List.not_mem_nil, or_false, reduceCtorEq,
    false_or, Ix.vault.injEq, Vault.Call.claimLpProceeds.injEq] at hmem
  obtain ⟨rfl, rfl⟩ := hmem
  have hnone : proofCollision Machine.sha256 demoSnapshot.entries demoHolder 60
      [demoLeaf demoSalvor 900, demoLeaf (Pubkey.fill 34) 40] = none := by
    decide +kernel
  exact absurd (hnone.symm.trans hxy) (by simp)

/-- The entry of the salvor, the first of the three. -/
def salvorEntry : Fin demoSnapshot.entries.length :=
  ⟨0, by decide⟩

/-- The salvor has no record yet, and can pay for one. -/
theorem canOpenRecord_sharedRun :
    (run (exec Scanner.demoRuntime) (genesis Scanner.demoClock demoLedger)
      sharedRun).vault.claimRecords
        (demoSnapshot.poolAddress, (demoSnapshot.entries.get salvorEntry).owner) = none ∧
    CanOpenRecord Scanner.demoRuntime (run (exec Scanner.demoRuntime)
      (genesis Scanner.demoClock demoLedger) sharedRun) demoSnapshot.poolAddress
        (demoSnapshot.entries.get salvorEntry).owner :=
  ⟨by decide +kernel, ⟨by decide +kernel, by decide +kernel⟩⟩

/-- After the claim of the second holder every holder can exit, and the claim of the salvor
succeeds. -/
theorem exit_guaranteed_demo : ∃ t, fromEntries Machine.sha256 demoSnapshot.entries = .ok t ∧
    (∀ i, CanExit Scanner.demoRuntime (run (exec Scanner.demoRuntime)
      (genesis Scanner.demoClock demoLedger) sharedRun) demoSnapshot t sharedRegistry i) ∧
    ∃ w', exec Scanner.demoRuntime (run (exec Scanner.demoRuntime)
        (genesis Scanner.demoClock demoLedger) sharedRun)
      (.vault (.claimLpProceeds (honestClaim demoSnapshot t salvorEntry).1
        (demoSnapshot.entries.get salvorEntry).owner)) = .ok w' := by
  obtain ⟨t, ht⟩ := exists_fromEntries Machine.sha256 (build_ok build_demoSource).1
  have hexit := exit_guaranteed Scanner.demoRuntime Scanner.demoClock demoLedger
    blank_demoLedger sharedRun build_demoSource ht (root_demoSnapshot ht)
    registered_sharedRun sealed_sharedRegistry supply_sharedRegistry
  have hall := hexit.resolve_left not_claimedCollision_sharedRun
  refine ⟨t, ht, hall, ?_⟩
  obtain ⟨hnone, hopen⟩ := canOpenRecord_sharedRun
  rcases hall salvorEntry with ⟨record, hrecord, _⟩ | ⟨_, hclaim⟩
  · exact absurd (hrecord.symm.trans hnone) (Option.some_ne_none record)
  · obtain ⟨w', hw', _⟩ := hclaim hopen
    exact ⟨w', hw'⟩

/-! ## The exit as a transaction -/

/-- The holder can pay for its claim record and keeps its own rent-exempt minimum. -/
structure CanCommitClaim (rt : Runtime) (w : World) (pool holder : Pubkey) : Prop where
  system : (w.ledger (.key holder)).data = .empty
  funded : recordRent rt w pool holder + rentMinimum rt ≤ (w.ledger (.key holder)).lamports

/-- The holder of entry `i` has claimed its share, or its claim is committed now. -/
def CanCommitExit (rt : Runtime) (w : World) (snapshot : LpSnapshot) (t : SnapshotMerkleTree)
    (registry : PoolRegistry) (i : Fin snapshot.entries.length) : Prop :=
  let e := snapshot.entries.get i
  let amount := registry.lpHolderPoolTotalLamports.val * e.lpBalance.val /
    registry.lpTotalSupplyAtSnapshot.val
  (∃ record, w.vault.claimRecords (snapshot.poolAddress, e.owner) = some record ∧
    record.lpBalanceAtSnapshot = e.lpBalance ∧ record.amountLamports.val = amount) ∨
  w.vault.claimRecords (snapshot.poolAddress, e.owner) = none ∧
    (CanCommitClaim rt w snapshot.poolAddress e.owner → ∃ w',
      execTx rt w [.vault (.claimLpProceeds (honestClaim snapshot t i).1 e.owner)] = .ok w' ∧
      PaidClaim rt w snapshot.poolAddress e.owner e.lpBalance amount w')

/-- A claim that succeeds fits in the bucket. -/
theorem claim_within {params : ClaimLpProceedsParams} {holder : Pubkey} {registry : PoolRegistry}
    (hreg : w.vault.registries params.poolAddress = some registry)
    (h : exec rt w (.vault (.claimLpProceeds params holder)) = .ok w') :
    registry.lpHolderPoolClaimedLamports.val + registry.lpHolderPoolTotalLamports.val *
      params.lpBalanceAtSnapshot.val / registry.lpTotalSupplyAtSnapshot.val ≤
        registry.lpHolderPoolTotalLamports.val := by
  obtain ⟨_, _, hclaim, _⟩ := vault_ok_iff.1 h
  obtain ⟨_, _, _, _, hreg', _, hamount, _⟩ := claimLpProceeds_ok hclaim
  obtain rfl := Option.some.inj (hreg.symm.trans hreg')
  obtain ⟨_, _, _, hshare, hnew, hcap⟩ := claimAmount_ok_iff.1 hamount
  omega

/-- The claim of a rent-exempt holder on a covered pool satisfies the rent rule. -/
theorem claim_committed {params : ClaimLpProceedsParams} {holder : Pubkey}
    {registry : PoolRegistry} {balance : U64} {amount : ℕ}
    (hcovered : RentCovered rt w params.poolAddress registry)
    (hamount : registry.lpHolderPoolClaimedLamports.val + amount ≤
      registry.lpHolderPoolTotalLamports.val)
    (hcommit : CanCommitClaim rt w params.poolAddress holder)
    (hexec : exec rt w (.vault (.claimLpProceeds params holder)) = .ok w')
    (hpaid : PaidClaim rt w params.poolAddress holder balance amount w') :
    execTx rt w [.vault (.claimLpProceeds params holder)] = .ok w' := by
  refine execTx_ok_iff.2 ⟨batch_cons_ok_iff.2 ⟨w', hexec, rfl⟩, ?_⟩
  have hfunded := hcommit.funded
  have hcredit := hpaid.credited
  have hdebit := hpaid.debited
  unfold RentCovered at hcovered
  unfold rentMinimum at hcovered hfunded
  simp only [List.flatMap_cons, List.flatMap_nil, List.append_nil, touches, List.mem_cons,
    List.not_mem_nil, or_false, forall_eq_or_imp, forall_eq]
  refine ⟨Or.inr (Or.inr ?_), Or.inr (Or.inr ?_), Or.inr (Or.inr ?_)⟩
  · rw [hpaid.system.1, AccountData.size]
    omega
  · rw [hpaid.opened.1, AccountData.size]
    exact hpaid.opened.2
  · rw [hpaid.system.2, AccountData.size]
    omega

/-- Every settled pool of a run of funded transactions is covered. -/
theorem rentCovered_runTx {clock : Clock} {ledger : Ledger} {txs : List (List Ix)}
    (h : AlongRun (execTx rt) (IfOk (execTx rt) (Along (exec rt) (FundedSalvage rt)))
      (genesis clock ledger) txs) :
    AllRentCovered rt (run (execTx rt) (genesis clock ledger) txs) := by
  refine run_invariant_of_ifOk (I := AllRentCovered rt) ?_ (fun _ _ h => nomatch h) h
  intro w tx w' hw halong htx
  exact batch_invariant (fun _ _ _ => rentCovered_step) hw halong (execTx_ok_iff.1 htx).1

/-- The exit of every holder, as a transaction. In every run of transactions in which each salvage
that is committed starts with its vault empty or rent-exempt, the claim of an entry that has no
record is committed, the rent rule included, and pays the whole share, or one of the claims of the
run carries an explicit collision. -/
theorem exit_committed (rt : Runtime) (clock : Clock) (ledger : Ledger)
    (hblank : ∀ a, a.isVaultPda = true → (ledger a).data = .empty) (txs : List (List Ix))
    (hfunded : AlongRun (execTx rt) (IfOk (execTx rt) (Along (exec rt) (FundedSalvage rt)))
      (genesis clock ledger) txs)
    {request : SnapshotRequest} {source : LpAccountSource} {locks : LockedLpEvidence}
    {snapshot : LpSnapshot} (hbuild : build request source locks = .ok snapshot)
    {t : SnapshotMerkleTree} {root : Hash}
    (ht : fromEntries rt.sha256 snapshot.entries = .ok t) (hroot : t.root = some root)
    {registry : PoolRegistry}
    (hreg : (run (execTx rt) (genesis clock ledger) txs).vault.registries snapshot.poolAddress =
      some registry)
    (hsealed : registry.lpSnapshotMerkleRoot = root)
    (hsupply : registry.lpTotalSupplyAtSnapshot = snapshot.lpTotalSupplyAtSnapshot) :
    ClaimedCollision rt txs.flatten snapshot.entries ∨
      ∀ i, CanCommitExit rt (run (execTx rt) (genesis clock ledger) txs) snapshot t registry i := by
  obtain ⟨hc, hclose⟩ := build_ok hbuild
  by_cases hcollision : ClaimedCollision rt txs.flatten snapshot.entries
  · exact Or.inl hcollision
  have hcovered := rentCovered_runTx hfunded snapshot.poolAddress registry hreg
  have hbatch : ∀ w ixs w', execTx rt w ixs = .ok w' → batch (exec rt) w ixs = .ok w' :=
    fun _ _ _ h => (execTx_ok_iff.1 h).1
  obtain ⟨ixs, hsub, heq⟩ := exists_run_of_batches hbatch (genesis clock ledger) txs
  rw [heq] at hreg hcovered ⊢
  refine Or.inr fun i => ?_
  have hexit := canExit_of_mem (unsquatted_run rt clock hblank ixs)
    (solvent_run rt clock ledger ixs) hc (by omega) ht hroot hreg hsealed hsupply
    (fun _ _ => mem_entries_of_record (evidenced_run rt clock ledger ixs) ht hroot hreg hsealed
      (hcollision ∘ ClaimedCollision.mono hsub.subset)) i
  refine hexit.imp_right fun ⟨hnone, hopen⟩ => ⟨hnone, fun hcommit => ?_⟩
  obtain ⟨w', hexec, hpaid⟩ :=
    hopen ⟨hcommit.system, (Nat.le_add_right _ _).trans hcommit.funded⟩
  exact ⟨w', claim_committed hcovered (claim_within hreg hexec) hcommit hexec hpaid, hpaid⟩

/-- Each transaction of the run starts its salvage with the vault of the pool empty. -/
theorem along_sharedRun : AlongRun (execTx Scanner.demoRuntime)
    (IfOk (execTx Scanner.demoRuntime)
      (Along (exec Scanner.demoRuntime) (FundedSalvage Scanner.demoRuntime)))
    (genesis Scanner.demoClock demoLedger)
    [demoSetup, [sharedSalvage], [.vault (.claimLpProceeds sharedClaim demoHolder)]] := by
  refine ⟨.of (along_of_forall fun w ix hix => ?_), .of ⟨Or.inl ?_, fun _ _ => trivial⟩,
    .of ⟨trivial, fun _ _ => trivial⟩, trivial⟩
  · simp only [demoSetup, Scanner.demoCalls, List.map_cons, List.map_nil, List.cons_append,
      List.nil_append, List.mem_cons, List.not_mem_nil, or_false] at hix
    rcases hix with rfl | rfl | rfl | rfl | rfl | rfl <;> trivial
  · decide +kernel

/-- The same run in transactions: the creation of the accounts, the salvage and the claim. -/
theorem exit_committed_demo : ∃ t, fromEntries Machine.sha256 demoSnapshot.entries = .ok t ∧
    ∀ i, CanCommitExit Scanner.demoRuntime (run (execTx Scanner.demoRuntime)
      (genesis Scanner.demoClock demoLedger)
      [demoSetup, [sharedSalvage], [.vault (.claimLpProceeds sharedClaim demoHolder)]])
        demoSnapshot t sharedRegistry i := by
  obtain ⟨t, ht⟩ := exists_fromEntries Machine.sha256 (build_ok build_demoSource).1
  have hreg : (run (execTx Scanner.demoRuntime) (genesis Scanner.demoClock demoLedger)
      [demoSetup, [sharedSalvage],
        [.vault (.claimLpProceeds sharedClaim demoHolder)]]).vault.registries
          demoSnapshot.poolAddress = some sharedRegistry := by
    decide +kernel
  have hexit := exit_committed Scanner.demoRuntime Scanner.demoClock demoLedger
    blank_demoLedger _ along_sharedRun build_demoSource ht (root_demoSnapshot ht) hreg
    sealed_sharedRegistry supply_sharedRegistry
  exact ⟨t, ht, hexit.resolve_left not_claimedCollision_sharedRun⟩

end GraveYield.World
