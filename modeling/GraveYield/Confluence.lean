import GraveYield.Exit
import GraveYield.Lib.Commute

/-!
# Claims in any order

A claim reads and writes the account of its holder, its record, the registry and the bucket of its
pool, and nothing else. What it writes there is a function of the world before (`claim_ok_iff`) :
two claims on one pool both add to what is claimed and both take from the bucket, so the claims of
two holders swap (`swaps_claims`), and any set of claims by different holders comes to the same
world in every order (`claims_confluent`).
-/

namespace GraveYield.World

open Machine Checked Vault
open Scanner (loadAccount_ok_iff initAccount_ok_iff)

variable {rt : Runtime} {w w' : World} {params : ClaimLpProceedsParams} {holder : Pubkey}

/-! ## One claim -/

/-- The ledger after a claim of `amount`. -/
def claimedLedger (rt : Runtime) (w : World) (pool holder : Pubkey) (amount : ℕ) : Ledger :=
  Function.update (Function.update (Function.update w.ledger
    (.key holder) (.system ((w.ledger (.key holder)).lamports - recordRent rt w pool holder +
      amount)))
    (.claimRecord pool holder) ⟨(w.ledger (.claimRecord pool holder)).lamports +
      recordRent rt w pool holder, .record ClaimRecord.size⟩)
    (.lpHolderPoolVault pool) (.system ((w.ledger (.lpHolderPoolVault pool)).lamports - amount))

/-- The registry of a bucket from which `amount` more was claimed. -/
def addClaimed (registry : PoolRegistry) (amount : U64) : PoolRegistry :=
  { registry with
    lpHolderPoolClaimedLamports := registry.lpHolderPoolClaimedLamports + amount }

/-- The world after a claim of `amount`. -/
def claimed (rt : Runtime) (w : World) (params : ClaimLpProceedsParams) (holder : Pubkey)
    (registry : PoolRegistry) (amount : U64) : World where
  scanner := w.scanner
  vault := { w.vault with
    registries := Function.update w.vault.registries params.poolAddress
      (some (addClaimed registry amount))
    claimRecords := Function.update w.vault.claimRecords (params.poolAddress, holder)
      (some ⟨params.poolAddress, holder, amount, params.lpBalanceAtSnapshot,
        w.scanner.clock.slot, w.scanner.clock.unixTimestamp⟩) }
  ledger := claimedLedger rt w params.poolAddress holder amount.val

theorem claimed_ledger {registry : PoolRegistry} {amount : U64} :
    (claimed rt w params holder registry amount).ledger =
      claimedLedger rt w params.poolAddress holder amount.val := rfl

/-- The registries after a claim. -/
theorem claimed_registries {registry : PoolRegistry} {amount : U64} :
    (claimed rt w params holder registry amount).vault.registries =
      Function.update w.vault.registries params.poolAddress (some (addClaimed registry amount)) :=
  rfl

/-- The checks of a claim of `amount`. -/
structure Claimable (rt : Runtime) (w : World) (params : ClaimLpProceedsParams) (holder : Pubkey)
    (registry : PoolRegistry) (amount : U64) : Prop where
  registered : w.vault.registries params.poolAddress = some registry
  fresh : w.vault.claimRecords (params.poolAddress, holder) = none
  blank : (w.ledger (.claimRecord params.poolAddress holder)).data = .empty
  system : (w.ledger (.key holder)).data = .empty
  funded : recordRent rt w params.poolAddress holder ≤ (w.ledger (.key holder)).lamports
  bucket : (w.ledger (.lpHolderPoolVault params.poolAddress)).data = .empty
  covered : amount.val ≤ (w.ledger (.lpHolderPoolVault params.poolAddress)).lamports
  accepted : ∃ newClaimed, claimAmount rt.sha256 registry params holder = .ok (amount, newClaimed)

/-- When a record is created, and what the ledger is then. -/
theorem initRecord_ok_iff {l l' : Ledger} {payer pda : Account} {size : ℕ} :
    l.initRecord rt payer pda size = .ok l' ↔ (l pda).data = .empty ∧ (l payer).data = .empty ∧
      (rt.rentMinimumBalance size).val - (l pda).lamports ≤ (l payer).lamports ∧
      Function.update (l.move payer pda ((rt.rentMinimumBalance size).val - (l pda).lamports)) pda
        ⟨(l.move payer pda ((rt.rentMinimumBalance size).val - (l pda).lamports) pda).lamports,
          .record size⟩ = l' := by
  simp only [Ledger.initRecord, bind_ok_iff, require_ok_iff, exists_const,
    Ledger.transfer_ok_iff, pure_ok_iff]
  constructor
  · rintro ⟨h1, _, ⟨h2, h3, rfl⟩, rfl⟩
    exact ⟨h1, h2, h3, rfl⟩
  · rintro ⟨h1, h2, h3, rfl⟩
    exact ⟨h1, _, ⟨h2, h3, rfl⟩, rfl⟩

/-- A system account without data is its lamports. -/
theorem eq_system {s : AccountState} (h : s.data = .empty) : s = .system s.lamports := by
  obtain ⟨reserve, data⟩ := s
  obtain rfl : data = .empty := h
  rfl

/-- A payment is made iff the payer has it. -/
theorem pay_ok_iff {l l' : Ledger} {src dst : Account} {n : ℕ} (hsrc : (l src).data = .empty)
    (hne : src ≠ dst) : l.pay src dst n = .ok l' ↔
      n ≤ (l src).lamports ∧ l.move src dst n = l' := by
  unfold Ledger.pay
  split_ifs with hpos
  · rw [Ledger.transfer_ok_iff]
    exact ⟨fun h => h.2, fun h => ⟨hsrc, h⟩⟩
  · obtain rfl : n = 0 := by omega
    have hmove : l.move src dst 0 = l := by
      funext a
      by_cases hs : a = src
      · subst hs
        rw [Ledger.move_src _ hne, Nat.sub_zero, ← eq_system hsrc]
      by_cases hd : a = dst
      · subst hd
        rw [Ledger.move_dst _ hne]
        rfl
      · exact Ledger.move_of_ne _ hs hd
    rw [hmove, pure_ok_iff]
    exact ⟨fun h => ⟨Nat.zero_le _, h⟩, fun h => h.2⟩

/-- A claim that pays leaves the ledger that `claimedLedger` says. -/
theorem move_claimed {l₁ : Ledger} {pool : Pubkey} {amount : ℕ}
    (h : Function.update (w.ledger.move (.key holder) (.claimRecord pool holder)
      (recordRent rt w pool holder)) (.claimRecord pool holder)
        ⟨(w.ledger.move (.key holder) (.claimRecord pool holder) (recordRent rt w pool holder)
          (.claimRecord pool holder)).lamports, .record ClaimRecord.size⟩ = l₁) :
    l₁.move (.lpHolderPoolVault pool) (.key holder) amount =
      claimedLedger rt w pool holder amount := by
  subst h
  funext a
  unfold claimedLedger
  by_cases hv : a = .lpHolderPoolVault pool
  · subst hv
    rw [Ledger.move_src _ (by simp), Function.update_self, Function.update_of_ne (by simp),
      Ledger.move_of_ne _ (by simp) (by simp)]
  rw [Function.update_of_ne hv]
  by_cases hr : a = .claimRecord pool holder
  · subst hr
    rw [Ledger.move_of_ne _ (by simp) (by simp), Function.update_self, Function.update_self,
      Ledger.move_dst _ (by simp), AccountState.credit_lamports]
  rw [Function.update_of_ne hr]
  by_cases hk : a = .key holder
  · subst hk
    rw [Ledger.move_dst _ (by simp), Function.update_of_ne (by simp), Function.update_self,
      Ledger.move_src _ (by simp)]
    rfl
  · rw [Ledger.move_of_ne _ hv hk, Function.update_of_ne hr, Ledger.move_of_ne _ hk hr,
      Function.update_of_ne hk]

/-- The registry is charged with the amount. -/
theorem addClaimed_of_accepted {registry : PoolRegistry} {amount newClaimed : U64}
    (h : claimAmount rt.sha256 registry params holder = .ok (amount, newClaimed)) :
    addClaimed registry amount = { registry with lpHolderPoolClaimedLamports := newClaimed } := by
  obtain ⟨_, _, _, _, hnew, _⟩ := claimAmount_ok_iff.1 h
  have hadd : registry.lpHolderPoolClaimedLamports + amount = newClaimed := by
    apply Fin.ext
    rw [Fin.val_add, ← hnew, Nat.mod_eq_of_lt newClaimed.isLt]
  rw [addClaimed, hadd]

/-- What a claim writes is a function of the world before. -/
theorem claim_ok_iff : exec rt w (.vault (.claimLpProceeds params holder)) = .ok w' ↔
    ∃ registry amount, Claimable rt w params holder registry amount ∧
      claimed rt w params holder registry amount = w' := by
  simp only [vault_ok_iff, execVault, claimLpProceeds, bind_ok_iff, initAccount_ok_iff,
    loadAccount_ok_iff, require_ok_iff, exists_const, pure_ok_iff, Prod.exists, Prod.mk.injEq,
    initRecord_ok_iff]
  constructor
  · rintro ⟨v, l, ⟨registry, h1, h2, l₁, ⟨h3, h4, h5, hl₁⟩, h6, amount, newClaimed, h7, l₂, h8, rfl,
      rfl⟩, rfl⟩
    obtain ⟨hle, hl₂⟩ := (pay_ok_iff h6 (by simp)).1 h8
    have hframe : l₁ (.lpHolderPoolVault params.poolAddress) =
        w.ledger (.lpHolderPoolVault params.poolAddress) := by
      rw [← hl₁, Function.update_of_ne (by simp), Ledger.move_of_ne _ (by simp) (by simp)]
    rw [move_claimed hl₁] at hl₂
    rw [hframe] at h6 hle
    refine ⟨registry, amount, ⟨h1, h2, h3, h4, h5, h6, hle, newClaimed, h7⟩, ?_⟩
    rw [claimed, addClaimed_of_accepted h7, hl₂]
  · rintro ⟨registry, amount, ⟨h1, h2, h3, h4, h5, h6, hle, newClaimed, h7⟩, rfl⟩
    refine ⟨_, _, ⟨registry, h1, h2, _, ⟨h3, h4, h5, rfl⟩, ?_, amount, newClaimed, h7, _,
      (pay_ok_iff ?_ (by simp)).2 ⟨?_, rfl⟩, rfl, rfl⟩, ?_⟩
    · rwa [Function.update_of_ne (by simp), Ledger.move_of_ne _ (by simp) (by simp)]
    · rwa [Function.update_of_ne (by simp), Ledger.move_of_ne _ (by simp) (by simp)]
    · rwa [Function.update_of_ne (by simp), Ledger.move_of_ne _ (by simp) (by simp)]
    · rw [claimed, addClaimed_of_accepted h7, ← move_claimed rfl]
      rfl

/-! ## Two claims -/

section Two

variable {pool : Pubkey} {amount : ℕ}

/-- What the holder has after a claim. -/
theorem claimedLedger_holder : claimedLedger rt w pool holder amount (.key holder) =
    .system ((w.ledger (.key holder)).lamports - recordRent rt w pool holder + amount) := by
  rw [claimedLedger, Function.update_of_ne (by simp), Function.update_of_ne (by simp),
    Function.update_self]

/-- What the record has after a claim. -/
theorem claimedLedger_record : claimedLedger rt w pool holder amount (.claimRecord pool holder) =
    ⟨(w.ledger (.claimRecord pool holder)).lamports + recordRent rt w pool holder,
      .record ClaimRecord.size⟩ := by
  rw [claimedLedger, Function.update_of_ne (by simp), Function.update_self]

/-- What the bucket has after a claim. -/
theorem claimedLedger_bucket : claimedLedger rt w pool holder amount (.lpHolderPoolVault pool) =
    .system ((w.ledger (.lpHolderPoolVault pool)).lamports - amount) := by
  rw [claimedLedger, Function.update_self]

/-- The other accounts after a claim. -/
theorem claimedLedger_frame {a : Account} (hk : a ≠ .key holder)
    (hr : a ≠ .claimRecord pool holder) (hv : a ≠ .lpHolderPoolVault pool) :
    claimedLedger rt w pool holder amount a = w.ledger a := by
  rw [claimedLedger, Function.update_of_ne hv, Function.update_of_ne hr, Function.update_of_ne hk]

end Two

section Swap

variable {params₁ params₂ : ClaimLpProceedsParams} {holder₁ holder₂ : Pubkey}
  {registry₁ registry₂ : PoolRegistry} {amount₁ amount₂ : U64}

/-- The claims of two holders write their accounts in either order. -/
theorem claimedLedger_comm (hne : holder₁ ≠ holder₂) {u v : World} {pool₁ pool₂ : Pubkey}
    {n₁ n₂ : ℕ} (hu : u.ledger = claimedLedger rt w pool₁ holder₁ n₁)
    (hv : v.ledger = claimedLedger rt w pool₂ holder₂ n₂) :
    claimedLedger rt u pool₂ holder₂ n₂ = claimedLedger rt v pool₁ holder₁ n₁ := by
  have hrent₂ : recordRent rt u pool₂ holder₂ = recordRent rt w pool₂ holder₂ := by
    rw [recordRent, hu, claimedLedger_frame (by simp) (by simp [hne.symm]) (by simp), recordRent]
  have hrent₁ : recordRent rt v pool₁ holder₁ = recordRent rt w pool₁ holder₁ := by
    rw [recordRent, hv, claimedLedger_frame (by simp) (by simp [hne]) (by simp), recordRent]
  funext a
  by_cases hk₁ : a = .key holder₁
  · subst hk₁
    rw [claimedLedger_frame (by simp [hne]) (by simp) (by simp), hu, claimedLedger_holder,
      claimedLedger_holder, hrent₁, hv, claimedLedger_frame (by simp [hne]) (by simp) (by simp)]
  by_cases hk₂ : a = .key holder₂
  · subst hk₂
    rw [claimedLedger_frame hk₁ (by simp) (by simp), hv, claimedLedger_holder,
      claimedLedger_holder, hrent₂, hu, claimedLedger_frame hk₁ (by simp) (by simp)]
  by_cases hr₁ : a = .claimRecord pool₁ holder₁
  · subst hr₁
    rw [claimedLedger_frame (by simp) (by simp [hne]) (by simp), hu, claimedLedger_record,
      claimedLedger_record, hrent₁, hv,
      claimedLedger_frame (by simp) (by simp [hne]) (by simp)]
  by_cases hr₂ : a = .claimRecord pool₂ holder₂
  · subst hr₂
    rw [claimedLedger_frame (by simp) hr₁ (by simp), hv,
      claimedLedger_record, claimedLedger_record, hrent₂, hu,
      claimedLedger_frame (by simp) hr₁ (by simp)]
  by_cases hv₁ : a = .lpHolderPoolVault pool₁
  · subst hv₁
    rw [claimedLedger_bucket]
    by_cases hp : pool₁ = pool₂
    · subst hp
      rw [claimedLedger_bucket, hu, hv, claimedLedger_bucket, claimedLedger_bucket,
        AccountState.system_lamports, AccountState.system_lamports, Nat.sub_right_comm]
    · rw [claimedLedger_frame (by simp) (by simp) (by simp [hp]), hu, claimedLedger_bucket, hv,
        claimedLedger_frame (by simp) (by simp) (by simp [hp])]
  by_cases hv₂ : a = .lpHolderPoolVault pool₂
  · subst hv₂
    rw [claimedLedger_bucket, claimedLedger_frame (by simp) (by simp) hv₁, hv,
      claimedLedger_bucket, hu, claimedLedger_frame (by simp) (by simp) hv₁]
  · rw [claimedLedger_frame hk₂ hr₂ hv₂, hu, claimedLedger_frame hk₁ hr₁ hv₁,
      claimedLedger_frame hk₁ hr₁ hv₁, hv, claimedLedger_frame hk₂ hr₂ hv₂]

/-- When a claim is accepted, and for how much. -/
theorem accepted_iff {registry : PoolRegistry} {amount : U64} :
    (∃ newClaimed, claimAmount rt.sha256 registry params holder = .ok (amount, newClaimed)) ↔
      (0 < params.lpBalanceAtSnapshot.val ∧ 0 < registry.lpTotalSupplyAtSnapshot.val ∧
        verifyProof rt.sha256 registry.lpSnapshotMerkleRoot
          (computeLeaf rt.sha256 holder params.lpBalanceAtSnapshot) params.merkleProof = true ∧
        amount.val = registry.lpHolderPoolTotalLamports.val * params.lpBalanceAtSnapshot.val /
          registry.lpTotalSupplyAtSnapshot.val) ∧
      registry.lpHolderPoolClaimedLamports.val + amount.val ≤
        registry.lpHolderPoolTotalLamports.val := by
  simp only [claimAmount_ok_iff]
  constructor
  · rintro ⟨n, h1, h2, h3, h4, h5, h6⟩
    exact ⟨⟨h1, h2, h3, h4⟩, h5 ▸ h6⟩
  · rintro ⟨⟨h1, h2, h3, h4⟩, h6⟩
    exact ⟨⟨_, h6.trans_lt registry.lpHolderPoolTotalLamports.isLt⟩, h1, h2, h3, h4, rfl, h6⟩

/-- The charge is the sum where it stays below the total. -/
theorem addClaimed_val {registry : PoolRegistry} {amount : U64}
    (h : registry.lpHolderPoolClaimedLamports.val + amount.val ≤
      registry.lpHolderPoolTotalLamports.val) :
    (addClaimed registry amount).lpHolderPoolClaimedLamports.val =
      registry.lpHolderPoolClaimedLamports.val + amount.val := by
  rw [addClaimed, Fin.val_add,
    Nat.mod_eq_of_lt (h.trans_lt registry.lpHolderPoolTotalLamports.isLt)]

/-- Two claims that a registry accepts one after the other it accepts in the other order. -/
theorem accepted_swap {registry : PoolRegistry}
    (h₁ : ∃ n, claimAmount rt.sha256 registry params₁ holder₁ = .ok (amount₁, n))
    (h₂ : ∃ n, claimAmount rt.sha256 (addClaimed registry amount₁) params₂ holder₂ =
      .ok (amount₂, n)) :
    (∃ n, claimAmount rt.sha256 registry params₂ holder₂ = .ok (amount₂, n)) ∧
      ∃ n, claimAmount rt.sha256 (addClaimed registry amount₂) params₁ holder₁ =
        .ok (amount₁, n) := by
  rw [accepted_iff] at h₁ h₂ ⊢
  rw [accepted_iff]
  obtain ⟨hshare₂, hle₂⟩ := h₂
  rw [addClaimed_val h₁.2] at hle₂
  have hle : registry.lpHolderPoolClaimedLamports.val + amount₂.val ≤
      registry.lpHolderPoolTotalLamports.val := by
    change _ ≤ registry.lpHolderPoolTotalLamports.val at hle₂
    omega
  refine ⟨⟨hshare₂, hle⟩, h₁.1, ?_⟩
  rw [addClaimed_val hle]
  change _ ≤ registry.lpHolderPoolTotalLamports.val at hle₂ ⊢
  omega

/-- Two charges commute. -/
theorem addClaimed_comm (registry : PoolRegistry) :
    addClaimed (addClaimed registry amount₁) amount₂ =
      addClaimed (addClaimed registry amount₂) amount₁ := by
  simp only [addClaimed, add_right_comm]

/-- The accounts that only the holder of a claim shares with it are the same in `u`. -/
structure SameHolder (w u : World) (pool holder : Pubkey) : Prop where
  records : u.vault.claimRecords (pool, holder) = w.vault.claimRecords (pool, holder)
  record : u.ledger (.claimRecord pool holder) = w.ledger (.claimRecord pool holder)
  key : u.ledger (.key holder) = w.ledger (.key holder)

/-- A claim looks the same to the other holders. -/
theorem SameHolder.claimed (hne : holder₁ ≠ holder₂) (pool : Pubkey) :
    SameHolder w (claimed rt w params₁ holder₁ registry₁ amount₁) pool holder₂ where
  records := Function.update_of_ne (by simp [hne.symm]) _ _
  record := by rw [claimed_ledger, claimedLedger_frame (by simp) (by simp [hne.symm]) (by simp)]
  key := by rw [claimed_ledger, claimedLedger_frame (by simp [hne.symm]) (by simp) (by simp)]

theorem SameHolder.symm {u : World} {pool : Pubkey} (h : SameHolder w u pool holder) :
    SameHolder u w pool holder :=
  ⟨h.records.symm, h.record.symm, h.key.symm⟩

/-- A claim passes its checks wherever its holder is the same and the pool accepts it. -/
theorem Claimable.transfer {u : World} {registry registry' : PoolRegistry} {amount : U64}
    (h : Claimable rt w params holder registry amount)
    (hsame : SameHolder w u params.poolAddress holder)
    (hreg : u.vault.registries params.poolAddress = some registry')
    (hbucket : (u.ledger (.lpHolderPoolVault params.poolAddress)).data = .empty)
    (hcovered : amount.val ≤ (u.ledger (.lpHolderPoolVault params.poolAddress)).lamports)
    (haccepted : ∃ n, claimAmount rt.sha256 registry' params holder = .ok (amount, n)) :
    Claimable rt u params holder registry' amount where
  registered := hreg
  fresh := hsame.records.trans h.fresh
  blank := by rw [hsame.record, h.blank]
  system := by rw [hsame.key, h.system]
  funded := by
    have hfunded := h.funded
    unfold recordRent at hfunded ⊢
    rwa [hsame.record, hsame.key]
  bucket := hbucket
  covered := hcovered
  accepted := haccepted

/-- Two claims commute. -/
theorem claimed_comm (hne : holder₁ ≠ holder₂) {registry₁' registry₂' : PoolRegistry}
    (hreg : Function.update (Function.update w.vault.registries params₁.poolAddress
        (some (addClaimed registry₁ amount₁))) params₂.poolAddress
          (some (addClaimed registry₂ amount₂)) =
      Function.update (Function.update w.vault.registries params₂.poolAddress
        (some (addClaimed registry₂' amount₂))) params₁.poolAddress
          (some (addClaimed registry₁' amount₁))) :
    claimed rt (claimed rt w params₁ holder₁ registry₁ amount₁) params₂ holder₂ registry₂ amount₂ =
      claimed rt (claimed rt w params₂ holder₂ registry₂' amount₂) params₁ holder₁ registry₁'
        amount₁ := by
  have hledger := claimedLedger_comm hne
    (rfl : (claimed rt w params₁ holder₁ registry₁ amount₁).ledger = _)
    (rfl : (claimed rt w params₂ holder₂ registry₂' amount₂).ledger = _)
  have hkeys : (params₁.poolAddress, holder₁) ≠ (params₂.poolAddress, holder₂) := by simp [hne]
  have hrecords := fun r₁ r₂ => Function.update_comm hkeys (some r₁) (some r₂) w.vault.claimRecords
  rw [claimed, hledger]
  unfold claimed
  simp only [World.mk.injEq, Vault.State.mk.injEq, true_and, and_true]
  exact ⟨hreg, hrecords _ _⟩

/-- The claims of two holders swap. -/
theorem swaps_claims (rt : Runtime) (hne : holder₁ ≠ holder₂) :
    Swaps (exec rt) (.vault (.claimLpProceeds params₁ holder₁))
      (.vault (.claimLpProceeds params₂ holder₂)) := by
  intro w t s' ht hs'
  obtain ⟨registry₁, amount₁, h₁, rfl⟩ := claim_ok_iff.1 ht
  obtain ⟨registry₂, amount₂, h₂, rfl⟩ := claim_ok_iff.1 hs'
  have hsame₂ : SameHolder (claimed rt w params₁ holder₁ registry₁ amount₁) w
    params₂.poolAddress holder₂ := (SameHolder.claimed hne _).symm
  by_cases hp : params₁.poolAddress = params₂.poolAddress
  · obtain rfl : addClaimed registry₁ amount₁ = registry₂ := by
      have hreg := h₂.registered
      rw [claimed_registries, ← hp, Function.update_self] at hreg
      exact Option.some.inj hreg
    obtain ⟨hacc₂, hacc₁⟩ := accepted_swap h₁.accepted h₂.accepted
    have hcovered := h₂.covered
    rw [claimed_ledger, ← hp, claimedLedger_bucket, AccountState.system_lamports] at hcovered
    have hfirst : Claimable rt w params₂ holder₂ registry₁ amount₂ := by
      refine h₂.transfer hsame₂ ?_ ?_ ?_ hacc₂
      · rw [← hp, h₁.registered]
      · rw [← hp, h₁.bucket]
      · rw [← hp]
        omega
    have hsecond : Claimable rt (claimed rt w params₂ holder₂ registry₁ amount₂) params₁ holder₁
        (addClaimed registry₁ amount₂) amount₁ := by
      refine h₁.transfer (SameHolder.claimed hne.symm _) ?_ ?_ ?_ hacc₁
      · rw [claimed_registries, hp, Function.update_self]
      · rw [claimed_ledger, hp, claimedLedger_bucket, AccountState.system_data]
      · have hle := h₁.covered
        rw [claimed_ledger, hp, claimedLedger_bucket, AccountState.system_lamports, ← hp]
        omega
    refine ⟨_, claim_ok_iff.2 ⟨_, _, hfirst, rfl⟩, claim_ok_iff.2 ⟨_, _, hsecond, ?_⟩⟩
    refine (claimed_comm hne ?_).symm
    rw [hp, Function.update_idem, Function.update_idem, addClaimed_comm]
  · have hreg : w.vault.registries params₂.poolAddress = some registry₂ := by
      have hreg := h₂.registered
      rwa [claimed_registries, Function.update_of_ne (Ne.symm hp)] at hreg
    have hbucket₂ : (claimed rt w params₁ holder₁ registry₁ amount₁).ledger
        (.lpHolderPoolVault params₂.poolAddress) =
          w.ledger (.lpHolderPoolVault params₂.poolAddress) := by
      rw [claimed_ledger, claimedLedger_frame (by simp) (by simp) (by simp [Ne.symm hp])]
    have hbucket₁ : (claimed rt w params₂ holder₂ registry₂ amount₂).ledger
        (.lpHolderPoolVault params₁.poolAddress) =
          w.ledger (.lpHolderPoolVault params₁.poolAddress) := by
      rw [claimed_ledger, claimedLedger_frame (by simp) (by simp) (by simp [hp])]
    have hfirst : Claimable rt w params₂ holder₂ registry₂ amount₂ :=
      h₂.transfer hsame₂ hreg (hbucket₂ ▸ h₂.bucket) (hbucket₂ ▸ h₂.covered) h₂.accepted
    have hsecond : Claimable rt (claimed rt w params₂ holder₂ registry₂ amount₂) params₁ holder₁
        registry₁ amount₁ := by
      refine h₁.transfer (SameHolder.claimed hne.symm _) ?_ (by rw [hbucket₁, h₁.bucket])
        (by rw [hbucket₁]; exact h₁.covered) h₁.accepted
      rw [claimed_registries, Function.update_of_ne hp, h₁.registered]
    refine ⟨_, claim_ok_iff.2 ⟨_, _, hfirst, rfl⟩, claim_ok_iff.2 ⟨_, _, hsecond, ?_⟩⟩
    exact (claimed_comm hne (Function.update_comm hp _ _ _)).symm

end Swap

/-! ## Many claims -/

/-- The claim of a holder. -/
def claimIx (claim : Pubkey × ClaimLpProceedsParams) : Ix :=
  .vault (.claimLpProceeds claim.2 claim.1)

/-- The order of claims is irrelevant. From every state, claims by different holders, on any pools,
that succeed one after the other succeed in every other order too, and lead to the same world : the
same records, cumulative totals and lamports of every account. -/
theorem claims_confluent (rt : Runtime) (w : World)
    {claims claims' : List (Pubkey × ClaimLpProceedsParams)} (hperm : claims.Perm claims')
    (hholders : (claims.map Prod.fst).Nodup)
    (h : batch (exec rt) w (claims.map claimIx) = .ok w') :
    batch (exec rt) w (claims'.map claimIx) = .ok w' := by
  refine batch_perm (hperm.map claimIx) ?_ h
  rw [List.pairwise_map]
  refine (List.pairwise_map.1 hholders).imp fun hne => ?_
  exact ⟨swaps_claims rt hne, swaps_claims rt hne.symm⟩

/-- Two holders of the demonstration pool, each other's sibling in the tree. -/
def demoShare (holder sibling : Pubkey) (balance rest : U64) : Pubkey × ClaimLpProceedsParams :=
  (holder, ⟨Scanner.demoPool, balance, [computeLeaf Machine.sha256 sibling rest]⟩)

/-- Two shares of one pool. -/
def demoShares : List (Pubkey × ClaimLpProceedsParams) :=
  [demoShare demoHolder demoSalvor 400 600, demoShare demoSalvor demoHolder 600 400]

/-- The pool, settled with the tree of the two. -/
def sharedWorld : World where
  scanner := Scanner.State.genesis Scanner.demoClock
  vault := { Vault.State.genesis with
    registries := Function.update (fun _ => none) Scanner.demoPool (some { demoRegistry with
      lpSnapshotMerkleRoot := Snapshotter.hashPair Machine.sha256
        (computeLeaf Machine.sha256 demoHolder 400) (computeLeaf Machine.sha256 demoSalvor 600) }) }
  ledger
    | .lpHolderPoolVault _ | .key _ => .system 1000000000
    | _ => .system 0

/-- Both claims succeed. -/
theorem isOk_demoShares : (batch (exec Scanner.demoRuntime) sharedWorld
    (demoShares.map claimIx)).isOk = true := by
  decide +kernel

/-- The two claims in either order. -/
theorem claims_confluent_demo : ∃ w',
    batch (exec Scanner.demoRuntime) sharedWorld (demoShares.map claimIx) = .ok w' ∧
    batch (exec Scanner.demoRuntime) sharedWorld (demoShares.reverse.map claimIx) = .ok w' := by
  obtain ⟨w', h⟩ := exists_ok_of_isOk isOk_demoShares
  exact ⟨w', h, claims_confluent Scanner.demoRuntime sharedWorld (List.reverse_perm _).symm
    (by decide) h⟩

end GraveYield.World
