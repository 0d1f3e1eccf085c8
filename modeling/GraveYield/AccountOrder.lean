import GraveYield.Certification
import GraveYield.Lib.PermUpTo
import GraveYield.LockEvidence

/-!
# The order of the remaining accounts

The adapters look accounts up by key, and the lock walk adds up what it meets. Neither depends on
where an account stands in the list, nor on accounts that are not locker-owned and that nothing
looks up : `accountOrder_irrelevant`.
-/

namespace GraveYield.Scanner

open Machine Checked

variable {rt : Runtime} {pool : AccountInfo} {poolAddress : Pubkey} {l₁ l₂ : List AccountInfo}

/-- The accounts that the pool names : its two vaults and the LP mint. -/
def namedByPool (pool : AccountInfo) : List (List Byte) :=
  [slice pool.data RaydiumV4.offCoinVault 32, slice pool.data RaydiumV4.offPcVault 32,
    slice pool.data RaydiumV4.offLpMint 32]

/-- Not locker-owned, not named by the pool, and not the marker of the pool. -/
structure Bystander (rt : Runtime) (pool : AccountInfo) (poolAddress : Pubkey)
    (account : AccountInfo) : Prop where
  owner : account.owner ≠ UncxV4.programId
  unnamed : account.key.val ∉ namedByPool pool
  not_marker : account.key ≠ UncxV4.markerAddress rt poolAddress

/-- Two entries with the same key are the same account. -/
def KeyDetermines (l : List AccountInfo) : Prop :=
  ∀ a ∈ l, ∀ b ∈ l, a.key = b.key → a = b

/-! ## The adapters -/

/-- A lookup of an account that the pool names. -/
theorem find?_named (h : PermUpTo (Bystander rt pool poolAddress) l₁ l₂)
    (hkeys : KeyDetermines l₁) {key : Pubkey} (hkey : key.val ∈ namedByPool pool) :
    l₁.find? (fun i => i.key = key) = l₂.find? (fun i => i.key = key) := by
  refine h.find?_eq (fun a ha hb => hb.unnamed ?_) fun a ha b hb hqa hqb => hkeys a ha b hb ?_
  · rw [of_decide_eq_true ha]
    exact hkey
  · exact (of_decide_eq_true hqa).trans (of_decide_eq_true hqb).symm

/-- The pool is parsed from the accounts that it names. -/
theorem parse_eq_of_permUpTo (h : PermUpTo (Bystander rt pool poolAddress) l₁ l₂)
    (hkeys : KeyDetermines l₁) : RaydiumV4.parse pool l₁ = RaydiumV4.parse pool l₂ := by
  unfold RaydiumV4.parse
  by_cases hsize : pool.data.length = RaydiumV4.ammInfoSize
  swap
  · simp only [require, if_neg hsize]
    rfl
  have hread : ∀ off, off + 32 ≤ RaydiumV4.ammInfoSize → ∃ key : Pubkey,
      key.val = slice pool.data off 32 ∧ readPubkey pool.data off = .ok key := by
    intro off hoff
    exact ⟨⟨_, length_slice (hsize ▸ hoff)⟩, rfl, readPubkey_eq rfl⟩
  obtain ⟨coin, hcoin, hreadCoin⟩ := hread RaydiumV4.offCoinVault (by decide)
  obtain ⟨pc, hpc, hreadPc⟩ := hread RaydiumV4.offPcVault (by decide)
  obtain ⟨coinMint, _, hreadCoinMint⟩ := hread RaydiumV4.offCoinVaultMint (by decide)
  obtain ⟨pcMint, _, hreadPcMint⟩ := hread RaydiumV4.offPcVaultMint (by decide)
  obtain ⟨lp, hlp, hreadLp⟩ := hread RaydiumV4.offLpMint (by decide)
  simp only [require_of hsize, hreadCoin, hreadPc, hreadCoinMint, hreadPcMint, hreadLp, ok_bind]
  rw [find?_named h hkeys (by simp [namedByPool, hcoin]),
    find?_named h hkeys (by simp [namedByPool, hpc]),
    find?_named h hkeys (by simp [namedByPool, hlp])]

theorem extractPoolData_eq_of_permUpTo (h : PermUpTo (Bystander rt pool poolAddress) l₁ l₂)
    (hkeys : KeyDetermines l₁) :
    extractPoolData pool poolAddress l₁ = extractPoolData pool poolAddress l₂ := by
  rw [extractPoolData, extractPoolData, parse_eq_of_permUpTo h hkeys]

/-! ## The locks -/

namespace UncxV4

variable {lpMint : Pubkey}

theorem LockCandidate.not_bystander {a : AccountInfo} (h : LockCandidate rt poolAddress a) :
    ¬Bystander rt pool poolAddress a :=
  fun hb => hb.owner h.owner

theorem Marker.not_bystander {a : AccountInfo} (h : Marker rt poolAddress a) :
    ¬Bystander rt pool poolAddress a :=
  fun hb => hb.owner h.owner

theorem LockEvidence.of_permUpTo (he : LockEvidence rt lpMint poolAddress l₁)
    (h : PermUpTo (Bystander rt pool poolAddress) l₁ l₂) :
    LockEvidence rt lpMint poolAddress l₂ where
  supplied := by
    refine (h.exists_iff fun a ha => ?_).1 he.supplied
    rcases ha with ⟨hkey, _⟩ | hm
    · exact fun hb => hb.not_marker hkey
    · exact hm.not_bystander
  markers := (h.forall_iff fun a ha hb => hb.owner ha.owner).1 he.markers
  locks := (h.forall_iff fun a ha => ha.not_bystander).1 he.locks
  locked_iff := by
    rw [← h.exists_iff fun a ha => ha.not_bystander, ← h.exists_iff fun a ha => ha.not_bystander]
    exact he.locked_iff

/-- A walk that goes through on one list goes through on the other, with the same total. -/
theorem lockedLpAmount_of_permUpTo (h : PermUpTo (Bystander rt pool poolAddress) l₁ l₂) {v : U64}
    (hv : lockedLpAmount rt lpMint poolAddress l₁ = .ok v) :
    lockedLpAmount rt lpMint poolAddress l₂ = .ok v := by
  rw [lockedLpAmount_iff_evidence] at hv ⊢
  obtain ⟨he, hsum, hcount⟩ := hv
  have hfilter := h.filter_perm (q := (LockCandidate rt poolAddress ·))
    fun a ha => (of_decide_eq_true ha).not_bystander
  rw [List.countP_eq_length_filter, hfilter.length_eq, ← List.countP_eq_length_filter] at hcount
  exact ⟨he.of_permUpTo h, hsum.trans (hfilter.map _).sum_eq, hcount⟩

end UncxV4

/-- What is locked does not depend on the bystanders. -/
theorem lockedLpAmount_iff_of_permUpTo (h : PermUpTo (Bystander rt pool poolAddress) l₁ l₂)
    (lpMint : Pubkey) (v : U64) : lockedLpAmount rt lpMint poolAddress l₁ = .ok v ↔
      lockedLpAmount rt lpMint poolAddress l₂ = .ok v :=
  ⟨UncxV4.lockedLpAmount_of_permUpTo h, UncxV4.lockedLpAmount_of_permUpTo h.symm⟩

/-! ## The evaluation -/

section Evaluation

variable {params : EvaluatePoolParams} {accounts : EvaluateAccounts}

/-- An evaluation with the remaining accounts exchanged. -/
def EvaluateAccounts.withRemaining (accounts : EvaluateAccounts) (l : List AccountInfo) :
    EvaluateAccounts :=
  { accounts with remainingAccounts := l }

/-- Nor does what is gathered. -/
theorem gatherInputs_iff_of_permUpTo
    (h : PermUpTo (Bystander rt accounts.pool params.poolAddress) l₁ l₂)
    (hkeys : KeyDetermines l₁) {clock : Clock} {cfg : ProtocolConfig} {launchPrice : LaunchPrice}
    {anchorEpoch : Option U64} {gathered : PoolData × CriteriaInputs} :
    gatherInputs rt clock cfg launchPrice params (accounts.withRemaining l₁) anchorEpoch =
        .ok gathered ↔
      gatherInputs rt clock cfg launchPrice params (accounts.withRemaining l₂) anchorEpoch =
        .ok gathered := by
  simp only [gatherInputs, EvaluateAccounts.withRemaining, bind_ok_iff,
    extractPoolData_eq_of_permUpTo h hkeys, lockedLpAmount_iff_of_permUpTo h]

/-- Nor does the first phase. -/
theorem evaluatePoolPhase1_iff_of_permUpTo
    (h : PermUpTo (Bystander rt accounts.pool params.poolAddress) l₁ l₂)
    (hkeys : KeyDetermines l₁) {s s' : State} :
    evaluatePoolPhase1 rt s params (accounts.withRemaining l₁) = .ok s' ↔
      evaluatePoolPhase1 rt s params (accounts.withRemaining l₂) = .ok s' := by
  simp only [evaluatePoolPhase1, bind_ok_iff, gatherInputs_iff_of_permUpTo h hkeys]
  rfl

/-- Nor does the second. -/
theorem evaluatePoolPhase2_iff_of_permUpTo
    (h : PermUpTo (Bystander rt accounts.pool params.poolAddress) l₁ l₂)
    (hkeys : KeyDetermines l₁) {s s' : State} :
    evaluatePoolPhase2 rt s params (accounts.withRemaining l₁) = .ok s' ↔
      evaluatePoolPhase2 rt s params (accounts.withRemaining l₂) = .ok s' := by
  simp only [evaluatePoolPhase2, bind_ok_iff, gatherInputs_iff_of_permUpTo h hkeys]
  rfl

end Evaluation

/-- Two lists of remaining accounts that are the same up to order and bystanders give the same pool
data or the same error, the same locked amount, the same bitmap, and the same step of both
phases. -/
theorem accountOrder_irrelevant (rt : Runtime) (params : EvaluatePoolParams)
    (accounts : EvaluateAccounts) {l₁ l₂ : List AccountInfo}
    (h : PermUpTo (Bystander rt accounts.pool params.poolAddress) l₁ l₂)
    (hkeys : KeyDetermines l₁) :
    extractPoolData accounts.pool params.poolAddress l₁ =
      extractPoolData accounts.pool params.poolAddress l₂ ∧
    (∀ lpMint v, lockedLpAmount rt lpMint params.poolAddress l₁ = .ok v ↔
      lockedLpAmount rt lpMint params.poolAddress l₂ = .ok v) ∧
    (∀ clock cfg launchPrice anchorEpoch phase bitmap,
      (∃ poolData inputs, gatherInputs rt clock cfg launchPrice params
          (accounts.withRemaining l₁) anchorEpoch = .ok (poolData, inputs) ∧
        evaluate inputs cfg.thresholds phase = .ok bitmap) ↔
      ∃ poolData inputs, gatherInputs rt clock cfg launchPrice params
          (accounts.withRemaining l₂) anchorEpoch = .ok (poolData, inputs) ∧
        evaluate inputs cfg.thresholds phase = .ok bitmap) ∧
    ∀ s s',
      (evaluatePoolPhase1 rt s params (accounts.withRemaining l₁) = .ok s' ↔
        evaluatePoolPhase1 rt s params (accounts.withRemaining l₂) = .ok s') ∧
      (evaluatePoolPhase2 rt s params (accounts.withRemaining l₁) = .ok s' ↔
        evaluatePoolPhase2 rt s params (accounts.withRemaining l₂) = .ok s') := by
  refine ⟨extractPoolData_eq_of_permUpTo h hkeys, lockedLpAmount_iff_of_permUpTo h,
    fun clock cfg launchPrice anchorEpoch phase bitmap => ?_, fun s s' => ⟨?_, ?_⟩⟩
  · simp only [gatherInputs_iff_of_permUpTo h hkeys]
  · exact evaluatePoolPhase1_iff_of_permUpTo h hkeys
  · exact evaluatePoolPhase2_iff_of_permUpTo h hkeys

/-- An account that nothing looks up. -/
def demoBystander : AccountInfo :=
  ⟨Pubkey.fill 77, defaultPubkey, 5, []⟩

theorem accountOrder_irrelevant_demo : ∃ s',
    evaluatePoolPhase2 demoRuntime (run (exec demoRuntime) (State.genesis demoClock) demoCalls)
      (demoParams 899999) ((demoAccounts 899999).withRemaining
        (demoBystander :: (demoAccounts 899999).remainingAccounts.reverse)) = .ok s' := by
  obtain ⟨s', hs'⟩ := exists_ok_of_isOk isOk_demoPhase2
  have hbystander : Bystander demoRuntime (demoAccounts 899999).pool
      (demoParams 899999).poolAddress demoBystander :=
    ⟨by decide, by decide +kernel, by decide +kernel⟩
  have hperm : PermUpTo (Bystander demoRuntime (demoAccounts 899999).pool
      (demoParams 899999).poolAddress) (demoAccounts 899999).remainingAccounts
      (demoBystander :: (demoAccounts 899999).remainingAccounts.reverse) := by
    refine ⟨(demoAccounts 899999).remainingAccounts, [], [demoBystander], by simp, ?_, ?_⟩
    · exact (List.perm_append_singleton _ _).symm.trans
        ((List.reverse_perm _).append_right _)
    · simpa using hbystander
  have hkeys : KeyDetermines (demoAccounts 899999).remainingAccounts := by
    unfold KeyDetermines
    decide +kernel
  exact ⟨s', ((accountOrder_irrelevant demoRuntime (demoParams 899999) (demoAccounts 899999)
    hperm hkeys).2.2.2 _ s').2.1 hs'⟩

end GraveYield.Scanner
