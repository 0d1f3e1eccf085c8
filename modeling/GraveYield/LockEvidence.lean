import GraveYield.Adapters
import GraveYield.Lib.Sha256

/-!
# The evidence on locks

One walk over the remaining accounts decides whether an LP mint is locked. What an account can do
to the walk is said once (`scanAccount_ok_iff`), and with that the walk is a condition on the list
and a sum (`foldlM_scanAccount`) : `lockedLpAmount_iff_evidence`.

A marker that does not exist is recognised by its lamports and its data, not by its owner. Where
somebody has sent lamports to its address, the proof that nothing was ever locked is not accepted
(`neverLocked_iff`).
-/

namespace GraveYield.Scanner

open Machine Checked

namespace UncxV4

variable {rt : Runtime} {lpMint poolAddress : Pubkey} {account : AccountInfo} {s s' : Scan}

/-! ## One account -/

/-- The account does not exist. -/
def Vacant (account : AccountInfo) : Prop :=
  account.data.length = 0 ∧ account.lamports.val = 0

/-- A locker-owned account that exists and is not the marker of the pool. -/
structure LockCandidate (rt : Runtime) (poolAddress : Pubkey) (account : AccountInfo) : Prop where
  present : ¬(account.data.length = 0 ∧ account.lamports.val = 0)
  owner : account.owner = programId
  not_marker : account.key ≠ markerAddress rt poolAddress

/-- A locker-owned account that exists, at the address of the marker. -/
structure MarkerCandidate (rt : Runtime) (poolAddress : Pubkey) (account : AccountInfo) :
    Prop where
  present : ¬Vacant account
  owner : account.owner = programId
  key : account.key = markerAddress rt poolAddress

/-- The marker of the pool, as the locker program creates it. -/
structure Marker (rt : Runtime) (poolAddress : Pubkey) (account : AccountInfo) : Prop where
  owner : account.owner = programId
  key : account.key = markerAddress rt poolAddress
  size : account.data.length = markerSize
  disc : slice account.data 0 8 = markerDisc

/-- A lock of the pool and the LP mint, at the address of its own id. -/
structure Lock (rt : Runtime) (lpMint poolAddress : Pubkey) (account : AccountInfo) : Prop where
  size : account.data.length = tokenLockSize
  disc : slice account.data 0 8 = tokenLockDisc
  key : account.key = tokenLockAddress rt (leWordAt 8 account.data offLockGlobalId)
  pool : slice account.data offAmmId 32 = poolAddress.val
  mint : slice account.data offLpMint 32 = lpMint.val

/-- What a lock record says is still locked. -/
def currentLockedAmount (account : AccountInfo) : U64 :=
  leWordAt 8 account.data offCurrentLockedAmount

/-- Whether an account is vacant is decided. -/
instance : Decidable (Vacant account) :=
  inferInstanceAs (Decidable (_ ∧ _))

/-- So is whether it is a candidate for a lock. -/
instance : Decidable (LockCandidate rt poolAddress account) :=
  decidable_of_iff (¬Vacant account ∧ account.owner = programId ∧
    account.key ≠ markerAddress rt poolAddress)
    ⟨fun h => ⟨h.1, h.2.1, h.2.2⟩, fun h => ⟨h.present, h.owner, h.not_marker⟩⟩

/-- So is whether it is a candidate for the marker. -/
instance : Decidable (MarkerCandidate rt poolAddress account) :=
  decidable_of_iff (¬Vacant account ∧ account.owner = programId ∧
    account.key = markerAddress rt poolAddress)
    ⟨fun h => ⟨h.1, h.2.1, h.2.2⟩, fun h => ⟨h.present, h.owner, h.key⟩⟩

/-- A marker is a candidate for one. -/
theorem Marker.candidate (h : Marker rt poolAddress account) :
    MarkerCandidate rt poolAddress account := by
  refine ⟨fun hvacant => ?_, h.owner, h.key⟩
  exact absurd (h.size.symm.trans hvacant.1) (by decide)

/-- The walk takes the account for the marker, whether it exists or not. -/
def SuppliesMarker (rt : Runtime) (poolAddress : Pubkey) (account : AccountInfo) : Prop :=
  account.key = markerAddress rt poolAddress ∧ (Vacant account ∨ account.owner = programId)

/-- So is whether an account supplies the marker's address. -/
instance : Decidable (SuppliesMarker rt poolAddress account) :=
  inferInstanceAs (Decidable (_ ∧ _))

/-- A marker is well formed, and so is a lock. Any other account is let through. -/
structure Admissible (rt : Runtime) (lpMint poolAddress : Pubkey) (account : AccountInfo) :
    Prop where
  marker : MarkerCandidate rt poolAddress account → Marker rt poolAddress account
  lock : LockCandidate rt poolAddress account → Lock rt lpMint poolAddress account

/-- What an admissible account adds to the walk. -/
structure Adds (rt : Runtime) (poolAddress : Pubkey) (s : Scan) (account : AccountInfo)
    (s' : Scan) : Prop where
  total : s'.totalLocked.val = s.totalLocked.val +
    if LockCandidate rt poolAddress account then (currentLockedAmount account).val else 0
  locks : s'.locksSeen.val =
    s.locksSeen.val + if LockCandidate rt poolAddress account then 1 else 0
  supplied : s'.markerSupplied =
    (s.markerSupplied || decide (SuppliesMarker rt poolAddress account))
  present : s'.markerPresentOnChain =
    (s.markerPresentOnChain || decide (MarkerCandidate rt poolAddress account))

/-- A scan is its four values. -/
theorem scan_eq_iff {t : Scan} : t = s' ↔ s'.totalLocked.val = t.totalLocked.val ∧
    s'.locksSeen.val = t.locksSeen.val ∧ s'.markerSupplied = t.markerSupplied ∧
    s'.markerPresentOnChain = t.markerPresentOnChain := by
  constructor
  · rintro rfl
    exact ⟨rfl, rfl, rfl, rfl⟩
  · rintro ⟨ht, hn, hs, hp⟩
    cases s'
    cases t
    simp_all [Fin.ext_iff]

/-- When an account is scanned as a lock, and what the scan is then. -/
theorem scanLock_ok_iff : scanLock rt lpMint poolAddress s account = .ok s' ↔
    Lock rt lpMint poolAddress account ∧
      s'.totalLocked.val = s.totalLocked.val + (currentLockedAmount account).val ∧
      s'.locksSeen.val = s.locksSeen.val + 1 ∧ s'.markerSupplied = s.markerSupplied ∧
      s'.markerPresentOnChain = s.markerPresentOnChain := by
  simp only [scanLock, require_bind_ok_iff, okOr_bind_ok_iff, Word.checkedAdd_eq_some, pure_ok_iff]
  constructor
  · rintro ⟨hsize, hdisc, hkey, hpool, hmint, t, ht, n, hn, rfl⟩
    exact ⟨⟨hsize, hdisc, hkey, hpool, hmint⟩, ht, hn, rfl, rfl⟩
  · rintro ⟨h, ht, hn, hs, hp⟩
    exact ⟨h.size, h.disc, h.key, h.pool, h.mint, _, ht, _, hn, scan_eq_iff.2 ⟨rfl, rfl, hs, hp⟩⟩

/-- What one account can do to the walk. -/
theorem scanAccount_ok_iff : scanAccount rt lpMint poolAddress s account = .ok s' ↔
    Admissible rt lpMint poolAddress account ∧ Adds rt poolAddress s account s' := by
  have hadds : Adds rt poolAddress s account s' ↔ _ ∧ _ ∧ _ ∧ _ :=
    ⟨fun h => ⟨h.total, h.locks, h.supplied, h.present⟩, fun h => ⟨h.1, h.2.1, h.2.2.1, h.2.2.2⟩⟩
  rw [hadds, scanAccount]
  by_cases hvacant : account.data.length = 0 ∧ account.lamports.val = 0
  · have hl : ¬LockCandidate rt poolAddress account := fun h => h.present hvacant
    have hm : ¬MarkerCandidate rt poolAddress account := fun h => h.present hvacant
    have hs : SuppliesMarker rt poolAddress account ↔
        account.key = markerAddress rt poolAddress := and_iff_left (Or.inl hvacant)
    have ha : Admissible rt lpMint poolAddress account :=
      ⟨fun h => absurd h hm, fun h => absurd h hl⟩
    rw [if_pos hvacant, pure_ok_iff, scan_eq_iff, and_iff_right ha]
    simp only [hl, hm, hs, if_false, decide_false, Bool.or_false, add_zero]
  rw [if_neg hvacant]
  by_cases howner : account.owner = programId
  swap
  · have hl : ¬LockCandidate rt poolAddress account := fun h => howner h.owner
    have hm : ¬MarkerCandidate rt poolAddress account := fun h => howner h.owner
    have hs : ¬SuppliesMarker rt poolAddress account := fun h => h.2.elim hvacant howner
    have ha : Admissible rt lpMint poolAddress account :=
      ⟨fun h => absurd h hm, fun h => absurd h hl⟩
    rw [if_pos howner, pure_ok_iff, scan_eq_iff, and_iff_right ha]
    simp only [hl, hm, hs, if_false, decide_false, Bool.or_false, add_zero]
  rw [if_neg (not_not.2 howner)]
  by_cases hkey : account.key = markerAddress rt poolAddress
  · have hl : ¬LockCandidate rt poolAddress account := fun h => h.not_marker hkey
    have hm : MarkerCandidate rt poolAddress account := ⟨hvacant, howner, hkey⟩
    have hs : SuppliesMarker rt poolAddress account := ⟨hkey, Or.inr howner⟩
    have ha : Admissible rt lpMint poolAddress account ↔
        account.data.length = markerSize ∧ slice account.data 0 8 = markerDisc := by
      refine ⟨fun h => ⟨(h.marker hm).size, (h.marker hm).disc⟩, fun h => ?_⟩
      exact ⟨fun _ => ⟨howner, hkey, h.1, h.2⟩, fun h => absurd h hl⟩
    simp only [if_pos hkey, require_bind_ok_iff, pure_ok_iff, scan_eq_iff, ha, and_assoc, hl, hm,
      hs, if_false, decide_true, Bool.or_true, add_zero]
  · have hl : LockCandidate rt poolAddress account := ⟨hvacant, howner, hkey⟩
    have hm : ¬MarkerCandidate rt poolAddress account := fun h => hkey h.key
    have hs : ¬SuppliesMarker rt poolAddress account := fun h => hkey h.1
    have ha : Admissible rt lpMint poolAddress account ↔ Lock rt lpMint poolAddress account :=
      ⟨fun h => h.lock hl, fun h => ⟨fun h => absurd h hm, fun _ => h⟩⟩
    rw [if_neg hkey, scanLock_ok_iff, ha]
    simp only [hl, hm, hs, if_true, decide_false, Bool.or_false]

/-! ## The walk -/

/-- Before the walk. -/
def Scan.start : Scan :=
  ⟨false, false, 0, 0⟩

/-- What the lock records of the list say is still locked. -/
def lockedSum (rt : Runtime) (poolAddress : Pubkey) (remaining : List AccountInfo) : ℕ :=
  ((remaining.filter (LockCandidate rt poolAddress ·)).map (currentLockedAmount · |>.val)).sum

/-- One more account adds its amount if it is a candidate. -/
theorem lockedSum_cons (a : AccountInfo) (remaining : List AccountInfo) :
    lockedSum rt poolAddress (a :: remaining) =
      (if LockCandidate rt poolAddress a then (currentLockedAmount a).val else 0) +
        lockedSum rt poolAddress remaining := by
  unfold lockedSum
  split_ifs with h
  · rw [List.filter_cons_of_pos (by simpa using h), List.map_cons, List.sum_cons]
  · rw [List.filter_cons_of_neg (by simpa using h), zero_add]

/-- The walk goes through iff every account is admissible and the total and the count fit. -/
theorem foldlM_scanAccount {remaining : List AccountInfo} :
    remaining.foldlM (scanAccount rt lpMint poolAddress) s = .ok s' ↔
      (∀ a ∈ remaining, Admissible rt lpMint poolAddress a) ∧
        s'.totalLocked.val = s.totalLocked.val + lockedSum rt poolAddress remaining ∧
        s'.locksSeen.val =
          s.locksSeen.val + remaining.countP (LockCandidate rt poolAddress ·) ∧
        s'.markerSupplied =
          (s.markerSupplied || remaining.any (SuppliesMarker rt poolAddress ·)) ∧
        s'.markerPresentOnChain =
          (s.markerPresentOnChain || remaining.any (MarkerCandidate rt poolAddress ·)) := by
  induction remaining generalizing s with
  | nil =>
    rw [List.foldlM_nil, pure_ok_iff, scan_eq_iff]
    simp [lockedSum]
  | cons a remaining ih =>
    have hcount : (a :: remaining).countP (LockCandidate rt poolAddress ·) =
        remaining.countP (LockCandidate rt poolAddress ·) +
          if LockCandidate rt poolAddress a then 1 else 0 := by
      simp only [List.countP_cons, decide_eq_true_eq]
    simp only [List.foldlM_cons, bind_ok_iff, scanAccount_ok_iff, ih, List.forall_mem_cons,
      lockedSum_cons, hcount, List.any_cons, ← Bool.or_assoc]
    constructor
    · rintro ⟨mid, ⟨ha, hadds⟩, hrest, ht, hn, hs, hp⟩
      rw [hadds.total] at ht
      rw [hadds.locks] at hn
      rw [hadds.supplied] at hs
      rw [hadds.present] at hp
      exact ⟨⟨ha, hrest⟩, by omega, by omega, hs, hp⟩
    · rintro ⟨⟨ha, hrest⟩, ht, hn, hs, hp⟩
      -- what was added so far is at most what is there in the end, so it fits
      have hfitT := s'.totalLocked.isLt
      have hfitL := s'.locksSeen.isLt
      refine ⟨⟨_, _, ⟨s.locksSeen.val + if LockCandidate rt poolAddress a then 1 else 0, by omega⟩,
        ⟨s.totalLocked.val + if LockCandidate rt poolAddress a then
          (currentLockedAmount a).val else 0, by omega⟩⟩, ⟨ha, rfl, rfl, rfl, rfl⟩, hrest, ?_, ?_,
        hs, hp⟩
      · dsimp only
        omega
      · dsimp only
        omega

/-- What the accounts have to say on the locks of the pool : the marker is supplied, every marker
and every lock is well formed, and there is a lock iff the marker exists. -/
structure LockEvidence (rt : Runtime) (lpMint poolAddress : Pubkey)
    (remaining : List AccountInfo) : Prop where
  supplied : ∃ a ∈ remaining, a.key = markerAddress rt poolAddress ∧ Vacant a ∨
    Marker rt poolAddress a
  markers : ∀ a ∈ remaining, MarkerCandidate rt poolAddress a → Marker rt poolAddress a
  locks : ∀ a ∈ remaining, LockCandidate rt poolAddress a → Lock rt lpMint poolAddress a
  locked_iff : (∃ a ∈ remaining, LockCandidate rt poolAddress a) ↔
    ∃ a ∈ remaining, Marker rt poolAddress a

section Evidence

variable {remaining : List AccountInfo} {v : U64}

/-- Whether some account has a property. -/
theorem any_iff {p : AccountInfo → Prop} [DecidablePred p] :
    remaining.any (p ·) = true ↔ ∃ a ∈ remaining, p a := by
  simp only [List.any_eq_true, decide_eq_true_eq]

/-- Properties that agree on the accounts have the same answer. -/
theorem any_congr {p q : AccountInfo → Prop} [DecidablePred p] [DecidablePred q]
    (h : ∀ a ∈ remaining, p a ↔ q a) : remaining.any (p ·) = remaining.any (q ·) := by
  rw [Bool.eq_iff_iff, any_iff, any_iff]
  exact exists_congr fun a => and_congr_right (h a)

/-- Where every account is admissible, the marker is supplied iff it is well formed or vacant. -/
theorem supplied_iff (h : ∀ a ∈ remaining, Admissible rt lpMint poolAddress a) :
    (∃ a ∈ remaining, SuppliesMarker rt poolAddress a) ↔
      ∃ a ∈ remaining, a.key = markerAddress rt poolAddress ∧ Vacant a ∨
        Marker rt poolAddress a := by
  constructor
  · rintro ⟨a, ha, hkey, hvacant | howner⟩
    · exact ⟨a, ha, Or.inl ⟨hkey, hvacant⟩⟩
    · by_cases hvacant : Vacant a
      · exact ⟨a, ha, Or.inl ⟨hkey, hvacant⟩⟩
      · exact ⟨a, ha, Or.inr ((h a ha).marker ⟨hvacant, howner, hkey⟩)⟩
  · rintro ⟨a, ha, ⟨hkey, hvacant⟩ | hm⟩
    · exact ⟨a, ha, hkey, Or.inl hvacant⟩
    · exact ⟨a, ha, hm.key, Or.inr hm.owner⟩

/-- Among admissible accounts a candidate for the marker is the marker. -/
theorem present_iff (h : ∀ a ∈ remaining, Admissible rt lpMint poolAddress a) :
    (∃ a ∈ remaining, MarkerCandidate rt poolAddress a) ↔
      ∃ a ∈ remaining, Marker rt poolAddress a :=
  exists_congr fun a => and_congr_right fun ha => ⟨(h a ha).marker, Marker.candidate⟩

/-- The walk decides the evidence, and adds up the locks. -/
theorem lockedLpAmount_iff_evidence : lockedLpAmount rt lpMint poolAddress remaining = .ok v ↔
    LockEvidence rt lpMint poolAddress remaining ∧ v.val = lockedSum rt poolAddress remaining ∧
      remaining.countP (LockCandidate rt poolAddress ·) < 2 ^ 32 := by
  have hpos : 0 < remaining.countP (LockCandidate rt poolAddress ·) ↔
      ∃ a ∈ remaining, LockCandidate rt poolAddress a := by
    simp only [List.countP_pos_iff, decide_eq_true_eq]
  simp only [lockedLpAmount, bind_ok_iff, foldlM_scanAccount, require_ok_iff, Bool.false_or]
  constructor
  · rintro ⟨s, ⟨hadm, ht, hn, hs, hp⟩, _, hsupplied, h⟩
    have hfits := s.locksSeen.isLt
    have hzero : (0 : U32).val = 0 := rfl
    rw [hzero, zero_add] at hn
    rw [hs, any_iff, supplied_iff hadm] at hsupplied
    have hlocked : 0 < s.locksSeen.val ↔ s.markerPresentOnChain = true := by
      split_ifs at h with hpresent
      · rw [require_bind_ok_iff] at h
        exact iff_of_true h.1 hpresent
      · rw [require_bind_ok_iff] at h
        exact iff_of_false (by omega) hpresent
    have hv : s.totalLocked = v := by
      split_ifs at h with hpresent
      · exact pure_ok_iff.1 (require_bind_ok_iff.1 h).2
      · exact pure_ok_iff.1 (require_bind_ok_iff.1 h).2
    rw [hp, any_iff, present_iff hadm, hn, hpos] at hlocked
    refine ⟨⟨hsupplied, fun a ha => (hadm a ha).marker, fun a ha => (hadm a ha).lock, hlocked⟩, ?_,
      hn ▸ hfits⟩
    rw [← hv, ht]
    exact zero_add _
  · rintro ⟨h, hv, hfits⟩
    have hadm : ∀ a ∈ remaining, Admissible rt lpMint poolAddress a :=
      fun a ha => ⟨h.markers a ha, h.locks a ha⟩
    refine ⟨⟨_, _, ⟨_, hfits⟩, v⟩, ⟨hadm, hv.trans (zero_add _).symm, (zero_add _).symm, rfl, rfl⟩,
      (), any_iff.2 ((supplied_iff hadm).2 h.supplied), ?_⟩
    have hlocked := h.locked_iff
    rw [← hpos, ← present_iff hadm, ← any_iff] at hlocked
    split_ifs with hpresent
    · exact require_bind_ok_iff.2 ⟨hlocked.2 hpresent, rfl⟩
    · refine require_bind_ok_iff.2 ⟨?_, rfl⟩
      exact Nat.eq_zero_of_not_pos fun hlock => hpresent (hlocked.1 hlock)

/-- If nothing is locked each candidate holds zero. -/
theorem eq_zero_of_lockedSum (h : lockedSum rt poolAddress remaining = 0) {a : AccountInfo}
    (ha : a ∈ remaining) (hc : LockCandidate rt poolAddress a) : currentLockedAmount a = 0 := by
  refine Fin.ext (List.sum_eq_zero_iff.1 h _ ?_)
  exact List.mem_map.2 ⟨a, List.mem_filter.2 ⟨ha, by simpa using hc⟩, rfl⟩

end Evidence

/-! ## A runtime -/

/-- A runtime that derives distinct addresses for distinct locks, and another for markers. -/
def lockRuntime : Runtime where
  sha256 := Machine.sha256
  findProgramAddress
    | [seed, id], _ => if seed = tokenLockSeed then
        (Bytes.ofList? 32 (id ++ List.replicate 24 0)).getD defaultPubkey else Pubkey.fill 255
    | _, _ => defaultPubkey
  rentMinimumBalance _ := 0

/-- The lock of id `i` and of amount `amount`, owned by its pool. -/
def lockAt (lpMint poolAddress : Pubkey) (amount i : ℕ) : AccountInfo where
  key := ⟨leBytes 8 i ++ List.replicate 24 0, by simp⟩
  owner := programId
  lamports := 1
  data := tokenLockDisc ++ ([0] ++ (poolAddress.val ++ (lpMint.val ++ (leBytes 8 i ++
    (List.replicate 25 0 ++ (leBytes 8 amount ++ poolAddress.val))))))

/-- The marker of a pool with locks. -/
def lockMarker : AccountInfo :=
  ⟨Pubkey.fill 255, programId, 1, markerDisc ++ [0]⟩

/-- The marker of every pool has one address here. -/
theorem markerAddress_lockRuntime (poolAddress : Pubkey) :
    markerAddress lockRuntime poolAddress = Pubkey.fill 255 := by
  simp [markerAddress, lockRuntime, markerSeed, tokenLockSeed]

/-- The marker account is the marker of every pool. -/
theorem marker_lockMarker (poolAddress : Pubkey) : Marker lockRuntime poolAddress lockMarker :=
  ⟨rfl, (markerAddress_lockRuntime poolAddress).symm, by decide, by decide⟩

/-- A lock account is a candidate. -/
theorem lockCandidate_lockAt (lpMint poolAddress : Pubkey) (amount i : ℕ) :
    LockCandidate lockRuntime poolAddress (lockAt lpMint poolAddress amount i) := by
  refine ⟨fun h => ?_, rfl, fun h => ?_⟩
  · exact absurd h.2 (by decide : ¬(1 : U64).val = 0)
  · have hlast := congrArg (fun k : Pubkey => k.val[31]?) h
    simp [lockAt, markerAddress, lockRuntime, markerSeed, tokenLockSeed, Pubkey.fill] at hlast

section LockAt

variable {amount i : ℕ}

/-- What stands in the fields of a lock. -/
theorem slice_lockAt (lpMint poolAddress : Pubkey) :
    slice (lockAt lpMint poolAddress amount i).data 0 8 = tokenLockDisc ∧
      slice (lockAt lpMint poolAddress amount i).data 9 32 = poolAddress.val ∧
      slice (lockAt lpMint poolAddress amount i).data 41 32 = lpMint.val ∧
      slice (lockAt lpMint poolAddress amount i).data 73 8 = leBytes 8 i ∧
      slice (lockAt lpMint poolAddress amount i).data 106 8 = leBytes 8 amount ∧
      slice (lockAt lpMint poolAddress amount i).data 114 32 = poolAddress.val := by
  have hdisc : tokenLockDisc.length = 8 := rfl
  simp (disch := simp [hdisc]) only [lockAt, slice_append_right, slice_head, slice_all, hdisc,
    List.length_singleton, Bytes.length_val, length_leBytes, List.length_replicate, Nat.reduceSub,
    and_self]

/-- The id of a lock account is read back. -/
theorem lockGlobalId_lockAt (lpMint poolAddress : Pubkey) (hi : i < 2 ^ 64) :
    leWordAt 8 (lockAt lpMint poolAddress amount i).data offLockGlobalId = ⟨i, hi⟩ :=
  Fin.ext (leWordAt_of_slice (k := 8) hi (slice_lockAt lpMint poolAddress).2.2.2.1)

/-- So is its amount. -/
theorem currentLockedAmount_lockAt (lpMint poolAddress : Pubkey) (ha : amount < 2 ^ 64) :
    currentLockedAmount (lockAt lpMint poolAddress amount i) = ⟨amount, ha⟩ :=
  Fin.ext (leWordAt_of_slice (k := 8) ha (slice_lockAt lpMint poolAddress).2.2.2.2.1)

/-- A lock account is a lock. -/
theorem lock_lockAt (lpMint poolAddress : Pubkey) (hi : i < 2 ^ 64) :
    Lock lockRuntime lpMint poolAddress (lockAt lpMint poolAddress amount i) := by
  obtain ⟨hdisc, hpool, hmint, _⟩ := @slice_lockAt amount i lpMint poolAddress
  refine ⟨?_, hdisc, ?_, hpool, hmint⟩
  · have hlength : tokenLockDisc.length = 8 := rfl
    simp [lockAt, hlength, tokenLockSize]
  · rw [lockGlobalId_lockAt lpMint poolAddress hi]
    simp [lockAt, tokenLockAddress, lockRuntime, Bytes.ofList?]

end LockAt

/-! ## The decision -/

/-- Over fewer than `2 ^ 32` accounts, with repetitions, the walk decides the evidence and returns
the sum of the locks if that fits ; and where the marker exists and nothing is locked, every lock
that was supplied is withdrawn. -/
theorem lockedLpAmount_decides (rt : Runtime) (lpMint poolAddress : Pubkey)
    {remaining : List AccountInfo} (hlength : remaining.length < 2 ^ 32) :
    (∀ v, lockedLpAmount rt lpMint poolAddress remaining = .ok v ↔
      LockEvidence rt lpMint poolAddress remaining ∧
        v.val = lockedSum rt poolAddress remaining) ∧
    (lockedLpAmount rt lpMint poolAddress remaining = .ok 0 →
      (∃ a ∈ remaining, Marker rt poolAddress a) →
      (∃ a ∈ remaining, LockCandidate rt poolAddress a) ∧
        ∀ a ∈ remaining, LockCandidate rt poolAddress a →
          Lock rt lpMint poolAddress a ∧ currentLockedAmount a = 0) := by
  have hfits : remaining.countP (LockCandidate rt poolAddress ·) < 2 ^ 32 :=
    (List.countP_le_length).trans_lt hlength
  refine ⟨fun v => ?_, fun h hm => ?_⟩
  · rw [lockedLpAmount_iff_evidence, and_iff_left hfits]
  · obtain ⟨he, hsum, _⟩ := lockedLpAmount_iff_evidence.1 h
    refine ⟨he.locked_iff.2 hm, fun a ha hc => ⟨he.locks a ha hc, ?_⟩⟩
    exact eq_zero_of_lockedSum hsum.symm ha hc

/-- The marker between two locks, the first of which is supplied twice and counts twice. -/
theorem lockedLpAmount_decides_demo :
    lockedLpAmount lockRuntime (Pubkey.fill 2) (Pubkey.fill 1)
      [lockAt (Pubkey.fill 2) (Pubkey.fill 1) 5 7, lockMarker,
        lockAt (Pubkey.fill 2) (Pubkey.fill 1) 30 8,
        lockAt (Pubkey.fill 2) (Pubkey.fill 1) 5 7] = .ok 40 := by
  have hm := marker_lockMarker (Pubkey.fill 1)
  have hmc : ¬LockCandidate lockRuntime (Pubkey.fill 1) lockMarker := fun h => h.not_marker hm.key
  have hcm (amount i : ℕ) : ¬MarkerCandidate lockRuntime (Pubkey.fill 1)
      (lockAt (Pubkey.fill 2) (Pubkey.fill 1) amount i) :=
    fun h => (lockCandidate_lockAt _ _ _ _).not_marker h.key
  refine ((lockedLpAmount_decides lockRuntime (Pubkey.fill 2) (Pubkey.fill 1) (by simp)).1 40).2
    ⟨⟨⟨lockMarker, by simp, Or.inr hm⟩, ?_, ?_, ?_⟩, ?_⟩
  · simpa [hcm] using fun _ => hm
  · simp [hmc, lock_lockAt (Pubkey.fill 2) (Pubkey.fill 1) (by decide : 7 < 2 ^ 64),
      lock_lockAt (Pubkey.fill 2) (Pubkey.fill 1) (by decide : 8 < 2 ^ 64)]
  · simp [lockCandidate_lockAt, hm]
  · have hfirst := @currentLockedAmount_lockAt 5 7 (Pubkey.fill 2) (Pubkey.fill 1) (by decide)
    have hsecond := @currentLockedAmount_lockAt 30 8 (Pubkey.fill 2) (Pubkey.fill 1) (by decide)
    simp [lockedSum, lockCandidate_lockAt, hmc, hfirst, hsecond]

/-! ## Pools without a lock -/

/-- Where no account is owned by the locker program, nothing is locked iff the marker is among them
without data and without lamports. -/
theorem neverLocked_iff (rt : Runtime) (lpMint poolAddress : Pubkey)
    {remaining : List AccountInfo}
    (howner : ∀ a ∈ remaining, a.owner ≠ programId) :
    lockedLpAmount rt lpMint poolAddress remaining = .ok 0 ↔
      ∃ a ∈ remaining, a.key = markerAddress rt poolAddress ∧ a.data.length = 0 ∧
        a.lamports.val = 0 := by
  have hlocks : ∀ a ∈ remaining, ¬LockCandidate rt poolAddress a :=
    fun a ha h => howner a ha h.owner
  have hmarkers : ∀ a ∈ remaining, ¬Marker rt poolAddress a := fun a ha h => howner a ha h.owner
  have hsum : lockedSum rt poolAddress remaining = 0 := by
    rw [lockedSum, List.filter_eq_nil_iff.2 (by simpa using hlocks)]
    rfl
  have hcount : remaining.countP (LockCandidate rt poolAddress ·) = 0 :=
    List.countP_eq_zero.2 (by simpa using hlocks)
  rw [lockedLpAmount_iff_evidence, hsum, hcount]
  constructor
  · rintro ⟨h, _⟩
    obtain ⟨a, ha, hvacant | hm⟩ := h.supplied
    · exact ⟨a, ha, hvacant⟩
    · exact absurd hm (hmarkers a ha)
  · rintro ⟨a, ha, hvacant⟩
    refine ⟨⟨⟨a, ha, Or.inl hvacant⟩, fun a ha h => absurd h.owner (howner a ha),
      fun a ha h => absurd h (hlocks a ha), ?_⟩, rfl, by decide⟩
    exact iff_of_false (fun ⟨a, ha, h⟩ => hlocks a ha h) (fun ⟨a, ha, h⟩ => hmarkers a ha h)

/-- The address of the marker, which somebody has sent the rent of an empty account to. -/
def prefundedMarker : AccountInfo :=
  ⟨Pubkey.fill 255, defaultPubkey, 890880, []⟩

/-- A vacant account at the marker's address proves that nothing was locked. -/
theorem neverLocked_iff_demo :
    lockedLpAmount lockRuntime (Pubkey.fill 2) (Pubkey.fill 1)
      [{ prefundedMarker with lamports := 0 }] = .ok 0 := by
  have hkey := markerAddress_lockRuntime (Pubkey.fill 1)
  exact (neverLocked_iff lockRuntime (Pubkey.fill 2) (Pubkey.fill 1) (by decide)).2
    ⟨_, List.mem_singleton_self _, hkey.symm, rfl, rfl⟩

/-- A pool that never was locked is refused once its marker has lamports. -/
theorem prefundedMarker_refused :
    prefundedMarker.key = markerAddress lockRuntime (Pubkey.fill 1) ∧
    prefundedMarker.owner ≠ programId ∧
    lockedLpAmount lockRuntime (Pubkey.fill 2) (Pubkey.fill 1) [prefundedMarker] =
      .error (.scanner .lockerMarkerAccountRequired) := by
  refine ⟨(markerAddress_lockRuntime (Pubkey.fill 1)).symm, by decide, ?_⟩
  decide

end UncxV4

end GraveYield.Scanner
