import GraveYield.LockEvidence
import GraveYield.Reconciliation

/-!
# Lock records, on chain and off

The scanner and the snapshotter validate UNCX lock records with two copies of one layout.
`scanAccount_eq_addLock` and `isOk_scanAccount_iff` : they accept the same accounts and read the
same amount, so that over a marker and any number of accepted records the scanner arrives at
the total that the snapshotter attributes (`lockedLpAmount_eq`). The scanner counts the records on
32 bits, and refuses `2 ^ 32` of them even if nothing is locked (`manyLocks_refused`).
-/

namespace GraveYield.Snapshotter

open Machine Checked

/-! ## The parser of the snapshotter -/

namespace Uncx

/-- `GsSCS3vPWrtJ5Y9aEVVT65fmrex5P5RGHXdZvsdbWgfo`. -/
def programId : Pubkey :=
  Bytes.ofNat 32 0xebcad5b5a3869c094b749546e7981be86f0801540a861e7a1c930f69ccb19b6e

/-- The discriminator of a lock. -/
def tokenLockDisc : List Byte := [0x49, 0xe4, 0x90, 0xf1, 0x9a, 0x2c, 0x5d, 0xee]

/-- `b"uncx_locker"`. -/
def tokenLockSeed : List Byte :=
  [0x75, 0x6e, 0x63, 0x78, 0x5f, 0x6c, 0x6f, 0x63, 0x6b, 0x65, 0x72]

/-- The size of a lock. -/
def tokenLockSize : ℕ := 146

/-- Where the pool stands in a lock. -/
def offAmmId : ℕ := 9

/-- Where the LP mint stands. -/
def offLpMint : ℕ := 41

/-- Where the id of the lock stands. -/
def offLockGlobalId : ℕ := 73

/-- Where the amount that is still locked stands. -/
def offCurrentLockedAmount : ℕ := 106

/-- Where the owner of the lock stands. -/
def offLockOwner : ℕ := 114

/-- The address of a lock, from its id. -/
def tokenLockAddress (rt : Runtime) (lockGlobalId : U64) : Pubkey :=
  rt.findProgramAddress [tokenLockSeed, leBytes 8 lockGlobalId.val] programId

end Uncx

/-- `SnapshotError::LockRecordInvalid`. -/
structure LockRecordInvalid where
  address : Pubkey
  reason : String
  deriving DecidableEq

/-- `TokenLockRecord::parse`. -/
def TokenLockRecord.parse (rt : Runtime) (address : Pubkey) (data : List Byte)
    (ammId lpMint : Pubkey) : Except LockRecordInvalid TokenLockRecord := do
  let invalid := fun reason => LockRecordInvalid.mk address reason
  require (data.length = Uncx.tokenLockSize) (invalid "size")
  require (slice data 0 8 = Uncx.tokenLockDisc) (invalid "discriminator")
  let lockGlobalId : U64 := leWordAt 8 data Uncx.offLockGlobalId
  require (address = Uncx.tokenLockAddress rt lockGlobalId) (invalid "pda re-derivation")
  require (slice data Uncx.offAmmId 32 = ammId.val) (invalid "amm_id binding")
  require (slice data Uncx.offLpMint 32 = lpMint.val) (invalid "lp_mint binding")
  let lockOwner ← okOr (Bytes.ofList? 32 (slice data Uncx.offLockOwner 32))
    (invalid "lock_owner slice")
  return ⟨address, lockGlobalId, leWordAt 8 data Uncx.offCurrentLockedAmount, lockOwner⟩

end GraveYield.Snapshotter

namespace GraveYield.Scanner

open Machine Checked Snapshotter

namespace UncxV4

variable {rt : Runtime} {lpMint poolAddress : Pubkey} {account : AccountInfo} {s s' : Scan}

/-! ## One record -/

/-- One more lock of `amount` : the checked part of the walk. -/
def Scan.addLock (s : Scan) (amount : U64) : Except ProgramError Scan := do
  let totalLocked ← okOr (s.totalLocked.checkedAdd amount) (.scanner .mathOverflow)
  let locksSeen ← okOr (s.locksSeen.checkedAdd 1) (.scanner .mathOverflow)
  return { s with totalLocked, locksSeen }

/-- When a lock is added, and what the scan is then. -/
theorem addLock_ok_iff {amount : U64} : s.addLock amount = .ok s' ↔
    s'.totalLocked.val = s.totalLocked.val + amount.val ∧
      s'.locksSeen.val = s.locksSeen.val + 1 ∧ s'.markerSupplied = s.markerSupplied ∧
      s'.markerPresentOnChain = s.markerPresentOnChain := by
  simp only [Scan.addLock, okOr_bind_ok_iff, Word.checkedAdd_eq_some, pure_ok_iff]
  constructor
  · rintro ⟨t, ht, l, hl, rfl⟩
    exact ⟨ht, hl, rfl, rfl⟩
  · rintro ⟨ht, hl, hs, hp⟩
    refine ⟨_, ht, _, hl, ?_⟩
    cases s'
    simp_all

/-- The checks of the parser, and what it reads. -/
theorem parse_ok_iff {address : Pubkey} {data : List Byte} {ammId : Pubkey}
    {r : TokenLockRecord} : TokenLockRecord.parse rt address data ammId lpMint = .ok r ↔
      data.length = tokenLockSize ∧ slice data 0 8 = tokenLockDisc ∧
      address = tokenLockAddress rt (leWordAt 8 data offLockGlobalId) ∧
      slice data offAmmId 32 = ammId.val ∧ slice data offLpMint 32 = lpMint.val ∧
      slice data Uncx.offLockOwner 32 = r.lockOwner.val ∧
      r = ⟨address, leWordAt 8 data offLockGlobalId, leWordAt 8 data offCurrentLockedAmount,
        r.lockOwner⟩ := by
  simp only [TokenLockRecord.parse, require_bind_ok_iff, okOr_bind_ok_iff, Bytes.ofList?_eq_some,
    pure_ok_iff]
  refine and_congr_right fun _ => and_congr_right fun _ => and_congr_right fun _ =>
    and_congr_right fun _ => and_congr_right fun _ => ?_
  constructor
  · rintro ⟨o, ho, rfl⟩
    exact ⟨ho.symm, rfl⟩
  · rintro ⟨ho, hr⟩
    exact ⟨r.lockOwner, ho.symm, hr.symm⟩

/-- A candidate is scanned as a lock. -/
theorem scanAccount_candidate (hc : LockCandidate rt poolAddress account) :
    scanAccount rt lpMint poolAddress s account = scanLock rt lpMint poolAddress s account := by
  rw [scanAccount, if_neg hc.present, if_neg (not_not.2 hc.owner), if_neg hc.not_marker]

/-- On a record that the snapshotter accepts, the scanner adds the amount that it reads. -/
theorem scanAccount_eq_addLock (hc : LockCandidate rt poolAddress account) {r : TokenLockRecord}
    (hr : TokenLockRecord.parse rt account.key account.data poolAddress lpMint = .ok r)
    (s : Scan) :
    scanAccount rt lpMint poolAddress s account = s.addLock r.currentLockedAmount := by
  obtain ⟨hsize, hdisc, hkey, hamm, hmint, _, hr⟩ := parse_ok_iff.1 hr
  rw [scanAccount_candidate hc, scanLock, require_of hsize, ok_bind, require_of hdisc, ok_bind]
  dsimp only
  rw [require_of hkey, ok_bind, require_of hamm, ok_bind, require_of hmint, ok_bind, hr]
  rfl

/-- An account is a lock for the scanner iff the snapshotter can read it. -/
theorem lock_iff_parse : Lock rt lpMint poolAddress account ↔
    ∃ r, TokenLockRecord.parse rt account.key account.data poolAddress lpMint = .ok r := by
  constructor
  · intro h
    have howner : (slice account.data Uncx.offLockOwner 32).length = 32 := by
      apply length_slice
      rw [h.size]
      decide
    exact ⟨⟨_, _, _, ⟨_, howner⟩⟩,
      parse_ok_iff.2 ⟨h.size, h.disc, h.key, h.pool, h.mint, rfl, rfl⟩⟩
  · rintro ⟨r, hr⟩
    obtain ⟨hsize, hdisc, hkey, hamm, hmint, _⟩ := parse_ok_iff.1 hr
    exact ⟨hsize, hdisc, hkey, hamm, hmint⟩

/-- The scanner accepts an account as a lock iff the snapshotter does. -/
theorem isOk_scanAccount_iff (hc : LockCandidate rt poolAddress account) :
    (∃ s', scanAccount rt lpMint poolAddress Scan.start account = .ok s') ↔
      ∃ r, TokenLockRecord.parse rt account.key account.data poolAddress lpMint = .ok r := by
  constructor
  · rintro ⟨s', h⟩
    exact lock_iff_parse.1 ((scanAccount_ok_iff.1 h).1.lock hc)
  · rintro ⟨r, hr⟩
    rw [scanAccount_eq_addLock hc hr]
    refine ⟨⟨false, false, 1, r.currentLockedAmount⟩, addLock_ok_iff.2 ⟨?_, rfl, rfl, rfl⟩⟩
    exact (zero_add _).symm

/-! ## The walk -/

/-- The marker, or a record that the snapshotter accepts. -/
def Evidence (rt : Runtime) (lpMint poolAddress : Pubkey) (a : AccountInfo) : Prop :=
  Marker rt poolAddress a ∨ LockCandidate rt poolAddress a ∧
    ∃ r, TokenLockRecord.parse rt a.key a.data poolAddress lpMint = .ok r

theorem Evidence.admissible (h : Evidence rt lpMint poolAddress account) :
    Admissible rt lpMint poolAddress account := by
  rcases h with hm | ⟨hc, hparse⟩
  · exact ⟨fun _ => hm, fun h => absurd hm.key h.not_marker⟩
  · exact ⟨fun h => absurd h.key hc.not_marker, fun _ => lock_iff_parse.2 hparse⟩

/-- Evidence is a lock unless it stands at the address of the marker, -/
theorem Evidence.lockCandidate_iff (h : Evidence rt lpMint poolAddress account) :
    LockCandidate rt poolAddress account ↔ account.key ≠ markerAddress rt poolAddress := by
  rcases h with hm | ⟨hc, _⟩
  · exact iff_of_false (fun h => h.not_marker hm.key) (not_not.2 hm.key)
  · exact iff_of_true hc hc.not_marker

/-- and there it is the marker. -/
theorem Evidence.marker_iff (h : Evidence rt lpMint poolAddress account) :
    (SuppliesMarker rt poolAddress account ↔ account.key = markerAddress rt poolAddress) ∧
      (MarkerCandidate rt poolAddress account ↔ account.key = markerAddress rt poolAddress) := by
  rcases h with hm | ⟨hc, _⟩
  · exact ⟨iff_of_true ⟨hm.key, Or.inr hm.owner⟩ hm.key, iff_of_true hm.candidate hm.key⟩
  · exact ⟨iff_of_false (fun h => hc.not_marker h.1) hc.not_marker,
      iff_of_false (fun h => hc.not_marker h.key) hc.not_marker⟩

/-- What a piece of evidence adds to the total. -/
def lockAmount (rt : Runtime) (poolAddress : Pubkey) (a : AccountInfo) : ℕ :=
  if a.key = markerAddress rt poolAddress then 0
  else (leWordAt 8 a.data offCurrentLockedAmount).val

/-- What is locked is the sum of the locks. -/
theorem lockedSum_evidence {remaining : List AccountInfo}
    (h : ∀ a ∈ remaining, Evidence rt lpMint poolAddress a) :
    lockedSum rt poolAddress remaining = (remaining.map (lockAmount rt poolAddress)).sum := by
  induction remaining with
  | nil => rfl
  | cons a remaining ih =>
    rw [List.forall_mem_cons] at h
    rw [lockedSum_cons, ih h.2, List.map_cons, List.sum_cons, lockAmount,
      if_congr h.1.lockCandidate_iff rfl rfl, ite_not]
    rfl

/-- The walk over evidence in any order adds up the amounts and counts the records, as long as
both fit. -/
theorem foldlM_evidence {remaining : List AccountInfo}
    (h : ∀ a ∈ remaining, Evidence rt lpMint poolAddress a) :
    remaining.foldlM (scanAccount rt lpMint poolAddress) s = .ok s' ↔
      s'.totalLocked.val =
          s.totalLocked.val + (remaining.map (lockAmount rt poolAddress)).sum ∧
        s'.locksSeen.val = s.locksSeen.val +
          remaining.countP (fun a => a.key ≠ markerAddress rt poolAddress) ∧
        s'.markerSupplied = (s.markerSupplied ||
          remaining.any fun a => a.key = markerAddress rt poolAddress) ∧
        s'.markerPresentOnChain = (s.markerPresentOnChain ||
          remaining.any fun a => a.key = markerAddress rt poolAddress) := by
  have hcount : remaining.countP (LockCandidate rt poolAddress ·) =
      remaining.countP (fun a => a.key ≠ markerAddress rt poolAddress) :=
    List.countP_congr fun a ha => by simpa using (h a ha).lockCandidate_iff
  have hsupplied : remaining.any (SuppliesMarker rt poolAddress ·) =
      remaining.any fun a => a.key = markerAddress rt poolAddress :=
    any_congr fun a ha => (h a ha).marker_iff.1
  have hpresent : remaining.any (MarkerCandidate rt poolAddress ·) =
      remaining.any fun a => a.key = markerAddress rt poolAddress :=
    any_congr fun a ha => (h a ha).marker_iff.2
  rw [foldlM_scanAccount, lockedSum_evidence h, hcount, hsupplied, hpresent]
  exact and_iff_right fun a ha => (h a ha).admissible

/-- The locks add up to the records. -/
theorem sum_lockAmount {locks : List AccountInfo} {records : List TokenLockRecord}
    (hc : ∀ a ∈ locks, LockCandidate rt poolAddress a)
    (hr : locks.mapM (fun a => TokenLockRecord.parse rt a.key a.data poolAddress lpMint) =
      .ok records) : (locks.map (lockAmount rt poolAddress)).sum = lockedTotal records := by
  induction mapM_ok_iff.1 hr with
  | nil => rfl
  | cons hparse hrest ih =>
    rename_i a r locks records
    rw [List.forall_mem_cons] at hc
    have hamount : lockAmount rt poolAddress a = r.currentLockedAmount.val := by
      rw [lockAmount, if_neg hc.1.not_marker, (parse_ok_iff.1 hparse).2.2.2.2.2.2]
    rw [List.map_cons, List.sum_cons, ih hc.2 (mapM_ok_iff.2 hrest), hamount]
    rfl

/-- A marker and records that the snapshotter accepts, in any order : the scanner's total is what
the snapshotter attributes, as long as there are fewer than `2 ^ 32` records. -/
theorem lockedLpAmount_ok_iff {marker : AccountInfo} {locks remaining : List AccountInfo}
    {records : List TokenLockRecord} (hm : Marker rt poolAddress marker) (hne : locks ≠ [])
    (hc : ∀ a ∈ locks, LockCandidate rt poolAddress a)
    (hr : locks.mapM (fun a => TokenLockRecord.parse rt a.key a.data poolAddress lpMint) =
      .ok records) (hp : remaining.Perm (marker :: locks)) {t : U64} :
    lockedLpAmount rt lpMint poolAddress remaining = .ok t ↔
      t.val = lockedTotal records ∧ locks.length < 2 ^ 32 := by
  have hevidence : ∀ a ∈ remaining, Evidence rt lpMint poolAddress a := by
    intro a ha
    rcases List.mem_cons.1 (hp.mem_iff.1 ha) with rfl | ha
    · exact Or.inl hm
    · exact Or.inr ⟨hc a ha, exists_ok_of_mem_mapM hr ha⟩
  have hsum : (remaining.map (lockAmount rt poolAddress)).sum = lockedTotal records := by
    rw [(hp.map _).sum_eq, List.map_cons, List.sum_cons, lockAmount, if_pos hm.key, zero_add,
      sum_lockAmount hc hr]
  have hcount : remaining.countP (fun a => a.key ≠ markerAddress rt poolAddress) =
      locks.length := by
    rw [hp.countP_eq, List.countP_cons_of_neg (by simpa using hm.key), List.countP_eq_length]
    intro a ha
    simpa using (hc a ha).not_marker
  have hany : remaining.any (fun a => a.key = markerAddress rt poolAddress) = true := by
    rw [hp.any_eq, List.any_cons, decide_eq_true hm.key, Bool.true_or]
  have hpos := List.length_pos_iff.2 hne
  simp only [lockedLpAmount, bind_ok_iff, foldlM_evidence hevidence, hsum, hcount, hany,
    require_ok_iff, Bool.false_or]
  constructor
  · rintro ⟨s, ⟨ht, hl, hs, hpresent⟩, _, _, h⟩
    rw [if_pos hpresent, require_bind_ok_iff, pure_ok_iff] at h
    obtain ⟨_, rfl⟩ := h
    have hfits := s.locksSeen.isLt
    exact ⟨ht.trans (zero_add _), by rw [← zero_add locks.length]; exact hl ▸ hfits⟩
  · rintro ⟨ht, hl⟩
    refine ⟨⟨true, true, ⟨locks.length, hl⟩, t⟩, ⟨?_, ?_, rfl, rfl⟩, (), rfl, ?_⟩
    · exact ht.trans (zero_add _).symm
    · exact (zero_add _).symm
    · rw [if_pos rfl, require_bind_ok_iff]
      exact ⟨hpos, rfl⟩

/-- The locked total that a snapshot reports is that of its lock records. -/
theorem build_totalLocked {request : SnapshotRequest} {source : LpAccountSource}
    {records : List TokenLockRecord} {snapshot : LpSnapshot}
    (h : build request source ⟨fun _ _ => .ok records⟩ = .ok snapshot) :
    snapshot.locked.totalLocked.val = lockedTotal records := by
  simp only [build, bind_ok_iff] at h
  obtain ⟨_, _, _, _, _, _, h⟩ := h
  split_ifs at h
  · simp only [bind_ok_iff, reduceCtorEq, and_false, exists_false] at h
  · simp only [bind_ok_iff, require_ok_iff, exists_const, pure_ok_iff, Prod.exists,
      Except.ok.injEq, exists_eq_left'] at h
    obtain ⟨_, _, _, _, totalLocked, hlocked, _, _, _, _, _, _, _, _, _, _, total, htotal, _, _, _,
      _, _, _, _, _, rfl⟩ := h
    have hsum := checkedTotal_ok hlocked
    rw [List.map_map] at hsum
    rw [toU64_ok htotal, hsum, lockedTotal]
    exact ((List.perm_insertionSort _ records).map _).sum_eq

/-- The scanner and the snapshotter accept the same lock accounts and read the same amount. Over
any non-empty set of them, with the marker of the pool among the remaining accounts, the scanner
returns the total that the snapshotter attributes, if it fits and there are fewer than `2 ^ 32` of
them. -/
theorem lockValidation_agrees (rt : Runtime) (lpMint poolAddress : Pubkey) :
    (∀ account, LockCandidate rt poolAddress account →
      ((∃ s', scanAccount rt lpMint poolAddress Scan.start account = .ok s') ↔
        ∃ r, TokenLockRecord.parse rt account.key account.data poolAddress lpMint = .ok r) ∧
      ∀ r, TokenLockRecord.parse rt account.key account.data poolAddress lpMint = .ok r →
        ∀ s, scanAccount rt lpMint poolAddress s account = s.addLock r.currentLockedAmount) ∧
    ∀ marker locks remaining records, Marker rt poolAddress marker → locks ≠ [] →
      (∀ a ∈ locks, LockCandidate rt poolAddress a) →
      locks.mapM (fun a => TokenLockRecord.parse rt a.key a.data poolAddress lpMint) =
        .ok records →
      remaining.Perm (marker :: locks) → locks.length < 2 ^ 32 → lockedTotal records < 2 ^ 64 →
      ∃ t, lockedLpAmount rt lpMint poolAddress remaining = .ok t ∧ t.val = lockedTotal records ∧
        ∀ request source snapshot,
          build request source ⟨fun _ _ => .ok records⟩ = .ok snapshot →
            snapshot.locked.totalLocked = t := by
  refine ⟨fun account hc => ⟨isOk_scanAccount_iff hc, fun r hr => scanAccount_eq_addLock hc hr⟩,
    ?_⟩
  intro marker locks remaining records hm hne hc hr hp hlength htotal
  have h := (lockedLpAmount_ok_iff hm hne hc hr hp (t := ⟨_, htotal⟩)).2 ⟨rfl, hlength⟩
  refine ⟨_, h, rfl, fun request source snapshot hbuild => Fin.ext ?_⟩
  exact build_totalLocked hbuild

/-! ## Many locks -/

/-- A lock account is parsed. -/
theorem parse_lockAt (lpMint poolAddress : Pubkey) {amount i : ℕ} (ha : amount < 2 ^ 64)
    (hi : i < 2 ^ 64) :
    TokenLockRecord.parse lockRuntime (lockAt lpMint poolAddress amount i).key
      (lockAt lpMint poolAddress amount i).data poolAddress lpMint =
        .ok ⟨(lockAt lpMint poolAddress amount i).key, ⟨i, hi⟩, ⟨amount, ha⟩, poolAddress⟩ := by
  have h := @lock_lockAt amount i lpMint poolAddress hi
  refine parse_ok_iff.2 ⟨h.size, h.disc, h.key, h.pool, h.mint,
    (slice_lockAt lpMint poolAddress).2.2.2.2.2, ?_⟩
  rw [lockGlobalId_lockAt lpMint poolAddress hi,
    ← currentLockedAmount_lockAt lpMint poolAddress ha]
  rfl

/-- As many locks as wanted, of nothing. -/
def manyLocks (lpMint poolAddress : Pubkey) (n : ℕ) : List AccountInfo :=
  (List.range n).map (lockAt lpMint poolAddress 0)

/-- The locks have addresses of their own. -/
theorem nodup_manyLocks (lpMint poolAddress : Pubkey) {n : ℕ} (hn : n ≤ 2 ^ 64) :
    ((manyLocks lpMint poolAddress n).map AccountInfo.key).Nodup := by
  rw [manyLocks, List.map_map]
  refine List.Nodup.map_on ?_ List.nodup_range
  intro i hi j hj heq
  rw [List.mem_range] at hi hj
  have hbytes : leBytes 8 i ++ List.replicate 24 0 = leBytes 8 j ++ List.replicate 24 0 :=
    congrArg Subtype.val heq
  exact leBytes_inj (k := 8) (hi.trans_le hn) (hj.trans_le hn) (List.append_cancel_right hbytes)

/-- The snapshotter accepts them all, and nothing is locked. -/
theorem parse_manyLocks (lpMint poolAddress : Pubkey) {n : ℕ} (hn : n ≤ 2 ^ 64) : ∃ records,
    (manyLocks lpMint poolAddress n).mapM
      (fun a => TokenLockRecord.parse lockRuntime a.key a.data poolAddress lpMint) = .ok records ∧
    lockedTotal records = 0 := by
  have hmap : (List.range n).mapM (fun i => TokenLockRecord.parse lockRuntime
      (lockAt lpMint poolAddress 0 i).key (lockAt lpMint poolAddress 0 i).data poolAddress lpMint) =
        .ok ((List.range n).map fun i =>
          ⟨(lockAt lpMint poolAddress 0 i).key, Fin.ofNat (2 ^ 64) i, 0, poolAddress⟩) := by
    refine mapM_eq_map fun i hi => ?_
    have hlt : i < 2 ^ 64 := (List.mem_range.1 hi).trans_le hn
    have hof : Fin.ofNat (2 ^ 64) i = ⟨i, hlt⟩ := Fin.ext (Nat.mod_eq_of_lt hlt)
    rw [parse_lockAt lpMint poolAddress (by decide) hlt, hof]
    rfl
  rw [manyLocks, List.mapM_map]
  exact ⟨_, hmap, by simp [lockedTotal, Function.comp_def]⟩

/-- Over `2 ^ 32` distinct locks of nothing, which the snapshotter accepts, the scanner fails. -/
theorem manyLocks_refused : ∃ records,
    Marker lockRuntime (Pubkey.fill 1) lockMarker ∧
    manyLocks (Pubkey.fill 2) (Pubkey.fill 1) (2 ^ 32) ≠ [] ∧
    (∀ a ∈ manyLocks (Pubkey.fill 2) (Pubkey.fill 1) (2 ^ 32),
      LockCandidate lockRuntime (Pubkey.fill 1) a) ∧
    ((manyLocks (Pubkey.fill 2) (Pubkey.fill 1) (2 ^ 32)).map AccountInfo.key).Nodup ∧
    (manyLocks (Pubkey.fill 2) (Pubkey.fill 1) (2 ^ 32)).mapM (fun a =>
      TokenLockRecord.parse lockRuntime a.key a.data (Pubkey.fill 1) (Pubkey.fill 2)) =
        .ok records ∧
    lockedTotal records = 0 ∧
    ¬∃ t, lockedLpAmount lockRuntime (Pubkey.fill 2) (Pubkey.fill 1)
      (lockMarker :: manyLocks (Pubkey.fill 2) (Pubkey.fill 1) (2 ^ 32)) = .ok t := by
  have hlength : (manyLocks (Pubkey.fill 2) (Pubkey.fill 1) (2 ^ 32)).length = 2 ^ 32 := by
    rw [manyLocks, List.length_map, List.length_range]
  have hne : manyLocks (Pubkey.fill 2) (Pubkey.fill 1) (2 ^ 32) ≠ [] := by
    intro h
    rw [h] at hlength
    exact absurd hlength (by decide)
  have hc : ∀ a ∈ manyLocks (Pubkey.fill 2) (Pubkey.fill 1) (2 ^ 32),
      LockCandidate lockRuntime (Pubkey.fill 1) a := by
    intro a ha
    obtain ⟨i, _, rfl⟩ := List.mem_map.1 ha
    exact lockCandidate_lockAt _ _ _ _
  obtain ⟨records, hr, htotal⟩ :=
    parse_manyLocks (Pubkey.fill 2) (Pubkey.fill 1) (n := 2 ^ 32) (by decide)
  refine ⟨records, marker_lockMarker _, hne, hc, nodup_manyLocks _ _ (by decide), hr, htotal, ?_⟩
  rintro ⟨t, ht⟩
  have hlt := ((lockedLpAmount_ok_iff (marker_lockMarker _) hne hc hr (List.Perm.refl _)).1 ht).2
  rw [hlength] at hlt
  exact lt_irrefl _ hlt

/-- Two locks, with the marker between them. -/
theorem lockValidation_agrees_demo : ∃ t,
    lockedLpAmount lockRuntime (Pubkey.fill 2) (Pubkey.fill 1)
      [lockAt (Pubkey.fill 2) (Pubkey.fill 1) 5 7, lockMarker,
        lockAt (Pubkey.fill 2) (Pubkey.fill 1) 30 8] = .ok t ∧ t.val = 35 := by
  have hfirst := @parse_lockAt (Pubkey.fill 2) (Pubkey.fill 1) 5 7 (by decide) (by decide)
  have hsecond := @parse_lockAt (Pubkey.fill 2) (Pubkey.fill 1) 30 8 (by decide) (by decide)
  have hc : ∀ a ∈ [lockAt (Pubkey.fill 2) (Pubkey.fill 1) 5 7,
      lockAt (Pubkey.fill 2) (Pubkey.fill 1) 30 8],
      LockCandidate lockRuntime (Pubkey.fill 1) a := by
    simp [lockCandidate_lockAt]
  obtain ⟨t, ht, hsum, _⟩ := (lockValidation_agrees lockRuntime (Pubkey.fill 2) (Pubkey.fill 1)).2
    lockMarker _ _ _ (marker_lockMarker _) (List.cons_ne_nil _ _) hc
    (mapM_ok_iff.2 (.cons hfirst (.cons hsecond .nil))) (List.Perm.swap _ _ _) (by simp) (by decide)
  exact ⟨t, ht, hsum⟩

end UncxV4

end GraveYield.Scanner
