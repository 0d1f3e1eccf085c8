import GraveYield.Indexer.Submit
import GraveYield.Lib.InsertionMap

/-!
# Scan cycles

The loop of the indexer : a cycle visits the pools that its sources enumerate, queues the ones that
pass the pre-filter, and submits the best of the queue. The activity of a pool is cached for an
hour; a queued candidate keeps the activity that it was queued with until its pool is queued with
a higher score or drained.

A cycle is given by what its environment does : the times at which the clock is read, the answers
to the reads and the scores. `Faithful` says that every record in the cache and in the queue is what
`deriveLastSwapV4` returned at the time noted with it, and `notStale_iff` when a signed record is
still good : a swap that lands on a queued pool is missed.
-/

namespace GraveYield.Indexer

open Machine Checked Sdk

/-! ## The source -/

/-- `ReserveRecord`, the fields that are read. -/
structure ReserveRecord where
  lpSupply : ℤ
  wsolSideIdentified : Bool
  tvlLamports : ℤ

/-- `PreFilterThresholds`, the fields that are read. -/
structure PreFilterThresholds where
  inactivitySeconds : ℤ
  minTvlLamports : ℤ
  lpBurnDustThreshold : ℤ

/-- Ninety days, half a SOL, and a thousand units of LP. -/
def PreFilterThresholds.default : PreFilterThresholds :=
  ⟨7776000, 500000000, 1000⟩

/-- `PreFilterResult`. -/
structure PreFilterResult where
  passed : Bool
  failedCriteria : List String
  criteriaBitmap : ℕ
  deriving DecidableEq

/-- The bit of criterion 1. -/
def criterionInactivity : ℕ := 0x01

/-- The bit of criterion 2. -/
def criterionPriceCollapse : ℕ := 0x02

/-- The bit of criterion 3. -/
def criterionMinTvl : ℕ := 0x04

/-- The bit of criterion 4. -/
def criterionLpNotBurned : ℕ := 0x08

/-- The bit of criterion 5, which the pre-filter takes for granted. -/
def criterionNoLock : ℕ := 0x10

/-- The bit of criterion 6, which the pre-filter takes for granted. -/
def criterionEpochConfirmed : ℕ := 0x20

/-- All six bits. -/
def preFilterMask : ℕ := 0x3f

/-- A criterion by its outcome : its bit, or its name. -/
def criterion (holds : Bool) (bit : ℕ) (name : String) (r : ℕ × List String) : ℕ × List String :=
  if holds then (r.1 ||| bit, r.2) else (r.1, r.2 ++ [name])

/-- The last two criteria are taken to hold. -/
def preFilterPool (activity : ActivityRecord) (reserves : ReserveRecord)
    (thresholds : PreFilterThresholds) (nowMs : ℕ) : PreFilterResult :=
  let now : ℤ := (nowMs / 1000 : ℕ)
  let elapsed :=
    if activity.noSwapFound then thresholds.inactivitySeconds * 10
    else now - activity.lastSwapUnixTs
  let r := criterion (thresholds.inactivitySeconds ≤ elapsed) criterionInactivity "C1-inactivity"
    (0, [])
  let r := criterion reserves.wsolSideIdentified criterionPriceCollapse "C2-price-collapse" r
  let r := criterion (thresholds.minTvlLamports ≤ reserves.tvlLamports) criterionMinTvl
    "C3-min-tvl" r
  let r := criterion (thresholds.lpBurnDustThreshold < reserves.lpSupply) criterionLpNotBurned
    "C4-lp-not-burned" r
  let bitmap := r.1 ||| criterionNoLock ||| criterionEpochConfirmed
  ⟨bitmap = preFilterMask, r.2, bitmap⟩

/-- One hour. -/
def ttlMs : ℕ := 3600000

/-- An entry of the activity cache. -/
structure CacheEntry where
  record : ActivityRecord
  cachedAtMs : ℕ

/-- The record of a derivation. Where no swap was found, its fields are zero. -/
def activityRecord : Option LastSwapDerivation → ActivityRecord
  | some derivation => ⟨derivation.lastSwapUnixTs, derivation.slot, false⟩
  | none => ⟨0, 0, true⟩

/-- `deriveLastSwapV4` for a pool of Raydium V4, at a time. -/
abbrev Derive := Pubkey → ℕ → Option LastSwapDerivation

/-- `indexActivity`. Beside the record it returns when the record was derived. -/
def indexActivity (derive : Derive) (cache : InsertionMap Pubkey CacheEntry) (pool : Pubkey)
    (now : ℕ) : CacheEntry × InsertionMap Pubkey CacheEntry :=
  match (cache.get? pool).filter fun cached => (now : ℤ) - cached.cachedAtMs < ttlMs with
  | some cached => (cached, cache)
  | none =>
    let entry : CacheEntry := ⟨activityRecord (derive pool now), now⟩
    (entry, cache.set pool entry)

/-- A candidate in the queue. `derivedAtMs` is when its activity was derived, which the source does
not keep. -/
structure ScoredCandidate (S : Type) where
  candidate : Candidate
  score : S
  derivedAtMs : ℕ

/-- `CandidateQueue`, by the addresses of the pools. -/
abbrev CandidateQueue (S : Type) := InsertionMap Pubkey (ScoredCandidate S)

section Queue

variable {S : Type} [LinearOrder S]

/-- If the pool is queued already, the higher score wins. -/
def CandidateQueue.enqueue (q : CandidateQueue S) (scored : ScoredCandidate S) :
    CandidateQueue S :=
  let key := scored.candidate.poolAddress
  match q.get? key with
  | none => q.set key scored
  | some existing => if existing.score < scored.score then q.set key scored else q

/-- The first `n` by score, the highest first, and the queue without them. -/
def CandidateQueue.drain (q : CandidateQueue S) (n : ℕ) :
    List (ScoredCandidate S) × CandidateQueue S :=
  let out := (q.values.insertionSort fun a b => b.score ≤ a.score).take n
  (out, out.foldl (fun q scored => q.delete scored.candidate.poolAddress) q)

/-- `ScannerOptions`, the fields that are read. -/
structure ScannerOptions where
  thresholds : Option PreFilterThresholds
  maxCandidatesPerCycle : Option ℕ
  oracleKeypair : Option Keypair
  writerKeypair : Option Keypair
  scannerProgramId : Pubkey
  vaultProgramId : Pubkey

/-- The configuration and the options that `runOnce` submits with. -/
def ScannerOptions.submitConfig (opts : ScannerOptions) : IndexerConfig :=
  ⟨opts.scannerProgramId, opts.vaultProgramId, opts.oracleKeypair.map some⟩

/-- What the scanner hands to a submission. -/
def ScannerOptions.submitOpts (opts : ScannerOptions) : SubmitOpts :=
  ⟨opts.writerKeypair, opts.oracleKeypair⟩

/-- The state of `GraveScannerV2`, its cache and its queue. -/
structure GraveScannerV2 (S : Type) where
  cache : InsertionMap Pubkey CacheEntry
  queue : CandidateQueue S

/-- A new scanner, with nothing cached or queued. -/
def GraveScannerV2.new : GraveScannerV2 S :=
  ⟨.empty, .empty⟩

/-- A pool that a source yields, when its activity is looked up and when it is pre-filtered, what
the reads return, and the score that the pool gets as a candidate. -/
structure Visit (S : Type) where
  pool : Pubkey
  nowMs : ℕ
  reserves : Option ReserveRecord
  hasMetadata : Bool
  filteredAtMs : ℕ
  score : S

/-- When a candidate is submitted, and to which node. -/
structure Submission where
  atMs : ℕ
  conn : SubmitConnection

/-- The pools of all sources, as many as are visited before a read throws, whether none does, and
the submissions, as many as are made before the tracking of one throws. -/
structure Cycle (S : Type) where
  visits : List (Visit S)
  completed : Bool
  submissions : List Submission

variable (rt : Runtime) (opts : ScannerOptions) (derive : Derive)

/-- One turn of the loop over the pools. -/
def GraveScannerV2.visit (s : GraveScannerV2 S) (v : Visit S) : GraveScannerV2 S :=
  let (activity, cache) := indexActivity derive s.cache v.pool v.nowMs
  let s := { s with cache }
  match v.reserves with
  | none => s
  | some reserves =>
    if v.hasMetadata = false then s
    else if (preFilterPool activity.record reserves (opts.thresholds.getD .default)
        v.filteredAtMs).passed = false then s
    else { s with queue := s.queue.enqueue {
      candidate := ⟨v.pool, activity.record⟩
      score := v.score
      derivedAtMs := activity.cachedAtMs } }

/-- What the oracle signs in a submission, unless the submission ends before. -/
def attested (conn : SubmitConnection) (config : IndexerConfig) (candidate : Candidate)
    (opts : SubmitOpts) : Option LastSwapAttestation :=
  if config.activityOracleSecretKey.isNone ∧ opts.oracleKeypair.isNone then none
  else do
    let _ ← opts.writer
    let issuedSlot ← conn.node.getSlot
    let slotHash ← conn.fetchSlotHash issuedSlot
    let slotHash ← slotHash
    let att := attestationOf candidate issuedSlot slotHash
    let _ ← (buildAttestationMessage att).toOption
    let _ ← opts.oracleKeypair.or (config.activityOracleSecretKey.bind id)
    return att

/-- A submission of a drained candidate. -/
structure Submitted (S : Type) where
  scored : ScoredCandidate S
  atMs : ℕ
  attestation : Option LastSwapAttestation
  result : SubmissionResult

/-- A drained candidate is submitted. -/
def submit (scored : ScoredCandidate S) (submission : Submission) : Submitted S where
  scored := scored
  atMs := submission.atMs
  attestation := attested submission.conn opts.submitConfig scored.candidate opts.submitOpts
  result := (submitCandidate rt submission.conn opts.submitConfig scored.candidate
    opts.submitOpts).1

/-- One scan cycle. -/
def GraveScannerV2.runOnce (s : GraveScannerV2 S) (cycle : Cycle S) :
    GraveScannerV2 S × List (Submitted S) :=
  let s := cycle.visits.foldl (GraveScannerV2.visit opts derive) s
  if cycle.completed then
    let (top, queue) := s.queue.drain (opts.maxCandidatesPerCycle.getD 5)
    ({ s with queue },
      (top.zip cycle.submissions).map fun entry => submit rt opts entry.1 entry.2)
  else (s, [])

/-- Cycle after cycle, with all submissions. -/
def GraveScannerV2.start : GraveScannerV2 S → List (Cycle S) →
    GraveScannerV2 S × List (Submitted S)
  | s, [] => (s, [])
  | s, cycle :: cycles =>
    let (s, submitted) := s.runOnce rt opts derive cycle
    let (s, later) := GraveScannerV2.start s cycles
    (s, submitted ++ later)

end Queue

/-! ## Where the records come from -/

/-- The activity of a candidate is what `deriveLastSwapV4` returned at the time noted with it. -/
def IsDerived {S : Type} (derive : Derive) (scored : ScoredCandidate S) : Prop :=
  scored.candidate.activity =
    activityRecord (derive scored.candidate.poolAddress scored.derivedAtMs)

/-- Every record of the scanner was derived when it says. -/
structure Faithful {S : Type} (derive : Derive) (s : GraveScannerV2 S) : Prop where
  cache : ∀ pool entry, s.cache.get? pool = some entry →
    entry.record = activityRecord (derive pool entry.cachedAtMs)
  queue : ∀ scored ∈ s.queue.values, IsDerived derive scored

section Provenance

variable {S : Type} [LinearOrder S] {rt : Runtime} {opts : ScannerOptions} {derive : Derive}
  {s : GraveScannerV2 S} {q : CandidateQueue S} {scored other : ScoredCandidate S}

omit [LinearOrder S] in
/-- A new scanner has no record that could be wrong. -/
theorem faithful_new : Faithful derive (GraveScannerV2.new : GraveScannerV2 S) :=
  ⟨fun _ _ h => (nomatch h), fun _ h => (nomatch h)⟩

/-- The record of a look-up, and those of the cache after it. -/
theorem indexActivity_derived {cache : InsertionMap Pubkey CacheEntry}
    (h : ∀ pool entry, cache.get? pool = some entry →
      entry.record = activityRecord (derive pool entry.cachedAtMs)) (pool : Pubkey) (now : ℕ) :
    (indexActivity derive cache pool now).1.record =
        activityRecord (derive pool (indexActivity derive cache pool now).1.cachedAtMs) ∧
      ∀ p entry, (indexActivity derive cache pool now).2.get? p = some entry →
        entry.record = activityRecord (derive p entry.cachedAtMs) := by
  unfold indexActivity
  cases hc : (cache.get? pool).filter fun cached => (now : ℤ) - cached.cachedAtMs < ttlMs with
  | some cached => exact ⟨h pool cached (Option.filter_eq_some_iff.1 hc).1, h⟩
  | none =>
    refine ⟨rfl, fun p entry hp => ?_⟩
    rw [InsertionMap.get?_set] at hp
    split_ifs at hp with hk
    · obtain rfl := Option.some.inj hp
      rw [hk]
    · exact h p entry hp

/-- What is queued after a candidate came in was queued before, or is the candidate. -/
theorem mem_enqueue (h : other ∈ (q.enqueue scored).values) :
    other = scored ∨ other ∈ q.values := by
  unfold CandidateQueue.enqueue at h
  dsimp only at h
  split at h
  · exact InsertionMap.mem_values_set h
  · split_ifs at h
    · exact InsertionMap.mem_values_set h
    · exact Or.inr h

/-- What is drained was queued. -/
theorem mem_drain {n : ℕ} (h : scored ∈ (q.drain n).1) : scored ∈ q.values :=
  (List.mem_insertionSort _).1 (List.mem_of_mem_take h)

/-- What is left was queued. -/
theorem mem_drain_rest {n : ℕ} (h : scored ∈ (q.drain n).2.values) : scored ∈ q.values := by
  have hfold : ∀ (out : List (ScoredCandidate S)) (q : CandidateQueue S),
      scored ∈ (out.foldl (fun q scored => q.delete scored.candidate.poolAddress) q).values →
        scored ∈ q.values := by
    intro out
    induction out with
    | nil => exact fun _ h => h
    | cons first out ih => exact fun q h => InsertionMap.mem_values_delete (ih _ h)
  exact hfold _ q h

/-- A visit keeps the records faithful. -/
theorem faithful_visit (hs : Faithful derive s) (v : Visit S) :
    Faithful derive (s.visit opts derive v) := by
  obtain ⟨hrecord, hcache⟩ := indexActivity_derived hs.cache v.pool v.nowMs
  unfold GraveScannerV2.visit
  dsimp only
  split
  · exact ⟨hcache, hs.queue⟩
  · split_ifs
    · exact ⟨hcache, hs.queue⟩
    · exact ⟨hcache, hs.queue⟩
    · refine ⟨hcache, fun scored hscored => ?_⟩
      rcases mem_enqueue hscored with rfl | hold
      · exact hrecord
      · exact hs.queue scored hold

/-- A submission of a record that was derived when its candidate says. -/
def SubmitsDerived (rt : Runtime) (opts : ScannerOptions) (derive : Derive) (o : Submitted S) :
    Prop :=
  IsDerived derive o.scored ∧ ∃ submission, o = submit rt opts o.scored submission

/-- A cycle keeps the records faithful, and submits only faithful ones. -/
theorem faithful_runOnce (hs : Faithful derive s) (cycle : Cycle S) :
    Faithful derive (s.runOnce rt opts derive cycle).1 ∧
      ∀ o ∈ (s.runOnce rt opts derive cycle).2, SubmitsDerived rt opts derive o := by
  have hvisits : ∀ (visits : List (Visit S)) (s : GraveScannerV2 S), Faithful derive s →
      Faithful derive (visits.foldl (GraveScannerV2.visit opts derive) s) := by
    intro visits
    induction visits with
    | nil => exact fun _ h => h
    | cons v visits ih => exact fun s h => ih _ (faithful_visit h v)
  have hafter := hvisits cycle.visits s hs
  unfold GraveScannerV2.runOnce
  dsimp only
  split_ifs
  · refine ⟨⟨hafter.cache, fun scored h => hafter.queue scored (mem_drain_rest h)⟩, ?_⟩
    intro o ho
    obtain ⟨⟨scored, submission⟩, hentry, rfl⟩ := List.mem_map.1 ho
    exact ⟨hafter.queue scored (mem_drain (List.of_mem_zip hentry).1), submission, rfl⟩
  · exact ⟨hafter, fun o ho => absurd ho List.not_mem_nil⟩

/-- In every run, every submitted record is what `deriveLastSwapV4` returned when it was derived. -/
theorem faithful_start (hs : Faithful derive s) (cycles : List (Cycle S)) :
    ∀ o ∈ (s.start rt opts derive cycles).2, SubmitsDerived rt opts derive o := by
  induction cycles generalizing s with
  | nil => exact fun o ho => absurd ho List.not_mem_nil
  | cons cycle cycles ih =>
    obtain ⟨hnext, hnow⟩ := @faithful_runOnce S _ rt opts derive s hs cycle
    intro o ho
    rcases List.mem_append.1 ho with ho | ho
    · exact hnow o ho
    · exact ih hnext o ho

end Provenance

/-! ## What is signed -/

section Signed

variable {rt : Runtime} {conn : SubmitConnection} {config : IndexerConfig} {candidate : Candidate}
  {opts : SubmitOpts}

/-- A signed attestation is for the pool of the candidate, with the time of its record. -/
theorem attested_eq {att : LastSwapAttestation} (h : att ∈ attested conn config candidate opts) :
    att.poolAddress = candidate.poolAddress ∧
      att.lastSwapUnixTs = candidate.activity.lastSwapUnixTs := by
  unfold attested at h
  split_ifs at h
  · cases h
  · simp only [Option.bind_eq_bind, Option.mem_def, Option.bind_eq_some_iff, Option.pure_def,
      Option.some.injEq] at h
    obtain ⟨_, _, _, _, _, _, _, _, _, _, _, _, rfl⟩ := h
    exact ⟨rfl, rfl⟩

end Signed

/-! ## Swaps -/

/-- A swap of a pool, and when it landed. Its block has the time in seconds. -/
structure Swap where
  pool : Pubkey
  landedAtMs : ℕ
  afterEpoch : 1000 ≤ landedAtMs

/-- The block time of a swap. -/
def Swap.unixTs (s : Swap) : ℤ :=
  (s.landedAtMs / 1000 : ℕ)

/-- `deriveLastSwapV4` returns the newest swap at the time it is called. -/
structure DerivesNewest (swaps : Set Swap) (derive : Derive) : Prop where
  none : ∀ pool now, derive pool now = none →
    ∀ s ∈ swaps, s.pool = pool → now < s.landedAtMs
  some : ∀ pool now derivation, derive pool now = some derivation →
    ∃ s ∈ swaps, s.pool = pool ∧ s.landedAtMs ≤ now ∧ derivation.lastSwapUnixTs = s.unixTs ∧
      ∀ s' ∈ swaps, s'.pool = pool → s'.landedAtMs ≤ now → s'.landedAtMs ≤ s.landedAtMs

/-- An attestation signed at `t` names a time that is not before any swap of its pool that landed
before `t` minus the lifetime of the cache. -/
def NotStale (swaps : Set Swap) (att : LastSwapAttestation) (t : ℕ) : Prop :=
  ∀ s ∈ swaps, s.pool = att.poolAddress → s.landedAtMs + ttlMs < t →
    s.unixTs ≤ att.lastSwapUnixTs

/-- Of the swaps of a candidate's pool that landed after its record was derived, those more than
the lifetime of the cache before `t` are in the same second as one from before. -/
def Undisturbed {S : Type} (swaps : Set Swap) (scored : ScoredCandidate S) (t : ℕ) : Prop :=
  ∀ s ∈ swaps, s.pool = scored.candidate.poolAddress → scored.derivedAtMs < s.landedAtMs →
    s.landedAtMs + ttlMs < t →
      ∃ s' ∈ swaps, s'.pool = scored.candidate.poolAddress ∧
        s'.landedAtMs ≤ scored.derivedAtMs ∧ s'.unixTs = s.unixTs

/-- Block times are in the order of the swaps. -/
theorem unixTs_le {s s' : Swap} (h : s.landedAtMs ≤ s'.landedAtMs) : s.unixTs ≤ s'.unixTs := by
  unfold Swap.unixTs
  exact_mod_cast Nat.div_le_div_right h

theorem unixTs_pos (s : Swap) : 0 < s.unixTs := by
  unfold Swap.unixTs
  exact_mod_cast Nat.div_pos s.afterEpoch (by decide)

/-- For a record that was derived when its candidate says, the two say the same. -/
theorem notStale_iff_undisturbed {S : Type} {swaps : Set Swap} {derive : Derive}
    (hderive : DerivesNewest swaps derive) {scored : ScoredCandidate S}
    (hscored : IsDerived derive scored) {att : LastSwapAttestation}
    (hpool : att.poolAddress = scored.candidate.poolAddress)
    (hts : att.lastSwapUnixTs = scored.candidate.activity.lastSwapUnixTs) (t : ℕ) :
    NotStale swaps att t ↔ Undisturbed swaps scored t := by
  unfold NotStale Undisturbed
  rw [hpool, hts, hscored]
  cases hd : derive scored.candidate.poolAddress scored.derivedAtMs with
  | none =>
    have hnew := hderive.none _ _ hd
    constructor
    · intro h s hs hp _ ht
      exact absurd (h s hs hp ht) (not_le.2 (unixTs_pos s))
    · intro h s hs hp ht
      obtain ⟨s', hs', hp', hle, _⟩ := h s hs hp (hnew s hs hp) ht
      exact absurd (hnew s' hs' hp') (not_lt.2 hle)
  | some derivation =>
    obtain ⟨newest, hmem, hp₀, hle₀, hts₀, hmax⟩ := hderive.some _ _ _ hd
    have hlast : (activityRecord (some derivation)).lastSwapUnixTs = newest.unixTs := hts₀
    rw [hlast]
    constructor
    · intro h s hs hp hlt ht
      refine ⟨newest, hmem, hp₀, hle₀, le_antisymm ?_ (h s hs hp ht)⟩
      exact unixTs_le (hle₀.trans hlt.le)
    · intro h s hs hp ht
      rcases le_or_gt s.landedAtMs scored.derivedAtMs with hle | hgt
      · exact unixTs_le (hmax s hs hp hle)
      · obtain ⟨s', hs', hp', hle', heq⟩ := h s hs hp hgt ht
        rw [← heq]
        exact unixTs_le (hmax s' hs' hp' hle')

/-- The signatures of the oracle, in every run of scan cycles from a new scanner, with any scores
and any queue : one that is made at `t` is not stale iff the pool of its candidate was not disturbed
since the record of the candidate was derived. -/
theorem oracle_notStale_iff {S : Type} [LinearOrder S] (rt : Runtime) (opts : ScannerOptions)
    (swaps : Set Swap) (derive : Derive) (hderive : DerivesNewest swaps derive)
    (cycles : List (Cycle S)) :
    ∀ o ∈ (GraveScannerV2.new.start rt opts derive cycles).2, ∀ att ∈ o.attestation,
      NotStale swaps att o.atMs ↔ Undisturbed swaps o.scored o.atMs := by
  intro o ho att hatt
  obtain ⟨hderived, submission, hsubmit⟩ := faithful_start faithful_new cycles o ho
  have hattested : att ∈ attested submission.conn opts.submitConfig o.scored.candidate
      opts.submitOpts := by
    rw [hsubmit] at hatt
    exact hatt
  obtain ⟨hpool, hts⟩ := attested_eq hattested
  exact notStale_iff_undisturbed hderive hderived hpool hts o.atMs

/-! ## A pool that is traded while it is queued -/

/-- The newest of the swaps of a pool up to a time. -/
def newestSwap (swaps : List Swap) : Derive := fun pool now =>
  ((swaps.filter fun s => s.pool = pool ∧ s.landedAtMs ≤ now).argmax Swap.landedAtMs).map
    fun s => ⟨s.unixTs, (s.landedAtMs / 400 : ℕ)⟩

/-- The newest swap up to a time is the newest swap. -/
theorem derivesNewest_newestSwap (swaps : List Swap) :
    DerivesNewest {s | s ∈ swaps} (newestSwap swaps) where
  none pool now h s hs hp := by
    rw [newestSwap, Option.map_eq_none_iff, List.argmax_eq_none, List.filter_eq_nil_iff] at h
    have hnot := h s hs
    simp only [hp, true_and, decide_eq_true_eq, not_le] at hnot
    exact hnot
  some pool now derivation h := by
    obtain ⟨s, hs, rfl⟩ := Option.map_eq_some_iff.1 h
    obtain ⟨hmem, hs'⟩ := List.mem_filter.1 (List.argmax_mem hs)
    simp only [decide_eq_true_eq] at hs'
    refine ⟨s, hmem, hs'.1, hs'.2, rfl, fun s' hs₂ hp hle => ?_⟩
    exact List.le_of_mem_argmax (List.mem_filter.2 ⟨hs₂, by simp [hp, hle]⟩) hs

/-- The times of a cycle, in the order in which the clock is read. -/
def Cycle.times {S : Type} (cycle : Cycle S) : List ℕ :=
  cycle.visits.flatMap (fun v => [v.nowMs, v.filteredAtMs]) ++
    cycle.submissions.map Submission.atMs

/-- The clock is read in order, from the first cycle to the last. -/
def Chronological {S : Type} (cycles : List (Cycle S)) : Prop :=
  (cycles.flatMap Cycle.times).Pairwise (· ≤ ·)

/-- Finitely many times are compared. -/
instance {S : Type} (cycles : List (Cycle S)) : Decidable (Chronological cycles) :=
  inferInstanceAs (Decidable (List.Pairwise _ _))

open Scanner (demoRuntime demoPool)

/-- One pool is traded at the start, and again ten minutes into the hundredth day ; another one
only at the start. -/
def demoSwaps : List Swap :=
  [⟨demoPool, 1000000, by decide⟩, ⟨Pubkey.fill 60, 500000, by decide⟩,
    ⟨demoPool, 8640600000, by decide⟩]

/-- One candidate a cycle, and a key for either role. -/
def demoScannerOptions : ScannerOptions where
  thresholds := none
  maxCandidatesPerCycle := some 1
  oracleKeypair := some demoOracle
  writerKeypair := some demoWriter
  scannerProgramId := Pubkey.fill 41
  vaultProgramId := Pubkey.fill 42

/-- A pool that passes the pre-filter if it has not been traded for long. -/
def demoVisit (pool : Pubkey) (nowMs score : ℕ) : Visit ℕ where
  pool := pool
  nowMs := nowMs
  reserves := some ⟨1000000, true, 1000000000⟩
  hasMetadata := true
  filteredAtMs := nowMs
  score := score

/-- The first cycle, on the hundredth day, queues the pool and another one with a higher score, of
which it submits one. The second, two hours later, queues nothing and submits what is left. -/
def demoCycles : List (Cycle ℕ) :=
  [⟨[demoVisit demoPool 8640000000 1, demoVisit (Pubkey.fill 60) 8640000100 2], true,
    [⟨8640001000, demoNode 7⟩]⟩,
    ⟨[demoVisit demoPool 8647200000 1], true, [⟨8647201000, demoNode 8⟩]⟩]

/-- What these cycles submit. -/
def demoSubmitted : List (Submitted ℕ) :=
  (GraveScannerV2.new.start demoRuntime demoScannerOptions (newestSwap demoSwaps) demoCycles).2

/-- Two submissions, one in each cycle, with what the oracle signs in them. -/
theorem demoSubmitted_signed :
    demoSubmitted.map (fun o => (o.scored.candidate.poolAddress, o.scored.derivedAtMs, o.atMs,
        o.attestation)) =
      [(Pubkey.fill 60, 8640000100, 8640001000,
          some (attestationOf ⟨Pubkey.fill 60, ⟨500, 1250, false⟩⟩ 7 (Pubkey.fill 3).val)),
        (demoPool, 8640000000, 8647201000,
          some (attestationOf ⟨demoPool, ⟨1000, 2500, false⟩⟩ 8 (Pubkey.fill 3).val))] := by
  decide +kernel

theorem exists_demoSubmitted {pool : Pubkey} {derivedAt t : ℕ} {att : LastSwapAttestation}
    (h : (pool, derivedAt, t, some att) ∈ demoSubmitted.map fun o =>
      (o.scored.candidate.poolAddress, o.scored.derivedAtMs, o.atMs, o.attestation)) :
    ∃ o ∈ demoSubmitted, att ∈ o.attestation ∧ o.scored.candidate.poolAddress = pool ∧
      o.scored.derivedAtMs = derivedAt ∧ o.atMs = t := by
  obtain ⟨o, ho, heq⟩ := List.mem_map.1 h
  obtain ⟨hpool, hderived, ht, hatt⟩ := by simpa only [Prod.mk.injEq] using heq
  exact ⟨o, ho, hatt, hpool, hderived, ht⟩

/-- The second cycle signs the last swap that the first one knew, an hour and fifty minutes after
the pool was traded. -/
theorem oracle_signs_stale : Chronological demoCycles ∧
    DerivesNewest {s | s ∈ demoSwaps} (newestSwap demoSwaps) ∧
    ∃ o ∈ (GraveScannerV2.new.start demoRuntime demoScannerOptions (newestSwap demoSwaps)
        demoCycles).2, ∃ att ∈ o.attestation,
      att.poolAddress = demoPool ∧ ¬NotStale {s | s ∈ demoSwaps} att o.atMs := by
  refine ⟨by decide +kernel, derivesNewest_newestSwap demoSwaps, ?_⟩
  obtain ⟨o, ho, hatt, -, -, hat⟩ := exists_demoSubmitted (by
    rw [demoSubmitted_signed]
    exact List.mem_cons_of_mem _ List.mem_cons_self)
  refine ⟨o, ho, _, hatt, rfl, fun h => ?_⟩
  have hlate := h ⟨demoPool, 8640600000, by decide⟩ (by simp [demoSwaps]) rfl
    (by rw [hat]; decide)
  exact absurd hlate (by decide)

/-- The first cycle signs for a pool that was traded at the start and never after. -/
theorem oracle_notStale_iff_demo :
    ∃ o ∈ (GraveScannerV2.new.start demoRuntime demoScannerOptions (newestSwap demoSwaps)
        demoCycles).2, ∃ att ∈ o.attestation,
      att.poolAddress = Pubkey.fill 60 ∧ att.lastSwapUnixTs = 500 ∧
        NotStale {s | s ∈ demoSwaps} att o.atMs := by
  obtain ⟨o, ho, hatt, hpool, hderived, -⟩ := exists_demoSubmitted (by
    rw [demoSubmitted_signed]
    exact List.mem_cons_self)
  refine ⟨o, ho, _, hatt, rfl, rfl, (oracle_notStale_iff demoRuntime demoScannerOptions
    {s | s ∈ demoSwaps} (newestSwap demoSwaps) (derivesNewest_newestSwap demoSwaps) demoCycles o ho
    _ hatt).2 fun s hs hp hlt _ => ?_⟩
  have hne : Pubkey.fill 60 ≠ demoPool := by decide +kernel
  rw [hpool] at hp
  rw [hderived] at hlt
  have hmem : s ∈ demoSwaps := hs
  simp only [demoSwaps, List.mem_cons, List.not_mem_nil, or_false] at hmem
  rcases hmem with rfl | rfl | rfl
  · exact absurd hp.symm hne
  · exact absurd hlt (by decide)
  · exact absurd hp.symm hne

end GraveYield.Indexer
