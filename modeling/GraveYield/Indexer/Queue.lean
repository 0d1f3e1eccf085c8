import GraveYield.Indexer.Scan

/-!
# The candidate queue over its histories

`QueueOp` is what a history of the queue consists of. For each pool the queue holds the best of
the candidates that were offered since the pool last left it, the first of the best if there are
several (`best_offer`), and a drain takes the `n` best of what is held (`drain_top`).

The scan cycles are such a history (`queue_start`), of offers and drains. No candidate is submitted
or held more often than it was queued, and of each that was queued the queue holds one that is no
worse for the same pool, unless it has drained one (`candidates_accounted`).
-/

namespace GraveYield.Indexer

open Machine

variable {S : Type} [LinearOrder S]

/-! ## The rest of the queue -/

/-- The first `n` by score, which stay queued. -/
def CandidateQueue.peek (q : CandidateQueue S) (n : ℕ) : List (ScoredCandidate S) :=
  (q.values.insertionSort fun a b => b.score ≤ a.score).take n

omit [LinearOrder S] in
/-- Whether the pool was queued, and the queue without it. -/
def CandidateQueue.remove (q : CandidateQueue S) (poolAddress : Pubkey) :
    Bool × CandidateQueue S :=
  ((q.get? poolAddress).isSome, q.delete poolAddress)

/-- `size`. -/
def CandidateQueue.size (q : CandidateQueue S) : ℕ :=
  q.entries.length

/-- `has`. -/
def CandidateQueue.has (q : CandidateQueue S) (poolAddress : Pubkey) : Bool :=
  (q.get? poolAddress).isSome

/-! ## Histories -/

/-- An operation that changes the queue. -/
inductive QueueOp (S : Type) where
  | enqueue (scored : ScoredCandidate S)
  | drain (n : ℕ)
  | remove (poolAddress : Pubkey)
  | clear

/-- What an operation leaves of the queue. -/
def CandidateQueue.apply (q : CandidateQueue S) : QueueOp S → CandidateQueue S
  | .enqueue scored => q.enqueue scored
  | .drain n => (q.drain n).2
  | .remove poolAddress => (q.remove poolAddress).2
  | .clear => .empty

/-- A new queue after a history. -/
def CandidateQueue.after (ops : List (QueueOp S)) : CandidateQueue S :=
  ops.foldl CandidateQueue.apply .empty

/-- The operation takes the pool out of the queue. -/
def QueueOp.Removes (q : CandidateQueue S) (pool : Pubkey) : QueueOp S → Prop
  | .enqueue _ => False
  | .drain n => pool ∈ (q.drain n).1.map fun scored => scored.candidate.poolAddress
  | .remove poolAddress => pool = poolAddress
  | .clear => True

/-- What a history offers of a pool. -/
def offered (pool : Pubkey) (ops : List (QueueOp S)) : List (ScoredCandidate S) :=
  ops.filterMap fun
    | .enqueue scored => if scored.candidate.poolAddress = pool then some scored else none
    | _ => none

variable {q : CandidateQueue S} {pool : Pubkey} {scored : ScoredCandidate S}

/-- A history that goes on with one operation. -/
theorem after_concat (ops : List (QueueOp S)) (op : QueueOp S) :
    CandidateQueue.after (ops ++ [op]) = (CandidateQueue.after ops).apply op := by
  rw [CandidateQueue.after, List.foldl_append]
  rfl

/-! ## What the operations do to a pool -/

/-- What the queue holds for a pool after one more offer. -/
def best (held : Option (ScoredCandidate S)) (scored : ScoredCandidate S) : ScoredCandidate S :=
  match held with
  | none => scored
  | some existing => if existing.score < scored.score then scored else existing

/-- Offer after offer, the best is the first of the highest score. -/
theorem argmax_append (l m : List (ScoredCandidate S)) :
    (l ++ m).argmax ScoredCandidate.score =
      m.foldl (fun held scored => some (best held scored)) (l.argmax ScoredCandidate.score) := by
  induction m using List.reverseRecOn with
  | nil => simp
  | append_singleton m scored ih =>
    rw [← List.append_assoc, List.argmax_concat, ih, List.foldl_append]
    simp only [List.foldl_cons, List.foldl_nil]
    cases m.foldl (fun held scored => some (best held scored))
        (l.argmax ScoredCandidate.score) with
    | none => rfl
    | some existing =>
      simp only [best]
      split_ifs <;> rfl

/-- A pool that is not queued is added. -/
theorem enqueue_of_none (h : q.get? scored.candidate.poolAddress = none) :
    q.enqueue scored = q.set scored.candidate.poolAddress scored := by
  simp [CandidateQueue.enqueue, h]

/-- A pool that is queued is replaced by a higher score only. -/
theorem enqueue_of_some {existing : ScoredCandidate S}
    (h : q.get? scored.candidate.poolAddress = some existing) : q.enqueue scored =
      if existing.score < scored.score then q.set scored.candidate.poolAddress scored else q := by
  simp [CandidateQueue.enqueue, h]

/-- After an offer the pool has the best of what was held and what came. -/
theorem get?_enqueue : (q.enqueue scored).get? pool =
    if pool = scored.candidate.poolAddress then some (best (q.get? pool) scored)
    else q.get? pool := by
  by_cases hp : pool = scored.candidate.poolAddress
  · rw [if_pos hp, hp]
    cases hq : q.get? scored.candidate.poolAddress with
    | none => rw [enqueue_of_none hq, InsertionMap.get?_set, if_pos rfl, best]
    | some existing =>
      rw [enqueue_of_some hq, best]
      split_ifs
      · rw [InsertionMap.get?_set, if_pos rfl]
      · exact hq
  · rw [if_neg hp]
    cases hq : q.get? scored.candidate.poolAddress with
    | none => rw [enqueue_of_none hq, InsertionMap.get?_set, if_neg hp]
    | some existing =>
      rw [enqueue_of_some hq]
      split_ifs
      · rw [InsertionMap.get?_set, if_neg hp]
      · rfl

omit [LinearOrder S] in
/-- A drained queue keeps the entries of the other pools, in order. -/
theorem entries_foldl_delete (out : List (ScoredCandidate S)) (q : CandidateQueue S) :
    (out.foldl (fun q scored => q.delete scored.candidate.poolAddress) q).entries =
      q.entries.filter fun e => e.1 ∉ out.map fun scored => scored.candidate.poolAddress := by
  induction out generalizing q with
  | nil => simp
  | cons scored out ih =>
    rw [List.foldl_cons, ih, InsertionMap.delete, List.filter_filter]
    refine List.filter_congr fun e _ => ?_
    simp only [List.map_cons, List.mem_cons, not_or, ne_eq, Bool.decide_and, Bool.and_comm]

/-- A drain takes out what it returns, and nothing else. -/
theorem get?_drain (n : ℕ) : (q.drain n).2.get? pool =
    if pool ∈ (q.drain n).1.map fun scored => scored.candidate.poolAddress then none
    else q.get? pool := by
  have hfold : ∀ (out : List (ScoredCandidate S)) (q : CandidateQueue S),
      (out.foldl (fun q scored => q.delete scored.candidate.poolAddress) q).get? pool =
        if pool ∈ out.map fun scored => scored.candidate.poolAddress then none
        else q.get? pool := by
    intro out
    induction out with
    | nil => simp
    | cons scored out ih =>
      intro q
      rw [List.foldl_cons, ih, InsertionMap.get?_delete, List.map_cons]
      by_cases h : pool = scored.candidate.poolAddress
      · simp [h]
      · simp [h]
  exact hfold _ q

/-- An operation either takes a pool out or adds its offer, if it makes one. -/
theorem get?_apply (q : CandidateQueue S) (pool : Pubkey) (op : QueueOp S) :
    (q.apply op).get? pool = none ∧ op.Removes q pool ∨
      ¬op.Removes q pool ∧ (q.apply op).get? pool =
        (offered pool [op]).foldl (fun held scored => some (best held scored)) (q.get? pool) := by
  cases op with
  | enqueue scored =>
    refine Or.inr ⟨id, ?_⟩
    rw [CandidateQueue.apply, get?_enqueue]
    by_cases h : pool = scored.candidate.poolAddress
    · simp [offered, h]
    · simp [offered, h, Ne.symm h]
  | drain n =>
    rw [CandidateQueue.apply, get?_drain]
    by_cases h : pool ∈ (q.drain n).1.map fun scored => scored.candidate.poolAddress
    · exact Or.inl ⟨if_pos h, h⟩
    · exact Or.inr ⟨h, if_neg h⟩
  | remove poolAddress =>
    rw [CandidateQueue.apply, CandidateQueue.remove, InsertionMap.get?_delete]
    by_cases h : pool = poolAddress
    · exact Or.inl ⟨if_pos h, h⟩
    · exact Or.inr ⟨h, if_neg h⟩
  | clear => exact Or.inl ⟨rfl, trivial⟩

/-- For each pool the queue holds the best of what was offered since the pool last left. -/
theorem best_offer (ops : List (QueueOp S)) (pool : Pubkey) : ∃ pre post, ops = pre ++ post ∧
    (pre = [] ∨ ∃ pre' op, pre = pre' ++ [op] ∧ op.Removes (CandidateQueue.after pre') pool) ∧
    (∀ mid op rest, post = mid ++ op :: rest →
      ¬op.Removes (CandidateQueue.after (pre ++ mid)) pool) ∧
    (CandidateQueue.after ops).get? pool = (offered pool post).argmax ScoredCandidate.score := by
  induction ops using List.reverseRecOn with
  | nil => exact ⟨[], [], rfl, Or.inl rfl, fun mid op rest h => by simp at h, rfl⟩
  | append_singleton ops op ih =>
    obtain ⟨pre, post, rfl, hpre, hpost, hbest⟩ := ih
    rcases get?_apply (CandidateQueue.after (pre ++ post)) pool op with
      ⟨hnone, hremoves⟩ | ⟨hstays, hoffer⟩
    · refine ⟨pre ++ post ++ [op], [], by simp, Or.inr ⟨_, op, rfl, hremoves⟩,
        fun mid op rest h => by simp at h, ?_⟩
      rw [after_concat, hnone]
      rfl
    · refine ⟨pre, post ++ [op], by simp, hpre, fun mid op' rest h => ?_, ?_⟩
      · rcases List.eq_nil_or_concat rest with rfl | ⟨rest', last, rfl⟩
        · obtain ⟨rfl, hop⟩ := List.append_inj' h rfl
          rw [← List.singleton_inj.1 hop]
          exact hstays
        · have hsplit : post ++ [op] = (mid ++ op' :: rest') ++ [last] := by simpa using h
          exact hpost mid op' rest' (List.append_inj' hsplit rfl).1
      · rw [after_concat, hoffer, hbest, ← argmax_append, offered, offered, offered,
          ← List.filterMap_append]

/-! ## What a drain takes -/

/-- Every candidate is queued under its own pool. -/
def Keyed (q : CandidateQueue S) : Prop :=
  ∀ e ∈ q.entries, e.2.candidate.poolAddress = e.1

omit [LinearOrder S] in
/-- Every entry stands under its own pool. -/
theorem keyed_iff : Keyed q ↔
    ∀ pool scored, q.get? pool = some scored → scored.candidate.poolAddress = pool := by
  simp only [Keyed, Prod.forall, InsertionMap.mem_entries_iff]

/-- Every operation keeps the entries under their pools. -/
theorem keyed_apply (hq : Keyed q) (op : QueueOp S) : Keyed (q.apply op) := by
  rw [keyed_iff] at hq ⊢
  intro pool held hheld
  rcases get?_apply q pool op with ⟨hnone, _⟩ | ⟨_, hoffer⟩
  · rw [hnone] at hheld
    cases hheld
  · rw [hoffer] at hheld
    cases op with
    | enqueue scored =>
      by_cases hp : scored.candidate.poolAddress = pool
      · simp only [offered, hp, List.filterMap_cons, if_true, List.filterMap_nil,
          List.foldl_cons, List.foldl_nil, Option.some.injEq] at hheld
        cases hheld' : q.get? pool with
        | none =>
          rw [hheld', best] at hheld
          exact hheld ▸ hp
        | some existing =>
          rw [hheld', best] at hheld
          split_ifs at hheld
          · exact hheld ▸ hp
          · exact hheld ▸ hq pool existing hheld'
      · exact hq pool held (by simpa [offered, hp] using hheld)
    | _ => exact hq pool held hheld

/-- After any history the entries stand under their pools. -/
theorem keyed_after (ops : List (QueueOp S)) : Keyed (CandidateQueue.after ops) := by
  induction ops using List.reverseRecOn with
  | nil => exact fun e he => absurd he List.not_mem_nil
  | append_singleton ops op ih =>
    rw [after_concat]
    exact keyed_apply ih op

omit [LinearOrder S] in
/-- No pool is queued twice. -/
theorem nodup_pools (hq : Keyed q) :
    (q.values.map fun scored => scored.candidate.poolAddress).Nodup := by
  have hpools : (q.values.map fun scored => scored.candidate.poolAddress) =
      q.entries.map Prod.fst := by
    rw [InsertionMap.values, List.map_map]
    exact List.map_congr_left hq
  rw [hpools]
  exact q.nodup

/-- What is left after a drain is what is not drained, in the order of insertion. -/
theorem values_drain (hq : Keyed q) (n : ℕ) : (q.drain n).2.values = q.values.filter fun scored =>
    scored.candidate.poolAddress ∉
      (q.peek n).map fun scored => scored.candidate.poolAddress := by
  have hentries : (q.drain n).2.entries = q.entries.filter fun e =>
      e.1 ∉ (q.peek n).map fun scored => scored.candidate.poolAddress :=
    entries_foldl_delete (q.peek n) q
  rw [InsertionMap.values, InsertionMap.values, List.filter_map, hentries]
  exact congrArg _ (List.filter_congr fun e he => by rw [Function.comp_apply, hq e he])

/-- A drain takes what a peek shows : the `n` best, the best first, and nothing but them. -/
theorem drain_top (hq : Keyed q) (n : ℕ) :
    (q.drain n).1 = q.peek n ∧ (q.drain n).1.length = min n q.size ∧
    ((q.drain n).1 ++ (q.drain n).2.values).Perm q.values ∧
    (q.drain n).1.Pairwise (fun a b => b.score ≤ a.score) ∧
    ∀ a ∈ (q.drain n).1, ∀ b ∈ (q.drain n).2.values, b.score ≤ a.score := by
  have hperm := List.perm_insertionSort (fun a b : ScoredCandidate S => b.score ≤ a.score) q.values
  have hsorted := List.pairwise_insertionSort (fun a b : ScoredCandidate S => b.score ≤ a.score)
    q.values
  have hnodup := (hperm.map fun scored => scored.candidate.poolAddress).nodup_iff.2 (nodup_pools hq)
  generalize hsort : q.values.insertionSort (fun a b => b.score ≤ a.score) = sorted at *
  have hpeek : q.peek n = sorted.take n := by rw [CandidateQueue.peek, hsort]
  rw [← List.take_append_drop n sorted] at hperm hsorted hnodup
  rw [List.map_append, List.nodup_append'] at hnodup
  rw [List.pairwise_append] at hsorted
  have hrest : (q.drain n).2.values.Perm (sorted.drop n) := by
    rw [values_drain hq, hpeek]
    refine (hperm.symm.filter _).trans ?_
    rw [List.filter_append, List.filter_eq_nil_iff.2, List.filter_eq_self.2, List.nil_append]
    · intro b hb
      have hnot := hnodup.2.2.symm (List.mem_map_of_mem hb)
      simpa using hnot
    · intro a ha
      have hmem := List.mem_map_of_mem (f := fun scored => scored.candidate.poolAddress) ha
      simpa only [decide_eq_true_eq, not_not] using hmem
  have hdrain : (q.drain n).1 = sorted.take n := hpeek
  refine ⟨rfl, ?_, ?_, ?_, fun a ha b hb => ?_⟩
  · rw [hdrain, List.length_take, CandidateQueue.size, ← hsort, List.length_insertionSort,
      InsertionMap.values, List.length_map]
  · rw [hdrain]
    exact (hrest.append_left _).trans hperm
  · rw [hdrain]
    exact hsorted.1
  · rw [hdrain] at ha
    exact hsorted.2.2 a ha b (hrest.mem_iff.1 hb)

/-- The queue after any history : what it holds, and what the next drain takes of it. -/
theorem queue_history (ops : List (QueueOp S)) (n : ℕ) :
    (∀ pool, ∃ pre post, ops = pre ++ post ∧
      (pre = [] ∨ ∃ pre' op, pre = pre' ++ [op] ∧ op.Removes (CandidateQueue.after pre') pool) ∧
      (∀ mid op rest, post = mid ++ op :: rest →
        ¬op.Removes (CandidateQueue.after (pre ++ mid)) pool) ∧
      (CandidateQueue.after ops).get? pool =
        (offered pool post).argmax ScoredCandidate.score) ∧
    let (top, rest) := (CandidateQueue.after ops).drain n
    top = (CandidateQueue.after ops).peek n ∧ top.length = min n (CandidateQueue.after ops).size ∧
    (top ++ rest.values).Perm (CandidateQueue.after ops).values ∧
    top.Pairwise (fun a b => b.score ≤ a.score) ∧
    ∀ a ∈ top, ∀ b ∈ rest.values, b.score ≤ a.score :=
  ⟨best_offer ops, drain_top (keyed_after ops) n⟩

/-! ## What becomes of an offer -/

/-- All offers of a history. -/
def offers (ops : List (QueueOp S)) : List (ScoredCandidate S) :=
  ops.filterMap fun
    | .enqueue scored => some scored
    | _ => none

/-- What an operation drains. -/
def QueueOp.taken (q : CandidateQueue S) : QueueOp S → List (ScoredCandidate S)
  | .drain n => (q.drain n).1
  | _ => []

/-- What the drains of a history take, one after the other. -/
def CandidateQueue.drained : CandidateQueue S → List (QueueOp S) → List (ScoredCandidate S)
  | _, [] => []
  | q, op :: ops => op.taken q ++ (q.apply op).drained ops

/-- What a history drains is drained part by part. -/
theorem drained_append (q : CandidateQueue S) (ops ops' : List (QueueOp S)) :
    q.drained (ops ++ ops') = q.drained ops ++ (ops.foldl CandidateQueue.apply q).drained ops' := by
  induction ops generalizing q with
  | nil => rfl
  | cons op ops ih =>
    rw [List.cons_append, CandidateQueue.drained, CandidateQueue.drained, ih, List.append_assoc,
      List.foldl_cons]

/-- An operation drains and keeps only what was held or is offered. -/
theorem subperm_apply (hq : Keyed q) (op : QueueOp S) :
    (op.taken q ++ (q.apply op).values).Subperm (q.values ++ offers [op]) := by
  cases op with
  | enqueue scored =>
    have hadd : (q.enqueue scored).values.Subperm (scored :: q.values) := by
      cases h : q.get? scored.candidate.poolAddress with
      | none =>
        rw [enqueue_of_none h]
        exact InsertionMap.subperm_values_set
      | some existing =>
        rw [enqueue_of_some h]
        split_ifs
        · exact InsertionMap.subperm_values_set
        · exact (List.sublist_cons_self _ _).subperm
    exact hadd.trans (List.perm_append_singleton scored q.values).symm.subperm
  | drain n =>
    have hperm := (drain_top hq n).2.2.1
    simpa [QueueOp.taken, CandidateQueue.apply, offers] using hperm.subperm
  | remove poolAddress =>
    have hkept : (q.delete poolAddress).values.Sublist q.values :=
      InsertionMap.sublist_values_delete
    simpa [QueueOp.taken, CandidateQueue.apply, CandidateQueue.remove, offers] using hkept.subperm
  | clear => exact List.nil_subperm

/-- Nothing is drained or held more often than it was offered. -/
theorem subperm_offers (ops : List (QueueOp S)) :
    (CandidateQueue.drained .empty ops ++ (CandidateQueue.after ops).values).Subperm
      (offers ops) := by
  induction ops using List.reverseRecOn with
  | nil => exact List.Subperm.refl _
  | append_singleton ops op ih =>
    have hstep := subperm_apply (keyed_after ops) op
    rw [drained_append, after_concat, CandidateQueue.drained, CandidateQueue.drained,
      List.append_nil, List.append_assoc]
    have hoffers : offers (ops ++ [op]) = offers ops ++ offers [op] :=
      List.filterMap_append
    rw [hoffers]
    refine ((List.subperm_append_left _).2 hstep).trans ?_
    rw [← List.append_assoc]
    exact (List.subperm_append_right _).2 ih

/-- The queue holds a candidate for the pool of `scored` that is no worse. -/
def Holds (q : CandidateQueue S) (scored : ScoredCandidate S) : Prop :=
  ∃ held, q.get? scored.candidate.poolAddress = some held ∧ scored.score ≤ held.score

/-- The pool of `scored` is among `out`, with a candidate that is no worse. -/
def Covers (out : List (ScoredCandidate S)) (scored : ScoredCandidate S) : Prop :=
  ∃ taken ∈ out, taken.candidate.poolAddress = scored.candidate.poolAddress ∧
    scored.score ≤ taken.score

/-- The better of two has the higher score. -/
theorem le_best (held : Option (ScoredCandidate S)) (other : ScoredCandidate S) :
    other.score ≤ (best held other).score ∧
      ∀ existing ∈ held, existing.score ≤ (best held other).score := by
  cases held with
  | none => exact ⟨le_refl _, fun _ h => by cases h⟩
  | some existing =>
    rw [best]
    split_ifs with h
    · refine ⟨le_refl _, fun _ hex => ?_⟩
      obtain rfl := Option.some.inj hex
      exact h.le
    · refine ⟨not_lt.1 h, fun _ hex => ?_⟩
      obtain rfl := Option.some.inj hex
      exact le_refl _

/-- After an offer the queue holds something as good for the pool. -/
theorem holds_enqueue (q : CandidateQueue S) (scored : ScoredCandidate S) :
    Holds (q.enqueue scored) scored :=
  ⟨_, by rw [get?_enqueue, if_pos rfl], (le_best _ _).1⟩

/-- An operation of the scanner. -/
def QueueOp.Scans : QueueOp S → Prop
  | .enqueue _ => True
  | .drain _ => True
  | .remove _ => False
  | .clear => False

/-- What is held stays held until it is drained. -/
theorem holds_apply (hq : Keyed q) {op : QueueOp S} (hop : op.Scans) (h : Holds q scored) :
    Holds (q.apply op) scored ∨ Covers (op.taken q) scored := by
  obtain ⟨held, hheld, hle⟩ := h
  cases op with
  | enqueue other =>
    refine Or.inl ?_
    by_cases hp : scored.candidate.poolAddress = other.candidate.poolAddress
    · exact ⟨_, by rw [CandidateQueue.apply, get?_enqueue, if_pos hp],
        hle.trans ((le_best _ _).2 held hheld)⟩
    · exact ⟨held, by rw [CandidateQueue.apply, get?_enqueue, if_neg hp, hheld], hle⟩
  | drain n =>
    by_cases hp : scored.candidate.poolAddress ∈
        (q.drain n).1.map fun scored => scored.candidate.poolAddress
    · obtain ⟨taken, htaken, hpool⟩ := List.mem_map.1 hp
      obtain ⟨key, hkey⟩ := InsertionMap.mem_values_iff.1 (mem_drain htaken)
      have hown := keyed_iff.1 hq key taken hkey
      rw [← hown, hpool, hheld] at hkey
      obtain rfl := Option.some.inj hkey
      exact Or.inr ⟨held, htaken, hpool, hle⟩
    · exact Or.inl ⟨held, by rw [CandidateQueue.apply, get?_drain, if_neg hp, hheld], hle⟩
  | remove _ => exact hop.elim
  | clear => exact hop.elim

/-- An offer is held, or drained, after any further operations of the scanner. -/
theorem queued_or_drained (ops ops' : List (QueueOp S)) (hops : ∀ op ∈ ops', op.Scans)
    (scored : ScoredCandidate S) :
    Holds (CandidateQueue.after (ops ++ [.enqueue scored] ++ ops')) scored ∨
      Covers ((CandidateQueue.after (ops ++ [.enqueue scored])).drained ops') scored := by
  induction ops' using List.reverseRecOn with
  | nil =>
    rw [List.append_nil, after_concat]
    exact Or.inl (holds_enqueue _ _)
  | append_singleton ops' op ih =>
    have hrun : ops'.foldl CandidateQueue.apply (CandidateQueue.after (ops ++ [.enqueue scored])) =
        CandidateQueue.after (ops ++ [.enqueue scored] ++ ops') := by
      exact List.foldl_append.symm
    rw [drained_append, ← List.append_assoc, after_concat, hrun]
    rcases ih fun op h => hops op (List.mem_append_left _ h) with hheld | ⟨taken, htaken, hcover⟩
    · rcases holds_apply (keyed_after _) (hops op (by simp)) hheld with h | ⟨taken, htaken, hcover⟩
      · exact Or.inl h
      · refine Or.inr ⟨taken, List.mem_append_right _ ?_, hcover⟩
        rw [CandidateQueue.drained, CandidateQueue.drained, List.append_nil]
        exact htaken
    · exact Or.inr ⟨taken, List.mem_append_left _ htaken, hcover⟩

/-! ## The scan cycles -/

section Scanner

variable (rt : Runtime) (opts : ScannerOptions) (derive : Derive) (s : GraveScannerV2 S)

/-- What a turn of the loop does to the queue. -/
def GraveScannerV2.offer (v : Visit S) : List (QueueOp S) :=
  let activity := (indexActivity derive s.cache v.pool v.nowMs).1
  match v.reserves with
  | none => []
  | some reserves =>
    if v.hasMetadata ∧ (preFilterPool activity.record reserves (opts.thresholds.getD .default)
        v.filteredAtMs).passed then
      [.enqueue ⟨⟨v.pool, activity.record⟩, v.score, activity.cachedAtMs⟩]
    else []

/-- The operations of some visits. -/
def GraveScannerV2.visitHistory : GraveScannerV2 S → List (Visit S) → List (QueueOp S)
  | _, [] => []
  | s, v :: visits =>
    s.offer opts derive v ++ GraveScannerV2.visitHistory (s.visit opts derive v) visits

/-- The drain of a cycle, if the cycle is completed. -/
def Cycle.drains (cycle : Cycle S) : List (QueueOp S) :=
  if cycle.completed then [.drain (opts.maxCandidatesPerCycle.getD 5)] else []

/-- What the cycles do to the queue. -/
def GraveScannerV2.history : GraveScannerV2 S → List (Cycle S) → List (QueueOp S)
  | _, [] => []
  | s, cycle :: cycles => s.visitHistory opts derive cycle.visits ++ (cycle.drains opts ++
      GraveScannerV2.history (s.runOnce rt opts derive cycle).1 cycles)

/-- A visit does to the queue what its offer does. -/
theorem queue_visit (v : Visit S) : (s.visit opts derive v).queue =
    (s.offer opts derive v).foldl CandidateQueue.apply s.queue := by
  unfold GraveScannerV2.visit GraveScannerV2.offer
  dsimp only
  cases v.reserves with
  | none => rfl
  | some reserves =>
    dsimp only
    cases hmeta : v.hasMetadata with
    | false => rfl
    | true =>
      cases hpass : (preFilterPool (indexActivity derive s.cache v.pool v.nowMs).1.record reserves
          (opts.thresholds.getD .default) v.filteredAtMs).passed with
      | false => rfl
      | true => rfl

/-- So do several visits. -/
theorem queue_visits (visits : List (Visit S)) :
    (visits.foldl (GraveScannerV2.visit opts derive) s).queue =
      (s.visitHistory opts derive visits).foldl CandidateQueue.apply s.queue := by
  induction visits generalizing s with
  | nil => rfl
  | cons v visits ih =>
    rw [List.foldl_cons, ih, queue_visit, GraveScannerV2.visitHistory, List.foldl_append]

/-- The offers of the visits drain nothing. -/
theorem drained_visitHistory (q : CandidateQueue S) (visits : List (Visit S)) :
    q.drained (s.visitHistory opts derive visits) = [] := by
  induction visits generalizing s q with
  | nil => rfl
  | cons v visits ih =>
    rw [GraveScannerV2.visitHistory, drained_append, ih, List.append_nil]
    unfold GraveScannerV2.offer
    dsimp only
    cases v.reserves with
    | none => rfl
    | some reserves =>
      dsimp only
      split_ifs <;> rfl

/-- A cycle does to the queue what its operations do. -/
theorem queue_runOnce (cycle : Cycle S) : (s.runOnce rt opts derive cycle).1.queue =
    (s.visitHistory opts derive cycle.visits ++ cycle.drains opts).foldl CandidateQueue.apply
      s.queue := by
  rw [List.foldl_append, ← queue_visits]
  unfold GraveScannerV2.runOnce Cycle.drains
  dsimp only
  split_ifs <;> rfl

omit [LinearOrder S] in
theorem map_fst_zip_eq_take (top : List (ScoredCandidate S)) (submissions : List Submission) :
    (top.zip submissions).map Prod.fst = top.take submissions.length := by
  induction top generalizing submissions with
  | nil => simp
  | cons scored top ih =>
    cases submissions with
    | nil => rfl
    | cons submission submissions => simp [ih]

/-- The submissions of a cycle are of what it drains, in that order, as many as are made. -/
theorem submitted_runOnce (cycle : Cycle S) :
    (s.runOnce rt opts derive cycle).2.map Submitted.scored =
      (((s.visitHistory opts derive cycle.visits).foldl CandidateQueue.apply s.queue).drained
        (cycle.drains opts)).take cycle.submissions.length := by
  rw [← queue_visits]
  unfold GraveScannerV2.runOnce Cycle.drains
  dsimp only
  split_ifs
  · rw [CandidateQueue.drained, CandidateQueue.drained, List.append_nil, List.map_map]
    exact map_fst_zip_eq_take _ _
  · rw [CandidateQueue.drained, List.take_nil]
    rfl

/-- A run of scan cycles is a history of the queue. -/
theorem queue_start (cycles : List (Cycle S)) : (s.start rt opts derive cycles).1.queue =
    (s.history rt opts derive cycles).foldl CandidateQueue.apply s.queue := by
  induction cycles generalizing s with
  | nil => rfl
  | cons cycle cycles ih =>
    rw [GraveScannerV2.history, ← List.append_assoc, List.foldl_append, ← queue_runOnce]
    exact ih _

/-- What a cycle does to the queue, and then what the later ones do. -/
theorem drained_history (cycle : Cycle S) (cycles : List (Cycle S)) :
    s.queue.drained (s.history rt opts derive (cycle :: cycles)) =
      ((s.visitHistory opts derive cycle.visits).foldl CandidateQueue.apply s.queue).drained
          (cycle.drains opts) ++
        (s.runOnce rt opts derive cycle).1.queue.drained
          ((s.runOnce rt opts derive cycle).1.history rt opts derive cycles) := by
  rw [GraveScannerV2.history, ← List.append_assoc, drained_append, drained_append,
    drained_visitHistory, List.nil_append, ← queue_runOnce]

/-- Only what is drained is submitted, in the order in which it is drained. -/
theorem submitted_sublist (cycles : List (Cycle S)) :
    ((s.start rt opts derive cycles).2.map Submitted.scored).Sublist
      (s.queue.drained (s.history rt opts derive cycles)) := by
  induction cycles generalizing s with
  | nil => exact List.Sublist.refl _
  | cons cycle cycles ih =>
    rw [drained_history]
    refine List.Sublist.trans ?_ ((List.take_sublist cycle.submissions.length _).append (ih _))
    rw [← submitted_runOnce, ← List.map_append]
    exact List.Sublist.refl _

/-- As many submissions are made as candidates are drained. -/
def SubmitsAll (cycle : Cycle S) : Prop :=
  cycle.completed → opts.maxCandidatesPerCycle.getD 5 ≤ cycle.submissions.length

/-- A cycle that submits all it drains has as many submissions. -/
theorem length_drained_drains (q : CandidateQueue S) (cycle : Cycle S)
    (h : SubmitsAll opts cycle) : (q.drained (cycle.drains opts)).length ≤
      cycle.submissions.length := by
  unfold Cycle.drains
  split_ifs with hc
  · rw [CandidateQueue.drained, CandidateQueue.drained, List.append_nil]
    exact (List.length_take_le _ _).trans (h hc)
  · exact Nat.zero_le _

/-- All that is drained is submitted, if no cycle is cut short. -/
theorem submitted_eq (cycles : List (Cycle S)) (h : ∀ cycle ∈ cycles, SubmitsAll opts cycle) :
    (s.start rt opts derive cycles).2.map Submitted.scored =
      s.queue.drained (s.history rt opts derive cycles) := by
  induction cycles generalizing s with
  | nil => rfl
  | cons cycle cycles ih =>
    have hall := length_drained_drains opts
      ((s.visitHistory opts derive cycle.visits).foldl CandidateQueue.apply s.queue) cycle
      (h cycle List.mem_cons_self)
    rw [drained_history, ← ih _ fun c hc => h c (List.mem_cons_of_mem _ hc),
      ← List.take_of_length_le hall, ← submitted_runOnce, ← List.map_append]
    rfl

/-- Visits take nothing out of the queue but by draining it. -/
theorem scans_visitHistory (visits : List (Visit S)) :
    ∀ op ∈ s.visitHistory opts derive visits, op.Scans := by
  induction visits generalizing s with
  | nil => exact fun op h => absurd h List.not_mem_nil
  | cons v visits ih =>
    intro op hop
    rcases List.mem_append.1 hop with hop | hop
    · unfold GraveScannerV2.offer at hop
      dsimp only at hop
      cases hv : v.reserves with
      | none => simp [hv] at hop
      | some reserves =>
        rw [hv] at hop
        dsimp only at hop
        split_ifs at hop
        · rw [List.mem_singleton.1 hop]
          trivial
        · cases hop
    · exact ih _ op hop

/-- No operation of a history removes or clears. -/
theorem scans_history (cycles : List (Cycle S)) :
    ∀ op ∈ s.history rt opts derive cycles, op.Scans := by
  induction cycles generalizing s with
  | nil => exact fun op h => absurd h List.not_mem_nil
  | cons cycle cycles ih =>
    intro op hop
    rw [GraveScannerV2.history, List.mem_append, List.mem_append] at hop
    rcases hop with hop | hop | hop
    · exact scans_visitHistory opts derive s cycle.visits op hop
    · unfold Cycle.drains at hop
      split_ifs at hop
      · rw [List.mem_singleton.1 hop]
        trivial
      · cases hop
    · exact ih _ op hop

/-- The candidates of every run of scan cycles from a new scanner. None is submitted or held more
often than it was queued. For each that was queued, the queue holds one for the same pool that is
no worse, or has since drained one. All that is drained is submitted if no cycle is cut short. -/
theorem candidates_accounted (cycles : List (Cycle S)) :
    let history := GraveScannerV2.new.history rt opts derive cycles
    let (s, submitted) := GraveScannerV2.new.start rt opts derive cycles
    (submitted.map Submitted.scored ++ s.queue.values).Subperm (offers history) ∧
    (∀ ops scored ops', history = ops ++ [.enqueue scored] ++ ops' → Holds s.queue scored ∨
      Covers ((CandidateQueue.after (ops ++ [.enqueue scored])).drained ops') scored) ∧
    ((∀ cycle ∈ cycles, SubmitsAll opts cycle) →
      submitted.map Submitted.scored = CandidateQueue.drained .empty history) := by
  have hqueue : (GraveScannerV2.new.start rt opts derive cycles).1.queue =
      CandidateQueue.after (GraveScannerV2.new.history rt opts derive cycles) :=
    queue_start rt opts derive .new cycles
  have hscans := scans_history rt opts derive .new cycles
  refine ⟨?_, fun ops scored ops' hhistory => ?_, submitted_eq rt opts derive .new cycles⟩
  · rw [hqueue]
    refine List.Subperm.trans ?_ (subperm_offers _)
    exact (List.subperm_append_right _).2 (submitted_sublist rt opts derive .new cycles).subperm
  · rw [hqueue, hhistory]
    refine queued_or_drained ops ops' (fun op hop => hscans op ?_) scored
    rw [hhistory]
    exact List.mem_append_right _ hop

end Scanner

end GraveYield.Indexer
