import Mathlib.Tactic

/-!
# Runs of a state machine with failing steps

`exec` either produces the next state or fails. A failing input leaves the state as it
was (`step`), and `run` folds `step` over a list of inputs.

`run_invariant` carries a property preserved by successful steps along a run.
`run_rel` does the same for a preorder between the states at two moments of the run.
`exists_establishing` is the history rule : a property that fails at the start and holds
at the end was established by a successful step of the run, and held from then on.

`run_simulation` relates the runs of two machines, one of which takes fewer inputs, and
`run_unwinding` the runs of one machine with and without some inputs.

A `batch` is a list of inputs that succeeds or fails as a whole. `Along` and `AlongRun` say that
every input of a batch, or of a run, meets a condition in the state in which it is executed;
`batch_invariant` and `run_invariant_of_along` are the invariant rules under such a condition, and
`forall_prefix_iff_alongRun` says when the condition is also necessary. `IfOk` asks a condition only
of the inputs that succeed. A run of batches is a run
of the inputs of those that succeed (`exists_run_of_batches`).

`outputs` lists what the successful steps of a run emit, and `outputs_invariant` carries a
property of the list so far together with the state.
-/

namespace Machine

variable {σ ι ε : Type*} (exec : σ → ι → Except ε σ)

/-- The state after one input. A failing input changes nothing. -/
def step (s : σ) (i : ι) : σ :=
  match exec s i with
  | .ok s' => s'
  | .error _ => s

/-- The state after a list of inputs. -/
def run (s : σ) (is : List ι) : σ :=
  is.foldl (step exec) s

/-- A run of nothing. -/
@[simp] theorem run_nil (s : σ) : run exec s [] = s :=
  rfl

/-- A run is its first step and the run of the rest. -/
@[simp] theorem run_cons (s : σ) (i : ι) (is : List ι) :
    run exec s (i :: is) = run exec (step exec s i) is :=
  rfl

/-- A run of a list and another. -/
theorem run_append (s : σ) (is js : List ι) :
    run exec s (is ++ js) = run exec (run exec s is) js :=
  List.foldl_append

/-- A run is the run before its last step, and that step. -/
theorem run_concat (s : σ) (is : List ι) (i : ι) :
    run exec s (is ++ [i]) = step exec (run exec s is) i := by
  rw [run_append]
  rfl

variable {exec}

/-- An instruction that succeeds is executed. -/
theorem step_of_ok {s s' : σ} {i : ι} (h : exec s i = .ok s') : step exec s i = s' := by
  simp [step, h]

/-- An instruction that fails changes nothing. -/
theorem step_of_error {s : σ} {i : ι} {e : ε} (h : exec s i = .error e) : step exec s i = s := by
  simp [step, h]

/-- A step either succeeds or keeps the state. -/
theorem step_cases (exec : σ → ι → Except ε σ) (s : σ) (i : ι) :
    exec s i = .ok (step exec s i) ∨ step exec s i = s := by
  cases h : exec s i with
  | ok s' => exact Or.inl (by rw [step_of_ok h])
  | error e => exact Or.inr (step_of_error h)

/-- What holds at the start and is preserved by successful steps holds after a run. -/
theorem run_invariant {I : σ → Prop}
    (hstep : ∀ s i s', I s → exec s i = .ok s' → I s') {s : σ} (h0 : I s)
    (is : List ι) : I (run exec s is) := by
  induction is generalizing s with
  | nil => exact h0
  | cons i is ih =>
    apply ih
    rcases step_cases exec s i with h | h
    · exact hstep s i _ h0 h
    · rwa [h]

/-- A preorder respected by the successful steps out of invariant states relates the
ends of a run. -/
theorem run_rel {I : σ → Prop} {R : σ → σ → Prop} (hrefl : ∀ s, R s s)
    (htrans : ∀ s t u, R s t → R t u → R s u)
    (hstep : ∀ s i s', I s → exec s i = .ok s' → I s' ∧ R s s') {s : σ} (h0 : I s)
    (is : List ι) : R s (run exec s is) := by
  induction is generalizing s with
  | nil => exact hrefl s
  | cons i is ih =>
    rcases step_cases exec s i with h | h
    · obtain ⟨hi, hr⟩ := hstep s i _ h0 h
      exact htrans _ _ _ hr (ih hi)
    · rw [run_cons, h]
      exact ih h0

/-- A run through an instruction that succeeds. -/
theorem run_append_cons {s s' : σ} {pre post : List ι} {i : ι}
    (h : exec (run exec s pre) i = .ok s') : run exec s (pre ++ i :: post) = run exec s' post := by
  rw [run_append, run_cons, step_of_ok h]

/-- The last step that established `P` : a successful step from a state without `P`, with
`P` in every state of the run from then on. -/
theorem exists_establishing (exec : σ → ι → Except ε σ) {P : σ → Prop} {s : σ} {is : List ι}
    (h0 : ¬P s) (h1 : P (run exec s is)) : ∃ pre i post s', is = pre ++ i :: post ∧
      ¬P (run exec s pre) ∧ exec (run exec s pre) i = .ok s' ∧ P s' ∧
      ∀ mid, mid <+: post → P (run exec s (pre ++ i :: mid)) := by
  induction is using List.reverseRecOn with
  | nil => exact absurd h1 h0
  | append_singleton is i ih =>
    by_cases hp : P (run exec s is)
    · obtain ⟨pre, j, post, s', rfl, hn, hj, hs', hmid⟩ := ih hp
      refine ⟨pre, j, post ++ [i], s', by simp, hn, hj, hs', fun mid hm => ?_⟩
      rcases List.prefix_concat_iff.1 hm with rfl | hm
      · simpa using h1
      · exact hmid mid hm
    · rw [run_concat] at h1
      rcases step_cases exec (run exec s is) i with h | h
      · refine ⟨is, i, [], _, rfl, hp, h, h1, fun mid hm => ?_⟩
        rw [List.prefix_nil.1 hm, run_append_cons h]
        exact h1
      · exact absurd (h ▸ h1) hp

/-! ## Simulation -/

/-- A step that succeeds iff one of the other machine does, with related results. -/
theorem step_simulation {τ κ δ : Type*} {exec : σ → ι → Except ε σ} {exec' : τ → κ → Except δ τ}
    {R : σ → τ → Prop} {s : σ} {t : τ} {i : ι} {k : κ} {g : τ → σ}
    (hok : ∀ s', exec s i = .ok s' ↔ ∃ t', exec' t k = .ok t' ∧ g t' = s') (h0 : R s t)
    (h1 : ∀ t', exec' t k = .ok t' → R (g t') t') : R (step exec s i) (step exec' t k) := by
  cases ht : exec' t k with
  | ok t' =>
    rw [step_of_ok ((hok _).2 ⟨t', ht, rfl⟩), step_of_ok ht]
    exact h1 t' ht
  | error e =>
    rw [step_of_error ht]
    rcases step_cases exec s i with hs | hs
    · obtain ⟨t', ht', _⟩ := (hok _).1 hs
      rw [ht] at ht'
      cases ht'
    · rwa [hs]

/-- A machine that is simulated by another, which takes the inputs that `f` reads off : a related
start gives related ends. -/
theorem run_simulation {τ κ δ : Type*} {exec : σ → ι → Except ε σ} {exec' : τ → κ → Except δ τ}
    {f : ι → Option κ} {R : σ → τ → Prop}
    (hstep : ∀ s i t, R s t → R (step exec s i) (run exec' t (f i).toList)) {s : σ} {t : τ}
    (h0 : R s t) (is : List ι) : R (run exec s is) (run exec' t (is.filterMap f)) := by
  induction is generalizing s t with
  | nil => exact h0
  | cons i is ih =>
    have hi := ih (hstep s i t h0)
    cases hf : f i with
    | none => simpa [List.filterMap_cons, hf] using hi
    | some k => simpa [List.filterMap_cons, hf] using hi

/-- Unwinding : inputs after which a state is still related to what it was related to before can be
left out. -/
theorem run_unwinding {R : σ → σ → Prop} {p : ι → Bool} {is : List ι}
    (hkeep : ∀ s t, ∀ i ∈ is, p i = true → R s t → R (step exec s i) (step exec t i))
    (hdrop : ∀ s t, ∀ i ∈ is, p i = false → R s t → R (step exec s i) t) {s t : σ} (h0 : R s t) :
    R (run exec s is) (run exec t (is.filter p)) := by
  induction is generalizing s t with
  | nil => exact h0
  | cons i is ih =>
    have hrest := @ih (fun s t j hj => hkeep s t j (List.mem_cons_of_mem i hj))
      fun s t j hj => hdrop s t j (List.mem_cons_of_mem i hj)
    cases hp : p i with
    | true =>
      rw [List.filter_cons_of_pos hp, run_cons, run_cons]
      exact hrest (hkeep s t i List.mem_cons_self hp h0)
    | false =>
      rw [List.filter_cons_of_neg (by simp [hp]), run_cons]
      exact hrest (hdrop s t i List.mem_cons_self hp h0)

/-! ## Batches -/

variable (exec)

/-- All inputs in order, or the first failure. -/
def batch (s : σ) (is : List ι) : Except ε σ :=
  is.foldlM exec s

/-- Every input of a batch meets `C` in the state in which it is executed. -/
def Along (C : σ → ι → Prop) : σ → List ι → Prop
  | _, [] => True
  | s, i :: is => C s i ∧ ∀ s', exec s i = .ok s' → Along C s' is

/-- Every input of a run meets `C` in the state in which it is executed. -/
def AlongRun (C : σ → ι → Prop) : σ → List ι → Prop
  | _, [] => True
  | s, i :: is => C s i ∧ AlongRun C (step exec s i) is

variable {exec}

/-- A batch of nothing. -/
@[simp] theorem batch_nil (s : σ) : batch exec s [] = .ok s :=
  rfl

/-- A batch succeeds iff its first instruction and the rest do. -/
theorem batch_cons_ok_iff {s s' : σ} {i : ι} {is : List ι} :
    batch exec s (i :: is) = .ok s' ↔ ∃ t, exec s i = .ok t ∧ batch exec t is = .ok s' := by
  unfold batch
  rw [List.foldlM_cons]
  cases h : exec s i with
  | ok t => simp [bind, Except.bind]
  | error e => simp [bind, Except.bind]

/-- A batch of a list and another. -/
theorem batch_append (s : σ) (is js : List ι) :
    batch exec s (is ++ js) = batch exec s is >>= fun t => batch exec t js :=
  List.foldlM_append

/-- A condition that holds everywhere holds along a batch. -/
theorem along_of_forall {C : σ → ι → Prop} {s : σ} {is : List ι} (h : ∀ s, ∀ i ∈ is, C s i) :
    Along exec C s is := by
  induction is generalizing s with
  | nil => trivial
  | cons i is ih =>
    exact ⟨h s i List.mem_cons_self, fun s' _ => ih fun s j hj => h s j (List.mem_cons_of_mem i hj)⟩

/-- What a successful step preserves under `C`, a batch along `C` preserves. -/
theorem batch_invariant {I : σ → Prop} {C : σ → ι → Prop}
    (hstep : ∀ s i s', I s → C s i → exec s i = .ok s' → I s') {s s' : σ} {is : List ι}
    (h0 : I s) (hc : Along exec C s is) (h : batch exec s is = .ok s') : I s' := by
  induction is generalizing s with
  | nil =>
    obtain rfl := Except.ok.inj h
    exact h0
  | cons i is ih =>
    obtain ⟨t, ht, h⟩ := batch_cons_ok_iff.1 h
    exact ih (hstep s i t h0 hc.1 ht) (hc.2 t ht) h

/-- What a successful step preserves, a batch preserves. -/
theorem batch_preserves {I : σ → Prop}
    (hstep : ∀ s i s', I s → exec s i = .ok s' → I s') {s s' : σ} {is : List ι}
    (h0 : I s) (h : batch exec s is = .ok s') : I s' :=
  batch_invariant (C := fun _ _ => True) (fun s i s' hs _ => hstep s i s' hs) h0
    (along_of_forall fun _ _ _ => trivial) h

/-- A batch that succeeds is a run. -/
theorem run_of_batch {s s' : σ} {is : List ι} (h : batch exec s is = .ok s') :
    run exec s is = s' := by
  induction is generalizing s with
  | nil => exact Except.ok.inj h
  | cons i is ih =>
    obtain ⟨t, ht, h⟩ := batch_cons_ok_iff.1 h
    rw [run_cons, step_of_ok ht, ih h]

/-- Where the inputs of a machine are batches of another, a run is the run of the inputs of those
batches that succeed. -/
theorem exists_run_of_batches {execs : σ → List ι → Except ε σ}
    (hbatch : ∀ s is s', execs s is = .ok s' → batch exec s is = .ok s') (s : σ)
    (batches : List (List ι)) : ∃ is, is.Sublist batches.flatten ∧
      run execs s batches = run exec s is := by
  induction batches generalizing s with
  | nil => exact ⟨[], List.nil_sublist _, rfl⟩
  | cons b batches ih =>
    rcases step_cases execs s b with h | h
    · obtain ⟨is, hsub, heq⟩ := ih (step execs s b)
      refine ⟨b ++ is, hsub.append_left b, ?_⟩
      rw [run_cons, heq, run_append, run_of_batch (hbatch _ _ _ h)]
    · obtain ⟨is, hsub, heq⟩ := ih s
      refine ⟨is, hsub.trans (List.sublist_append_right _ _), ?_⟩
      rw [run_cons, h, heq]

/-- What a successful step preserves under `C`, a run along `C` preserves. -/
theorem run_invariant_of_along {I : σ → Prop} {C : σ → ι → Prop}
    (hstep : ∀ s i s', I s → C s i → exec s i = .ok s' → I s') {s : σ} {is : List ι}
    (h0 : I s) (hc : AlongRun exec C s is) : I (run exec s is) := by
  induction is generalizing s with
  | nil => exact h0
  | cons i is ih =>
    refine ih ?_ hc.2
    rcases step_cases exec s i with h | h
    · exact hstep s i _ h0 hc.1 h
    · rwa [h]

/-- `C`, asked only of the inputs that succeed. -/
def IfOk (exec : σ → ι → Except ε σ) (C : σ → ι → Prop) (s : σ) (i : ι) : Prop :=
  ∀ s', exec s i = .ok s' → C s i

/-- A condition holds if the instruction succeeds where it always holds. -/
theorem IfOk.of {C : σ → ι → Prop} {s : σ} {i : ι} (h : C s i) : IfOk exec C s i :=
  fun _ _ => h

/-- A condition on the inputs that succeed is enough for the invariant rule. -/
theorem run_invariant_of_ifOk {I : σ → Prop} {C : σ → ι → Prop}
    (hstep : ∀ s i s', I s → C s i → exec s i = .ok s' → I s') {s : σ} {is : List ι}
    (h0 : I s) (hc : AlongRun exec (IfOk exec C) s is) : I (run exec s is) :=
  run_invariant_of_along (fun s i s' hs hi h => hstep s i s' hs (hi s' h) h) h0 hc

/-- A condition along a list and another. -/
theorem alongRun_append {C : σ → ι → Prop} {s : σ} {is js : List ι} :
    AlongRun exec C s (is ++ js) ↔ AlongRun exec C s is ∧ AlongRun exec C (run exec s is) js := by
  induction is generalizing s with
  | nil => simp [AlongRun]
  | cons i is ih => simp [AlongRun, ih, and_assoc]

/-- A condition along a list and one more. -/
theorem alongRun_concat {C : σ → ι → Prop} {s : σ} {is : List ι} {i : ι} :
    AlongRun exec C s (is ++ [i]) ↔ AlongRun exec C s is ∧ C (run exec s is) i := by
  simp [alongRun_append, AlongRun]

/-- A condition that holds everywhere holds along a run. -/
theorem alongRun_of_forall {C : σ → ι → Prop} {s : σ} {is : List ι}
    (h : ∀ s, ∀ i ∈ is, C s i) : AlongRun exec C s is := by
  induction is generalizing s with
  | nil => trivial
  | cons i is ih =>
    exact ⟨h s i List.mem_cons_self, ih fun s j hj => h s j (List.mem_cons_of_mem i hj)⟩

/-- The condition of a run holds wherever one of its inputs is executed. -/
theorem alongRun_at {C : σ → ι → Prop} {s : σ} {pre post : List ι} {i : ι}
    (h : AlongRun exec C s (pre ++ i :: post)) : C (run exec s pre) i :=
  (alongRun_append.1 h).2.1

/-- Where a step out of `I` stays within it iff it meets `C`, a run stays within `I` iff its
inputs meet `C`. -/
theorem forall_prefix_iff_alongRun {I : σ → Prop} {C : σ → ι → Prop}
    (hstep : ∀ s i, I s → (I (step exec s i) ↔ C s i)) {s : σ} (h0 : I s) (is : List ι) :
    (∀ pre, pre <+: is → I (run exec s pre)) ↔ AlongRun exec C s is := by
  induction is generalizing s with
  | nil => simp [AlongRun, h0]
  | cons i is ih =>
    rw [AlongRun, ← hstep s i h0]
    constructor
    · intro h
      have hi : I (step exec s i) := h [i] (by simp)
      exact ⟨hi, (ih hi).1 fun pre hp => h (i :: pre) (List.cons_prefix_cons.2 ⟨rfl, hp⟩)⟩
    · rintro ⟨hi, hrest⟩ pre hp
      cases pre with
      | nil => exact h0
      | cons j pre =>
        obtain ⟨rfl, hpre⟩ := List.cons_prefix_cons.1 hp
        exact (ih hi).2 hrest pre hpre

/-! ## Outputs -/

variable {ω : Type*} (exec) (emit : σ → ι → σ → Option ω)

/-- What the successful steps of a run emit, in order. -/
def outputs : σ → List ι → List ω
  | _, [] => []
  | s, i :: is =>
    match exec s i with
    | .ok s' => (emit s i s').toList ++ outputs s' is
    | .error _ => outputs s is

variable {exec emit}

/-- A property of the outputs so far and of the state, preserved by successful steps. -/
theorem outputs_invariant {I : List ω → σ → Prop}
    (hstep : ∀ os s i s', I os s → exec s i = .ok s' → I (os ++ (emit s i s').toList) s')
    {s : σ} {os : List ω} (h0 : I os s) (is : List ι) :
    I (os ++ outputs exec emit s is) (run exec s is) := by
  induction is generalizing s os with
  | nil => simpa [outputs] using h0
  | cons i is ih =>
    cases h : exec s i with
    | ok s' =>
      have hs := ih (hstep os s i s' h0 h)
      simpa [outputs, h, step] using hs
    | error e => simpa [outputs, h, step] using ih h0

/-- The outputs of a list and another. -/
theorem outputs_append (s : σ) (is js : List ι) : outputs exec emit s (is ++ js) =
    outputs exec emit s is ++ outputs exec emit (run exec s is) js := by
  induction is generalizing s with
  | nil => rfl
  | cons i is ih =>
    cases h : exec s i with
    | ok s' => simp [outputs, h, step, ih]
    | error e => simp [outputs, h, step, ih]

end Machine
