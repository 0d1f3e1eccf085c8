import GraveYield.SlotHashes
import GraveYield.Staleness

/-!
# Attestations are not replayed

The scanner stores no attestation. A message names the slot in which it was issued, and is
accepted only as long as the `SlotHashes` sysvar lists that slot. At slot `s` the sysvar
covers the slots from `s - 512` on, and the two phases are two epochs apart, so that what
Phase 1 accepted is no longer listed in Phase 2.
-/

namespace GraveYield.Scanner

open Machine Checked

variable {rt : Runtime} {s s' : State}

/-! ## What the sysvar lists -/

/-- Some entry of the raw `SlotHashes` data is for `slot`. -/
def ListsSlot (data : List Byte) (slot : ℕ) : Prop :=
  ∃ i, i < (leWordAt 8 data 0).val ∧ 8 + i * 40 + 40 ≤ data.length ∧
    (leWordAt 8 data (8 + i * 40)).val = slot

/-- `SlotHashes` data at `slot` lists only the 512 slots before it. -/
def SlotHashesAt (slot : U64) (data : List Byte) : Prop :=
  ∀ listed, ListsSlot data listed → slot.val ≤ listed + 512 ∧ listed < slot.val

/-- A slot that is looked up with success is listed. -/
theorem listsSlot_of_lookup {data : List Byte} {target : U64}
    (h : (slotHashLookup data target).isSome = true) : ListsSlot data target.val := by
  obtain ⟨hash, hhash⟩ := Option.isSome_iff_exists.1 h
  obtain ⟨i, hi⟩ := slotHashLookup_eq_some_iff.1 hhash
  have hwithin := hi.within
  exact ⟨i, hi.counted, by omega, hi.slot_eq⟩

/-- An accepted message was issued within the last 512 slots, before the current one. -/
theorem issuedSlot_of_gathered {clock : Clock} {cfg : ProtocolConfig} {lp : LaunchPrice}
    {params : EvaluatePoolParams} {accounts : EvaluateAccounts} {anchorEpoch : Option U64}
    {out : PoolData × CriteriaInputs}
    (h : gatherInputs rt clock cfg lp params accounts anchorEpoch = .ok out)
    (hreal : SlotHashesAt clock.slot accounts.slotHashes) :
    clock.slot.val ≤ (messageIssuedSlot params.msg).val + 512 ∧
      (messageIssuedSlot params.msg).val < clock.slot.val := by
  obtain ⟨ts, hts, _⟩ := bind_ok_iff.1 h
  obtain ⟨_, _, hts⟩ := bind_ok_iff.1 hts
  obtain ⟨_, _, hts⟩ := bind_ok_iff.1 hts
  simp only [verifyAttestationMessage, bind_ok_iff, require_ok_iff, exists_const] at hts
  obtain ⟨_, _, _, hsome, _⟩ := hts
  exact hreal _ (listsSlot_of_lookup hsome)

/-! ## Epochs in slots -/

/-- `first` gives the first slot of every epoch; an epoch has at least 512 slots. -/
def EpochSlots (first : ℕ → ℕ) : Prop :=
  ∀ n, first n + 512 ≤ first (n + 1)

/-- The slot of the clock lies in its epoch. -/
def InEpoch (first : ℕ → ℕ) (c : Clock) : Prop :=
  first c.epoch.val ≤ c.slot.val ∧ c.slot.val < first (c.epoch.val + 1)

/-- Two epochs are more than 512 slots. -/
theorem slot_gap {first : ℕ → ℕ} (hfirst : EpochSlots first) {c c' : Clock} (hc : InEpoch first c)
    (hc' : InEpoch first c') (hgap : c.epoch.val + 2 ≤ c'.epoch.val) :
    c.slot.val + 512 < c'.slot.val := by
  have hmono : Monotone first := monotone_nat_of_le_succ fun n => by
    have := hfirst n
    omega
  calc c.slot.val + 512 < first (c.epoch.val + 1) + 512 := by
        have := hc.2
        omega
    _ ≤ first (c.epoch.val + 2) := hfirst _
    _ ≤ first c'.epoch.val := hmono hgap
    _ ≤ c'.slot.val := hc'.1

/-! ## No replay -/

/-- Every evaluation is handed the `SlotHashes` data of the slot in which it runs. -/
def RealSlotHashes (s : State) : Call → Prop
  | .evaluatePoolPhase1 _ accounts => SlotHashesAt s.clock.slot accounts.slotHashes
  | .evaluatePoolPhase2 _ accounts => SlotHashesAt s.clock.slot accounts.slotHashes
  | _ => True

/-- The first phase takes a message of an earlier slot. -/
theorem issuedSlot_phase1 {params : EvaluatePoolParams} {accounts : EvaluateAccounts}
    (h : exec rt s (.evaluatePoolPhase1 params accounts) = .ok s')
    (hreal : RealSlotHashes s (.evaluatePoolPhase1 params accounts)) :
    (messageIssuedSlot params.msg).val < s.clock.slot.val := by
  obtain ⟨_, _, _, _, _, _, _, _, _, hg, _⟩ := evaluatePoolPhase1_ok h
  exact (issuedSlot_of_gathered hg hreal).2

/-- The second phase takes one of the 512 slots before its own. -/
theorem issuedSlot_phase2 {params : EvaluatePoolParams} {accounts : EvaluateAccounts}
    (h : exec rt s (.evaluatePoolPhase2 params accounts) = .ok s')
    (hreal : RealSlotHashes s (.evaluatePoolPhase2 params accounts)) :
    s.clock.slot.val ≤ (messageIssuedSlot params.msg).val + 512 ∧
      (messageIssuedSlot params.msg).val < s.clock.slot.val := by
  obtain ⟨_, _, _, _, _, _, _, _, _, _, _, hg, _⟩ := evaluatePoolPhase2_ok h
  exact issuedSlot_of_gathered hg hreal

/-- The Phase 2 step that certifies from an anchor is two epochs after the Phase 1 step that
wrote it. -/
theorem epoch_gap {params₁ params₂ : EvaluatePoolParams} {accounts₁ accounts₂ : EvaluateAccounts}
    {mid : List Call} {s₁ s₂ : State}
    (h1 : exec rt s (.evaluatePoolPhase1 params₁ accounts₁) = .ok s₁)
    (h2 : exec rt (run (exec rt) s₁ mid) (.evaluatePoolPhase2 params₂ accounts₂) = .ok s₂)
    (hkey : params₂.key = params₁.key)
    (hin : ∀ m, m <+: mid → ((run (exec rt) s₁ m).anchors params₁.key).isSome = true) :
    s.clock.epoch.val + 2 ≤ (run (exec rt) s₁ mid).clock.epoch.val := by
  obtain ⟨_, _, a, ha, hw⟩ := wroteAnchor_of_ok h1
  obtain ⟨a', ha', he⟩ := anchorEpoch_run rt ha hin
  obtain ⟨_, _, a₂, c, _, _, _, hissued⟩ := issuedCert_of_ok h2
  have ha₂ := hissued.anchor
  rw [hkey, ha', Option.some.injEq] at ha₂
  have hconf := hissued.confirmed
  rw [hissued.certEpoch, ← ha₂, he, hw.epoch] at hconf
  exact hconf

/-- In every run on a real clock with real `SlotHashes` data : the message accepted by the
Phase 1 step that wrote an anchor is not the one accepted by a Phase 2 step that certifies from
it, and two issues of one cert account more than 512 slots apart accept different messages. -/
theorem attestation_not_replayed (rt : Runtime) (first : ℕ → ℕ) (clock : Clock) (calls : List Call)
    (hfirst : EpochSlots first) (hclock : ClockMeets (InEpoch first) clock calls)
    (hreal : AlongRun (exec rt) RealSlotHashes (State.genesis clock) calls) :
    (∀ pre params₁ accounts₁ mid params₂ accounts₂ post s₁ s₂,
      calls = pre ++ .evaluatePoolPhase1 params₁ accounts₁ :: mid ++
        .evaluatePoolPhase2 params₂ accounts₂ :: post →
      exec rt (run (exec rt) (State.genesis clock) pre) (.evaluatePoolPhase1 params₁ accounts₁) =
        .ok s₁ →
      exec rt (run (exec rt) (State.genesis clock)
        (pre ++ .evaluatePoolPhase1 params₁ accounts₁ :: mid))
        (.evaluatePoolPhase2 params₂ accounts₂) = .ok s₂ →
      params₂.key = params₁.key →
      (∀ m, m <+: mid → ((run (exec rt) (State.genesis clock)
        (pre ++ .evaluatePoolPhase1 params₁ accounts₁ :: m)).anchors params₁.key).isSome = true) →
      params₁.msg ≠ params₂.msg) ∧
    ∀ pre params₁ accounts₁ mid params₂ accounts₂ post s₁ s₂,
      calls = pre ++ .evaluatePoolPhase2 params₁ accounts₁ :: mid ++
        .evaluatePoolPhase2 params₂ accounts₂ :: post →
      exec rt (run (exec rt) (State.genesis clock) pre) (.evaluatePoolPhase2 params₁ accounts₁) =
        .ok s₁ →
      exec rt (run (exec rt) (State.genesis clock)
        (pre ++ .evaluatePoolPhase2 params₁ accounts₁ :: mid))
        (.evaluatePoolPhase2 params₂ accounts₂) = .ok s₂ →
      params₂.key = params₁.key →
      (run (exec rt) (State.genesis clock) pre).clock.slot.val + 512 <
        (run (exec rt) (State.genesis clock)
          (pre ++ .evaluatePoolPhase2 params₁ accounts₁ :: mid)).clock.slot.val →
      params₁.msg ≠ params₂.msg := by
  constructor
  · rintro pre params₁ accounts₁ mid params₂ accounts₂ post s₁ s₂ rfl h1 h2 hkey hin hmsg
    have hlate := issuedSlot_phase2 h2 (alongRun_at hreal)
    have hc₂ := clock_run rt hclock.of_append
    rw [List.append_assoc] at hreal hclock
    have hearly := issuedSlot_phase1 h1 (alongRun_at hreal)
    have hc₁ := clock_run rt hclock.of_append
    simp only [run_append_cons h1] at h2 hin hlate hc₂
    have hgap := slot_gap hfirst hc₁ hc₂ (epoch_gap h1 h2 hkey hin)
    rw [hmsg] at hearly
    omega
  · rintro pre params₁ accounts₁ mid params₂ accounts₂ post s₁ s₂ rfl h1 h2 _ hgap hmsg
    have hlate := issuedSlot_phase2 h2 (alongRun_at hreal)
    rw [List.append_assoc] at hreal
    have hearly := issuedSlot_phase2 h1 (alongRun_at hreal)
    rw [hmsg] at hearly
    omega

/-- Phase 1 in epoch 0. -/
def earlyCalls : List Call :=
  demoCalls.take 2

/-- The demonstration with epochs of 432000 slots, from epoch 0. -/
def freshCalls : List Call :=
  earlyCalls ++ .evaluatePoolPhase1 (demoParams 7) (demoAccounts 7) ::
    [.tick ⟨900000, 2, 10360000⟩] ++
    [.evaluatePoolPhase2 (demoParams 899999) (demoAccounts 899999)]

/-- The clock of an early slot. -/
def freshClock : Clock :=
  ⟨10, 0, 10000000⟩

theorem isOk_freshCalls :
    (exec demoRuntime (run (exec demoRuntime) (State.genesis freshClock) earlyCalls)
      (.evaluatePoolPhase1 (demoParams 7) (demoAccounts 7))).isOk = true ∧
    (exec demoRuntime (run (exec demoRuntime) (State.genesis freshClock)
      (earlyCalls ++ .evaluatePoolPhase1 (demoParams 7) (demoAccounts 7) ::
        [.tick ⟨900000, 2, 10360000⟩]))
      (.evaluatePoolPhase2 (demoParams 899999) (demoAccounts 899999))).isOk = true ∧
    ((run (exec demoRuntime) (State.genesis freshClock)
      (earlyCalls ++ [.evaluatePoolPhase1 (demoParams 7) (demoAccounts 7)])).anchors
        (demoParams 7).key).isSome = true ∧
    ((run (exec demoRuntime) (State.genesis freshClock)
      (earlyCalls ++ .evaluatePoolPhase1 (demoParams 7) (demoAccounts 7) ::
        [.tick ⟨900000, 2, 10360000⟩])).anchors (demoParams 7).key).isSome = true ∧
    (run (exec demoRuntime) (State.genesis freshClock) earlyCalls).clock.slot = 10 ∧
    (run (exec demoRuntime) (State.genesis freshClock)
      (earlyCalls ++ .evaluatePoolPhase1 (demoParams 7) (demoAccounts 7) ::
        [.tick ⟨900000, 2, 10360000⟩])).clock.slot = 900000 := by
  decide +kernel

theorem slotHashesAt_demo :
    SlotHashesAt 10 (demoAccounts 7).slotHashes ∧
      SlotHashesAt 900000 (demoAccounts 899999).slotHashes := by
  have hcount : (leWordAt 8 (demoAccounts 7).slotHashes 0).val = 1 ∧
      (leWordAt 8 (demoAccounts 899999).slotHashes 0).val = 1 := by decide +kernel
  constructor
  · rintro listed ⟨i, hi, _, rfl⟩
    obtain rfl : i = 0 := by omega
    decide +kernel
  · rintro listed ⟨i, hi, _, rfl⟩
    obtain rfl : i = 0 := by omega
    decide +kernel

/-- The sysvar lists real slots in the early calls. -/
theorem realSlotHashes_fresh :
    AlongRun (exec demoRuntime) RealSlotHashes (State.genesis freshClock) freshCalls := by
  obtain ⟨_, _, _, _, hslot₁, hslot₂⟩ := isOk_freshCalls
  refine alongRun_append.2 ⟨alongRun_append.2 ⟨?_, ?_, ?_⟩, ?_, ?_⟩
  · exact ⟨trivial, trivial, trivial⟩
  · rw [RealSlotHashes, hslot₁]
    exact slotHashesAt_demo.1
  · exact ⟨trivial, trivial⟩
  · rw [RealSlotHashes, hslot₂]
    exact slotHashesAt_demo.2
  · trivial

/-- The two messages of the run differ. -/
theorem attestation_not_replayed_fresh : (demoParams 7).msg ≠ (demoParams 899999).msg := by
  obtain ⟨hok₁, hok₂, hin₁, hin₂, _⟩ := isOk_freshCalls
  obtain ⟨s₁, hs₁⟩ := exists_ok_of_isOk hok₁
  obtain ⟨s₂, hs₂⟩ := exists_ok_of_isOk hok₂
  refine (attestation_not_replayed demoRuntime (432000 * ·) freshClock freshCalls ?_ ?_
    realSlotHashes_fresh).1 earlyCalls (demoParams 7) (demoAccounts 7) [.tick ⟨900000, 2, 10360000⟩]
    (demoParams 899999) (demoAccounts 899999) [] s₁ s₂ rfl hs₁ hs₂ rfl ?_
  · intro n
    simp only
    omega
  · refine ⟨by constructor <;> decide, fun c hc => ?_⟩
    simp only [freshCalls, earlyCalls, demoCalls, List.take, List.cons_append, List.nil_append,
      List.mem_cons, List.not_mem_nil, or_false, reduceCtorEq, false_or, Call.tick.injEq] at hc
    subst hc
    constructor <;> decide
  · intro m hm
    rcases List.prefix_cons_iff.1 hm with rfl | ⟨t, rfl, ht⟩
    · exact hin₁
    · rw [List.prefix_nil.1 ht]
      exact hin₂

end GraveYield.Scanner
