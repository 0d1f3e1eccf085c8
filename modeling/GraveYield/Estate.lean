import GraveYield.Lib.ProRata
import GraveYield.Lib.Refine

/-!
# The estate of a dead pool

What the protocol is for, without accounts, lamports or bytes. A pool is seen dead under a label
and a price set long before; two epochs later a warrant may be granted on the sighting; under a
live warrant the pool is settled, once, with a bucket and a commitment to its holders; and each
holder is paid once, the share of a balance that the commitment attests. Sightings can be struck,
and lapse after four epochs.

`Sound` is what every reachable estate satisfies, and `Kept` what no step takes back. The two
programs are shown to refine this model.
-/

set_option linter.unusedSectionVars false

namespace Estate

open Machine

/-- A pool was seen dead. A struck sighting is good for nothing. -/
structure Sighting where
  epoch : ℕ
  struck : Bool

/-- The permission to settle, granted on a sighting that is two epochs old. -/
structure Warrant where
  sighted : ℕ
  issued : ℕ
  expires : ℤ
  ripe : sighted + 2 ≤ issued

/-- A bucket for the holders and a commitment to them, made under a live warrant. -/
structure Settlement (α ρ : Type*) where
  label : α
  root : ρ
  supply : ℕ
  total : ℕ
  warrant : Warrant
  epoch : ℕ
  time : ℤ
  live : time < warrant.expires

/-- The estates of all pools `π` under their labels `α`. -/
structure State (α π η ρ : Type*) where
  epoch : ℕ
  now : ℤ
  price : α × π → Option ℕ
  sighting : α × π → Option Sighting
  warrant : α × π → Option Warrant
  settled : π → Option (Settlement α ρ)
  paid : π → ProRata.Book η

section Model

variable {α π η ρ : Type*}

/-- Nothing has happened. -/
def State.empty (epoch : ℕ) (now : ℤ) : State α π η ρ :=
  ⟨epoch, now, fun _ => none, fun _ => none, fun _ => none, fun _ => none, fun _ _ => none⟩

variable [DecidableEq α] [DecidableEq π] [DecidableEq η] [Fintype η]

/-- What can happen. `Attests root h b` says that the commitment `root` gives `h` the balance
`b`. -/
inductive Step (Attests : ρ → η → ℕ → Prop) (e : State α π η ρ) : State α π η ρ → Prop where
  | pass (epoch : ℕ) (now : ℤ) (hepoch : e.epoch ≤ epoch) (hnow : e.now ≤ now) :
      Step Attests e { e with epoch, now }
  | price (k : α × π) (n : ℕ) (hfree : e.price k = none) (hpos : 0 < n) :
      Step Attests e { e with price := Function.update e.price k (some n) }
  | sight (k : α × π) (hprice : ∃ n, e.price k = some n) (hfree : e.sighting k = none) :
      Step Attests e { e with sighting := Function.update e.sighting k (some ⟨e.epoch, false⟩) }
  | strike (k : α × π) (s : Sighting) (hs : e.sighting k = some s) (hvalid : s.struck = false) :
      Step Attests e
        { e with sighting := Function.update e.sighting k (some { s with struck := true }) }
  | lapse (k : α × π) (s : Sighting) (hs : e.sighting k = some s) (hold : s.epoch + 4 ≤ e.epoch) :
      Step Attests e { e with sighting := Function.update e.sighting k none }
  | grant (k : α × π) (s : Sighting) (w : Warrant) (hprice : ∃ n, e.price k = some n)
      (hs : e.sighting k = some s) (hvalid : s.struck = false) (hsighted : w.sighted = s.epoch)
      (hissued : w.issued = e.epoch) (hlasts : e.now + 600 ≤ w.expires)
      (hfree : ∀ old, e.warrant k = some old → old.expires ≤ e.now) :
      Step Attests e { e with warrant := Function.update e.warrant k (some w) }
  | settle (p : π) (s : Settlement α ρ) (hfree : e.settled p = none)
      (hw : e.warrant (s.label, p) = some s.warrant) (hepoch : s.epoch = e.epoch)
      (htime : s.time = e.now) :
      Step Attests e { e with settled := Function.update e.settled p (some s) }
  | pay (p : π) (h : η) (s : Settlement α ρ) (balance : ℕ) (hs : e.settled p = some s)
      (hfree : e.paid p h = none) (hpos : 0 < balance) (hsupply : 0 < s.supply)
      (hatt : Attests s.root h balance)
      (hfit : (e.paid p).paid + ProRata.share s.total s.supply balance ≤ s.total) :
      Step Attests e { e with
        paid := Function.update e.paid p
          (Function.update (e.paid p) h (some (ProRata.share s.total s.supply balance))) }

/-! ## What every estate satisfies -/

variable {Attests : ρ → η → ℕ → Prop} {e e' : State α π η ρ}

/-- A payment is the share of an attested balance. -/
def Owed (Attests : ρ → η → ℕ → Prop) (s : Settlement α ρ) (h : η) (n : ℕ) : Prop :=
  ∃ balance, 0 < balance ∧ 0 < s.supply ∧ Attests s.root h balance ∧
    n = ProRata.share s.total s.supply balance

/-- The order of events, and the accounts. -/
structure Sound (Attests : ρ → η → ℕ → Prop) (e : State α π η ρ) : Prop where
  priced : ∀ k n, e.price k = some n → 0 < n
  sighted : ∀ k s, e.sighting k = some s → s.epoch ≤ e.epoch ∧ ∃ n, e.price k = some n
  granted : ∀ k w, e.warrant k = some w → w.issued ≤ e.epoch ∧ ∃ n, e.price k = some n
  settled : ∀ p s, e.settled p = some s → s.warrant.issued ≤ s.epoch ∧ s.epoch ≤ e.epoch ∧
    s.time ≤ e.now ∧ ∃ n, e.price (s.label, p) = some n
  owed : ∀ p h n, e.paid p h = some n → ∃ s, e.settled p = some s ∧ Owed Attests s h n
  within : ∀ p s, e.settled p = some s → (e.paid p).paid ≤ s.total

/-- What no step takes back. -/
structure Kept (e e' : State α π η ρ) : Prop where
  epoch : e.epoch ≤ e'.epoch
  now : e.now ≤ e'.now
  price : ∀ k n, e.price k = some n → e'.price k = some n
  settled : ∀ p s, e.settled p = some s → e'.settled p = some s
  paid : ∀ p h n, e.paid p h = some n → e'.paid p h = some n

theorem Kept.refl (e : State α π η ρ) : Kept e e :=
  ⟨le_rfl, le_rfl, fun _ _ h => h, fun _ _ h => h, fun _ _ _ h => h⟩

theorem Kept.trans {e'' : State α π η ρ} (h : Kept e e') (h' : Kept e' e'') : Kept e e'' :=
  ⟨h.epoch.trans h'.epoch, h.now.trans h'.now, fun k n hk => h'.price k n (h.price k n hk),
    fun p s hp => h'.settled p s (h.settled p s hp),
    fun p a n hp => h'.paid p a n (h.paid p a n hp)⟩

/-- Filling a free slot takes nothing back. -/
theorem update_keeps {κ β : Type*} [DecidableEq κ] {f : κ → Option β} {k : κ} {b : β}
    (hfree : f k = none) {k' : κ} {c : β} (h : f k' = some c) :
    Function.update f k (some b) k' = some c := by
  rwa [Function.update_of_ne]
  rintro rfl
  rw [hfree] at h
  cases h

/-- A step takes back no price, no settlement and no payment. -/
theorem kept_step (h : Step Attests e e') : Kept e e' := by
  cases h with
  | pass epoch now hepoch hnow => exact { Kept.refl e with epoch := hepoch, now := hnow }
  | price k n hfree hpos => exact { Kept.refl e with price := fun _ _ => update_keeps hfree }
  | sight k hprice hfree => exact { Kept.refl e with }
  | strike k s hs hvalid => exact { Kept.refl e with }
  | lapse k s hs hold => exact { Kept.refl e with }
  | grant k s w => exact { Kept.refl e with }
  | settle p s hfree hw hepoch htime =>
    exact { Kept.refl e with settled := fun _ _ => update_keeps hfree }
  | pay p a s balance hs hfree hpos hsupply hatt hfit =>
    refine { Kept.refl e with paid := fun q b n hb => ?_ }
    change Function.update e.paid p _ q b = some n
    rcases eq_or_ne q p with rfl | hq
    · rw [Function.update_self]
      exact update_keeps hfree hb
    · rwa [Function.update_of_ne hq]

/-- So does a path. -/
theorem kept_path (h : Relation.ReflTransGen (Step Attests) e e') : Kept e e' := by
  induction h with
  | refl => exact .refl e
  | tail _ hlast ih => exact ih.trans (kept_step hlast)

/-- The empty estate is sound. -/
theorem sound_empty (epoch : ℕ) (now : ℤ) :
    Sound Attests (State.empty epoch now : State α π η ρ) := by
  constructor <;> intros <;> simp_all [State.empty]

/-- What a slot holds after a write. -/
theorem update_cases {κ β : Type*} [DecidableEq κ] {f : κ → Option β} {k k' : κ} {v : Option β}
    {c : β} (h : Function.update f k v k' = some c) :
    (k' = k ∧ v = some c) ∨ (k' ≠ k ∧ f k' = some c) := by
  by_cases hk : k' = k
  · subst hk
    exact Or.inl ⟨rfl, by rwa [Function.update_self] at h⟩
  · exact Or.inr ⟨hk, by rwa [Function.update_of_ne hk] at h⟩

/-- A payment within the bucket. -/
theorem sound_pay (h : Sound Attests e) {p : π} {a : η} {s : Settlement α ρ} {n : ℕ}
    (hs : e.settled p = some s) (hfree : e.paid p a = none) (howed : Owed Attests s a n)
    (hfit : (e.paid p).paid + n ≤ s.total) :
    Sound Attests { e with
      paid := Function.update e.paid p (Function.update (e.paid p) a (some n)) } := by
  refine { h with owed := fun q b m hb => ?_, within := fun q t ht => ?_ }
  · change Function.update e.paid p _ q b = some m at hb
    rcases eq_or_ne q p with rfl | hq
    · rw [Function.update_self] at hb
      rcases update_cases hb with ⟨rfl, heq⟩ | ⟨_, hb'⟩
      · obtain rfl := Option.some.inj heq
        exact ⟨s, hs, howed⟩
      · exact h.owed _ b m hb'
    · rw [Function.update_of_ne hq] at hb
      exact h.owed q b m hb
  · change ProRata.Book.paid (Function.update e.paid p _ q) ≤ t.total
    rcases eq_or_ne q p with rfl | hq
    · obtain rfl := Option.some.inj (hs.symm.trans ht)
      rwa [Function.update_self, ProRata.Book.paid_update hfree]
    · rw [Function.update_of_ne hq]
      exact h.within q t ht

/-- A step of a sound estate leads to a sound one. -/
theorem sound_step (h : Sound Attests e) (hstep : Step Attests e e') : Sound Attests e' := by
  have hkept := kept_step hstep
  have hpriced : ∀ {k}, (∃ n, e.price k = some n) → ∃ n, e'.price k = some n :=
    fun ⟨n, hn⟩ => ⟨n, hkept.price _ n hn⟩
  cases hstep with
  | pass epoch now hepoch hnow =>
    refine { h with sighted := fun k s hs => ?_, granted := fun k w hw => ?_,
                    settled := fun p s hs => ?_ }
    · exact ⟨(h.sighted k s hs).1.trans hepoch, (h.sighted k s hs).2⟩
    · exact ⟨(h.granted k w hw).1.trans hepoch, (h.granted k w hw).2⟩
    · obtain ⟨hissued, hs', ht, hp⟩ := h.settled p s hs
      exact ⟨hissued, hs'.trans hepoch, ht.trans hnow, hp⟩
  | price k n hfree hpos =>
    refine { h with priced := fun j m hm => ?_, sighted := fun j s hs => ?_,
                    granted := fun j w hw => ?_, settled := fun p s hs => ?_ }
    · rcases update_cases hm with ⟨_, heq⟩ | ⟨_, hm'⟩
      · obtain rfl := Option.some.inj heq
        exact hpos
      · exact h.priced j m hm'
    · exact ⟨(h.sighted j s hs).1, hpriced (h.sighted j s hs).2⟩
    · exact ⟨(h.granted j w hw).1, hpriced (h.granted j w hw).2⟩
    · obtain ⟨hissued, hs', ht, hp⟩ := h.settled p s hs
      exact ⟨hissued, hs', ht, hpriced hp⟩
  | sight k hprice hfree =>
    refine { h with sighted := fun j s hs => ?_ }
    rcases update_cases hs with ⟨rfl, heq⟩ | ⟨_, hs'⟩
    · obtain rfl := Option.some.inj heq
      exact ⟨le_rfl, hprice⟩
    · exact h.sighted j s hs'
  | strike k s hs hvalid =>
    refine { h with sighted := fun j t ht => ?_ }
    rcases update_cases ht with ⟨rfl, heq⟩ | ⟨_, ht'⟩
    · obtain rfl := Option.some.inj heq
      exact h.sighted j s hs
    · exact h.sighted j t ht'
  | lapse k s hs hold =>
    refine { h with sighted := fun j t ht => ?_ }
    rcases update_cases ht with ⟨_, heq⟩ | ⟨_, ht'⟩
    · cases heq
    · exact h.sighted j t ht'
  | grant k s w hprice hs hvalid hsighted hissued hlasts hfree =>
    refine { h with granted := fun j v hv => ?_ }
    rcases update_cases hv with ⟨rfl, heq⟩ | ⟨_, hv'⟩
    · obtain rfl := Option.some.inj heq
      exact ⟨hissued.le, hprice⟩
    · exact h.granted j v hv'
  | settle p s hfree hw hepoch htime =>
    have hunpaid : e.paid p = fun _ => none := by
      funext a
      rw [Option.eq_none_iff_forall_ne_some]
      intro n hn
      obtain ⟨t, ht, _⟩ := h.owed p a n hn
      rw [hfree] at ht
      cases ht
    refine { h with settled := fun q t ht => ?_, owed := fun q a n hn => ?_,
                    within := fun q t ht => ?_ }
    · rcases update_cases ht with ⟨rfl, heq⟩ | ⟨_, ht'⟩
      · obtain rfl := Option.some.inj heq
        obtain ⟨hissued, hprice⟩ := h.granted _ _ hw
        exact ⟨hissued.trans hepoch.ge, hepoch.le, htime.le, hprice⟩
      · exact h.settled q t ht'
    · obtain ⟨t, ht, howed⟩ := h.owed q a n hn
      exact ⟨t, hkept.settled q t ht, howed⟩
    · rcases update_cases ht with ⟨rfl, _⟩ | ⟨_, ht'⟩
      · change (e.paid q).paid ≤ t.total
        rw [hunpaid, ProRata.Book.paid_eq_zero fun _ => rfl]
        exact Nat.zero_le _
      · exact h.within q t ht'
  | pay p a s balance hs hfree hpos hsupply hatt hfit =>
    exact sound_pay h hs hfree ⟨balance, hpos, hsupply, hatt, rfl⟩ hfit

/-- Whatever is reached from a sound estate is sound. -/
theorem sound_path (h : Sound Attests e) (hpath : Relation.ReflTransGen (Step Attests) e e') :
    Sound Attests e' :=
  path_invariant (I := Sound Attests) (fun _ _ => sound_step) h hpath

end Model

end Estate
