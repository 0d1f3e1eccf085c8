import Mathlib.Tactic

/-!
# Maps in insertion order

A finite map that is iterated in the order in which its keys were inserted. `set` replaces the
value of a present key where it stands and appends a new key; `delete` removes a key, so that
setting it again puts it last. Every map carries that its keys are distinct.

`mem_entries_iff` ties the iteration to look-ups, and `get?_set`, `get?_delete` say what an
update does to them; `get?_ofEntries` is a map built from a list, where the last value of a key
wins, and `sum_values_set` a sum over the values after an update.
-/

/-- Keys with their values, in the order of insertion. -/
structure InsertionMap (K V : Type*) where
  entries : List (K × V)
  nodup : (entries.map Prod.fst).Nodup

namespace InsertionMap

variable {K V : Type*}

/-- The map without entries. -/
def empty : InsertionMap K V :=
  ⟨[], List.nodup_nil⟩

/-- The values, in the order of insertion. -/
def values (m : InsertionMap K V) : List V :=
  m.entries.map Prod.snd

variable [DecidableEq K]

/-- The value of a key. -/
def get? (m : InsertionMap K V) (k : K) : Option V :=
  (m.entries.find? fun e => e.1 = k).map Prod.snd

/-- The entries with the value of `k` replaced, or with `k` at the end. -/
def setEntries (k : K) (v : V) : List (K × V) → List (K × V)
  | [] => [(k, v)]
  | e :: es => if e.1 = k then (k, v) :: es else e :: setEntries k v es

/-- The keys after an insertion. -/
theorem keys_setEntries (k : K) (v : V) (es : List (K × V)) :
    (setEntries k v es).map Prod.fst =
      if k ∈ es.map Prod.fst then es.map Prod.fst else es.map Prod.fst ++ [k] := by
  induction es with
  | nil => simp [setEntries]
  | cons e es ih =>
    rw [setEntries]
    by_cases h : e.1 = k
    · simp [h]
    · rw [if_neg h, List.map_cons, ih]
      simp only [List.map_cons, List.mem_cons, Ne.symm h, false_or]
      split_ifs <;> rfl

/-- A key that is there keeps its place, a new one comes last. -/
def set (m : InsertionMap K V) (k : K) (v : V) : InsertionMap K V where
  entries := setEntries k v m.entries
  nodup := by
    rw [keys_setEntries]
    split_ifs with h
    · exact m.nodup
    · exact List.nodup_append'.2 ⟨m.nodup, List.nodup_singleton k, by simpa using h⟩

/-- The map without a key. -/
def delete (m : InsertionMap K V) (k : K) : InsertionMap K V where
  entries := m.entries.filter fun e => e.1 ≠ k
  nodup := m.nodup.sublist (List.filter_sublist.map Prod.fst)

variable {m : InsertionMap K V} {k j : K} {v : V}

/-- The empty map has no keys. -/
@[simp] theorem get?_empty : (empty : InsertionMap K V).get? k = none :=
  rfl

/-- A key is iterated with the value that a look-up gives. -/
theorem mem_entries_iff : (k, v) ∈ m.entries ↔ m.get? k = some v := by
  rw [get?, Option.map_eq_some_iff]
  constructor
  · intro h
    cases hf : m.entries.find? fun e => e.1 = k with
    | none => simpa using List.find?_eq_none.1 hf (k, v) h
    | some e =>
      have hk : e.1 = k := by simpa using List.find?_some hf
      have hmem := List.mem_of_find?_eq_some hf
      exact ⟨e, rfl, congrArg Prod.snd (List.inj_on_of_nodup_map m.nodup hmem h hk)⟩
  · rintro ⟨e, hf, rfl⟩
    have hk : e.1 = k := by simpa using List.find?_some hf
    rw [← hk]
    exact List.mem_of_find?_eq_some hf

/-- A key has no value iff it is not there. -/
theorem get?_eq_none_iff : m.get? k = none ↔ k ∉ m.entries.map Prod.fst := by
  rw [get?, Option.map_eq_none_iff, List.find?_eq_none, List.mem_map]
  constructor
  · rintro h ⟨e, he, rfl⟩
    exact h e he (by simp)
  · intro h e he hk
    exact h ⟨e, he, by simpa using hk⟩

/-- The search after an insertion. -/
theorem find?_setEntries (es : List (K × V)) : (setEntries k v es).find? (fun e => e.1 = j) =
    if j = k then some (k, v) else es.find? fun e => e.1 = j := by
  induction es with
  | nil =>
    rw [setEntries]
    by_cases h : j = k
    · simp [h]
    · simp [h, Ne.symm h]
  | cons e es ih =>
    rw [setEntries]
    by_cases h : e.1 = k
    · rw [if_pos h]
      by_cases hj : j = k
      · simp [hj]
      · have hne : e.1 ≠ j := fun he => hj (he.symm.trans h)
        simp [hj, Ne.symm hj, hne]
    · rw [if_neg h, List.find?_cons, ih]
      by_cases hj : j = k
      · have hne : e.1 ≠ j := fun he => h (he.trans hj)
        rw [if_pos hj, decide_eq_false hne]
        simp [hj]
      · rw [if_neg hj, if_neg hj, List.find?_cons]

/-- The value of a key after an insertion. -/
theorem get?_set : (m.set k v).get? j = if j = k then some v else m.get? j := by
  rw [get?, set, find?_setEntries]
  split_ifs <;> rfl

/-- The value of a key after a deletion. -/
theorem get?_delete : (m.delete k).get? j = if j = k then none else m.get? j := by
  split_ifs with h
  · subst h
    rw [get?_eq_none_iff, delete]
    simp
  · cases hj : m.get? j with
    | none =>
      rw [get?_eq_none_iff] at hj ⊢
      exact fun hmem => hj (List.filter_sublist.map Prod.fst |>.subset hmem)
    | some v =>
      rw [← mem_entries_iff] at hj ⊢
      exact List.mem_filter.2 ⟨hj, by simpa using h⟩

/-- The entries set one after the other. -/
def ofEntries (es : List (K × V)) : InsertionMap K V :=
  es.foldl (fun m e => m.set e.1 e.2) empty

/-- A look-up finds the last of the values listed under the key. -/
theorem get?_ofEntries (es : List (K × V)) :
    (ofEntries es).get? k = ((es.filter fun e => e.1 = k).map Prod.snd).getLast? := by
  induction es using List.reverseRecOn with
  | nil => rfl
  | append_singleton es e ih =>
    have hlast : ofEntries (es ++ [e]) = (ofEntries es).set e.1 e.2 := by
      rw [ofEntries, List.foldl_append]
      rfl
    rw [hlast, get?_set, ih, List.filter_append, List.map_append]
    by_cases h : e.1 = k
    · simp [h]
    · simp [h, Ne.symm h]

/-- A key that is listed is found, with one of the values listed under it. -/
theorem exists_get?_ofEntries {es : List (K × V)} (h : ∃ e ∈ es, e.1 = k) {P : V → Prop}
    (hP : ∀ e ∈ es, e.1 = k → P e.2) : ∃ v, (ofEntries es).get? k = some v ∧ P v := by
  obtain ⟨e, he, hk⟩ := h
  have hne : (es.filter fun e => e.1 = k).map Prod.snd ≠ [] := by
    rw [Ne, List.map_eq_nil_iff, List.filter_eq_nil_iff]
    intro hall
    exact hall e he (decide_eq_true hk)
  refine ⟨_, (get?_ofEntries es).trans (List.getLast?_eq_some_getLast hne), ?_⟩
  obtain ⟨e', he', hv⟩ := List.mem_map.1 (List.getLast_mem hne)
  obtain ⟨hmem, hk'⟩ := List.mem_filter.1 he'
  rw [← hv]
  exact hP e' hmem (of_decide_eq_true hk')

/-- A value is the value of some key. -/
theorem mem_values_iff : v ∈ m.values ↔ ∃ k, m.get? k = some v := by
  simp only [values, List.mem_map, Prod.exists, exists_eq_right, mem_entries_iff]

/-- After an insertion a value is the new one or an old one. -/
theorem mem_values_set {u : V} (h : u ∈ (m.set k v).values) : u = v ∨ u ∈ m.values := by
  obtain ⟨j, hj⟩ := mem_values_iff.1 h
  rw [get?_set] at hj
  split_ifs at hj
  · exact Or.inl (Option.some.inj hj).symm
  · exact Or.inr (mem_values_iff.2 ⟨j, hj⟩)

/-- An insertion adds one value at most. -/
theorem subperm_setEntries (es : List (K × V)) :
    ((setEntries k v es).map Prod.snd).Subperm (v :: es.map Prod.snd) := by
  induction es with
  | nil => exact List.Subperm.refl _
  | cons e es ih =>
    rw [setEntries]
    split_ifs with h
    · exact (List.subperm_cons v).2 (List.sublist_cons_self _ _).subperm
    · exact ((List.subperm_cons e.2).2 ih).trans (List.Perm.swap _ _ _).subperm

/-- An update adds its value, and may lose the one that it replaces. -/
theorem subperm_values_set : (m.set k v).values.Subperm (v :: m.values) :=
  subperm_setEntries m.entries

/-- A deletion takes values out and keeps their order. -/
theorem sublist_values_delete : (m.delete k).values.Sublist m.values :=
  List.filter_sublist.map _

/-- A value after a deletion was there before. -/
theorem mem_values_delete (h : v ∈ (m.delete k).values) : v ∈ m.values := by
  obtain ⟨j, hj⟩ := mem_values_iff.1 h
  rw [get?_delete] at hj
  split_ifs at hj
  exact mem_values_iff.2 ⟨j, hj⟩

/-- A sum over the values, with what the insertion replaces on the left. -/
theorem sum_setEntries {M : Type*} [AddCommMonoid M] (g : V → M) (es : List (K × V)) :
    ((setEntries k v es).map fun e => g e.2).sum +
        ((es.find? fun e => e.1 = k).elim 0 fun e => g e.2) =
      (es.map fun e => g e.2).sum + g v := by
  induction es with
  | nil => simp [setEntries]
  | cons e es ih =>
    rw [setEntries]
    by_cases h : e.1 = k
    · rw [if_pos h, List.find?_cons_of_pos (by simpa using h)]
      simp only [List.map_cons, List.sum_cons, Option.elim_some]
      abel
    · rw [if_neg h, List.find?_cons_of_neg (by simpa using h)]
      simp only [List.map_cons, List.sum_cons]
      rw [add_assoc, ih, add_assoc]

/-- An update puts the new value in the place of the old one, if there was one. -/
theorem sum_values_set {M : Type*} [AddCommMonoid M] (g : V → M) :
    ((m.set k v).values.map g).sum + (m.get? k).elim 0 g = (m.values.map g).sum + g v := by
  have h := sum_setEntries (k := k) (v := v) g m.entries
  rw [get?, values, values, List.map_map, List.map_map, set]
  cases hf : m.entries.find? fun e => e.1 = k with
  | none => simpa [hf, Function.comp_def] using h
  | some e => simpa [hf, Function.comp_def] using h

end InsertionMap
