import Mathlib.Algebra.Order.Floor.Div
import Mathlib.Data.List.Sort
import Mathlib.Tactic

/-!
# Pair trees

Binary trees over a list, built level by level : neighbours are combined with `f` and an
odd last node moves up unchanged (`nextLevel`). `levels` lists all levels from the leaves
to the root, and `siblings` is the path of siblings from a leaf to the root.

`foldl_siblings` is completeness : for a commutative `f`, folding the siblings of a leaf
gives the root, whatever the shape of the tree. `map_length_levels` is the shape : the sizes halve,
rounded up, until one node is left.

A `Scheme` is a way to hash leaves and pairs. `Scheme.listCollision_elim` is binding as a
reduction : an entry folded to the root of a list by siblings of any number and any value
is in the list, or `Scheme.listCollision` computes two distinct preimages with one hash.
`Scheme.crossCollision_elim` does the same for two lists with one root.
-/

namespace PairTree

variable {D D' : Type*}

/-! ## Levels -/

/-- The level above `l`. An odd last node is kept as it is. -/
def nextLevel (f : D → D → D) : List D → List D
  | [] => []
  | [a] => [a]
  | a :: b :: l => f a b :: nextLevel f l

/-- All levels above `l`, `l` included, for at most `n` further levels. -/
def levelsUpTo (f : D → D → D) : ℕ → List D → List (List D)
  | 0, l => [l]
  | n + 1, l => if 1 < l.length then l :: levelsUpTo f n (nextLevel f l) else [l]

/-- All levels from `l` to the root. Each level is shorter than the one below, so the
length of `l` bounds their number. -/
def levels (f : D → D → D) (l : List D) : List (List D) :=
  levelsUpTo f l.length l

/-- The root : the first node of the last level. -/
def root? (f : D → D → D) (l : List D) : Option D :=
  (levels f l).getLast?.bind List.head?

variable (f : D → D → D)

/-- A level has half the nodes of the one below, rounded up. -/
theorem length_nextLevel : ∀ l : List D, (nextLevel f l).length = (l.length + 1) / 2
  | [] => by simp [nextLevel]
  | [_] => by simp [nextLevel]
  | a :: b :: l => by
    simp only [nextLevel, List.length_cons, length_nextLevel l]
    omega

/-- The fuel does not matter once it reaches the length. -/
theorem levelsUpTo_congr : ∀ (m n : ℕ) (l : List D), l.length ≤ m → l.length ≤ n →
    levelsUpTo f m l = levelsUpTo f n l
  | 0, n, l, hm, _ => by
    obtain rfl : l = [] := List.length_eq_zero_iff.1 (by omega)
    cases n <;> rfl
  | m + 1, 0, l, _, hn => by
    obtain rfl : l = [] := List.length_eq_zero_iff.1 (by omega)
    rfl
  | m + 1, n + 1, l, hm, hn => by
    have hl := length_nextLevel f l
    simp only [levelsUpTo]
    split_ifs with h
    · rw [levelsUpTo_congr m n _ (by omega) (by omega)]
    · rfl

/-- A level of more than one node is followed by the levels of the next one. -/
theorem levels_of_lt {l : List D} (h : 1 < l.length) :
    levels f l = l :: levels f (nextLevel f l) := by
  have hn := length_nextLevel f l
  obtain ⟨n, hl⟩ : ∃ n, l.length = n + 1 := ⟨l.length - 1, by omega⟩
  have heq : levels f l = levelsUpTo f (n + 1) l := by rw [levels, hl]
  rw [heq, levelsUpTo, if_pos h, levels, levelsUpTo_congr f n _ _ (by omega) le_rfl]

/-- A level of at most one node is the last one. -/
theorem levels_of_le {l : List D} (h : l.length ≤ 1) : levels f l = [l] := by
  unfold levels
  cases hl : l.length with
  | zero => rfl
  | succ n => rw [levelsUpTo, if_neg (by omega)]

/-- Induction along the levels of a list. -/
theorem levels_induction {P : List D → Prop} (top : ∀ l, l.length ≤ 1 → P l)
    (up : ∀ l, 1 < l.length → P (nextLevel f l) → P l) (l : List D) : P l := by
  induction hn : l.length using Nat.strong_induction_on generalizing l with
  | _ n ih =>
    by_cases h : 1 < l.length
    · have := length_nextLevel f l
      exact up l h (ih _ (by omega) _ rfl)
    · exact top l (by omega)

/-- A tree has a level at least. -/
theorem levels_ne_nil (l : List D) : levels f l ≠ [] := by
  by_cases h : 1 < l.length
  · simp [levels_of_lt f h]
  · simp [levels_of_le f (not_lt.1 h)]

/-- The first level is the leaves. -/
theorem head?_levels (l : List D) : (levels f l).head? = some l := by
  by_cases h : 1 < l.length
  · simp [levels_of_lt f h]
  · simp [levels_of_le f (not_lt.1 h)]

/-- A level and the next one have the same root. -/
theorem root?_of_lt {l : List D} (h : 1 < l.length) : root? f l = root? f (nextLevel f l) := by
  unfold root?
  rw [levels_of_lt f h, List.getLast?_cons, List.getLast?_eq_some_getLast (levels_ne_nil f _)]
  rfl

/-- A level of one node is its own root. -/
theorem root?_of_le {l : List D} (h : l.length ≤ 1) : root? f l = l.head? := by
  simp [root?, levels_of_le f h]

/-- All but the last of the levels. -/
theorem dropLast_levels {l : List D} (h : 1 < l.length) :
    (levels f l).dropLast = l :: (levels f (nextLevel f l)).dropLast := by
  rw [levels_of_lt f h, List.dropLast_cons_of_ne_nil (levels_ne_nil f _)]

/-! ## Maps of trees -/

variable {f} {f' : D' → D' → D'} {g : D → D'}

/-- A map that commutes with the pairing commutes with the levels. -/
theorem nextLevel_map (hg : ∀ a b, g (f a b) = f' (g a) (g b)) :
    ∀ l : List D, nextLevel f' (l.map g) = (nextLevel f l).map g
  | [] => rfl
  | [_] => rfl
  | a :: b :: l => by
    have ih := nextLevel_map hg l
    simp only [List.map_cons, nextLevel, hg, ih]

/-- A map that respects the combination respects the root. -/
theorem root?_map (hg : ∀ a b, g (f a b) = f' (g a) (g b)) (l : List D) :
    root? f' (l.map g) = (root? f l).map g := by
  induction l using levels_induction f with
  | top l h => rw [root?_of_le f h, root?_of_le f' (by simpa using h), List.head?_map]
  | up l h ih =>
    rw [root?_of_lt f h, root?_of_lt f' (by simpa using h), nextLevel_map hg, ih]

/-! ## Siblings -/

/-- The sibling of node `i` of a level. An odd last node has none. -/
def sibling (l : List D) (i : ℕ) : List D :=
  if i % 2 = 0 then l[i + 1]?.toList else l[i - 1]?.toList

/-- The siblings on the way from node `i` of the first level upwards. -/
def siblings : ℕ → List (List D) → List D
  | _, [] => []
  | i, l :: ls => sibling l i ++ siblings (i / 2) ls

/-- The siblings two places on. -/
theorem sibling_cons_cons (a b : D) (l : List D) (i : ℕ) :
    sibling (a :: b :: l) (i + 2) = sibling l i := by
  unfold sibling
  rcases Nat.mod_two_eq_zero_or_one i with h | h
  · simp [h, show i + 2 + 1 = i + 1 + 2 by omega]
  · have hi : i + 2 - 1 = i - 1 + 2 := by omega
    simp [h, hi]

/-- Combining a node with its sibling gives the node above. -/
theorem foldl_sibling (hf : ∀ a b, f a b = f b a) :
    ∀ (l : List D) (i : ℕ) (x : D), l[i]? = some x →
      (nextLevel f l)[i / 2]? = some ((sibling l i).foldl f x)
  | [], i, x, h => by simp at h
  | [a], 0, x, h => by simpa [nextLevel, sibling] using h
  | [a], i + 1, x, h => by simp at h
  | a :: b :: l, 0, x, h => by
    simp only [List.getElem?_cons_zero, Option.some.injEq] at h
    simp [nextLevel, sibling, h]
  | a :: b :: l, 1, x, h => by
    simp only [List.getElem?_cons_succ, List.getElem?_cons_zero, Option.some.injEq] at h
    simp [nextLevel, sibling, h, hf a x]
  | a :: b :: l, i + 2, x, h => by
    have ih := foldl_sibling hf l i x (by simpa using h)
    rw [sibling_cons_cons, nextLevel, show (i + 2) / 2 = i / 2 + 1 by omega]
    simpa using ih

/-- Folding all siblings of a leaf gives the root. -/
theorem foldl_siblings (hf : ∀ a b, f a b = f b a) (l : List D) {i : ℕ} {x : D}
    (h : l[i]? = some x) :
    root? f l = some ((siblings i (levels f l).dropLast).foldl f x) := by
  induction l using levels_induction f generalizing i x with
  | top l hl =>
    have hi : i = 0 := by
      have := (List.getElem?_eq_some_iff.1 h).1
      omega
    subst hi
    rw [root?_of_le f hl, levels_of_le f hl]
    simpa [siblings, List.head?_eq_getElem?] using h
  | up l hl ih =>
    rw [root?_of_lt f hl, dropLast_levels f hl, siblings, List.foldl_append]
    exact ih (foldl_sibling hf l i x h)

/-! ## Sizes -/

/-- Dividing twice, rounded up. -/
theorem ceilDiv_ceilDiv (n : ℕ) {a b : ℕ} (ha : 0 < a) (hb : 0 < b) :
    n ⌈/⌉ a ⌈/⌉ b = n ⌈/⌉ (a * b) := by
  refine eq_of_forall_ge_iff fun c => ?_
  rw [ceilDiv_le_iff_le_mul hb, ceilDiv_le_iff_le_mul ha,
    ceilDiv_le_iff_le_mul (Nat.mul_pos ha hb), mul_assoc]

/-- Level `k` has a `2 ^ k`-th of the nodes, rounded up, and the last one is the first with a
single node. -/
theorem map_length_levels {l : List D} (hl : l ≠ []) : (levels f l).map List.length =
    (List.range (Nat.clog 2 l.length + 1)).map fun k => l.length ⌈/⌉ 2 ^ k := by
  induction l using levels_induction f with
  | top l h =>
    have hone : l.length = 1 := le_antisymm h (List.length_pos_iff.2 hl)
    rw [levels_of_le f h, List.map_singleton, hone]
    rfl
  | up l h ih =>
    have hnext : (nextLevel f l).length = l.length ⌈/⌉ 2 := length_nextLevel f l
    have hlength := length_nextLevel f l
    have hne : nextLevel f l ≠ [] := List.length_pos_iff.1 (by omega)
    have hclog : Nat.clog 2 l.length = Nat.clog 2 (nextLevel f l).length + 1 := by
      rw [hlength]
      exact Nat.clog_of_two_le (by decide) h
    rw [levels_of_lt f h, List.map_cons, ih hne, hclog,
      List.range_succ_eq_map (n := Nat.clog 2 _ + 1), List.map_cons, List.map_map, hnext]
    refine congrArg₂ List.cons (ceilDiv_one _).symm (List.map_congr_left fun k _ => ?_)
    rw [ceilDiv_ceilDiv _ (by decide) (Nat.two_pow_pos k), ← pow_succ']
    rfl

/-- How many levels a tree has. -/
theorem length_levels {l : List D} (hl : l ≠ []) :
    (levels f l).length = Nat.clog 2 l.length + 1 := by
  simpa using congrArg List.length (map_length_levels (f := f) hl)

/-- The last level is the root alone. -/
theorem exists_getLast?_levels {l : List D} (hl : l ≠ []) :
    ∃ root, (levels f l).getLast? = some [root] ∧ root? f l = some root := by
  induction l using levels_induction f with
  | top l h =>
    obtain ⟨root, rfl⟩ := List.length_eq_one_iff.1 (le_antisymm h (List.length_pos_iff.2 hl))
    rw [root?_of_le f h, levels_of_le f h]
    exact ⟨root, rfl, rfl⟩
  | up l h ih =>
    have hlength := length_nextLevel f l
    obtain ⟨root, hlast, hroot⟩ := ih (List.length_pos_iff.1 (by omega))
    rw [root?_of_lt f h, levels_of_lt f h, List.getLast?_cons, hlast]
    exact ⟨root, rfl, hroot⟩

/-- A node has one sibling at most. -/
theorem length_sibling_le (l : List D) (i : ℕ) : (sibling l i).length ≤ 1 := by
  unfold sibling
  split_ifs
  · exact Option.length_toList_le
  · exact Option.length_toList_le

/-- At most one sibling for each level. -/
theorem length_siblings_le (i : ℕ) (ls : List (List D)) : (siblings i ls).length ≤ ls.length := by
  induction ls generalizing i with
  | nil => exact le_rfl
  | cons l ls ih =>
    have hhead := length_sibling_le l i
    have htail := ih (i / 2)
    rw [siblings, List.length_append, List.length_cons]
    omega

/-- Where there is more than one leaf, every leaf has a sibling on its way : a node without one
is the last of an odd level, and the next level still has more than one node. -/
theorem siblings_ne_nil {l : List D} (hl : 1 < l.length) {i : ℕ} (hi : i < l.length) :
    siblings i (levels f l).dropLast ≠ [] := by
  induction l using levels_induction f generalizing i with
  | top l h => omega
  | up l h ih =>
    rw [dropLast_levels f h, siblings]
    intro hnil
    obtain ⟨hsibling, hrest⟩ := List.append_eq_nil_iff.1 hnil
    have hlast : i % 2 = 0 ∧ i + 1 = l.length := by
      unfold sibling at hsibling
      split_ifs at hsibling with heven
      · rw [Option.toList_eq_nil_iff, List.getElem?_eq_none_iff] at hsibling
        exact ⟨heven, by omega⟩
      · rw [Option.toList_eq_nil_iff, List.getElem?_eq_none_iff] at hsibling
        omega
    have hnext := length_nextLevel f l
    exact ih (by omega) (by omega) hrest

/-! ## Trees of entries -/

/-- Binary trees with entries at the leaves. -/
inductive Tree (E : Type*) where
  | leaf (e : E)
  | node (l r : Tree E)

variable {E B : Type*}

/-- The entries of a tree, left to right. -/
def Tree.leaves : Tree E → List E
  | .leaf e => [e]
  | .node l r => l.leaves ++ r.leaves

/-- The tree over a list of entries. -/
def treeOf (es : List E) : Option (Tree E) :=
  root? Tree.node (es.map Tree.leaf)

/-- A level has the leaves of the level below. -/
theorem flatMap_leaves_nextLevel :
    ∀ ts : List (Tree E), (nextLevel Tree.node ts).flatMap Tree.leaves = ts.flatMap Tree.leaves
  | [] => rfl
  | [_] => rfl
  | a :: b :: ts => by
    simp only [nextLevel, List.flatMap_cons, flatMap_leaves_nextLevel ts, Tree.leaves,
      List.append_assoc]

/-- The leaves of the root, from left to right. -/
theorem leaves_of_root? (ts : List (Tree E)) {t : Tree E} (h : root? Tree.node ts = some t) :
    t.leaves = ts.flatMap Tree.leaves := by
  induction ts using levels_induction Tree.node with
  | top ts hl =>
    rw [root?_of_le _ hl] at h
    match ts, h with
    | [a], h =>
      obtain rfl : a = t := by simpa using h
      simp
    | _ :: _ :: _, _ => simp at hl
  | up ts hl ih =>
    rw [root?_of_lt _ hl] at h
    rw [ih h, flatMap_leaves_nextLevel]

/-- The leaves of the tree over a list are the list. -/
theorem leaves_treeOf {es : List E} {t : Tree E} (h : treeOf es = some t) : t.leaves = es := by
  rw [leaves_of_root? _ h]
  induction es with
  | nil => rfl
  | cons e es _ => simp [List.flatMap_map, Tree.leaves]

/-! ## Hashing schemes -/

/-- A hash with the preimages of leaves and of pairs. Pairs are unordered, and no preimage
serves twice. -/
structure Scheme (E D B : Type*) where
  /-- The hash. -/
  hash : B → D
  /-- The preimage of a leaf. -/
  leafEnc : E → B
  /-- The preimage of a pair. -/
  pairEnc : D → D → B
  pairEnc_comm : ∀ a b, pairEnc a b = pairEnc b a
  leafEnc_injective : Function.Injective leafEnc
  pairEnc_cases : ∀ {a b c d}, pairEnc a b = pairEnc c d → a = c ∧ b = d ∨ a = d ∧ b = c
  leafEnc_ne_pairEnc : ∀ e a b, leafEnc e ≠ pairEnc a b

variable {α : Type*} {P Q : Prop} {C : α → Prop} {o o' : Option α}

/-- A consequence holds unless the same collision was found. -/
theorem elim_imp (h : P → Q) (ho : o.elim P C) : o.elim Q C := by
  cases o with
  | none => exact h ho
  | some a => exact ho

/-- Two facts hold together unless one of their collisions was found. -/
theorem elim_or (h : o.elim P C) (h' : o'.elim Q C) : (o.or o').elim (P ∧ Q) C := by
  cases o with
  | none => exact elim_imp (fun hq => ⟨h, hq⟩) h'
  | some a => exact h

namespace Scheme

variable (S : Scheme E D B)

/-- The digest of an entry. -/
def leaf (e : E) : D :=
  S.hash (S.leafEnc e)

/-- The digest of a pair. -/
def pair (a b : D) : D :=
  S.hash (S.pairEnc a b)

/-- The order of a pair does not matter. -/
theorem pair_comm (a b : D) : S.pair a b = S.pair b a :=
  congrArg S.hash (S.pairEnc_comm a b)

/-- The digest of a tree. -/
def digest : Tree E → D
  | .leaf e => S.leaf e
  | .node l r => S.pair (digest l) (digest r)

/-- The root digest of a list of entries is the digest of its tree. -/
theorem root?_eq_digest (es : List E) :
    root? S.pair (es.map S.leaf) = (treeOf es).map S.digest := by
  have h : es.map S.leaf = (es.map Tree.leaf).map S.digest := by
    simp [Function.comp_def, digest]
  rw [h, root?_map (f := Tree.node) fun _ _ => rfl]
  rfl

/-- A byte string that the scheme hashes. -/
def IsPreimage (b : B) : Prop :=
  (∃ e, b = S.leafEnc e) ∨ ∃ x y, b = S.pairEnc x y

/-- Two distinct preimages with one hash. -/
def IsCollision (p : B × B) : Prop :=
  S.IsPreimage p.1 ∧ S.IsPreimage p.2 ∧ p.1 ≠ p.2 ∧ S.hash p.1 = S.hash p.2

/-- Fold the siblings onto entry `e`, the one nearest to the root first in the list. -/
def climb (e : E) : List D → D
  | [] => S.leaf e
  | s :: path => S.pair (climb e path) s

/-- The fold of a proof is the climb along it. -/
theorem foldl_eq_climb (e : E) (proof : List D) :
    proof.foldl S.pair (S.leaf e) = S.climb e proof.reverse := by
  induction proof using List.reverseRecOn with
  | nil => rfl
  | append_singleton proof s ih => simp [climb, ih]

variable [DecidableEq E] [DecidableEq D] [DecidableEq B]

/-- Walk the siblings of `e` down the tree, root first, and stop where the path and the
tree hash different preimages. -/
def collision (e : E) : Tree E → List D → Option (B × B)
  | .leaf e', [] => if e = e' then none else some (S.leafEnc e, S.leafEnc e')
  | .leaf e', s :: path => some (S.pairEnc (S.climb e path) s, S.leafEnc e')
  | .node l r, [] => some (S.leafEnc e, S.pairEnc (S.digest l) (S.digest r))
  | .node l r, s :: path =>
    if S.pairEnc (S.climb e path) s = S.pairEnc (S.digest l) (S.digest r) then
      if S.climb e path = S.digest l then collision e l path else collision e r path
    else some (S.pairEnc (S.climb e path) s, S.pairEnc (S.digest l) (S.digest r))

/-- On a path that folds to the digest of a tree, the walk finds a collision or ends at
the entry. -/
theorem collision_elim {e : E} : ∀ (t : Tree E) (path : List D), S.climb e path = S.digest t →
    (S.collision e t path).elim (e ∈ t.leaves) S.IsCollision
  | .leaf e', [], h => by
    rw [collision]
    split_ifs with he
    · simp [Tree.leaves, he]
    · exact ⟨Or.inl ⟨e, rfl⟩, Or.inl ⟨e', rfl⟩, fun h' => he (S.leafEnc_injective h'), h⟩
  | .leaf e', s :: path, h =>
    ⟨Or.inr ⟨_, _, rfl⟩, Or.inl ⟨e', rfl⟩, fun h' => S.leafEnc_ne_pairEnc _ _ _ h'.symm, h⟩
  | .node l r, [], h =>
    ⟨Or.inl ⟨e, rfl⟩, Or.inr ⟨_, _, rfl⟩, S.leafEnc_ne_pairEnc _ _ _, h⟩
  | .node l r, s :: path, h => by
    rw [collision]
    split_ifs with hp hl
    · exact elim_imp (fun hm => List.mem_append_left _ hm) (collision_elim l path hl)
    · have hr : S.climb e path = S.digest r := by
        rcases S.pairEnc_cases hp with ⟨h1, _⟩ | ⟨h1, _⟩
        · exact absurd h1 hl
        · exact h1
      exact elim_imp (fun hm => List.mem_append_right _ hm) (collision_elim r path hr)
    · exact ⟨Or.inr ⟨_, _, rfl⟩, Or.inr ⟨_, _, rfl⟩, hp, h⟩

/-- The walk over the tree of a list, for a proof in leaf to root order. -/
def listCollision (es : List E) (e : E) (proof : List D) : Option (B × B) :=
  (treeOf es).bind fun t => S.collision e t proof.reverse

/-- On a proof that folds an entry to the root of a list, the walk finds a collision or
the entry is in the list. -/
theorem listCollision_elim {es : List E} {e : E} {proof : List D}
    (h : root? S.pair (es.map S.leaf) = some (proof.foldl S.pair (S.leaf e))) :
    (S.listCollision es e proof).elim (e ∈ es) S.IsCollision := by
  rw [root?_eq_digest, Option.map_eq_some_iff] at h
  obtain ⟨t, ht, hd⟩ := h
  rw [foldl_eq_climb] at hd
  rw [listCollision, ht, ← leaves_treeOf ht]
  exact S.collision_elim t _ hd.symm

/-- The proof of index `i` in the tree of a list. -/
def honestProof (es : List E) (i : ℕ) : List D :=
  siblings i (levels S.pair (es.map S.leaf)).dropLast

/-- The first collision met when the entries of `es` are walked down the tree of `es'`
with their own proofs. -/
def crossCollision (es es' : List E) : Option (B × B) :=
  es.zipIdx.findSome? fun x => S.listCollision es' x.1 (S.honestProof es x.2)

/-- Of two lists with one root, each entry of the first is in the second, or a collision
is found. -/
theorem crossCollision_elim {es es' : List E}
    (h : root? S.pair (es.map S.leaf) = root? S.pair (es'.map S.leaf)) :
    (S.crossCollision es es').elim (es ⊆ es') S.IsCollision := by
  have key : ∀ x ∈ es.zipIdx,
      (S.listCollision es' x.1 (S.honestProof es x.2)).elim (x.1 ∈ es') S.IsCollision := by
    intro x hx
    have hx' : (es.map S.leaf)[x.2]? = some (S.leaf x.1) := by
      rw [List.getElem?_map, List.mem_zipIdx_iff_getElem?.1 hx]
      rfl
    exact S.listCollision_elim (h ▸ foldl_siblings S.pair_comm _ hx')
  cases hc : S.crossCollision es es' with
  | none =>
    intro e he
    obtain ⟨i, hi⟩ := List.mem_iff_getElem?.1 he
    have hx : (e, i) ∈ es.zipIdx := List.mem_zipIdx_iff_getElem?.2 hi
    simpa [List.findSome?_eq_none_iff.1 hc _ hx] using key _ hx
  | some p =>
    obtain ⟨x, hx, hp⟩ := List.exists_of_findSome?_eq_some hc
    simpa [hp] using key x hx

end Scheme

end PairTree
