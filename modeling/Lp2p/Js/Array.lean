import Mathlib.Data.List.Sort
import Lp2p.Js.Number

/-!
# JavaScript array operations with throwing callbacks

`filter` and `every` run their callback on the elements in order; an exception thrown by the
callback escapes the call, and `every` stops at the first `false`. The pool filters its sessions
with a callback that computes peer ids, which can throw (`src/peer_pool.js:553–558, 605–610`).
`shuffle(array)[0]` (lodash) picks any element; which one is a parameter here. `sort` and
`slice` are modelled as V8 runs them, for the eviction's protections (`src/peer_pool.js:68–81`).
-/

namespace Lp2p.Js

variable {α ε : Type}

/-- `array.every(callback)` with a callback that may throw. -/
def everyE (f : α → Except ε Bool) : List α → Except ε Bool
  | [] => .ok true
  | a :: as =>
    match f a with
    | .error e => .error e
    | .ok false => .ok false
    | .ok true => everyE f as

/-- `array.filter(callback)` with a callback that may throw. -/
def filterE (f : α → Except ε Bool) : List α → Except ε (List α)
  | [] => .ok []
  | a :: as =>
    match f a with
    | .error e => .error e
    | .ok keep =>
      match filterE f as with
      | .error e => .error e
      | .ok rest => .ok (if keep then a :: rest else rest)

/-- `shuffle(array)[0]`: the element `choice` picks, `undefined` on an empty array. -/
def shuffleFirst (xs : List α) (choice : Nat) : Option α := xs[choice % xs.length]?

/-- When the callback returns on every element, `every` is `List.all`. -/
theorem everyE_of_ok (f : α → Except ε Bool) (g : α → Bool) (xs : List α)
    (h : ∀ a ∈ xs, f a = .ok (g a)) : everyE f xs = .ok (xs.all g) := by
  induction xs with
  | nil => rfl
  | cons a as ih =>
    simp only [List.mem_cons, forall_eq_or_imp] at h
    simp only [everyE, h.1, List.all_cons]
    cases g a
    · rfl
    · exact ih h.2

/-- When the callback returns on every element, `filter` is `List.filter`. -/
theorem filterE_of_ok (f : α → Except ε Bool) (g : α → Bool) (xs : List α)
    (h : ∀ a ∈ xs, f a = .ok (g a)) : filterE f xs = .ok (xs.filter g) := by
  induction xs with
  | nil => rfl
  | cons a as ih =>
    simp only [List.mem_cons, forall_eq_or_imp] at h
    simp only [filterE, h.1, ih h.2, List.filter_cons]

/-- What `filter` keeps is a sublist of the array. -/
theorem filterE_sublist (f : α → Except ε Bool) (xs ys : List α) (h : filterE f xs = .ok ys) :
    ys.Sublist xs := by
  induction xs generalizing ys with
  | nil => cases h; exact List.Sublist.slnil
  | cons a as ih =>
    simp only [filterE] at h
    split at h
    · cases h
    · split at h
      · cases h
      · next rest hr =>
        cases h
        split
        · exact (ih rest hr).cons₂ a
        · exact (ih rest hr).cons a

/-- What `filter` keeps, the callback returned `true` on. -/
theorem filterE_mem {f : α → Except ε Bool} {xs ys : List α} (h : filterE f xs = .ok ys) {y : α}
    (hy : y ∈ ys) : f y = .ok true := by
  induction xs generalizing ys with
  | nil => cases h; cases hy
  | cons a as ih =>
    simp only [filterE] at h
    split at h
    · cases h
    · next keep hfa =>
      split at h
      · cases h
      · next rest hr =>
        cases h
        split at hy
        · next hk =>
          rcases List.mem_cons.1 hy with rfl | hy
          · exact hfa.trans (congrArg _ hk)
          · exact ih hr hy
        · exact ih hr hy

/-- When `every` returns `true`, the callback returned `true` on every element. -/
theorem everyE_eq_true {f : α → Except ε Bool} {xs : List α} (h : everyE f xs = .ok true) :
    ∀ x ∈ xs, f x = .ok true := by
  induction xs with
  | nil => nofun
  | cons a as ih =>
    simp only [everyE] at h
    split at h
    · cases h
    · cases h
    · next hfa => exact List.forall_mem_cons.2 ⟨hfa, ih h⟩

/-- `array.map(callback)` with a callback that may throw: when it returns, each output is the
image of an input. -/
theorem mapM_ok_mem {β : Type} {f : α → Except ε β} {xs : List α} {ys : List β}
    (h : xs.mapM f = .ok ys) : ∀ y ∈ ys, ∃ x ∈ xs, f x = .ok y := by
  induction xs generalizing ys with
  | nil =>
    cases h
    simp
  | cons x xs ih =>
    rw [List.mapM_cons] at h
    cases hx : f x with
    | error e => rw [hx] at h; cases h
    | ok y =>
      cases hxs : xs.mapM f with
      | error e => rw [hx, hxs] at h; cases h
      | ok ys' =>
        rw [hx, hxs] at h
        cases h
        intro z hz
        rcases List.mem_cons.1 hz with rfl | hz
        · exact ⟨x, List.mem_cons_self _ _, hx⟩
        · obtain ⟨w, hw, hfw⟩ := ih hxs z hz
          exact ⟨w, List.mem_cons_of_mem _ hw, hfw⟩

/-- When `map` returns, the callback returned on every element. -/
theorem mapM_ok_forall {β : Type} {f : α → Except ε β} {xs : List α} {ys : List β}
    (h : xs.mapM f = .ok ys) : ∀ x ∈ xs, ∃ y, f x = .ok y := by
  induction xs generalizing ys with
  | nil => nofun
  | cons x xs ih =>
    rw [List.mapM_cons] at h
    cases hx : f x with
    | error e => rw [hx] at h; cases h
    | ok y =>
      cases hxs : xs.mapM f with
      | error e => rw [hx, hxs] at h; cases h
      | ok ys' => exact List.forall_mem_cons.2 ⟨⟨y, hx⟩, ih hxs⟩

/-- A `filter` whose callback computes a key that may throw, then decides on the key, throws
what `map` over the keys throws, or filters by the decision. -/
theorem filterE_bind {β : Type} (g : α → Except ε β) (k : α → β → Bool) (xs : List α) :
    filterE (fun a => g a >>= fun b => pure (k a b)) xs =
      (xs.mapM g).map fun _ => xs.filter fun a =>
        match g a with
        | .ok b => k a b
        | .error _ => false := by
  induction xs with
  | nil => rfl
  | cons a as ih =>
    simp only [filterE, List.mapM_cons, ih]
    cases hg : g a with
    | error e => rfl
    | ok b =>
      cases hm : as.mapM g <;> simp [hg, hm, Except.map, bind, Except.bind, pure, Except.pure,
        List.filter_cons]

/-- Two callbacks that agree on the array map it alike. -/
theorem mapM_congr {β : Type} {f g : α → Except ε β} {xs : List α}
    (h : ∀ x ∈ xs, f x = g x) : xs.mapM f = xs.mapM g := by
  induction xs with
  | nil => rfl
  | cons x xs ih =>
    simp only [List.mem_cons, forall_eq_or_imp] at h
    rw [List.mapM_cons, List.mapM_cons, h.1, ih h.2]

/-- A callback that returns on every element maps the array: the results, in order. -/
theorem mapM_ok_map {β : Type} {f : α → Except ε β} {xs : List α}
    (h : ∀ x ∈ xs, ∃ y, f x = .ok y) : ∃ ys, xs.mapM f = .ok ys ∧ xs.map f = ys.map .ok := by
  induction xs with
  | nil => exact ⟨[], rfl, rfl⟩
  | cons x xs ih =>
    simp only [List.mem_cons, forall_eq_or_imp] at h
    obtain ⟨⟨y, hy⟩, ht⟩ := h
    obtain ⟨ys, hys, hmap⟩ := ih ht
    refine ⟨y :: ys, ?_, by simp only [List.map_cons, hy, hmap]⟩
    simp only [List.mapM_cons, hy, hys]
    rfl

/-- `shuffle(array)[0]` is defined exactly on a non-empty array. -/
theorem shuffleFirst_isSome (xs : List α) (choice : Nat) :
    (shuffleFirst xs choice).isSome ↔ xs ≠ [] := by
  cases xs with
  | nil => simp [shuffleFirst]
  | cons a as =>
    simp only [shuffleFirst, ne_eq, reduceCtorEq, not_false_eq_true, iff_true]
    exact Option.isSome_iff_exists.2 ⟨_, List.getElem?_eq_getElem (Nat.mod_lt _ (by simp))⟩

/-- `shuffle(array)[0]` is an element of the array. -/
theorem shuffleFirst_mem (xs : List α) (choice : Nat) (x : α)
    (h : shuffleFirst xs choice = some x) : x ∈ xs :=
  List.getElem?_mem h

/-! ### `sort` and `slice`

Since V8 7.0, so on every Node the package's `engines` entry (`>=11.0`) admits,
`Array.prototype.sort` is TimSort. It asks `comparefn(x, y)` only with `x` after `y` in the
input: in finding a run, in the binary insertion sort that extends it, and in the merges and
gallops between runs, where `x` is from the later run. When those answers are the ones of a
strict total order, TimSort returns the one permutation sorted by it, and so does inserting each
element, in input order, before the first element placed earlier that it is to precede.
`filterPeersByCategory`'s comparator answers so on keys that are not `NaN`, and no rate a
session computes is `NaN`. -/

/-- `array.sort(comparefn)`, with `before x y` for `comparefn(x, y) < 0`: each element, in input
order, goes before the first element already placed that it precedes. -/
def sortBy (before : α → α → Bool) (xs : List α) : List α :=
  xs.foldl (fun sorted x => sorted.orderedInsert (fun a b => before a b = true) x) []

/-- `array.slice(start)`'s first index in an array of `len` elements: `start` truncated toward
zero, counted from the end when negative, and kept within `[0, len]`; `NaN` counts as 0. -/
def sliceStart (start : JsNumber) (len : Nat) : Nat :=
  match start with
  | .finite q => if q < 0 then len - ⌊-q⌋.toNat else min ⌊q⌋.toNat len
  | .infinity positive => if positive then len else 0
  | .nan => 0

/-- `slice` starts within the array. -/
theorem sliceStart_le (start : JsNumber) (len : Nat) : sliceStart start len ≤ len := by
  unfold sliceStart; split <;> (try split) <;> omega

section Sorting

variable (before : α → α → Bool) {t : α → α → Prop}

/-- Inserting keeps a list ordered by `t` when `before` agrees with `t` one way and its negation
the other way. -/
theorem pairwise_orderedInsert (htrans : ∀ x y z, t x y → t y z → t x z) {a : α}
    {l : List α} (hl : l.Pairwise t) (hr : ∀ b ∈ l, before a b → t a b)
    (hnr : ∀ b ∈ l, before a b = false → t b a) :
    (l.orderedInsert (fun a b => before a b = true) a).Pairwise t := by
  induction l with
  | nil => simp
  | cons b l ih =>
    rw [List.pairwise_cons] at hl
    simp only [List.orderedInsert]
    split
    · next hab =>
      have hab' := hr b (.head _) hab
      exact List.pairwise_cons.2 ⟨List.forall_mem_cons.2 ⟨hab', fun c hc => htrans _ _ _ hab' (hl.1 c hc)⟩,
        List.pairwise_cons.2 hl⟩
    · next hab =>
      refine List.pairwise_cons.2 ⟨fun c hc => ?_,
        ih hl.2 (fun c hc => hr c (.tail _ hc)) fun c hc => hnr c (.tail _ hc)⟩
      rcases List.mem_cons.1 ((List.perm_orderedInsert _ a l).subset hc) with rfl | hc
      · exact hnr b (.head _) (by simpa using hab)
      · exact hl.1 c hc

/-- Inserting the elements of `xs` one by one into `acc` permutes `acc ++ xs`. -/
theorem perm_foldl_orderedInsert (acc xs : List α) :
    (xs.foldl (fun sorted x => sorted.orderedInsert (fun a b => before a b = true) x) acc).Perm
      (acc ++ xs) := by
  induction xs generalizing acc with
  | nil => simp
  | cons x xs ih =>
    exact (ih _).trans (((List.perm_orderedInsert _ x acc).append_right xs).trans
      List.perm_middle.symm)

/-- `sort` permutes the array. -/
theorem perm_sortBy (xs : List α) : (sortBy before xs).Perm xs :=
  perm_foldl_orderedInsert before [] xs

/-- Inserting the elements of `xs` one by one into an ordered `acc` keeps it ordered by any
transitive `t` that `before` agrees with one way and its negation the other way. -/
theorem pairwise_foldl_orderedInsert (htrans : ∀ x y z, t x y → t y z → t x z) (acc xs : List α)
    (hacc : acc.Pairwise t) (hr : ∀ a ∈ acc ++ xs, ∀ b ∈ acc ++ xs, before a b → t a b)
    (hnr : ∀ a ∈ acc ++ xs, ∀ b ∈ acc ++ xs, before a b = false → t b a) :
    (xs.foldl (fun sorted x => sorted.orderedInsert (fun a b => before a b = true) x)
      acc).Pairwise t := by
  induction xs generalizing acc with
  | nil => exact hacc
  | cons x xs ih =>
    have hsub : ∀ a ∈ acc.orderedInsert (fun a b => before a b = true) x ++ xs,
        a ∈ acc ++ x :: xs := fun a ha =>
      List.perm_middle.symm.subset ((((List.perm_orderedInsert _ x acc).append_right xs)).subset ha)
    have hx : x ∈ acc ++ x :: xs := List.mem_append_right _ (.head _)
    have hacc' : ∀ b ∈ acc, b ∈ acc ++ x :: xs := fun b hb => List.mem_append_left _ hb
    exact ih _ (pairwise_orderedInsert before htrans hacc (fun b hb => hr x hx b (hacc' b hb))
        fun b hb => hnr x hx b (hacc' b hb))
      (fun a ha b hb => hr a (hsub a ha) b (hsub b hb))
      fun a ha b hb => hnr a (hsub a ha) b (hsub b hb)

/-- `sort` leaves the array ordered by any transitive `t` that `before` agrees with one way and
its negation the other way, on the array's elements. -/
theorem pairwise_sortBy (htrans : ∀ x y z, t x y → t y z → t x z) {xs : List α}
    (hr : ∀ a ∈ xs, ∀ b ∈ xs, before a b → t a b)
    (hnr : ∀ a ∈ xs, ∀ b ∈ xs, before a b = false → t b a) : (sortBy before xs).Pairwise t :=
  pairwise_foldl_orderedInsert before htrans [] xs .nil (by simpa using hr) (by simpa using hnr)

end Sorting

end Lp2p.Js
