import Mathlib.Data.List.Nodup

/-!
# JavaScript `Map`

A `Map` keeps its entries in insertion order: `set` on a present key replaces the value in
place, on a new key appends, and `delete` reports whether it removed an entry. The pool's
two peer maps (`src/peer_pool.js:86–87`) and a session's rate counters
(`src/peer/base.js:96–99`) are such maps. The structure carries the distinctness of its keys.
-/

namespace Lp2p.Js

/-- A JavaScript `Map`: its entries in insertion order, keys distinct. -/
structure JsMap (κ ν : Type) where
  entries : List (κ × ν)
  nodup : (entries.map Prod.fst).Nodup

namespace JsMap

variable {κ ν : Type} [DecidableEq κ]

/-- Equality of maps is decided on their entries, in order. -/
instance [DecidableEq ν] : DecidableEq (JsMap κ ν) := fun a b =>
  decidable_of_iff (a.entries = b.entries) (by cases a; cases b; simp)

/-- `new Map()`. -/
def empty : JsMap κ ν := ⟨[], List.nodup_nil⟩

/-- `map.get(key)`. -/
def get? (m : JsMap κ ν) (key : κ) : Option ν := (m.entries.find? (·.1 = key)).map (·.2)

/-- `map.has(key)`. -/
def has (m : JsMap κ ν) (key : κ) : Bool := m.entries.any (·.1 = key)

/-- `map.size`. -/
def size (m : JsMap κ ν) : Nat := m.entries.length

/-- `[...map.keys()]`, in insertion order. -/
def keys (m : JsMap κ ν) : List κ := m.entries.map Prod.fst

/-- `[...map.values()]`, in insertion order. -/
def values (m : JsMap κ ν) : List ν := m.entries.map Prod.snd

-- Replacing values in place keeps the keys.
/-- Replace the value of the entry under `key`, in place. -/
private def replaceAt (key : κ) (value : ν) : List (κ × ν) → List (κ × ν)
  | [] => []
  | e :: rest => if e.1 = key then (key, value) :: rest else e :: replaceAt key value rest

/-- Replacing a value in place keeps the keys. -/
private theorem keys_replaceAt (key : κ) (value : ν) (l : List (κ × ν)) (h : key ∈ l.map Prod.fst) :
    (replaceAt key value l).map Prod.fst = l.map Prod.fst := by
  induction l with
  | nil => simp at h
  | cons e rest ih =>
    by_cases he : e.1 = key
    · simp [replaceAt, he]
    · have hr : key ∈ rest.map Prod.fst := by
        simp only [List.map_cons, List.mem_cons] at h
        exact h.resolve_left (Ne.symm he)
      simp [replaceAt, he, ih hr]

/-- The entries after a replacement in place: the new entry, and the old ones under other keys. -/
private theorem mem_replaceAt (key : κ) (value : ν) (l : List (κ × ν))
    (hl : (l.map Prod.fst).Nodup) (h : key ∈ l.map Prod.fst) (x : κ × ν) :
    x ∈ replaceAt key value l ↔ x = (key, value) ∨ (x ∈ l ∧ x.1 ≠ key) := by
  induction l with
  | nil => simp at h
  | cons e rest ih =>
    simp only [List.map_cons, List.nodup_cons] at hl
    by_cases he : e.1 = key
    · have hr : ∀ y ∈ rest, y.1 ≠ key := fun y hy hy' =>
        hl.1 (he ▸ hy' ▸ List.mem_map_of_mem Prod.fst hy)
      simp only [replaceAt, he, if_true, List.mem_cons]
      constructor
      · rintro (rfl | hx)
        · exact .inl rfl
        · exact .inr ⟨.inr hx, hr x hx⟩
      · rintro (rfl | ⟨rfl | hx, hk⟩)
        · exact .inl rfl
        · exact absurd he hk
        · exact .inr hx
    · have hk : key ∈ rest.map Prod.fst := by
        simp only [List.map_cons, List.mem_cons] at h
        exact h.resolve_left (Ne.symm he)
      simp only [replaceAt, he, if_false, List.mem_cons, ih hl.2 hk]
      constructor
      · rintro (rfl | rfl | ⟨hx, hk⟩)
        · exact .inr ⟨.inl rfl, he⟩
        · exact .inl rfl
        · exact .inr ⟨.inr hx, hk⟩
      · rintro (rfl | ⟨rfl | hx, hk⟩)
        · exact .inr (.inl rfl)
        · exact .inl rfl
        · exact .inr (.inr ⟨hx, hk⟩)

/-- `map.set(key, value)`. -/
def set (m : JsMap κ ν) (key : κ) (value : ν) : JsMap κ ν :=
  if h : key ∈ m.entries.map Prod.fst then
    ⟨replaceAt key value m.entries, by rw [keys_replaceAt key value _ h]; exact m.nodup⟩
  else
    ⟨m.entries ++ [(key, value)], by
      rw [List.map_append, List.nodup_append]
      exact ⟨m.nodup, by simp, by simpa using h⟩⟩

/-- The map without the entry under `key`, the state `map.delete(key)` leaves. -/
def erase (m : JsMap κ ν) (key : κ) : JsMap κ ν :=
  ⟨m.entries.filter (·.1 ≠ key), m.nodup.sublist ((List.filter_sublist _).map _)⟩

/-- `map.delete(key)`: whether an entry was removed, and the map left behind. -/
def delete (m : JsMap κ ν) (key : κ) : Bool × JsMap κ ν := (m.has key, m.erase key)

/-- `new Map([...map.entries()].map(([key, value]) => [key, f(value)]))`. -/
def mapValues {μ : Type} (m : JsMap κ ν) (f : ν → μ) : JsMap κ μ :=
  ⟨m.entries.map fun e => (e.1, f e.2), by simpa [Function.comp_def] using m.nodup⟩

/-- `get` after mapping the values maps the value got. -/
@[simp] theorem get?_mapValues {μ : Type} (m : JsMap κ ν) (f : ν → μ) (key : κ) :
    (m.mapValues f).get? key = (m.get? key).map f := by
  simp [get?, mapValues, List.find?_map, Function.comp_def]

/-! ### Entries after an update -/

/-- `get` returns a value exactly when the map holds that entry. -/
theorem get?_eq_some_iff (m : JsMap κ ν) (key : κ) (value : ν) :
    m.get? key = some value ↔ (key, value) ∈ m.entries := by
  constructor
  · intro h
    obtain ⟨e, he, rfl⟩ := Option.map_eq_some'.1 h
    have hk : e.1 = key := by simpa using List.find?_some he
    exact hk ▸ List.mem_of_find?_eq_some he
  · intro h
    have hs : (m.entries.find? fun x => decide (x.1 = key)).isSome :=
      List.find?_isSome.2 ⟨(key, value), h, by simp⟩
    obtain ⟨e, he⟩ := Option.isSome_iff_exists.1 hs
    have hk : e.1 = key := by simpa using List.find?_some he
    have he2 : e = (key, value) :=
      List.inj_on_of_nodup_map m.nodup (List.mem_of_find?_eq_some he) h hk
    simp [get?, he, he2]

/-- `has` is whether `get` returns a value. -/
theorem has_eq_isSome (m : JsMap κ ν) (key : κ) : m.has key = (m.get? key).isSome := by
  rw [Bool.eq_iff_iff]
  simp [has, get?, List.any_eq_true, List.find?_isSome]

/-- The entries after `delete`: those under other keys. -/
theorem mem_erase (m : JsMap κ ν) (key : κ) (e : κ × ν) :
    e ∈ (m.erase key).entries ↔ e ∈ m.entries ∧ e.1 ≠ key := by
  simp [erase]

/-- The entries after `set`: the new entry, and the old ones under other keys. -/
theorem mem_set (m : JsMap κ ν) (key : κ) (value : ν) (e : κ × ν) :
    e ∈ (m.set key value).entries ↔ e = (key, value) ∨ (e ∈ m.entries ∧ e.1 ≠ key) := by
  unfold set
  split
  · next h => exact mem_replaceAt key value _ m.nodup h e
  · next h =>
    simp only [List.mem_append, List.mem_singleton]
    constructor
    · rintro (he | he)
      · exact .inr ⟨he, fun hk => h (List.mem_map.2 ⟨e, he, hk⟩)⟩
      · exact .inl he
    · rintro (he | he)
      · exact .inr he
      · exact .inl he.1

/-- `get` after `delete`: nothing under the deleted key, the same elsewhere. -/
@[simp] theorem get?_erase (m : JsMap κ ν) (key key' : κ) :
    (m.erase key).get? key' = if key' = key then none else m.get? key' := by
  apply Option.ext; intro v
  split <;> simp_all [get?_eq_some_iff, mem_erase]

/-- `get` after `set`: the new value under its key, the same elsewhere. -/
@[simp] theorem get?_set (m : JsMap κ ν) (key key' : κ) (value : ν) :
    (m.set key value).get? key' = if key' = key then some value else m.get? key' := by
  apply Option.ext; intro v
  split
  · simp_all [get?_eq_some_iff, mem_set]; exact eq_comm
  · simp_all [get?_eq_some_iff, mem_set]

/-- The empty map holds nothing. -/
@[simp] theorem get?_empty (key : κ) : (empty : JsMap κ ν).get? key = none := rfl

/-- Deleting removes at most the entry under the key. -/
theorem erase_sublist (m : JsMap κ ν) (key : κ) : (m.erase key).entries.Sublist m.entries :=
  List.filter_sublist _

/-- Dropping the one entry under a key shortens the list by one. -/
private theorem length_filter_key (key : κ) (l : List (κ × ν)) (hl : (l.map Prod.fst).Nodup)
    (h : key ∈ l.map Prod.fst) : (l.filter fun e => e.1 ≠ key).length + 1 = l.length := by
  induction l with
  | nil => simp at h
  | cons e rest ih =>
    simp only [List.map_cons, List.nodup_cons, List.mem_cons] at hl h
    by_cases he : e.1 = key
    · have hr : rest.filter (fun e => e.1 ≠ key) = rest := by
        apply List.filter_eq_self.2
        intro y hy
        have hy' : y.1 ≠ key := fun hk =>
          hl.1 (by rw [he, ← hk]; exact List.mem_map_of_mem Prod.fst hy)
        simpa using hy'
      rw [List.filter_cons_of_neg (by simpa using he), hr]
      rfl
    · rw [List.filter_cons_of_pos (by simpa using he), List.length_cons, List.length_cons,
        ih hl.2 (h.resolve_left fun hk => he hk.symm)]

/-- A key the map has is among its keys. -/
theorem mem_keys_of_has (m : JsMap κ ν) (key : κ) (h : m.has key) :
    key ∈ m.entries.map Prod.fst := by
  obtain ⟨e, he, hk⟩ := List.any_eq_true.1 h
  exact List.mem_map.2 ⟨e, he, of_decide_eq_true hk⟩

/-- Deleting a present key removes one entry. -/
theorem size_erase_of_has (m : JsMap κ ν) (key : κ) (h : m.has key) :
    (m.erase key).size + 1 = m.size :=
  length_filter_key key m.entries m.nodup (mem_keys_of_has m key h)

/-- Deleting never adds an entry. -/
theorem size_erase_le (m : JsMap κ ν) (key : κ) : (m.erase key).size ≤ m.size :=
  List.length_filter_le _ _

/-- Replacing a value in place keeps the length. -/
private theorem length_replaceAt (key : κ) (value : ν) (l : List (κ × ν)) :
    (replaceAt key value l).length = l.length := by
  induction l with
  | nil => rfl
  | cons e rest ih => by_cases he : e.1 = key <;> simp [replaceAt, he, ih]

/-- Setting adds at most one entry. -/
theorem size_set_le (m : JsMap κ ν) (key : κ) (value : ν) :
    (m.set key value).size ≤ m.size + 1 := by
  unfold set size
  split
  · rw [length_replaceAt]; omega
  · simp

/-- Setting an absent key adds one entry. -/
theorem size_set_of_not_has (m : JsMap κ ν) (key : κ) (value : ν) (h : m.has key = false) :
    (m.set key value).size = m.size + 1 := by
  have hk : key ∉ m.entries.map Prod.fst := fun hm => by
    obtain ⟨e, he, hek⟩ := List.mem_map.1 hm
    have hs : m.has key = true := List.any_eq_true.2 ⟨e, he, decide_eq_true hek⟩
    rw [h] at hs; exact Bool.false_ne_true hs
  simp [set, hk, size]

/-- A key is among the keys exactly when `get` returns a value for it. -/
theorem mem_keys_iff (m : JsMap κ ν) (key : κ) : key ∈ m.keys ↔ (m.get? key).isSome := by
  rw [← has_eq_isSome]
  simp [has, keys, List.any_eq_true]

/-- A map with no value under any key is empty. -/
theorem eq_empty_of_get? {m : JsMap κ ν} (h : ∀ key, m.get? key = none) : m = empty := by
  obtain ⟨_ | ⟨e, rest⟩, nodup⟩ := m
  · rfl
  · have he := (get?_eq_some_iff ⟨e :: rest, nodup⟩ e.1 e.2).2 (.head _)
    rw [h] at he; cases he

/-- Deleting keys one after another, as a `forEach` that deletes each entry it visits. -/
theorem get?_foldl_erase (keys : List κ) (m : JsMap κ ν) (key : κ) :
    (keys.foldl erase m).get? key = if key ∈ keys then none else m.get? key := by
  induction keys generalizing m with
  | nil => simp
  | cons k rest ih =>
    rw [List.foldl_cons, ih]
    by_cases hk : key = k <;> simp [hk]

/-- Deleting every key of a map leaves it empty. -/
theorem foldl_erase_keys (m : JsMap κ ν) : m.keys.foldl erase m = empty :=
  eq_empty_of_get? fun key => by
    rw [get?_foldl_erase]
    split
    · rfl
    · next h => exact Option.not_isSome_iff_eq_none.1 fun hs => h ((mem_keys_iff m key).2 hs)

/-- A value is among the values exactly when some key gets it. -/
theorem mem_values (m : JsMap κ ν) (value : ν) :
    value ∈ m.values ↔ ∃ key, m.get? key = some value := by
  simp only [values, List.mem_map, get?_eq_some_iff]
  exact ⟨fun ⟨e, he, hv⟩ => ⟨e.1, hv ▸ he⟩, fun ⟨key, h⟩ => ⟨_, h, rfl⟩⟩

/-- The values are distinct when no two keys hold the same one. -/
theorem values_nodup {m : JsMap κ ν} (h : ∀ key key' value, m.get? key = some value →
    m.get? key' = some value → key = key') : m.values.Nodup := by
  refine (List.Nodup.of_map Prod.fst m.nodup).map_on fun x hx y hy hxy => ?_
  have hy' : (y.1, x.2) ∈ m.entries := by rw [hxy]; exact hy
  exact List.inj_on_of_nodup_map m.nodup hx hy
    (h x.1 y.1 x.2 ((get?_eq_some_iff _ _ _).2 hx) ((get?_eq_some_iff _ _ _).2 hy'))

/-! ### Object spread -/

omit [DecidableEq κ] in
/-- Maps with the same entries are equal. -/
theorem ext_entries {m m' : JsMap κ ν} (h : m.entries = m'.entries) : m = m' := by
  cases m; cases m'; cases h; rfl

/-- Setting a new key appends its entry. -/
theorem entries_set_of_not_mem (m : JsMap κ ν) (key : κ) (value : ν) (h : key ∉ m.keys) :
    (m.set key value).entries = m.entries ++ [(key, value)] := by
  simp only [keys] at h
  unfold set
  rw [dif_neg h]

/-- The keys after `delete`: the others, in order. -/
@[simp] theorem keys_erase (m : JsMap κ ν) (key : κ) :
    (m.erase key).keys = m.keys.filter (· ≠ key) := by
  simp only [erase, keys, List.filter_map]
  rfl

/-- The keys after `set`: the same, or the new key appended. -/
theorem keys_set (m : JsMap κ ν) (key : κ) (value : ν) :
    (m.set key value).keys = if key ∈ m.keys then m.keys else m.keys ++ [key] := by
  unfold set keys
  split
  · next h => exact keys_replaceAt key value _ h
  · simp

/-- `{ ...m, ...source }` for the entries of `source`, in order: each is set, so a key `m`
already has keeps its position and takes the value from `source`, and a new key is
appended. -/
def setAll (m : JsMap κ ν) (entries : List (κ × ν)) : JsMap κ ν :=
  entries.foldl (fun m e => m.set e.1 e.2) m

/-- A spread keeps the keys of the map in place and appends the new ones, in order. -/
theorem keys_setAll (m : JsMap κ ν) (l : List (κ × ν)) (hl : (l.map Prod.fst).Nodup) :
    (m.setAll l).keys = m.keys ++ (l.map Prod.fst).filter (· ∉ m.keys) := by
  induction l generalizing m with
  | nil => simp [setAll]
  | cons e rest ih =>
    simp only [List.map_cons, List.nodup_cons] at hl
    simp only [setAll, List.foldl_cons] at ih ⊢
    rw [ih _ hl.2, keys_set, List.map_cons, List.filter_cons]
    by_cases he : e.1 ∈ m.keys
    · simp [he]
    · rw [if_neg he, if_pos (by simpa using he), List.append_assoc, List.singleton_append]
      congr 2
      exact List.filter_congr fun k hk => by
        have : k ≠ e.1 := fun h => hl.1 (h ▸ hk)
        simp [this]

/-- Spreading entries under keys the map does not have appends them. -/
theorem entries_setAll_of_disjoint (m : JsMap κ ν) (l : List (κ × ν))
    (hl : (l.map Prod.fst).Nodup) (hd : ∀ e ∈ l, e.1 ∉ m.keys) :
    (m.setAll l).entries = m.entries ++ l := by
  induction l generalizing m with
  | nil => simp [setAll]
  | cons e rest ih =>
    simp only [List.map_cons, List.nodup_cons] at hl
    have hm := entries_set_of_not_mem m e.1 e.2 (hd e (.head _))
    have hd' : ∀ x ∈ rest, x.1 ∉ (m.set e.1 e.2).keys := fun x hx hk => by
      rw [keys, hm, List.map_append, List.mem_append] at hk
      rcases hk with hk | hk
      · exact hd x (.tail _ hx) hk
      · exact hl.1 (by
          simp only [List.map_cons, List.map_nil, List.mem_singleton] at hk
          exact hk ▸ List.mem_map_of_mem _ hx)
    simp only [setAll, List.foldl_cons] at ih ⊢
    rw [ih _ hl.2 hd', hm, List.append_assoc]
    rfl

/-- Setting the entries of a list with distinct keys: the list's value under a key, or the map's. -/
theorem get?_foldl_set (m : JsMap κ ν) (l : List (κ × ν)) (hl : (l.map Prod.fst).Nodup)
    (key : κ) : (l.foldl (fun m e => m.set e.1 e.2) m).get? key =
      ((l.find? (·.1 = key)).map (·.2)).or (m.get? key) := by
  induction l generalizing m with
  | nil => simp
  | cons e rest ih =>
    simp only [List.map_cons, List.nodup_cons] at hl
    rw [List.foldl_cons, ih _ hl.2, get?_set, List.find?_cons]
    by_cases hk : e.1 = key
    · have hr : rest.find? (·.1 = key) = none :=
        List.find?_eq_none.2 fun x hx hx' => hl.1 (by
          simp only [decide_eq_true_eq] at hx'; exact hk ▸ hx' ▸ List.mem_map_of_mem _ hx)
      simp [hk, hr]
    · simp [hk, Ne.symm hk]

/-- After a spread, a key holds the value of the source if the source has it, and its old
value otherwise. -/
theorem get?_setAll (m source : JsMap κ ν) (key : κ) :
    (m.setAll source.entries).get? key = (source.get? key).or (m.get? key) :=
  get?_foldl_set m source.entries source.nodup key

end JsMap

end Lp2p.Js
