import Mathlib.Data.List.Nodup

/-!
# Python runtime pieces used by netbox_init.py

Exceptions as values, insertion-ordered `dict`s, `sorted` with a comparison that may raise,
and the four `*_hash_value_by_*` helpers (`netbox_init.py:41-68`).

A `dict` keeps its items in insertion order; `d[k] = v` overwrites in place when `k` is
present and appends otherwise, so its keys stay pairwise distinct. `sorted` is CPython's stable
sort: it uses only `<`, keeps equal elements in input order, and raises as soon as a comparison
raises. The model inserts each element after every element it is not less than; on a strict
weak order this is the unique stable result, and on a comparison that raises on every pair
(`pynetbox` records define no ordering) both raise on any list of two or more elements.
-/

namespace NetboxInit.Python

/-- Exceptions the modelled code raises or catches. -/
inductive PyError
  | requestError
  | keyError
  | typeError
  | attributeError
  | invalidVersion
  deriving DecidableEq, Repr

/-! ### Dictionaries -/

/-- A Python `dict`: items in insertion order, keys pairwise distinct. -/
structure PyDict (K V : Type) where
  items : List (K × V)
  keys_nodup : (items.map Prod.fst).Nodup

namespace PyDict

variable {K V : Type} [DecidableEq K]

def empty : PyDict K V := ⟨[], List.nodup_nil⟩

def keys (d : PyDict K V) : List K := d.items.map Prod.fst

def values (d : PyDict K V) : List V := d.items.map Prod.snd

/-- `d.get(k)` / `d[k]` when present. -/
def get? (d : PyDict K V) (k : K) : Option V := d.items.lookup k

/-- `d[k]`, which raises `KeyError` when `k` is absent. -/
def getItem (d : PyDict K V) (k : K) : Except PyError V :=
  match d.get? k with
  | some v => .ok v
  | none => .error .keyError

theorem isSome_get? (d : PyDict K V) (k : K) : (d.get? k).isSome ↔ k ∈ d.keys := by
  simp only [get?, keys, List.lookup_isSome_iff, beq_iff_eq, List.mem_map]
  exact ⟨fun ⟨p, hp, e⟩ => ⟨p, hp, e.symm⟩, fun ⟨p, hp, e⟩ => ⟨p, hp, e.symm⟩⟩

theorem getItem_of_mem_keys {d : PyDict K V} {k : K} (h : k ∈ d.keys) :
    ∃ v, d.getItem k = .ok v := by
  obtain ⟨v, hv⟩ := Option.isSome_iff_exists.mp ((isSome_get? d k).mpr h)
  exact ⟨v, by simp [getItem, hv]⟩

/-- `d[k]` is the value stored with `k`. -/
theorem get?_of_mem_items {d : PyDict K V} {p : K × V} (h : p ∈ d.items) :
    d.get? p.1 = some p.2 := by
  obtain ⟨l₁, l₂, hd⟩ := List.append_of_mem h
  have hn := d.keys_nodup
  rw [hd, List.map_append, List.map_cons, List.nodup_append] at hn
  refine List.lookup_eq_some_iff.mpr ⟨l₁, l₂, hd, fun q hq => ?_⟩
  exact bne_iff_ne.mpr fun he =>
    hn.2.2 (List.mem_map_of_mem Prod.fst hq) (he ▸ List.mem_cons_self _ _)

/-- What `d[k]` returns is stored with `k`. -/
theorem mem_items_of_getItem {d : PyDict K V} {k : K} {v : V} (h : d.getItem k = .ok v) :
    (k, v) ∈ d.items := by
  unfold getItem at h
  split at h
  · cases h
    obtain ⟨l₁, l₂, he, -⟩ := List.lookup_eq_some_iff.mp ‹d.get? k = some _›
    simp [he]
  · cases h

theorem map_fst_overwrite (l : List (K × V)) (k : K) (v : V) :
    (l.map fun p => if p.1 = k then (k, v) else p).map Prod.fst = l.map Prod.fst := by
  induction l with
  | nil => rfl
  | cons p l ih => by_cases h : p.1 = k <;> simp [h, ih]

/-- `d[k] = v`. -/
def insert (d : PyDict K V) (k : K) (v : V) : PyDict K V :=
  if h : k ∈ d.keys then
    ⟨d.items.map (fun p => if p.1 = k then (k, v) else p),
      by rw [map_fst_overwrite]; exact d.keys_nodup⟩
  else
    ⟨d.items ++ [(k, v)], by
      rw [List.map_append, List.nodup_append]
      exact ⟨d.keys_nodup, List.nodup_singleton _, by simpa [keys] using h⟩⟩

/-- `{k: v for k, v in pairs}`: later pairs overwrite earlier ones at their first position. -/
def ofList (pairs : List (K × V)) : PyDict K V :=
  pairs.foldl (fun d p => d.insert p.1 p.2) empty

@[simp] theorem keys_insert (d : PyDict K V) (k : K) (v : V) :
    (d.insert k v).keys = if k ∈ d.keys then d.keys else d.keys ++ [k] := by
  unfold insert
  split
  · simp only [keys, map_fst_overwrite, ite_true, *]
  · simp only [keys, List.map_append, List.map_cons, List.map_nil, ite_false, *]

theorem mem_keys_insert (d : PyDict K V) (k j : K) (v : V) :
    j ∈ (d.insert k v).keys ↔ j = k ∨ j ∈ d.keys := by
  rw [keys_insert]
  split <;> simp_all [or_comm]

theorem mem_keys_ofList_aux (pairs : List (K × V)) (d : PyDict K V) (j : K) :
    j ∈ (pairs.foldl (fun d p => d.insert p.1 p.2) d).keys ↔
      j ∈ d.keys ∨ j ∈ pairs.map Prod.fst := by
  induction pairs generalizing d with
  | nil => simp
  | cons p ps ih => simp only [List.foldl_cons, ih, mem_keys_insert, List.map_cons,
      List.mem_cons]; exact or_assoc.trans or_left_comm

/-- The keys of a dict comprehension are exactly the keys it was given. -/
theorem mem_keys_ofList (pairs : List (K × V)) (j : K) :
    j ∈ (ofList pairs).keys ↔ j ∈ pairs.map Prod.fst := by
  simp only [ofList, mem_keys_ofList_aux]
  simp [empty, keys]

theorem mem_items_insert (d : PyDict K V) (k : K) (v : V) (p : K × V) :
    p ∈ (d.insert k v).items → p = (k, v) ∨ p ∈ d.items := by
  unfold insert
  split
  · simp only [List.mem_map]
    rintro ⟨q, hq, rfl⟩
    split
    · exact .inl rfl
    · exact .inr hq
  · simp only [List.mem_append, List.mem_singleton]
    exact Or.symm

/-- Every item of a dict comprehension is one of the pairs it was given. -/
theorem mem_items_ofList (pairs : List (K × V)) (p : K × V) :
    p ∈ (ofList pairs).items → p ∈ pairs := by
  suffices ∀ d : PyDict K V, p ∈ (pairs.foldl (fun d p => d.insert p.1 p.2) d).items →
      p ∈ d.items ∨ p ∈ pairs from
    fun h => (this empty h).resolve_left (List.not_mem_nil p)
  induction pairs with
  | nil => exact fun d h => .inl h
  | cons q qs ih =>
    intro d h
    rcases ih _ h with h | h
    · rcases mem_items_insert d q.1 q.2 p h with rfl | h
      · exact .inr (List.mem_cons_self _ _)
      · exact .inl h
    · exact .inr (List.mem_cons_of_mem _ h)

theorem insert_items_of_not_mem {d : PyDict K V} {k : K} (h : k ∉ d.keys) (v : V) :
    (d.insert k v).items = d.items ++ [(k, v)] := by
  rw [insert, dif_neg h]

/-- A dict comprehension over pairs with distinct keys keeps them, in order. -/
theorem ofList_items {pairs : List (K × V)} (h : (pairs.map Prod.fst).Nodup) :
    (ofList pairs).items = pairs := by
  suffices ∀ d : PyDict K V, ((d.items ++ pairs).map Prod.fst).Nodup →
      (pairs.foldl (fun d p => d.insert p.1 p.2) d).items = d.items ++ pairs from this empty h
  clear h
  induction pairs with
  | nil => simp
  | cons q qs ih =>
    intro d hd
    have hq : q.1 ∉ d.keys := by
      simp only [List.map_append, List.map_cons, List.nodup_append, List.nodup_cons] at hd
      exact fun hk => hd.2.2 hk (List.mem_cons_self _ _)
    rw [List.foldl_cons, ih _ (by simpa [insert_items_of_not_mem hq] using hd),
      insert_items_of_not_mem hq]
    simp

section Rename

variable {K' V' : Type} [DecidableEq K'] (f : K → K') (hf : Function.Injective f) (g : V → V')
include hf

end Rename

end PyDict

/-- A list comprehension whose every element evaluates without raising does not raise. -/
theorem exists_mapM_eq_ok {α β : Type} (f : α → Except PyError β) :
    (l : List α) → (∀ x ∈ l, ∃ y, f x = .ok y) → ∃ ys, l.mapM f = .ok ys
  | [], _ => ⟨[], rfl⟩
  | x :: l, h => by
    obtain ⟨y, hy⟩ := h x (List.mem_cons_self _ _)
    obtain ⟨ys, hys⟩ := exists_mapM_eq_ok f l fun z hz => h z (List.mem_cons_of_mem _ hz)
    exact ⟨y :: ys, by rw [List.mapM_cons, hy, hys]; rfl⟩

/-- Every element of a list comprehension that did not raise comes from an element of its
list. -/
theorem mem_of_mapM_eq_ok {α β : Type} (f : α → Except PyError β) :
    (l : List α) → {ys : List β} → l.mapM f = .ok ys → ∀ y ∈ ys, ∃ x ∈ l, f x = .ok y
  | [], ys, h => by
    obtain rfl : [] = ys := Except.ok.inj h
    simp
  | x :: l, ys, h => by
    rw [List.mapM_cons] at h
    cases hx : f x with
    | error e => rw [hx] at h; cases h
    | ok y =>
      cases hl : l.mapM f with
      | error e => rw [hx, hl] at h; cases h
      | ok zs =>
        rw [hx, hl] at h
        obtain rfl : y :: zs = ys := Except.ok.inj h
        simp only [List.mem_cons, forall_eq_or_imp]
        refine ⟨⟨x, .inl rfl, hx⟩, fun z hz => ?_⟩
        obtain ⟨w, hw, hfw⟩ := mem_of_mapM_eq_ok f l hl z hz
        exact ⟨w, .inr hw, hfw⟩

/-! ### `sorted` -/

/-- Python's `a < b`, which raises `TypeError` on values that define no ordering. -/
abbrev PyLt (β : Type) := β → β → Except PyError Bool

/-- `<` on values with a decidable order. -/
def orderLt {β : Type} [LT β] [DecidableRel (α := β) (· < ·)] : PyLt β :=
  fun a b => .ok (decide (a < b))

/-- `<` between two `pynetbox` records: `Record` defines `__eq__` and `__hash__` but no
ordering, so the comparison raises `TypeError`. -/
def recordLt {β : Type} : PyLt β := fun _ _ => .error .typeError

variable {α β : Type}

/-- Stable insertion: `x` goes before the first element it is less than. -/
def insertSorted (lt : PyLt β) (key : α → β) (x : α) : List α → Except PyError (List α)
  | [] => .ok [x]
  | y :: ys => do
    if ← lt (key x) (key y) then pure (x :: y :: ys)
    else pure (y :: (← insertSorted lt key x ys))

/-- `sorted(xs, key=key)`. -/
def sorted (lt : PyLt β) (key : α → β) (xs : List α) : Except PyError (List α) :=
  xs.foldlM (fun acc x => insertSorted lt key x acc) []

/-! ### Strings -/

/-- `s.endswith(suffix)`. -/
def endswith (s suffix : String) : Bool := suffix.toList.isSuffixOf s.toList

/-- `s.startswith(prefix)`. -/
def startswith (s pre : String) : Bool := pre.toList.isPrefixOf s.toList

/-! ### `min_hash_value_by_*` / `max_hash_value_by_*` (`netbox_init.py:41-68`) -/

variable {K V : Type} [DecidableEq K]

/-- The values of `{k: v for k, v in sorted(x.items(), key=key)}`. -/
def sortedValues (lt : PyLt β) (key : K × V → β) (x : PyDict K V) :
    Except PyError (List V) :=
  (sorted lt key x.items).map fun s => (PyDict.ofList s).values

/-- `next(iter(...), None)`: a failing sort propagates. -/
def minHashValueByValue (lt : PyLt V) (x : PyDict K V) : Except PyError (Option V) :=
  (sortedValues lt Prod.snd x).map List.head?

/-- The `by_key` helpers compare only keys, so a value may be Python's `None` (`Option V`):
the first value, `None` or not, is returned as it is, and the empty dict also gives `None`. -/
def minHashValueByKey (lt : PyLt K) (x : PyDict K (Option V)) : Except PyError (Option V) :=
  (sortedValues lt Prod.fst x).map fun vs => vs.head?.join

/-- `*_, last = iter(...)` inside `try ... except Exception: last = None`: both the empty dict
and a failing sort give `None`. -/
def maxHashValueByValue (lt : PyLt V) (x : PyDict K V) : Option V :=
  match sortedValues lt Prod.snd x with
  | .ok vs => vs.getLast?
  | .error _ => none

def maxHashValueByKey (lt : PyLt K) (x : PyDict K (Option V)) : Option V :=
  match sortedValues lt Prod.fst x with
  | .ok vs => vs.getLast?.join
  | .error _ => none

/-! ### Sorting values that define no ordering -/

theorem insertSorted_recordLt_cons (key : α → β) (x y : α) (ys : List α) :
    insertSorted recordLt key x (y :: ys) = .error .typeError := rfl

/-- Sorting records raises exactly when there are two of them to compare. -/
theorem sorted_recordLt (key : α → β) (xs : List α) :
    sorted recordLt key xs = if 2 ≤ xs.length then .error .typeError else .ok xs := by
  match xs with
  | [] => rfl
  | [_] => rfl
  | x :: y :: zs =>
    rw [if_pos (by simp)]
    rfl

/-- `min_hash_value_by_value` on two or more `pynetbox` records raises `TypeError`. -/
theorem minHashValueByValue_recordLt (x : PyDict K V) (h : 2 ≤ x.items.length) :
    minHashValueByValue recordLt x = .error .typeError := by
  simp only [minHashValueByValue, sortedValues, sorted_recordLt, if_pos h]
  rfl

/-- On records, `min_hash_value_by_value` returns a value exactly when the dict holds one item,
and then its value. -/
theorem minHashValueByValue_recordLt_eq_some (x : PyDict K V) (v : V) :
    minHashValueByValue recordLt x = .ok (some v) ↔ ∃ k, x.items = [(k, v)] := by
  by_cases h2 : 2 ≤ x.items.length
  · rw [minHashValueByValue_recordLt x h2]
    refine iff_of_false (fun h => nomatch h) fun ⟨k, hk⟩ => ?_
    simp [hk] at h2
  · have hs : sortedValues recordLt Prod.snd x = .ok x.values := by
      rw [sortedValues, sorted_recordLt, if_neg h2]
      show Except.ok (PyDict.ofList x.items).values = _
      rw [PyDict.values, PyDict.ofList_items x.keys_nodup]; rfl
    show Except.map List.head? (sortedValues recordLt Prod.snd x) = _ ↔ _
    rw [hs]
    show Except.ok _ = _ ↔ _
    rcases x with ⟨_ | ⟨⟨k, w⟩, _ | ⟨b, items⟩⟩, hx⟩
    · simp [PyDict.values]
    · simp [PyDict.values, eq_comm]
    · simp at h2

end NetboxInit.Python
