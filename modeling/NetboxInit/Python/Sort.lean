import NetboxInit.Python.Dict

/-!
# `sorted` on comparable keys, and the `*_hash_value_by_*` helpers (`netbox_init.py:41-68`)

When `<` on the keys of a list is a total preorder (the order of their ranks in a linear
order), `sorted` never raises and returns a stable sort: the same elements, ranks ascending,
and elements of one rank in input order (`StableSorted`, `sorted_stableSorted`). Its first
element is then the earliest of the least-ranked (`IsEarliestLeast`) and its last the latest
of the greatest-ranked (`IsLatestGreatest`).

The helpers rebuild a dict from the sorted items, which keeps them in order since their keys
are distinct, and take its first or last value, `None` when there is none. `None` is not ordered
by `<`, so a dict whose values are comparable holds no `None` value: `min_hash_value_by_value`
returns the earliest-inserted of the least values, `max_hash_value_by_value` the latest-inserted
of the greatest, and both return `None` exactly on the empty dict. The `by_key` helpers compare
only keys and return the value stored at the least or greatest key, which may itself be `None`
(`hashValueHelpers_spec`): on `{1: None}` both return `None` (`hashValueByKey_noneValue`).
-/

namespace NetboxInit.Python

variable {α β γ : Type} [LinearOrder γ]

/-- On the elements of `xs`, `lt` between their keys is `<` between their ranks `r`: the keys
are pairwise comparable under a total preorder. -/
def KeysRanked (lt : PyLt β) (key : α → β) (r : α → γ) (xs : List α) : Prop :=
  ∀ a ∈ xs, ∀ b ∈ xs, lt (key a) (key b) = orderLt (r a) (r b)

theorem KeysRanked.mono {lt : PyLt β} {key : α → β} {r : α → γ} {xs ys : List α}
    (h : KeysRanked lt key r xs) (hys : ys ⊆ xs) : KeysRanked lt key r ys :=
  fun a ha b hb => h a (hys ha) b (hys hb)

/-- `ys` is `xs` sorted stably by rank: the same elements, ranks ascending, and within each
rank the input order. -/
structure StableSorted (r : α → γ) (xs ys : List α) : Prop where
  perm : ys.Perm xs
  sorted : ys.Pairwise (r · ≤ r ·)
  stable : ∀ c, ys.filter (r · = c) = xs.filter (r · = c)

/-- `p` is the earliest of the least-ranked elements of `xs`. -/
def IsEarliestLeast (r : α → γ) (xs : List α) (p : α) : Prop :=
  ∃ l₁ l₂, xs = l₁ ++ p :: l₂ ∧ (∀ q ∈ l₁, r p < r q) ∧ ∀ q ∈ l₂, r p ≤ r q

/-- `p` is the latest of the greatest-ranked elements of `xs`. -/
def IsLatestGreatest (r : α → γ) (xs : List α) (p : α) : Prop :=
  ∃ l₁ l₂, xs = l₁ ++ p :: l₂ ∧ (∀ q ∈ l₁, r q ≤ r p) ∧ ∀ q ∈ l₂, r q < r p

/-! ### Stable insertion -/

section Stable

variable {lt : PyLt β} {key : α → β} (r : α → γ)

/-- Stable insertion puts `x` after the longest prefix of elements ranked no higher. -/
theorem insertSorted_eq (x : α) :
    (l : List α) → KeysRanked lt key r (x :: l) →
      insertSorted lt key x l = .ok (l.takeWhile (r · ≤ r x) ++ x :: l.dropWhile (r · ≤ r x))
  | [], _ => rfl
  | y :: ys, h => by
    have hxy : lt (key x) (key y) = .ok (decide (r x < r y)) :=
      h x (List.mem_cons_self _ _) y (List.mem_cons_of_mem _ (List.mem_cons_self _ _))
    have ih := insertSorted_eq x ys (h.mono (List.cons_subset_cons _ (List.subset_cons_self _ _)))
    by_cases hr : r x < r y
    · simp [insertSorted, hxy, hr, List.takeWhile_cons, List.dropWhile_cons, not_le.mpr hr,
        bind, Except.bind, pure, Except.pure]
    · simp [insertSorted, hxy, hr, ih, List.takeWhile_cons, List.dropWhile_cons, not_lt.mp hr,
        bind, Except.bind, pure, Except.pure]

theorem StableSorted.nil : StableSorted r [] [] := ⟨.nil, .nil, fun _ => rfl⟩

variable {r}

/-- In a sorted list, what follows the prefix ranked no higher than `x` is ranked above `x`. -/
theorem lt_of_mem_dropWhile (x : α) :
    {l : List α} → l.Pairwise (r · ≤ r ·) → ∀ z ∈ l.dropWhile (r · ≤ r x), r x < r z
  | [], _ => by simp
  | y :: ys, h => by
    by_cases hy : r y ≤ r x
    · rw [List.dropWhile_cons_of_pos (by simpa using hy)]
      exact lt_of_mem_dropWhile x (List.pairwise_cons.mp h).2
    · rw [List.dropWhile_cons_of_neg (by simpa using hy), List.forall_mem_cons]
      exact ⟨not_le.mp hy, fun z hz => (not_le.mp hy).trans_le ((List.pairwise_cons.mp h).1 z hz)⟩

/-- Stable insertion of a later element keeps a stable sort. -/
theorem StableSorted.insert {xs ys : List α} (h : StableSorted r xs ys) (x : α) :
    StableSorted r (xs ++ [x]) (ys.takeWhile (r · ≤ r x) ++ x :: ys.dropWhile (r · ≤ r x)) where
  perm := List.perm_middle.trans <| by
    rw [List.takeWhile_append_dropWhile]
    exact (h.perm.cons x).trans (List.perm_append_singleton x xs).symm
  sorted := by
    have hys := h.sorted
    rw [← List.takeWhile_append_dropWhile (r · ≤ r x) ys, List.pairwise_append] at hys
    refine List.pairwise_append.mpr ⟨hys.1, List.pairwise_cons.mpr
      ⟨fun z hz => (lt_of_mem_dropWhile x h.sorted z hz).le, hys.2.1⟩, fun a ha b hb => ?_⟩
    rcases List.mem_cons.mp hb with rfl | hb
    · simpa using List.mem_takeWhile_imp ha
    · exact hys.2.2 a ha b hb
  stable c := by
    rw [List.filter_append, List.filter_append, ← h.stable, List.filter_cons]
    conv_rhs => rw [← List.takeWhile_append_dropWhile (r · ≤ r x) ys, List.filter_append]
    by_cases hc : r x = c
    · subst hc
      have : (ys.dropWhile (r · ≤ r x)).filter (r · = r x) = [] :=
        List.filter_eq_nil_iff.mpr fun z hz => by
          simpa using (lt_of_mem_dropWhile x h.sorted z hz).ne'
      simp [this]
    · simp [hc]

variable (r)

/-- `sorted` on keys that `lt` ranks never raises and sorts stably by rank. -/
theorem sorted_stableSorted (xs : List α) (h : KeysRanked lt key r xs) :
    ∃ ys, sorted lt key xs = .ok ys ∧ StableSorted r xs ys := by
  suffices ∀ pre rest acc, pre ++ rest = xs → StableSorted r pre acc →
      ∃ ys, rest.foldlM (fun acc x => insertSorted lt key x acc) acc = .ok ys ∧
        StableSorted r xs ys from
    this [] xs [] rfl (.nil r)
  intro pre rest
  induction rest generalizing pre with
  | nil => rintro acc rfl hacc; exact ⟨acc, rfl, by simpa using hacc⟩
  | cons x rest ih =>
    rintro acc rfl hacc
    have hx : KeysRanked lt key r (x :: acc) := h.mono fun z hz => by
      rcases List.mem_cons.mp hz with rfl | hz
      · simp
      · simp [hacc.perm.mem_iff.mp hz]
    obtain ⟨ys, hys, hs⟩ := ih (pre ++ [x]) _ (by simp) (hacc.insert x)
    exact ⟨ys, by simp [List.foldlM_cons, insertSorted_eq r x acc hx, hys, bind, Except.bind], hs⟩

end Stable

/-- `sorted` by an ordered key never raises, keeps the elements, and puts a least one first. -/
theorem sorted_orderLt (key : α → γ) (xs : List α) :
    ∃ ys, sorted orderLt key xs = .ok ys ∧ (∀ z, z ∈ ys ↔ z ∈ xs) ∧
      ∀ y ∈ ys.head?, ∀ z ∈ ys, key y ≤ key z := by
  have hk : KeysRanked orderLt key key xs := fun _ _ _ _ => rfl
  obtain ⟨ys, h, hs⟩ := sorted_stableSorted key xs hk
  refine ⟨ys, h, fun z => hs.perm.mem_iff, ?_⟩
  cases ys with
  | nil => simp
  | cons y ys =>
    simp only [List.head?_cons, Option.mem_def, Option.some.injEq, forall_eq',
      List.forall_mem_cons]
    exact ⟨le_rfl, fun z hz => List.rel_of_pairwise_cons hs.sorted hz⟩

/-! ### The ends of a stable sort -/

section Ends

variable {r : α → γ} {xs ys : List α} {p : α}

theorem StableSorted.head (h : StableSorted r xs (p :: ys)) : IsEarliestLeast r xs p := by
  have hmin : ∀ q ∈ xs, r p ≤ r q := fun q hq => by
    rcases List.mem_cons.mp (h.perm.mem_iff.mpr hq) with rfl | hq
    · exact le_rfl
    · exact List.rel_of_pairwise_cons h.sorted hq
  have hf : xs.filter (r · = r p) = p :: ys.filter (r · = r p) := by
    rw [← h.stable, List.filter_cons_of_pos (by simp)]
  obtain ⟨l₁, l₂, rfl, h₁, -, -⟩ := List.filter_eq_cons_iff.mp hf
  refine ⟨l₁, l₂, rfl, fun q hq => lt_of_le_of_ne (hmin q (by simp [hq])) ?_,
    fun q hq => hmin q (by simp [hq])⟩
  simpa [eq_comm] using h₁ q hq

theorem StableSorted.getLast (h : StableSorted r xs (ys ++ [p])) : IsLatestGreatest r xs p := by
  have hmax : ∀ q ∈ xs, r q ≤ r p := fun q hq => by
    have hs := List.pairwise_append.mp h.sorted
    rcases List.mem_append.mp (h.perm.mem_iff.mpr hq) with hq | hq
    · exact hs.2.2 q hq p (List.mem_singleton_self p)
    · rw [List.mem_singleton.mp hq]
  have hf : xs.filter (r · = r p) = ys.filter (r · = r p) ++ [p] := by
    rw [← h.stable, List.filter_append, List.filter_cons_of_pos (by simp), List.filter_nil]
  obtain ⟨m₁, m₂, rfl, -, hm₂⟩ := List.filter_eq_append_iff.mp hf
  obtain ⟨n₁, n₂, rfl, -, -, hn₂⟩ := List.filter_eq_cons_iff.mp hm₂
  refine ⟨m₁ ++ n₁, n₂, by simp, fun q hq =>
    hmax q (by rw [← List.append_assoc]; exact List.mem_append_left _ hq), fun q hq =>
    lt_of_le_of_ne (hmax q (by simp [hq])) ?_⟩
  simpa using List.filter_eq_nil_iff.mp hn₂ q hq

theorem IsEarliestLeast.mem (h : IsEarliestLeast r xs p) : p ∈ xs := by
  obtain ⟨l₁, l₂, rfl, -⟩ := h
  simp

theorem IsLatestGreatest.mem (h : IsLatestGreatest r xs p) : p ∈ xs := by
  obtain ⟨l₁, l₂, rfl, -⟩ := h
  simp

/-- Two splits of one list around `p` and `q` agree when no element can stand after `p` (by
`S`) and before `q` (by `R`), nor the other way round. -/
theorem eq_of_splits {R S : α → α → Prop} (hRS : ∀ a b, S a b → ¬ R b a) {l₁ l₂ m₁ m₂ : List α}
    {q : α} (he : l₁ ++ p :: l₂ = m₁ ++ q :: m₂) (hl₁ : ∀ z ∈ l₁, R p z) (hl₂ : ∀ z ∈ l₂, S p z)
    (hm₁ : ∀ z ∈ m₁, R q z) (hm₂ : ∀ z ∈ m₂, S q z) : p = q := by
  rcases List.append_eq_append_iff.mp he with ⟨_ | ⟨b, a⟩, rfl, h⟩ | ⟨_ | ⟨b, c⟩, rfl, h⟩
  · exact (List.cons.inj h).1
  · obtain ⟨rfl, rfl⟩ := List.cons.inj h
    exact absurd (hm₁ p (by simp)) (hRS _ _ (hl₂ q (by simp)))
  · exact (List.cons.inj h).1.symm
  · obtain ⟨rfl, rfl⟩ := List.cons.inj h
    exact absurd (hl₁ q (by simp)) (hRS _ _ (hm₂ p (by simp)))

theorem IsEarliestLeast.unique {q : α} (hp : IsEarliestLeast r xs p)
    (hq : IsEarliestLeast r xs q) : p = q := by
  obtain ⟨l₁, l₂, rfl, hl₁, hl₂⟩ := hp
  obtain ⟨m₁, m₂, he, hm₁, hm₂⟩ := hq
  exact eq_of_splits (fun _ _ h => not_lt.mpr h) he hl₁ hl₂ hm₁ hm₂

theorem IsLatestGreatest.unique {q : α} (hp : IsLatestGreatest r xs p)
    (hq : IsLatestGreatest r xs q) : p = q := by
  obtain ⟨l₁, l₂, rfl, hl₁, hl₂⟩ := hp
  obtain ⟨m₁, m₂, he, hm₁, hm₂⟩ := hq
  exact eq_of_splits (fun _ _ h => not_le.mpr h) he hl₁ hl₂ hm₁ hm₂

end Ends

/-! ### The helpers -/

section HashValue

variable {K V W : Type} {x : PyDict K V}

theorem keysRanked_values {lt : PyLt V} {rank : V → γ}
    (h : ∀ a ∈ x.values, ∀ b ∈ x.values, lt a b = orderLt (rank a) (rank b)) :
    KeysRanked lt Prod.snd (fun p => rank p.2) x.items := fun a ha b hb =>
  h a.2 (List.mem_map_of_mem _ ha) b.2 (List.mem_map_of_mem _ hb)

theorem keysRanked_keys {lt : PyLt K} {rank : K → γ}
    (h : ∀ a ∈ x.keys, ∀ b ∈ x.keys, lt a b = orderLt (rank a) (rank b)) :
    KeysRanked lt Prod.fst (fun p => rank p.1) x.items := fun a ha b hb =>
  h a.1 (List.mem_map_of_mem _ ha) b.1 (List.mem_map_of_mem _ hb)

/-- What a `min_*` helper returns, `out` reading the selected value as the helper gives it back:
`None` on the empty dict, and otherwise the value of the earliest of the items least by `r`. -/
def EarliestLeastValue (out : V → Option W) (r : K × V → γ) (x : PyDict K V)
    (res : Option W) : Prop :=
  x.items = [] ∧ res = none ∨ ∃ p, IsEarliestLeast r x.items p ∧ res = out p.2

/-- What a `max_*` helper returns: `None` on the empty dict, and otherwise the value of the
latest of the items greatest by `r`. -/
def LatestGreatestValue (out : V → Option W) (r : K × V → γ) (x : PyDict K V)
    (res : Option W) : Prop :=
  x.items = [] ∧ res = none ∨ ∃ p, IsLatestGreatest r x.items p ∧ res = out p.2

/-- A result that is `None` on the empty dict and otherwise read from the one item `sel` picks is
`None` exactly when the dict is empty or that item's value reads as `None`. -/
theorem eq_none_iff_of_selects {sel : K × V → Prop} {out : V → Option W} {res : Option W}
    (hsel : ∀ p q, sel p → sel q → p = q) (hmem : ∀ p, sel p → p ∈ x.items)
    (h : x.items = [] ∧ res = none ∨ ∃ p, sel p ∧ res = out p.2) :
    res = none ↔ x.items = [] ∨ ∃ p, sel p ∧ out p.2 = none := by
  rcases h with ⟨he, rfl⟩ | ⟨p, hp, rfl⟩
  · exact iff_of_true rfl (.inl he)
  · refine ⟨fun hn => .inr ⟨p, hp, hn⟩, ?_⟩
    rintro (he | ⟨q, hq, hn⟩)
    · exact absurd (hmem p hp) (by simp [he])
    · rwa [hsel p q hp hq]

variable {out : V → Option W} {r : K × V → γ} {res : Option W}

theorem EarliestLeastValue.eq_none_iff (h : EarliestLeastValue out r x res) :
    res = none ↔ x.items = [] ∨ ∃ p, IsEarliestLeast r x.items p ∧ out p.2 = none :=
  eq_none_iff_of_selects (fun _ _ => IsEarliestLeast.unique) (fun _ => IsEarliestLeast.mem) h

theorem LatestGreatestValue.eq_none_iff (h : LatestGreatestValue out r x res) :
    res = none ↔ x.items = [] ∨ ∃ p, IsLatestGreatest r x.items p ∧ out p.2 = none :=
  eq_none_iff_of_selects (fun _ _ => IsLatestGreatest.unique) (fun _ => IsLatestGreatest.mem) h

variable [DecidableEq K] {lt : PyLt β} {key : K × V → β}

/-- Rebuilding the dict from its sorted items keeps them, in order: their keys are distinct. -/
theorem sortedValues_eq (h : KeysRanked lt key r x.items) :
    ∃ ys, StableSorted r x.items ys ∧ sortedValues lt key x = .ok (ys.map Prod.snd) := by
  obtain ⟨ys, hys, hs⟩ := sorted_stableSorted r x.items h
  have hnodup : (ys.map Prod.fst).Nodup := (hs.perm.map Prod.fst).nodup_iff.mpr x.keys_nodup
  exact ⟨ys, hs, by simp [sortedValues, hys, Except.map, PyDict.values,
    PyDict.ofList_items hnodup]⟩

theorem earliestLeastValue_sortedValues (h : KeysRanked lt key r x.items) :
    ∃ vs, sortedValues lt key x = .ok vs ∧
      ∀ out : V → Option W, EarliestLeastValue out r x (vs.head?.bind out) := by
  obtain ⟨ys, hs, he⟩ := sortedValues_eq h
  refine ⟨_, he, fun out => ?_⟩
  cases ys with
  | nil => exact .inl ⟨List.perm_nil.mp hs.perm.symm, rfl⟩
  | cons p ys => exact .inr ⟨p, hs.head, rfl⟩

theorem latestGreatestValue_sortedValues (h : KeysRanked lt key r x.items) :
    ∃ vs, sortedValues lt key x = .ok vs ∧
      ∀ out : V → Option W, LatestGreatestValue out r x (vs.getLast?.bind out) := by
  obtain ⟨ys, hs, he⟩ := sortedValues_eq h
  refine ⟨_, he, fun out => ?_⟩
  rcases List.eq_nil_or_concat ys with rfl | ⟨ys, p, rfl⟩
  · exact .inl ⟨List.perm_nil.mp hs.perm.symm, rfl⟩
  · rw [List.concat_eq_append] at hs ⊢
    exact .inr ⟨p, hs.getLast, by simp⟩

section Values

variable (lt : PyLt V) (rank : V → γ) (x)
variable (h : ∀ a ∈ x.values, ∀ b ∈ x.values, lt a b = orderLt (rank a) (rank b))
include h

theorem minHashValueByValue_spec :
    ∃ res, minHashValueByValue lt x = .ok res ∧ EarliestLeastValue some (fun p => rank p.2) x res := by
  obtain ⟨vs, he, hv⟩ := earliestLeastValue_sortedValues (keysRanked_values h)
  refine ⟨_, by simp only [minHashValueByValue, he]; rfl, ?_⟩
  simpa only [Option.bind_some] using hv some

theorem maxHashValueByValue_spec :
    LatestGreatestValue some (fun p => rank p.2) x (maxHashValueByValue lt x) := by
  obtain ⟨vs, he, hv⟩ := latestGreatestValue_sortedValues (keysRanked_values h)
  simpa only [maxHashValueByValue, he, Option.bind_some] using hv some

end Values

/-- Values ranked by their tens: `7` and `3` tie as least, `25` and `21` as greatest. -/
example : minHashValueByValue (fun a b => orderLt (a / 10) (b / 10))
    ⟨[(1, 25), (2, 21), (3, 7), (4, 3)], by decide⟩ = .ok (some 7) := rfl

example : maxHashValueByValue (fun a b => orderLt (a / 10) (b / 10))
    (⟨[(1, 25), (2, 21), (3, 7), (4, 3)], by decide⟩ : PyDict Nat Nat) = some 21 := rfl

section Keys

variable (lt : PyLt K) (rank : K → γ) (x : PyDict K (Option V))
variable (h : ∀ a ∈ x.keys, ∀ b ∈ x.keys, lt a b = orderLt (rank a) (rank b))
include h

theorem minHashValueByKey_spec :
    ∃ res, minHashValueByKey lt x = .ok res ∧ EarliestLeastValue id (fun p => rank p.1) x res := by
  obtain ⟨vs, he, hv⟩ := earliestLeastValue_sortedValues (keysRanked_keys h)
  exact ⟨_, by simp only [minHashValueByKey, he]; rfl, hv id⟩

theorem maxHashValueByKey_spec :
    LatestGreatestValue id (fun p => rank p.1) x (maxHashValueByKey lt x) := by
  obtain ⟨vs, he, hv⟩ := latestGreatestValue_sortedValues (keysRanked_keys h)
  simpa only [maxHashValueByKey, he] using hv id

end Keys

/-- On a dict whose values are comparable, `min_hash_value_by_value` returns the
earliest-inserted of the least values and `max_hash_value_by_value` the latest-inserted of the
greatest, each `None` exactly on the empty dict; on a dict whose keys are comparable, the
`by_key` helpers return the value at the least or greatest key, `None` exactly on the empty dict
or when that value is `None`. -/
theorem hashValueHelpers_spec :
    (∀ (lt : PyLt V) (rank : V → γ) (x : PyDict K V),
      (∀ a ∈ x.values, ∀ b ∈ x.values, lt a b = orderLt (rank a) (rank b)) →
        (∃ res, minHashValueByValue lt x = .ok res ∧
          EarliestLeastValue some (fun p => rank p.2) x res ∧ (res = none ↔ x.items = [])) ∧
        LatestGreatestValue some (fun p => rank p.2) x (maxHashValueByValue lt x) ∧
          (maxHashValueByValue lt x = none ↔ x.items = [])) ∧
    (∀ (lt : PyLt K) (rank : K → γ) (x : PyDict K (Option V)),
      (∀ a ∈ x.keys, ∀ b ∈ x.keys, lt a b = orderLt (rank a) (rank b)) →
        (∃ res, minHashValueByKey lt x = .ok res ∧
          EarliestLeastValue id (fun p => rank p.1) x res ∧
          (res = none ↔
            x.items = [] ∨ ∃ p, IsEarliestLeast (fun p => rank p.1) x.items p ∧ p.2 = none)) ∧
        LatestGreatestValue id (fun p => rank p.1) x (maxHashValueByKey lt x) ∧
          (maxHashValueByKey lt x = none ↔
            x.items = [] ∨ ∃ p, IsLatestGreatest (fun p => rank p.1) x.items p ∧ p.2 = none)) := by
  constructor
  · intro lt rank x h
    obtain ⟨res, hmin, hres⟩ := minHashValueByValue_spec x lt rank h
    have hmax := maxHashValueByValue_spec x lt rank h
    exact ⟨⟨res, hmin, hres, by simpa using hres.eq_none_iff⟩, hmax,
      by simpa using hmax.eq_none_iff⟩
  · intro lt rank x h
    obtain ⟨res, hmin, hres⟩ := minHashValueByKey_spec lt rank x h
    have hmax := maxHashValueByKey_spec lt rank x h
    exact ⟨⟨res, hmin, hres, hres.eq_none_iff⟩, hmax, hmax.eq_none_iff⟩

end HashValue

/-- `{1: 5, 2: 3, 3: 3}` and `{2: None, 1: 5, 3: 3}`. -/
def threeItems : PyDict Nat Nat := ⟨[(1, 5), (2, 3), (3, 3)], by decide⟩

def threeKeyedItems : PyDict Nat (Option Nat) := ⟨[(2, none), (1, some 5), (3, some 3)], by decide⟩

theorem hashValueHelpers_threeItems :
    ((∀ a ∈ threeItems.values, ∀ b ∈ threeItems.values, orderLt a b = orderLt (id a) (id b)) ∧
      (∃ res, minHashValueByValue orderLt threeItems = .ok res ∧
        EarliestLeastValue some (fun p => id p.2) threeItems res ∧
        (res = none ↔ threeItems.items = [])) ∧
      LatestGreatestValue some (fun p => id p.2) threeItems (maxHashValueByValue orderLt threeItems) ∧
        (maxHashValueByValue orderLt threeItems = none ↔ threeItems.items = [])) ∧
    ((∀ a ∈ threeKeyedItems.keys, ∀ b ∈ threeKeyedItems.keys,
        orderLt a b = orderLt (id a) (id b)) ∧
      (∃ res, minHashValueByKey orderLt threeKeyedItems = .ok res ∧
        EarliestLeastValue id (fun p => id p.1) threeKeyedItems res ∧
        (res = none ↔ threeKeyedItems.items = [] ∨
          ∃ p, IsEarliestLeast (fun p => id p.1) threeKeyedItems.items p ∧ p.2 = none)) ∧
      LatestGreatestValue id (fun p => id p.1) threeKeyedItems
          (maxHashValueByKey orderLt threeKeyedItems) ∧
        (maxHashValueByKey orderLt threeKeyedItems = none ↔ threeKeyedItems.items = [] ∨
          ∃ p, IsLatestGreatest (fun p => id p.1) threeKeyedItems.items p ∧ p.2 = none)) :=
  ⟨⟨fun _ _ _ _ => rfl, hashValueHelpers_spec.1 orderLt id threeItems fun _ _ _ _ => rfl⟩,
    ⟨fun _ _ _ _ => rfl, hashValueHelpers_spec.2 orderLt id threeKeyedItems fun _ _ _ _ => rfl⟩⟩

/-- `{1: None}`: its one key is comparable, and both `by_key` helpers return `None`. -/
def noneValue : PyDict Nat (Option Nat) := ⟨[(1, none)], by decide⟩

theorem hashValueByKey_noneValue :
    noneValue.items ≠ [] ∧ minHashValueByKey orderLt noneValue = .ok none ∧
      maxHashValueByKey orderLt noneValue = none :=
  ⟨by decide, rfl, rfl⟩

end NetboxInit.Python
