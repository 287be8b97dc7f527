import Mathlib.Data.List.Basic
import Mathlib.Data.List.Induction
import Mathlib.Data.List.Nodup

/-!
# Dict — insertion-ordered dictionaries

Python's `dict` as an association list that carries the distinctness of its
keys. Overwriting keeps the key's position, a new key goes to the end, `pop`
closes the gap: iteration order is therefore part of the value, which is why
`AList` (whose `insert` moves the key to the front) is not used here.
-/

namespace Py

/-- A dictionary: its entries in iteration order, each key once. -/
structure Dict (κ ν : Type*) where
  entries : List (κ × ν)
  nodupKeys : (entries.map Prod.fst).Nodup
deriving DecidableEq

namespace Dict

variable {κ ν : Type*}

/-- `{}`. -/
def empty : Dict κ ν := ⟨[], List.nodup_nil⟩

/-- `list(d)`. -/
def keys (d : Dict κ ν) : List κ := d.entries.map Prod.fst

/-- `list(d.values())`. -/
def values (d : Dict κ ν) : List ν := d.entries.map Prod.snd

/-- `len(d)`. -/
def size (d : Dict κ ν) : Nat := d.entries.length

@[simp] theorem values_empty : (empty : Dict κ ν).values = [] := rfl

@[simp] theorem keys_empty : (empty : Dict κ ν).keys = [] := rfl

variable [DecidableEq κ]

/-- `d.get(k)`. -/
def get? (d : Dict κ ν) (k : κ) : Option ν := d.entries.lookup k

/-- The entry list after `d[k] = v`: the first entry of `k` is overwritten in
place, and a key that is not there is appended. -/
def setEntries : List (κ × ν) → κ → ν → List (κ × ν)
  | [], k, v => [(k, v)]
  | (k', v') :: rest, k, v =>
      if k' = k then (k, v) :: rest else (k', v') :: setEntries rest k v

theorem map_fst_setEntries (l : List (κ × ν)) (k : κ) (v : ν) :
    (setEntries l k v).map Prod.fst =
      if k ∈ l.map Prod.fst then l.map Prod.fst else l.map Prod.fst ++ [k] := by
  induction l with
  | nil => simp [setEntries]
  | cons e rest ih =>
      obtain ⟨k', v'⟩ := e
      by_cases hk : k' = k
      · simp [setEntries, hk]
      · have hk' : ¬ k = k' := fun h => hk h.symm
        simp only [setEntries, if_neg hk, List.map_cons, ih, List.mem_cons, hk', false_or]
        split <;> simp

/-- `d[k] = v`. -/
def set (d : Dict κ ν) (k : κ) (v : ν) : Dict κ ν where
  entries := setEntries d.entries k v
  nodupKeys := by
    rw [map_fst_setEntries]
    split
    · exact d.nodupKeys
    · rename_i hk
      rw [← List.concat_eq_append]
      exact d.nodupKeys.concat hk

/-- `d.pop(k, None)`, the dictionary that is left. -/
def erase (d : Dict κ ν) (k : κ) : Dict κ ν where
  entries := d.entries.filter (fun e => e.1 ≠ k)
  nodupKeys := d.nodupKeys.sublist (List.filter_sublist.map _)

/-! ## Lookup -/

theorem mem_of_lookup {l : List (κ × ν)} {k : κ} {v : ν}
    (h : l.lookup k = some v) : (k, v) ∈ l := by
  induction l with
  | nil => simp at h
  | cons e rest ih =>
      obtain ⟨k', v'⟩ := e
      by_cases hk : k = k'
      · subst hk
        simp only [List.lookup_cons_self, Option.some.injEq] at h
        simp [h]
      · rw [List.lookup_cons, beq_eq_false_iff_ne.mpr hk] at h
        exact List.mem_cons_of_mem _ (ih h)

theorem lookup_of_mem {l : List (κ × ν)} {k : κ} {v : ν}
    (hn : (l.map Prod.fst).Nodup) (h : (k, v) ∈ l) : l.lookup k = some v := by
  induction l with
  | nil => simp at h
  | cons e rest ih =>
      obtain ⟨k', v'⟩ := e
      simp only [List.map_cons, List.nodup_cons] at hn
      rcases List.mem_cons.mp h with he | hr
      · cases he
        simp
      · have hk : k ≠ k' := by
          rintro rfl
          exact hn.1 (List.mem_map.mpr ⟨(k, v), hr, rfl⟩)
        rw [List.lookup_cons, beq_eq_false_iff_ne.mpr hk]
        exact ih hn.2 hr

theorem get?_eq_some_iff {d : Dict κ ν} {k : κ} {v : ν} :
    d.get? k = some v ↔ (k, v) ∈ d.entries :=
  ⟨mem_of_lookup, lookup_of_mem d.nodupKeys⟩

theorem get?_eq_none_iff {d : Dict κ ν} {k : κ} :
    d.get? k = none ↔ k ∉ d.keys := by
  constructor
  · intro h hk
    obtain ⟨⟨k', v⟩, hm, rfl⟩ := List.mem_map.mp hk
    rw [get?_eq_some_iff.mpr hm] at h
    cases h
  · intro hk
    cases h : d.get? k with
    | none => rfl
    | some v =>
        exact absurd (List.mem_map.mpr ⟨(k, v), get?_eq_some_iff.mp h, rfl⟩) hk

theorem mem_values_iff {d : Dict κ ν} {v : ν} :
    v ∈ d.values ↔ ∃ k, d.get? k = some v := by
  constructor
  · intro h
    obtain ⟨⟨k, v'⟩, hm, rfl⟩ := List.mem_map.mp h
    exact ⟨k, get?_eq_some_iff.mpr hm⟩
  · intro hvalue
    obtain ⟨k, hk⟩ := hvalue
    exact List.mem_map.mpr ⟨(k, v), get?_eq_some_iff.mp hk, rfl⟩

/-- Dictionaries that agree on every key have the same entries, in whatever order. -/
theorem entries_perm_of_get?_eq {d d' : Dict κ ν} (h : ∀ k, d.get? k = d'.get? k) :
    d.entries.Perm d'.entries := by
  have hnodup : ∀ d : Dict κ ν, d.entries.Nodup := fun d => List.Nodup.of_map _ d.nodupKeys
  refine (List.perm_ext_iff_of_nodup (hnodup d) (hnodup d')).mpr ?_
  rintro ⟨k, v⟩
  rw [← get?_eq_some_iff, ← get?_eq_some_iff, h k]

theorem values_perm_of_get?_eq {d d' : Dict κ ν} (h : ∀ k, d.get? k = d'.get? k) :
    d.values.Perm d'.values :=
  (entries_perm_of_get?_eq h).map Prod.snd

theorem get?_eq_of_entries_perm {d d' : Dict κ ν} (h : d.entries.Perm d'.entries) (k : κ) :
    d.get? k = d'.get? k := by
  apply Option.ext
  intro v
  rw [get?_eq_some_iff, get?_eq_some_iff, h.mem_iff]

@[simp] theorem get?_empty (k : κ) : (empty : Dict κ ν).get? k = none := rfl

/-- Where every value knows its key, the keys are those of the values, in order. -/
theorem map_key_values {d : Dict κ ν} {key : ν → κ} (h : ∀ k v, d.get? k = some v → key v = k) :
    d.values.map key = d.keys := by
  unfold values keys
  rw [List.map_map]
  exact List.map_congr_left fun entry hentry => h entry.1 entry.2 (get?_eq_some_iff.mpr hentry)

/-! ## Update -/

theorem lookup_setEntries (l : List (κ × ν)) (k k' : κ) (v : ν) :
    (setEntries l k v).lookup k' = if k = k' then some v else l.lookup k' := by
  induction l with
  | nil =>
      by_cases h : k = k'
      · simp [setEntries, h]
      · simp [setEntries, h, List.lookup_cons, beq_eq_false_iff_ne.mpr (Ne.symm h)]
  | cons e rest ih =>
      obtain ⟨k₀, v₀⟩ := e
      by_cases h0 : k₀ = k
      · subst h0
        by_cases h : k₀ = k'
        · subst h
          simp [setEntries]
        · simp [setEntries, h, List.lookup_cons, beq_eq_false_iff_ne.mpr (Ne.symm h)]
      · by_cases h : k' = k₀
        · subst h
          have h' : ¬ k = k' := fun e => h0 e.symm
          simp [setEntries, h0, h']
        · simp [setEntries, h0, List.lookup_cons, beq_eq_false_iff_ne.mpr h, ih]

theorem get?_set (d : Dict κ ν) (k k' : κ) (v : ν) :
    (d.set k v).get? k' = if k = k' then some v else d.get? k' :=
  lookup_setEntries d.entries k k' v

@[simp] theorem get?_set_self (d : Dict κ ν) (k : κ) (v : ν) :
    (d.set k v).get? k = some v := by simp [get?_set]

theorem get?_set_ne (d : Dict κ ν) {k k' : κ} (v : ν) (h : k ≠ k') :
    (d.set k v).get? k' = d.get? k' := by simp [get?_set, h]

theorem get?_set_eq_some_iff {d : Dict κ ν} {k k' : κ} {v v' : ν} :
    (d.set k v).get? k' = some v' ↔ (k = k' ∧ v = v') ∨ (k ≠ k' ∧ d.get? k' = some v') := by
  rw [get?_set]
  by_cases h : k = k' <;> simp [h]

/-- One value under many keys. -/
theorem get?_foldl_set (ks : List κ) (v : ν) (d : Dict κ ν) (k : κ) :
    (ks.foldl (fun d k => d.set k v) d).get? k = if k ∈ ks then some v else d.get? k := by
  induction ks generalizing d with
  | nil => simp
  | cons k' ks ih =>
      rw [List.foldl_cons, ih, get?_set]
      by_cases hm : k ∈ ks
      · simp [hm]
      · by_cases hk : k = k'
        · simp [hk]
        · have hk' : ¬ k' = k := fun h => hk h.symm
          simp [hm, hk, hk']

/-- `{key(v): v for v in vs}`: of two values with one key the later one stays. -/
def index (key : ν → κ) (vs : List ν) : Dict κ ν := vs.foldl (fun d v => d.set (key v) v) empty

theorem get?_foldl_index {key : ν → κ} {vs : List ν} {v : ν} (hn : (vs.map key).Nodup)
    (hv : v ∈ vs) (d : Dict κ ν) :
    (vs.foldl (fun d v => d.set (key v) v) d).get? (key v) = some v := by
  have hkeep : ∀ (vs : List ν) (d : Dict κ ν) (k : κ), k ∉ vs.map key →
      (vs.foldl (fun d v => d.set (key v) v) d).get? k = d.get? k := by
    intro vs
    induction vs with
    | nil => intro d k _; rfl
    | cons v vs ih =>
        intro d k hk
        rw [List.map_cons, List.mem_cons, not_or] at hk
        rw [List.foldl_cons, ih _ k hk.2, get?_set_ne _ _ (Ne.symm hk.1)]
  induction vs generalizing d with
  | nil => simp at hv
  | cons v' vs ih =>
      rw [List.map_cons, List.nodup_cons] at hn
      rw [List.foldl_cons]
      rcases List.mem_cons.mp hv with rfl | hrest
      · rw [hkeep vs _ _ hn.1, get?_set_self]
      · exact ih hn.2 hrest _

theorem get?_index {key : ν → κ} {vs : List ν} {v : ν} (hn : (vs.map key).Nodup)
    (hv : v ∈ vs) : (index key vs).get? (key v) = some v :=
  get?_foldl_index hn hv empty

/-- Every value of an index is one of the values, under its key. -/
theorem mem_of_get?_index {key : ν → κ} {vs : List ν} {k : κ} {v : ν}
    (h : (index key vs).get? k = some v) : key v = k ∧ v ∈ vs := by
  induction vs using List.reverseRec with
  | nil => cases h
  | append_singleton vs last ih =>
      rw [index, List.foldl_append, List.foldl_cons, List.foldl_nil,
        get?_set_eq_some_iff] at h
      rcases h with ⟨hk, rfl⟩ | ⟨-, h⟩
      · exact ⟨hk, by simp⟩
      · obtain ⟨hk, hv⟩ := ih h
        exact ⟨hk, by simp [hv]⟩

theorem setEntries_fresh {l : List (κ × ν)} {k : κ} (h : k ∉ l.map Prod.fst) (v : ν) :
    setEntries l k v = l ++ [(k, v)] := by
  induction l with
  | nil => rfl
  | cons e rest ih =>
      obtain ⟨k', v'⟩ := e
      simp only [List.map_cons, List.mem_cons, not_or] at h
      have hk : ¬ k' = k := fun e => h.1 e.symm
      rw [setEntries, if_neg hk, ih h.2]
      rfl

/-- A key that is not there is appended: the values get one more at the end. -/
theorem values_set_fresh {d : Dict κ ν} {k : κ} (h : d.get? k = none) (v : ν) :
    (d.set k v).values = d.values ++ [v] := by
  have hk : k ∉ d.entries.map Prod.fst := get?_eq_none_iff.mp h
  simp [values, set, setEntries_fresh hk]

@[simp] theorem filter_true (v? : Option ν) : (v?.filter fun _ => true) = v? := by
  cases v? <;> rfl

/-- What a filter leaves of a dictionary, key by key. -/
theorem get?_of_entries_filter {d d' : Dict κ ν} {p : κ × ν → Bool}
    (h : d'.entries = d.entries.filter p) (k : κ) :
    d'.get? k = (d.get? k).filter fun v => p (k, v) := by
  apply Option.ext
  intro v
  rw [get?_eq_some_iff, h, List.mem_filter, ← get?_eq_some_iff, Option.filter_eq_some_iff]

theorem get?_erase (d : Dict κ ν) (k k' : κ) :
    (d.erase k).get? k' = if k = k' then none else d.get? k' := by
  rw [get?_of_entries_filter (d := d) rfl]
  by_cases h : k = k'
  · simp [h]
  · simp [h, Ne.symm h]

@[simp] theorem get?_erase_self (d : Dict κ ν) (k : κ) : (d.erase k).get? k = none := by
  simp [get?_erase]

theorem get?_erase_ne (d : Dict κ ν) {k k' : κ} (h : k ≠ k') :
    (d.erase k).get? k' = d.get? k' := by simp [get?_erase, h]

end Dict

end Py
