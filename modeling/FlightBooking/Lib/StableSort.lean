import Mathlib.Data.List.Sort
import FlightBooking.Lib.Loops

/-!
# StableSort — what a stable sort does with ties

`list.sort` is stable, and so is `List.insertionSort`. Two consequences that
users of a sorted list rely on: items that tie stay in the order in which they
came, and taking items out before or after sorting makes no difference; it is enough
that the relation is an order of the items at hand. A sort by a key computes all keys
first, so it raises if the key of any item does; where no keys tie, the order in which
the items came makes no difference either.
-/

namespace StableSort

variable {α : Type*} {r s : α → α → Prop} [DecidableRel r]

/-! ## Sorting and filtering -/

variable [IsTrans α r]

theorem filter_orderedInsert (p : α → Bool) {a : α} {l : List α} (hl : l.Pairwise r) :
    (l.orderedInsert r a).filter p =
      if p a then (l.filter p).orderedInsert r a else l.filter p := by
  induction l with
  | nil => by_cases hp : p a <;> simp [hp]
  | cons b l ih =>
      obtain ⟨hb, hl'⟩ := List.pairwise_cons.mp hl
      by_cases hab : r a b
      · rw [List.orderedInsert_cons_of_le r l hab, List.filter_cons]
        -- `a` goes before all of the list, hence before what is left of it
        have hfirst : ((b :: l).filter p).orderedInsert r a = a :: (b :: l).filter p := by
          cases hrest : (b :: l).filter p with
          | nil => rfl
          | cons c rest =>
              have hc : c ∈ b :: l := by
                have hmem : c ∈ (b :: l).filter p := by simp [hrest]
                exact (List.mem_filter.mp hmem).1
              refine List.orderedInsert_cons_of_le r rest ?_
              rcases List.mem_cons.mp hc with rfl | hcl
              · exact hab
              · exact trans_of r hab (hb c hcl)
        rw [hfirst]
      · rw [List.orderedInsert_of_not_le r l hab, List.filter_cons, ih hl']
        by_cases hpa : p a <;> by_cases hpb : p b <;> simp [hpa, hpb, hab]

variable [Std.Total r]

/-- Filtering and sorting commute. -/
theorem filter_insertionSort (p : α → Bool) (l : List α) :
    (l.insertionSort r).filter p = (l.filter p).insertionSort r := by
  induction l with
  | nil => rfl
  | cons a l ih =>
      rw [List.insertionSort_cons, filter_orderedInsert p (List.pairwise_insertionSort r l), ih]
      by_cases hp : p a <;> simp [hp]

/-! ## The order of the result -/

/-- In order, and of two that tie the one that `s` puts first is first. -/
def InOrder (r s : α → α → Prop) (a b : α) : Prop := r a b ∧ (r b a → s a b)

theorem pairwise_orderedInsert {a : α} {l : List α} (hl : l.Pairwise (InOrder r s))
    (ha : ∀ b ∈ l, s a b) : (l.orderedInsert r a).Pairwise (InOrder r s) := by
  induction l with
  | nil => simp
  | cons b l ih =>
      obtain ⟨hb, hl'⟩ := List.pairwise_cons.mp hl
      by_cases hab : r a b
      · rw [List.orderedInsert_cons_of_le r l hab]
        refine List.pairwise_cons.mpr ⟨?_, hl⟩
        intro c hc
        refine ⟨?_, fun _ => ha c hc⟩
        rcases List.mem_cons.mp hc with rfl | hrest
        · exact hab
        · exact trans_of r hab (hb c hrest).1
      · rw [List.orderedInsert_of_not_le r l hab]
        refine List.pairwise_cons.mpr ⟨?_, ih hl' fun c hc => ha c (List.mem_cons_of_mem b hc)⟩
        intro c hc
        rcases (List.mem_orderedInsert r).mp hc with rfl | hrest
        · exact ⟨(total_of r b c).resolve_right hab, fun h => absurd h hab⟩
        · exact hb c hrest

/-- A list in the order of `s` comes out sorted, its ties still in that order. -/
theorem pairwise_insertionSort {l : List α} (hl : l.Pairwise s) :
    (l.insertionSort r).Pairwise (InOrder r s) := by
  induction l with
  | nil => simp
  | cons a l ih =>
      obtain ⟨ha, hl'⟩ := List.pairwise_cons.mp hl
      rw [List.insertionSort_cons]
      exact pairwise_orderedInsert (ih hl') fun b hb => ha b ((List.mem_insertionSort r).mp hb)

/-! ## An order of the items at hand -/

section OfKey

variable {r s : α → α → Prop} [DecidableRel r] {κ : Type*} [LinearOrder κ] {key : α → κ}
  {l : List α}

/-- Of the relation only matters what it says of the items. -/
theorem insertionSort_congr {r' : α → α → Prop} [DecidableRel r']
    (h : ∀ a ∈ l, ∀ b ∈ l, r a b ↔ r' a b) : l.insertionSort r = l.insertionSort r' := by
  simpa using List.map_insertionSort r r' id l h

/-- Where the items have sort keys, filtering and sorting commute. -/
theorem filter_insertionSort_of_key (hkey : ∀ a ∈ l, ∀ b ∈ l, r a b ↔ key a ≤ key b)
    (p : α → Bool) : (l.insertionSort r).filter p = (l.filter p).insertionSort r := by
  let byKey : α → α → Prop := fun a b => key a ≤ key b
  have : IsTrans α byKey := ⟨fun _ _ _ => le_trans⟩
  have : Std.Total byKey := ⟨fun a b => le_total (key a) (key b)⟩
  have hall : ∀ a ∈ l, ∀ b ∈ l, r a b ↔ byKey a b := hkey
  have hkept : ∀ a ∈ l.filter p, ∀ b ∈ l.filter p, r a b ↔ byKey a b :=
    fun a ha b hb => hkey a (List.mem_filter.mp ha).1 b (List.mem_filter.mp hb).1
  rw [insertionSort_congr hkept, insertionSort_congr hall]
  exact filter_insertionSort p l

theorem pairwise_insertionSort_of_key (hkey : ∀ a ∈ l, ∀ b ∈ l, r a b ↔ key a ≤ key b)
    (hl : l.Pairwise s) :
    (l.insertionSort r).Pairwise (InOrder r s) := by
  let byKey : α → α → Prop := fun a b => key a ≤ key b
  have : IsTrans α byKey := ⟨fun _ _ _ => le_trans⟩
  have : Std.Total byKey := ⟨fun a b => le_total (key a) (key b)⟩
  have hall : ∀ a ∈ l, ∀ b ∈ l, r a b ↔ byKey a b := hkey
  rw [insertionSort_congr hall]
  refine (pairwise_insertionSort hl).imp_of_mem ?_
  intro a b ha hb hab
  rw [List.mem_insertionSort] at ha hb
  exact ⟨(hkey a ha b hb).mpr hab.1, fun h => hab.2 ((hkey b hb a ha).mp h)⟩

end OfKey

/-- Items that come in a circle are in no arrangement in order. -/
theorem not_pairwise_of_circle {r : α → α → Prop} {l : List α} {a b c : α} (ha : a ∈ l)
    (hb : b ∈ l) (hc : c ∈ l) (hab : a ≠ b ∧ ¬ r b a) (hbc : b ≠ c ∧ ¬ r c b)
    (hca : c ≠ a ∧ ¬ r a c) : ¬ l.Pairwise r := by
  intro hsorted
  rw [List.pairwise_iff_getElem] at hsorted
  -- of two items of which the second may not come first, the first comes first
  have hfirst : ∀ {i j : Nat} (hi : i < l.length) (hj : j < l.length),
      l[i] ≠ l[j] ∧ ¬ r l[j] l[i] → i < j := by
    intro i j hi hj h
    rcases Nat.lt_trichotomy i j with hlt | heq | hgt
    · exact hlt
    · subst heq
      exact absurd rfl h.1
    · exact absurd (hsorted j i hj hi hgt) h.2
  obtain ⟨i, hi, rfl⟩ := List.getElem_of_mem ha
  obtain ⟨j, hj, rfl⟩ := List.getElem_of_mem hb
  obtain ⟨k, hk, rfl⟩ := List.getElem_of_mem hc
  have := hfirst hi hj hab
  have := hfirst hj hk hbc
  have := hfirst hk hi hca
  omega

/-! ## Sorting by a key -/

/-- `sorted(items, key=key)`. -/
def sortedByKey {ε α κ : Type} (key : α → Except ε κ) (le : κ → κ → Prop) [DecidableRel le]
    (items : List α) : Except ε (List α) := do
  let keyed ← items.mapM fun item => do return (← key item, item)
  return (keyed.insertionSort fun a b => le a.1 b.1).map Prod.snd

section ByKey

open Py

variable {ε α κ : Type} {key : α → Except ε κ} {items sorted : List α}

theorem keyed_of_mapM {keyed : List (κ × α)}
    (h : (items.mapM fun item => do return (← key item, item)) = .ok keyed) :
    keyed.map Prod.snd = items ∧ ∀ entry ∈ keyed, key entry.2 = .ok entry.1 := by
  rw [mapM_eq_ok_iff] at h
  induction h with
  | nil => simp
  | @cons item entry items keyed hentry _ ih =>
      obtain ⟨k, hk, hentry⟩ := bind_eq_ok hentry
      obtain rfl := Except.ok.inj hentry
      exact ⟨congrArg (item :: ·) ih.1, List.forall_mem_cons.mpr ⟨hk, ih.2⟩⟩

variable {le : κ → κ → Prop} [DecidableRel le]

/-- A sort returns if every item has a key. -/
theorem sortedByKey_ok_iff :
    (∃ sorted, sortedByKey key le items = .ok sorted) ↔ ∀ item ∈ items, ∃ k, key item = .ok k := by
  have hkeyed : (∃ keyed, (items.mapM fun item => do return (← key item, item)) = .ok keyed) ↔
      ∀ item ∈ items, ∃ k, key item = .ok k := by
    rw [mapM_ok_iff]
    refine forall₂_congr fun item _ => ?_
    constructor
    · rintro ⟨entry, h⟩
      obtain ⟨k, hk, -⟩ := bind_eq_ok h
      exact ⟨k, hk⟩
    · rintro ⟨k, hk⟩
      exact ⟨_, bind_ok hk _⟩
  rw [← hkeyed]
  constructor
  · rintro ⟨sorted, h⟩
    obtain ⟨keyed, hk, -⟩ := bind_eq_ok h
    exact ⟨keyed, hk⟩
  · rintro ⟨keyed, hk⟩
    exact ⟨_, bind_ok hk _⟩

theorem sortedByKey_perm (h : sortedByKey key le items = .ok sorted) : sorted.Perm items := by
  obtain ⟨keyed, hkeyed, h⟩ := bind_eq_ok h
  obtain rfl := Except.ok.inj h
  have hperm := (List.perm_insertionSort (fun a b : κ × α => le a.1 b.1) keyed).map Prod.snd
  rwa [(keyed_of_mapM hkeyed).1] at hperm

variable [Std.Total le] [IsTrans κ le]

/-- The keys of the result are in order. -/
theorem sortedByKey_pairwise (h : sortedByKey key le items = .ok sorted) :
    sorted.Pairwise fun a b => ∃ k k', key a = .ok k ∧ key b = .ok k' ∧ le k k' := by
  obtain ⟨keyed, hkeyed, h⟩ := bind_eq_ok h
  obtain rfl := Except.ok.inj h
  let byKey : κ × α → κ × α → Prop := fun a b => le a.1 b.1
  have : Std.Total byKey := ⟨fun a b => total_of le a.1 b.1⟩
  have : IsTrans (κ × α) byKey := ⟨fun _ _ _ hab hbc => trans_of le hab hbc⟩
  have hkeys := (keyed_of_mapM hkeyed).2
  refine List.pairwise_map.mpr ((List.pairwise_insertionSort byKey keyed).imp_of_mem ?_)
  intro a b ha hb hab
  exact ⟨a.1, b.1, hkeys a ((List.mem_insertionSort byKey).mp ha),
    hkeys b ((List.mem_insertionSort byKey).mp hb), hab⟩

/-- Where only equal items have keys that tie, the result depends on the items alone. -/
theorem sortedByKey_eq_of_perm {items' : List α} (hperm : items.Perm items')
    (hties : ∀ a ∈ items, ∀ b ∈ items, ∀ k k', key a = .ok k → key b = .ok k' →
      le k k' → le k' k → a = b) (h : sortedByKey key le items = .ok sorted) :
    sortedByKey key le items' = .ok sorted := by
  have hkeys := sortedByKey_ok_iff.mp ⟨sorted, h⟩
  obtain ⟨sorted', h'⟩ : ∃ sorted', sortedByKey key le items' = .ok sorted' :=
    sortedByKey_ok_iff.mpr fun item hitem => hkeys item (hperm.mem_iff.mpr hitem)
  have hsame : sorted.Perm sorted' :=
    ((sortedByKey_perm h).trans hperm).trans (sortedByKey_perm h').symm
  rw [h', hsame.eq_of_pairwise ?_ (sortedByKey_pairwise h) (sortedByKey_pairwise h')]
  rintro a b ha hb ⟨k, k', hka, hkb, hle⟩ ⟨k₂', k₂, hkb', hka', hge⟩
  obtain rfl := Except.ok.inj (hka.symm.trans hka')
  obtain rfl := Except.ok.inj (hkb.symm.trans hkb')
  have hb' : b ∈ items := hperm.mem_iff.mpr ((sortedByKey_perm h').subset hb)
  exact hties a ((sortedByKey_perm h).subset ha) b hb' k k' hka hkb hle hge

end ByKey

end StableSort
