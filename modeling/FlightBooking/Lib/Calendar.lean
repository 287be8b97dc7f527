import Mathlib.Data.List.Basic
import Mathlib.Order.Basic
import FlightBooking.Lib.DateTime

/-!
# Calendar — the text of a date says which day it is

The day count can be computed back from year, month and day, and these can be read back
from `YYYY-MM-DD`. So two days with one text are the same day, in the years that the
text has a place for.
-/

namespace Py

namespace DateTime

/-! ## Padded numbers -/

theorem toList_pad (width n : Nat) :
    (pad width n).toList =
      List.replicate (width - (Nat.toDigits 10 n).length) '0' ++ Nat.toDigits 10 n := by
  simp [pad]

theorem isDigit_of_mem_pad {width n : Nat} {ch : Char} (h : ch ∈ (pad width n).toList) :
    ch.isDigit = true := by
  rw [toList_pad, List.mem_append] at h
  rcases h with hzero | hdigit
  · rw [List.eq_of_mem_replicate hzero]
    decide
  · exact Nat.isDigit_of_mem_toDigits (by decide) (by decide) hdigit

/-- The zeros in front do not change the number. -/
theorem ofDigitChars_pad (width n : Nat) : Nat.ofDigitChars 10 (pad width n).toList 0 = n := by
  rw [toList_pad, Nat.ofDigitChars_append, Nat.ofDigitChars_replicate_zero, Nat.mul_zero,
    Nat.ofDigitChars_ten_toDigits]

theorem pad_injective (width : Nat) : Function.Injective (pad width) := by
  intro a b h
  rw [← ofDigitChars_pad width a, h, ofDigitChars_pad]

/-! ## The years of an era -/

/-- The year in which a day of the era lies. -/
def yearOfEra (doe : Nat) : Nat := (doe - doe / 1460 + doe / 36524 - doe / 146096) / 365

/-- The first day of a year of the era. -/
def startOfYear (yoe : Nat) : Nat := 365 * yoe + yoe / 4 - yoe / 100

theorem yearOfEra_lt {doe : Nat} (h : doe < 146097) : yearOfEra doe < 400 := by
  unfold yearOfEra
  omega

theorem yearOfEra_mono {a b : Nat} (h : a ≤ b) (hb : b < 146097) :
    yearOfEra a ≤ yearOfEra b := by
  have hleap : a - a / 1460 ≤ b - b / 1460 := by omega
  have hcentury : a / 36524 - a / 146096 ≤ b / 36524 - b / 146096 := by omega
  refine Nat.div_le_div_right ?_
  omega

/-- The day before a year lies in an earlier one, the day 366 days later in a later. -/
theorem year_borders :
    (∀ y < 400, y ≠ 0 → yearOfEra (startOfYear y - 1) < y) ∧
      ∀ y < 399, y < yearOfEra (startOfYear y + 366) := by
  decide +kernel

/-- A day lies in its year: not before its start, and at most 365 days after. -/
theorem startOfYear_yearOfEra {doe : Nat} (h : doe < 146097) :
    startOfYear (yearOfEra doe) ≤ doe ∧ doe ≤ startOfYear (yearOfEra doe) + 365 := by
  have hlt := yearOfEra_lt h
  constructor
  · by_contra hbefore
    have hne : yearOfEra doe ≠ 0 := by
      intro hzero
      rw [hzero] at hbefore
      exact hbefore (Nat.zero_le _)
    have hprev := year_borders.1 _ hlt hne
    have hmono : yearOfEra doe ≤ yearOfEra (startOfYear (yearOfEra doe) - 1) :=
      yearOfEra_mono (by omega) (by unfold startOfYear; omega)
    omega
  · by_contra hafter
    by_cases hlast : yearOfEra doe = 399
    · rw [hlast] at hafter
      simp only [startOfYear] at hafter
      omega
    · have hnext := year_borders.2 (yearOfEra doe) (by omega)
      have hmono : yearOfEra (startOfYear (yearOfEra doe) + 366) ≤ yearOfEra doe :=
        yearOfEra_mono (by omega) h
      omega

/-! ## Day counts -/

/-- The day count of a year, month and day. -/
def ofCivil (date : Int × Nat × Nat) : Int :=
  let (y, m, d) := date
  let y := y - if m ≤ 2 then 1 else 0
  let mp := if m ≤ 2 then m + 9 else m - 3
  y / 400 * 146097 + (startOfYear (y % 400).toNat + (153 * mp + 2) / 5 + (d - 1) : Nat) - 719468

/-- From a day of an era: the date in the calendar that begins in March, and its month. -/
theorem civil_eq (days : Int) :
    let doe := ((days + 719468) % 146097).toNat
    let doy := doe - startOfYear (yearOfEra doe)
    let mp := (5 * doy + 2) / 153
    let month := if mp < 10 then mp + 3 else mp - 9
    civil days =
      ((yearOfEra doe : Int) + (days + 719468) / 146097 * 400 + (if month ≤ 2 then 1 else 0),
        month, doy - (153 * mp + 2) / 5 + 1) :=
  rfl

/-- **A date is counted back to its day.** -/
theorem ofCivil_civil (days : Int) : ofCivil (civil days) = days := by
  have hdoe : ((days + 719468) % 146097).toNat < 146097 := by omega
  rw [civil_eq]
  generalize hday : ((days + 719468) % 146097).toNat = doe at hdoe
  obtain ⟨hstart, hend⟩ := startOfYear_yearOfEra hdoe
  have hyear := yearOfEra_lt hdoe
  have hdays : days = (days + 719468) / 146097 * 146097 + doe - 719468 := by omega
  generalize (days + 719468) / 146097 = era at *
  generalize hyoe : yearOfEra doe = yoe at *
  generalize hdoy : doe - startOfYear yoe = doy
  generalize hmp : (5 * doy + 2) / 153 = mp
  have hdoe' : doe = startOfYear yoe + doy := by omega
  have hmonth : mp ≤ 11 := by omega
  have hfirst : (153 * mp + 2) / 5 ≤ doy := by omega
  -- the month of the year that begins in March
  have hback : ∀ month, month = (if mp < 10 then mp + 3 else mp - 9) →
      (if month ≤ 2 then month + 9 else month - 3) = mp := by
    intro month hm
    split at hm <;> split <;> omega
  generalize hm : (if mp < 10 then mp + 3 else mp - 9) = month
  have hera : ((yoe : Int) + era * 400) / 400 = era := by omega
  have hyoe' : (((yoe : Int) + era * 400) % 400).toNat = yoe := by omega
  unfold ofCivil
  simp only [hback month hm.symm, Int.add_sub_cancel, hera, hyoe', Nat.add_sub_cancel]
  rw [hdays, hdoe']
  omega

theorem civil_injective : Function.Injective civil :=
  Function.LeftInverse.injective ofCivil_civil

/-! ## Dates as text -/

/-- The years that have a place in a date: Python's `date` has 1 to 9999. -/
def Representable (days : Int) : Prop := 1 ≤ (civil days).1 ∧ (civil days).1 ≤ 9999

instance (days : Int) : Decidable (Representable days) :=
  inferInstanceAs (Decidable (_ ∧ _))

/-- So are the days from 0001-01-01 to 9999-12-31. -/
theorem representable_of_days {days : Int} (hfirst : -719162 ≤ days) (hlast : days ≤ 2932896) :
    Representable days := by
  have hdoe : ((days + 719468) % 146097).toNat < 146097 := by omega
  rw [Representable, civil_eq]
  generalize hday : ((days + 719468) % 146097).toNat = doe at hdoe
  obtain ⟨hstart, hend⟩ := startOfYear_yearOfEra hdoe
  have hyear := yearOfEra_lt hdoe
  generalize yearOfEra doe = yoe at *
  unfold startOfYear at *
  constructor
  · by_cases hfirstYear : yoe = 0 ∧ (days + 719468) / 146097 = 0
    · -- the first year of the first era: from January on the date belongs to year 1
      simp only [hfirstYear.1, hfirstYear.2]
      split <;> omega
    · have : 0 ≤ (days + 719468) / 146097 := by omega
      split <;> omega
  · by_cases hlastYear : yoe = 399 ∧ (days + 719468) / 146097 = 24
    · simp only [hlastYear.1, hlastYear.2]
      split <;> omega
    · have : (days + 719468) / 146097 ≤ 24 := by omega
      split <;> omega

theorem dash_notMem_pad (width n : Nat) : '-' ∉ (pad width n).toList := by
  intro h
  have hdigit := isDigit_of_mem_pad h
  revert hdigit
  decide

/-- A text is cut at its first separator in one way. -/
theorem cut_unique {α : Type} {sep : α} {xs ys us vs : List α} (hx : sep ∉ xs) (hy : sep ∉ ys)
    (h : xs ++ sep :: us = ys ++ sep :: vs) : xs = ys ∧ us = vs := by
  induction xs generalizing ys with
  | nil =>
      cases ys with
      | nil => exact ⟨rfl, (List.cons.inj h).2⟩
      | cons y ys => exact absurd ((List.cons.inj h).1 ▸ List.mem_cons_self) hy
  | cons x xs ih =>
      cases ys with
      | nil => exact absurd ((List.cons.inj h).1 ▸ List.mem_cons_self) hx
      | cons y ys =>
          obtain ⟨hhead, htail⟩ := List.cons.inj h
          obtain ⟨hxs, hus⟩ := ih (fun hm => hx (List.mem_cons_of_mem _ hm))
            (fun hm => hy (List.mem_cons_of_mem _ hm)) htail
          exact ⟨by rw [hhead, hxs], hus⟩

/-- **The text of a date says the day.** -/
theorem isoDate_injective {a b : Int} (ha : Representable a) (hb : Representable b)
    (h : isoDate a = isoDate b) : a = b := by
  refine civil_injective ?_
  obtain ⟨ha, -⟩ := ha
  obtain ⟨hb, -⟩ := hb
  unfold isoDate at h
  generalize civil a = x at *
  generalize civil b = y at *
  obtain ⟨year, month, day⟩ := x
  obtain ⟨year', month', day'⟩ := y
  have hlists := congrArg String.toList h
  have hdash : "-".toList = ['-'] := by decide
  simp only [String.toList_append, List.append_assoc, hdash, List.cons_append,
    List.nil_append] at hlists
  obtain ⟨hyears, hrest⟩ := cut_unique (dash_notMem_pad _ _) (dash_notMem_pad _ _) hlists
  obtain ⟨hmonths, hdays⟩ := cut_unique (dash_notMem_pad _ _) (dash_notMem_pad _ _) hrest
  have hyear := pad_injective 4 (String.toList_injective hyears)
  have hmonth := pad_injective 2 (String.toList_injective hmonths)
  have hday := pad_injective 2 (String.toList_injective hdays)
  simp only at ha hb
  rw [hmonth, hday, show year = year' by omega]

end DateTime

end Py
