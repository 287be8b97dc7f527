import Mathlib.Data.List.TakeWhile
import FlightBooking.Lib.Loops

/-!
# Digits — `str.isdigit` and `int` of a text

Both go by the Unicode character database. A decimal digit is one of ten in a row
that stand for 0 to 9; `isdigit` holds of these and of others, superscripts and
circled digits among them, which `int` does not read. The tables are those of
Unicode 16, the version of Python 3.14.
-/

namespace Py

/-- The zeros of the runs of ten decimal digits. -/
def decimalZeros : List Nat :=
  [0x30, 0x660, 0x6f0, 0x7c0, 0x966, 0x9e6, 0xa66, 0xae6, 0xb66, 0xbe6, 0xc66, 0xce6, 0xd66,
    0xde6, 0xe50, 0xed0, 0xf20, 0x1040, 0x1090, 0x17e0, 0x1810, 0x1946, 0x19d0, 0x1a80, 0x1a90,
    0x1b50, 0x1bb0, 0x1c40, 0x1c50, 0xa620, 0xa8d0, 0xa900, 0xa9d0, 0xa9f0, 0xaa50, 0xabf0,
    0xff10, 0x104a0, 0x10d30, 0x10d40, 0x11066, 0x110f0, 0x11136, 0x111d0, 0x112f0, 0x11450,
    0x114d0, 0x11650, 0x116c0, 0x116d0, 0x116da, 0x11730, 0x118e0, 0x11950, 0x11bf0, 0x11c50,
    0x11d50, 0x11da0, 0x11f50, 0x16130, 0x16a60, 0x16ac0, 0x16b50, 0x16d70, 0x1ccf0, 0x1d7ce,
    0x1d7d8, 0x1d7e2, 0x1d7ec, 0x1d7f6, 0x1e140, 0x1e2f0, 0x1e4f0, 0x1e5f1, 0x1e950, 0x1fbf0]

/-- First and last of the digits that are not decimal. -/
def otherDigits : List (Nat × Nat) :=
  [(0xb2, 0xb3), (0xb9, 0xb9), (0x1369, 0x1371), (0x19da, 0x19da), (0x2070, 0x2070),
    (0x2074, 0x2079), (0x2080, 0x2089), (0x2460, 0x2468), (0x2474, 0x247c), (0x2488, 0x2490),
    (0x24ea, 0x24ea), (0x24f5, 0x24fd), (0x24ff, 0x24ff), (0x2776, 0x277e), (0x2780, 0x2788),
    (0x278a, 0x2792), (0x10a40, 0x10a43), (0x10e60, 0x10e68), (0x11052, 0x1105a),
    (0x1f100, 0x1f10a)]

/-- The value of a decimal digit. -/
def decimal? (c : Char) : Option Nat :=
  (decimalZeros.find? fun first => first ≤ c.toNat && c.toNat < first + 10).map (c.toNat - ·)

/-- `c.isdigit()`. -/
def isDigit (c : Char) : Bool :=
  (decimal? c).isSome || otherDigits.any fun run => run.1 ≤ c.toNat && c.toNat ≤ run.2

/-- `sys.get_int_max_str_digits()`. -/
def intMaxStrDigits : Nat := 4300

/-- `int(text)` of a text of digits: the number, or the message of the `ValueError`. -/
def intOfDigits (text : List Char) : Except String Nat :=
  -- the length is looked at before what comes after the decimal digits
  let leading := (text.takeWhile fun c => (decimal? c).isSome).length
  if intMaxStrDigits < leading then
    .error ("Exceeds the limit (4300 digits) for integer string conversion: value has " ++
      toString leading ++ " digits; use sys.set_int_max_str_digits() to increase the limit")
  else
    match text.mapM decimal? with
    | some digits => .ok (digits.foldl (fun n d => 10 * n + d) 0)
    | none => .error ("invalid literal for int() with base 10: " ++
        String.ofList (('\'' :: text ++ ['\'']).take 200))

/-! ## When a text is read -/

theorem decimal_mapM_isSome_iff {text : List Char} :
    (text.mapM decimal?).isSome ↔ ∀ c ∈ text, (decimal? c).isSome := by
  induction text with
  | nil => simp
  | cons c text ih =>
      rw [List.mapM_cons, List.forall_mem_cons, ← ih]
      cases decimal? c with
      | none => simp
      | some d => cases text.mapM decimal? <;> simp

/-- A text of digits is read if they are decimal, and not too many. -/
theorem intOfDigits_ok_iff {text : List Char} :
    (∃ n, intOfDigits text = .ok n) ↔
      text.length ≤ intMaxStrDigits ∧ ∀ c ∈ text, (decimal? c).isSome := by
  rw [← decimal_mapM_isSome_iff]
  unfold intOfDigits
  dsimp only
  by_cases hall : (text.mapM decimal?).isSome
  · have hlead : text.takeWhile (fun c => (decimal? c).isSome) = text :=
      List.takeWhile_eq_self_iff.mpr (decimal_mapM_isSome_iff.mp hall)
    rw [hlead]
    obtain ⟨digits, hdigits⟩ := Option.isSome_iff_exists.mp hall
    rw [hdigits]
    by_cases hlong : intMaxStrDigits < text.length
    · rw [if_pos hlong]
      exact iff_of_false (fun ⟨_, h⟩ => nomatch h) (fun h => absurd h.1 (not_le.mpr hlong))
    · rw [if_neg hlong]
      exact iff_of_true ⟨_, rfl⟩ ⟨not_lt.mp hlong, rfl⟩
  · refine iff_of_false ?_ fun h => hall h.2
    rw [Bool.not_eq_true, Option.isSome_eq_false_iff, Option.isNone_iff_eq_none] at hall
    rintro ⟨n, h⟩
    rw [hall] at h
    split at h <;> cases h

/-! ## ASCII -/

theorem decimal?_ascii {c : Char} (h : c.toNat < 128) :
    decimal? c = if c.isDigit then some (c.toNat - 48) else none := by
  have hzeros : ∀ first ∈ decimalZeros.tail, 128 ≤ first := by decide
  have hrest : decimalZeros.tail.find? (fun first => first ≤ c.toNat && c.toNat < first + 10) =
      none := by
    rw [List.find?_eq_none]
    intro first hfirst
    have := hzeros first hfirst
    simp only [Bool.and_eq_true, decide_eq_true_iff]
    omega
  have hascii : c.isDigit = (decide (48 ≤ c.toNat) && decide (c.toNat < 48 + 10)) := by
    rw [Bool.eq_iff_iff, Bool.and_eq_true, decide_eq_true_iff, decide_eq_true_iff,
      Char.isDigit_iff_toNat]
    simp
    omega
  rw [decimal?, show decimalZeros = 0x30 :: decimalZeros.tail from rfl, List.find?_cons, hrest,
    hascii]
  cases decide (48 ≤ c.toNat) && decide (c.toNat < 48 + 10) <;> rfl

/-- Of the ASCII characters, the ten digits are digits. -/
theorem isDigit_ascii {c : Char} (h : c.toNat < 128) : isDigit c = c.isDigit := by
  have hruns : ∀ run ∈ otherDigits, 128 ≤ run.1 := by decide
  have hnone : (otherDigits.any fun run => run.1 ≤ c.toNat && c.toNat ≤ run.2) = false := by
    rw [List.any_eq_false]
    intro run hrun
    have := hruns run hrun
    simp only [Bool.and_eq_true, decide_eq_true_iff]
    omega
  rw [isDigit, hnone, decimal?_ascii h]
  cases c.isDigit <;> rfl

theorem toNat_lt_of_isDigit {c : Char} (h : c.isDigit = true) : c.toNat < 128 := by
  rw [Char.isDigit_iff_toNat] at h
  simp at h
  omega

/-- ASCII digits are taken up to an ASCII character that is none. -/
theorem takeWhile_isDigit_append {ds rest : List Char} (hds : ∀ c ∈ ds, c.isDigit = true)
    (hascii : ∀ c ∈ rest, c.toNat < 128) (hhead : ∀ c, rest.head? = some c → c.isDigit = false) :
    (ds ++ rest).takeWhile isDigit = ds := by
  have hstop : rest.takeWhile isDigit = [] := by
    cases rest with
    | nil => rfl
    | cons c cs =>
        simp [isDigit_ascii (hascii c List.mem_cons_self), hhead c rfl]
  have htake : ∀ c ∈ ds, isDigit c = true := by
    intro c hc
    rw [isDigit_ascii (toNat_lt_of_isDigit (hds c hc))]
    exact hds c hc
  rw [List.takeWhile_append_of_pos htake, hstop, List.append_nil]

/-- The digits of a number, if they are not too many, are read as the number. -/
theorem intOfDigits_toDigits {n : Nat} (h : (Nat.toDigits 10 n).length ≤ intMaxStrDigits) :
    intOfDigits (Nat.toDigits 10 n) = .ok n := by
  have hdigit : ∀ c ∈ Nat.toDigits 10 n, decimal? c = some (c.toNat - 48) := by
    intro c hc
    have hc : c.isDigit = true := Nat.isDigit_of_mem_toDigits (by decide) (by decide) hc
    rw [decimal?_ascii (toNat_lt_of_isDigit hc), hc]
    rfl
  have hall : (Nat.toDigits 10 n).takeWhile (fun c => (decimal? c).isSome) =
      Nat.toDigits 10 n :=
    List.takeWhile_eq_self_iff.mpr fun c hc => by rw [hdigit c hc]; rfl
  have hread : (Nat.toDigits 10 n).mapM decimal? =
      some ((Nat.toDigits 10 n).map fun c => c.toNat - 48) := by
    generalize Nat.toDigits 10 n = ds at hdigit
    induction ds with
    | nil => rfl
    | cons c ds ih =>
        rw [List.forall_mem_cons] at hdigit
        rw [List.mapM_cons, hdigit.1, ih hdigit.2]
        rfl
  unfold intOfDigits
  rw [hall, hread]
  simp only [if_neg (not_lt.mpr h), List.foldl_map]
  exact congrArg Except.ok Nat.ofDigitChars_ten_toDigits

end Py
