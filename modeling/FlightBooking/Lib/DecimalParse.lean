import Mathlib.Data.List.TakeWhile
import FlightBooking.Lib.Decimal

/-!
# DecimalParse — `Decimal(s)` of a string

The grammar of the module's own parser: an optional sign, then digits with an
optional fraction and exponent, or an infinity, or a NaN; blanks around it and
underscores inside are dropped. Digits are the ASCII ones. Parsing is exact, and
`parse_str` says that it undoes `str`.
-/

namespace Py

namespace Decimal

/-- What `str.strip` removes. -/
def isSpace (ch : Char) : Bool :=
  let n := ch.toNat
  (9 ≤ n && n ≤ 13) || (28 ≤ n && n ≤ 32) || n == 133 || n == 160 || n == 5760 ||
    (8192 ≤ n && n ≤ 8202) || n == 8232 || n == 8233 || n == 8239 || n == 8287 || n == 12288

/-- `s.strip()`. -/
def strip (cs : List Char) : List Char :=
  ((cs.dropWhile isSpace).reverse.dropWhile isSpace).reverse

/-- `int(ds)` of a nonempty string of digits. -/
def parseDigits (ds : List Char) : Option Int :=
  if ds ≠ [] ∧ ds.all Char.isDigit then some (Nat.ofDigitChars 10 ds 0) else none

/-- The number after `E`, with its sign. -/
def parseExponent : List Char → Option Int
  | '-' :: ds => (parseDigits ds).map (- ·)
  | '+' :: ds => parseDigits ds
  | ds => parseDigits ds

/-- What may follow the digits: nothing, or an exponent. -/
def parseSuffix : List Char → Option Int
  | [] => some 0
  | ch :: cs => if ch = 'E' ∨ ch = 'e' then parseExponent cs else none

/-- The digits after the point, if there is one, and the rest. -/
def splitFraction : List Char → List Char × List Char
  | '.' :: cs => (cs.takeWhile Char.isDigit, cs.dropWhile Char.isDigit)
  | cs => ([], cs)

/-- A number without its sign. -/
def parseNumber (sign : Bool) (cs : List Char) : Option Decimal :=
  let int := cs.takeWhile Char.isDigit
  let (frac, rest) := splitFraction (cs.dropWhile Char.isDigit)
  if int = [] ∧ frac = [] then none
  else (parseSuffix rest).map fun exp =>
    .finite sign (Nat.ofDigitChars 10 (int ++ frac) 0) (exp - frac.length)

/-- An infinity or a NaN without its sign, in any case. -/
def parseSpecial (sign : Bool) (cs : List Char) : Option Decimal :=
  match cs.map Char.toLower with
  | ['i', 'n', 'f'] => some (.infinity sign)
  | ['i', 'n', 'f', 'i', 'n', 'i', 't', 'y'] => some (.infinity sign)
  | 'n' :: 'a' :: 'n' :: diag => if diag.all Char.isDigit then some (.nan false) else none
  | 's' :: 'n' :: 'a' :: 'n' :: diag => if diag.all Char.isDigit then some (.nan true) else none
  | _ => none

/-- A signed number, infinity or NaN. -/
def parseChars (sign : Bool) (cs : List Char) : Except Signal Decimal :=
  match parseNumber sign cs with
  | some d => .ok d
  | none =>
      match parseSpecial sign cs with
      | some d => .ok d
      | none => .error .invalidOperation

/-- The sign, then the rest. -/
def parseSigned : List Char → Except Signal Decimal
  | '-' :: cs => parseChars true cs
  | '+' :: cs => parseChars false cs
  | cs => parseChars false cs

/-- `Decimal(s)`. -/
def parse (s : String) : Except Signal Decimal :=
  parseSigned ((strip s.toList).filter (· ≠ '_'))

example : parse " 1_000.50" = .ok (.finite false 100050 (-2)) := by decide
example : parse "1.2.3" = .error .invalidOperation := by decide

/-! ## Digits -/

/-- A text of digits. -/
def Digits (ds : List Char) : Prop := ∀ ch ∈ ds, ch.isDigit = true

theorem digits_toDigits (n : Nat) : Digits (Nat.toDigits 10 n) :=
  fun _ h => Nat.isDigit_of_mem_toDigits (by decide) (by decide) h

theorem Digits.append {ds ds' : List Char} (h : Digits ds) (h' : Digits ds') :
    Digits (ds ++ ds') := by
  intro ch hm
  rcases List.mem_append.mp hm with hm | hm
  · exact h ch hm
  · exact h' ch hm

theorem Digits.takeWhile_append {ds : List Char} (h : Digits ds) (rest : List Char)
    (hrest : ∀ ch, rest.head? = some ch → ch.isDigit = false) :
    (ds ++ rest).takeWhile Char.isDigit = ds ∧ (ds ++ rest).dropWhile Char.isDigit = rest := by
  have htake : rest.takeWhile Char.isDigit = [] ∧ rest.dropWhile Char.isDigit = rest := by
    cases rest with
    | nil => exact ⟨rfl, rfl⟩
    | cons ch cs => simp [hrest ch rfl]
  rw [List.takeWhile_append_of_pos h, List.dropWhile_append_of_pos h, htake.1, htake.2]
  exact ⟨List.append_nil ds, rfl⟩

theorem parseDigits_toDigits (n : Nat) : parseDigits (Nat.toDigits 10 n) = some (n : Int) := by
  have hdigits := digits_toDigits n
  rw [parseDigits, if_pos ⟨Nat.toDigits_ne_nil, List.all_eq_true.mpr hdigits⟩,
    Nat.ofDigitChars_ten_toDigits]

/-! ## The shape of what `str` prints -/

/-- The text of an exponent; zero has none. -/
def exponentText (x : Int) : List Char :=
  if x = 0 then [] else 'E' :: (if x < 0 then '-' else '+') :: Nat.toDigits 10 x.natAbs

/-- The digits before the point, and those after it if there are any. -/
def mantissaText (int frac : List Char) : List Char :=
  if frac = [] then int else int ++ '.' :: frac

/-- The part of `strFinite` after the mantissa. -/
theorem toList_exponent (left dot : Int) :
    (if left = dot then ""
      else "E" ++ (if left - dot < 0 then "-" else "+") ++ toString (left - dot).natAbs).toList =
      exponentText (left - dot) := by
  unfold exponentText
  by_cases h : left = dot
  · rw [if_pos h, if_pos (by omega)]
    rfl
  · have hne : left - dot ≠ 0 := by omega
    by_cases hneg : left - dot < 0
    · simp [h, hne, hneg]
    · simp [h, hne, hneg]

theorem strFinite_shape (c : Nat) (e : Int) :
    ∃ int frac x, (strFinite c e).toList = mantissaText int frac ++ exponentText x ∧
      Digits int ∧ int ≠ [] ∧ Digits frac ∧ Nat.ofDigitChars 10 (int ++ frac) 0 = c ∧
      e = x - frac.length := by
  have hdigits := digits_toDigits c
  have hne : Nat.toDigits 10 c ≠ [] := Nat.toDigits_ne_nil
  have hvalue : Nat.ofDigitChars 10 (Nat.toDigits 10 c) 0 = c := Nat.ofDigitChars_ten_toDigits
  have hlen : 0 < (Nat.toDigits 10 c).length := List.length_pos_iff.mpr hne
  unfold strFinite
  generalize Nat.toDigits 10 c = ds at *
  dsimp only
  generalize hdot : (if e ≤ 0 ∧ -6 < e + (ds.length : Int) then e + (ds.length : Int) else 1) = dot
  have hplace : (dot = e + ds.length ∧ e ≤ 0) ∨ dot = 1 := by
    split at hdot
    · next h => exact .inl ⟨hdot.symm, h.1⟩
    · exact .inr hdot.symm
  rw [String.toList_append, String.toList_ofList, toList_exponent]
  by_cases hzero : dot ≤ 0
  · -- the point stands before the digits
    rw [if_pos hzero]
    refine ⟨['0'], List.replicate (-dot).toNat '0' ++ ds, e + ds.length - dot, ?_, ?_, by simp, ?_,
      ?_, ?_⟩
    · simp [mantissaText, hne]
    · intro ch h
      cases List.mem_singleton.mp h
      rfl
    · refine Digits.append (fun ch h => ?_) hdigits
      cases List.eq_of_mem_replicate h
      rfl
    · rw [Nat.ofDigitChars_append, Nat.ofDigitChars_append, Nat.ofDigitChars_replicate_zero]
      simpa [Nat.ofDigitChars_cons] using hvalue
    · rw [List.length_append, List.length_replicate]
      omega
  · rw [if_neg hzero]
    by_cases hend : (ds.length : Int) ≤ dot
    · -- it stands after the last digit, and no zero is added
      obtain rfl : dot = ds.length := by omega
      rw [if_pos hend]
      refine ⟨ds, [], e, by simp [mantissaText], hdigits, hne, by simp [Digits], ?_, by simp⟩
      simpa using hvalue
    · rw [if_neg hend]
      refine ⟨ds.take dot.toNat, ds.drop dot.toNat, e + ds.length - dot, ?_, ?_, ?_, ?_, ?_, ?_⟩
      · have : ds.drop dot.toNat ≠ [] := by
          intro h
          have := List.drop_eq_nil_iff.mp h
          omega
        simp [mantissaText, this]
      · exact fun ch h => hdigits ch (List.mem_of_mem_take h)
      · intro h
        rcases List.take_eq_nil_iff.mp h with h | h
        · omega
        · exact hne h
      · exact fun ch h => hdigits ch (List.mem_of_mem_drop h)
      · rw [List.take_append_drop]
        exact hvalue
      · rw [List.length_drop]
        omega

/-- With up to six fractional digits a number is printed in fixed point, zeros and all. -/
theorem strFinite_fixed (c : Nat) {e : Int} (hlow : -6 ≤ e) (hneg : e < 0) :
    ∃ int frac, (strFinite c e).toList = int ++ '.' :: frac ∧ Digits int ∧ int ≠ [] ∧
      Digits frac ∧ (frac.length : Int) = -e := by
  have hdigits := digits_toDigits c
  have hlen : 0 < (Nat.toDigits 10 c).length := List.length_pos_iff.mpr Nat.toDigits_ne_nil
  unfold strFinite
  generalize Nat.toDigits 10 c = ds at *
  dsimp only
  rw [if_pos (show e ≤ 0 ∧ -6 < e + (ds.length : Int) by omega), if_pos rfl, String.append_empty,
    String.toList_ofList]
  by_cases hzero : e + (ds.length : Int) ≤ 0
  · rw [if_pos hzero]
    refine ⟨['0'], List.replicate (-(e + (ds.length : Int))).toNat '0' ++ ds, by simp, ?_,
      by simp, ?_, ?_⟩
    · intro ch h
      cases List.mem_singleton.mp h
      rfl
    · refine Digits.append (fun ch h => ?_) hdigits
      cases List.eq_of_mem_replicate h
      rfl
    · rw [List.length_append, List.length_replicate]
      omega
  · rw [if_neg hzero, if_neg (show ¬ (ds.length : Int) ≤ e + ds.length by omega)]
    refine ⟨ds.take (e + ds.length).toNat, ds.drop (e + ds.length).toNat, by simp, ?_, ?_, ?_, ?_⟩
    · exact fun ch h => hdigits ch (List.mem_of_mem_take h)
    · intro h
      rcases List.take_eq_nil_iff.mp h with h | h
      · omega
      · rw [h] at hlen
        exact absurd hlen (by decide)
    · exact fun ch h => hdigits ch (List.mem_of_mem_drop h)
    · rw [List.length_drop]
      omega

theorem parseSuffix_exponentText (x : Int) : parseSuffix (exponentText x) = some x := by
  unfold exponentText
  split
  · next h => rw [h, parseSuffix]
  · rw [parseSuffix, if_pos (.inl rfl)]
    rcases lt_or_ge x 0 with h | h
    · have habs : -((x.natAbs : Nat) : Int) = x := by omega
      rw [if_pos h, parseExponent, parseDigits_toDigits, Option.map_some, habs]
    · have habs : ((x.natAbs : Nat) : Int) = x := by omega
      rw [if_neg (not_lt.mpr h), parseExponent, parseDigits_toDigits, habs]

theorem exponentText_head (x : Int) :
    ∀ ch, (exponentText x).head? = some ch → ch.isDigit = false ∧ ch ≠ '.' := by
  intro ch h
  unfold exponentText at h
  split at h
  · cases h
  · cases h
    exact ⟨by decide, by decide⟩

theorem parseNumber_text (sign : Bool) {int frac : List Char} (hint : Digits int) (hne : int ≠ [])
    (hfrac : Digits frac) (x : Int) :
    parseNumber sign (mantissaText int frac ++ exponentText x) =
      some (.finite sign (Nat.ofDigitChars 10 (int ++ frac) 0) (x - frac.length)) := by
  have hexp := exponentText_head x
  have hstop := hfrac.takeWhile_append (exponentText x) (fun ch h => (hexp ch h).1)
  unfold mantissaText
  split
  · next hnil =>
      subst hnil
      obtain ⟨htake, hdrop⟩ := hint.takeWhile_append (exponentText x) (fun ch h => (hexp ch h).1)
      have hsplit : splitFraction (exponentText x) = ([], exponentText x) := by
        unfold splitFraction
        split
        · next cs heq => exact absurd rfl (hexp '.' (by rw [heq]; rfl)).2
        · rfl
      simp [parseNumber, htake, hdrop, hsplit, hne, parseSuffix_exponentText]
  · next hsome =>
      rw [List.append_assoc, List.cons_append]
      obtain ⟨htake, hdrop⟩ := hint.takeWhile_append ('.' :: (frac ++ exponentText x)) (by
        intro ch h
        cases h
        decide)
      simp [parseNumber, htake, hdrop, splitFraction, hstop, hne, parseSuffix_exponentText]

/-! ## The round trip -/

/-- Nothing that is printed is a blank or an underscore. -/
def Plain (cs : List Char) : Prop := ∀ ch ∈ cs, isSpace ch = false ∧ ch ≠ '_'

theorem Digits.plain {ds : List Char} (h : Digits ds) : Plain ds := by
  intro ch hm
  have hdigit := h ch hm
  simp only [Char.isDigit, Bool.and_eq_true, decide_eq_true_eq] at hdigit
  have hlow : 48 ≤ ch.toNat := hdigit.1
  have hhigh : ch.toNat ≤ 57 := hdigit.2
  refine ⟨?_, ?_⟩
  · simp [isSpace]
    omega
  · rintro rfl
    exact absurd hhigh (by decide)

theorem Plain.append {cs cs' : List Char} (h : Plain cs) (h' : Plain cs') : Plain (cs ++ cs') := by
  intro ch hm
  rcases List.mem_append.mp hm with hm | hm
  · exact h ch hm
  · exact h' ch hm

theorem Plain.cons {ch : Char} {cs : List Char} (h : isSpace ch = false ∧ ch ≠ '_')
    (h' : Plain cs) : Plain (ch :: cs) := by
  intro ch' hm
  rcases List.mem_cons.mp hm with rfl | hm
  · exact h
  · exact h' ch' hm

theorem mantissaText_plain {int frac : List Char} (hint : Digits int) (hfrac : Digits frac) :
    Plain (mantissaText int frac) := by
  unfold mantissaText
  split
  · exact hint.plain
  · exact hint.plain.append (hfrac.plain.cons (by decide))

theorem exponentText_plain (x : Int) : Plain (exponentText x) := by
  have hdigits := (digits_toDigits x.natAbs).plain
  unfold exponentText
  split
  · simp [Plain]
  · refine Plain.cons (by decide) (Plain.cons ?_ hdigits)
    split <;> decide

/-- Stripping and dropping underscores leave a plain text alone. -/
theorem Plain.strip {cs : List Char} (h : Plain cs) :
    (Decimal.strip cs).filter (· ≠ '_') = cs := by
  have hdrop : ∀ ds : List Char, Plain ds → ds.dropWhile isSpace = ds := by
    intro ds hds
    cases ds with
    | nil => rfl
    | cons ch ds => rw [List.dropWhile_cons_of_neg (by simp [(hds ch (by simp)).1])]
  have hrev : Plain cs.reverse := fun ch hm => h ch (List.mem_reverse.mp hm)
  rw [Decimal.strip, hdrop cs h, hdrop _ hrev, List.reverse_reverse, List.filter_eq_self]
  intro ch hm
  simpa using (h ch hm).2

/-- A text that starts with a digit has no sign. -/
theorem parseSigned_digit {ch : Char} (h : ch.isDigit = true) (cs : List Char) :
    parseSigned (ch :: cs) = parseChars false (ch :: cs) := by
  unfold parseSigned
  split
  · next heq =>
      cases heq
      cases h
  · next heq =>
      cases heq
      cases h
  · rfl

theorem toList_str_finite (s : Bool) (c : Nat) (e : Int) :
    (str (.finite s c e)).toList = (if s then ['-'] else []) ++ (strFinite c e).toList := by
  cases s <;> simp [str]

/-- **Reading undoes printing**, for every decimal. -/
theorem parse_str (d : Decimal) : parse d.str = .ok d := by
  cases d with
  | infinity s => cases s <;> decide
  | nan s => cases s <;> decide
  | finite s c e =>
      obtain ⟨int, frac, x, hshape, hint, hne, hfrac, rfl, rfl⟩ := strFinite_shape c e
      have hplain := (mantissaText_plain hint hfrac).append (exponentText_plain x)
      have hchars : ∀ s, parseChars s (mantissaText int frac ++ exponentText x) =
          .ok (.finite s (Nat.ofDigitChars 10 (int ++ frac) 0) (x - frac.length)) := by
        intro s
        rw [parseChars, parseNumber_text s hint hne hfrac]
      rw [parse, toList_str_finite, hshape]
      cases s with
      | true =>
          rw [if_pos rfl, List.singleton_append, (hplain.cons (by decide)).strip]
          exact hchars true
      | false =>
          rw [if_neg (by decide), List.nil_append, hplain.strip]
          obtain ⟨ch, ds, rfl⟩ := List.exists_cons_of_ne_nil hne
          have hhead : ∃ cs, mantissaText (ch :: ds) frac ++ exponentText x = ch :: cs := by
            unfold mantissaText
            split <;> exact ⟨_, rfl⟩
          obtain ⟨cs, hcs⟩ := hhead
          rw [hcs, parseSigned_digit (hint ch (by simp)), ← hcs]
          exact hchars false

end Decimal

end Py
