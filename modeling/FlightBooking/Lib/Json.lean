import FlightBooking.Lib.Dict
import FlightBooking.Lib.DecimalParse

/-!
# Json — `json.dumps` and `json.loads`

The module with its default settings: `dumps` separates with `", "` and `": "` and
escapes what is not ASCII, `loads` is strict about control characters. Values are those
a log line can hold; a float, a lone surrogate and the limit on the digits of an integer
are left out, so `loads` answers `none` where the module raises or where the value is
none of these. `loads_dumps` says that a value is read back as it was.
-/

namespace Py

/-- What the module reads and writes. A dictionary lists its entries in order. -/
inductive Json where
  | null
  | bool (b : Bool)
  | int (n : Int)
  | str (s : String)
  | list (items : List Json)
  | dict (entries : List (String × Json))

namespace Json

/-- `value.get(key)` of a dictionary. -/
def get? : Json → String → Option Json
  | dict entries, key => entries.lookup key
  | _, _ => none

/-- `"`. -/
def quote : Char := Char.ofNat 34

/-- The backslash. -/
def backslash : Char := Char.ofNat 92

/-! ## Writing -/

/-- A `\u` escape: four digits, lower case. -/
def unicodeEscape (n : Nat) : List Char :=
  [backslash, 'u', Nat.digitChar (n / 4096), Nat.digitChar (n / 256 % 16),
    Nat.digitChar (n / 16 % 16), Nat.digitChar (n % 16)]

/-- The UTF-16 units of a character. -/
def units (ch : Char) : List Nat :=
  if ch.toNat < 0x10000 then [ch.toNat]
  else [0xD800 + (ch.toNat - 0x10000) / 0x400, 0xDC00 + (ch.toNat - 0x10000) % 0x400]

/-- The letter that stands for a character after a backslash. -/
def shortEscape (ch : Char) : Option Char :=
  if ch = quote then some quote
  else if ch = backslash then some backslash
  else if ch = '\n' then some 'n'
  else if ch = '\r' then some 'r'
  else if ch = '\t' then some 't'
  else if ch.toNat = 8 then some 'b'
  else if ch.toNat = 12 then some 'f'
  else none

/-- One character inside a string, by `ensure_ascii`. -/
def escape (ch : Char) : List Char :=
  match shortEscape ch with
  | some letter => [backslash, letter]
  | none =>
      if 32 ≤ ch.toNat ∧ ch.toNat ≤ 126 then [ch] else (units ch).flatMap unicodeEscape

def strText (s : String) : List Char := quote :: (s.toList.flatMap escape ++ [quote])

def intText (n : Int) : List Char :=
  if n < 0 then '-' :: Nat.toDigits 10 n.natAbs else Nat.toDigits 10 n.natAbs

mutual

/-- `json.dumps(value)`. -/
def dumps : Json → List Char
  | null => ['n', 'u', 'l', 'l']
  | bool true => ['t', 'r', 'u', 'e']
  | bool false => ['f', 'a', 'l', 's', 'e']
  | int n => intText n
  | str s => strText s
  | list [] => ['[', ']']
  | list (item :: rest) => '[' :: (dumps item ++ moreItems rest)
  | dict [] => ['{', '}']
  | dict ((key, value) :: rest) =>
      '{' :: (strText key ++ ':' :: ' ' :: (dumps value ++ moreEntries rest))

/-- What follows an item, the closing bracket included. -/
def moreItems : List Json → List Char
  | [] => [']']
  | item :: rest => ',' :: ' ' :: (dumps item ++ moreItems rest)

/-- What follows an entry, the closing brace included. -/
def moreEntries : List (String × Json) → List Char
  | [] => ['}']
  | (key, value) :: rest =>
      ',' :: ' ' :: (strText key ++ ':' :: ' ' :: (dumps value ++ moreEntries rest))

end

/-! ## Reading -/

/-- Blanks between tokens. -/
def isBlank (ch : Char) : Bool := ch = ' ' || ch = '\t' || ch = '\n' || ch = '\r'

def skip (cs : List Char) : List Char := cs.dropWhile isBlank

def hexValue (ch : Char) : Option Nat :=
  if ch.isDigit then some (ch.toNat - 48)
  else if 97 ≤ ch.toNat ∧ ch.toNat ≤ 102 then some (ch.toNat - 87)
  else if 65 ≤ ch.toNat ∧ ch.toNat ≤ 70 then some (ch.toNat - 55)
  else none

def hexUnit (a b c d : Char) : Option Nat := do
  let a ← hexValue a
  let b ← hexValue b
  let c ← hexValue c
  let d ← hexValue d
  return ((a * 16 + b) * 16 + c) * 16 + d

/-- What a letter after a backslash stands for, `u` apart. -/
def unescape (letter : Char) : Option Nat :=
  if letter = quote then some 34
  else if letter = backslash then some 92
  else if letter = '/' then some 47
  else if letter = 'b' then some 8
  else if letter = 'f' then some 12
  else if letter = 'n' then some 10
  else if letter = 'r' then some 13
  else if letter = 't' then some 9
  else none

/-- What a string has read, with one more unit in front. -/
def consUnit (n : Nat) (p : List Nat × List Char) : List Nat × List Char := (n :: p.1, p.2)

/-- The units of a string up to its closing quote, and what follows it. -/
def scanUnits : List Char → Option (List Nat × List Char)
  | [] => none
  | ch :: cs =>
      if ch = quote then some ([], cs)
      else if ch = backslash then
        match cs with
        | 'u' :: a :: b :: c :: d :: cs =>
            (hexUnit a b c d).bind fun n => (scanUnits cs).map (consUnit n)
        | letter :: cs => (unescape letter).bind fun n => (scanUnits cs).map (consUnit n)
        | [] => none
      else if ch.toNat < 32 then none
      else (scanUnits cs).map (consUnit ch.toNat)

/-- The characters of a sequence of units: a high surrogate is joined with the low one
after it. -/
def joinUnits : List Nat → Option (List Char)
  | [] => some []
  | n :: ns =>
      if 0xD800 ≤ n ∧ n < 0xDC00 then
        match ns with
        | m :: ns =>
            if 0xDC00 ≤ m ∧ m < 0xE000 then
              (joinUnits ns).map
                (Char.ofNat (0x10000 + ((n - 0xD800) * 0x400 + (m - 0xDC00))) :: ·)
            else none
        | [] => none
      else if 0xDC00 ≤ n ∧ n < 0xE000 then none
      else (joinUnits ns).map (Char.ofNat n :: ·)

/-- A string after its opening quote. -/
def scanStr (cs : List Char) : Option (String × List Char) := do
  let (ns, rest) ← scanUnits cs
  let s ← joinUnits ns
  return (String.ofList s, rest)

/-- Digits without a leading zero, and what follows them. -/
def scanDigits : List Char → Option (Nat × List Char)
  | '0' :: cs => some (0, cs)
  | cs =>
      let digits := cs.takeWhile Char.isDigit
      if digits = [] then none
      else some (Nat.ofDigitChars 10 digits 0, cs.dropWhile Char.isDigit)

/-- An integer. What may make it a float is what follows it, and nothing goes on so. -/
def scanInt : List Char → Option (Int × List Char)
  | '-' :: cs => (scanDigits cs).map fun p => (-(p.1 : Int), p.2)
  | cs => (scanDigits cs).map fun p => ((p.1 : Int), p.2)

mutual

/-- A value at the head of the text, and what follows it. -/
def scanValue : Nat → List Char → Option (Json × List Char)
  | 0, _ => none
  | fuel + 1, cs =>
      match cs with
      | 'n' :: 'u' :: 'l' :: 'l' :: cs => some (null, cs)
      | 't' :: 'r' :: 'u' :: 'e' :: cs => some (bool true, cs)
      | 'f' :: 'a' :: 'l' :: 's' :: 'e' :: cs => some (bool false, cs)
      | '[' :: cs =>
          match skip cs with
          | ']' :: cs => some (list [], cs)
          | cs => (scanItems fuel cs).map fun p => (list p.1, p.2)
      | ch :: cs =>
          if ch = quote then (scanStr cs).map fun p => (str p.1, p.2)
          else if ch = '{' then
            match skip cs with
            | '}' :: cs => some (dict [], cs)
            | cs =>
                (scanEntries fuel cs).map fun p =>
                  -- a later entry of a key replaces the value of an earlier one
                  (dict (p.1.foldl (fun d e => Dict.setEntries d e.1 e.2) []), p.2)
          else (scanInt (ch :: cs)).map fun p => (int p.1, p.2)
      | [] => none

/-- The items of a list from the first one on. -/
def scanItems : Nat → List Char → Option (List Json × List Char)
  | 0, _ => none
  | fuel + 1, cs => do
      let (item, cs) ← scanValue fuel cs
      match skip cs with
      | ']' :: cs => return ([item], cs)
      | ',' :: cs =>
          let (rest, cs) ← scanItems fuel (skip cs)
          return (item :: rest, cs)
      | _ => none

/-- The entries of a dictionary from the first one on. -/
def scanEntries : Nat → List Char → Option (List (String × Json) × List Char)
  | 0, _ => none
  | fuel + 1, cs =>
      match cs with
      | [] => none
      | ch :: cs =>
          if ch ≠ quote then none
          else do
            let (key, cs) ← scanStr cs
            match skip cs with
            | ':' :: cs =>
                let (value, cs) ← scanValue fuel (skip cs)
                match skip cs with
                | '}' :: cs => return ([(key, value)], cs)
                | ',' :: cs =>
                    let (rest, cs) ← scanEntries fuel (skip cs)
                    return ((key, value) :: rest, cs)
                | _ => none
            | _ => none

end

/-- `json.loads(text)`: one value with blanks around it. -/
def loads (cs : List Char) : Option Json := do
  let (value, rest) ← scanValue (2 * cs.length + 1) (skip cs)
  if skip rest = [] then return value else none

/-! ## Strings -/

theorem hexValue_digitChar : ∀ d < 16, hexValue (Nat.digitChar d) = some d := by decide

theorem hexUnit_digits {n : Nat} (h : n < 0x10000) :
    hexUnit (Nat.digitChar (n / 4096)) (Nat.digitChar (n / 256 % 16))
      (Nat.digitChar (n / 16 % 16)) (Nat.digitChar (n % 16)) = some n := by
  have ha := hexValue_digitChar (n / 4096) (by omega)
  have hb := hexValue_digitChar (n / 256 % 16) (by omega)
  have hc := hexValue_digitChar (n / 16 % 16) (by omega)
  have hd := hexValue_digitChar (n % 16) (by omega)
  have hn : ((n / 4096 * 16 + n / 256 % 16) * 16 + n / 16 % 16) * 16 + n % 16 = n := by omega
  simp [hexUnit, ha, hb, hc, hd, hn]

theorem scanUnits_quote (cs : List Char) : scanUnits (quote :: cs) = some ([], cs) := by
  rw [scanUnits.eq_def]
  simp

theorem scanUnits_plain {ch : Char} (hquote : ch ≠ quote) (hbackslash : ch ≠ backslash)
    (hlow : ¬ ch.toNat < 32) (cs : List Char) :
    scanUnits (ch :: cs) = (scanUnits cs).map (consUnit ch.toNat) := by
  rw [scanUnits.eq_def]
  simp [hquote, hbackslash, hlow]

theorem joinUnits_plain {n : Nat} (hhigh : ¬ (0xD800 ≤ n ∧ n < 0xDC00))
    (hlow : ¬ (0xDC00 ≤ n ∧ n < 0xE000)) (ns : List Nat) :
    joinUnits (n :: ns) = (joinUnits ns).map (Char.ofNat n :: ·) := by
  rw [joinUnits.eq_def]
  simp only [if_neg hhigh, if_neg hlow]

theorem scanUnits_unicodeEscape {n : Nat} (h : n < 0x10000) (cs : List Char) :
    scanUnits (unicodeEscape n ++ cs) = (scanUnits cs).map (consUnit n) := by
  have hne : ¬ backslash = quote := by decide
  simp [unicodeEscape, scanUnits, hne, hexUnit_digits h]

theorem scanUnits_unicodeEscapes {ns : List Nat} (h : ∀ n ∈ ns, n < 0x10000) (cs : List Char) :
    scanUnits (ns.flatMap unicodeEscape ++ cs) =
      (scanUnits cs).map fun p => (ns ++ p.1, p.2) := by
  induction ns with
  | nil => simp
  | cons n ns ih =>
      obtain ⟨hn, hns⟩ := List.forall_mem_cons.mp h
      rw [List.flatMap_cons, List.append_assoc, scanUnits_unicodeEscape hn, ih hns, Option.map_map]
      rfl

theorem units_lt (ch : Char) : ∀ n ∈ units ch, n < 0x10000 := by
  have hval : ch.toNat < 0x110000 := by
    rcases ch.valid with h | h <;> simp only [Char.toNat] <;> omega
  unfold units
  split <;> simp <;> omega

theorem shortEscape_spec {ch letter : Char} (h : shortEscape ch = some letter) :
    letter ≠ 'u' ∧ unescape letter = some ch.toNat ∧ units ch = [ch.toNat] := by
  unfold shortEscape at h
  split_ifs at h with h₁ h₂ h₃ h₄ h₅ h₆ h₇ <;> cases h
  · subst h₁; decide
  · subst h₂; decide
  · subst h₃; decide
  · subst h₄; decide
  · subst h₅; decide
  · simp [units, h₆, unescape, quote, backslash]
  · simp [units, h₇, unescape, quote, backslash]

theorem scanUnits_escape (ch : Char) (cs : List Char) :
    scanUnits (escape ch ++ cs) = (scanUnits cs).map fun p => (units ch ++ p.1, p.2) := by
  unfold escape
  split
  · next letter h =>
      obtain ⟨hu, hletter, hunits⟩ := shortEscape_spec h
      have hne : ¬ backslash = quote := by decide
      simp [scanUnits, hne, hu, hletter, hunits]
      rfl
  · next h =>
      have hquote : ch ≠ quote := by
        rintro rfl
        cases h
      have hbackslash : ch ≠ backslash := by
        rintro rfl
        cases h
      split
      · next hascii =>
          have hlow : ¬ ch.toNat < 32 := by omega
          have hunits : units ch = [ch.toNat] := if_pos (by omega)
          rw [List.singleton_append, scanUnits_plain hquote hbackslash hlow, hunits]
          rfl
      · exact scanUnits_unicodeEscapes (units_lt ch) cs

theorem joinUnits_units (ch : Char) (ns : List Nat) :
    joinUnits (units ch ++ ns) = (joinUnits ns).map (ch :: ·) := by
  have hvalid : ch.toNat < 0xD800 ∨ 0xDFFF < ch.toNat ∧ ch.toNat < 0x110000 := ch.valid
  unfold units
  split
  · have hhigh : ¬ (0xD800 ≤ ch.toNat ∧ ch.toNat < 0xDC00) := by omega
    have hlow : ¬ (0xDC00 ≤ ch.toNat ∧ ch.toNat < 0xE000) := by omega
    rw [List.singleton_append, joinUnits_plain hhigh hlow, Char.ofNat_toNat]
  · have hhigh : 0xD800 ≤ 0xD800 + (ch.toNat - 0x10000) / 0x400 ∧
        0xD800 + (ch.toNat - 0x10000) / 0x400 < 0xDC00 := by omega
    have hlow : 0xDC00 ≤ 0xDC00 + (ch.toNat - 0x10000) % 0x400 ∧
        0xDC00 + (ch.toNat - 0x10000) % 0x400 < 0xE000 := by omega
    have hch : 0x10000 + ((0xD800 + (ch.toNat - 0x10000) / 0x400 - 0xD800) * 0x400 +
        (0xDC00 + (ch.toNat - 0x10000) % 0x400 - 0xDC00)) = ch.toNat := by omega
    simp only [List.cons_append, List.nil_append, joinUnits, if_pos hhigh, if_pos hlow, hch,
      Char.ofNat_toNat]

theorem scanStr_flatMap (s : String) (rest : List Char) :
    scanStr (s.toList.flatMap escape ++ quote :: rest) = some (s, rest) := by
  have hscan : ∀ cs : List Char, scanUnits (cs.flatMap escape ++ quote :: rest) =
      some (cs.flatMap units, rest) := by
    intro cs
    induction cs with
    | nil => exact scanUnits_quote rest
    | cons ch cs ih =>
        rw [List.flatMap_cons, List.append_assoc, scanUnits_escape, ih]
        rfl
  have hjoin : ∀ cs : List Char, joinUnits (cs.flatMap units) = some cs := by
    intro cs
    induction cs with
    | nil => rfl
    | cons ch cs ih =>
        rw [List.flatMap_cons, joinUnits_units, ih]
        rfl
  simp [scanStr, hscan, hjoin]

/-! ## Integers -/

theorem toDigits_head {n : Nat} (h : (Nat.toDigits 10 n).head? = some '0') : n = 0 := by
  induction n using Nat.strong_induction_on with
  | _ n ih =>
      by_cases hn : n < 10
      · rw [Nat.toDigits_of_lt_base hn] at h
        have hdigit : ∀ d < 10, Nat.digitChar d = '0' → d = 0 := by decide
        exact hdigit n hn (by simpa using h)
      · rw [Nat.toDigits_of_base_le (by decide) (by omega),
          List.head?_append_of_ne_nil _ Nat.toDigits_ne_nil] at h
        have := ih (n / 10) (by omega) h
        omega

theorem scanDigits_toDigits (n : Nat) {rest : List Char}
    (hrest : ∀ ch, rest.head? = some ch → ch.isDigit = false) :
    scanDigits (Nat.toDigits 10 n ++ rest) = some (n, rest) := by
  by_cases hn : n = 0
  · subst hn
    rfl
  · obtain ⟨htake, hdrop⟩ := (Decimal.digits_toDigits n).takeWhile_append rest hrest
    have hhead : ∀ cs, Nat.toDigits 10 n ++ rest ≠ '0' :: cs := by
      intro cs heq
      apply hn
      apply toDigits_head
      have hfirst : (Nat.toDigits 10 n ++ rest).head? = (Nat.toDigits 10 n).head? :=
        List.head?_append_of_ne_nil _ Nat.toDigits_ne_nil
      rw [← hfirst, heq]
      rfl
    unfold scanDigits
    split
    · next cs heq => exact absurd heq (hhead cs)
    · rw [htake, hdrop, if_neg Nat.toDigits_ne_nil, Nat.ofDigitChars_ten_toDigits]

theorem scanInt_intText (n : Int) {rest : List Char}
    (hrest : ∀ ch, rest.head? = some ch → ch.isDigit = false) :
    scanInt (intText n ++ rest) = some (n, rest) := by
  unfold intText
  split
  · simp only [List.cons_append, scanInt, scanDigits_toDigits _ hrest, Option.map_some]
    congr
    omega
  · have hminus : ∀ cs, Nat.toDigits 10 n.natAbs ++ rest ≠ '-' :: cs := by
      intro cs heq
      have hmem : '-' ∈ Nat.toDigits 10 n.natAbs := by
        cases hds : Nat.toDigits 10 n.natAbs with
        | nil => exact absurd hds Nat.toDigits_ne_nil
        | cons d ds =>
            rw [hds] at heq
            cases heq
            simp
      exact absurd (Decimal.digits_toDigits _ '-' hmem) (by decide)
    unfold scanInt
    split
    · next cs heq => exact absurd heq (hminus cs)
    · rw [scanDigits_toDigits _ hrest, Option.map_some]
      congr
      omega

/-! ## Values -/

/-- The text does not go on with a digit. -/
def NoDigit (cs : List Char) : Prop := ∀ ch, cs.head? = some ch → ch.isDigit = false

theorem noDigit_cons {ch : Char} (h : ch.isDigit = false) (cs : List Char) :
    NoDigit (ch :: cs) := by
  intro ch' h'
  cases h'
  exact h

theorem intText_head (n : Int) :
    ∃ ch cs, intText n = ch :: cs ∧ (ch.isDigit = true ∨ ch = '-') := by
  unfold intText
  split
  · exact ⟨_, _, rfl, .inr rfl⟩
  · cases hds : Nat.toDigits 10 n.natAbs with
    | nil => exact absurd hds Nat.toDigits_ne_nil
    | cons d ds =>
        exact ⟨d, ds, rfl, .inl (Decimal.digits_toDigits n.natAbs d (by simp [hds]))⟩

theorem ne_of_numeric {ch d : Char} (h : ch.isDigit = true ∨ ch = '-')
    (hdigit : d.isDigit = false) (hminus : d ≠ '-') : ch ≠ d := by
  rintro rfl
  simp [hdigit, hminus] at h

/-- No text of a value begins with a blank or a closing bracket. -/
theorem dumps_head (j : Json) :
    ∃ ch cs, dumps j = ch :: cs ∧ isBlank ch = false ∧ ch ≠ ']' := by
  cases j with
  | null => exact ⟨_, _, by rw [dumps], by decide⟩
  | bool b => cases b <;> exact ⟨_, _, by rw [dumps], by decide⟩
  | str s => exact ⟨_, _, by rw [dumps, strText], by decide⟩
  | list items => cases items <;> exact ⟨_, _, by rw [dumps], by decide⟩
  | dict entries => cases entries <;> exact ⟨_, _, by rw [dumps], by decide⟩
  | int n =>
      obtain ⟨ch, cs, htext, hch⟩ := intText_head n
      refine ⟨ch, cs, by rw [dumps, htext], ?_⟩
      have hspace : ch ≠ ' ' := ne_of_numeric hch (by decide) (by decide)
      have htab : ch ≠ '\t' := ne_of_numeric hch (by decide) (by decide)
      have hline : ch ≠ '\n' := ne_of_numeric hch (by decide) (by decide)
      have hreturn : ch ≠ '\r' := ne_of_numeric hch (by decide) (by decide)
      exact ⟨by simp [isBlank, hspace, htab, hline, hreturn],
        ne_of_numeric hch (by decide) (by decide)⟩

theorem skip_of_head {ch : Char} (h : isBlank ch = false) (cs : List Char) :
    skip (ch :: cs) = ch :: cs := by
  simp [skip, h]

theorem skip_dumps (j : Json) (rest : List Char) : skip (dumps j ++ rest) = dumps j ++ rest := by
  obtain ⟨ch, cs, htext, hblank, -⟩ := dumps_head j
  rw [htext, List.cons_append, skip_of_head hblank]

theorem skip_space_dumps (j : Json) (rest : List Char) :
    skip (' ' :: (dumps j ++ rest)) = dumps j ++ rest := by
  have hspace : skip (' ' :: (dumps j ++ rest)) = skip (dumps j ++ rest) := rfl
  rw [hspace, skip_dumps]

section Scan

variable {fuel : Nat} {cs : List Char}

theorem scanValue_int {ch : Char} (h : ch.isDigit = true ∨ ch = '-') :
    scanValue (fuel + 1) (ch :: cs) = (scanInt (ch :: cs)).map fun p => (int p.1, p.2) := by
  have hn : ch ≠ 'n' := ne_of_numeric h (by decide) (by decide)
  have ht : ch ≠ 't' := ne_of_numeric h (by decide) (by decide)
  have hf : ch ≠ 'f' := ne_of_numeric h (by decide) (by decide)
  have hb : ch ≠ '[' := ne_of_numeric h (by decide) (by decide)
  have hq : ch ≠ quote := ne_of_numeric h (by decide) (by decide)
  have hd : ch ≠ '{' := ne_of_numeric h (by decide) (by decide)
  rw [scanValue.eq_def]
  simp [hn, ht, hf, hq, hd]

theorem scanValue_str :
    scanValue (fuel + 1) (quote :: cs) = (scanStr cs).map fun p => (str p.1, p.2) := by
  rw [scanValue.eq_def]
  simp [quote]

theorem scanValue_list (h : ∀ cs', skip cs ≠ ']' :: cs') :
    scanValue (fuel + 1) ('[' :: cs) =
      (scanItems fuel (skip cs)).map fun p => (list p.1, p.2) := by
  rw [scanValue.eq_def]
  simp only

/-- The dictionary of the entries read. -/
def ofEntries (entries : List (String × Json)) : Json :=
  dict (entries.foldl (fun d e => Dict.setEntries d e.1 e.2) [])

theorem scanValue_dict (h : ∀ cs', skip cs ≠ '}' :: cs') :
    scanValue (fuel + 1) ('{' :: cs) =
      (scanEntries fuel (skip cs)).map fun p => (ofEntries p.1, p.2) := by
  have hquote : ¬ '{' = quote := by decide
  rw [scanValue.eq_def]
  simp [hquote, ofEntries]

end Scan

mutual

/-- In every dictionary of the value each key stands once. -/
def Keyed : Json → Prop
  | list items => KeyedItems items
  | dict entries => (entries.map Prod.fst).Nodup ∧ KeyedEntries entries
  | _ => True

def KeyedItems : List Json → Prop
  | [] => True
  | item :: rest => Keyed item ∧ KeyedItems rest

def KeyedEntries : List (String × Json) → Prop
  | [] => True
  | (_, value) :: rest => Keyed value ∧ KeyedEntries rest

end

theorem foldl_setEntries {entries acc : List (String × Json)}
    (h : ((acc ++ entries).map Prod.fst).Nodup) :
    entries.foldl (fun d e => Dict.setEntries d e.1 e.2) acc = acc ++ entries := by
  induction entries generalizing acc with
  | nil => simp
  | cons e rest ih =>
      obtain ⟨key, value⟩ := e
      have hfresh : key ∉ acc.map Prod.fst := by
        rw [List.map_append, List.nodup_append] at h
        intro hmem
        exact h.2.2 key hmem key (by simp) rfl
      rw [List.foldl_cons, Dict.setEntries_fresh hfresh, ih (by simpa using h)]
      simp

theorem ofEntries_nodup {entries : List (String × Json)} (h : (entries.map Prod.fst).Nodup) :
    ofEntries entries = dict entries := by
  rw [ofEntries, foldl_setEntries (by simpa using h)]
  rfl

/-- An entry as it is written. -/
def entryText (key : String) (value : Json) (rest : List Char) : List Char :=
  strText key ++ ':' :: ' ' :: (dumps value ++ rest)

theorem noDigit_moreItems (items : List Json) (rest : List Char) :
    NoDigit (moreItems items ++ rest) := by
  cases items <;> rw [moreItems] <;> exact noDigit_cons (by decide) _

theorem noDigit_moreEntries (entries : List (String × Json)) (rest : List Char) :
    NoDigit (moreEntries entries ++ rest) := by
  cases entries <;> rw [moreEntries] <;> exact noDigit_cons (by decide) _

/-- With `fuel` steps the scanners read what is written, whatever follows it. -/
structure Reads (fuel : Nat) : Prop where
  value : ∀ j rest, Keyed j → NoDigit rest → 2 * (dumps j).length ≤ fuel →
    scanValue fuel (dumps j ++ rest) = some (j, rest)
  items : ∀ item items rest, KeyedItems (item :: items) →
    2 * (dumps item ++ moreItems items).length ≤ fuel →
    scanItems fuel (dumps item ++ (moreItems items ++ rest)) = some (item :: items, rest)
  entries : ∀ key value entries rest, KeyedEntries ((key, value) :: entries) →
    2 * (entryText key value (moreEntries entries)).length ≤ fuel →
    scanEntries fuel (entryText key value (moreEntries entries ++ rest)) =
      some ((key, value) :: entries, rest)

theorem length_dumps_pos (j : Json) : 0 < (dumps j).length := by
  obtain ⟨ch, cs, htext, -⟩ := dumps_head j
  simp [htext]

theorem Reads.zero : Reads 0 where
  value j rest _ _ hfuel := by
    have := length_dumps_pos j
    omega
  items item items rest _ hfuel := by
    have := length_dumps_pos item
    rw [List.length_append] at hfuel
    omega
  entries key value entries rest _ hfuel := by
    rw [entryText, strText, List.cons_append, List.length_cons] at hfuel
    omega

section Step

variable {fuel : Nat}

theorem Reads.value_succ (h : Reads fuel) (j : Json) (rest : List Char) (hj : Keyed j)
    (hrest : NoDigit rest) (hfuel : 2 * (dumps j).length ≤ fuel + 1) :
    scanValue (fuel + 1) (dumps j ++ rest) = some (j, rest) := by
  cases j with
  | null => rfl
  | bool b => cases b <;> rfl
  | int n =>
      obtain ⟨ch, cs, htext, hch⟩ := intText_head n
      have hscan := scanInt_intText n hrest
      rw [htext] at hscan
      rw [dumps, htext, List.cons_append, scanValue_int hch, ← List.cons_append, hscan]
      rfl
  | str s =>
      rw [dumps, strText, List.cons_append, scanValue_str, List.append_assoc,
        List.singleton_append, scanStr_flatMap]
      rfl
  | list items =>
      cases items with
      | nil => rfl
      | cons item items =>
          rw [Keyed] at hj
          rw [dumps, List.length_cons] at hfuel
          have hopen : ∀ cs, dumps item ++ (moreItems items ++ rest) ≠ ']' :: cs := by
            obtain ⟨ch, cs, htext, -, hch⟩ := dumps_head item
            rw [htext]
            intro cs heq
            cases heq
            exact hch rfl
          rw [dumps, List.cons_append, List.append_assoc,
            scanValue_list (by rwa [skip_dumps]), skip_dumps,
            h.items item items rest hj (by omega)]
          rfl
  | dict entries =>
      cases entries with
      | nil => rfl
      | cons e entries =>
          obtain ⟨key, value⟩ := e
          rw [Keyed] at hj
          rw [dumps, List.length_cons] at hfuel
          have htext : dumps (dict ((key, value) :: entries)) ++ rest =
              '{' :: entryText key value (moreEntries entries ++ rest) := by
            simp [dumps, entryText]
          have hskip : skip (entryText key value (moreEntries entries ++ rest)) =
              entryText key value (moreEntries entries ++ rest) := skip_of_head (by decide) _
          have hopen : ∀ cs, entryText key value (moreEntries entries ++ rest) ≠ '}' :: cs := by
            intro cs heq
            cases heq
          rw [htext, scanValue_dict (by rwa [hskip]), hskip,
            h.entries key value entries rest hj.2 (by rw [entryText]; omega), Option.map_some,
            ofEntries_nodup hj.1]

theorem Reads.items_succ (h : Reads fuel) (item : Json) (items : List Json) (rest : List Char)
    (hj : KeyedItems (item :: items))
    (hfuel : 2 * (dumps item ++ moreItems items).length ≤ fuel + 1) :
    scanItems (fuel + 1) (dumps item ++ (moreItems items ++ rest)) =
      some (item :: items, rest) := by
  rw [KeyedItems] at hj
  rw [List.length_append] at hfuel
  have hvalue : scanValue fuel (dumps item ++ (moreItems items ++ rest)) =
      some (item, moreItems items ++ rest) := by
    refine h.value item _ hj.1 (noDigit_moreItems items rest) ?_
    have hmore : 1 ≤ (moreItems items).length := by
      cases items <;> simp [moreItems]
    omega
  rw [scanItems, hvalue]
  cases items with
  | nil => rfl
  | cons item' items' =>
      rw [moreItems, List.length_cons, List.length_cons] at hfuel
      have hitems := h.items item' items' rest hj.2 (by omega)
      simp [moreItems, skip_of_head, isBlank, skip_space_dumps, hitems]

theorem Reads.entries_succ (h : Reads fuel) (key : String) (value : Json)
    (entries : List (String × Json)) (rest : List Char)
    (hj : KeyedEntries ((key, value) :: entries))
    (hfuel : 2 * (entryText key value (moreEntries entries)).length ≤ fuel + 1) :
    scanEntries (fuel + 1) (entryText key value (moreEntries entries ++ rest)) =
      some ((key, value) :: entries, rest) := by
  rw [KeyedEntries] at hj
  rw [entryText, List.length_append, List.length_cons, List.length_cons, List.length_append]
    at hfuel
  have htext : entryText key value (moreEntries entries ++ rest) = quote ::
      (key.toList.flatMap escape ++ quote ::
        ':' :: ' ' :: (dumps value ++ (moreEntries entries ++ rest))) := by
    simp [entryText, strText]
  have hvalue : scanValue fuel (dumps value ++ (moreEntries entries ++ rest)) =
      some (value, moreEntries entries ++ rest) :=
    h.value value _ hj.1 (noDigit_moreEntries entries rest) (by omega)
  rw [htext, scanEntries]
  cases entries with
  | nil =>
      have hmore : skip (moreEntries [] ++ rest) = '}' :: rest := rfl
      simp [scanStr_flatMap, skip_of_head, isBlank, skip_space_dumps, hvalue, hmore]
  | cons e entries' =>
      obtain ⟨key', value'⟩ := e
      rw [moreEntries, List.length_cons, List.length_cons] at hfuel
      have hmore : skip (moreEntries ((key', value') :: entries') ++ rest) =
          ',' :: ' ' :: entryText key' value' (moreEntries entries' ++ rest) := by
        rw [moreEntries]
        simp [skip, isBlank, entryText]
      have hskip : skip (' ' :: entryText key' value' (moreEntries entries' ++ rest)) =
          entryText key' value' (moreEntries entries' ++ rest) := by
        simp [skip, isBlank, entryText, strText, quote]
      have hentries := h.entries key' value' entries' rest hj.2 (by rw [entryText]; omega)
      simp [scanStr_flatMap, skip_of_head, isBlank, skip_space_dumps, hvalue, hmore, hskip,
        hentries]

end Step

theorem reads (fuel : Nat) : Reads fuel := by
  induction fuel with
  | zero => exact Reads.zero
  | succ fuel ih => exact ⟨ih.value_succ, ih.items_succ, ih.entries_succ⟩

/-- **A value is read back as it was**, with any blanks behind it. -/
theorem loads_dumps {j : Json} (hj : Keyed j) {blanks : List Char} (hblanks : skip blanks = []) :
    loads (dumps j ++ blanks) = some j := by
  have hrest : NoDigit blanks := by
    intro ch hch
    cases blanks with
    | nil => cases hch
    | cons ch' cs =>
        cases hch
        have hblank : isBlank ch = true := by
          by_contra hno
          simp [skip_of_head (by simpa using hno)] at hblanks
        cases hdigit : ch.isDigit with
        | false => rfl
        | true =>
          simp only [isBlank, Bool.or_eq_true, decide_eq_true_eq] at hblank
          obtain ((rfl | rfl) | rfl) | rfl := hblank <;> cases hdigit
  have hvalue := (reads (2 * (dumps j ++ blanks).length + 1)).value j blanks hj hrest
    (by rw [List.length_append]; omega)
  rw [loads, skip_dumps, hvalue]
  simp [hblanks]

end Json

end Py
