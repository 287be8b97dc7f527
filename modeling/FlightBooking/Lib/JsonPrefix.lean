import FlightBooking.Lib.Json

/-!
# JsonPrefix — JSON texts that have been cut short

What the scanners have read of a text they read of every text that goes on from it, and
no closed text is the beginning of another one. So the beginning of a dictionary is not
mistaken for a value. A text that `dumps` has written stands on one line.
-/

namespace Py

namespace Json

/-! ## What has been found -/

/-- What `scanValue` has found, and where. -/
inductive Found (fuel : Nat) : List Char → Json → List Char → Prop
  | null (rest : List Char) : Found fuel ('n' :: 'u' :: 'l' :: 'l' :: rest) .null rest
  | true (rest : List Char) : Found fuel ('t' :: 'r' :: 'u' :: 'e' :: rest) (.bool true) rest
  | false (rest : List Char) :
      Found fuel ('f' :: 'a' :: 'l' :: 's' :: 'e' :: rest) (.bool false) rest
  | nil {cs rest : List Char} (h : skip cs = ']' :: rest) : Found fuel ('[' :: cs) (.list []) rest
  | list {cs rest : List Char} {items : List Json} (hne : ∀ cs', skip cs ≠ ']' :: cs')
      (h : scanItems fuel (skip cs) = some (items, rest)) :
      Found fuel ('[' :: cs) (.list items) rest
  | str {cs rest : List Char} {s : String} (h : scanStr cs = some (s, rest)) :
      Found fuel (quote :: cs) (.str s) rest
  | empty {cs rest : List Char} (h : skip cs = '}' :: rest) :
      Found fuel ('{' :: cs) (.dict []) rest
  | dict {cs rest : List Char} {entries : List (String × Json)}
      (hne : ∀ cs', skip cs ≠ '}' :: cs')
      (h : scanEntries fuel (skip cs) = some (entries, rest)) :
      Found fuel ('{' :: cs) (ofEntries entries) rest
  | int {ch : Char} {cs rest : List Char} {n : Int} (hch : ch.isDigit = true ∨ ch = '-')
      (h : scanInt (ch :: cs) = some (n, rest)) : Found fuel (ch :: cs) (.int n) rest

theorem scanInt_head {ch : Char} {cs : List Char} {p : Int × List Char}
    (h : scanInt (ch :: cs) = some p) : ch.isDigit = true ∨ ch = '-' := by
  unfold scanInt at h
  split at h
  · next cs' heq =>
      cases heq
      exact .inr rfl
  · obtain ⟨p', hdigits, -⟩ := Option.map_eq_some_iff.mp h
    unfold scanDigits at hdigits
    split at hdigits
    · next cs' heq =>
        cases heq
        exact .inl rfl
    · simp only at hdigits
      cases hdigit : ch.isDigit with
      | true => exact .inl rfl
      | false => simp [hdigit] at hdigits

theorem found {fuel : Nat} {cs rest : List Char} {j : Json}
    (h : scanValue (fuel + 1) cs = some (j, rest)) : Found fuel cs j rest := by
  unfold scanValue at h
  split at h
  · cases h
    exact .null rest
  · cases h
    exact .true rest
  · cases h
    exact .false rest
  · split at h
    · next hclose =>
        cases h
        exact .nil hclose
    · next hopen =>
        obtain ⟨⟨items, rest'⟩, hitems, hj⟩ := Option.map_eq_some_iff.mp h
        cases hj
        exact .list hopen hitems
  · split_ifs at h with hquote hbrace
    · obtain ⟨⟨s, rest'⟩, hs, hj⟩ := Option.map_eq_some_iff.mp h
      cases hj
      subst hquote
      exact .str hs
    · subst hbrace
      split at h
      · next hclose =>
          cases h
          exact .empty hclose
      · next hopen =>
          obtain ⟨⟨entries, rest'⟩, hentries, hj⟩ := Option.map_eq_some_iff.mp h
          cases hj
          exact .dict hopen hentries
    · obtain ⟨⟨n, rest'⟩, hn, hj⟩ := Option.map_eq_some_iff.mp h
      cases hj
      exact .int (scanInt_head hn) hn
  · cases h

/-! ## Texts that go on

What has been read up to a closing quote, bracket or brace is read in the same way
when the text goes on. Only an integer may be cut short. -/

section Append

variable {cs rest more : List Char}

theorem skip_append (h : skip cs ≠ []) : skip (cs ++ more) = skip cs ++ more := by
  unfold skip at h ⊢
  rw [List.dropWhile_append, if_neg (by simpa using h)]

theorem skip_append_cons {ch : Char} (h : skip cs = ch :: rest) :
    skip (cs ++ more) = ch :: (rest ++ more) := by
  rw [skip_append (by simp [h]), h, List.cons_append]

theorem scanUnits_unicode (a b c d : Char) :
    scanUnits (backslash :: 'u' :: a :: b :: c :: d :: cs) =
      (hexUnit a b c d).bind fun n => (scanUnits cs).map (consUnit n) := by
  have hne : ¬ backslash = quote := by decide
  simp [scanUnits, hne]

theorem scanUnits_letter {letter : Char} (hu : letter ≠ 'u') :
    scanUnits (backslash :: letter :: cs) =
      (unescape letter).bind fun n => (scanUnits cs).map (consUnit n) := by
  have hne : ¬ backslash = quote := by decide
  rw [scanUnits.eq_def]
  simp [hne, hu]

theorem scanUnits_append {ns : List Nat} (h : scanUnits cs = some (ns, rest)) :
    scanUnits (cs ++ more) = some (ns, rest ++ more) := by
  fun_induction scanUnits cs generalizing ns with
  | case1 => cases h
  | case2 cs =>
      cases h
      exact scanUnits_quote _
  | case3 a b c d cs _ ih =>
      obtain ⟨n, hn, hmap⟩ := Option.bind_eq_some_iff.mp h
      obtain ⟨⟨ns', rest'⟩, hcs, hns⟩ := Option.map_eq_some_iff.mp hmap
      cases hns
      simp [scanUnits_unicode, hn, ih hcs, consUnit]
  | case4 letter cs _ _ ih =>
      obtain ⟨n, hn, hmap⟩ := Option.bind_eq_some_iff.mp h
      obtain ⟨⟨ns', rest'⟩, hcs, hns⟩ := Option.map_eq_some_iff.mp hmap
      cases hns
      have hu : letter ≠ 'u' := by
        rintro rfl
        cases hn
      simp [scanUnits_letter hu, hn, ih hcs, consUnit]
  | case5 => cases h
  | case6 => cases h
  | case7 ch cs hquote hbackslash hlow ih =>
      obtain ⟨⟨ns', rest'⟩, hcs, hns⟩ := Option.map_eq_some_iff.mp h
      cases hns
      rw [List.cons_append, scanUnits_plain hquote hbackslash hlow, ih hcs]
      rfl

theorem scanStr_append {s : String} (h : scanStr cs = some (s, rest)) :
    scanStr (cs ++ more) = some (s, rest ++ more) := by
  simp only [scanStr, Option.bind_eq_bind, Option.bind_eq_some_iff] at h
  obtain ⟨⟨ns, rest'⟩, hunits, cs', hjoin, hs⟩ := h
  cases hs
  simp [scanStr, scanUnits_append hunits, hjoin]

theorem scanDigits_append {n : Nat} (h : scanDigits cs = some (n, rest)) (hrest : rest ≠ []) :
    scanDigits (cs ++ more) = some (n, rest ++ more) := by
  unfold scanDigits at h
  split at h
  · next cs' =>
      cases h
      rfl
  · next hzero =>
      simp only at h
      split at h
      · cases h
      · next hne =>
          cases h
          have htake : (cs ++ more).takeWhile Char.isDigit = cs.takeWhile Char.isDigit := by
            rw [List.takeWhile_append, if_neg]
            intro hall
            apply hrest
            have hsplit : cs.takeWhile Char.isDigit ++ cs.dropWhile Char.isDigit = cs :=
              List.takeWhile_append_dropWhile
            have hlength := congrArg List.length hsplit
            rw [List.length_append] at hlength
            exact List.length_eq_zero_iff.mp (by omega)
          have hdrop : (cs ++ more).dropWhile Char.isDigit = cs.dropWhile Char.isDigit ++ more := by
            rw [List.dropWhile_append, if_neg (by simpa using hrest)]
          unfold scanDigits
          split
          · next cs' heq =>
              cases cs with
              | nil => exact absurd rfl hrest
              | cons ch cs =>
                  cases heq
                  exact absurd rfl (hzero cs)
          · rw [htake, hdrop]
            simp [hne]

theorem scanInt_append {n : Int} (h : scanInt cs = some (n, rest)) (hrest : rest ≠ []) :
    scanInt (cs ++ more) = some (n, rest ++ more) := by
  unfold scanInt at h
  split at h
  · next cs' =>
      obtain ⟨⟨m, rest'⟩, hcs, hm⟩ := Option.map_eq_some_iff.mp h
      cases hm
      simp [scanInt, scanDigits_append hcs hrest]
  · next hminus =>
      obtain ⟨⟨m, rest'⟩, hcs, hm⟩ := Option.map_eq_some_iff.mp h
      cases hm
      unfold scanInt
      split
      · next cs' heq =>
          cases cs with
          | nil => cases hcs
          | cons ch cs =>
              cases heq
              exact absurd rfl (hminus cs)
      · simp [scanDigits_append hcs hrest]

end Append

/-- What has been read with `fuel` steps is read with more of them from any text that
goes on. -/
structure Extends (fuel : Nat) : Prop where
  value : ∀ fuel' cs j rest more, fuel ≤ fuel' → scanValue fuel cs = some (j, rest) →
    (rest = [] → ∀ n, j ≠ .int n) → scanValue fuel' (cs ++ more) = some (j, rest ++ more)
  items : ∀ fuel' cs items rest more, fuel ≤ fuel' → scanItems fuel cs = some (items, rest) →
    scanItems fuel' (cs ++ more) = some (items, rest ++ more)
  entries : ∀ fuel' cs entries rest more, fuel ≤ fuel' →
    scanEntries fuel cs = some (entries, rest) →
    scanEntries fuel' (cs ++ more) = some (entries, rest ++ more)

@[simp] theorem scanValue_nil (fuel : Nat) : scanValue fuel [] = none := by
  cases fuel <;> rw [scanValue]

@[simp] theorem scanItems_nil (fuel : Nat) : scanItems fuel [] = none := by
  cases fuel <;> simp [scanItems]

@[simp] theorem scanEntries_nil (fuel : Nat) : scanEntries fuel [] = none := by
  cases fuel <;> rw [scanEntries]

/-- The text after a bracket goes on; its first token is the one it was. -/
theorem skip_append_open {ch : Char} {cs : List Char} (hne : skip cs ≠ [])
    (h : ∀ cs', skip cs ≠ ch :: cs') (more : List Char) :
    skip (cs ++ more) = skip cs ++ more ∧ ∀ cs', skip (cs ++ more) ≠ ch :: cs' := by
  refine ⟨skip_append hne, ?_⟩
  rw [skip_append hne]
  cases hcs : skip cs with
  | nil => exact absurd hcs hne
  | cons ch' cs' =>
      intro cs'' heq
      cases heq
      exact h cs' hcs

section Step

variable {fuel fuel' : Nat} {cs rest : List Char}

theorem Extends.value_succ (h : Extends fuel) (j : Json) (more : List Char)
    (hfuel : fuel + 1 ≤ fuel') (hscan : scanValue (fuel + 1) cs = some (j, rest))
    (hint : rest = [] → ∀ n, j ≠ .int n) :
    scanValue fuel' (cs ++ more) = some (j, rest ++ more) := by
  obtain ⟨fuel', rfl⟩ : ∃ n, fuel' = n + 1 := ⟨fuel' - 1, by omega⟩
  have hle : fuel ≤ fuel' := by omega
  cases found hscan with
  | null => rfl
  | true => rfl
  | false => rfl
  | nil hclose =>
      rw [List.cons_append, scanValue.eq_def]
      simp only [skip_append_cons hclose]
  | @list cs _ items hopen hitems =>
      have hne : skip cs ≠ [] := by
        intro hnil
        simp [hnil] at hitems
      obtain ⟨hskip, hopen'⟩ := skip_append_open hne hopen more
      rw [List.cons_append, scanValue_list hopen', hskip,
        h.items fuel' _ _ rest more hle hitems]
      rfl
  | str hs =>
      rw [List.cons_append, scanValue_str, scanStr_append hs]
      rfl
  | empty hclose =>
      rw [List.cons_append, scanValue.eq_def]
      have hquote : ¬ '{' = quote := by decide
      simp [hquote, skip_append_cons hclose]
  | @dict cs _ entries hopen hentries =>
      have hne : skip cs ≠ [] := by
        intro hnil
        simp [hnil] at hentries
      obtain ⟨hskip, hopen'⟩ := skip_append_open hne hopen more
      rw [List.cons_append, scanValue_dict hopen', hskip,
        h.entries fuel' _ _ rest more hle hentries]
      rfl
  | int hch hn =>
      have hne : rest ≠ [] := fun hnil => hint hnil _ rfl
      rw [List.cons_append, scanValue_int hch, ← List.cons_append, scanInt_append hn hne]
      rfl

theorem Extends.items_succ (h : Extends fuel) (items : List Json) (more : List Char)
    (hfuel : fuel + 1 ≤ fuel') (hscan : scanItems (fuel + 1) cs = some (items, rest)) :
    scanItems fuel' (cs ++ more) = some (items, rest ++ more) := by
  obtain ⟨fuel', rfl⟩ : ∃ n, fuel' = n + 1 := ⟨fuel' - 1, by omega⟩
  have hle : fuel ≤ fuel' := by omega
  rw [scanItems, Option.bind_eq_bind, Option.bind_eq_some_iff] at hscan
  obtain ⟨⟨item, cs'⟩, hvalue, hscan⟩ := hscan
  have hne : cs' ≠ [] := by
    rintro rfl
    cases hscan
  simp only at hscan
  rw [scanItems, h.value fuel' cs item cs' more hle hvalue fun hnil => absurd hnil hne]
  simp only [Option.bind_eq_bind, Option.bind_some]
  split at hscan
  · next rest' hclose =>
      cases hscan
      simp [skip_append_cons hclose]
  · next rest' hcomma =>
      obtain ⟨⟨items', rest''⟩, hitems, hj⟩ := Option.bind_eq_some_iff.mp hscan
      cases hj
      have hne' : skip rest' ≠ [] := by
        intro hnil
        simp [hnil] at hitems
      simp only [skip_append_cons hcomma, skip_append hne',
        h.items fuel' _ items' rest'' more hle hitems]
      rfl
  · cases hscan

theorem Extends.entries_succ (h : Extends fuel) (entries : List (String × Json))
    (more : List Char) (hfuel : fuel + 1 ≤ fuel')
    (hscan : scanEntries (fuel + 1) cs = some (entries, rest)) :
    scanEntries fuel' (cs ++ more) = some (entries, rest ++ more) := by
  obtain ⟨fuel', rfl⟩ : ∃ n, fuel' = n + 1 := ⟨fuel' - 1, by omega⟩
  have hle : fuel ≤ fuel' := by omega
  unfold scanEntries at hscan
  split at hscan
  · cases hscan
  · next ch cs' =>
      split at hscan
      · cases hscan
      · next hquote =>
          obtain ⟨⟨key, cs₁⟩, hkey, hscan⟩ := Option.bind_eq_some_iff.mp hscan
          simp only at hscan
          split at hscan
          · next cs₂ hcolon =>
              obtain ⟨⟨value, cs₃⟩, hvalue, hscan⟩ := Option.bind_eq_some_iff.mp hscan
              have hne : skip cs₂ ≠ [] := by
                intro hnil
                simp [hnil] at hvalue
              have hne' : cs₃ ≠ [] := by
                rintro rfl
                cases hscan
              have hvalue' := h.value fuel' _ value cs₃ more hle hvalue
                fun hnil => absurd hnil hne'
              simp only at hscan
              split at hscan
              · next cs₄ hclose =>
                  cases hscan
                  simp [scanEntries, hquote, scanStr_append hkey, skip_append_cons hcolon,
                    skip_append hne, hvalue', skip_append_cons hclose]
              · next cs₄ hcomma =>
                  obtain ⟨⟨entries', cs₅⟩, hentries, hj⟩ := Option.bind_eq_some_iff.mp hscan
                  cases hj
                  have hne'' : skip cs₄ ≠ [] := by
                    intro hnil
                    simp [hnil] at hentries
                  have hentries' := h.entries fuel' _ entries' cs₅ more hle hentries
                  simp [scanEntries, hquote, scanStr_append hkey, skip_append_cons hcolon,
                    skip_append hne, hvalue', skip_append_cons hcomma, skip_append hne'',
                    hentries']
              · cases hscan
          · cases hscan

end Step

theorem extends_all (fuel : Nat) : Extends fuel := by
  induction fuel with
  | zero => exact ⟨by simp [scanValue], by simp [scanItems], by simp [scanEntries]⟩
  | succ fuel ih =>
      exact ⟨fun _ _ j _ more hfuel => ih.value_succ j more hfuel,
        fun _ _ items _ more hfuel => ih.items_succ items more hfuel,
        fun _ _ entries _ more hfuel => ih.entries_succ entries more hfuel⟩

/-- **A dictionary that has been cut short is not read at all**, neither as it was
nor as anything else. -/
theorem loads_truncated {entries : List (String × Json)} (hj : Keyed (dict entries))
    {text more : List Char} (hsplit : dumps (dict entries) = text ++ more) (hmore : more ≠ []) :
    loads text = none := by
  cases hload : loads text with
  | none => rfl
  | some j =>
      exfalso
      simp only [loads, Option.bind_eq_bind, Option.bind_eq_some_iff] at hload
      obtain ⟨⟨j', rest⟩, hscan, -⟩ := hload
      cases text with
      | nil =>
          have hskip : skip [] = [] := rfl
          simp [hskip] at hscan
      | cons ch cs =>
          have hch : ch = '{' := by
            have hhead := congrArg List.head? hsplit
            cases entries <;> rw [dumps] at hhead <;> exact (Option.some.inj hhead).symm
          subst hch
          have hskip : skip ('{' :: cs) = '{' :: cs := skip_of_head (by decide) cs
          rw [hskip] at hscan
          have hdict : rest = [] → ∀ n, j' ≠ .int n := by
            rintro - n rfl
            cases found hscan with
            | int hch hn => rcases hch with hch | hch <;> cases hch
          -- the text that goes on is read as far as the text, so nothing goes on
          have hread := (reads (2 * (dumps (dict entries)).length + 1)).value (dict entries) [] hj
            (by simp [NoDigit]) (by omega)
          rw [List.append_nil, hsplit] at hread
          have hlong := (extends_all _).value (2 * ('{' :: cs ++ more).length + 1) _ _ _ more
            (by rw [List.length_append]; omega) hscan hdict
          rw [hlong, Option.some.injEq, Prod.mk.injEq, List.append_eq_nil_iff] at hread
          exact hmore hread.2.2

/-! ## What is written -/

/-- No control character and nothing beyond ASCII. -/
def Printable (cs : List Char) : Prop := ∀ ch ∈ cs, 32 ≤ ch.toNat ∧ ch.toNat ≤ 126

theorem Printable.cons {ch : Char} {cs : List Char} (h : 32 ≤ ch.toNat ∧ ch.toNat ≤ 126)
    (hcs : Printable cs) : Printable (ch :: cs) := by
  intro ch' hch'
  rcases List.mem_cons.mp hch' with rfl | hmem
  · exact h
  · exact hcs ch' hmem

theorem Printable.append {cs cs' : List Char} (h : Printable cs) (h' : Printable cs') :
    Printable (cs ++ cs') := by
  intro ch hch
  rcases List.mem_append.mp hch with hmem | hmem
  · exact h ch hmem
  · exact h' ch hmem

theorem Printable.nil : Printable [] := by
  intro ch hch
  cases hch

theorem Printable.flatMap {α : Type} {f : α → List Char} {as : List α}
    (h : ∀ a ∈ as, Printable (f a)) : Printable (as.flatMap f) := by
  intro ch hch
  obtain ⟨a, ha, hmem⟩ := List.mem_flatMap.mp hch
  exact h a ha ch hmem

theorem unicodeEscape_printable {n : Nat} (h : n < 0x10000) : Printable (unicodeEscape n) := by
  have hdigit : ∀ d < 16, 32 ≤ (Nat.digitChar d).toNat ∧ (Nat.digitChar d).toNat ≤ 126 := by
    decide
  refine .cons (by decide) (.cons (by decide) (.cons (hdigit _ (by omega)) (.cons ?_ ?_)))
  · exact hdigit _ (by omega)
  · exact .cons (hdigit _ (by omega)) (.cons (hdigit _ (by omega)) .nil)

theorem escape_printable (ch : Char) : Printable (escape ch) := by
  unfold escape
  split
  · next letter h =>
      refine .cons (by decide) (.cons ?_ .nil)
      unfold shortEscape at h
      split_ifs at h <;> cases h <;> decide
  · split
    · next hascii => exact .cons hascii .nil
    · exact .flatMap fun n hn => unicodeEscape_printable (units_lt ch n hn)

theorem strText_printable (s : String) : Printable (strText s) :=
  .cons (by decide) (.append (.flatMap fun ch _ => escape_printable ch) (.cons (by decide) .nil))

theorem intText_printable (n : Int) : Printable (intText n) := by
  have hdigits : Printable (Nat.toDigits 10 n.natAbs) := by
    intro ch hch
    have hdigit := Decimal.digits_toDigits n.natAbs ch hch
    simp only [Char.isDigit, Bool.and_eq_true, decide_eq_true_eq, UInt32.le_iff_toNat_le] at hdigit
    have hlow : 48 ≤ ch.toNat := hdigit.1
    have hhigh : ch.toNat ≤ 57 := hdigit.2
    omega
  unfold intText
  split
  · exact .cons (by decide) hdigits
  · exact hdigits

mutual

theorem dumps_printable : ∀ j, Printable (dumps j)
  | null => by simp [dumps, Printable]
  | bool true => by simp [dumps, Printable]
  | bool false => by simp [dumps, Printable]
  | int n => by
      rw [dumps]
      exact intText_printable n
  | str s => by
      rw [dumps]
      exact strText_printable s
  | list [] => by simp [dumps, Printable]
  | list (item :: rest) => by
      rw [dumps]
      exact .cons (by decide) ((dumps_printable item).append (moreItems_printable rest))
  | dict [] => by simp [dumps, Printable]
  | dict ((key, value) :: rest) => by
      rw [dumps]
      have hvalue := (dumps_printable value).append (moreEntries_printable rest)
      exact .cons (by decide) ((strText_printable key).append
        (.cons (by decide) (.cons (by decide) hvalue)))

theorem moreItems_printable : ∀ items, Printable (moreItems items)
  | [] => by simp [moreItems, Printable]
  | item :: rest => by
      rw [moreItems]
      have hrest := (dumps_printable item).append (moreItems_printable rest)
      exact .cons (by decide) (.cons (by decide) hrest)

theorem moreEntries_printable : ∀ entries, Printable (moreEntries entries)
  | [] => by simp [moreEntries, Printable]
  | (key, value) :: rest => by
      rw [moreEntries]
      have hvalue := (dumps_printable value).append (moreEntries_printable rest)
      exact .cons (by decide) (.cons (by decide) ((strText_printable key).append
        (.cons (by decide) (.cons (by decide) hvalue))))

end

end Json

end Py
