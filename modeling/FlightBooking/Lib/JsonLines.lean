import FlightBooking.Lib.JsonPrefix
import FlightBooking.Lib.TextFile

/-!
# JsonLines — files with one value on each line

A file to which dictionaries are appended, one line each, and which is read line by
line, blank lines left out. It reads as what was written to it, and what is left of it
when it is cut short does not read, or reads as the first of them.
-/

namespace Py

namespace Json

theorem dumps_oneLine (j : Json) : TextFile.OneLine j.dumps := by
  have hascii := dumps_printable j
  constructor <;> intro hmem
  · exact absurd (hascii _ hmem).1 (by decide)
  · exact absurd (hascii _ hmem).1 (by decide)

/-- What stands on a line: a dictionary, no key twice. -/
structure Record (j : Json) : Prop where
  keyed : j.Keyed
  isDict : ∃ entries, j = .dict entries

/-- The text of a record begins with a brace. -/
theorem Record.head {j : Json} (h : j.Record) : ∃ cs, j.dumps = '{' :: cs := by
  obtain ⟨entries, rfl⟩ := h.isDict
  cases entries <;> exact ⟨_, by rw [dumps]⟩

/-- A record that has been cut short is not read. -/
theorem Record.loads_truncated {j : Json} (h : j.Record) {text more : List Char}
    (hsplit : j.dumps = text ++ more) (hmore : more ≠ []) : loads text = none := by
  obtain ⟨entries, rfl⟩ := h.isDict
  exact Json.loads_truncated h.keyed hsplit hmore

end Json

namespace JsonLines

/-- A line that `strip` leaves nothing of. -/
def blank (line : List Char) : Bool := Decimal.strip line = []

/-- The values on the lines that are not blank. -/
def read (content : List Char) : Option (List Json) :=
  ((TextFile.lines content).filter fun line => !blank line).mapM Json.loads

/-- The file after the values. -/
def written (js : List Json) : List Char := TextFile.text (js.map Json.dumps)

theorem written_append (js js' : List Json) : written (js ++ js') = written js ++ written js' := by
  rw [written, List.map_append, TextFile.text_append]
  rfl

theorem written_singleton (j : Json) : written [j] = j.dumps ++ ['\n'] := by
  simp [written, TextFile.text]

theorem blank_of_mem {line : List Char} {ch : Char} (hmem : ch ∈ line)
    (hch : Decimal.isSpace ch = false) : blank line = false := by
  rw [blank, decide_eq_false_iff_not, Decimal.strip, List.reverse_eq_nil_iff,
    List.dropWhile_eq_nil_iff]
  intro hall
  cases hdrop : line.dropWhile Decimal.isSpace with
  | nil =>
      rw [List.dropWhile_eq_nil_iff.mp hdrop ch hmem] at hch
      cases hch
  | cons ch' rest =>
      have hhead : Decimal.isSpace ch' = true := hall ch' (by simp [hdrop])
      have hfirst := List.head?_dropWhile_not Decimal.isSpace line
      rw [hdrop] at hfirst
      simp [hhead] at hfirst

section Read

variable {js : List Json}

theorem filter_lines (hjs : ∀ j ∈ js, j.Record) :
    ((js.map Json.dumps).map (· ++ ['\n'])).filter (fun line => !blank line) =
      (js.map Json.dumps).map (· ++ ['\n']) := by
  rw [List.filter_eq_self]
  intro line hline
  obtain ⟨text, htext, rfl⟩ := List.mem_map.mp hline
  obtain ⟨j, hj, rfl⟩ := List.mem_map.mp htext
  obtain ⟨cs, hcs⟩ := (hjs j hj).head
  have hbrace : '{' ∈ j.dumps ++ ['\n'] := by simp [hcs]
  rw [blank_of_mem hbrace (by decide)]
  rfl

theorem mapM_lines (hjs : ∀ j ∈ js, j.Record) :
    ((js.map Json.dumps).map (· ++ ['\n'])).mapM Json.loads = some js := by
  induction js with
  | nil => rfl
  | cons j js ih =>
      obtain ⟨hj, hrest⟩ := List.forall_mem_cons.mp hjs
      have hload : Json.loads (j.dumps ++ ['\n']) = some j := Json.loads_dumps hj.keyed rfl
      simp only [List.map_cons, List.mapM_cons, hload, ih hrest]
      rfl

/-- Whole lines, and what stands behind the last newline. -/
theorem read_lines (hjs : ∀ j ∈ js, j.Record) {last : List Char}
    (hlast : TextFile.OneLine last) :
    read (written js ++ last) =
      if blank last then some js else (Json.loads last).map fun j => js ++ [j] := by
  have hlines : ∀ line ∈ js.map Json.dumps, TextFile.OneLine line := by
    intro line hline
    obtain ⟨j, -, rfl⟩ := List.mem_map.mp hline
    exact Json.dumps_oneLine j
  have hempty : blank [] = true := rfl
  rw [read, written, TextFile.lines_text hlines hlast, List.filter_append, filter_lines hjs,
    List.mapM_append, mapM_lines hjs]
  cases hblank : blank last with
  | true =>
      by_cases hnil : last = [] <;> simp [hnil, hblank]
  | false =>
      have hnil : last ≠ [] := by
        rintro rfl
        cases hblank
      cases hload : Json.loads last <;> simp [hnil, hblank, hload]

/-- **What was written is read.** -/
theorem read_written (hjs : ∀ j ∈ js, j.Record) : read (written js) = some js := by
  have hnothing : TextFile.OneLine [] := ⟨by simp, by simp⟩
  have hread := read_lines hjs hnothing
  rw [List.append_nil] at hread
  exact hread

/-- A beginning of the texts is the texts of a beginning. -/
theorem prefix_of_dumps {ls : List (List Char)} (h : ls <+: js.map Json.dumps) :
    ∃ js', js' <+: js ∧ ls = js'.map Json.dumps := by
  refine ⟨js.take ls.length, List.take_prefix _ _, ?_⟩
  rw [List.map_take]
  exact List.prefix_iff_eq_take.mp h

/-- The beginning of a line behind whole ones: all of it, or nothing, or what is not read. -/
theorem read_torn (hjs : ∀ j ∈ js, j.Record) {j : Json} (hj : j.Record) {last more : List Char}
    (hsplit : j.dumps = last ++ more) {found : List Json}
    (h : read (written js ++ last) = some found) :
    last = [] ∧ found = js ∨ more = [] ∧ found = js ++ [j] := by
  have hone : TextFile.OneLine last := by
    have hplain := Json.dumps_oneLine j
    rw [hsplit] at hplain
    exact ⟨fun hmem => hplain.1 (by simp [hmem]), fun hmem => hplain.2 (by simp [hmem])⟩
  rw [read_lines hjs hone] at h
  cases last with
  | nil => exact .inl ⟨rfl, (Option.some.inj h).symm⟩
  | cons ch cs =>
      obtain ⟨cs', hbrace⟩ := hj.head
      have hch : ch = '{' := by
        rw [hsplit] at hbrace
        exact (List.cons.inj hbrace).1
      subst hch
      have hmem : '{' ∈ '{' :: cs := List.mem_cons_self
      have hblank : blank ('{' :: cs) = false := blank_of_mem hmem (by decide)
      cases more with
      | nil =>
          rw [List.append_nil] at hsplit
          have hload : Json.loads ('{' :: cs) = some j := by
            rw [← hsplit, ← List.append_nil j.dumps]
            exact Json.loads_dumps hj.keyed rfl
          simp only [hblank, hload, Bool.false_eq_true, if_false, Option.map_some] at h
          exact .inr ⟨rfl, (Option.some.inj h).symm⟩
      | cons ch' more' =>
          rw [hj.loads_truncated hsplit (by simp)] at h
          simp [hblank] at h

/-- **A file that has been cut short** and still reads, reads as the first of what was
written, and lacks nothing of these but the last newline. -/
theorem read_take (hjs : ∀ j ∈ js, j.Record) {n : Nat} {found : List Json}
    (h : read ((written js).take n) = some found) :
    found <+: js ∧ ((written js).take n = written found ∨
      (written js).take n ++ ['\n'] = written found) := by
  obtain ⟨done, last, htake, hdone, hlast⟩ := TextFile.take_text (js.map Json.dumps) n
  have htake : (written js).take n = TextFile.text done ++ last := htake
  rw [htake] at h ⊢
  rcases hlast with rfl | hnext
  · -- cut at the end of a line
    obtain ⟨js', hkept, rfl⟩ := prefix_of_dumps hdone
    have hread : read (TextFile.text (js'.map Json.dumps)) = some js' :=
      read_written fun j hj => hjs j (hkept.mem hj)
    rw [List.append_nil, hread] at h
    cases h
    rw [List.append_nil]
    exact ⟨hkept, .inl rfl⟩
  · -- cut in a line, or before its newline
    obtain ⟨line, more, hline, hsplit⟩ := hnext
    obtain ⟨js', hkept, htexts⟩ := prefix_of_dumps hline
    obtain ⟨front, back, rfl, hfront, hback⟩ := List.map_eq_append_iff.mp htexts.symm
    obtain ⟨j, rfl, rfl⟩ : ∃ j, back = [j] ∧ j.dumps = line := by
      simpa [List.map_eq_singleton_iff] using hback
    subst hfront
    have hrecord : j.Record := hjs j (hkept.mem (by simp))
    have hwhole : ∀ j' ∈ front, j'.Record := fun j' hj' => hjs j' (hkept.mem (by simp [hj']))
    rcases read_torn hwhole hrecord hsplit h with ⟨rfl, rfl⟩ | ⟨rfl, rfl⟩
    · rw [List.append_nil]
      exact ⟨(List.prefix_append found [j]).trans hkept, .inl rfl⟩
    · rw [List.append_nil] at hsplit
      refine ⟨hkept, .inr ?_⟩
      rw [written_append, written_singleton, hsplit, List.append_assoc]
      rfl

end Read

end JsonLines

end Py
