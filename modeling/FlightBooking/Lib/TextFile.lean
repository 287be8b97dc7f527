import Mathlib.Data.List.Basic
import FlightBooking.Lib.Effect

/-!
# TextFile — the lines of a text file

A file opened for reading in text mode: every line ending is read as `\n`, and iteration
gives the lines one by one, each with its newline; the last one may lack it. A file that
has been cut short has lost its last lines and perhaps a part of one.
-/

namespace Py

namespace TextFile

/-- Universal newlines: `\r\n` and `\r` are read as `\n`. -/
def universalNewlines : List Char → List Char
  | [] => []
  | '\r' :: '\n' :: cs => '\n' :: universalNewlines cs
  | '\r' :: cs => '\n' :: universalNewlines cs
  | ch :: cs => ch :: universalNewlines cs

/-- The text cut after each newline. -/
def splitLines : List Char → List (List Char)
  | [] => []
  | ch :: cs =>
      if ch = '\n' then [ch] :: splitLines cs
      else
        match splitLines cs with
        | [] => [[ch]]
        | line :: rest => (ch :: line) :: rest

/-- The lines of a file. -/
def lines (content : List Char) : List (List Char) := splitLines (universalNewlines content)

/-- The text has no line ending. -/
def OneLine (cs : List Char) : Prop := '\n' ∉ cs ∧ '\r' ∉ cs

/-- The text of the lines, each with its newline. -/
def text (ls : List (List Char)) : List Char := ls.flatMap fun line => line ++ ['\n']

@[simp] theorem text_cons (line : List Char) (ls : List (List Char)) :
    text (line :: ls) = line ++ '\n' :: text ls := by
  simp [text]

theorem text_append (ls ls' : List (List Char)) : text (ls ++ ls') = text ls ++ text ls' :=
  List.flatMap_append

theorem universalNewlines_of_no_return {cs : List Char} (h : '\r' ∉ cs) :
    universalNewlines cs = cs := by
  fun_induction universalNewlines cs with
  | case1 => rfl
  | case2 cs ih => simp at h
  | case3 cs _ ih => simp at h
  | case4 ch cs _ _ ih => rw [ih fun hmem => h (List.mem_cons_of_mem _ hmem)]

theorem splitLines_line {line : List Char} (h : '\n' ∉ line) (cs : List Char) :
    splitLines (line ++ '\n' :: cs) = (line ++ ['\n']) :: splitLines cs := by
  induction line with
  | nil => simp [splitLines]
  | cons ch line ih =>
      obtain ⟨hch, hline⟩ := not_or.mp (List.mem_cons.not.mp h)
      rw [List.cons_append, splitLines, if_neg (Ne.symm hch), ih hline]
      rfl

theorem splitLines_last {line : List Char} (h : '\n' ∉ line) (hne : line ≠ []) :
    splitLines line = [line] := by
  induction line with
  | nil => exact absurd rfl hne
  | cons ch line ih =>
      obtain ⟨hch, hline⟩ := not_or.mp (List.mem_cons.not.mp h)
      rw [splitLines, if_neg (Ne.symm hch)]
      cases line with
      | nil => rfl
      | cons ch' line' => rw [ih hline (by simp)]

/-- What is left of the last line stands behind the whole ones. -/
theorem splitLines_text {ls : List (List Char)} (h : ∀ line ∈ ls, '\n' ∉ line)
    {last : List Char} (hlast : '\n' ∉ last) :
    splitLines (text ls ++ last) =
      ls.map (· ++ ['\n']) ++ if last = [] then [] else [last] := by
  induction ls with
  | nil =>
      by_cases hne : last = []
      · simp [text, hne, splitLines]
      · simp [text, hne, splitLines_last hlast hne]
  | cons line ls ih =>
      obtain ⟨hline, hls⟩ := List.forall_mem_cons.mp h
      rw [text_cons, List.append_assoc, List.cons_append, splitLines_line hline, ih hls]
      simp

theorem lines_text {ls : List (List Char)} (h : ∀ line ∈ ls, OneLine line)
    {last : List Char} (hlast : OneLine last) :
    lines (text ls ++ last) = ls.map (· ++ ['\n']) ++ if last = [] then [] else [last] := by
  have hreturn : '\r' ∉ text ls ++ last := by
    simp only [text, List.mem_append, List.mem_flatMap, List.mem_singleton, not_or, not_exists,
      not_and]
    exact ⟨fun line hline => ⟨(h line hline).2, by decide⟩, hlast.2⟩
  rw [lines, universalNewlines_of_no_return hreturn,
    splitLines_text (fun line hline => (h line hline).1) hlast.1]

/-- **A text that has been cut short**: whole lines, then a beginning of the next one. -/
theorem take_text (ls : List (List Char)) (n : Nat) :
    ∃ done last, (text ls).take n = text done ++ last ∧ done <+: ls ∧
      (last = [] ∨ ∃ line more, done ++ [line] <+: ls ∧ line = last ++ more) := by
  induction ls generalizing n with
  | nil => exact ⟨[], [], by simp [text], List.prefix_rfl, .inl rfl⟩
  | cons line ls ih =>
      by_cases hn : n ≤ line.length
      · refine ⟨[], line.take n, ?_, List.nil_prefix, .inr ⟨line, line.drop n, ?_, ?_⟩⟩
        · rw [text_cons, List.take_append_of_le_length hn]
          rfl
        · exact List.prefix_append [line] ls
        · exact (List.take_append_drop n line).symm
      · obtain ⟨done, last, htake, hdone, hlast⟩ := ih (n - line.length - 1)
        refine ⟨line :: done, last, ?_, (List.prefix_cons_inj line).mpr hdone, ?_⟩
        · obtain ⟨k, rfl⟩ : ∃ k, n = line.length + 1 + k := ⟨n - line.length - 1, by omega⟩
          have hlong : (line ++ '\n' :: text ls).take (line.length + 1 + k) =
              line ++ '\n' :: (text ls).take k := by
            rw [Nat.add_assoc, List.take_length_add_append, Nat.add_comm 1, List.take_succ_cons]
          have hk : line.length + 1 + k - line.length - 1 = k := by omega
          rw [hk] at htake
          rw [text_cons, hlong, htake]
          simp
        · refine hlast.imp_right fun ⟨next, more, hnext, hsplit⟩ => ⟨next, more, ?_, hsplit⟩
          exact (List.prefix_cons_inj line).mpr hnext

end TextFile

end Py
