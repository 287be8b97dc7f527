import Mathlib.Data.Fintype.Card
import Mathlib.Data.Finset.Max
import FlightBooking.Lib.Interleave

/-!
# Progress — every process gets to its end

An endless schedule is fair if everybody's turn comes again and again. A process is a
tree of calls, so it ends after some of its own turns; one that waits for the mutex
wastes them. What it waits for is a process under way, which never waits, and when that
one ends there is one less to wait for.
-/

namespace Py

variable {F : Type} {V : F → Type} {σ ε ι : Type}

/-- Everybody's turn comes again and again. -/
def Fair (schedule : ℕ → ι) : Prop := ∀ i n, ∃ m, n ≤ m ∧ schedule m = i

/-- At its end a process does nothing. -/
theorem Proc.step_finished {h : (f : F) → Eff σ ε (V f)} {α : Type} {p : Proc F V ε α}
    (hp : p.finished = true) (s : σ) : p.step h s = (p, s) := by
  cases p with
  | ret a => rfl
  | raise e => rfl
  | call f k => cases hp

namespace Pool

variable [DecidableEq ι] {h : (f : F) → Eff σ ε (V f)} {w : Pool F V σ ε ι}
  {schedule : ℕ → ι} {i j : ι} {n m : ℕ}

/-- The pool after the first `n` turns. -/
def after (h : (f : F) → Eff σ ε (V f)) (w : Pool F V σ ε ι) (schedule : ℕ → ι) (n : ℕ) :
    Pool F V σ ε ι :=
  w.turns h ((List.range n).map schedule)

theorem after_succ (n : ℕ) :
    w.after h schedule (n + 1) = (w.after h schedule n).turn h (schedule n) := by
  simp [after, turns, List.range_succ]

/-! ## One turn -/

/-- Who has the mutex is under way. -/
def Sane (w : Pool F V σ ε ι) : Prop :=
  ∀ i, w.holder = some i → w.critical i = true ∧ (w.proc i).finished = false

theorem turn_proc_ne (hne : i ≠ j) : (w.turn h j).proc i = w.proc i := by
  unfold turn
  split
  · rfl
  · exact Function.update_of_ne hne _ _

/-- A process at its end stays there. -/
theorem turn_finished (hdone : (w.proc i).finished = true) (j : ι) :
    ((w.turn h j).proc i).finished = true := by
  by_cases hij : i = j
  · subst hij
    cases hb : w.blocked i with
    | true =>
        rw [turn_blocked hb]
        exact hdone
    | false =>
        rw [turn_ready hb]
        simp [Proc.step_finished hdone, hdone]
  · rw [turn_proc_ne hij]
    exact hdone

theorem blocked_of_held (hj : w.holder = some j) (hc : w.critical i = true) (hne : i ≠ j) :
    w.blocked i = true := by
  simp [blocked, hc, hj, Ne.symm hne]

/-- The others leave the mutex with its holder. -/
theorem turn_holder_ne (hj : w.holder = some j) (hne : i ≠ j) :
    (w.turn h i).holder = some j := by
  cases hb : w.blocked i with
  | true =>
      rw [turn_blocked hb]
      exact hj
  | false =>
      rw [turn_ready hb]
      cases hc : w.critical i with
      | false => simpa using hj
      | true =>
          rw [blocked_of_held hj hc hne] at hb
          cases hb

/-- Who has the mutex, or finds it free, goes on. -/
theorem not_blocked (hj : w.holder = none ∨ w.holder = some i) : w.blocked i = false := by
  rcases hj with hj | hj <;> simp [blocked, hj]

theorem Sane.turn (hw : w.Sane) (i : ι) : (w.turn h i).Sane := by
  intro j hj
  rw [turn_critical]
  cases hb : w.blocked i with
  | true =>
      rw [turn_blocked hb] at hj ⊢
      exact hw j hj
  | false =>
      rw [turn_ready hb] at hj ⊢
      cases hc : w.critical i with
      | true =>
          cases hdone : ((w.proc i).step h w.shared).1.finished with
          | true => simp [hc, hdone] at hj
          | false =>
              obtain rfl : i = j := by simpa [hc, hdone] using hj
              simpa using ⟨hc, hdone⟩
      | false =>
          have hj' : w.holder = some j := by simpa [hc] using hj
          obtain ⟨hcj, hrun⟩ := hw j hj'
          have hne : j ≠ i := by
            rintro rfl
            rw [hc] at hcj
            cases hcj
          simpa [Function.update_of_ne hne] using ⟨hcj, hrun⟩

/-! ## Along the schedule -/

theorem Sane.after (hw : w.Sane) (h : (f : F) → Eff σ ε (V f)) (schedule : ℕ → ι) (n : ℕ) :
    (w.after h schedule n).Sane := by
  induction n with
  | zero => exact hw
  | succ n ih =>
      rw [after_succ]
      exact ih.turn _

@[simp] theorem after_critical (n : ℕ) : (w.after h schedule n).critical = w.critical := by
  induction n with
  | zero => rfl
  | succ n ih => rw [after_succ, turn_critical, ih]

theorem after_finished (hdone : ((w.after h schedule n).proc i).finished = true) (hle : n ≤ m) :
    ((w.after h schedule m).proc i).finished = true := by
  induction hle with
  | refl => exact hdone
  | step _ ih =>
      rw [after_succ]
      exact turn_finished ih _

/-- What the turns before the awaited one keep still holds when it comes. -/
theorem awaits (hfair : Fair schedule) (P : Pool F V σ ε ι → Prop)
    (awaited : Pool F V σ ε ι → ι → Prop)
    (hkeep : ∀ w j, P w → ¬ awaited w j → P (w.turn h j))
    (hcomes : ∀ w, P w → awaited w i) (hn : P (w.after h schedule n)) :
    ∃ m, n ≤ m ∧ P (w.after h schedule m) ∧ awaited (w.after h schedule m) (schedule m) := by
  obtain ⟨k, hk, hki⟩ := hfair i n
  obtain ⟨d, rfl⟩ := Nat.exists_eq_add_of_le hk
  induction d generalizing n with
  | zero => exact ⟨n, le_refl n, hn, hki ▸ hcomes _ hn⟩
  | succ d ih =>
      by_cases hnow : awaited (w.after h schedule n) (schedule n)
      · exact ⟨n, le_refl n, hn, hnow⟩
      · have hnext := hkeep _ _ hn hnow
        rw [← after_succ] at hnext
        obtain ⟨m, hm, hrest⟩ := ih hnext (by omega) (by rwa [Nat.add_right_comm])
        exact ⟨m, by omega, hrest⟩

/-- A process that needs no mutex ends. -/
theorem loose_finishes (hfair : Fair schedule) (hc : w.critical i = false) (n : ℕ) :
    ∃ m, n ≤ m ∧ ((w.after h schedule m).proc i).finished = true := by
  generalize hp : (w.after h schedule n).proc i = p
  induction p generalizing n with
  | ret a => exact ⟨n, le_refl n, by rw [hp]; rfl⟩
  | raise e => exact ⟨n, le_refl n, by rw [hp]; rfl⟩
  | call f k ih =>
      obtain ⟨m, hm, hpm, rfl⟩ := awaits (i := i) hfair
        (fun w => w.proc i = .call f k) (fun _ j => j = i)
        (fun w j hw hj => (turn_proc_ne (Ne.symm hj)).trans hw) (fun _ _ => rfl) hp
      have hb : (w.after h schedule m).blocked (schedule m) = false := by simp [blocked, hc]
      have hstep : (w.after h schedule (m + 1)).proc (schedule m) =
          Proc.resume k ((h f).run (w.after h schedule m).shared).1 := by
        rw [after_succ, turn_ready hb, hpm]
        exact Function.update_self _ _ _
      cases hr : ((h f).run (w.after h schedule m).shared).1 with
      | ok r =>
          rw [hr] at hstep
          obtain ⟨m', hm', hdone⟩ := ih r (m + 1) hstep
          exact ⟨m', by omega, hdone⟩
      | error e =>
          rw [hr] at hstep
          exact ⟨m + 1, by omega, by rw [hstep]; rfl⟩

/-- Who has the mutex ends, and gives it back. -/
theorem holder_finishes (hfair : Fair schedule) (hw : w.Sane) (n : ℕ)
    (hi : (w.after h schedule n).holder = some i) :
    ∃ m, n ≤ m ∧ (w.after h schedule m).holder = none ∧
      ((w.after h schedule m).proc i).finished = true := by
  generalize hp : (w.after h schedule n).proc i = p
  have hrun := hw.after h schedule n i hi
  rw [hp] at hrun
  induction p generalizing n with
  | ret a => cases hrun.2
  | raise e => cases hrun.2
  | call f k ih =>
      obtain ⟨m, hm, ⟨hhold, hpm⟩, rfl⟩ := awaits (i := i) hfair
        (fun w => w.holder = some i ∧ w.proc i = .call f k) (fun _ j => j = i)
        (fun w j hw hj => ⟨turn_holder_ne hw.1 hj, (turn_proc_ne (Ne.symm hj)).trans hw.2⟩)
        (fun _ _ => rfl) ⟨hi, hp⟩
      have hc : w.critical (schedule m) = true := by simpa using hrun.1
      have hb := not_blocked (.inr hhold)
      let p' := Proc.resume k ((h f).run (w.after h schedule m).shared).1
      have hproc : (w.after h schedule (m + 1)).proc (schedule m) = p' := by
        rw [after_succ, turn_ready hb, hpm]
        exact Function.update_self _ _ _
      have hholder : (w.after h schedule (m + 1)).holder =
          if p'.finished then none else some (schedule m) := by
        rw [after_succ, turn_ready hb, hpm]
        simp only [after_critical, hc, if_true]
        rfl
      cases hdone : p'.finished with
      | true => exact ⟨m + 1, by omega, by simp [hholder, hdone], by rw [hproc, hdone]⟩
      | false =>
          have hhold' : (w.after h schedule (m + 1)).holder = some (schedule m) := by
            simp [hholder, hdone]
          cases hr : ((h f).run (w.after h schedule m).shared).1 with
          | ok r =>
              have hp' : p' = k r := by simp [p', hr, Proc.resume]
              obtain ⟨m', hm', hend⟩ := ih r (m + 1) hhold' (hproc.trans hp')
                ⟨by simpa using hc, hp' ▸ hdone⟩
              exact ⟨m', by omega, hend⟩
          | error e =>
              have hp' : p' = .raise e := by simp [p', hr, Proc.resume]
              rw [hp'] at hdone
              cases hdone

/-! ## The mutex -/

variable [Fintype ι]

/-- The processes that still have to go through the mutex. -/
def toGo (w : Pool F V σ ε ι) : Finset ι :=
  Finset.univ.filter fun i => w.critical i = true ∧ (w.proc i).finished = false

omit [DecidableEq ι] in
theorem mem_toGo : i ∈ w.toGo ↔ w.critical i = true ∧ (w.proc i).finished = false := by
  simp [toGo]

theorem toGo_subset (hle : n ≤ m) : (w.after h schedule m).toGo ⊆ (w.after h schedule n).toGo := by
  intro i hi
  rw [mem_toGo, after_critical] at hi ⊢
  refine ⟨hi.1, ?_⟩
  by_contra hdone
  rw [after_finished (Bool.not_eq_false _ ▸ hdone) hle] at hi
  cases hi.2

/-- One that has ended in between is no longer among them. -/
theorem toGo_card_lt (hle : n ≤ m) (hc : w.critical i = true)
    (hbefore : ((w.after h schedule n).proc i).finished = false)
    (hafter : ((w.after h schedule m).proc i).finished = true) :
    (w.after h schedule m).toGo.card < (w.after h schedule n).toGo.card := by
  refine Finset.card_lt_card (Finset.ssubset_iff_of_subset (toGo_subset hle) |>.mpr ⟨i, ?_, ?_⟩)
  · rw [mem_toGo, after_critical]
    exact ⟨hc, hbefore⟩
  · rw [mem_toGo, hafter]
    simp

omit [Fintype ι] in
/-- Somebody takes the free mutex, if anybody needs it, and gives it back at his end. -/
theorem mutex_passes (hfair : Fair schedule) (hw : w.Sane) (hc : w.critical i = true)
    (hnone : (w.after h schedule n).holder = none)
    (hrun : ((w.after h schedule n).proc i).finished = false) :
    ∃ j m m', n ≤ m ∧ m < m' ∧ w.critical j = true ∧
      ((w.after h schedule m).proc j).finished = false ∧
      ((w.after h schedule m').proc j).finished = true ∧
      (w.after h schedule m').holder = none := by
  obtain ⟨m, hm, ⟨hnone, -, -⟩, hcj, hrunj⟩ := awaits (h := h) (i := i) hfair
    (fun w => w.holder = none ∧ w.critical i = true ∧ (w.proc i).finished = false)
    (fun w j => w.critical j = true ∧ (w.proc j).finished = false)
    (by
      rintro w j ⟨hnone, hc, hrun⟩ hnot
      refine ⟨?_, by simpa using hc, ?_⟩
      · rw [turn_ready (not_blocked (.inl hnone))]
        cases hcj : w.critical j with
        | false => simpa using hnone
        | true =>
            have hdone : (w.proc j).finished = true := by simpa [hcj] using hnot
            simp [Proc.step_finished hdone, hdone]
      · have hne : i ≠ j := by
          rintro rfl
          exact hnot ⟨hc, hrun⟩
        rw [turn_proc_ne hne]
        exact hrun)
    (fun w hw => ⟨hw.2.1, hw.2.2⟩) ⟨hnone, by simpa using hc, hrun⟩
  have hcj' : w.critical (schedule m) = true := by simpa using hcj
  refine ⟨schedule m, m, ?_⟩
  have hturn := turn_ready (h := h) (not_blocked (i := schedule m) (.inl hnone))
  rw [← after_succ] at hturn
  cases hdone : ((w.after h schedule (m + 1)).proc (schedule m)).finished with
  | true =>
      refine ⟨m + 1, hm, by omega, hcj', hrunj, hdone, ?_⟩
      rw [hturn] at hdone ⊢
      simp only [Function.update_self] at hdone
      simp [hcj', hdone]
  | false =>
      have hhold : (w.after h schedule (m + 1)).holder = some (schedule m) := by
        rw [hturn] at hdone ⊢
        simp only [Function.update_self] at hdone
        simp [hcj', hdone]
      obtain ⟨m', hm', hfree, hend⟩ := holder_finishes hfair hw (m + 1) hhold
      exact ⟨m', hm, by omega, hcj', hrunj, hend, hfree⟩

/-- A process that needs the mutex gets it, and ends. -/
theorem critical_finishes (hfair : Fair schedule) (hw : w.Sane) (hc : w.critical i = true)
    (n : ℕ) : ∃ m, n ≤ m ∧ ((w.after h schedule m).proc i).finished = true := by
  -- with the mutex free: by the number of those that have to go through it
  have hfree : ∀ togo n, (w.after h schedule n).toGo.card < togo →
      (w.after h schedule n).holder = none →
      ∃ m, n ≤ m ∧ ((w.after h schedule m).proc i).finished = true := by
    intro togo
    induction togo with
    | zero => exact fun n hlt _ => absurd hlt (Nat.not_lt_zero _)
    | succ togo ih =>
        intro n hlt hnone
        cases hrun : ((w.after h schedule n).proc i).finished with
        | true => exact ⟨n, le_refl n, hrun⟩
        | false =>
            obtain ⟨j, m, m', hm, hm', hcj, hbefore, hdone, hfree⟩ :=
              mutex_passes hfair hw hc hnone hrun
            have hless := toGo_card_lt (le_of_lt hm') hcj hbefore hdone
            have hle : (w.after h schedule m).toGo.card ≤ (w.after h schedule n).toGo.card :=
              Finset.card_le_card (toGo_subset hm)
            obtain ⟨m'', hm'', hend⟩ := ih m' (by omega) hfree
            exact ⟨m'', by omega, hend⟩
  cases hhold : (w.after h schedule n).holder with
  | none => exact hfree _ n (Nat.lt_succ_self _) hhold
  | some j =>
      obtain ⟨m, hm, hnone, -⟩ := holder_finishes hfair hw n hhold
      obtain ⟨m', hm', hdone⟩ := hfree _ m (Nat.lt_succ_self _) hnone
      exact ⟨m', by omega, hdone⟩

/-- **Everybody ends**: from some turn of a fair schedule on, all processes are at their
end, the mutex is free and the state stays as it is. -/
theorem all_finish (hfair : Fair schedule) (hw : w.Sane) :
    ∃ N, ∀ n, N ≤ n → (w.after h schedule n).holder = none ∧
      (∀ i, ((w.after h schedule n).proc i).finished = true) ∧
      (w.after h schedule n).shared = (w.after h schedule N).shared := by
  have heach : ∀ i, ∃ m, ((w.after h schedule m).proc i).finished = true := by
    intro i
    cases hc : w.critical i with
    | false => exact (loose_finishes hfair hc 0).imp fun _ hm => hm.2
    | true => exact (critical_finishes hfair hw hc 0).imp fun _ hm => hm.2
  choose last hlast using heach
  have hdone : ∀ n, Finset.univ.sup last ≤ n →
      ∀ i, ((w.after h schedule n).proc i).finished = true := fun n hn i =>
    after_finished (hlast i) (le_trans (Finset.le_sup (Finset.mem_univ i)) hn)
  have hfree : ∀ n, Finset.univ.sup last ≤ n → (w.after h schedule n).holder = none := by
    intro n hn
    cases hhold : (w.after h schedule n).holder with
    | none => rfl
    | some i =>
        have hrun := (hw.after h schedule n i hhold).2
        rw [hdone n hn i] at hrun
        cases hrun
  refine ⟨Finset.univ.sup last, fun n hn => ⟨hfree n hn, hdone n hn, ?_⟩⟩
  induction hn with
  | refl => rfl
  | @step n hn ih =>
      rw [after_succ, turn_ready (not_blocked (.inl (hfree n hn))), ← ih]
      simp [Proc.step_finished (hdone n hn _)]

end Pool

end Py
