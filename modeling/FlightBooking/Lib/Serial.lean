import FlightBooking.Lib.Progress

/-!
# Serial — processes under one mutex

Where every process of a pool runs under the mutex, turns of different processes do not
mix: whatever the schedule, the state is the one that the processes leave which have come
to their end, run one after the other in the order in which they got the mutex, and then
a part of one more.
-/

namespace Py

namespace Pool

variable {F : Type} {R : F → Type} {σ ε ι : Type}

/-- The processes of the pool one after the other, none interrupted. -/
def serial (h : (f : F) → Eff σ ε (R f)) (w : Pool F R σ ε ι) (order : List ι) : σ :=
  order.foldl (fun s i => (((w.proc i).run h).run s).2) w.shared

theorem serial_concat (h : (f : F) → Eff σ ε (R f)) (w : Pool F R σ ε ι) (order : List ι)
    (i : ι) : w.serial h (order ++ [i]) = (((w.proc i).run h).run (w.serial h order)).2 := by
  simp [serial]

/-- `w'` has been reached from `w`, and those of `order` have come to their end. -/
structure Serialised (h : (f : F) → Eff σ ε (R f)) (w w' : Pool F R σ ε ι)
    (order : List ι) : Prop where
  nodup : order.Nodup
  finished : ∀ i ∈ order, (w'.proc i).finished = true
  untouched : ∀ i, i ∉ order → w'.holder ≠ some i → w'.proc i = w.proc i
  idle : w'.holder = none → w'.shared = w.serial h order
  /-- To run on is to run from the start, after those of `order`. -/
  busy : ∀ i, w'.holder = some i → (w'.proc i).finished = false ∧
    ((w'.proc i).run h).run w'.shared = ((w.proc i).run h).run (w.serial h order)

theorem Serialised.start {h : (f : F) → Eff σ ε (R f)} {w : Pool F R σ ε ι}
    (hfree : w.holder = none) : Serialised h w w [] where
  nodup := List.nodup_nil
  finished := by simp
  untouched _ _ _ := rfl
  idle _ := rfl
  busy i hi := by simp [hfree] at hi

variable [DecidableEq ι]

/-- The process that comes to its end with the turn, if it does. -/
def ended (h : (f : F) → Eff σ ε (R f)) (w : Pool F R σ ε ι) (i : ι) : List ι :=
  if (w.proc i).finished = false ∧ ((w.turn h i).proc i).finished = true then [i] else []

/-- The processes that come to their end over the turns, in this order. -/
def completed (h : (f : F) → Eff σ ε (R f)) : Pool F R σ ε ι → List ι → List ι
  | _, [] => []
  | w, i :: is => w.ended h i ++ completed h (w.turn h i) is

section Turns

variable {h : (f : F) → Eff σ ε (R f)} {w w' : Pool F R σ ε ι} {order : List ι} {i : ι}

/-- The next call of a process that runs, or is about to, after those of `order`. -/
theorem Serialised.step (hs : Serialised h w w' order) (hcritical : w'.critical i = true)
    (hready : w'.blocked i = false) (hgoing : (w'.proc i).finished = false) :
    Serialised h w (w'.turn h i) (order ++ w'.ended h i) := by
  have hnew : i ∉ order := by
    intro hmem
    rw [hs.finished i hmem] at hgoing
    cases hgoing
  have hholder := holder_of_ready hcritical hready
  have hrun : ((w'.proc i).run h).run w'.shared = ((w.proc i).run h).run (w.serial h order) := by
    rcases hholder with hnone | hsome
    · rw [hs.untouched i hnew (by simp [hnone]), hs.idle hnone]
    · exact (hs.busy i hsome).2
  have hothers : ∀ j, j ∉ order → j ≠ i → w'.proc j = w.proc j := by
    intro j hj hne
    refine hs.untouched j hj ?_
    rcases hholder with hnone | hsome
    · simp [hnone]
    · simp [hsome, Ne.symm hne]
  have hstep := Proc.run_step (h := h) (w'.proc i) w'.shared
  rw [hrun] at hstep
  unfold ended
  rw [turn_ready hready]
  simp only [Function.update_self, hgoing, true_and, hcritical, if_true]
  cases hend : ((w'.proc i).step h w'.shared).1.finished with
  | true =>
      simp only [if_true]
      constructor
      case nodup =>
        exact List.nodup_append.mpr ⟨hs.nodup, by simp, by grind⟩
      case finished =>
        intro j hj
        by_cases hji : j = i
        · subst hji
          simpa using hend
        · simp only [Function.update_of_ne hji]
          exact hs.finished j (by simpa [hji] using hj)
      case untouched =>
        intro j hj _
        obtain ⟨hj, hji⟩ : j ∉ order ∧ j ≠ i := by simpa using hj
        simp only [Function.update_of_ne hji]
        exact hothers j hj hji
      case idle =>
        intro _
        rw [serial_concat, ← hstep]
        exact (Proc.run_finished hend _).symm
      case busy => simp
  | false =>
      simp only [Bool.false_eq_true, if_false, List.append_nil]
      constructor
      case nodup => exact hs.nodup
      case finished =>
        intro j hj
        have hji : j ≠ i := by
          rintro rfl
          exact hnew hj
        simp only [Function.update_of_ne hji]
        exact hs.finished j hj
      case untouched =>
        intro j hj hji
        have hji : j ≠ i := by simpa [eq_comm] using hji
        simp only [Function.update_of_ne hji]
        exact hothers j hj hji
      case idle => simp
      case busy =>
        intro j hj
        obtain rfl : i = j := by simpa using hj
        simp only [Function.update_self]
        exact ⟨hend, hstep⟩

/-- A turn, whoever's it is. -/
theorem Serialised.turn (hs : Serialised h w w' order) (hcritical : w'.critical i = true) :
    Serialised h w (w'.turn h i) (order ++ w'.ended h i) := by
  cases hready : w'.blocked i with
  | true =>
      -- it waits
      have hended : w'.ended h i = [] := by
        unfold ended
        rw [turn_blocked hready]
        exact if_neg (by simp)
      rw [hended, List.append_nil, turn_blocked hready]
      exact hs
  | false =>
      cases hdone : (w'.proc i).finished with
      | false => exact hs.step hcritical hready hdone
      | true =>
          -- it is at its end, so the mutex is free and stays so
          have hfree : w'.holder = none := by
            refine (holder_of_ready hcritical hready).resolve_right fun hsome => ?_
            rw [(hs.busy i hsome).1] at hdone
            cases hdone
          have hturn : w'.turn h i = w' := by
            rw [turn_ready hready, Proc.step_finished hdone, Function.update_eq_self]
            simp [hdone, hcritical, ← hfree]
          have hended : w'.ended h i = [] := if_neg (by simp [hdone])
          rw [hended, List.append_nil, hturn]
          exact hs

/-- **Under one mutex the turns do not mix.** -/
theorem serialised_turns (hcritical : ∀ i, w.critical i = true) (hfree : w.holder = none)
    (is : List ι) : Serialised h w (w.turns h is) (w.completed h is) := by
  have hrun : ∀ (is : List ι) (w' : Pool F R σ ε ι) (order : List ι),
      (∀ i, w'.critical i = true) → Serialised h w w' order →
      Serialised h w (w'.turns h is) (order ++ w'.completed h is) := by
    intro is
    induction is with
    | nil =>
        intro w' order _ hs
        rw [completed, List.append_nil]
        exact hs
    | cons i is ih =>
        intro w' order hall hs
        rw [completed, ← List.append_assoc]
        exact ih (w'.turn h i) (order ++ w'.ended h i) (by simpa using hall) (hs.turn (hall i))
  exact hrun is w [] hcritical (Serialised.start hfree)

end Turns

end Pool

end Py
