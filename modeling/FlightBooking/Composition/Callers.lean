import FlightBooking.Lib.Answers
import FlightBooking.Composition.StoreCalls

/-!
# Callers

Threads that each make one request, with the inputs of the machine that the requests are.
One after the other they are a run of the machine, and every caller gets what the machine
puts out.
-/

namespace FlightBooking

open Py

/-- The thread of every caller, and the input that it is if nothing comes between. -/
structure Callers (ι α : Type) where
  thread : ι → Thread α
  op : ι → Op
  output : ι → Except Exn α → Output
  output_injective : ∀ i, Function.Injective (output i)
  runs : ∀ i c, step c (op i) =
    let x := ((thread i).run StoreCall.handle).run c
    (output i x.1, x.2)

namespace Callers

variable {ι α : Type}

/-- The callers at their start; what they get is entered in the table. -/
def start (callers : Callers ι α) (critical : ι → Bool) (c : Container) :
    Pool (Answered StoreCall ι α) (Answered.Result StoreCall.Result)
      (Container × (ι → Option α)) Exn ι where
  shared := (c, fun _ => none)
  proc i := (callers.thread i).answering i
  critical := critical

/-- What a caller of the machine is answered. -/
def Answers (callers : Callers ι α) (order : List ι) (events : List Event) (i : ι) (r : α) :
    Prop :=
  ∃ e, (i, e) ∈ order.zip events ∧ e.output = callers.output i (.ok r)

variable [DecidableEq ι] {callers : Callers ι α} {critical : ι → Bool} {c : Container}
  {order : List ι}

/-- One caller more, uninterrupted. -/
theorem serial_concat (i : ι) :
    (callers.start critical c).serial (Answered.handle StoreCall.handle) (order ++ [i]) =
      let x := (callers.start critical c).serial (Answered.handle StoreCall.handle) order
      let y := ((callers.thread i).run StoreCall.handle).run x.1
      (y.2, Answered.enter x.2 i y.1) := by
  have hproc : (callers.start critical c).proc i = (callers.thread i).answering i := rfl
  rw [Pool.serial_concat, hproc, Proc.run_answering]

/-- One after the other they are a run of the machine. -/
theorem serial_container (callers : Callers ι α) (critical : ι → Bool) (c : Container)
    (order : List ι) :
    ((callers.start critical c).serial (Answered.handle StoreCall.handle) order).1 =
      Run.final step c (order.map callers.op) := by
  induction order using List.reverseRecOn with
  | nil => rfl
  | append_singleton order i ih =>
      rw [serial_concat, List.map_append, Run.final_append, ← ih]
      exact (congrArg Prod.snd (callers.runs i _)).symm

/-- The table holds the outputs of the run. -/
theorem serial_table (hnodup : order.Nodup) : ∀ i r,
    ((callers.start critical c).serial (Answered.handle StoreCall.handle) order).2 i = some r ↔
      callers.Answers order (Run.trace step c (order.map callers.op)) i r := by
  induction order using List.reverseRecOn with
  | nil => simp [Pool.serial, start, Answers]
  | append_singleton order j ih =>
      intro i r
      obtain ⟨horder, -, hnew⟩ := List.nodup_append.mp hnodup
      have hlength : order.length = (Run.trace step c (order.map callers.op)).length := by
        have hinputs := congrArg List.length (Run.map_input_trace step c (order.map callers.op))
        simpa using hinputs.symm
      have hzip : (order ++ [j]).zip (Run.trace step c ((order ++ [j]).map callers.op)) =
          order.zip (Run.trace step c (order.map callers.op)) ++
            [(j, Run.Event.of step (Run.final step c (order.map callers.op)) (callers.op j))] := by
        rw [List.map_append, Run.trace_append, List.zip_append hlength]
        rfl
      -- what the last one is answered
      have hlast : (Run.Event.of step (Run.final step c (order.map callers.op))
          (callers.op j)).output = callers.output j
            (((callers.thread j).run StoreCall.handle).run
              (Run.final step c (order.map callers.op))).1 :=
        congrArg Prod.fst (callers.runs j _)
      have hanswers :
          callers.Answers (order ++ [j]) (Run.trace step c ((order ++ [j]).map callers.op)) i r ↔
          callers.Answers order (Run.trace step c (order.map callers.op)) i r ∨
            i = j ∧ (((callers.thread j).run StoreCall.handle).run
              (Run.final step c (order.map callers.op))).1 = .ok r := by
        simp only [Answers, hzip, List.mem_append, List.mem_singleton, Prod.mk.injEq, or_and_right,
          exists_or, and_assoc, exists_and_left, exists_eq_left, hlast]
        refine or_congr_right (and_congr_right fun hij => ?_)
        rw [hij, (callers.output_injective j).eq_iff]
      rw [hanswers, serial_concat, ← ih horder i r]
      simp only [serial_container]
      by_cases hij : i = j
      · subst hij
        have hnone : ((callers.start critical c).serial
            (Answered.handle StoreCall.handle) order).2 i = none := by
          rw [Option.eq_none_iff_forall_ne_some]
          intro r' hr'
          obtain ⟨e, he, -⟩ := (ih horder i r').mp hr'
          exact hnew i (List.of_mem_zip he).1 i (by simp) rfl
        cases hresult : (((callers.thread i).run StoreCall.handle).run
          (Run.final step c (order.map callers.op))).1 <;> simp [Answered.enter, hnone]
      · cases hresult : (((callers.thread j).run StoreCall.handle).run
          (Run.final step c (order.map callers.op))).1 <;> simp [Answered.enter, hij]

end Callers

end FlightBooking
