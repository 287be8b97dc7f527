import FlightBooking.Composition.Callers
import FlightBooking.Verification.SeatMapRace

/-!
# CommitSerial — commits that run at once, as if one after the other

`commit_lock` keeps the calls of different commits apart. So any number of commits, in
any interleaving, leaves the container as a run of the machine does that makes them one
after the other, and every caller gets the result that it gets there.
-/

namespace FlightBooking

open Py

variable {ι : Type}

/-- Callers that commit, each in the world that it meets. -/
def Callers.commits (commits : ι → Collaborators × CommitRequest) : Callers ι CommitResult where
  thread i := Thread.commit (commits i).1 (commits i).2
  op i := .commit (commits i).1 (commits i).2
  output _ := .commit
  output_injective _ _ _ h := Output.commit.inj h
  runs i c := by
    rw [Thread.run_commit]
    rfl

variable [DecidableEq ι]

/-- **Commits that run at once are made one after the other.** Whatever the order in
which the commits take their turns: whenever `commit_lock` is free, the container is the
one that a run of the machine leaves which makes the commits that are through, in the
order in which they came through, and exactly these callers have a result, the one that
they get in that run. -/
theorem commits_serialise (commits : ι → Collaborators × CommitRequest) (c : Container)
    (is : List ι) :
    let callers := Callers.commits commits
    let h := Answered.handle (ι := ι) StoreCall.handle
    let w := (callers.start (fun _ => true) c).turns h is
    let order := (callers.start (fun _ => true) c).completed h is
    w.holder = none →
      order.Nodup ∧ (∀ i, i ∈ order ↔ (w.proc i).finished = true) ∧
      w.shared.1 = Run.final step c (order.map callers.op) ∧
      ∀ i r, w.shared.2 i = some r ↔
        callers.Answers order (Run.trace step c (order.map callers.op)) i r := by
  intro callers h w order hfree
  have hs : Pool.Serialised h (callers.start (fun _ => true) c) w order :=
    Pool.serialised_turns (fun _ => rfl) rfl is
  rw [hs.idle hfree]
  refine ⟨hs.nodup, fun i => ⟨hs.finished i, fun hdone => ?_⟩,
    Callers.serial_container callers _ c order, Callers.serial_table hs.nodup⟩
  by_contra hnew
  rw [hs.untouched i hnew (by simp [hfree])] at hdone
  cases hdone

/-- Two callers take turns for the last seat; `true` gets the lock first. -/
theorem commits_serialise_last_seat :
    let callers : Callers Bool CommitResult :=
      .commits fun _ => (.wired, commitFor "FL-LAX-NYC-0800" ["30F"])
    let c := seededContainer [seededFlight "FL-LAX-NYC-0800" ["30F"]]
    let h := Answered.handle (ι := Bool) StoreCall.handle
    let is := (List.replicate 12 [true, false]).flatten
    let w := (callers.start (fun _ => true) c).turns h is
    (callers.start (fun _ => true) c).completed h is = [true, false] ∧
      w.shared.1 = Run.final step c ([true, false].map callers.op) := by
  intro callers c h is w
  have horder : (callers.start (fun _ => true) c).completed h is = [true, false] := by
    decide +kernel
  have hfree : w.holder = none := by decide +kernel
  refine ⟨horder, ?_⟩
  rw [← horder]
  clear_value c is
  exact (commits_serialise (fun _ => (.wired, commitFor "FL-LAX-NYC-0800" ["30F"])) c is
    hfree).2.2.1

end FlightBooking
