import FlightBooking.Lib.Progress
import FlightBooking.Verification.ConcurrentBooking

/-!
# Completion — requests do not wait for each other for ever

`commit_lock` is the only thing that a request waits for, and a commit that raises gives
it back like one that returns.
-/

namespace FlightBooking

open Py

variable {ι : Type}

/-- At the start nobody has the lock. -/
theorem SystemPool.sane_start (c : Container) (jobs : ι → Job) :
    (SystemPool.start c jobs).Sane := by
  intro i hi
  cases hi

/-- **Every request is answered.** Finitely many requests run at once, in any fair order,
with ports that may raise: at some time all are through, `commit_lock` is free, and
nothing changes any more. If no port raised in a commit and the references were enough,
every accepted charge has its booking, its confirmation and its event by then. -/
theorem every_request_finishes [Fintype ι] [DecidableEq ι] {c : Container}
    (hbooked : Booked c) (hsettled : c.books.Settled) (jobs : ι → Job) {schedule : ℕ → ι}
    (hfair : Fair schedule) :
    ∃ N, ∀ n, N ≤ n →
      let w := (SystemPool.start c jobs).after SystemCall.handle schedule n
      w.holder = none ∧ (∀ i, (w.proc i).finished = true) ∧
      w.shared = ((SystemPool.start c jobs).after SystemCall.handle schedule N).shared ∧
      SeatsDisjoint w.shared.bookingRepo ∧
      ((∀ i env request, jobs i = .commit env request → ∀ port, env.fault port = none) →
        w.shared.books.paid.length ≤ c.ids.bookingRefs.length + c.bookingRepo.size →
        w.shared.books.Settled) := by
  obtain ⟨N, hN⟩ := Pool.all_finish (h := SystemCall.handle) hfair
    (SystemPool.sane_start c jobs)
  refine ⟨N, fun n hn => ?_⟩
  intro w
  obtain ⟨hfree, hdone, hsame⟩ := hN n hn
  have hclosed : Closed False 0 c := ⟨hbooked, fun h => h.elim⟩
  have hkept : Kept False 0 c w.shared :=
    kept_states hclosed (fun h => h.elim) [] _ _ (Pool.mem_states_turns _ _ _)
  refine ⟨hfree, hdone, hsame, hkept.booked.seatsDisjoint, fun hclean hle => ?_⟩
  exact settled_of_free hbooked hsettled hclean _ hfree hle

/-- Two commits of seat 30F take turns: both are answered. -/
theorem every_request_finishes_race :
    let c := seededContainer [seededFlight "FL-LAX-NYC-0800" ["30F"]]
    let pool := SystemPool.start c fun _ : Bool =>
      .commit .wired (commitFor "FL-LAX-NYC-0800" ["30F"])
    ∃ N, ∀ n, N ≤ n →
      let w := pool.after SystemCall.handle (fun n => n % 2 == 1) n
      w.holder = none ∧ ∀ i, (w.proc i).finished = true := by
  intro c pool
  have hfair : Fair fun n => n % 2 == 1 := by
    intro i n
    cases i with
    | false => exact ⟨2 * n, by omega, by simp⟩
    | true => exact ⟨2 * n + 1, by omega, by simp [Nat.add_mod]⟩
  obtain ⟨N, hN⟩ := every_request_finishes (c := c) (.start rfl (by decide))
    ⟨by decide, by decide, by decide⟩
    (fun _ => .commit .wired (commitFor "FL-LAX-NYC-0800" ["30F"])) hfair
  exact ⟨N, fun n hn => ⟨(hN n hn).1, (hN n hn).2.1⟩⟩

end FlightBooking
