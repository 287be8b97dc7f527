import FlightBooking.Lib.Answers
import FlightBooking.Adapters.HttpRoutes
import FlightBooking.Composition.StoreCalls

/-!
# RaceLastSeat

`scripts/race_last_seat.py`: threads that race for the lock on the only seat of a flight,
trial after trial, each on a container of its own. The threads are processes behind a
barrier; the order in which they take their turns is the schedule of the trial.
-/

namespace FlightBooking

open Py

/-- `post_seat_lock` on a valid body, as the process of its calls. -/
def Thread.postSeatLock (body : SeatLockRequestBody) : Thread Response := do
  let result ← Thread.acquire ⟨body.flightId⟩ (body.seatIds.map SeatId.mk) ⟨body.sessionId⟩
  if !result.success then
    return ⟨409, .conflicts (result.conflicts.map SeatId.value)⟩
  match result.lockId, result.expiresAt with
  | some lockId, some expiresAt =>
      return ⟨201, .lock { lockId, expiresAt := expiresAt.isoformat }⟩
  | _, _ => Proc.raise (.assertionError "")

namespace RaceLastSeat

/-- `_TRIAL_CLOCK`, 2026-06-01 08:00 UTC. -/
def trialClock : DateTime := ⟨1780300800000000, 0⟩

/-- `_FLIGHT_ID`. -/
def flightId : String := "FL-TEST"

/-- `_SEAT_ID`. -/
def seatId : String := "30F"

/-- `_seed_single_seat_flight`. -/
def seedSingleSeatFlight : Container :=
  let cabin : Cabin := {
    seats := Dict.empty.set ⟨seatId⟩
      { id := ⟨seatId⟩, seatClass := .economy, kind := .standard, status := .available } }
  let flight : Flight := {
    id := ⟨flightId⟩
    origin := "LAX"
    destination := "NYC"
    departureAt := .ofDateTime trialClock (by decide)
    arrivalAt := .ofDateTime trialClock (by decide)
    airline := "MOCK"
    baseFare := Money.whole 299
    cabin }
  let container := buildTestContainer trialClock
  { container with flightRepo := container.flightRepo.add flight }

/-- The session of a thread. -/
def session (sessionIdx : Nat) : String := "S-" ++ DateTime.pad 2 sessionIdx

/-- The body that a thread posts. -/
def payload (sessionIdx : Nat) : SeatLockPayload where
  flightId := some flightId
  seatIds := some [seatId]
  sessionId := some (session sessionIdx)

/-- `_attempt`: the status of the response. -/
def attempt (sessionIdx : Nat) : Thread Nat :=
  match (payload sessionIdx).validate with
  | .error fields => return (Response.invalid fields).status
  | .ok body => do
      let response ← Thread.postSeatLock body
      return response.status

/-- The threads of a trial when the barrier opens. -/
def barrier (threads : Nat) :
    Pool (Answered StoreCall Nat Nat) (Answered.Result StoreCall.Result)
      (Container × (Nat → Option Nat)) Exn Nat where
  shared := (seedSingleSeatFlight, fun _ => none)
  proc i := if i < threads then (attempt i).answering i else .ret ()
  critical _ := false

/-- The threads after their turns. -/
def race (threads : Nat) (schedule : List Nat) :
    Pool (Answered StoreCall Nat Nat) (Answered.Result StoreCall.Result)
      (Container × (Nat → Option Nat)) Exn Nat :=
  (barrier threads).turns (Answered.handle StoreCall.handle) schedule

/-- Every thread is through. -/
def Joined (threads : Nat) (schedule : List Nat) : Prop :=
  ∀ i < threads, ((race threads schedule).proc i).finished = true

/-- `_run_trial`: winners and rejections. It raises where a thread does, and on a status
that it does not expect. -/
def runTrial (threads : Nat) (schedule : List Nat) : Option (Nat × Nat) := do
  let codes ← (List.range threads).mapM (race threads schedule).shared.2
  let winners := codes.countP (· = 201)
  let rejections := codes.countP (· = 409)
  let unexpected := codes.filter fun code => code ≠ 201 ∧ code ≠ 409
  if unexpected ≠ [] then none
  else return (winners, rejections)

structure Summary where
  trials : Nat
  totalWinners : Nat := 0
  totalRejected : Nat := 0
  doubleBookings : Nat := 0
deriving DecidableEq, Repr

/-- The counters after a trial. -/
def Summary.add (summary : Summary) (winners rejections : Nat) : Summary :=
  { summary with
    totalWinners := summary.totalWinners + winners
    totalRejected := summary.totalRejected + rejections
    doubleBookings := if winners > 1 then summary.doubleBookings + 1 else summary.doubleBookings }

/-- The loop body of `run_harness`. -/
def countTrial (threads : Nat) (summary : Summary) (schedule : List Nat) : Option Summary := do
  let result ← runTrial threads schedule
  return summary.add result.1 result.2

/-- `run_harness`, with a schedule for every trial. -/
def runHarness (threads : Nat) (schedules : List (List Nat)) : Option Summary :=
  schedules.foldlM (countTrial threads) { trials := schedules.length }

/-- `main`: what is printed, and the exit code. -/
def main (threads : Nat) (schedules : List (List Nat)) : Option (Summary × Nat) := do
  let summary ← runHarness threads schedules
  return (summary, if summary.doubleBookings = 0 then 0 else 1)

end RaceLastSeat

end FlightBooking
