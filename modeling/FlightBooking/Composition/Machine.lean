import FlightBooking.Lib.Run
import FlightBooking.Application.QuoteService
import FlightBooking.Application.SeatServices
import FlightBooking.Application.BookingService

/-!
# Machine

The container as a state machine: one input is one service call, a clock change
or a change of a flight. A run is any finite sequence of them.
-/

namespace FlightBooking

open Py

/-- What can happen to a container. `updateFlight` is any change of the stored
flight object in place; `add` of a known id replaces the flight. -/
inductive Op where
  | commit (env : Collaborators) (request : CommitRequest)
  | quote (env : Collaborators) (request : QuoteRequest)
  | acquire (flightId : FlightId) (seatIds : List SeatId) (sessionId : SessionId)
  | setClock (instant : DateTime)
  | addFlight (flight : Flight)
  | updateFlight (flightId : FlightId) (change : Flight → Flight)

/-- What the caller gets back. -/
inductive Output where
  | commit (result : Except Exn CommitResult)
  | quote (result : Except Exn Quote)
  | acquire (result : Except Exn SeatHoldResult)
  | done

/-- One input. -/
def step (c : Container) : Op → Output × Container
  | .commit env request =>
      let (result, c) := (BookingService.commit env request).run c
      (.commit result, c)
  | .quote env request =>
      let (result, c) := (QuoteService.quote env request).run c
      (.quote result, c)
  | .acquire flightId seatIds sessionId =>
      let (result, c) := (SeatHoldService.acquire flightId seatIds sessionId).run c
      (.acquire result, c)
  | .setClock instant => (.done, { c with clock := instant })
  | .addFlight flight => (.done, { c with flightRepo := c.flightRepo.add flight })
  | .updateFlight flightId change =>
      match c.flightRepo.get flightId with
      | none => (.done, c)
      | some flight => (.done, { c with flightRepo := c.flightRepo.set flightId (change flight) })

abbrev Event := Run.Event Container Op Output

/-! ## A seeded container -/

/-- The instant at which the integration tests freeze the clock, 2026-04-25 10:00 UTC. -/
def testNow : DateTime := ⟨1777111200000000, 0⟩

/-- A flight of the integration tests: economy seats for 299 dollars, departing
on 2026-06-01 at 08:00 UTC. -/
def seededFlight (id : String) (seats : List String) : Flight where
  id := ⟨id⟩
  origin := "LAX"
  destination := "NYC"
  departureAt := .ofDateTime ⟨1780300800000000, 0⟩ (by decide)
  arrivalAt := .ofDateTime ⟨1780300800000000, 0⟩ (by decide)
  airline := "MOCK"
  baseFare := Money.whole 299
  cabin.seats := seats.foldl
    (fun cabin seat => cabin.set ⟨seat⟩
      { id := ⟨seat⟩, seatClass := .economy, kind := .standard })
    Dict.empty

/-- The test container with `flights` in its repository. -/
def seededContainer (flights : List Flight) : Container :=
  { buildTestContainer testNow with
    flightRepo := flights.foldl InMemoryFlightRepository.add Dict.empty }

/-- A commit of one passenger for `seats`, paid with a token the mock accepts. -/
def commitFor (flight : String) (seats : List String) : CommitRequest where
  flightId := ⟨flight⟩
  seatIds := seats.map SeatId.mk
  passengers := [{ fullName := "Jane Doe" }]
  paymentToken := "mock-ok"

end FlightBooking
