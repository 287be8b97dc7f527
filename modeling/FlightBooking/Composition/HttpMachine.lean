import FlightBooking.Adapters.HttpRoutes
import FlightBooking.Composition.Machine

/-!
# HttpMachine

The app as a state machine: one input is one request, or what happens to the container
from outside. It refines `Machine`: each request is one service call, or reads only.
-/

namespace FlightBooking

open Py

/-- What can happen to the app. -/
inductive HttpOp where
  | serve (env : Collaborators) (request : HttpRequest)
  | setClock (instant : DateTime)
  | addFlight (flight : Flight)
  | updateFlight (flightId : FlightId) (change : Flight → Flight)

/-- The response to a request, or the exception that no route caught. -/
abbrev HttpOutput := Option (Except Exn Response)

namespace HttpOp

/-- The service call that a request amounts to. -/
def call (env : Collaborators) : HttpRequest → Option Op
  | .postQuote payload =>
      match payload.validate with
      | .error _ => none
      | .ok body => some (.quote env body.request)
  | .postSeatLock payload =>
      match payload.validate with
      | .error _ => none
      | .ok body => some (.acquire ⟨body.flightId⟩ (body.seatIds.map SeatId.mk) ⟨body.sessionId⟩)
  | .postBooking payload =>
      match payload.request with
      | .error _ => none
      | .ok request => some (.commit env request)
  | .searchFlights _ => none
  | .getSeats _ _ => none
  | .getBooking _ => none

def op : HttpOp → Option Op
  | serve env request => call env request
  | setClock instant => some (.setClock instant)
  | addFlight flight => some (.addFlight flight)
  | updateFlight flightId change => some (.updateFlight flightId change)

end HttpOp

/-- One input. -/
def httpStep (c : Container) : HttpOp → HttpOutput × Container
  | .serve env request =>
      let (response, c) := (HttpApp.handle env request).run c
      (some response, c)
  | .setClock instant => (none, (step c (.setClock instant)).2)
  | .addFlight flight => (none, (step c (.addFlight flight)).2)
  | .updateFlight flightId change => (none, (step c (.updateFlight flightId change)).2)

abbrev HttpEvent := Run.Event Container HttpOp HttpOutput

/-- The status of the response, if there is one. -/
def HttpEvent.status? (e : HttpEvent) : Option Nat :=
  match e.output with
  | some (.ok response) => some response.status
  | _ => none

namespace HttpApp

variable {env : Collaborators} {c : Container}

/-! ## The routes, run -/

theorem run_postQuote (env : Collaborators) {payload : QuotePayload} {body : QuoteRequestBody}
    (h : payload.validate = .ok body) (c : Container) :
    (handle env (.postQuote payload)).run c =
      (quoteResponse ((QuoteService.quote env body.request).run c).1,
        ((QuoteService.quote env body.request).run c).2) := by
  simp only [handle, h]
  rfl

theorem run_postBooking (env : Collaborators) {payload : BookingPayload} {request : CommitRequest}
    (h : payload.request = .ok request) (c : Container) :
    (handle env (.postBooking payload)).run c =
      (((BookingService.commit env request).run c).1.map commitResponse,
        ((BookingService.commit env request).run c).2) := by
  simp only [handle, postBooking, h]
  rw [Eff.run_bind]
  cases (BookingService.commit env request).run c with
  | mk result c' => cases result <;> rfl

theorem run_postSeatLock_state (env : Collaborators) {payload : SeatLockPayload}
    {body : SeatLockRequestBody} (h : payload.validate = .ok body) (c : Container) :
    ((handle env (.postSeatLock payload)).run c).2 =
      ((SeatHoldService.acquire ⟨body.flightId⟩ (body.seatIds.map SeatId.mk)
        ⟨body.sessionId⟩).run c).2 := by
  simp only [handle, h, postSeatLock]
  rw [Eff.run_bind]
  cases (SeatHoldService.acquire ⟨body.flightId⟩ (body.seatIds.map SeatId.mk)
      ⟨body.sessionId⟩).run c with
  | mk result c' =>
      cases result with
      | error e => rfl
      | ok result =>
          simp only
          cases result.success with
          | false => rfl
          | true => cases result.lockId <;> cases result.expiresAt <;> rfl

end HttpApp

open HttpApp in
/-- **The app refines the machine of the services.** -/
theorem httpStep_refines : Run.Refines httpStep step HttpOp.op := by
  intro c op
  cases op with
  | setClock instant => rfl
  | addFlight flight => rfl
  | updateFlight flightId change => rfl
  | serve env request =>
      show ((handle env request).run c).2 = Run.final step c (HttpOp.call env request).toList
      cases request with
      | searchFlights query =>
          show ((search query).run c).2 = c
          unfold search
          cases searchQueryParams query with
          | error fields => rfl
          | ok params =>
              simp only [Eff.run_get_bind]
              rw [Eff.run_bind, Eff.run_ofExcept]
              cases searchFlights c params <;> rfl
      | getSeats flightId sessionId =>
          show ((getSeats flightId sessionId).run c).2 = c
          unfold getSeats
          rw [Eff.run_get_bind, Eff.run_bind, Eff.run_ofExcept]
          cases SeatMapService.view c ⟨flightId⟩ _ with
          | error e => rfl
          | ok entries => cases entries <;> rfl
      | getBooking reference =>
          show ((getBooking reference).run c).2 = c
          unfold getBooking
          rw [Eff.run_get_bind]
          cases c.bookingRepo.get ⟨reference⟩ <;> rfl
      | postQuote payload =>
          cases h : payload.validate with
          | error fields => simp [handle, HttpOp.call, h]
          | ok body =>
              rw [run_postQuote env h]
              simp [HttpOp.call, h, step]
      | postSeatLock payload =>
          cases h : payload.validate with
          | error fields => simp [handle, HttpOp.call, h]
          | ok body =>
              rw [run_postSeatLock_state env h]
              simp [HttpOp.call, h, step]
      | postBooking payload =>
          cases h : payload.request with
          | error key => simp [handle, postBooking, HttpOp.call, h]
          | ok request =>
              rw [run_postBooking env h]
              simp [HttpOp.call, h, step]

end FlightBooking
