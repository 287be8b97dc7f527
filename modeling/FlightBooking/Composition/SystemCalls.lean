import FlightBooking.Composition.StoreCalls

/-!
# SystemCalls — everything that runs at once

The calls of `StoreCalls`, those that a quote makes beside them, and what happens from
outside: the clock moves and flights are added between any two calls. `quote` takes no
lock. A pool of jobs is any number of requests on one container, each at its own pace;
the commits among them run under `commit_lock`.
-/

namespace FlightBooking

open Py

inductive SystemCall where
  | store (f : StoreCall)
  | newSessionId
  | newQuoteId
  | saveQuote (quote : Quote)
  | setClock (instant : DateTime)
  | addFlight (flight : Flight)

namespace SystemCall

/-- What the call returns. -/
abbrev Result : SystemCall → Type
  | store f => f.Result
  | newSessionId => SessionId
  | newQuoteId => QuoteId
  | _ => Unit

/-- What the call does. -/
def handle : (f : SystemCall) → Stmt f.Result
  | store f => f.handle
  | newSessionId => FlightBooking.newSessionId
  | newQuoteId => FlightBooking.newQuoteId
  | saveQuote quote => FlightBooking.saveQuote quote
  | setClock instant => Eff.modify fun c => { c with clock := instant }
  | addFlight flight => Eff.modify fun c => { c with flightRepo := c.flightRepo.add flight }

end SystemCall

/-- A thread of the system. -/
abbrev SystemThread := Proc SystemCall SystemCall.Result Exn

/-- A thread of store calls is one of the system. -/
def Thread.toSystem {α : Type} (p : Thread α) : SystemThread α :=
  p.translate fun f => Proc.perform (SystemCall.store f)

namespace SystemThread

/-- One call. -/
def call (f : SystemCall) : SystemThread f.Result := Proc.perform f

/-! ## QuoteService.quote -/

/-- `_active_booked_seat_count`: one call, the rest is a loop over its snapshot. -/
def activeBookedSeatCount (flightId : FlightId) : SystemThread Nat := do
  let bookings : List Booking ← call (.store .iterAll)
  return bookings.foldl
    (fun count booking =>
      if booking.flightId ≠ flightId then count
      else if booking.status ≠ .confirmed then count
      else count + booking.seatIds.length)
    0

/-- `_occupancy_pct`: without seats the bookings are not read. -/
def occupancyPct (flight : Flight) : SystemThread Decimal :=
  let total := flight.cabin.seatCount
  if total = 0 then return Decimal.ofInt 0
  else do
    let cabinOccupied := flight.cabin.seats.values.countP
      (fun seat => decide (seat.status = .occupied ∨ seat.status = .blocked))
    let booked ← activeBookedSeatCount flight.id
    let ratio ← Proc.ofExcept
      (Exn.lift ((Decimal.ofInt (cabinOccupied + booked : Nat)).div (Decimal.ofInt total)))
    Proc.ofExcept (Exn.lift (ratio.mul (Decimal.ofInt 100)))

/-- The session of the request, or a new one. -/
def drawSession (request : QuoteRequest) : SystemThread SessionId :=
  match request.sessionId with
  | some session => return session
  | none => call .newSessionId

/-- `quote`: the flight, the clock and the bookings are read one after the other, the
quote is stored before its event is written. -/
def quote (env : Collaborators) (request : QuoteRequest) : SystemThread Quote := do
  match ← call (.store (.getFlight request.flightId)) with
  | none => Proc.raise (.quoteNotFound ("flight " ++ request.flightId.value ++ " not found"))
  | some flight =>
    let now : DateTime ← call (.store .clockNow)
    let daysBefore := flight.departureAt.date - now.date
    if daysBefore < 0 then
      Proc.raise (.flightAlreadyDeparted ("flight " ++ request.flightId.value ++
        " already departed at " ++ flight.departureAt.isoformat))
    else
      let occupancyPct ← occupancyPct flight
      let departureDow := DayOfWeek.ofWeekday flight.departureAt.weekday
      let surcharges := QuoteService.seatSurcharges flight request.seatIds
      let taxes ← Proc.ofExcept
        (QuoteService.computeTaxes flight occupancyPct daysBefore departureDow surcharges)
      let fees := Pricing.lookupFlatFees flight.id.value
      let breakdown ← Proc.ofExcept (Pricing.price {
        baseFare := flight.baseFare
        occupancyPct
        daysBeforeDeparture := daysBefore
        departureDow
        surcharges
        taxes
        fees })
      let session ← drawSession request
      let quoteId : QuoteId ← call .newQuoteId
      let expiresAt ← Proc.ofExcept ((now.plus quoteTtl).mapError Exn.overflowError)
      let quote : Quote := {
        id := quoteId
        sessionId := session
        flightId := request.flightId
        seatIds := request.seatIds
        passengers := request.passengers
        priceBreakdown := breakdown
        createdAt := now
        expiresAt }
      call (.saveQuote quote)
      let event ← Proc.ofExcept
        (QuoteService.buildAuditEvent quote breakdown occupancyPct daysBefore departureDow)
      call (.store (.writeAudit env (.quoteCreated event)))
      return quote

end SystemThread

/-! ## Jobs -/

/-- What a thread is there for. -/
inductive Job where
  | commit (env : Collaborators) (request : CommitRequest)
  | quote (env : Collaborators) (request : QuoteRequest)
  | acquire (flightId : FlightId) (seatIds : List SeatId) (sessionId : SessionId)
  | view (flightId : FlightId) (sessionId : Option SessionId)
  | setClock (instant : DateTime)
  | addFlight (flight : Flight)

namespace Job

/-- A thread whose result nobody waits for. -/
def ignore {α : Type} (p : SystemThread α) : SystemThread Unit := do
  let _ ← p

def thread : Job → SystemThread Unit
  | commit env request => ignore (Thread.commit env request).toSystem
  | quote env request => ignore (SystemThread.quote env request)
  | acquire flightId seatIds sessionId =>
      ignore (Thread.acquire flightId seatIds sessionId).toSystem
  | view flightId sessionId => ignore (Thread.view flightId sessionId).toSystem
  | setClock instant => SystemThread.call (.setClock instant)
  | addFlight flight => SystemThread.call (.addFlight flight)

/-- `commit` runs under `commit_lock`. -/
def critical : Job → Bool
  | commit _ _ => true
  | _ => false

end Job

/-- All threads of a system. -/
abbrev SystemPool (ι : Type) := Pool SystemCall SystemCall.Result Container Exn ι

/-- The jobs at their start, on one container. -/
def SystemPool.start {ι : Type} (c : Container) (jobs : ι → Job) : SystemPool ι where
  shared := c
  proc i := (jobs i).thread
  critical i := (jobs i).critical

/-! ## Uninterrupted -/

namespace SystemThread

open SystemCall

variable {c : Container}

/-- As a thread of the system, a thread does what it does. -/
theorem runs_toSystem {α : Type} (p : Thread α) :
    Proc.Runs handle p.toSystem (p.run StoreCall.handle) := by
  have hcall : ∀ f, Proc.Runs handle (Proc.perform (SystemCall.store f)) f.handle :=
    fun f => Proc.Runs.perform (SystemCall.store f)
  exact Proc.Runs.translate hcall p

theorem runs_call (f : SystemCall) : Proc.Runs handle (call f) f.handle := Proc.Runs.perform f

theorem run_occupancyPct (flight : Flight) :
    ((occupancyPct flight).run handle).run c =
      (QuoteService.occupancyPct c.bookingRepo flight, c) := by
  unfold occupancyPct QuoteService.occupancyPct
  by_cases htotal : flight.cabin.seatCount = 0
  · simp only [htotal, if_true]
    rfl
  · simp only [htotal, if_false]
    have hcount : ((activeBookedSeatCount flight.id).run handle).run c =
        (.ok (QuoteService.activeBookedSeatCount c.bookingRepo flight.id), c) := rfl
    rw [Proc.run_bind_ok hcount, Proc.run_bind, Eff.run_bind, Proc.Runs.ofExcept]
    cases Exn.lift ((Decimal.ofInt _).div (Decimal.ofInt flight.cabin.seatCount)) with
    | error e => rfl
    | ok ratio => exact Proc.Runs.ofExcept _ c

/-- An uninterrupted `quote` is the service call. -/
theorem run_quote (env : Collaborators) (request : QuoteRequest) :
    Proc.Runs handle (quote env request) (QuoteService.quote env request) := by
  intro c
  have hget : ((call (.store (.getFlight request.flightId))).run handle).run c =
      (.ok (c.flightRepo.get request.flightId), c) := rfl
  have hnow : ((call (.store .clockNow)).run handle).run c = (.ok c.clock, c) := rfl
  unfold quote QuoteService.quote
  rw [Proc.run_bind_ok hget, Eff.run_get_bind]
  cases c.flightRepo.get request.flightId with
  | none => rfl
  | some flight =>
      simp only
      rw [Proc.run_bind_ok hnow]
      by_cases hpast : flight.departureAt.date - c.clock.date < 0
      · rw [if_pos hpast, if_pos hpast]
        rfl
      · rw [if_neg hpast, if_neg hpast, Proc.run_bind, Eff.run_bind, run_occupancyPct,
          Eff.run_bind, Eff.run_ofExcept]
        cases QuoteService.occupancyPct c.bookingRepo flight with
        | error e => rfl
        | ok occupancyPct =>
            simp only
            -- from here on no call reads the stores
            refine (Proc.Runs.ofExcept _).bind (fun taxes => ?_) c
            refine (Proc.Runs.ofExcept _).bind fun breakdown => ?_
            unfold drawSession
            cases request.sessionId
            case' some session =>
              refine Proc.Runs.bind (m := pure session) (fun _ => rfl) fun session => ?_
            case' none => refine (runs_call .newSessionId).bind fun session => ?_
            all_goals
              refine (runs_call .newQuoteId).bind fun quoteId => ?_
              refine (Proc.Runs.ofExcept _).bind fun expiresAt => ?_
              refine (runs_call (.saveQuote _)).bind fun _ => ?_
              refine (Proc.Runs.ofExcept _).bind fun event => ?_
              exact (runs_call (.store (.writeAudit env (.quoteCreated event)))).bind
                fun _ _ => rfl

end SystemThread

end FlightBooking
