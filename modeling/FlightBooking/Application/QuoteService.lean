import FlightBooking.Composition.Container
import FlightBooking.Domain.Pricing

/-!
# QuoteService

`application/quote_service.py`: price the request from the current flight state,
store the quote for thirty minutes, write the audit event.
-/

namespace FlightBooking

open Py

/-- `QUOTE_TTL`, thirty minutes. -/
def quoteTtl : Int := DateTime.minutes 30

structure QuoteRequest where
  flightId : FlightId
  seatIds : List SeatId
  passengers : Int
  sessionId : Option SessionId := none
deriving DecidableEq, Repr

namespace QuoteService

/-- `_active_booked_seat_count`: seats of the confirmed bookings on the flight. -/
def activeBookedSeatCount (bookings : InMemoryBookingRepository) (flightId : FlightId) : Nat :=
  bookings.iterAll.foldl
    (fun count booking =>
      if booking.flightId ≠ flightId then count
      else if booking.status ≠ .confirmed then count
      else count + booking.seatIds.length)
    0

/-- `_occupancy_pct`. -/
def occupancyPct (bookings : InMemoryBookingRepository) (flight : Flight) : Except Exn Decimal :=
  let total := flight.cabin.seatCount
  if total = 0 then .ok (Decimal.ofInt 0)
  else do
    let cabinOccupied := flight.cabin.seats.values.countP
      (fun seat => decide (seat.status = .occupied ∨ seat.status = .blocked))
    let booked := activeBookedSeatCount bookings flight.id
    let ratio ← Exn.lift ((Decimal.ofInt (cabinOccupied + booked : Nat)).div (Decimal.ofInt total))
    Exn.lift (ratio.mul (Decimal.ofInt 100))

/-- `_compute_taxes`. -/
def computeTaxes (flight : Flight) (occupancyPct : Decimal) (daysBefore : Int)
    (departureDow : DayOfWeek) (surcharges : List SeatSurchargeLine) : Except Exn Money := do
  let demand ← Pricing.demandMultiplier occupancyPct
  let time ← Pricing.timeMultiplier daysBefore
  let dow := Pricing.dayMultiplier departureDow
  let taxable ← Exn.lift (flight.baseFare.amount.mul demand)
  let taxable ← Exn.lift (taxable.mul time)
  let taxable ← Exn.lift (taxable.mul dow)
  let taxable ← surcharges.foldlM (fun taxable line => Exn.lift (taxable.add line.amount.amount))
    taxable
  Pricing.computeTaxes ⟨taxable, flight.baseFare.currency⟩ flight.routeKind

/-- `_seat_surcharges`: one line a requested seat of the cabin, others skipped. -/
def seatSurcharges (flight : Flight) (seatIds : List SeatId) : List SeatSurchargeLine :=
  seatIds.filterMap fun seatId =>
    (flight.cabin.seats.get? seatId).map fun seat =>
      { seat := seatId, amount := Pricing.lookupSeatSurcharge seat.seatClass seat.kind }

/-- `_build_audit_event`. Rendering the total is where it is first computed. -/
def buildAuditEvent (quote : Quote) (breakdown : PriceBreakdown) (occupancyPct : Decimal)
    (daysBefore : Int) (departureDow : DayOfWeek) : Except Exn QuoteCreated := do
  let total ← breakdown.total
  return {
    quoteId := quote.id.value
    sessionId := quote.sessionId.value
    flightId := quote.flightId.value
    seatIds := quote.seatIds.map SeatId.value
    occupancyPct := occupancyPct.str
    daysBeforeDeparture := daysBefore
    departureDow := departureDow.name
    baseFare := breakdown.baseFare.amount.str
    total := total.amount.str
    createdAt := quote.createdAt.isoformat
    expiresAt := quote.expiresAt.isoformat }

/-- `quote`. -/
def quote (env : Collaborators) (request : QuoteRequest) : Stmt Quote := do
  let c ← Eff.get
  match c.flightRepo.get request.flightId with
  | none =>
      Eff.raise (.quoteNotFound ("flight " ++ request.flightId.value ++ " not found"))
  | some flight =>
    let now := c.clock
    -- whole days: a flight that has left today is still quoted
    let daysBefore := flight.departureAt.date - now.date
    if daysBefore < 0 then
      Eff.raise (.flightAlreadyDeparted ("flight " ++ request.flightId.value ++
        " already departed at " ++ flight.departureAt.isoformat))
    else
      let occupancyPct ← Eff.ofExcept (occupancyPct c.bookingRepo flight)
      let departureDow := DayOfWeek.ofWeekday flight.departureAt.weekday
      let surcharges := seatSurcharges flight request.seatIds
      let taxes ← Eff.ofExcept
        (computeTaxes flight occupancyPct daysBefore departureDow surcharges)
      let fees := Pricing.lookupFlatFees flight.id.value
      let breakdown ← Eff.ofExcept (Pricing.price {
        baseFare := flight.baseFare
        occupancyPct
        daysBeforeDeparture := daysBefore
        departureDow
        surcharges
        taxes
        fees })
      let session ← match request.sessionId with
        | some session => pure session
        | none => newSessionId
      let quoteId ← newQuoteId
      let expiresAt ← Eff.ofExcept ((now.plus quoteTtl).mapError Exn.overflowError)
      let quote : Quote := {
        id := quoteId
        sessionId := session
        flightId := request.flightId
        seatIds := request.seatIds
        passengers := request.passengers
        priceBreakdown := breakdown
        createdAt := now
        expiresAt }
      -- the quote is stored before its total is ever computed
      saveQuote quote
      let event ← Eff.ofExcept
        (buildAuditEvent quote breakdown occupancyPct daysBefore departureDow)
      writeAudit env (.quoteCreated event)
      return quote

end QuoteService

end FlightBooking
