import FlightBooking.Composition.Container

/-!
# BookingService

`application/booking_service.py`. The whole of `commit` runs under
`commit_lock`, so two commits never interleave and one commit is one step.
-/

namespace FlightBooking

open Py

structure CommitRequest where
  flightId : FlightId
  seatIds : List SeatId
  passengers : List PassengerDetails
  paymentToken : String
  quoteId : Option QuoteId := none
  lockId : Option String := none
  sessionId : Option SessionId := none
deriving DecidableEq, Repr

/-- The `error_code` strings. -/
inductive ErrorCode where
  | flightNotFound
  | quoteNotFound
  | quoteExpired
  | unknownSeat
  | seatNotForSale
  | seatAlreadyBooked
  | lockNotFound
  | lockExpired
  | lockSessionMismatch
  | paymentDeclined
deriving DecidableEq, Repr

structure CommitResult where
  booking : Option Booking
  errorCode : Option ErrorCode := none
  errorMessage : Option String := none
deriving DecidableEq, Repr

/-- `CommitResult(booking=None, error_code=…, error_message=…)`. -/
def CommitResult.refuse (code : ErrorCode) (message : String) : CommitResult where
  booking := none
  errorCode := some code
  errorMessage := some message

/-- `_QuoteLookup`: at most one of the two is set. -/
structure QuoteLookup where
  quote : Option Quote := none
  error : Option CommitResult := none
deriving DecidableEq, Repr

namespace BookingService

/-- The sentinel quote id of a commit without a quote. -/
def wsShortcutQuoteId : QuoteId := ⟨"Q000-WS"⟩

/-- `_resolve_quote`. -/
def resolveQuote (quotes : InMemoryQuoteStore) (quoteId : Option QuoteId) (now : DateTime) :
    QuoteLookup :=
  match quoteId with
  | none => {}
  | some quoteId =>
      match quotes.getValid quoteId now with
      | some valid => { quote := some valid }
      | none =>
          match quotes.get quoteId with
          | none =>
              { error := some (.refuse .quoteNotFound ("quote not found: " ++ quoteId.value)) }
          | some _ =>
              { error := some (.refuse .quoteExpired ("quote expired: " ++ quoteId.value)) }

/-- `_seat_already_booked`. -/
def seatAlreadyBooked (bookings : InMemoryBookingRepository) (flightId : FlightId)
    (seatId : SeatId) : Bool :=
  bookings.iterAll.any fun existing =>
    if existing.flightId ≠ flightId then false
    else if existing.status ≠ .confirmed then false
    else decide (seatId ∈ existing.seatIds)

/-- The loop of `_validate_seats`: the first seat that fails decides. -/
def validateSeatIds (bookings : InMemoryBookingRepository) (flight : Flight)
    (flightId : FlightId) : List SeatId → Option CommitResult
  | [] => none
  | seatId :: rest =>
      match flight.cabin.seats.get? seatId with
      | none => some (.refuse .unknownSeat ("unknown seat: " ++ seatId.value))
      | some seat =>
          if seat.status = .blocked then
            some (.refuse .seatNotForSale ("seat not for sale: " ++ seatId.value))
          else if seatAlreadyBooked bookings flightId seatId then
            some (.refuse .seatAlreadyBooked ("seat already booked: " ++ seatId.value))
          else validateSeatIds bookings flight flightId rest

/-- `_validate_seats`. -/
def validateSeats (bookings : InMemoryBookingRepository) (flight : Flight)
    (request : CommitRequest) : Option CommitResult :=
  validateSeatIds bookings flight request.flightId request.seatIds

/-- `_check_lock_session_ownership`. A request without a session passes. -/
def checkLockSessionOwnership (locks : InMemorySeatLockStore) (request : CommitRequest) :
    Option CommitResult :=
  match request.lockId with
  | none => none
  | some lockId =>
      match locks.get lockId with
      | none => none
      | some raw =>
          match request.sessionId with
          | none => none
          | some sessionId =>
              if raw.sessionId = sessionId then none
              else some (.refuse .lockSessionMismatch "seat lock not owned by session")

/-- `_validate_lock`. -/
def validateLock (locks : InMemorySeatLockStore) (request : CommitRequest) (now : DateTime) :
    Option CommitResult :=
  match request.lockId with
  | none => none
  | some lockId =>
      -- only a live lock is asked for its owner
      if locks.isValid lockId now then checkLockSessionOwnership locks request
      else
        match locks.get lockId with
        | none => some (.refuse .lockNotFound ("seat lock not found: " ++ lockId))
        | some _ => some (.refuse .lockExpired ("seat lock expired: " ++ lockId))

/-- `commit`. -/
def commit (env : Collaborators) (request : CommitRequest) : Stmt CommitResult := do
  let c ← Eff.get
  match c.flightRepo.get request.flightId with
  | none =>
      return .refuse .flightNotFound ("flight " ++ request.flightId.value ++ " not found")
  | some flight =>
    let now := c.clock
    let quoteLookup := resolveQuote c.quoteStore request.quoteId now
    if let some quoteError := quoteLookup.error then return quoteError
    if let some seatError := validateSeats c.bookingRepo flight request then return seatError
    if let some lockError := validateLock c.seatLockStore request now then return lockError
    let total ← match quoteLookup.quote with
      | some quote => Eff.ofExcept quote.priceBreakdown.total
      | none => pure flight.baseFare
    let paymentResult ← charge env request.paymentToken total
    if !paymentResult.succeeded then
      writeAudit env (.paymentFailed {
        quoteId := request.quoteId.map QuoteId.value
        flightId := request.flightId.value
        seatIds := request.seatIds.map SeatId.value
        paymentToken := request.paymentToken
        -- `reason or "declined"`: an empty reason counts as none
        reason := match paymentResult.reason with
          | none => "declined"
          | some reason => if reason = "" then "declined" else reason
        attemptedAt := now.isoformat })
      return .refuse .paymentDeclined "payment declined by gateway"
    -- the customer has paid; nothing below is undone by an exception
    let reference ← newBookingReference env
    let quoteId := match quoteLookup.quote with
      | some quote => quote.id
      | none => wsShortcutQuoteId
    let booking : Booking := {
      reference
      flightId := request.flightId
      seatIds := request.seatIds
      passengers := request.passengers
      totalCharged := total
      status := .confirmed
      quoteId
      confirmedAt := now }
    saveBooking env booking
    queueConfirmation env booking
    match request.lockId with
    | some lockId => releaseLock env lockId
    | none => pure ()
    writeAudit env (.bookingCommitted {
      bookingReference := reference.value
      quoteId := quoteId.value
      flightId := request.flightId.value
      seatIds := request.seatIds.map SeatId.value
      totalCharged := total.amount.str
      committedAt := now.isoformat })
    return { booking := some booking }

end BookingService

end FlightBooking
