import FlightBooking.Adapters.HttpApp
import FlightBooking.Application.QuoteService
import FlightBooking.Application.SeatServices
import FlightBooking.Application.BookingService

/-!
# HttpRoutes

The routes of `create_app`: what each reads from the request, which service it calls,
and the status and body it answers with. A request body is what the client sent, a field
that is absent being `none`; the validated body carries its constraints. What a route
does not catch leaves it as an exception.
-/

namespace FlightBooking

open Py

/-! ## The words on the wire -/

def SeatClass.value : SeatClass → String
  | economy => "ECONOMY"
  | business => "BUSINESS"
  | first => "FIRST"

def SeatKind.value : SeatKind → String
  | standard => "STANDARD"
  | middle => "MIDDLE"
  | aisle => "AISLE"
  | window => "WINDOW"
  | exitRow => "EXIT_ROW"
  | frontSection => "FRONT_SECTION"
  | bulkhead => "BULKHEAD"
  | lieFlatSuite => "LIE_FLAT_SUITE"
  | windowSuite => "WINDOW_SUITE"
  | aisleAccess => "AISLE_ACCESS"
  | privateSuite => "PRIVATE_SUITE"
  | frontRow => "FRONT_ROW"

def SeatStatus.value : SeatStatus → String
  | available => "AVAILABLE"
  | occupied => "OCCUPIED"
  | blocked => "BLOCKED"

def BookingStatus.value : BookingStatus → String
  | confirmed => "CONFIRMED"
  | checkedIn => "CHECKED_IN"
  | completed => "COMPLETED"
  | cancelledByTraveler => "CANCELLED_BY_TRAVELER"
  | cancelledByOperator => "CANCELLED_BY_OPERATOR"

/-! ## Request bodies -/

/-- `MAX_SEATS_PER_QUOTE`. -/
def maxSeatsPerQuote : Nat := 9

/-- The names of the checks that fail, in their order. -/
def failing (checks : List (String × Bool)) : List String :=
  (checks.filter fun check => !check.2).map Prod.fst

theorem failing_eq_nil_iff {checks : List (String × Bool)} :
    failing checks = [] ↔ ∀ check ∈ checks, check.2 = true := by
  simp [failing, List.filter_eq_nil_iff]

/-- `min_length=1` of a text, `min_length=1, max_length=MAX_SEATS_PER_QUOTE` of a list. -/
def isNonempty (text : String) : Bool := decide (text ≠ "")

def isSeatList (seatIds : List String) : Bool :=
  decide (1 ≤ seatIds.length ∧ seatIds.length ≤ maxSeatsPerQuote)

/-- The body of `POST /quotes`. -/
structure QuotePayload where
  flightId : Option String
  seatIds : Option (List String)
  passengers : Option Int
  sessionId : Option String := none
deriving DecidableEq, Repr

/-- `QuoteRequestBody`. -/
structure QuoteRequestBody where
  flightId : String
  seatIds : List String
  passengers : Int
  sessionId : Option String
  flightId_nonempty : flightId ≠ ""
  seatIds_length : 1 ≤ seatIds.length ∧ seatIds.length ≤ maxSeatsPerQuote
  passengers_range : minPassengers ≤ passengers ∧ passengers ≤ maxPassengers

/-- The `QuoteRequest` of a body. -/
def QuoteRequestBody.request (body : QuoteRequestBody) : QuoteRequest where
  flightId := ⟨body.flightId⟩
  seatIds := body.seatIds.map SeatId.mk
  passengers := body.passengers
  sessionId := body.sessionId.map SessionId.mk

def QuotePayload.invalid (payload : QuotePayload) : List String :=
  failing [("flightId", payload.flightId.any isNonempty),
    ("seatIds", payload.seatIds.any isSeatList),
    ("passengers", payload.passengers.any fun passengers =>
      decide (minPassengers ≤ passengers ∧ passengers ≤ maxPassengers))]

/-- The validated body, or the fields of a 400. -/
def QuotePayload.validate (payload : QuotePayload) : Except (List String) QuoteRequestBody :=
  match payload.flightId, payload.seatIds, payload.passengers with
  | some flightId, some seatIds, some passengers =>
      if h : flightId ≠ "" ∧ (1 ≤ seatIds.length ∧ seatIds.length ≤ maxSeatsPerQuote) ∧
          (minPassengers ≤ passengers ∧ passengers ≤ maxPassengers) then
        .ok {
          flightId
          seatIds
          passengers
          sessionId := payload.sessionId
          flightId_nonempty := h.1
          seatIds_length := h.2.1
          passengers_range := h.2.2 }
      else .error payload.invalid
  | _, _, _ => .error payload.invalid

/-- A body is valid if no field fails. -/
theorem QuotePayload.validate_ok_iff {payload : QuotePayload} :
    (∃ body, payload.validate = .ok body) ↔ payload.invalid = [] := by
  obtain ⟨flightId, seatIds, passengers, sessionId⟩ := payload
  rw [invalid, failing_eq_nil_iff]
  cases flightId <;> cases seatIds <;> cases passengers <;>
    simp [validate, isNonempty, isSeatList, dite_eq_iff]

/-- The body of `POST /seat-locks`. -/
structure SeatLockPayload where
  flightId : Option String
  seatIds : Option (List String)
  sessionId : Option String
deriving DecidableEq, Repr

/-- `SeatLockRequestBody`. -/
structure SeatLockRequestBody where
  flightId : String
  seatIds : List String
  sessionId : String
  flightId_nonempty : flightId ≠ ""
  seatIds_length : 1 ≤ seatIds.length ∧ seatIds.length ≤ maxSeatsPerQuote
  sessionId_nonempty : sessionId ≠ ""

def SeatLockPayload.invalid (payload : SeatLockPayload) : List String :=
  failing [("flightId", payload.flightId.any isNonempty),
    ("seatIds", payload.seatIds.any isSeatList),
    ("sessionId", payload.sessionId.any isNonempty)]

/-- The validated body, or the fields of a 400. -/
def SeatLockPayload.validate (payload : SeatLockPayload) :
    Except (List String) SeatLockRequestBody :=
  match payload.flightId, payload.seatIds, payload.sessionId with
  | some flightId, some seatIds, some sessionId =>
      if h : flightId ≠ "" ∧ (1 ≤ seatIds.length ∧ seatIds.length ≤ maxSeatsPerQuote) ∧
          sessionId ≠ "" then
        .ok {
          flightId
          seatIds
          sessionId
          flightId_nonempty := h.1
          seatIds_length := h.2.1
          sessionId_nonempty := h.2.2 }
      else .error payload.invalid
  | _, _, _ => .error payload.invalid

theorem SeatLockPayload.validate_ok_iff {payload : SeatLockPayload} :
    (∃ body, payload.validate = .ok body) ↔ payload.invalid = [] := by
  obtain ⟨flightId, seatIds, sessionId⟩ := payload
  rw [invalid, failing_eq_nil_iff]
  cases flightId <;> cases seatIds <;> cases sessionId <;>
    simp [validate, isNonempty, isSeatList, dite_eq_iff]

/-- The body of `POST /bookings`. The route takes any object; this is one whose values are
texts, with an object for `passenger` that may lack its `name`. An optional field that is
null counts as absent. -/
structure BookingPayload where
  flightId : Option String
  seatId : Option String
  passenger : Option (Option String)
  paymentToken : Option String
  quoteId : Option String := none
  lockId : Option String := none
  sessionId : Option String := none
deriving DecidableEq, Repr

/-- `payload[key]`. -/
def BookingPayload.required {α : Type} (key : String) (value : Option α) : Except String α :=
  match value with
  | some value => .ok value
  | none => .error key

/-- The `CommitRequest` of the body, or the key that is missing first. -/
def BookingPayload.request (payload : BookingPayload) : Except String CommitRequest := do
  let flightId ← required "flightId" payload.flightId
  let seatId ← required "seatId" payload.seatId
  let passenger ← required "passenger" payload.passenger
  let name ← required "name" passenger
  let paymentToken ← required "paymentToken" payload.paymentToken
  return {
    flightId := ⟨flightId⟩
    seatIds := [⟨seatId⟩]
    passengers := [{ fullName := name }]
    paymentToken
    quoteId := payload.quoteId.map QuoteId.mk
    lockId := payload.lockId
    sessionId := payload.sessionId.map SessionId.mk }

/-! ## Responses -/

structure SeatLockResponse where
  lockId : String
  expiresAt : String
deriving DecidableEq, Repr

structure BookingResponse where
  bookingReference : String
  status : String
  flightId : String
  seats : List String
  passengers : List String
  totalCharged : MoneyResponse
  confirmedAt : String
deriving DecidableEq, Repr

structure SeatResponse where
  seatId : String
  seatClass : String
  kind : String
  status : String
deriving DecidableEq, Repr

structure SeatMapResponse where
  flightId : String
  seats : List SeatResponse
deriving DecidableEq, Repr

/-- The body of a response. `detail` is that of an `HTTPException`. -/
inductive Body where
  | detail (text : Option String)
  | errors (fields : List String)
  | conflicts (seats : List String)
  | quote (body : QuoteResponse)
  | lock (body : SeatLockResponse)
  | booking (body : BookingResponse)
  | seatMap (body : SeatMapResponse)
  | search (body : SearchResponse)
deriving DecidableEq, Repr

structure Response where
  status : Nat
  body : Body
deriving DecidableEq, Repr

/-- `HTTPException`. -/
def Response.exception (status : Nat) (detail : Option String) : Response :=
  ⟨status, .detail detail⟩

/-- `_validation_error_to_400`. -/
def Response.invalid (fields : List String) : Response := ⟨400, .errors fields⟩

/-- `_COMMIT_ERROR_HTTP_STATUS`. -/
def commitErrorHttpStatus : ErrorCode → Nat
  | .unknownSeat => 400
  | .seatAlreadyBooked => 409
  | .seatNotForSale => 409
  | .flightNotFound => 400
  | .paymentDeclined => 402
  | .quoteExpired => 410
  | .quoteNotFound => 404
  | .lockExpired => 410
  | .lockNotFound => 404
  | .lockSessionMismatch => 403

/-- `_error_status_for`. -/
def errorStatusFor : Option ErrorCode → Nat
  | none => 400
  | some code => commitErrorHttpStatus code

/-- `_serialize_booking`. -/
def serializeBooking (booking : Booking) : BookingResponse where
  bookingReference := booking.reference.value
  status := booking.status.value
  flightId := booking.flightId.value
  seats := booking.seatIds.map SeatId.value
  passengers := booking.passengers.map PassengerDetails.fullName
  totalCharged :=
    { amount := booking.totalCharged.amount.str, currency := booking.totalCharged.currency }
  confirmedAt := booking.confirmedAt.isoformat

/-- What `post_booking` makes of the result. -/
def commitResponse (result : CommitResult) : Response :=
  match result.booking with
  | none => .exception (errorStatusFor result.errorCode) result.errorMessage
  | some booking => ⟨201, .booking (serializeBooking booking)⟩

/-- What `post_quote` makes of the quote, or of the exception. -/
def quoteResponse : Except Exn Quote → Except Exn Response
  | .ok quote => (serializeQuote quote).map fun body => ⟨200, .quote body⟩
  | .error (.quoteNotFound message) => .ok (.exception 404 (some message))
  | .error (.flightAlreadyDeparted message) => .ok (.exception 400 (some message))
  | .error e => .error e

def serializeEntry (entry : SeatMapEntry) : SeatResponse where
  seatId := entry.seatId.value
  seatClass := entry.seatClass.value
  kind := entry.kind.value
  status := entry.status.value

/-! ## The routes -/

/-- A request, with the parameters of its path and its body. -/
inductive HttpRequest where
  | searchFlights (query : SearchQuery)
  | getSeats (flightId : String) (sessionId : Option String)
  | postQuote (payload : QuotePayload)
  | postSeatLock (payload : SeatLockPayload)
  | postBooking (payload : BookingPayload)
  | getBooking (reference : String)
deriving DecidableEq

namespace HttpApp

/-- `get_seats`; an empty session counts as none. -/
def getSeats (flightId : String) (sessionId : Option String) : Stmt Response := do
  let requestingSession := (sessionId.filter isNonempty).map SessionId.mk
  let c ← Eff.get
  match ← Eff.ofExcept (SeatMapService.view c ⟨flightId⟩ requestingSession) with
  | none => return .exception 404 (some "flight not found")
  | some entries => return ⟨200, .seatMap { flightId, seats := entries.map serializeEntry }⟩

/-- `post_quote` on a valid body. -/
def postQuote (env : Collaborators) (body : QuoteRequestBody) : Stmt Response := fun c =>
  let (quote, c) := (QuoteService.quote env body.request).run c
  (quoteResponse quote, c)

/-- `post_seat_lock` on a valid body. -/
def postSeatLock (body : SeatLockRequestBody) : Stmt Response := do
  let result ← SeatHoldService.acquire ⟨body.flightId⟩ (body.seatIds.map SeatId.mk)
    ⟨body.sessionId⟩
  if !result.success then
    return ⟨409, .conflicts (result.conflicts.map SeatId.value)⟩
  match result.lockId, result.expiresAt with
  | some lockId, some expiresAt => return ⟨201, .lock { lockId, expiresAt := expiresAt.isoformat }⟩
  | _, _ => Eff.raise (.assertionError "")

/-- `post_booking`. -/
def postBooking (env : Collaborators) (payload : BookingPayload) : Stmt Response := do
  match payload.request with
  | .error key => return .exception 422 (some ("missing field: " ++ key))
  | .ok request =>
      let result ← BookingService.commit env request
      return commitResponse result

/-- `get_booking`. -/
def getBooking (reference : String) : Stmt Response := do
  let c ← Eff.get
  match c.bookingRepo.get ⟨reference⟩ with
  | none => return .exception 404 (some "booking not found")
  | some booking => return ⟨200, .booking (serializeBooking booking)⟩

/-- `search_flights`, its parameters validated. -/
def search (query : SearchQuery) : Stmt Response := do
  match searchQueryParams query with
  | .error fields => return .invalid fields
  | .ok params =>
      let c ← Eff.get
      let body ← Eff.ofExcept (searchFlights c params)
      return ⟨200, .search body⟩

/-- The app on a request. -/
def handle (env : Collaborators) : HttpRequest → Stmt Response
  | .searchFlights query => search query
  | .getSeats flightId sessionId => getSeats flightId sessionId
  | .postQuote payload =>
      match payload.validate with
      | .error fields => pure (.invalid fields)
      | .ok body => postQuote env body
  | .postSeatLock payload =>
      match payload.validate with
      | .error fields => pure (.invalid fields)
      | .ok body => postSeatLock body
  | .postBooking payload => postBooking env payload
  | .getBooking reference => getBooking reference

end HttpApp

end FlightBooking
