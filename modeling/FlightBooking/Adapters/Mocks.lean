import FlightBooking.Domain.Model

/-!
# Mocks

`adapters/mocks/`: the id generator, the payment gateway and the audit events.
The audit log is the list of its events, the email sender the list of what it
queued, the frozen clock the instant it shows.
-/

namespace FlightBooking

open Py

/-- `DeterministicIdGenerator`: the ids still to be drawn. The lock ids are the
queue behind the seat-lock store, their only reader. -/
structure DeterministicIdGenerator where
  bookingRefs : List String := ["REF001", "REF002", "REF003"]
  quoteIds : List String := ["Q001", "Q002", "Q003"]
  sessionIds : List String := ["S001", "S002", "S003"]
deriving DecidableEq, Repr

/-- What `list.pop(0)` raises on an empty list. -/
def popFromEmpty : Exn := .indexError "pop from empty list"

structure PaymentResult where
  succeeded : Bool
  reason : Option String := none
deriving DecidableEq, Repr

/-- `MockPaymentGateway(fail_on_tokens=…).charge`. -/
def mockCharge (failOnTokens : List String) (token : String) (_amount : Money) : PaymentResult :=
  if token ∈ failOnTokens then { succeeded := false, reason := some "declined" }
  else { succeeded := true }

/-- A call the payment gateway has answered. -/
structure Charge where
  token : String
  amount : Money
  succeeded : Bool
deriving DecidableEq, Repr

/-- The fields of the `QuoteCreated` event. -/
structure QuoteCreated where
  quoteId : String
  sessionId : String
  flightId : String
  seatIds : List String
  occupancyPct : String
  daysBeforeDeparture : Int
  departureDow : String
  baseFare : String
  total : String
  createdAt : String
  expiresAt : String
deriving DecidableEq, Repr

/-- The fields of the `PaymentFailed` event. -/
structure PaymentFailed where
  quoteId : Option String
  flightId : String
  seatIds : List String
  paymentToken : String
  reason : String
  attemptedAt : String
deriving DecidableEq, Repr

/-- The fields of the `BookingCommitted` event. -/
structure BookingCommitted where
  bookingReference : String
  quoteId : String
  flightId : String
  seatIds : List String
  totalCharged : String
  committedAt : String
deriving DecidableEq, Repr

/-- An event of the audit log, by its `type`. -/
inductive AuditEvent where
  | quoteCreated (event : QuoteCreated)
  | paymentFailed (event : PaymentFailed)
  | bookingCommitted (event : BookingCommitted)
deriving DecidableEq, Repr

end FlightBooking
