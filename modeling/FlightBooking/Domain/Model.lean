import FlightBooking.Lib.Dict
import FlightBooking.Lib.Decimal
import FlightBooking.Lib.ZonedDateTime

/-!
# Domain model

The records of `domain/model/`: identifiers, money, seats, flights, quotes and
bookings, with the one computation that lives on them, `PriceBreakdown.total`.
-/

namespace FlightBooking

open Py

/-- What a method of the program raises. `fault` is whatever a collaborator
outside the model raises (an `OSError` of the audit file, say). -/
inductive Exn where
  | decimal (signal : Decimal.Signal)
  | valueError (message : String)
  | assertionError (message : String)
  | indexError (message : String)
  | typeError (message : String)
  | overflowError (message : String)
  | quoteNotFound (message : String)
  | flightAlreadyDeparted (message : String)
  | fault (message : String)
deriving DecidableEq, Repr

/-- A `decimal` operation inside a method: its signal propagates. -/
def Exn.lift {α : Type} : Except Decimal.Signal α → Except Exn α
  | .ok a => .ok a
  | .error s => .error (.decimal s)

/-! ## Identifiers -/

structure FlightId where
  value : String
deriving DecidableEq, Repr

structure SeatId where
  value : String
deriving DecidableEq, Repr

structure BookingReference where
  value : String
deriving DecidableEq, Repr

structure QuoteId where
  value : String
deriving DecidableEq, Repr

structure SessionId where
  value : String
deriving DecidableEq, Repr

/-! ## Money -/

/-- `MONEY_QUANT`. -/
def moneyQuant : Decimal := .finite false 1 (-2)

structure Money where
  amount : Decimal
  currency : String := "USD"
deriving DecidableEq, Repr

/-- `Money.of(value)`: quantized to cents. -/
def Money.of (value : Decimal) (currency : String := "USD") : Except Exn Money := do
  let amount ← Exn.lift (value.quantize moneyQuant)
  return ⟨amount, currency⟩

/-- `__add__`: a sum of one currency, quantized to cents. -/
def Money.add (a b : Money) : Except Exn Money := do
  if a.currency ≠ b.currency then
    throw (.valueError ("cannot add Money of different currencies: " ++ a.currency ++ " + " ++
      b.currency))
  let sum ← Exn.lift (a.amount.add b.amount)
  let amount ← Exn.lift (sum.quantize moneyQuant)
  return ⟨amount, a.currency⟩

/-- What `Money.of("n")` is for a whole number of dollars. -/
def Money.whole (n : Int) : Money := ⟨.finite (decide (n < 0)) (n.natAbs * 100) (-2), "USD"⟩

/-! ## Seats and flights -/

inductive SeatClass where
  | economy | business | first
deriving DecidableEq, Repr

inductive SeatKind where
  | standard | middle | aisle | window | exitRow | frontSection | bulkhead
  | lieFlatSuite | windowSuite | aisleAccess | privateSuite | frontRow
deriving DecidableEq, Repr

inductive SeatStatus where
  | available | occupied | blocked
deriving DecidableEq, Repr

structure Seat where
  id : SeatId
  seatClass : SeatClass
  kind : SeatKind
  status : SeatStatus := .available
deriving DecidableEq, Repr

inductive RouteKind where
  | domestic | international
deriving DecidableEq, Repr

structure Cabin where
  seats : Dict SeatId Seat := Dict.empty
deriving DecidableEq

def Cabin.seatCount (c : Cabin) : Nat := c.seats.size

structure Flight where
  id : FlightId
  origin : String
  destination : String
  departureAt : ZonedDateTime
  arrivalAt : ZonedDateTime
  airline : String
  baseFare : Money
  cabin : Cabin
  routeKind : RouteKind := .domestic
deriving DecidableEq

/-! ## Quotes -/

structure SeatSurchargeLine where
  seat : SeatId
  amount : Money
deriving DecidableEq, Repr

structure PriceBreakdown where
  baseFare : Money
  demandMultiplier : Decimal
  timeMultiplier : Decimal
  dayMultiplier : Decimal
  seatSurcharges : List SeatSurchargeLine := []
  taxes : Money := Money.whole 0
  fees : Money := Money.whole 0
deriving DecidableEq, Repr

/-- Half-even one position coarser than the last nonzero fractional digit, and
at cents when there are more than two of them. -/
def roundHalfEvenToPriorDigit (raw : Decimal) : Except Exn Decimal := do
  let normalized ← Exn.lift raw.normalize
  let target :=
    match normalized.exponent? with
    | some e =>
        if e < -2 then moneyQuant
        else if e < 0 then Decimal.tenPow (e + 1)
        else Decimal.ofInt 1
    | none => Decimal.ofInt 1
  Exn.lift (normalized.quantize target)

/-- `raw += line.amount`, for an amount in the currency of the fare. -/
def addMoney (what currency : String) (raw : Decimal) (m : Money) : Except Exn Decimal :=
  if m.currency ≠ currency then
    .error (.valueError (what ++ " currency " ++ m.currency ++ " != base " ++ currency))
  else Exn.lift (raw.add m.amount)

/-- `PriceBreakdown.total`, recomputed at each access. -/
def PriceBreakdown.total (b : PriceBreakdown) : Except Exn Money := do
  let currency := b.baseFare.currency
  let demandTime ← Exn.lift (b.demandMultiplier.mul b.timeMultiplier)
  let multiplier ← Exn.lift (demandTime.mul b.dayMultiplier)
  let raw ← Exn.lift (b.baseFare.amount.mul multiplier)
  let raw ← b.seatSurcharges.foldlM
    (fun raw line => addMoney "surcharge" currency raw line.amount) raw
  let raw ← addMoney "taxes" currency raw b.taxes
  let raw ← addMoney "fees" currency raw b.fees
  let rounded ← roundHalfEvenToPriorDigit raw
  let amount ← Exn.lift (rounded.quantize moneyQuant)
  return ⟨amount, currency⟩

structure Quote where
  id : QuoteId
  sessionId : SessionId
  flightId : FlightId
  seatIds : List SeatId
  passengers : Int
  priceBreakdown : PriceBreakdown
  createdAt : DateTime
  expiresAt : DateTime
deriving DecidableEq, Repr

/-! ## Bookings -/

/-- `date_of_birth` is a day count, as `DateTime.date` is. -/
structure PassengerDetails where
  fullName : String
  dateOfBirth : Option Int := none
  passportNumber : Option String := none
deriving DecidableEq, Repr

inductive BookingStatus where
  | confirmed | checkedIn | completed | cancelledByTraveler | cancelledByOperator
deriving DecidableEq, Repr

structure Booking where
  reference : BookingReference
  flightId : FlightId
  seatIds : List SeatId
  passengers : List PassengerDetails
  totalCharged : Money
  status : BookingStatus
  quoteId : QuoteId
  confirmedAt : DateTime
  history : List String := []
deriving DecidableEq, Repr

end FlightBooking
