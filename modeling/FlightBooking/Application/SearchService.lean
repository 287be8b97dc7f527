import Mathlib.Data.List.ProdSigma
import Mathlib.Data.List.Sort
import FlightBooking.Lib.Loops
import FlightBooking.Adapters.Repositories

/-!
# SearchService

`application/search_service.py`: one-way search, and round-trip search as the
pairs of two one-way searches with two hours between arrival and return.
-/

namespace FlightBooking

open Py

/-- `MINIMUM_LAYOVER`. -/
def minimumLayover : Int := DateTime.minutes 120

structure SearchRequest where
  origin : String
  destination : String
  departureDate : String
  passengers : Int := 1
  page : Int := 1
  size : Int := 20
  airline : Option String := none
  returnDate : Option String := none
  minPrice : Option Decimal := none
  maxPrice : Option Decimal := none
  departureTimeFrom : Option TimeOfDay := none
  departureTimeTo : Option TimeOfDay := none
deriving DecidableEq, Repr

structure SearchResult where
  flights : List Flight
  page : Int
  size : Int
  total : Nat
deriving DecidableEq

structure FlightPair where
  outbound : Flight
  returnFlight : Flight
  totalIndicativePrice : Money
deriving DecidableEq

structure RoundTripResult where
  pairs : List FlightPair
  page : Int
  size : Int
  pairCount : Nat
deriving DecidableEq

def RoundTripResult.flightCount (result : RoundTripResult) : Nat := 2 * result.pairCount

namespace SearchService

/-- `min_price is not None and price < min_price`. -/
def isBelow (price : Decimal) : Option Decimal → Except Exn Bool
  | some bound => Exn.lift (price.lt bound)
  | none => .ok false

/-- `max_price is not None and price > max_price`. -/
def isAbove (price : Decimal) : Option Decimal → Except Exn Bool
  | some bound => Exn.lift (bound.lt price)
  | none => .ok false

/-- `in_range`: the upper bound is not looked at below the lower one. -/
def inRange (minPrice maxPrice : Option Decimal) (price : Decimal) : Except Exn Bool := do
  if ← isBelow price minPrice then return false
  if ← isAbove price maxPrice then return false
  return true

/-- `_apply_price_filter`. -/
def applyPriceFilter {α : Type} (items : List α) (minPrice maxPrice : Option Decimal)
    (priceOf : α → Decimal) : Except Exn (List α) :=
  if minPrice = none ∧ maxPrice = none then .ok items
  else items.filterM fun item => inRange minPrice maxPrice (priceOf item)

/-- `time_from is not None and candidate < time_from`. -/
def isEarlier (candidate : DateTime.Time) : Option TimeOfDay → Except Exn Bool
  | some bound => do
      let clock ← bound.naive.mapError Exn.typeError
      return decide (candidate < clock)
  | none => .ok false

/-- `time_to is not None and candidate > time_to`. -/
def isLater (candidate : DateTime.Time) : Option TimeOfDay → Except Exn Bool
  | some bound => do
      let clock ← bound.naive.mapError Exn.typeError
      return decide (clock < candidate)
  | none => .ok false

/-- `_is_within_time_window`. -/
def isWithinTimeWindow (candidate : DateTime.Time) (timeFrom timeTo : Option TimeOfDay) :
    Except Exn Bool := do
  if ← isEarlier candidate timeFrom then return false
  if ← isLater candidate timeTo then return false
  return true

/-- `_apply_time_window_filter`. -/
def applyTimeWindowFilter (flights : List Flight) (timeFrom timeTo : Option TimeOfDay) :
    Except Exn (List Flight) :=
  if timeFrom = none ∧ timeTo = none then .ok flights
  else flights.filterM fun flight =>
    isWithinTimeWindow flight.departureAt.time timeFrom timeTo

/-- `search`. -/
def search (flights : InMemoryFlightRepository) (request : SearchRequest) :
    Except Exn SearchResult := do
  let found := flights.search request.origin request.destination request.departureDate
    request.airline
  let priced ← applyPriceFilter found request.minPrice request.maxPrice
    fun flight => flight.baseFare.amount
  let shown ← applyTimeWindowFilter priced request.departureTimeFrom request.departureTimeTo
  return { flights := shown, page := request.page, size := request.size, total := shown.length }

/-- `return_flight.departure_at >= outbound.arrival_at + MINIMUM_LAYOVER`. -/
def connects (legs : Flight × Flight) : Except Exn Bool := do
  let earliest ← (legs.1.arrivalAt.plus minimumLayover).mapError Exn.overflowError
  return decide (earliest ≤ legs.2.departureAt)

/-- `<` of the sort keys, tuples of two departures: the first that are not equal decide. -/
def DepartsBefore (a b : FlightPair) : Prop :=
  if a.outbound.departureAt.SameTime b.outbound.departureAt then
    ¬ a.returnFlight.departureAt.SameTime b.returnFlight.departureAt ∧
      a.returnFlight.departureAt < b.returnFlight.departureAt
  else a.outbound.departureAt < b.outbound.departureAt

instance (a b : FlightPair) : Decidable (DepartsBefore a b) :=
  inferInstanceAs (Decidable (if a.outbound.departureAt.SameTime b.outbound.departureAt then
    ¬ a.returnFlight.departureAt.SameTime b.returnFlight.departureAt ∧
      a.returnFlight.departureAt < b.returnFlight.departureAt
    else a.outbound.departureAt < b.outbound.departureAt))

/-- The order of the sort. -/
def DepartsLe (a b : FlightPair) : Prop := ¬ DepartsBefore b a

instance : DecidableRel DepartsLe := fun _ _ => inferInstanceAs (Decidable (¬ _))

/-- The two legs with the sum of their fares. -/
def flightPair (legs : Flight × Flight) : Except Exn FlightPair := do
  let totalIndicativePrice ← legs.1.baseFare.add legs.2.baseFare
  return { outbound := legs.1, returnFlight := legs.2, totalIndicativePrice }

/-- The time window of a round trip applies to the outbound leg only. -/
def filterOutbound (pairs : List FlightPair) (timeFrom timeTo : Option TimeOfDay) :
    Except Exn (List FlightPair) :=
  if timeFrom ≠ none ∨ timeTo ≠ none then
    pairs.filterM fun pair => isWithinTimeWindow pair.outbound.departureAt.time timeFrom timeTo
  else .ok pairs

/-- `search_round_trip`. The sort is stable; where `<` is no order, which arrangement of
the pairs it leaves is its own affair. -/
def searchRoundTrip (flights : InMemoryFlightRepository) (request : SearchRequest) :
    Except Exn RoundTripResult := do
  let some returnDate := request.returnDate
    | throw (.valueError "search_round_trip requires return_date; use search for one-way")
  let outbounds := flights.search request.origin request.destination request.departureDate
    request.airline
  let returns := flights.search request.destination request.origin returnDate request.airline
  let eligible ← comprehension connects flightPair (outbounds ×ˢ returns)
  let priced ← applyPriceFilter eligible request.minPrice request.maxPrice
    fun pair => pair.totalIndicativePrice.amount
  let shown ← filterOutbound priced request.departureTimeFrom request.departureTimeTo
  let sorted := shown.insertionSort DepartsLe
  return { pairs := sorted, page := request.page, size := request.size,
           pairCount := sorted.length }

end SearchService

end FlightBooking
