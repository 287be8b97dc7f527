import FlightBooking.Lib.Paging
import FlightBooking.Application.SearchService
import FlightBooking.Composition.Container

/-!
# HttpApp

`_serialize_quote` of `adapters/http/app.py`, and the response schema it fills:
every amount and every multiplier is a string. `search_flights` with its query
parameters, their validation, and the page that it cuts out of the result.
-/

namespace FlightBooking

open Py

structure SeatSurchargeResponse where
  seat : String
  amount : String
deriving DecidableEq, Repr

structure QuoteResponse where
  quoteId : String
  sessionId : String
  flightId : String
  seatIds : List String
  passengers : Int
  baseFare : String
  demandMultiplier : String
  timeMultiplier : String
  dayMultiplier : String
  seatSurcharges : List SeatSurchargeResponse
  taxes : String
  fees : String
  total : String
  currency : String
  createdAt : String
  expiresAt : String
deriving DecidableEq, Repr

/-- `_serialize_quote`. Taxes and fees are shown at two decimals, the total is
computed from the exact ones. -/
def serializeQuote (quote : Quote) : Except Exn QuoteResponse := do
  let breakdown := quote.priceBreakdown
  let taxes ← Money.of breakdown.taxes.amount breakdown.taxes.currency
  let fees ← Money.of breakdown.fees.amount breakdown.fees.currency
  let total ← breakdown.total
  return {
    quoteId := quote.id.value
    sessionId := quote.sessionId.value
    flightId := quote.flightId.value
    seatIds := quote.seatIds.map SeatId.value
    passengers := quote.passengers
    baseFare := breakdown.baseFare.amount.str
    demandMultiplier := breakdown.demandMultiplier.str
    timeMultiplier := breakdown.timeMultiplier.str
    dayMultiplier := breakdown.dayMultiplier.str
    seatSurcharges := breakdown.seatSurcharges.map fun line =>
      { seat := line.seat.value, amount := line.amount.amount.str }
    taxes := taxes.amount.str
    fees := fees.amount.str
    total := total.amount.str
    currency := total.currency
    createdAt := quote.createdAt.isoformat
    expiresAt := quote.expiresAt.isoformat }

/-! ## Query parameters -/

/-- `MAX_PAGE_SIZE`. -/
def maxPageSize : Int := 20

/-- `MIN_PASSENGERS`. -/
def minPassengers : Int := 1

/-- `MAX_PASSENGERS`. -/
def maxPassengers : Int := 9

/-- The parameters of `search_query_params`, each read as a value of its type; dates
are day counts. -/
structure SearchQuery where
  origin : String
  destination : String
  departureDate : Int
  returnDate : Option Int := none
  passengers : Int := 1
  page : Int := 1
  size : Int := maxPageSize
  airline : Option String := none
  minPrice : Option Decimal := none
  maxPrice : Option Decimal := none
  departureTimeFrom : Option TimeOfDay := none
  departureTimeTo : Option TimeOfDay := none
deriving DecidableEq, Repr

/-- `IATA_PATTERN`: three capital letters. -/
def isIata (code : String) : Bool :=
  decide (code.toList.length = 3) && code.toList.all Char.isUpper

/-- `^[A-Z0-9]{2,3}$`. -/
def isAirline (code : String) : Bool :=
  decide (2 ≤ code.toList.length ∧ code.toList.length ≤ 3) &&
    code.toList.all fun ch => ch.isUpper || ch.isDigit

/-- `ge=0`, of a decimal parameter: it has to be finite. -/
def isPriceBound : Decimal → Bool
  | .finite sign coeff _ => !sign || decide (coeff = 0)
  | _ => false

/-- The parameters that break their constraint, by their names on the wire. -/
def SearchQuery.invalid (query : SearchQuery) : List String :=
  ([("origin", isIata query.origin),
    ("destination", isIata query.destination),
    ("passengers", decide (minPassengers ≤ query.passengers ∧ query.passengers ≤ maxPassengers)),
    ("page", decide (1 ≤ query.page)),
    ("size", decide (1 ≤ query.size)),
    ("airline", query.airline.all isAirline),
    ("minPrice", query.minPrice.all isPriceBound),
    ("maxPrice", query.maxPrice.all isPriceBound)].filter fun check => !check.2).map Prod.fst

theorem SearchQuery.of_valid {query : SearchQuery} (h : query.invalid = []) :
    1 ≤ query.page ∧ 1 ≤ query.size := by
  simp only [invalid, List.map_eq_nil_iff, List.filter_eq_nil_iff, List.forall_mem_cons] at h
  obtain ⟨-, -, -, hpage, hsize, -⟩ := h
  exact ⟨by simpa using hpage, by simpa using hsize⟩

/-- `SearchQueryParams`, with the constraints that paging rests on. -/
structure SearchQueryParams where
  origin : String
  destination : String
  departureDate : Int
  returnDate : Option Int
  passengers : Int
  page : Int
  size : Int
  airline : Option String
  minPrice : Option Decimal
  maxPrice : Option Decimal
  departureTimeFrom : Option TimeOfDay
  departureTimeTo : Option TimeOfDay
  page_pos : 1 ≤ page
  size_pos : 1 ≤ size
  size_le : size ≤ maxPageSize

/-- `_clamp_size_to_maximum`. -/
def clampSizeToMaximum (value : Int) : Int := min value maxPageSize

/-- `search_query_params`: the validated parameters, or the fields of a 400. -/
def searchQueryParams (query : SearchQuery) : Except (List String) SearchQueryParams :=
  if h : query.invalid = [] then
    .ok {
      origin := query.origin
      destination := query.destination
      departureDate := query.departureDate
      returnDate := query.returnDate
      passengers := query.passengers
      page := query.page
      size := clampSizeToMaximum query.size
      airline := query.airline
      minPrice := query.minPrice
      maxPrice := query.maxPrice
      departureTimeFrom := query.departureTimeFrom
      departureTimeTo := query.departureTimeTo
      page_pos := (SearchQuery.of_valid h).1
      size_pos := le_min (SearchQuery.of_valid h).2 (by decide)
      size_le := min_le_right _ _ }
  else .error query.invalid

/-! ## Search -/

structure MoneyResponse where
  amount : String
  currency : String
deriving DecidableEq, Repr

structure FlightResponse where
  id : String
  flightId : String
  origin : String
  destination : String
  departureAt : String
  arrivalAt : String
  airline : String
  baseFare : MoneyResponse
deriving DecidableEq, Repr

structure RoundTripPairResponse where
  outbound : FlightResponse
  returnFlight : FlightResponse
  totalIndicativePrice : String
deriving DecidableEq, Repr

structure OneWayResponse where
  flights : List FlightResponse
  page : Int
  size : Int
  total : Nat
deriving DecidableEq, Repr

structure RoundTripResponse where
  pairs : List RoundTripPairResponse
  page : Int
  size : Int
  pairCount : Nat
  flightCount : Nat
deriving DecidableEq, Repr

/-- The body of a search; a return date decides which. -/
inductive SearchResponse where
  | oneWay (body : OneWayResponse)
  | roundTrip (body : RoundTripResponse)
deriving DecidableEq, Repr

/-- `_serialize_flight`. -/
def serializeFlight (flight : Flight) : FlightResponse where
  id := flight.id.value
  flightId := flight.id.value
  origin := flight.origin
  destination := flight.destination
  departureAt := flight.departureAt.isoformat
  arrivalAt := flight.arrivalAt.isoformat
  airline := flight.airline
  baseFare := { amount := flight.baseFare.amount.str, currency := flight.baseFare.currency }

def serializePair (pair : FlightPair) : RoundTripPairResponse where
  outbound := serializeFlight pair.outbound
  returnFlight := serializeFlight pair.returnFlight
  totalIndicativePrice := pair.totalIndicativePrice.amount.str

/-- The `SearchRequest` of the parameters; without a return date it has none. -/
def SearchQueryParams.request (params : SearchQueryParams) : SearchRequest where
  origin := params.origin
  destination := params.destination
  departureDate := DateTime.isoDate params.departureDate
  returnDate := params.returnDate.map DateTime.isoDate
  passengers := params.passengers
  page := params.page
  size := params.size
  airline := params.airline
  minPrice := params.minPrice
  maxPrice := params.maxPrice
  departureTimeFrom := params.departureTimeFrom
  departureTimeTo := params.departureTimeTo

namespace HttpApp

/-- `_search_round_trip`. -/
def searchRoundTrip (c : Container) (params : SearchQueryParams) :
    Except Exn RoundTripResponse := do
  let result ← SearchService.searchRoundTrip c.flightRepo params.request
  let start := (result.page - 1) * result.size
  let stop := start + result.size
  let pagePairs := slice result.pairs start stop
  return {
    pairs := pagePairs.map serializePair
    page := result.page
    size := result.size
    pairCount := result.pairCount
    flightCount := result.flightCount }

/-- `search_flights`. -/
def searchFlights (c : Container) (params : SearchQueryParams) : Except Exn SearchResponse := do
  if params.returnDate ≠ none then
    let body ← searchRoundTrip c params
    return .roundTrip body
  let result ← SearchService.search c.flightRepo params.request
  let start := (result.page - 1) * result.size
  let stop := start + result.size
  let pageFlights := slice result.flights start stop
  return .oneWay {
    flights := pageFlights.map serializeFlight
    page := result.page
    size := result.size
    total := result.total }

end HttpApp

end FlightBooking
