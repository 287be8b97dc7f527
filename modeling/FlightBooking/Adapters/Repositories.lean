import FlightBooking.Domain.Model

/-!
# In-memory repositories

`adapters/inmemory/`: flights, bookings and quotes, each a dictionary keyed by
the record's own id.
-/

namespace FlightBooking

open Py

abbrev InMemoryFlightRepository := Dict FlightId Flight

namespace InMemoryFlightRepository

def get (flights : InMemoryFlightRepository) (flightId : FlightId) : Option Flight :=
  flights.get? flightId

/-- A linear scan in the order in which the flights were added. -/
def search (flights : InMemoryFlightRepository) (origin destination departureDate : String)
    (airline : Option String) : List Flight :=
  flights.values.filter fun flight =>
    decide (flight.origin = origin) && decide (flight.destination = destination) &&
      decide (DateTime.isoDate flight.departureAt.date = departureDate) &&
      (airline = none || airline = some flight.airline)

def add (flights : InMemoryFlightRepository) (flight : Flight) : InMemoryFlightRepository :=
  flights.set flight.id flight

end InMemoryFlightRepository

abbrev InMemoryBookingRepository := Dict BookingReference Booking

namespace InMemoryBookingRepository

def get (bookings : InMemoryBookingRepository) (reference : BookingReference) : Option Booking :=
  bookings.get? reference

/-- A booking with a known reference replaces the one that is there. -/
def save (bookings : InMemoryBookingRepository) (booking : Booking) : InMemoryBookingRepository :=
  bookings.set booking.reference booking

def iterAll (bookings : InMemoryBookingRepository) : List Booking := bookings.values

end InMemoryBookingRepository

abbrev InMemoryQuoteStore := Dict QuoteId Quote

namespace InMemoryQuoteStore

def save (quotes : InMemoryQuoteStore) (quote : Quote) : InMemoryQuoteStore :=
  quotes.set quote.id quote

/-- The quote, if the clock has not reached its `expires_at`. -/
def getValid (quotes : InMemoryQuoteStore) (quoteId : QuoteId) (now : DateTime) : Option Quote :=
  match quotes.get? quoteId with
  | none => none
  | some quote => if quote.expiresAt ≤ now then none else some quote

/-- The quote, expired or not. -/
def get (quotes : InMemoryQuoteStore) (quoteId : QuoteId) : Option Quote := quotes.get? quoteId

end InMemoryQuoteStore

end FlightBooking
