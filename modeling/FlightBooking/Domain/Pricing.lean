import FlightBooking.Domain.Model

/-!
# Pricing

`domain/pricing.py`: the rule tables and the pure functions that read them.
-/

namespace FlightBooking

open Py

inductive DayOfWeek where
  | mon | tue | wed | thu | fri | sat | sun
deriving DecidableEq, Repr

/-- `DayOfWeek(n)`, for the numbers `weekday()` returns. -/
def DayOfWeek.ofWeekday : Nat → DayOfWeek
  | 0 => .mon
  | 1 => .tue
  | 2 => .wed
  | 3 => .thu
  | 4 => .fri
  | 5 => .sat
  | _ => .sun

/-- `dow.name`. -/
def DayOfWeek.name : DayOfWeek → String
  | .mon => "MON"
  | .tue => "TUE"
  | .wed => "WED"
  | .thu => "THU"
  | .fri => "FRI"
  | .sat => "SAT"
  | .sun => "SUN"

namespace Pricing

/-- A multiplier of the tables, written with two decimals. -/
def hundredths (n : Nat) : Decimal := .finite false n (-2)

/-- `DEMAND_TABLE`: exclusive upper bound and multiplier, ascending. -/
def demandTable : List (Decimal × Decimal) :=
  [(Decimal.ofInt 31, hundredths 100),
   (Decimal.ofInt 51, hundredths 115),
   (Decimal.ofInt 71, hundredths 135),
   (Decimal.ofInt 86, hundredths 160),
   (Decimal.ofInt 96, hundredths 200),
   (.infinity false, hundredths 250)]

/-- `TIME_TABLE`: inclusive lower bound in days and multiplier, descending. -/
def timeTable : List (Int × Decimal) :=
  [(60, hundredths 85),
   (21, hundredths 90),
   (7, hundredths 100),
   (3, hundredths 120),
   (1, hundredths 150),
   (0, hundredths 200)]

/-- `DOW_TABLE`. -/
def dowTable : DayOfWeek → Decimal
  | .mon => hundredths 90
  | .tue => hundredths 85
  | .wed => hundredths 85
  | .thu => hundredths 95
  | .fri => hundredths 125
  | .sat => hundredths 115
  | .sun => hundredths 130

/-- `SURCHARGES`. -/
def surcharges : SeatClass → SeatKind → Option Money
  | .economy, .standard => some (Money.whole 0)
  | .economy, .exitRow => some (Money.whole 35)
  | .economy, .frontSection => some (Money.whole 25)
  | .economy, .aisle => some (Money.whole 15)
  | .economy, .window => some (Money.whole 15)
  | .economy, .middle => some (Money.whole (-5))
  | .business, .standard => some (Money.whole 0)
  | .business, .lieFlatSuite => some (Money.whole 200)
  | .business, .windowSuite => some (Money.whole 100)
  | .business, .aisleAccess => some (Money.whole 75)
  | .first, .standard => some (Money.whole 0)
  | .first, .privateSuite => some (Money.whole 500)
  | .first, .frontRow => some (Money.whole 150)
  | _, _ => none

/-- `TAX_RATES`. -/
def taxRates : RouteKind → Decimal
  | .domestic => .finite false 75 (-3)
  | .international => .finite false 12 (-2)

/-- `FEES_TABLE`, empty. -/
def feesTable : Dict String Money := Dict.empty

structure PricingInputs where
  baseFare : Money
  occupancyPct : Decimal
  daysBeforeDeparture : Int
  departureDow : DayOfWeek
  surcharges : List SeatSurchargeLine := []
  taxes : Money := Money.whole 0
  fees : Money := Money.whole 0
deriving DecidableEq, Repr

/-- The first row whose upper bound exceeds the percentage. -/
def demandLookup (occupancyPct : Decimal) : List (Decimal × Decimal) → Except Exn Decimal
  | [] => .error (.assertionError ("no demand bucket for occupancy_pct=" ++ occupancyPct.str))
  | (upperExclusive, multiplier) :: rest => do
      if ← Exn.lift (occupancyPct.lt upperExclusive) then return multiplier
      demandLookup occupancyPct rest

/-- `_demand_multiplier`. -/
def demandMultiplier (occupancyPct : Decimal) : Except Exn Decimal :=
  demandLookup occupancyPct demandTable

/-- The first row whose lower bound is reached. -/
def timeLookup (daysBeforeDeparture : Int) : List (Int × Decimal) → Except Exn Decimal
  | [] => .error (.assertionError
      ("no time bucket for days_before_departure=" ++ toString daysBeforeDeparture))
  | (lowerInclusive, multiplier) :: rest =>
      if lowerInclusive ≤ daysBeforeDeparture then .ok multiplier
      else timeLookup daysBeforeDeparture rest

/-- `_time_multiplier`. -/
def timeMultiplier (daysBeforeDeparture : Int) : Except Exn Decimal :=
  timeLookup daysBeforeDeparture timeTable

/-- `_day_multiplier`. -/
def dayMultiplier (dow : DayOfWeek) : Decimal := dowTable dow

/-- `price`. -/
def price (inputs : PricingInputs) : Except Exn PriceBreakdown := do
  let demand ← demandMultiplier inputs.occupancyPct
  let time ← timeMultiplier inputs.daysBeforeDeparture
  let dow := dayMultiplier inputs.departureDow
  return {
    baseFare := inputs.baseFare
    demandMultiplier := demand
    timeMultiplier := time
    dayMultiplier := dow
    seatSurcharges := inputs.surcharges
    taxes := inputs.taxes
    fees := inputs.fees }

/-- `lookup_seat_surcharge`: a pair that is not in the table costs nothing. -/
def lookupSeatSurcharge (seatClass : SeatClass) (kind : SeatKind) : Money :=
  (surcharges seatClass kind).getD (Money.whole 0)

/-- `compute_taxes`, at full precision. -/
def computeTaxes (taxableBase : Money) (routeKind : RouteKind) : Except Exn Money := do
  let rate := taxRates routeKind
  let amount ← Exn.lift (taxableBase.amount.mul rate)
  return ⟨amount, taxableBase.currency⟩

/-- `lookup_flat_fees`. -/
def lookupFlatFees (flightId : String) : Money :=
  (feesTable.get? flightId).getD (Money.whole 0)

end Pricing

end FlightBooking
