import FlightBooking.Lib.StableSort
import FlightBooking.Application.SearchService
import FlightBooking.Verification.RoundingRule

/-!
# SearchSpec — what the two searches return

An offer is what a filter looks at: a flight on its own, or the two legs of a round
trip. Both searches are one pass over the catalog, or over all pairs of it, that keeps
the offers on the route which the request admits; a round trip is sorted afterwards,
and raises if a layover or a sum of two fares does not come out.
-/

namespace FlightBooking

open Py Decimal Rounding SearchService

/-! ## Sums of fares -/

/-- An amount of the currency in cents that is a number. -/
structure Money.InCents (m : Money) (currency : String) : Prop where
  currency_eq : m.currency = currency
  isFinite : IsFinite m.amount
  onGrid : OnGrid (-2) m.amount.toRat

theorem Money.InCents.of_money {v : Decimal} {currency : String} {m : Money} (hv : IsNumber v)
    (h : Money.of v currency = .ok m) : m.InCents currency := by
  obtain ⟨hcurrency, hnan | ⟨hfinite, hgrid⟩⟩ := money_of_cents h
  · obtain ⟨amount, ha, h⟩ := bind_eq_ok h
    obtain rfl := Except.ok.inj h
    have hq := Exn.lift_eq_ok ha
    obtain rfl : amount = .nan false := hnan
    cases v with
    | nan s => exact absurd rfl (hv s)
    | infinity s => cases hq
    | finite s c e =>
        obtain ⟨s', c', hd, -⟩ := (denotes_finite s c e).quantize (q := moneyQuant) rfl hq
        cases hd
  · exact ⟨hcurrency, hfinite, hgrid⟩

section Sums

variable {a b m : Money} {currency : String}

/-- What is left of a sum of one currency once the currencies are compared. -/
theorem Money.add_eq (ha : a.InCents currency) (hb : b.InCents currency) :
    a.add b = do
      let sum ← Exn.lift (a.amount.add b.amount)
      let amount ← Exn.lift (sum.quantize moneyQuant)
      return ⟨amount, currency⟩ := by
  unfold Money.add
  rw [if_neg (not_not.mpr (ha.currency_eq.trans hb.currency_eq.symm)), ha.currency_eq]

/-- A sum in cents has at most 26 digits before the point, or it does not come out. -/
theorem Money.add_ok_iff (ha : a.InCents currency) (hb : b.InCents currency) :
    (∃ m, a.add b = .ok m) ↔ |a.amount.toRat + b.amount.toRat| < 10 ^ 26 := by
  have hsum := Denotes.add ha.isFinite hb.isFinite
  have hgrid : ∀ e ≤ (0 : ℤ), OnGrid e ((10 : ℚ) ^ 26) :=
    fun e he => OnGrid.mono ⟨10 ^ 26, by norm_num⟩ he
  have hquantize : ∀ {d : Decimal}, Denotes d (rnd (a.amount.toRat + b.amount.toRat)) →
      ((∃ r, d.quantize moneyQuant = .ok r) ↔
        |roundTo (-2) (rnd (a.amount.toRat + b.amount.toRat))| < 10 ^ 26) := by
    intro d hd
    have hfits := hd.quantize_ok_iff (q := moneyQuant) (e := -2) rfl
    norm_num [prec] at hfits
    exact hfits
  rw [Money.add_eq ha hb]
  constructor
  · rintro ⟨m, h⟩
    obtain ⟨d, hd, h⟩ := bind_eq_ok h
    obtain ⟨amount, hamount, -⟩ := bind_eq_ok h
    rw [Exn.lift_eq_ok hd] at hsum
    have hsize := (hquantize hsum.denotes).mp ⟨amount, Exn.lift_eq_ok hamount⟩
    by_contra hlarge
    have hrnd := le_abs_roundSig (p := prec) (by decide) (hgrid 0 le_rfl) (by norm_num [prec])
      (not_lt.mp hlarge)
    exact absurd hsize (not_lt.mpr (le_abs_roundTo (hgrid (-2) (by norm_num)) hrnd))
  · intro h
    obtain ⟨d, hd, hdenotes⟩ := hsum.of_fits (fits_rnd_of_le (k := 26) (by norm_num) h.le)
    have hexact : |roundTo (-2) (rnd (a.amount.toRat + b.amount.toRat))| < 10 ^ 26 := by
      rw [rnd, roundSig_eq_self (ha.onGrid.add hb.onGrid) (by norm_num [prec]; exact h),
        roundTo_eq_self (ha.onGrid.add hb.onGrid)]
      exact h
    obtain ⟨amount, hamount⟩ := (hquantize hdenotes).mpr hexact
    refine ⟨⟨amount, currency⟩, ?_⟩
    rw [hd]
    simp only [Exn.lift, bind, Except.bind, hamount, pure, Except.pure]

/-- A sum in cents that comes out is exact. -/
theorem Money.add_inCents (ha : a.InCents currency) (hb : b.InCents currency)
    (h : a.add b = .ok m) :
    m.InCents currency ∧ m.amount.toRat = a.amount.toRat + b.amount.toRat := by
  have hgrid := ha.onGrid.add hb.onGrid
  have hsmall := (Money.add_ok_iff ha hb).mp ⟨m, h⟩
  rw [Money.add_eq ha hb] at h
  obtain ⟨d, hd, h⟩ := bind_eq_ok h
  obtain ⟨amount, hamount, h⟩ := bind_eq_ok h
  have hdenotes := lift_add_denotes ha.isFinite hb.isFinite hd
  rw [rnd, roundSig_eq_self hgrid (by norm_num [prec]; exact hsmall)] at hdenotes
  obtain rfl := Except.ok.inj h
  obtain ⟨s, c, rfl, hvalue⟩ :=
    hdenotes.quantize (q := moneyQuant) (e := -2) rfl (Exn.lift_eq_ok hamount)
  rw [roundTo_eq_self hgrid] at hvalue
  exact ⟨⟨rfl, denotes_finite .., finiteValue_onGrid ..⟩, hvalue⟩

end Sums

/-! ## Catalogs -/

/-- A catalog keyed by the flights' own ids, with fares of one currency. -/
structure Catalog (flights : InMemoryFlightRepository) (currency : String) : Prop where
  keyed : ∀ k flight, flights.get? k = some flight → flight.id = k
  fares : ∀ flight ∈ flights.values, flight.baseFare.InCents currency

/-- Adding flights one by one builds such a catalog. -/
theorem Catalog.of_added {added : List Flight} {currency : String}
    (h : ∀ flight ∈ added, flight.baseFare.InCents currency) :
    Catalog (added.foldl InMemoryFlightRepository.add Dict.empty) currency := by
  have hmem : ∀ k flight, (Dict.index Flight.id added).get? k = some flight →
      flight.id = k ∧ flight ∈ added := fun k flight hk => Dict.mem_of_get?_index hk
  refine ⟨fun k flight hk => (hmem k flight hk).1, ?_⟩
  intro flight hflight
  obtain ⟨k, hk⟩ := Dict.mem_values_iff.mp hflight
  exact h flight (hmem k flight hk).2

theorem Catalog.nodup {flights : InMemoryFlightRepository} {currency : String}
    (h : Catalog flights currency) : flights.values.Nodup := by
  refine List.Nodup.of_map Flight.id ?_
  rw [Dict.map_key_values h.keyed]
  exact flights.nodupKeys

/-! ## What a request admits -/

/-- The flight is on the route on the day. -/
def Flight.Flies (flight : Flight) (origin destination date : String) : Prop :=
  flight.origin = origin ∧ flight.destination = destination ∧
    DateTime.isoDate flight.departureAt.date = date

instance (flight : Flight) (origin destination date : String) :
    Decidable (flight.Flies origin destination date) :=
  inferInstanceAs (Decidable (_ ∧ _ ∧ _))

namespace SearchRequest

variable (request : SearchRequest)

def AdmitsAirline (flight : Flight) : Prop := ∀ code ∈ request.airline, flight.airline = code

/-- The price lies between the bounds that are given. -/
def AdmitsPrice (price : ℚ) : Prop :=
  (∀ bound ∈ request.minPrice, bound.extended ≤ price) ∧
    ∀ bound ∈ request.maxPrice, (price : WithBotTop ℚ) ≤ bound.extended

/-- The departure lies in the window, at the wall clock of the flight's own zone. -/
def AdmitsTime (flight : Flight) : Prop :=
  (∀ bound ∈ request.departureTimeFrom, bound.clock ≤ flight.departureAt.time) ∧
    ∀ bound ∈ request.departureTimeTo, flight.departureAt.time ≤ bound.clock

instance (flight : Flight) : Decidable (request.AdmitsAirline flight) :=
  inferInstanceAs (Decidable (∀ _ ∈ _, _))

instance (price : ℚ) : Decidable (request.AdmitsPrice price) :=
  inferInstanceAs (Decidable (_ ∧ _))

instance (flight : Flight) : Decidable (request.AdmitsTime flight) :=
  inferInstanceAs (Decidable (_ ∧ _))

/-- The bounds compare with prices and times: numbers, and naive. -/
structure Comparable : Prop where
  minPrice : ∀ bound ∈ request.minPrice, IsNumber bound
  maxPrice : ∀ bound ∈ request.maxPrice, IsNumber bound
  departureTimeFrom : ∀ bound ∈ request.departureTimeFrom, bound.utcoffset = none
  departureTimeTo : ∀ bound ∈ request.departureTimeTo, bound.utcoffset = none

end SearchRequest

/-! ## The filters of the code -/

section Filters

variable {request : SearchRequest}

/-- A test of a lower and an upper bound, the second not looked at below the first. -/
theorem between_ok {below above : Except Exn Bool} {P Q : Prop} [Decidable P] [Decidable Q]
    (hbelow : below = .ok (decide ¬ P)) (habove : above = .ok (decide ¬ Q)) :
    (do
      if ← below then return false
      if ← above then return false
      return true) = .ok (decide (P ∧ Q)) := by
  rw [bind_ok hbelow, bind_ok habove]
  by_cases hlow : P <;> by_cases hhigh : Q <;> simp [hlow, hhigh, pure, Except.pure]

theorem inRange_ok (hcomp : request.Comparable) {price : Decimal} {x : ℚ}
    (hprice : Denotes price x) :
    inRange request.minPrice request.maxPrice price = .ok (decide (request.AdmitsPrice x)) := by
  have hnumber := hprice.isFinite.isNumber
  have hbelow : isBelow price request.minPrice =
      .ok (decide ¬ ∀ bound ∈ request.minPrice, bound.extended ≤ x) := by
    cases hmin : request.minPrice with
    | none => simp [isBelow]
    | some lo => simp [isBelow, lt_ok hnumber (hcomp.minPrice lo hmin), hprice.extended, Exn.lift]
  have habove : isAbove price request.maxPrice =
      .ok (decide ¬ ∀ bound ∈ request.maxPrice, (x : WithBotTop ℚ) ≤ bound.extended) := by
    cases hmax : request.maxPrice with
    | none => simp [isAbove]
    | some hi => simp [isAbove, lt_ok (hcomp.maxPrice hi hmax) hnumber, hprice.extended, Exn.lift]
  exact between_ok hbelow habove

theorem applyPriceFilter_ok {α : Type} (hcomp : request.Comparable) {items : List α}
    {priceOf : α → Decimal} {x : α → ℚ} (h : ∀ item ∈ items, Denotes (priceOf item) (x item)) :
    applyPriceFilter items request.minPrice request.maxPrice priceOf =
      .ok (items.filter fun item => request.AdmitsPrice (x item)) := by
  unfold applyPriceFilter
  split
  · next hnone =>
      have hall : ∀ item ∈ items, decide (request.AdmitsPrice (x item)) = true := by
        intro item _
        simp [SearchRequest.AdmitsPrice, hnone]
      rw [List.filter_eq_self.mpr hall]
  · exact filterM_ok fun item hitem => inRange_ok hcomp (h item hitem)

theorem TimeOfDay.naive_ok {t : TimeOfDay} (h : t.utcoffset = none) : t.naive = .ok t.clock :=
  if_pos h

theorem isWithinTimeWindow_ok (hcomp : request.Comparable) (flight : Flight) :
    isWithinTimeWindow flight.departureAt.time request.departureTimeFrom
      request.departureTimeTo = .ok (decide (request.AdmitsTime flight)) := by
  have hearlier : isEarlier flight.departureAt.time request.departureTimeFrom =
      .ok (decide ¬ ∀ bound ∈ request.departureTimeFrom,
        bound.clock ≤ flight.departureAt.time) := by
    cases hfrom : request.departureTimeFrom with
    | none => simp [isEarlier]
    | some bound =>
        rw [isEarlier, TimeOfDay.naive_ok (hcomp.departureTimeFrom bound hfrom)]
        simp [Except.mapError, bind, Except.bind, pure, Except.pure, ← DateTime.Time.not_lt]
  have hlater : isLater flight.departureAt.time request.departureTimeTo =
      .ok (decide ¬ ∀ bound ∈ request.departureTimeTo,
        flight.departureAt.time ≤ bound.clock) := by
    cases hto : request.departureTimeTo with
    | none => simp [isLater]
    | some bound =>
        rw [isLater, TimeOfDay.naive_ok (hcomp.departureTimeTo bound hto)]
        simp [Except.mapError, bind, Except.bind, pure, Except.pure, ← DateTime.Time.not_lt]
  exact between_ok hearlier hlater

/-- A window without bounds keeps all. -/
theorem admitsTime_of_none (hfrom : request.departureTimeFrom = none)
    (hto : request.departureTimeTo = none) (flight : Flight) : request.AdmitsTime flight := by
  simp [SearchRequest.AdmitsTime, hfrom, hto]

theorem applyTimeWindowFilter_ok (hcomp : request.Comparable) (flights : List Flight) :
    applyTimeWindowFilter flights request.departureTimeFrom request.departureTimeTo =
      .ok (flights.filter fun flight => request.AdmitsTime flight) := by
  unfold applyTimeWindowFilter
  split
  · next hnone =>
      refine congrArg Except.ok (List.filter_eq_self.mpr ?_).symm
      intro flight _
      exact decide_eq_true (admitsTime_of_none hnone.1 hnone.2 flight)
  · exact filterM_ok fun flight _ => isWithinTimeWindow_ok hcomp flight

/-- The time filter of round trips looks at the outbound leg. -/
theorem filterOutbound_ok (hcomp : request.Comparable) (pairs : List FlightPair) :
    filterOutbound pairs request.departureTimeFrom request.departureTimeTo =
      .ok (pairs.filter fun pair => request.AdmitsTime pair.outbound) := by
  unfold filterOutbound
  split
  · exact filterM_ok fun pair _ => isWithinTimeWindow_ok hcomp pair.outbound
  · next hnone =>
      rw [not_or, not_not, not_not] at hnone
      refine congrArg Except.ok (List.filter_eq_self.mpr ?_).symm
      intro pair _
      exact decide_eq_true (admitsTime_of_none hnone.1 hnone.2 pair.outbound)

theorem repository_search_eq (flights : InMemoryFlightRepository)
    (origin destination date : String) :
    flights.search origin destination date request.airline =
      flights.values.filter fun flight =>
        flight.Flies origin destination date ∧ request.AdmitsAirline flight := by
  unfold InMemoryFlightRepository.search
  refine List.filter_congr fun flight _ => ?_
  rw [Bool.eq_iff_iff, decide_eq_true_iff]
  cases hairline : request.airline with
  | none => simp [Flight.Flies, SearchRequest.AdmitsAirline, hairline, and_assoc]
  | some code =>
      simp [Flight.Flies, SearchRequest.AdmitsAirline, hairline, and_assoc, eq_comm (a := code)]

end Filters

/-! ## One way -/

section Searches

variable {flights : InMemoryFlightRepository} {currency : String} {request : SearchRequest}

/-- The flight is on the route and admitted. -/
def SearchRequest.OneWay (request : SearchRequest) (flight : Flight) : Prop :=
  flight.Flies request.origin request.destination request.departureDate ∧
    request.AdmitsAirline flight ∧ request.AdmitsPrice flight.baseFare.amount.toRat ∧
    request.AdmitsTime flight

instance (flight : Flight) : Decidable (request.OneWay flight) :=
  inferInstanceAs (Decidable (_ ∧ _ ∧ _ ∧ _))

/-- One-way search is one pass over the catalog. -/
theorem search_ok (hcat : Catalog flights currency) (hcomp : request.Comparable) :
    search flights request = .ok (
      let shown := flights.values.filter fun flight => request.OneWay flight
      { flights := shown, page := request.page, size := request.size, total := shown.length }) := by
  have hprices : ∀ flight ∈ flights.search request.origin request.destination
      request.departureDate request.airline,
      Denotes flight.baseFare.amount flight.baseFare.amount.toRat :=
    fun flight hflight => (hcat.fares flight (List.mem_filter.mp hflight).1).isFinite
  have hshown : ((flights.search request.origin request.destination request.departureDate
        request.airline).filter fun flight =>
          request.AdmitsPrice flight.baseFare.amount.toRat).filter
            (fun flight => request.AdmitsTime flight) =
        flights.values.filter fun flight => request.OneWay flight := by
    rw [repository_search_eq, List.filter_filter, List.filter_filter]
    refine List.filter_congr fun flight _ => ?_
    rw [Bool.eq_iff_iff]
    simp only [Bool.and_eq_true, decide_eq_true_iff]
    exact ⟨fun ⟨⟨htime, hprice⟩, hflies, hairline⟩ => ⟨hflies, hairline, hprice, htime⟩,
      fun ⟨hflies, hairline, hprice, htime⟩ => ⟨⟨htime, hprice⟩, hflies, hairline⟩⟩
  unfold search
  dsimp only
  rw [bind_ok (applyPriceFilter_ok hcomp hprices), bind_ok (applyTimeWindowFilter_ok hcomp _),
    ← hshown]
  rfl

/-! ## Round trips -/

/-- The arrival is not in the last two hours that a `datetime` can show. -/
def Flight.LayoverFits (flight : Flight) : Prop :=
  flight.arrivalAt.wall + minimumLayover < DateTime.yearTenThousand

instance (flight : Flight) : Decidable flight.LayoverFits := inferInstanceAs (Decidable (_ < _))

/-- The flight back leaves two hours after the arrival or later. -/
def Connects (legs : Flight × Flight) : Prop :=
  ∃ earliest, legs.1.arrivalAt.plus minimumLayover = .ok earliest ∧
    earliest ≤ legs.2.departureAt

theorem connects_iff {legs : Flight × Flight} : Connects legs ↔ connects legs = .ok true := by
  unfold Connects connects
  cases legs.1.arrivalAt.plus minimumLayover with
  | error message => simp [Except.mapError, bind, Except.bind]
  | ok earliest => simp [Except.mapError, bind, Except.bind, pure, Except.pure]

instance (legs : Flight × Flight) : Decidable (Connects legs) :=
  decidable_of_iff _ connects_iff.symm

theorem layoverFits_iff {flight : Flight} :
    flight.LayoverFits ↔ ∃ earliest, flight.arrivalAt.plus minimumLayover = .ok earliest := by
  rw [ZonedDateTime.plus_ok_iff, Flight.LayoverFits]
  have hstart := flight.arrivalAt.inRange.1
  have hlayover : 0 ≤ minimumLayover := by decide
  exact ⟨fun h => ⟨by omega, h⟩, fun h => h.2⟩

/-- The legs are on their routes and are flown by the airline asked for: the pairs of the
nested loop. -/
def SearchRequest.OnRoutes (request : SearchRequest) (returnDate : String)
    (legs : Flight × Flight) : Prop :=
  (legs.1.Flies request.origin request.destination request.departureDate ∧
      request.AdmitsAirline legs.1) ∧
    (legs.2.Flies request.destination request.origin returnDate ∧
      request.AdmitsAirline legs.2)

/-- They also connect: the pairs of which the sum is taken. -/
def SearchRequest.Candidate (request : SearchRequest) (returnDate : String)
    (legs : Flight × Flight) : Prop :=
  request.OnRoutes returnDate legs ∧ Connects legs

/-- The sum of the two fares. -/
def tripPrice (legs : Flight × Flight) : ℚ :=
  legs.1.baseFare.amount.toRat + legs.2.baseFare.amount.toRat

/-- The pair is a candidate and admitted, by its price and by its outbound departure. -/
def SearchRequest.RoundTrip (request : SearchRequest) (returnDate : String)
    (legs : Flight × Flight) : Prop :=
  request.Candidate returnDate legs ∧ request.AdmitsPrice (tripPrice legs) ∧
    request.AdmitsTime legs.1

instance (returnDate : String) (legs : Flight × Flight) :
    Decidable (request.OnRoutes returnDate legs) :=
  inferInstanceAs (Decidable ((_ ∧ _) ∧ (_ ∧ _)))

instance (returnDate : String) (legs : Flight × Flight) :
    Decidable (request.Candidate returnDate legs) :=
  inferInstanceAs (Decidable (_ ∧ _))

instance (returnDate : String) (legs : Flight × Flight) :
    Decidable (request.RoundTrip returnDate legs) :=
  inferInstanceAs (Decidable (_ ∧ _ ∧ _))

theorem onRoutes_eq (flights : InMemoryFlightRepository) (request : SearchRequest)
    (returnDate : String) :
    flights.search request.origin request.destination request.departureDate request.airline ×ˢ
        flights.search request.destination request.origin returnDate request.airline =
      (flights.values ×ˢ flights.values).filter fun legs => request.OnRoutes returnDate legs := by
  rw [repository_search_eq, repository_search_eq, product_filter]
  refine List.filter_congr fun legs _ => ?_
  rw [Bool.eq_iff_iff]
  simp only [Bool.and_eq_true, decide_eq_true_iff]
  exact Iff.rfl

/-- The pair with its price, where the fares add up. -/
def pairOf (legs : Flight × Flight) : FlightPair where
  outbound := legs.1
  returnFlight := legs.2
  totalIndicativePrice := (legs.1.baseFare.add legs.2.baseFare).toOption.getD legs.1.baseFare

/-- The round trips of the catalog, in its order. -/
def admittedTrips (flights : InMemoryFlightRepository) (request : SearchRequest)
    (returnDate : String) : List FlightPair :=
  ((flights.values ×ˢ flights.values).filter fun legs =>
    request.RoundTrip returnDate legs).map pairOf

/-- The pairs that round-trip search shows, where all layovers and sums come out. -/
def roundTrips (flights : InMemoryFlightRepository) (request : SearchRequest)
    (returnDate : String) : List FlightPair :=
  (admittedTrips flights request returnDate).insertionSort DepartsLe

theorem flightPair_ok (hcat : Catalog flights currency) {legs : Flight × Flight}
    (hlegs : legs ∈ flights.values ×ˢ flights.values) (hfits : |tripPrice legs| < 10 ^ 26) :
    flightPair legs = .ok (pairOf legs) ∧
      (pairOf legs).totalIndicativePrice.InCents currency ∧
      (pairOf legs).totalIndicativePrice.amount.toRat = tripPrice legs := by
  obtain ⟨hout, hback⟩ := List.mem_product.mp hlegs
  have ha := hcat.fares legs.1 hout
  have hb := hcat.fares legs.2 hback
  obtain ⟨m, hm⟩ := (Money.add_ok_iff ha hb).mpr hfits
  have hprice : (pairOf legs).totalIndicativePrice = m := by
    simp [pairOf, hm, Except.toOption]
  have hpair : flightPair legs = .ok (pairOf legs) := by
    rw [flightPair, hm, pairOf, hm]
    rfl
  rw [hprice]
  exact ⟨hpair, Money.add_inCents ha hb hm⟩

/-- The layover of every pair on the routes comes out, and the sum of every pair that
connects has at most 26 digits before the point. -/
def SearchRequest.TripsFit (request : SearchRequest) (flights : InMemoryFlightRepository)
    (returnDate : String) : Prop :=
  ∀ legs ∈ flights.values ×ˢ flights.values, request.OnRoutes returnDate legs →
    legs.1.LayoverFits ∧ (Connects legs → |tripPrice legs| < 10 ^ 26)

/-- The comprehension collects the candidates. -/
theorem comprehension_candidates (hcat : Catalog flights currency) {returnDate : String}
    (hfits : request.TripsFit flights returnDate) :
    comprehension connects flightPair
        (flights.search request.origin request.destination request.departureDate request.airline ×ˢ
          flights.search request.destination request.origin returnDate request.airline) =
      .ok (((flights.values ×ˢ flights.values).filter fun legs =>
        request.Candidate returnDate legs).map pairOf) := by
  rw [onRoutes_eq]
  have hmem : ∀ legs ∈ (flights.values ×ˢ flights.values).filter fun legs =>
      decide (request.OnRoutes returnDate legs), legs ∈ flights.values ×ˢ flights.values ∧
        legs.1.LayoverFits ∧ (Connects legs → |tripPrice legs| < 10 ^ 26) := by
    intro legs hlegs
    obtain ⟨hmem, hroutes⟩ := List.mem_filter.mp hlegs
    exact ⟨hmem, hfits legs hmem (of_decide_eq_true hroutes)⟩
  rw [comprehension_ok (p := fun legs => decide (Connects legs)) (g := pairOf), List.filter_filter]
  · refine congrArg (fun trips => Except.ok (List.map pairOf trips)) ?_
    refine List.filter_congr fun legs _ => ?_
    rw [Bool.eq_iff_iff, Bool.and_eq_true, decide_eq_true_iff, decide_eq_true_iff,
      decide_eq_true_iff, and_comm]
    exact Iff.rfl
  · intro legs hlegs
    obtain ⟨earliest, hearliest⟩ := layoverFits_iff.mp (hmem legs hlegs).2.1
    simp [connects, Connects, hearliest, Except.mapError, bind, Except.bind, pure, Except.pure]
  · intro legs hlegs hconnects
    obtain ⟨hpairs, -, hsum⟩ := hmem legs hlegs
    exact (flightPair_ok hcat hpairs (hsum (of_decide_eq_true hconnects))).1

/-- Pairing the candidates and filtering the pairs by price and by time leaves the
round trips of the request. -/
theorem filter_candidates (hcat : Catalog flights currency) {returnDate : String}
    (hfits : request.TripsFit flights returnDate) :
    ((((flights.values ×ˢ flights.values).filter fun legs =>
        request.Candidate returnDate legs).map pairOf).filter fun pair =>
          request.AdmitsPrice pair.totalIndicativePrice.amount.toRat).filter
            (fun pair => request.AdmitsTime pair.outbound) =
      admittedTrips flights request returnDate := by
  rw [List.filter_filter, List.filter_map, List.filter_filter]
  refine congrArg (List.map pairOf) ?_
  refine List.filter_congr fun legs hlegs => ?_
  have hprice : request.Candidate returnDate legs →
      (pairOf legs).totalIndicativePrice.amount.toRat = tripPrice legs := fun hcand =>
    (flightPair_ok hcat hlegs ((hfits legs hlegs hcand.1).2 hcand.2)).2.2
  rw [Bool.eq_iff_iff]
  simp only [Function.comp_apply, Bool.and_eq_true, decide_eq_true_iff]
  constructor
  · intro ⟨⟨htime, hadmits⟩, hcand⟩
    exact ⟨hcand, hprice hcand ▸ hadmits, htime⟩
  · intro ⟨hcand, hadmits, htime⟩
    exact ⟨⟨htime, (hprice hcand).symm ▸ hadmits⟩, hcand⟩

/-- Round-trip search is one pass over the pairs of the catalog, and a sort. -/
theorem searchRoundTrip_ok (hcat : Catalog flights currency) (hcomp : request.Comparable)
    {returnDate : String} (hdate : request.returnDate = some returnDate)
    (hfits : request.TripsFit flights returnDate) :
    searchRoundTrip flights request = .ok (
      let shown := roundTrips flights request returnDate
      { pairs := shown, page := request.page, size := request.size,
        pairCount := shown.length }) := by
  have hprices : ∀ pair ∈ ((flights.values ×ˢ flights.values).filter fun legs =>
      decide (request.Candidate returnDate legs)).map pairOf,
      Denotes pair.totalIndicativePrice.amount pair.totalIndicativePrice.amount.toRat := by
    intro pair hmem
    obtain ⟨legs, hlegs, rfl⟩ := List.mem_map.mp hmem
    obtain ⟨hpairs, hcand⟩ := List.mem_filter.mp hlegs
    have hcand := of_decide_eq_true hcand
    exact (flightPair_ok hcat hpairs ((hfits legs hpairs hcand.1).2 hcand.2)).2.1.isFinite
  unfold searchRoundTrip
  rw [hdate]
  dsimp only
  rw [bind_ok (comprehension_candidates hcat hfits), bind_ok (applyPriceFilter_ok hcomp hprices),
    bind_ok (filterOutbound_ok hcomp _), filter_candidates hcat hfits]
  rfl

/-- Round-trip search that returns has added up the layovers of all pairs and the fares of
all candidates. -/
theorem tripsFit_of_searchRoundTrip (hcat : Catalog flights currency) {returnDate : String}
    (hdate : request.returnDate = some returnDate) {result : RoundTripResult}
    (h : searchRoundTrip flights request = .ok result) : request.TripsFit flights returnDate := by
  unfold searchRoundTrip at h
  rw [hdate] at h
  obtain ⟨eligible, heligible, -⟩ := bind_eq_ok h
  rw [onRoutes_eq] at heligible
  intro legs hlegs hroutes
  obtain ⟨holds, hcond, hbody⟩ := comprehension_returns heligible legs
    (List.mem_filter.mpr ⟨hlegs, decide_eq_true hroutes⟩)
  refine ⟨?_, fun hconnects => ?_⟩
  · obtain ⟨earliest, hearliest, -⟩ := bind_eq_ok hcond
    exact layoverFits_iff.mpr ⟨earliest, mapError_eq_ok.mp hearliest⟩
  · rw [connects_iff.mp hconnects] at hcond
    obtain ⟨pair, hpair⟩ := hbody (Except.ok.inj hcond).symm
    obtain ⟨total, htotal, -⟩ := bind_eq_ok hpair
    obtain ⟨hout, hback⟩ := List.mem_product.mp hlegs
    exact (Money.add_ok_iff (hcat.fares legs.1 hout) (hcat.fares legs.2 hback)).mp ⟨total, htotal⟩

end Searches

end FlightBooking
