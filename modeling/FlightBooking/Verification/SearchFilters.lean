import Mathlib.Data.Prod.Lex
import FlightBooking.Lib.StableSort
import FlightBooking.Composition.Machine
import FlightBooking.Verification.SearchSpec

/-!
# SearchFilters — exactly the eligible results, and filters that compose

What a search shows is determined by its request: each eligible pair once, by departure
and then in catalog order. Setting a filter narrows the request and changes nothing
else, so a request with several filters shows what every one of them shows.
-/

namespace FlightBooking

open Py Decimal SearchService

/-! ## The order of the pairs -/

/-- The eligible pairs. -/
def SearchRequest.trips (request : SearchRequest) (flights : InMemoryFlightRepository)
    (returnDate : String) : Set (Flight × Flight) :=
  {legs | legs ∈ flights.values ×ˢ flights.values ∧ request.RoundTrip returnDate legs}

/-- On each of the two legs their departures compare as the readings of one clock. -/
def SearchRequest.OneClock (request : SearchRequest) (flights : InMemoryFlightRepository)
    (returnDate : String) : Prop :=
  ZonedDateTime.OneClock ((fun legs => legs.1.departureAt) '' request.trips flights returnDate) ∧
    ZonedDateTime.OneClock ((fun legs => legs.2.departureAt) '' request.trips flights returnDate)

/-- So they do without changes of the offset. -/
theorem SearchRequest.OneClock.of_fixed {request : SearchRequest}
    {flights : InMemoryFlightRepository}
    (h : ∀ flight ∈ flights.values, flight.departureAt.tz.IsFixed) (returnDate : String) :
    request.OneClock flights returnDate := by
  constructor
  · refine .of_fixed ?_
    rintro t ⟨legs, ⟨hlegs, -⟩, rfl⟩
    exact h legs.1 (List.mem_product.mp hlegs).1
  · refine .of_fixed ?_
    rintro t ⟨legs, ⟨hlegs, -⟩, rfl⟩
    exact h legs.2 (List.mem_product.mp hlegs).2

/-- By the two clocks, the sort is one by the two readings. -/
theorem departsLe_iff {first second : ZonedDateTime → ℤ} {a b : FlightPair}
    (hout : (b.outbound.departureAt < a.outbound.departureAt ↔
        first b.outbound.departureAt < first a.outbound.departureAt) ∧
      (b.outbound.departureAt.SameTime a.outbound.departureAt ↔
        first b.outbound.departureAt = first a.outbound.departureAt))
    (hback : (b.returnFlight.departureAt < a.returnFlight.departureAt ↔
        second b.returnFlight.departureAt < second a.returnFlight.departureAt) ∧
      (b.returnFlight.departureAt.SameTime a.returnFlight.departureAt ↔
        second b.returnFlight.departureAt = second a.returnFlight.departureAt)) :
    DepartsLe a b ↔
      toLex (first a.outbound.departureAt, second a.returnFlight.departureAt) ≤
        toLex (first b.outbound.departureAt, second b.returnFlight.departureAt) := by
  simp only [DepartsLe, DepartsBefore, hout.1, hout.2, hback.1, hback.2,
    Prod.Lex.toLex_le_toLex]
  split <;> omega

def FlightPair.legs (pair : FlightPair) : Flight × Flight := (pair.outbound, pair.returnFlight)

@[simp] theorem legs_pairOf (legs : Flight × Flight) : (pairOf legs).legs = legs := rfl

/-- Catalog order of pairs: by the outbound flight, then by the return flight. -/
def CatalogFirst (flights : InMemoryFlightRepository) (a b : Flight × Flight) : Prop :=
  [a.1, b.1].Sublist flights.values ∨ (a.1 = b.1 ∧ [a.2, b.2].Sublist flights.values)

theorem product_catalogFirst (flights : InMemoryFlightRepository) :
    (flights.values ×ˢ flights.values).Pairwise (CatalogFirst flights) := by
  have horder : flights.values.Pairwise fun a b => [a, b].Sublist flights.values :=
    List.pairwise_iff_forall_sublist.mpr fun h => h
  refine List.pairwise_flatMap.mpr ⟨?_, ?_⟩
  · intro outbound _
    exact List.pairwise_map.mpr (horder.imp fun h => .inr ⟨rfl, h⟩)
  · refine horder.imp ?_
    intro a b hab x hx y hy
    obtain ⟨r, -, rfl⟩ := List.mem_map.mp hx
    obtain ⟨r', -, rfl⟩ := List.mem_map.mp hy
    exact .inl hab

section Pairs

variable {flights : InMemoryFlightRepository} {currency : String} {request : SearchRequest}
  {returnDate : String}

/-- The pairs shown are the round trips of the catalog, in some order. -/
theorem roundTrips_perm :
    ((roundTrips flights request returnDate).map FlightPair.legs).Perm
      ((flights.values ×ˢ flights.values).filter fun legs =>
        request.RoundTrip returnDate legs) := by
  have hperm := (List.perm_insertionSort DepartsLe
    (admittedTrips flights request returnDate)).map FlightPair.legs
  have hid : FlightPair.legs ∘ pairOf = id := rfl
  rwa [admittedTrips, List.map_map, hid, List.map_id] at hperm

theorem mem_admittedTrips {pair : FlightPair} :
    pair ∈ admittedTrips flights request returnDate ↔
      ∃ legs ∈ flights.values ×ˢ flights.values, request.RoundTrip returnDate legs ∧
        pairOf legs = pair := by
  simp only [admittedTrips, List.mem_map, List.mem_filter, decide_eq_true_iff, and_assoc]

theorem mem_roundTrips {pair : FlightPair} :
    pair ∈ roundTrips flights request returnDate ↔
      ∃ legs ∈ flights.values ×ˢ flights.values, request.RoundTrip returnDate legs ∧
        pairOf legs = pair := by
  rw [roundTrips, List.mem_insertionSort, mem_admittedTrips]

theorem pairOf_mem_roundTrips {legs : Flight × Flight}
    (hlegs : legs ∈ flights.values ×ˢ flights.values) :
    pairOf legs ∈ roundTrips flights request returnDate ↔ request.RoundTrip returnDate legs := by
  rw [mem_roundTrips]
  constructor
  · intro ⟨other, _, htrip, heq⟩
    obtain rfl : other = legs := congrArg FlightPair.legs heq
    exact htrip
  · exact fun htrip => ⟨legs, hlegs, htrip, rfl⟩

/-- On two clocks, the pairs of the request have sort keys. -/
theorem exists_key (hclock : request.OneClock flights returnDate) :
    ∃ key : FlightPair → ℤ ×ₗ ℤ,
      ∀ a ∈ admittedTrips flights request returnDate,
        ∀ b ∈ admittedTrips flights request returnDate, DepartsLe a b ↔ key a ≤ key b := by
  obtain ⟨⟨first, hfirst⟩, second, hsecond⟩ := hclock
  have hdeparts : ∀ pair ∈ admittedTrips flights request returnDate,
      pair.legs ∈ request.trips flights returnDate := by
    intro pair hpair
    obtain ⟨legs, hmem, htrip, rfl⟩ := mem_admittedTrips.mp hpair
    exact ⟨hmem, htrip⟩
  refine ⟨fun pair =>
    toLex (first pair.outbound.departureAt, second pair.returnFlight.departureAt), ?_⟩
  intro a ha b hb
  exact departsLe_iff
    (hfirst _ ⟨_, hdeparts b hb, rfl⟩ _ ⟨_, hdeparts a ha, rfl⟩)
    (hsecond _ ⟨_, hdeparts b hb, rfl⟩ _ ⟨_, hdeparts a ha, rfl⟩)

/-- They are sorted by departure, ties in catalog order. -/
theorem roundTrips_inOrder (hclock : request.OneClock flights returnDate) :
    (roundTrips flights request returnDate).Pairwise
      (StableSort.InOrder DepartsLe fun a b => CatalogFirst flights a.legs b.legs) := by
  obtain ⟨key, hkey⟩ := exists_key hclock
  refine StableSort.pairwise_insertionSort_of_key hkey (List.pairwise_map.mpr ?_)
  exact (product_catalogFirst flights).filter _

end Pairs

/-! ## Filters -/

/-- One of the optional restrictions of a request. -/
inductive SearchFilter where
  | airline (code : String)
  | minPrice (bound : Decimal)
  | maxPrice (bound : Decimal)
  | departureTimeFrom (bound : TimeOfDay)
  | departureTimeTo (bound : TimeOfDay)

namespace SearchFilter

/-- The field of the request that the filter sets. -/
def field : SearchFilter → String
  | airline _ => "airline"
  | minPrice _ => "min_price"
  | maxPrice _ => "max_price"
  | departureTimeFrom _ => "departure_time_from"
  | departureTimeTo _ => "departure_time_to"

def apply : SearchFilter → SearchRequest → SearchRequest
  | airline code, request => { request with airline := some code }
  | minPrice bound, request => { request with minPrice := some bound }
  | maxPrice bound, request => { request with maxPrice := some bound }
  | departureTimeFrom bound, request => { request with departureTimeFrom := some bound }
  | departureTimeTo bound, request => { request with departureTimeTo := some bound }

/-- A price bound is a number, a time bound naive. -/
def Comparable : SearchFilter → Prop
  | minPrice bound => IsNumber bound
  | maxPrice bound => IsNumber bound
  | departureTimeFrom bound => bound.utcoffset = none
  | departureTimeTo bound => bound.utcoffset = none
  | airline _ => True

/-- The filter keeps an offer of these flights, at this price, with this departure. -/
def Keeps (flights : List Flight) (price : ℚ) (departing : Flight) : SearchFilter → Prop
  | airline code => ∀ flight ∈ flights, flight.airline = code
  | minPrice bound => bound.extended ≤ price
  | maxPrice bound => (price : WithBotTop ℚ) ≤ bound.extended
  | departureTimeFrom bound => bound.clock ≤ departing.departureAt.time
  | departureTimeTo bound => departing.departureAt.time ≤ bound.clock

end SearchFilter

namespace SearchRequest

/-- The request carries the filter. -/
def Sets (request : SearchRequest) : SearchFilter → Prop
  | .airline code => request.airline = some code
  | .minPrice bound => request.minPrice = some bound
  | .maxPrice bound => request.maxPrice = some bound
  | .departureTimeFrom bound => request.departureTimeFrom = some bound
  | .departureTimeTo bound => request.departureTimeTo = some bound

/-- The request with the filters set, one after the other. -/
def withFilters (request : SearchRequest) (filters : List SearchFilter) : SearchRequest :=
  filters.foldl (fun request filter => filter.apply request) request

variable {request : SearchRequest}

theorem withFilters_concat (filters : List SearchFilter) (last : SearchFilter) :
    request.withFilters (filters ++ [last]) = last.apply (request.withFilters filters) := by
  simp [withFilters]

theorem sets_apply {f g : SearchFilter} :
    (g.apply request).Sets f ↔ f = g ∨ (f.field ≠ g.field ∧ request.Sets f) := by
  cases f <;> cases g <;> simp [SearchFilter.apply, Sets, SearchFilter.field, eq_comm]

/-- No filter is set that is not among them. -/
theorem mem_of_sets_withFilters (hbase : ∀ f, ¬ request.Sets f) {filters : List SearchFilter}
    {f : SearchFilter} (h : (request.withFilters filters).Sets f) : f ∈ filters := by
  induction filters using List.reverseRec with
  | nil => exact absurd h (hbase f)
  | append_singleton filters last ih =>
      rw [withFilters_concat, sets_apply] at h
      rcases h with rfl | ⟨-, hrest⟩
      · simp
      · exact List.mem_append_left _ (ih hrest)

/-- Of filters of different fields, all are set. -/
theorem sets_withFilters (hbase : ∀ f, ¬ request.Sets f) {filters : List SearchFilter}
    (hfields : (filters.map SearchFilter.field).Nodup) {f : SearchFilter} :
    (request.withFilters filters).Sets f ↔ f ∈ filters := by
  refine ⟨mem_of_sets_withFilters hbase, ?_⟩
  intro hmem
  induction filters using List.reverseRec with
  | nil => cases hmem
  | append_singleton filters last ih =>
      rw [List.map_append, List.nodup_append] at hfields
      obtain ⟨hrest, -, hlast⟩ := hfields
      rw [withFilters_concat, sets_apply]
      rcases List.mem_append.mp hmem with hmem | hmem
      · exact .inr ⟨hlast _ (List.mem_map_of_mem hmem) _ (by simp), ih hrest hmem⟩
      · exact .inl (List.mem_singleton.mp hmem)

/-- Filters set in any order restrict as much as each group of them on its own. -/
theorem forall_sets_withFilters (hbase : ∀ f, ¬ request.Sets f) {groups : List (List SearchFilter)}
    {order : List SearchFilter} (hperm : order.Perm groups.flatten)
    (hfields : (order.map SearchFilter.field).Nodup) {P : SearchFilter → Prop} :
    (∀ f, (request.withFilters order).Sets f → P f) ↔
      ∀ group ∈ groups, ∀ f, (request.withFilters group).Sets f → P f := by
  have hflat : (groups.flatten.map SearchFilter.field).Nodup :=
    (hperm.map SearchFilter.field).nodup_iff.mp hfields
  have hgroup : ∀ group ∈ groups, (group.map SearchFilter.field).Nodup := by
    intro group hmem
    exact hflat.sublist ((List.sublist_flatten_of_mem hmem).map SearchFilter.field)
  simp only [sets_withFilters hbase hfields, hperm.mem_iff, List.mem_flatten]
  constructor
  · intro h group hmem f hf
    exact h f ⟨group, hmem, (sets_withFilters hbase (hgroup group hmem)).mp hf⟩
  · intro h f ⟨group, hmem, hf⟩
    exact h group hmem f ((sets_withFilters hbase (hgroup group hmem)).mpr hf)

/-- Nothing but the filters changes. -/
theorem withFilters_route (filters : List SearchFilter) :
    (request.withFilters filters).origin = request.origin ∧
      (request.withFilters filters).destination = request.destination ∧
      (request.withFilters filters).departureDate = request.departureDate ∧
      (request.withFilters filters).returnDate = request.returnDate := by
  induction filters using List.reverseRec with
  | nil => exact ⟨rfl, rfl, rfl, rfl⟩
  | append_singleton filters last ih =>
      rw [withFilters_concat]
      cases last <;> exact ih

theorem withFilters_comparable (hbase : ∀ f, ¬ request.Sets f) {filters : List SearchFilter}
    (hcomp : ∀ f ∈ filters, f.Comparable) : (request.withFilters filters).Comparable := by
  have hset : ∀ f, (request.withFilters filters).Sets f → f.Comparable :=
    fun f hf => hcomp f (mem_of_sets_withFilters hbase hf)
  exact ⟨fun bound hb => hset (.minPrice bound) hb, fun bound hb => hset (.maxPrice bound) hb,
    fun bound hb => hset (.departureTimeFrom bound) hb,
    fun bound hb => hset (.departureTimeTo bound) hb⟩

/-- The request admits what its filters keep. -/
theorem admits_iff {flights : List Flight} {price : ℚ} {departing : Flight} :
    (∀ f, request.Sets f → f.Keeps flights price departing) ↔
      (∀ flight ∈ flights, request.AdmitsAirline flight) ∧ request.AdmitsPrice price ∧
        request.AdmitsTime departing := by
  constructor
  · intro h
    exact ⟨fun flight hf code hcode => h (.airline code) hcode flight hf,
      ⟨fun bound hb => h (.minPrice bound) hb, fun bound hb => h (.maxPrice bound) hb⟩,
      ⟨fun bound hb => h (.departureTimeFrom bound) hb,
        fun bound hb => h (.departureTimeTo bound) hb⟩⟩
  · intro ⟨hairline, hprice, htime⟩ f hset
    cases f with
    | airline code => exact fun flight hf => hairline flight hf code hset
    | minPrice bound => exact hprice.1 bound hset
    | maxPrice bound => exact hprice.2 bound hset
    | departureTimeFrom bound => exact htime.1 bound hset
    | departureTimeTo bound => exact htime.2 bound hset

end SearchRequest

/-! ## Composition -/

section Composition

variable {flights : InMemoryFlightRepository} {currency : String} {base : SearchRequest}
  {returnDate : String} {groups : List (List SearchFilter)} {order : List SearchFilter}

/-- What holds of a request apart from its filters, and of what its filters keep, holds
under all filters if it does under none and under each group of them. -/
theorem filters_compose {Q : SearchRequest → Prop} {B : Prop} {P : SearchFilter → Prop}
    (hQ : ∀ filters, Q (base.withFilters filters) ↔
      B ∧ ∀ f, (base.withFilters filters).Sets f → P f)
    (hbase : ∀ f, ¬ base.Sets f) (hperm : order.Perm groups.flatten)
    (hfields : (order.map SearchFilter.field).Nodup) :
    Q (base.withFilters order) ↔
      Q base ∧ ∀ group ∈ groups, Q (base.withFilters group) := by
  have hnone : Q base ↔ B :=
    (hQ []).trans ⟨fun h => h.1, fun h => ⟨h, fun f hf => absurd hf (hbase f)⟩⟩
  rw [hQ, hnone, SearchRequest.forall_sets_withFilters hbase hperm hfields]
  refine and_congr_right fun hB => forall₂_congr fun group _ => ?_
  rw [hQ, and_iff_right hB]

theorem oneWay_iff (filters : List SearchFilter) {flight : Flight} :
    (base.withFilters filters).OneWay flight ↔
      flight.Flies base.origin base.destination base.departureDate ∧
        ∀ f, (base.withFilters filters).Sets f →
          f.Keeps [flight] flight.baseFare.amount.toRat flight := by
  obtain ⟨horigin, hdestination, hdate, -⟩ := base.withFilters_route filters
  rw [SearchRequest.admits_iff, List.forall_mem_singleton, SearchRequest.OneWay, horigin,
    hdestination, hdate]

theorem roundTrip_iff (filters : List SearchFilter) {legs : Flight × Flight} :
    (base.withFilters filters).RoundTrip returnDate legs ↔
      (legs.1.Flies base.origin base.destination base.departureDate ∧
        legs.2.Flies base.destination base.origin returnDate ∧ Connects legs) ∧
        ∀ f, (base.withFilters filters).Sets f →
          f.Keeps [legs.1, legs.2] (tripPrice legs) legs.1 := by
  obtain ⟨horigin, hdestination, hdate, -⟩ := base.withFilters_route filters
  rw [SearchRequest.admits_iff, List.forall_mem_cons, List.forall_mem_singleton,
    SearchRequest.RoundTrip, SearchRequest.Candidate, SearchRequest.OnRoutes, horigin,
    hdestination, hdate]
  constructor
  · intro ⟨⟨⟨⟨hout, houtAirline⟩, hback, hbackAirline⟩, hconnects⟩, hprice, htime⟩
    exact ⟨⟨hout, hback, hconnects⟩, ⟨houtAirline, hbackAirline⟩, hprice, htime⟩
  · intro ⟨⟨hout, hback, hconnects⟩, ⟨houtAirline, hbackAirline⟩, hprice, htime⟩
    exact ⟨⟨⟨⟨hout, houtAirline⟩, hback, hbackAirline⟩, hconnects⟩, hprice, htime⟩

/-- The flights under a combination of filters are those under each group of them. -/
theorem oneWay_compose (hbase : ∀ f, ¬ base.Sets f) (hperm : order.Perm groups.flatten)
    (hfields : (order.map SearchFilter.field).Nodup) :
    (flights.values.filter fun flight => (base.withFilters order).OneWay flight) =
      (flights.values.filter fun flight => base.OneWay flight).filter fun flight =>
        ∀ group ∈ groups, flight ∈
          flights.values.filter fun flight => (base.withFilters group).OneWay flight := by
  rw [List.filter_filter]
  refine List.filter_congr fun flight hflight => ?_
  rw [Bool.eq_iff_iff, Bool.and_eq_true, decide_eq_true_iff, decide_eq_true_iff,
    decide_eq_true_iff, filters_compose (Q := fun request => request.OneWay flight)
      (fun filters => oneWay_iff filters) hbase hperm hfields, and_comm]
  simp only [List.mem_filter, hflight, true_and, decide_eq_true_iff]

/-- So are the pairs, sorted as they are. -/
theorem roundTrips_compose (hclock : base.OneClock flights returnDate)
    (hbase : ∀ f, ¬ base.Sets f) (hperm : order.Perm groups.flatten)
    (hfields : (order.map SearchFilter.field).Nodup) :
    roundTrips flights (base.withFilters order) returnDate =
      (roundTrips flights base returnDate).filter fun pair =>
        ∀ group ∈ groups, pair ∈ roundTrips flights (base.withFilters group) returnDate := by
  obtain ⟨key, hkey⟩ := exists_key hclock
  conv_rhs => rw [roundTrips]
  rw [StableSort.filter_insertionSort_of_key hkey, admittedTrips, List.filter_map,
    List.filter_filter, roundTrips, admittedTrips]
  congr 2
  refine List.filter_congr fun legs hlegs => ?_
  rw [Bool.eq_iff_iff, Bool.and_eq_true, Function.comp_apply, decide_eq_true_iff,
    decide_eq_true_iff, decide_eq_true_iff,
    filters_compose (Q := fun request => request.RoundTrip returnDate legs)
      (fun filters => roundTrip_iff filters) hbase hperm hfields, and_comm]
  simp only [pairOf_mem_roundTrips hlegs]

/-- Filters leave fewer pairs. -/
theorem SearchRequest.TripsFit.withFilters (h : base.TripsFit flights returnDate)
    (hbase : ∀ f, ¬ base.Sets f) (filters : List SearchFilter) :
    (base.withFilters filters).TripsFit flights returnDate := by
  intro legs hlegs hroutes
  obtain ⟨horigin, hdestination, hdate, -⟩ := base.withFilters_route filters
  unfold OnRoutes at hroutes
  rw [horigin, hdestination, hdate] at hroutes
  obtain ⟨⟨hout, -⟩, hback, -⟩ := hroutes
  have hairline : ∀ flight, base.AdmitsAirline flight :=
    fun flight code hcode => absurd hcode (hbase (.airline code))
  exact h legs hlegs ⟨⟨hout, hairline legs.1⟩, hback, hairline legs.2⟩

end Composition

/-! ## Exactly the eligible results -/

/-- The result has each eligible pair of the catalog once, with the sum of its fares, and
their number; on one clock a leg they come by departure, ties in catalog order. -/
structure RoundTripResult.Shows (result : RoundTripResult) (flights : InMemoryFlightRepository)
    (currency : String) (request : SearchRequest) (returnDate : String) : Prop where
  once : (result.pairs.map FlightPair.legs).Nodup
  exactly : ∀ legs, legs ∈ result.pairs.map FlightPair.legs ↔
    legs.1 ∈ flights.values ∧ legs.2 ∈ flights.values ∧ request.RoundTrip returnDate legs
  price : ∀ pair ∈ result.pairs, pair.totalIndicativePrice.currency = currency ∧
    Denotes pair.totalIndicativePrice.amount (tripPrice pair.legs)
  order : request.OneClock flights returnDate → result.pairs.Pairwise
    (StableSort.InOrder DepartsLe fun a b => CatalogFirst flights a.legs b.legs)
  count : result.pairCount = result.pairs.length

theorem searchRoundTrip_shows {flights : InMemoryFlightRepository} {currency : String}
    (hcat : Catalog flights currency) {request : SearchRequest} (hcomp : request.Comparable)
    {returnDate : String} (hdate : request.returnDate = some returnDate)
    {result : RoundTripResult} (h : searchRoundTrip flights request = .ok result) :
    result.Shows flights currency request returnDate := by
  have hfits := tripsFit_of_searchRoundTrip hcat hdate h
  rw [searchRoundTrip_ok hcat hcomp hdate hfits] at h
  obtain rfl := Except.ok.inj h
  have hperm : ((roundTrips flights request returnDate).map FlightPair.legs).Perm _ :=
    roundTrips_perm
  refine ⟨?_, ?_, ?_, roundTrips_inOrder, rfl⟩
  · exact hperm.nodup_iff.mpr ((hcat.nodup.product hcat.nodup).filter _)
  · intro legs
    rw [hperm.mem_iff, List.mem_filter, decide_eq_true_iff, List.mem_product, and_assoc]
  · intro pair hpair
    obtain ⟨legs, hlegs, htrip, rfl⟩ := mem_roundTrips.mp hpair
    obtain ⟨-, hcents, hvalue⟩ :=
      flightPair_ok hcat hlegs ((hfits legs hlegs htrip.1.1).2 htrip.1.2)
    refine ⟨hcents.currency_eq, ?_⟩
    rw [legs_pairOf, ← hvalue]
    exact hcents.isFinite

/-- What is shown under a combination of filters, set in any order, is in the same order
what is shown without filters and under each part of the combination alone. -/
def Composes {α : Type} [DecidableEq α] (shown : List SearchFilter → List α) : Prop :=
  ∀ (groups : List (List SearchFilter)) (order : List SearchFilter), order.Perm groups.flatten →
    (order.map SearchFilter.field).Nodup →
      shown order = (shown []).filter fun item => ∀ group ∈ groups, item ∈ shown group

/-- **Search returns exactly the eligible results, and its filters compose.** For a
catalog built by `add`, with fares of one currency that are numbers, and a request with a
return date whose bounds compare: round-trip search returns exactly if, of the pairs on
the two routes, every layover and, if they connect, the sum of the fares comes out; and
what it returns are the eligible pairs, each once, and their number, on one clock a leg by
departure with ties in catalog order. Of both searches the filters compose, of a round
trip if all of that comes out and the legs have one clock each. -/
theorem search_returns_the_eligible {added : List Flight} {currency : String}
    (hfares : ∀ flight ∈ added, ∃ v, IsNumber v ∧ Money.of v currency = .ok flight.baseFare) :
    let flights := added.foldl InMemoryFlightRepository.add Dict.empty
    (∀ request returnDate, request.returnDate = some returnDate → request.Comparable →
      ((∃ result, searchRoundTrip flights request = .ok result) ↔
        request.TripsFit flights returnDate) ∧
      ∀ result, searchRoundTrip flights request = .ok result →
        result.Shows flights currency request returnDate) ∧
    ∀ base : SearchRequest, (∀ f, ¬ base.Sets f) →
      (∃ shown : List SearchFilter → List Flight, Composes shown ∧
        ∀ filters : List SearchFilter, (∀ f ∈ filters, f.Comparable) → ∃ result,
          search flights (base.withFilters filters) = .ok result ∧
            result.flights = shown filters) ∧
      ∀ returnDate, base.returnDate = some returnDate → base.TripsFit flights returnDate →
        base.OneClock flights returnDate →
        ∃ shown : List SearchFilter → List FlightPair, Composes shown ∧
          ∀ filters : List SearchFilter, (∀ f ∈ filters, f.Comparable) → ∃ result,
            searchRoundTrip flights (base.withFilters filters) = .ok result ∧
              result.pairs = shown filters := by
  intro flights
  have hcat : Catalog flights currency := by
    refine Catalog.of_added fun flight hflight => ?_
    obtain ⟨v, hv, hmoney⟩ := hfares flight hflight
    exact .of_money hv hmoney
  refine ⟨?_, ?_⟩
  · intro request returnDate hdate hcomp
    refine ⟨⟨?_, ?_⟩, ?_⟩
    · intro ⟨result, h⟩
      exact tripsFit_of_searchRoundTrip hcat hdate h
    · intro hfits
      exact ⟨_, searchRoundTrip_ok hcat hcomp hdate hfits⟩
    · intro result h
      exact searchRoundTrip_shows hcat hcomp hdate h
  · intro base hbase
    refine ⟨⟨fun filters => flights.values.filter fun flight =>
      (base.withFilters filters).OneWay flight, ?_, ?_⟩, ?_⟩
    · intro groups order hperm hfields
      exact oneWay_compose hbase hperm hfields
    · intro filters hcomp
      exact ⟨_, search_ok hcat (SearchRequest.withFilters_comparable hbase hcomp), rfl⟩
    · intro returnDate hdate hfits hclock
      refine ⟨fun filters => roundTrips flights (base.withFilters filters) returnDate, ?_, ?_⟩
      · intro groups order hperm hfields
        exact roundTrips_compose hclock hbase hperm hfields
      · intro filters hcomp
        obtain ⟨-, -, -, hreturn⟩ := base.withFilters_route filters
        exact ⟨_, searchRoundTrip_ok hcat (SearchRequest.withFilters_comparable hbase hcomp)
          (hreturn.trans hdate) (hfits.withFilters hbase filters), rfl⟩

/-- A flight back of the test airline. -/
def flightBack (id : String) (departureAt : ZonedDateTime) : Flight :=
  { seededFlight id [] with
    origin := "NYC"
    destination := "LAX"
    departureAt
    arrivalAt := departureAt }

/-- The test flight and one back a week later, for a fare each. -/
def thereAndBack (fare : Decimal) : List Flight :=
  [{ seededFlight "FL-LAX-NYC-0800" [] with baseFare := ⟨fare, "USD"⟩ },
    { flightBack "FL-NYC-LAX-0800" (.ofDateTime ⟨1780905600000000, 0⟩ (by decide)) with
      baseFare := ⟨fare, "USD"⟩ }]

/-- The search for the two. -/
def weekTrip : SearchRequest where
  origin := "LAX"
  destination := "NYC"
  departureDate := "2026-06-01"
  returnDate := some "2026-06-08"

/-- The catalog of the two flights. -/
def weekCatalog (fare : Decimal) : InMemoryFlightRepository :=
  (thereAndBack fare).foldl InMemoryFlightRepository.add Dict.empty

/-- Of two flights for $299.00 each, the pair is found up to $600 together. -/
theorem search_returns_the_eligible_week :
    let request := { weekTrip with maxPrice := some (.finite false 600 0) }
    ∃ result, searchRoundTrip (weekCatalog (.finite false 29900 (-2))) request = .ok result ∧
      result.Shows (weekCatalog (.finite false 29900 (-2))) "USD" request "2026-06-08" ∧
      request.OneClock (weekCatalog (.finite false 29900 (-2))) "2026-06-08" ∧
      ∃ pair ∈ result.pairs, pair.outbound.id = ⟨"FL-LAX-NYC-0800"⟩ := by
  intro request
  have hfare : (Decimal.finite false 29900 (-2)).toRat = 299 := by
    norm_num [toRat, finiteValue]
  have hfares : ∀ flight ∈ thereAndBack (.finite false 29900 (-2)), ∃ v, IsNumber v ∧
      Money.of v "USD" = .ok flight.baseFare := by
    intro flight hflight
    refine ⟨.finite false 29900 (-2), (denotes_finite ..).isFinite.isNumber, ?_⟩
    revert flight
    decide
  have hcomp : request.Comparable := by
    constructor
    case maxPrice =>
      rintro bound ⟨⟩
      exact (denotes_finite false 600 0).isFinite.isNumber
    all_goals rintro bound ⟨⟩
  have hprice : ∀ legs ∈ (weekCatalog (.finite false 29900 (-2))).values ×ˢ
      (weekCatalog (.finite false 29900 (-2))).values, tripPrice legs = 598 := by
    have hamount : ∀ flight ∈ (weekCatalog (.finite false 29900 (-2))).values,
        flight.baseFare.amount = .finite false 29900 (-2) := by decide
    intro legs hlegs
    obtain ⟨hout, hback⟩ := List.mem_product.mp hlegs
    rw [tripPrice, hamount legs.1 hout, hamount legs.2 hback, hfare]
    norm_num
  obtain ⟨hreturns, hshows⟩ :=
    (search_returns_the_eligible hfares).1 request "2026-06-08" rfl hcomp
  have hfits : request.TripsFit (weekCatalog (.finite false 29900 (-2))) "2026-06-08" := by
    have hlayover : ∀ flight ∈ (weekCatalog (.finite false 29900 (-2))).values,
        flight.LayoverFits := by decide
    intro legs hlegs _
    rw [hprice legs hlegs]
    exact ⟨hlayover legs.1 (List.mem_product.mp hlegs).1, fun _ => by norm_num⟩
  obtain ⟨result, hresult⟩ := hreturns.mpr hfits
  refine ⟨result, hresult, hshows result hresult, .of_fixed (by decide) _, ?_⟩
  obtain ⟨o, ho, r, hr, hcand⟩ : ∃ o ∈ (weekCatalog (.finite false 29900 (-2))).values,
      ∃ r ∈ (weekCatalog (.finite false 29900 (-2))).values,
        request.Candidate "2026-06-08" (o, r) ∧ request.AdmitsTime o ∧
          o.id = ⟨"FL-LAX-NYC-0800"⟩ := by decide
  have hadmits : request.AdmitsPrice (tripPrice (o, r)) := by
    rw [hprice (o, r) (List.mem_product.mpr ⟨ho, hr⟩)]
    constructor
    · rintro bound ⟨⟩
    · rintro bound ⟨⟩
      rw [(denotes_finite false 600 0).extended, WithBotTop.coe_le_coe]
      norm_num [finiteValue]
  obtain ⟨pair, hpair, hlegs⟩ := List.mem_map.mp
    (((hshows result hresult).exactly (o, r)).mpr ⟨ho, hr, hcand.1, hadmits, hcand.2.1⟩)
  refine ⟨pair, hpair, ?_⟩
  rw [show pair.outbound = o from congrArg Prod.fst hlegs]
  exact hcand.2.2

/-- New York in the autumn of 2026: on 1 November the hour from one to two comes twice. -/
def newYork : TzInfo where
  key := "America/New_York"
  standard := DateTime.minutes (-240)
  changes := [(1793498400000000, DateTime.minutes (-300))]
  foldedChanges := [(1793494800000000, DateTime.minutes (-300))]

/-- The first half past one, six o'clock UTC, and the second quarter past one. -/
def halfPastOne : ZonedDateTime :=
  { wall := 1793496600000000, tz := newYork, inRange := by decide }

def sixUtc : ZonedDateTime := .ofDateTime ⟨1793512800000000, 0⟩ (by decide)

def quarterPastOne : ZonedDateTime :=
  { wall := 1793495700000000, tz := newYork, fold := true, inRange := by decide }

/-- The two in New York are on one clock. -/
example : ZonedDateTime.OneClock {halfPastOne, quarterPastOne} := by
  refine .of_shared newYork ?_
  rintro d (rfl | rfl) <;> rfl

/-- A flight at each of the three, and one back a week later. -/
def autumnCatalog : InMemoryFlightRepository :=
  [{ seededFlight "FL-1" [] with departureAt := halfPastOne },
    { seededFlight "FL-2" [] with departureAt := sixUtc },
    { seededFlight "FL-3" [] with departureAt := quarterPastOne },
    flightBack "FL-BACK" (.ofDateTime ⟨1794117600000000, 0⟩ (by decide))].foldl
    InMemoryFlightRepository.add Dict.empty

/-- The search for them. -/
def autumnTrip : SearchRequest where
  origin := "LAX"
  destination := "NYC"
  departureDate := "2026-11-01"
  returnDate := some "2026-11-08"

/-- No arrangement of the three trips is in order. -/
theorem autumn_trips_have_no_order {pairs : List FlightPair}
    (h : ∀ legs ∈ autumnCatalog.values ×ˢ autumnCatalog.values,
      autumnTrip.RoundTrip "2026-11-08" legs → legs ∈ pairs.map FlightPair.legs) :
    ¬ pairs.Pairwise DepartsLe := by
  have htrip : ∀ t ∈ [halfPastOne, sixUtc, quarterPastOne],
      ∃ pair ∈ pairs, pair.outbound.departureAt = t := by
    have hlegs : ∀ t ∈ [halfPastOne, sixUtc, quarterPastOne],
        ∃ legs ∈ autumnCatalog.values ×ˢ autumnCatalog.values,
          autumnTrip.RoundTrip "2026-11-08" legs ∧ legs.1.departureAt = t := by decide
    intro t ht
    obtain ⟨legs, hmem, hround, rfl⟩ := hlegs t ht
    obtain ⟨pair, hpair, rfl⟩ := List.mem_map.mp (h legs hmem hround)
    exact ⟨pair, hpair, rfl⟩
  have hbefore : ∀ {a b : FlightPair}, ¬ a.outbound.departureAt.SameTime b.outbound.departureAt →
      a.outbound.departureAt < b.outbound.departureAt → a ≠ b ∧ ¬ DepartsLe b a := by
    intro a b hdiffer hlt
    refine ⟨?_, not_not.mpr ?_⟩
    · rintro rfl
      exact hdiffer (ZonedDateTime.sameTime_self _)
    · rwa [DepartsBefore, if_neg hdiffer]
  obtain ⟨a, ha, hfirst⟩ := htrip halfPastOne (by simp)
  obtain ⟨b, hb, hsecond⟩ := htrip sixUtc (by simp)
  obtain ⟨c, hc, hthird⟩ := htrip quarterPastOne (by simp)
  refine StableSort.not_pairwise_of_circle ha hb hc (hbefore ?_ ?_) (hbefore ?_ ?_)
    (hbefore ?_ ?_)
  all_goals
    simp only [hfirst, hsecond, hthird]
    decide

/-- A flight that arrives at eleven on the last evening of year 9999, and one back half an
hour later. -/
def lateCatalog : InMemoryFlightRepository :=
  [{ seededFlight "FL-LATE" [] with
      departureAt := .ofDateTime ⟨253402286400000000, 0⟩ (by decide)
      arrivalAt := .ofDateTime ⟨253402297200000000, 0⟩ (by decide) },
    flightBack "FL-BACK" (.ofDateTime ⟨253402299000000000, 0⟩ (by decide))].foldl
    InMemoryFlightRepository.add Dict.empty

/-- Two fares of 26 digits before the point cannot be added, though the pair is eligible;
an arrival in the last two hours of the calendar has no layover; three departures around
a change of the offset have no order; a fare or a bound that is no number cannot be
compared; and without a return date there is no round trip. -/
theorem search_raises_or_has_no_order :
    ((∀ flight ∈ thereAndBack (.finite false 9999999999999999999999999999 (-2)),
        Money.of (.finite false 9999999999999999999999999999 (-2)) = .ok flight.baseFare) ∧
      (∃ o ∈ (weekCatalog (.finite false 9999999999999999999999999999 (-2))).values,
        ∃ r ∈ (weekCatalog (.finite false 9999999999999999999999999999 (-2))).values,
          weekTrip.RoundTrip "2026-06-08" (o, r)) ∧
      searchRoundTrip (weekCatalog (.finite false 9999999999999999999999999999 (-2))) weekTrip =
        .error (.decimal .invalidOperation)) ∧
    searchRoundTrip lateCatalog
        { weekTrip with departureDate := "9999-12-31", returnDate := some "9999-12-31" } =
      .error (.overflowError "date value out of range") ∧
    ((∃ result, searchRoundTrip autumnCatalog autumnTrip = .ok result) ∧
      ∀ pairs : List FlightPair, (∀ legs ∈ autumnCatalog.values ×ˢ autumnCatalog.values,
        autumnTrip.RoundTrip "2026-11-08" legs → legs ∈ pairs.map FlightPair.legs) →
        ¬ pairs.Pairwise DepartsLe) ∧
    searchRoundTrip (weekCatalog (.finite false 29900 (-2)))
        { weekTrip with minPrice := some (.nan false) } = .error (.decimal .invalidOperation) ∧
    Money.of (.nan false) = .ok ⟨.nan false, "USD"⟩ ∧
    searchRoundTrip (weekCatalog (.nan false))
        { weekTrip with minPrice := some (.finite false 1 0) } =
      .error (.decimal .invalidOperation) ∧
    searchRoundTrip (weekCatalog (.finite false 29900 (-2))) { weekTrip with returnDate := none } =
      .error (.valueError "search_round_trip requires return_date; use search for one-way") := by
  refine ⟨⟨?_, ?_, ?_⟩, ?_, ⟨?_, ?_⟩, ?_, ?_, ?_, ?_⟩
  · decide
  · decide
  · decide
  · decide
  · exact ⟨_, rfl⟩
  · exact fun pairs h => autumn_trips_have_no_order h
  · decide
  · decide
  · decide
  · decide

end FlightBooking
