import FlightBooking.Lib.Calendar
import FlightBooking.Adapters.HttpRoutes
import FlightBooking.Verification.Pagination
import FlightBooking.Verification.SearchFilters

/-!
# SearchEndpoint — the pages of a search show the flights of the day

`GET /flights/search` takes a date, the repository compares texts. In the years that the
text has a place for nothing is lost on the way: the pages of a search put together show
the flights whose departure lies, by its own wall clock, between the two midnights of the
day asked for, and that the filters admit.
-/

namespace FlightBooking

open Py SearchService

/-! ## Days -/

/-- The departure lies between the midnights of the day, by its own wall clock. -/
def Flight.DepartsOn (flight : Flight) (day : Int) : Prop :=
  day * DateTime.microsPerDay ≤ flight.departureAt.wall ∧
    flight.departureAt.wall < (day + 1) * DateTime.microsPerDay

instance (flight : Flight) (day : Int) : Decidable (flight.DepartsOn day) :=
  inferInstanceAs (Decidable (_ ∧ _))

theorem Flight.departsOn_iff (flight : Flight) (day : Int) :
    flight.DepartsOn day ↔ flight.departureAt.date = day := by
  have hpos : 0 < DateTime.microsPerDay := by decide
  rw [Flight.DepartsOn, ZonedDateTime.date, DateTime.date, ZonedDateTime.localMicros_shown,
    Int.ediv_eq_iff_of_pos hpos, Int.add_mul, Int.one_mul]

/-- The flight is on the route on the day. -/
def Flight.FliesOn (flight : Flight) (origin destination : String) (day : Int) : Prop :=
  flight.origin = origin ∧ flight.destination = destination ∧ flight.DepartsOn day

instance (flight : Flight) (origin destination : String) (day : Int) :
    Decidable (flight.FliesOn origin destination day) :=
  inferInstanceAs (Decidable (_ ∧ _ ∧ _))

/-- The texts of the dates compare as the days do. -/
theorem Flight.flies_iff {flight : Flight} {origin destination : String} {day : Int}
    (hday : DateTime.Representable day) :
    flight.Flies origin destination (DateTime.isoDate day) ↔
      flight.FliesOn origin destination day := by
  rw [Flight.Flies, Flight.FliesOn, Flight.departsOn_iff]
  refine and_congr_right fun _ => and_congr_right fun _ => ?_
  exact ⟨DateTime.isoDate_injective flight.departureAt.representable_date hday,
    fun h => h ▸ rfl⟩

/-! ## What a query asks for -/

namespace SearchQueryParams

variable (params : SearchQueryParams)

/-- The flight is on the route on the day, and admitted. -/
def OneWay (flight : Flight) : Prop :=
  flight.FliesOn params.origin params.destination params.departureDate ∧
    params.request.AdmitsAirline flight ∧
    params.request.AdmitsPrice flight.baseFare.amount.toRat ∧ params.request.AdmitsTime flight

/-- The legs are on their routes on their days, of the airline asked for. -/
def OnRoutes (returnDay : Int) (legs : Flight × Flight) : Prop :=
  (legs.1.FliesOn params.origin params.destination params.departureDate ∧
      params.request.AdmitsAirline legs.1) ∧
    (legs.2.FliesOn params.destination params.origin returnDay ∧
      params.request.AdmitsAirline legs.2)

/-- They also connect, and are admitted. -/
def RoundTrip (returnDay : Int) (legs : Flight × Flight) : Prop :=
  (params.OnRoutes returnDay legs ∧ Connects legs) ∧
    params.request.AdmitsPrice (tripPrice legs) ∧ params.request.AdmitsTime legs.1

instance (flight : Flight) : Decidable (params.OneWay flight) :=
  inferInstanceAs (Decidable (_ ∧ _ ∧ _ ∧ _))

instance (returnDay : Int) (legs : Flight × Flight) :
    Decidable (params.OnRoutes returnDay legs) :=
  inferInstanceAs (Decidable ((_ ∧ _) ∧ (_ ∧ _)))

instance (returnDay : Int) (legs : Flight × Flight) :
    Decidable (params.RoundTrip returnDay legs) :=
  inferInstanceAs (Decidable ((_ ∧ _) ∧ _ ∧ _))

variable {params}

theorem oneWay_iff {flight : Flight} (hday : DateTime.Representable params.departureDate) :
    params.request.OneWay flight ↔ params.OneWay flight := by
  rw [SearchRequest.OneWay, SearchQueryParams.OneWay]
  exact and_congr_left' (Flight.flies_iff hday)

theorem onRoutes_iff {legs : Flight × Flight} {returnDay : Int}
    (hday : DateTime.Representable params.departureDate)
    (hreturn : DateTime.Representable returnDay) :
    params.request.OnRoutes (DateTime.isoDate returnDay) legs ↔ params.OnRoutes returnDay legs := by
  rw [SearchRequest.OnRoutes, SearchQueryParams.OnRoutes]
  exact and_congr (and_congr_left' (Flight.flies_iff hday))
    (and_congr_left' (Flight.flies_iff hreturn))

end SearchQueryParams

/-- The time bounds of the query carry no offset. -/
def SearchQuery.Naive (query : SearchQuery) : Prop :=
  (∀ bound ∈ query.departureTimeFrom, bound.utcoffset = none) ∧
    ∀ bound ∈ query.departureTimeTo, bound.utcoffset = none

instance (query : SearchQuery) : Decidable query.Naive := inferInstanceAs (Decidable (_ ∧ _))

/-- The price bounds of a valid query are numbers. -/
theorem isNumber_of_isPriceBound {d : Decimal} (h : isPriceBound d = true) : Decimal.IsNumber d := by
  rintro signaling rfl
  cases h

theorem searchQueryParams_comparable {query : SearchQuery} {params : SearchQueryParams}
    (h : searchQueryParams query = .ok params) (hnaive : query.Naive) :
    params.request.Comparable := by
  unfold searchQueryParams at h
  split at h
  · next hvalid =>
      cases h
      simp only [SearchQuery.invalid, List.map_eq_nil_iff, List.filter_eq_nil_iff,
        List.forall_mem_cons] at hvalid
      obtain ⟨-, -, -, -, -, -, hmin, hmax, -⟩ := hvalid
      refine ⟨fun bound hb => isNumber_of_isPriceBound ?_,
        fun bound hb => isNumber_of_isPriceBound ?_, hnaive.1, hnaive.2⟩
      · have hb : query.minPrice = some bound := hb
        simpa [hb] using hmin
      · have hb : query.maxPrice = some bound := hb
        simpa [hb] using hmax
  · cases h

/-! ## The endpoint -/

section Endpoint

variable {c : Container} {env : Collaborators} {currency : String} {query : SearchQuery}
  {params : SearchQueryParams}

/-- The app answers every page of the query, and changes nothing. -/
def ServesPages (c : Container) (env : Collaborators) (query : SearchQuery)
    (body : Nat → SearchResponse) : Prop :=
  ∀ page : Nat, 1 ≤ page →
    (HttpApp.handle env (.searchFlights { query with page := page })).run c =
      (.ok ⟨200, .search (body page)⟩, c)

theorem run_search {c : Container} (hvalid : searchQueryParams query = .ok params)
    {body : SearchResponse} (h : HttpApp.searchFlights c params = .ok body) :
    (HttpApp.handle env (.searchFlights query)).run c = (.ok ⟨200, .search body⟩, c) := by
  simp only [HttpApp.handle, HttpApp.search, hvalid, Eff.run_get_bind, h]
  rfl

/-- The pages are the windows of the result, one way. -/
theorem serves_oneWay (hvalid : searchQueryParams query = .ok params)
    (hdate : params.returnDate = none) {result : SearchResult}
    (h : SearchService.search c.flightRepo params.request = .ok result) :
    ∃ body : Nat → OneWayResponse, ServesPages c env query (fun page => .oneWay (body page)) ∧
      Paging.Partition params.size.toNat (result.flights.map serializeFlight)
        fun page => (body page).flights := by
  have hpos : 0 < params.size.toNat := by
    have := params.size_pos
    omega
  refine ⟨fun page => {
    flights := Paging.window params.size.toNat (page - 1) (result.flights.map serializeFlight)
    page := page
    size := params.size
    total := result.flights.length }, fun page hpage => ?_, Paging.partition_window hpos _⟩
  have hpage' : (1 : Int) ≤ page := Int.ofNat_le.mpr hpage
  obtain ⟨-, -, -, hpages⟩ := search_page h
  refine run_search (searchQueryParams_page hvalid hpage') ?_
  rw [searchFlights_oneWay { params with page := page, page_pos := hpage' } hdate (hpages page)]
  rfl

theorem serves_roundTrip (hvalid : searchQueryParams query = .ok params)
    (hdate : params.returnDate ≠ none) {result : RoundTripResult}
    (h : SearchService.searchRoundTrip c.flightRepo params.request = .ok result) :
    ∃ body : Nat → RoundTripResponse,
      ServesPages c env query (fun page => .roundTrip (body page)) ∧
      Paging.Partition params.size.toNat (result.pairs.map serializePair)
        fun page => (body page).pairs := by
  have hpos : 0 < params.size.toNat := by
    have := params.size_pos
    omega
  refine ⟨fun page => {
    pairs := Paging.window params.size.toNat (page - 1) (result.pairs.map serializePair)
    page := page
    size := params.size
    pairCount := result.pairs.length
    flightCount := 2 * result.pairs.length }, fun page hpage => ?_,
    Paging.partition_window hpos _⟩
  have hpage' : (1 : Int) ≤ page := Int.ofNat_le.mpr hpage
  obtain ⟨-, -, -, hpages⟩ := searchRoundTrip_page h
  refine run_search (searchQueryParams_page hvalid hpage') ?_
  rw [searchFlights_roundTrip { params with page := page, page_pos := hpage' } hdate (hpages page)]
  rfl

/-- **The pages of a search show the flights of the day.** For a catalog with fares of
one currency in cents, and every valid query for dates of the calendar whose time bounds
carry no offset: the app answers every page and changes nothing, and the pages put together
show, once each and in catalog order, the flights on the route that depart between the
midnights of the day and that the filters admit. With a return date they show, once each,
the connecting pairs with the second leg on that day, if the layovers and the sums of the
fares come out; and on one clock a leg by departure, ties in catalog order. -/
theorem search_shows_the_day (hcat : Catalog c.flightRepo currency)
    (hvalid : searchQueryParams query = .ok params) (hnaive : query.Naive)
    (hday : DateTime.Representable params.departureDate) :
    (params.returnDate = none →
      ∃ body : Nat → OneWayResponse,
        ServesPages c env query (fun page => .oneWay (body page)) ∧
        Paging.Partition params.size.toNat
          ((c.flightRepo.values.filter fun flight => params.OneWay flight).map serializeFlight)
          fun page => (body page).flights) ∧
    ∀ returnDay, params.returnDate = some returnDay → DateTime.Representable returnDay →
      let pairs := c.flightRepo.values ×ˢ c.flightRepo.values
      (∀ legs ∈ pairs, params.OnRoutes returnDay legs →
        legs.1.LayoverFits ∧ (Connects legs → |tripPrice legs| < 10 ^ 26)) →
      ∃ shown : List FlightPair,
        shown.Perm ((pairs.filter fun legs => params.RoundTrip returnDay legs).map pairOf) ∧
        (params.request.OneClock c.flightRepo (DateTime.isoDate returnDay) → shown.Pairwise
          (StableSort.InOrder DepartsLe fun a b => CatalogFirst c.flightRepo a.legs b.legs)) ∧
        ∃ body : Nat → RoundTripResponse,
          ServesPages c env query (fun page => .roundTrip (body page)) ∧
          Paging.Partition params.size.toNat (shown.map serializePair)
            fun page => (body page).pairs := by
  have hcomp := searchQueryParams_comparable hvalid hnaive
  refine ⟨fun hone => ?_, ?_⟩
  · have hshown : (c.flightRepo.values.filter fun flight => params.OneWay flight) =
        c.flightRepo.values.filter fun flight => params.request.OneWay flight :=
      List.filter_congr fun flight _ =>
        decide_eq_decide.mpr (SearchQueryParams.oneWay_iff hday).symm
    rw [hshown]
    exact serves_oneWay hvalid hone (search_ok hcat hcomp)
  · intro returnDay hreturn hreturnDay pairs hfits
    have hdate : params.request.returnDate = some (DateTime.isoDate returnDay) := by
      simp [SearchQueryParams.request, hreturn]
    have hroutes : ∀ legs, params.request.OnRoutes (DateTime.isoDate returnDay) legs ↔
        params.OnRoutes returnDay legs := fun _ => SearchQueryParams.onRoutes_iff hday hreturnDay
    have hfits' : params.request.TripsFit c.flightRepo (DateTime.isoDate returnDay) :=
      fun legs hlegs h => hfits legs hlegs ((hroutes legs).mp h)
    have hshown : (pairs.filter fun legs => params.RoundTrip returnDay legs) =
        pairs.filter fun legs =>
          params.request.RoundTrip (DateTime.isoDate returnDay) legs := by
      refine List.filter_congr fun legs _ => decide_eq_decide.mpr ?_
      exact and_congr_left' (and_congr_left' (hroutes legs).symm)
    rw [hshown]
    exact ⟨_, List.perm_insertionSort .., roundTrips_inOrder,
      serves_roundTrip hvalid (by simp [hreturn]) (searchRoundTrip_ok hcat hcomp hdate hfits')⟩

end Endpoint

/-- A departure in the evening of the first of June, at an offset where it is the second
in Greenwich. -/
theorem search_shows_the_day_evening :
    let flight := { seededFlight "FL-1" [] with
      departureAt := .ofDateTime ⟨1780383600000000, -28800000000⟩ (by decide)
      baseFare := ⟨.finite false 29900 (-2), "USD"⟩ }
    let c := seededContainer [flight]
    let query : SearchQuery := { origin := "LAX", destination := "NYC", departureDate := 20605 }
    ∃ body : Nat → OneWayResponse, ServesPages c .wired query (fun page => .oneWay (body page)) ∧
      (body 1).flights = [serializeFlight flight] := by
  intro flight c query
  have hvalid : searchQueryParams query = .ok _ :=
    dif_pos (show query.invalid = [] by decide)
  have hcat : Catalog c.flightRepo "USD" := by
    refine Catalog.of_added ?_
    rw [List.forall_mem_singleton]
    have hnumber : Decimal.IsNumber (.finite false 29900 (-2)) := by
      rintro signaling ⟨⟩
    exact .of_money hnumber (by decide)
  obtain ⟨body, hserves, hpages⟩ :=
    (search_shows_the_day hcat hvalid (by decide) (by decide)).1 rfl
  refine ⟨body, hserves, ?_⟩
  have hpages : Paging.Partition 20 [serializeFlight flight] fun page => (body page).flights :=
    hpages
  simpa [Paging.count] using hpages.concat

end FlightBooking
