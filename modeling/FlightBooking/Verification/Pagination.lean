import FlightBooking.Adapters.HttpApp
import FlightBooking.Composition.Machine
import FlightBooking.Verification.RoundingRule

/-!
# Pagination — the pages of a search partition its result

The service computes the whole result whatever page is asked for; the endpoint cuts the
page out of it. Validated parameters count pages from 1 and have a size of 1 to 20, so
the cuts are the windows of the list, one after the other.
-/

namespace FlightBooking

open Py

/-! ## The service does not look at the page -/

section Service

variable {flights : InMemoryFlightRepository} {request : SearchRequest}

/-- A result says the page and size asked for and the number of its flights, and is the
same for every page. -/
theorem search_page {result : SearchResult}
    (h : SearchService.search flights request = .ok result) :
    result.page = request.page ∧ result.size = request.size ∧
      result.total = result.flights.length ∧ ∀ page,
      SearchService.search flights { request with page } = .ok { result with page } := by
  unfold SearchService.search at h
  obtain ⟨priced, hpriced, h⟩ := bind_eq_ok h
  obtain ⟨shown, hshown, h⟩ := bind_eq_ok h
  obtain rfl := Except.ok.inj h
  refine ⟨rfl, rfl, rfl, fun page => ?_⟩
  unfold SearchService.search
  dsimp only
  rw [bind_ok hpriced, bind_ok hshown]
  rfl

theorem searchRoundTrip_page {result : RoundTripResult}
    (h : SearchService.searchRoundTrip flights request = .ok result) :
    result.page = request.page ∧ result.size = request.size ∧
      result.pairCount = result.pairs.length ∧ ∀ page,
      SearchService.searchRoundTrip flights { request with page } =
        .ok { result with page } := by
  unfold SearchService.searchRoundTrip at h
  cases hdate : request.returnDate with
  | none =>
      rw [hdate] at h
      cases h
  | some returnDate =>
      rw [hdate] at h
      obtain ⟨eligible, heligible, h⟩ := bind_eq_ok h
      obtain ⟨priced, hpriced, h⟩ := bind_eq_ok h
      obtain ⟨shown, hshown, h⟩ := bind_eq_ok h
      obtain rfl := Except.ok.inj h
      refine ⟨rfl, rfl, rfl, fun page => ?_⟩
      unfold SearchService.searchRoundTrip
      dsimp only
      rw [bind_ok heligible, bind_ok hpriced, bind_ok hshown]
      rfl

end Service

/-! ## The endpoint -/

/-- The slice of a page is a window, counted from 0. -/
theorem slice_page {α : Type} (items : List α) {page size : Int} (hpage : 1 ≤ page)
    (hsize : 1 ≤ size) :
    slice items ((page - 1) * size) ((page - 1) * size + size) =
      Paging.window size.toNat (page.toNat - 1) items := by
  have hp : page - 1 = ((page.toNat - 1 : Nat) : Int) := by omega
  have hs : size = (size.toNat : Int) := by omega
  rw [← Paging.slice_window, ← hp, ← hs]

section Endpoint

variable {c : Container} (params : SearchQueryParams)

/-- The endpoint shows the window of the page, and the number of all flights. -/
theorem searchFlights_oneWay (hdate : params.returnDate = none) {result : SearchResult}
    (h : SearchService.search c.flightRepo params.request = .ok result) :
    HttpApp.searchFlights c params = .ok (.oneWay {
      flights := Paging.window params.size.toNat (params.page.toNat - 1)
        (result.flights.map serializeFlight)
      page := params.page
      size := params.size
      total := result.flights.length }) := by
  obtain ⟨hpage, hsize, htotal, -⟩ := search_page h
  change result.page = params.page at hpage
  change result.size = params.size at hsize
  have hslice := slice_page result.flights params.page_pos params.size_pos
  rw [HttpApp.searchFlights, if_neg (not_not.mpr hdate)]
  simp only [h, bind, Except.bind, pure, Except.pure, hpage, hsize, htotal, hslice,
    Paging.window_map]

theorem searchFlights_roundTrip (hdate : params.returnDate ≠ none) {result : RoundTripResult}
    (h : SearchService.searchRoundTrip c.flightRepo params.request = .ok result) :
    HttpApp.searchFlights c params = .ok (.roundTrip {
      pairs := Paging.window params.size.toNat (params.page.toNat - 1)
        (result.pairs.map serializePair)
      page := params.page
      size := params.size
      pairCount := result.pairs.length
      flightCount := 2 * result.pairs.length }) := by
  obtain ⟨hpage, hsize, hcount, -⟩ := searchRoundTrip_page h
  change result.page = params.page at hpage
  change result.size = params.size at hsize
  have hslice := slice_page result.pairs params.page_pos params.size_pos
  rw [HttpApp.searchFlights, if_pos hdate, HttpApp.searchRoundTrip]
  simp only [h, bind, Except.bind, pure, Except.pure, hpage, hsize, hcount,
    RoundTripResult.flightCount, hslice, Paging.window_map]

end Endpoint

section Query

variable {query : SearchQuery} {params : SearchQueryParams}

theorem searchQueryParams_size (h : searchQueryParams query = .ok params) :
    params.size = min query.size 20 ∧ params.returnDate = query.returnDate := by
  unfold searchQueryParams at h
  split at h
  · cases h
    exact ⟨rfl, rfl⟩
  · cases h

/-- A valid query is valid for every page. -/
theorem searchQueryParams_page (h : searchQueryParams query = .ok params) {page : Int}
    (hpage : 1 ≤ page) :
    searchQueryParams { query with page } = .ok { params with page, page_pos := hpage } := by
  unfold searchQueryParams at h
  split at h
  · next hvalid =>
      cases h
      have hvalid' : ({ query with page } : SearchQuery).invalid = [] := by
        simp only [SearchQuery.invalid, List.map_eq_nil_iff, List.filter_eq_nil_iff,
          List.forall_mem_cons] at hvalid ⊢
        obtain ⟨horigin, hdestination, hpassengers, -, hrest⟩ := hvalid
        exact ⟨horigin, hdestination, hpassengers, by simpa using hpage, hrest⟩
      rw [searchQueryParams, dif_pos hvalid']
  · cases h

/-- The endpoint answers the query, for the page, with the body. -/
def Serves (c : Container) (query : SearchQuery) (page : Nat) (body : SearchResponse) : Prop :=
  ∃ params, searchQueryParams { query with page := page } = .ok params ∧
    HttpApp.searchFlights c params = .ok body

variable {c : Container}

/-- **Pages partition the result.** For a valid query, whatever size it asks for: with the
size clamped to 20, the pages 1, 2, ... that the endpoint serves put together are the full
result in order, each but the last has exactly that size, past the last they are empty,
and every page says how many there are, in both shapes of the response. -/
theorem pages_partition_result (hvalid : searchQueryParams query = .ok params) :
    let size := (min query.size 20).toNat
    (query.returnDate = none → ∀ result,
      SearchService.search c.flightRepo params.request = .ok result →
      ∃ body : Nat → OneWayResponse,
        (∀ page, 1 ≤ page → Serves c query page (.oneWay (body page)) ∧
          (body page).total = result.flights.length) ∧
        Paging.Partition size (result.flights.map serializeFlight)
          fun page => (body page).flights) ∧
    (query.returnDate ≠ none → ∀ result,
      SearchService.searchRoundTrip c.flightRepo params.request = .ok result →
      ∃ body : Nat → RoundTripResponse,
        (∀ page, 1 ≤ page → Serves c query page (.roundTrip (body page)) ∧
          (body page).pairCount = result.pairs.length ∧
          (body page).flightCount = 2 * result.pairs.length) ∧
        Paging.Partition size (result.pairs.map serializePair)
          fun page => (body page).pairs) := by
  intro size
  obtain ⟨hsize, hreturn⟩ := searchQueryParams_size hvalid
  have hpos : 0 < size := by
    have := params.size_pos
    omega
  refine ⟨?_, ?_⟩
  · intro hdate result h
    refine ⟨fun page => {
      flights := Paging.window size (page - 1) (result.flights.map serializeFlight)
      page := page
      size := params.size
      total := result.flights.length }, ?_, Paging.partition_window hpos _⟩
    intro page hpage
    have hpage' : (1 : Int) ≤ page := Int.ofNat_le.mpr hpage
    refine ⟨⟨_, searchQueryParams_page hvalid hpage', ?_⟩, rfl⟩
    obtain ⟨-, -, -, hpages⟩ := search_page h
    rw [searchFlights_oneWay { params with page := page, page_pos := hpage' }
      (hreturn.trans hdate) (hpages page)]
    simp only [hsize, Int.toNat_natCast, size]
  · intro hdate result h
    refine ⟨fun page => {
      pairs := Paging.window size (page - 1) (result.pairs.map serializePair)
      page := page
      size := params.size
      pairCount := result.pairs.length
      flightCount := 2 * result.pairs.length }, ?_, Paging.partition_window hpos _⟩
    intro page hpage
    have hpage' : (1 : Int) ≤ page := Int.ofNat_le.mpr hpage
    refine ⟨⟨_, searchQueryParams_page hvalid hpage', ?_⟩, rfl, rfl⟩
    obtain ⟨-, -, -, hpages⟩ := searchRoundTrip_page h
    rw [searchFlights_roundTrip { params with page := page, page_pos := hpage' }
      (hreturn ▸ hdate) (hpages page)]
    simp only [hsize, Int.toNat_natCast, size]

end Query

/-- Three flights, two to a page: the first page is full, and there is no third. -/
theorem pages_partition_result_three :
    let c := seededContainer
      [seededFlight "FL-1" [], seededFlight "FL-2" [], seededFlight "FL-3" []]
    let query : SearchQuery :=
      { origin := "LAX", destination := "NYC", departureDate := 20605, size := 2 }
    ∃ body : Nat → OneWayResponse,
      (∀ page, 1 ≤ page → Serves c query page (.oneWay (body page)) ∧ (body page).total = 3) ∧
      (body 1).flights.length = 2 ∧ (body 3).flights = [] := by
  intro c query
  have hvalid : searchQueryParams query = .ok _ :=
    dif_pos (show query.invalid = [] by decide)
  obtain ⟨body, hserves, hpages⟩ :=
    (pages_partition_result (c := c) hvalid).1 rfl ⟨c.flightRepo.values, 1, 2, 3⟩ (by decide)
  exact ⟨body, hserves, hpages.full 1 (by decide) (by decide), hpages.beyond 3 (by decide)⟩

end FlightBooking
