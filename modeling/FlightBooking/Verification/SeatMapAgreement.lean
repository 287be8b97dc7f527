import FlightBooking.Verification.LockReservation

/-!
# SeatMapAgreement — what is shown free can be bought

The seat map collects the seats of all confirmed bookings first and then looks
at the locks; a commit asks each booking about each seat. Both come to the same
answer, so a seat shown as available passes the checks of a commit, and a seat
that is booked is never shown as available again. But the map is also put in order,
and an id that the sort key cannot read leaves the flight without a map.
-/

namespace FlightBooking

open Py BookingService SeatMapService

/-! ## The two scans -/

/-- The loop of `_occupied_seat_ids`, from any set on. -/
theorem mem_occupied_loop {bookings : List Booking} {flightId : FlightId} {seatId : SeatId}
    (occupied : List SeatId) :
    seatId ∈ bookings.foldl
        (fun occupied booking =>
          if booking.flightId ≠ flightId then occupied
          else if booking.status ≠ .confirmed then occupied
          else occupied ++ booking.seatIds) occupied ↔
      seatId ∈ occupied ∨ ∃ b ∈ bookings, b.holds (flightId, seatId) = true := by
  induction bookings generalizing occupied with
  | nil => simp
  | cons b bookings ih =>
      rw [List.foldl_cons, ih]
      by_cases hf : b.flightId = flightId
      · by_cases hs : b.status = .confirmed
        · simp [hf, hs, holds_iff, or_assoc]
        · simp [hf, hs, holds_iff]
      · simp [hf, holds_iff]

/-- The set of the seat map is what the commit asks booking by booking. -/
theorem mem_occupiedSeatIds {bookings : InMemoryBookingRepository} {flightId : FlightId}
    {seatId : SeatId} :
    seatId ∈ occupiedSeatIds bookings flightId ↔
      seatAlreadyBooked bookings flightId seatId = true := by
  unfold occupiedSeatIds
  rw [mem_occupied_loop, ← Bool.not_eq_false, seatAlreadyBooked_eq_false_iff, holder,
    Option.map_eq_none_iff, List.find?_eq_none]
  simp [InMemoryBookingRepository.iterAll]

/-- A live lock on the seat is of a session other than the requester; without a
requester, any live lock is. -/
def LockedAgainst (store : InMemorySeatLockStore) (now : DateTime) (seatId : SeatId)
    (sessionId : Option SessionId) : Prop :=
  ∃ r, store.bySeat.get? seatId = some r ∧ now < r.expiresAt ∧ sessionId ≠ some r.sessionId

theorem findActiveLockForSeat_eq_some_iff {store : InMemorySeatLockStore} {seatId : SeatId}
    {now : DateTime} {r : LockRecord} :
    store.findActiveLockForSeat seatId now = some r ↔
      store.bySeat.get? seatId = some r ∧ now < r.expiresAt := by
  unfold InMemorySeatLockStore.findActiveLockForSeat
  cases store.bySeat.get? seatId with
  | none => simp
  | some record =>
      by_cases hle : record.expiresAt ≤ now
      · simp only [hle, if_true, reduceCtorEq, Option.some.injEq, false_iff, not_and]
        rintro rfl
        exact DateTime.not_lt.mpr hle
      · have hlt : now < record.expiresAt := DateTime.not_le.mp hle
        simp only [hle, if_false, Option.some.injEq]
        constructor
        · rintro rfl
          exact ⟨rfl, hlt⟩
        · exact fun h => h.1

/-- What a look at the lock of a seat finds. -/
theorem lockedLook_iff {store : InMemorySeatLockStore} {now : DateTime} {seatId : SeatId}
    {sessionId : Option SessionId} :
    (match store.findActiveLockForSeat seatId now with
      | none => false
      | some record => decide (sessionId ≠ some record.sessionId)) = true ↔
      LockedAgainst store now seatId sessionId := by
  cases hlock : store.findActiveLockForSeat seatId now with
  | none =>
      have hnot : ¬ LockedAgainst store now seatId sessionId := by
        intro h
        obtain ⟨r, hr, hlive, -⟩ := h
        rw [findActiveLockForSeat_eq_some_iff.mpr ⟨hr, hlive⟩] at hlock
        cases hlock
      simp [hnot]
  | some r =>
      obtain ⟨hr, hlive⟩ := findActiveLockForSeat_eq_some_iff.mp hlock
      simp [LockedAgainst, hr, hlive]

theorem mem_seatsLockedAgainstSession {store : InMemorySeatLockStore} {now : DateTime}
    {cabin : Cabin} {sessionId : Option SessionId} {seatId : SeatId} :
    seatId ∈ seatsLockedAgainstSession store now cabin sessionId ↔
      seatId ∈ cabin.seats.keys ∧ LockedAgainst store now seatId sessionId := by
  unfold seatsLockedAgainstSession
  rw [List.mem_filter]
  exact and_congr_right (fun _ => lockedLook_iff)

/-! ## The order of the seats -/

/-- The sort key reads the id: the digits in front are decimal, and not too many. -/
def SeatId.Readable (id : SeatId) : Prop :=
  (id.value.toList.takeWhile isDigit).length ≤ intMaxStrDigits ∧
    ∀ ch ∈ id.value.toList.takeWhile isDigit, (decimal? ch).isSome = true

instance (id : SeatId) : Decidable id.Readable :=
  @instDecidableAnd _ _ (Nat.decLe _ _) (List.decidableBAll _ _)

def Cabin.Readable (cabin : Cabin) : Prop := ∀ seat ∈ cabin.seats.values, seat.id.Readable

instance (cabin : Cabin) : Decidable cabin.Readable :=
  inferInstanceAs (Decidable (∀ seat ∈ cabin.seats.values, seat.id.Readable))

theorem rowColumn_ok_iff {id : SeatId} : (∃ key, rowColumn id = .ok key) ↔ id.Readable := by
  rw [SeatId.Readable, ← intOfDigits_ok_iff]
  unfold rowColumn
  dsimp only
  by_cases hnone : id.value.toList.takeWhile isDigit = []
  · rw [if_pos hnone, hnone]
    exact iff_of_true ⟨_, rfl⟩ ⟨0, rfl⟩
  · rw [if_neg hnone]
    cases intOfDigits (id.value.toList.takeWhile isDigit) with
    | error message => exact iff_of_false (fun ⟨_, h⟩ => nomatch h) (fun ⟨_, h⟩ => nomatch h)
    | ok row => exact iff_of_true ⟨_, rfl⟩ ⟨row, rfl⟩

/-- The seats of a cabin come out in order if all of its ids are read. -/
theorem orderedSeats_ok_iff {flight : Flight} :
    (∃ seats, orderedSeats flight = .ok seats) ↔ flight.cabin.Readable := by
  rw [orderedSeats, StableSort.sortedByKey_ok_iff]
  exact forall₂_congr fun _ _ => rowColumn_ok_iff

theorem orderedSeats_perm {flight : Flight} {seats : List Seat}
    (h : orderedSeats flight = .ok seats) : seats.Perm flight.cabin.seats.values :=
  StableSort.sortedByKey_perm h

/-! ## The map -/

/-- The map of a flight is its ordered seats, each with its status. -/
theorem view_eq {c : Container} {flightId : FlightId} {flight : Flight}
    (hf : c.flightRepo.get flightId = some flight) (sessionId : Option SessionId) :
    view c flightId sessionId = (orderedSeats flight).map fun seats =>
      some (seats.map fun seat =>
        { seatId := seat.id
          seatClass := seat.seatClass
          kind := seat.kind
          status := statusFor seat.status seat.id (occupiedSeatIds c.bookingRepo flightId)
            (seatsLockedAgainstSession c.seatLockStore c.clock flight.cabin sessionId) }) := by
  unfold view
  rw [hf]
  dsimp only
  cases orderedSeats flight <;> rfl

/-- The map of the flight, as the session sees it, shows the seat with the status. -/
def ShowsSeat (c : Container) (flightId : FlightId) (sessionId : Option SessionId)
    (seatId : SeatId) (status : SeatStatus) : Prop :=
  ∃ entries, view c flightId sessionId = .ok (some entries) ∧
    ∃ e ∈ entries, e.seatId = seatId ∧ e.status = status

theorem statusFor_eq_available_iff {cabinStatus : SeatStatus} {seatId : SeatId}
    {occupiedIds lockedToOther : List SeatId} :
    statusFor cabinStatus seatId occupiedIds lockedToOther = .available ↔
      cabinStatus ≠ .blocked ∧ seatId ∉ occupiedIds ∧ seatId ∉ lockedToOther := by
  unfold statusFor
  split_ifs <;> simp_all

theorem showsSeat_iff {c : Container} {flightId : FlightId} {flight : Flight}
    (hf : c.flightRepo.get flightId = some flight) {sessionId : Option SessionId}
    {seatId : SeatId} {status : SeatStatus} :
    ShowsSeat c flightId sessionId seatId status ↔
      flight.cabin.Readable ∧ ∃ seat ∈ flight.cabin.seats.values, seat.id = seatId ∧
        statusFor seat.status seatId (occupiedSeatIds c.bookingRepo flightId)
          (seatsLockedAgainstSession c.seatLockStore c.clock flight.cabin sessionId) =
          status := by
  unfold ShowsSeat
  rw [view_eq hf, ← orderedSeats_ok_iff]
  constructor
  · intro h
    obtain ⟨entries, hentries, e, he, hid, hstatus⟩ := h
    cases hseats : orderedSeats flight with
    | error raised =>
        rw [hseats] at hentries
        cases hentries
    | ok seats =>
        rw [hseats] at hentries
        obtain rfl := Option.some.inj (Except.ok.inj hentries)
        obtain ⟨seat, hseat, rfl⟩ := List.mem_map.mp he
        refine ⟨⟨seats, rfl⟩, seat, (orderedSeats_perm hseats).subset hseat, hid, ?_⟩
        rw [← hid]
        exact hstatus
  · intro h
    obtain ⟨⟨seats, hseats⟩, seat, hseat, rfl, hstatus⟩ := h
    rw [hseats]
    exact ⟨_, rfl, _, List.mem_map.mpr ⟨seat, (orderedSeats_perm hseats).symm.subset hseat, rfl⟩,
      rfl, hstatus⟩

/-- Every seat of the cabin is stored under its own id. -/
def Cabin.Keyed (cabin : Cabin) : Prop := ∀ k seat, cabin.seats.get? k = some seat → seat.id = k

theorem Cabin.keyed_iff {cabin : Cabin} :
    cabin.Keyed ↔ ∀ entry ∈ cabin.seats.entries, entry.2.id = entry.1 := by
  constructor
  · intro h entry hentry
    exact h entry.1 entry.2 (Dict.get?_eq_some_iff.mpr hentry)
  · intro h k seat hk
    exact h (k, seat) (Dict.get?_eq_some_iff.mp hk)

instance (cabin : Cabin) : Decidable cabin.Keyed := decidable_of_iff _ Cabin.keyed_iff.symm

/-- Of a keyed cabin the map, if there is one, shows each seat with the status of its
entry. -/
theorem showsSeat_keyed_iff {c : Container} {flightId : FlightId} {flight : Flight}
    (hf : c.flightRepo.get flightId = some flight) (hkeyed : flight.cabin.Keyed) {seatId : SeatId}
    {seat : Seat} (hseat : flight.cabin.seats.get? seatId = some seat)
    {sessionId : Option SessionId} {status : SeatStatus} :
    ShowsSeat c flightId sessionId seatId status ↔
      flight.cabin.Readable ∧
        statusFor seat.status seatId (occupiedSeatIds c.bookingRepo flightId)
          (seatsLockedAgainstSession c.seatLockStore c.clock flight.cabin sessionId) =
          status := by
  rw [showsSeat_iff hf]
  refine and_congr_right fun _ => ?_
  constructor
  · intro h
    obtain ⟨other, hmem, hid, hstatus⟩ := h
    obtain ⟨k, hk⟩ := Dict.mem_values_iff.mp hmem
    obtain rfl : k = seatId := (hkeyed k other hk).symm.trans hid
    obtain rfl := Option.some.inj (hseat.symm.trans hk)
    exact hstatus
  · intro h
    exact ⟨seat, Dict.mem_values_iff.mpr ⟨seatId, hseat⟩, hkeyed seatId seat hseat, h⟩

/-- Shown available, the seat is for sale and not locked against the requester; the
other way round the cabin must have a map. -/
theorem showsSeat_available_iff {c : Container} {flightId : FlightId} {flight : Flight}
    (hf : c.flightRepo.get flightId = some flight) (hkeyed : flight.cabin.Keyed) {seatId : SeatId}
    {seat : Seat} (hseat : flight.cabin.seats.get? seatId = some seat)
    (sessionId : Option SessionId) :
    ShowsSeat c flightId sessionId seatId .available ↔
      flight.cabin.Readable ∧ ForSale c.bookingRepo flight flightId seatId ∧
        ¬ LockedAgainst c.seatLockStore c.clock seatId sessionId := by
  have hkey : seatId ∈ flight.cabin.seats.keys := by
    by_contra hnone
    rw [Dict.get?_eq_none_iff.mpr hnone] at hseat
    cases hseat
  rw [showsSeat_keyed_iff hf hkeyed hseat, statusFor_eq_available_iff, mem_occupiedSeatIds,
    mem_seatsLockedAgainstSession, Bool.not_eq_true, ForSale, hseat]
  simp only [hkey, true_and, Option.some.injEq, exists_eq_left', and_assoc]

/-- A booked seat is not shown as available, in whatever cabin. -/
theorem not_showsSeat_of_booked {c : Container} {k : BookingReference} {b : Booking}
    (hk : c.bookingRepo.get? k = some b) (hconfirmed : b.status = .confirmed) {seatId : SeatId}
    (hm : seatId ∈ b.seatIds) (sessionId : Option SessionId) :
    ¬ ShowsSeat c b.flightId sessionId seatId .available := by
  intro hshows
  have hbooked : seatId ∈ occupiedSeatIds c.bookingRepo b.flightId := by
    rw [mem_occupiedSeatIds, ← Bool.not_eq_false, seatAlreadyBooked_iff_unbooked]
    exact fun hfree => hfree k b hk rfl hconfirmed hm
  cases hf : c.flightRepo.get b.flightId with
  | none =>
      obtain ⟨entries, hentries, -⟩ := hshows
      rw [view, hf] at hentries
      cases hentries
  | some flight =>
      obtain ⟨-, seat, -, -, hstatus⟩ := (showsSeat_iff hf).mp hshows
      exact (statusFor_eq_available_iff.mp hstatus).2.1 hbooked

/-- A commit of one seat that is for sale, without a quote and without a lock, is
not refused. -/
theorem not_refused_of_forSale {c : Container} {request : CommitRequest} {flight : Flight}
    {seatId : SeatId} (hf : c.flightRepo.get request.flightId = some flight)
    (hseats : request.seatIds = [seatId]) (hquote : request.quoteId = none)
    (hlock : request.lockId = none)
    (hsale : ForSale c.bookingRepo flight request.flightId seatId) :
    refusal c request = none := by
  refine refusal_eq_none_iff.mpr ⟨flight, hf, by simp [hquote], ?_, by simp [hlock]⟩
  intro s hs
  rw [hseats, List.mem_singleton] at hs
  exact hs ▸ hsale

/-- A commit of the seat passes its seat check, and no other session's live lock is
on it. -/
def OnOffer (c : Container) (flight : Flight) (request : CommitRequest)
    (sessionId : Option SessionId) (seatId : SeatId) : Prop :=
  validateSeats c.bookingRepo flight request = none ∧
    ¬ LockedAgainst c.seatLockStore c.clock seatId sessionId

/-- **The seat map and the commit.** In every state of every run, a seat of a keyed
cabin is shown to a session as available exactly if it is on offer to it, if and only
if the seat is not on offer or the ids of the cabin can be put in order. A seat that is
shown as available passes a commit without quote and lock, which succeeds if it is
paid and no call raises; a booked seat is never again shown as available. -/
theorem seat_map_agrees_with_commit_iff {c₀ : Container} (hempty : c₀.bookingRepo = Dict.empty)
    (hrefs : c₀.ids.bookingRefs.Nodup) (ops : List Op) :
    let c := Run.final step c₀ ops
    (∀ flightId flight, c.flightRepo.get flightId = some flight → flight.cabin.Keyed →
      ∀ seatId seat, flight.cabin.seats.get? seatId = some seat →
      ∀ sessionId request, request.flightId = flightId → request.seatIds = [seatId] →
        ((ShowsSeat c flightId sessionId seatId .available ↔
            OnOffer c flight request sessionId seatId) ↔
          (OnOffer c flight request sessionId seatId → flight.cabin.Readable)) ∧
        (ShowsSeat c flightId sessionId seatId .available →
          OnOffer c flight request sessionId seatId ∧
            (request.quoteId = none → request.lockId = none → refusal c request = none ∧
              ∀ env, Accepted env request → c.ids.bookingRefs ≠ [] →
                ∃ b, (step c (.commit env request)).1.booking? = some b))) ∧
    ∀ k b, c.bookingRepo.get? k = some b → b.status = .confirmed → ∀ seatId ∈ b.seatIds,
      ∀ later sessionId,
        ¬ ShowsSeat (Run.final step c later) b.flightId sessionId seatId .available := by
  intro c
  have hI : Booked c := (Booked.start hempty hrefs).final ops
  refine ⟨?_, ?_⟩
  · rintro flightId flight hf hkeyed seatId seat hseat sessionId request rfl hseats
    have hvalid : validateSeats c.bookingRepo flight request = none ↔
        ForSale c.bookingRepo flight request.flightId seatId := by
      rw [validateSeats, validateSeatIds_eq_none_iff, hseats, List.forall_mem_singleton]
    have hshows : ShowsSeat c request.flightId sessionId seatId .available ↔
        flight.cabin.Readable ∧ OnOffer c flight request sessionId seatId := by
      rw [showsSeat_available_iff hf hkeyed hseat sessionId, OnOffer, hvalid]
    refine ⟨by rw [hshows]; tauto, ?_⟩
    intro havailable
    have hoffer := (hshows.mp havailable).2
    refine ⟨hoffer, ?_⟩
    intro hquote hlock
    have hpassed := not_refused_of_forSale hf hseats hquote hlock (hvalid.mp hoffer.1)
    refine ⟨hpassed, ?_⟩
    intro env haccepted href
    rw [commit_succeeds_iff, completes_iff_passes haccepted href]
    exact refusal_eq_none_iff.mp hpassed
  · intro k b hk hconfirmed seatId hm later sessionId
    exact not_showsSeat_of_booked (hI.get_run later hk) hconfirmed hm sessionId

/-- Once 30F is booked, the next session is shown 30G, and can have it. -/
theorem seat_map_agrees_with_commit_two_seats :
    let c₀ := seededContainer [seededFlight "FL-LAX-NYC-0800" ["30F", "30G"]]
    let c := Run.final step c₀ [.commit .wired (commitFor "FL-LAX-NYC-0800" ["30F"])]
    ShowsSeat c ⟨"FL-LAX-NYC-0800"⟩ none ⟨"30G"⟩ .available ∧
      (∃ b, (step c (.commit .wired (commitFor "FL-LAX-NYC-0800" ["30G"]))).1.booking? = some b) ∧
      ∀ later sessionId, ¬ ShowsSeat (Run.final step c later) ⟨"FL-LAX-NYC-0800"⟩ sessionId
        ⟨"30F"⟩ .available := by
  intro c₀ c
  have hkeyed : (seededFlight "FL-LAX-NYC-0800" ["30F", "30G"]).cabin.Keyed := by decide
  have hread : (seededFlight "FL-LAX-NYC-0800" ["30F", "30G"]).cabin.Readable := by decide
  have hacc : Accepted .wired (commitFor "FL-LAX-NYC-0800" ["30G"]) :=
    ⟨rfl, fun total => ⟨{ succeeded := true }, rfl, rfl⟩, fun _ => rfl⟩
  have hempty : c₀.bookingRepo = Dict.empty := rfl
  obtain ⟨hmap, hnever⟩ := seat_map_agrees_with_commit_iff hempty (by decide)
    [.commit .wired (commitFor "FL-LAX-NYC-0800" ["30F"])]
  have hseat := hmap ⟨"FL-LAX-NYC-0800"⟩ _ rfl hkeyed ⟨"30G"⟩ _ rfl none
    (commitFor "FL-LAX-NYC-0800" ["30G"]) rfl rfl
  have hshown : ShowsSeat c ⟨"FL-LAX-NYC-0800"⟩ none ⟨"30G"⟩ .available := by
    refine (hseat.1.mpr fun _ => hread).mpr ⟨by decide, ?_⟩
    intro hlocked
    obtain ⟨r, hr, -⟩ := hlocked
    cases hr
  refine ⟨hshown, ((hseat.2 hshown).2 rfl rfl).2 .wired hacc (by decide), ?_⟩
  intro later sessionId
  exact hnever ⟨"REF001"⟩ _ rfl rfl ⟨"30F"⟩ (by decide) later sessionId

/-- A cabin with a seat `²A` has no map: 12C is for sale, without any lock on it, and
is shown to nobody. -/
theorem seat_map_raises_on_superscript :
    let flight := seededFlight "FL-LAX-NYC-0800" ["12C", "²A"]
    let c := seededContainer [flight]
    flight.cabin.Keyed ∧ OnOffer c flight (commitFor "FL-LAX-NYC-0800" ["12C"]) none ⟨"12C"⟩ ∧
      view c ⟨"FL-LAX-NYC-0800"⟩ none =
        .error (.valueError "invalid literal for int() with base 10: '²'") ∧
      ¬ ShowsSeat c ⟨"FL-LAX-NYC-0800"⟩ none ⟨"12C"⟩ .available := by
  intro flight c
  have hview : view c ⟨"FL-LAX-NYC-0800"⟩ none =
      .error (.valueError "invalid literal for int() with base 10: '²'") := by decide
  refine ⟨by decide, ⟨by decide, ?_⟩, hview, ?_⟩
  · intro hlocked
    obtain ⟨r, hr, -⟩ := hlocked
    cases hr
  · intro hshown
    obtain ⟨entries, hentries, -⟩ := hshown
    rw [hview] at hentries
    cases hentries

end FlightBooking
