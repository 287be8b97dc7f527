import FlightBooking.Verification.DemandBuckets
import FlightBooking.Verification.SeatMapAgreement

/-!
# OccupancyCount — the seats that set the price

`_occupancy_pct` adds the cabin's OCCUPIED and BLOCKED seats to the lengths of
the booked tuples. A commit refuses a seat that is BLOCKED or booked, whatever
else the cabin says of it. The two counts differ by the OCCUPIED seats and by
the repetitions among the booked ones, and by nothing else.
-/

namespace FlightBooking

open Py Decimal Rounding BookingService QuoteService SeatMapService

/-! ## Counting -/

/-- Of two conditions that exclude each other the counts add up. -/
theorem countP_or_of_disjoint {α : Type*} {p q : α → Bool} {l : List α}
    (h : ∀ a ∈ l, p a = true → q a = false) :
    l.countP (fun a => p a || q a) = l.countP p + l.countP q := by
  induction l with
  | nil => rfl
  | cons a l ih =>
      have ha := h a (by simp)
      rw [List.countP_cons, List.countP_cons, List.countP_cons,
        ih (fun b hb => h b (by simp [hb]))]
      cases hp : p a with
      | false => simp [Nat.add_assoc]
      | true => simp [ha hp]; omega

/-- Members of `l` among distinct keys that `l` is drawn from: as many as `l` has
without its repetitions. -/
theorem countP_mem_eq_length_dedup {α : Type*} [DecidableEq α] {ks l : List α}
    (hks : ks.Nodup) (hsub : l ⊆ ks) : ks.countP (fun k => decide (k ∈ l)) = l.dedup.length := by
  rw [List.countP_eq_length_filter]
  apply List.Perm.length_eq
  rw [List.perm_ext_iff_of_nodup (hks.filter _) l.nodup_dedup]
  intro a
  rw [List.mem_filter, List.mem_dedup, decide_eq_true_eq]
  exact ⟨fun h => h.2, fun h => ⟨hsub h, h⟩⟩

theorem length_dedup_eq_iff {α : Type*} [DecidableEq α] {l : List α} :
    l.dedup.length = l.length ↔ l.Nodup := by
  constructor
  · intro h
    exact List.dedup_eq_self.mp (l.dedup_sublist.eq_of_length h)
  · intro h
    rw [h.dedup]

/-! ## The two counts -/

/-- The distinct cabin seats that a commit refuses on seat grounds. -/
def refusedCount (bookings : InMemoryBookingRepository) (flight : Flight) : Nat :=
  flight.cabin.seats.keys.countP fun seatId =>
    (validateSeatIds bookings flight flight.id [seatId]).isSome

/-- No seat of the cabin is marked OCCUPIED. -/
def Cabin.NoneOccupied (cabin : Cabin) : Prop :=
  ∀ k seat, cabin.seats.get? k = some seat → seat.status ≠ .occupied

theorem Cabin.noneOccupied_iff {cabin : Cabin} :
    cabin.NoneOccupied ↔ ∀ entry ∈ cabin.seats.entries, entry.2.status ≠ .occupied := by
  constructor
  · intro h entry hentry
    exact h entry.1 entry.2 (Dict.get?_eq_some_iff.mpr hentry)
  · intro h k seat hk
    exact h (k, seat) (Dict.get?_eq_some_iff.mp hk)

instance (cabin : Cabin) : Decidable cabin.NoneOccupied :=
  decidable_of_iff _ Cabin.noneOccupied_iff.symm

/-- Both walk the same bookings: one counts what the other collects. -/
theorem activeBookedSeatCount_eq (bookings : InMemoryBookingRepository) (flightId : FlightId) :
    activeBookedSeatCount bookings flightId = (occupiedSeatIds bookings flightId).length := by
  have hloop : ∀ (bs : List Booking) (occupied : List SeatId),
      bs.foldl (fun count booking =>
          if booking.flightId ≠ flightId then count
          else if booking.status ≠ .confirmed then count
          else count + booking.seatIds.length) occupied.length =
        (bs.foldl (fun occupied booking =>
          if booking.flightId ≠ flightId then occupied
          else if booking.status ≠ .confirmed then occupied
          else occupied ++ booking.seatIds) occupied).length := by
    intro bs
    induction bs with
    | nil => intro occupied; rfl
    | cons b bs ih =>
        intro occupied
        rw [List.foldl_cons, List.foldl_cons, ← ih]
        by_cases hf : b.flightId = flightId
        · by_cases hs : b.status = .confirmed <;> simp [hf, hs]
        · simp [hf]
  exact hloop bookings.iterAll []

/-- A booked seat is a seat of the cabin that is not blocked. -/
def SeatsSold (bookings : InMemoryBookingRepository) (flight : Flight) : Prop :=
  ∀ s ∈ occupiedSeatIds bookings flight.id,
    ∃ seat, flight.cabin.seats.get? s = some seat ∧ seat.status ≠ .blocked

section Counts

variable {bookings : InMemoryBookingRepository} {flight : Flight}

/-- The entries of the cabin that meet `p`. -/
def countStatus (flight : Flight) (p : SeatStatus → Bool) : Nat :=
  flight.cabin.seats.entries.countP fun entry => p entry.2.status

theorem occupiedCount_eq :
    occupiedCount bookings flight =
      countStatus flight (fun status => decide (status = .occupied)) +
        countStatus flight (fun status => decide (status = .blocked)) +
        (occupiedSeatIds bookings flight.id).length := by
  have hsplit := countP_or_of_disjoint
    (p := fun entry : SeatId × Seat => decide (entry.2.status = .occupied))
    (q := fun entry : SeatId × Seat => decide (entry.2.status = .blocked))
    (l := flight.cabin.seats.entries) (by
      intro entry _ h
      simp only [decide_eq_true_eq] at h
      simp [h])
  unfold countStatus
  rw [occupiedCount, activeBookedSeatCount_eq, Dict.values, List.countP_map, ← hsplit]
  congr 2
  funext entry
  simp

/-- A key of the cabin is refused if it is blocked or booked. -/
theorem refuses_entry_iff {entry : SeatId × Seat} (hentry : entry ∈ flight.cabin.seats.entries) :
    (validateSeatIds bookings flight flight.id [entry.1]).isSome = true ↔
      entry.2.status = .blocked ∨ entry.1 ∈ occupiedSeatIds bookings flight.id := by
  have hseat : flight.cabin.seats.get? entry.1 = some entry.2 := Dict.get?_eq_some_iff.mpr hentry
  rw [Option.isSome_iff_ne_none, ne_eq, validateSeatIds_eq_none_iff, List.forall_mem_singleton,
    mem_occupiedSeatIds]
  unfold ForSale
  rw [hseat]
  cases seatAlreadyBooked bookings flight.id entry.1 <;> simp

theorem refusedCount_eq (hsold : SeatsSold bookings flight) :
    refusedCount bookings flight =
      countStatus flight (fun status => decide (status = .blocked)) +
        (occupiedSeatIds bookings flight.id).dedup.length := by
  have hsub : occupiedSeatIds bookings flight.id ⊆ flight.cabin.seats.keys := by
    intro s hs
    obtain ⟨seat, hseat, -⟩ := hsold s hs
    by_contra hnone
    rw [Dict.get?_eq_none_iff.mpr hnone] at hseat
    cases hseat
  have hbooked := countP_mem_eq_length_dedup flight.cabin.seats.nodupKeys hsub
  have hsplit := countP_or_of_disjoint
    (p := fun entry : SeatId × Seat => decide (entry.2.status = .blocked))
    (q := fun entry : SeatId × Seat => decide (entry.1 ∈ occupiedSeatIds bookings flight.id))
    (l := flight.cabin.seats.entries) (by
      -- a blocked seat was never sold
      intro entry hentry hblocked
      rw [decide_eq_true_eq] at hblocked
      rw [decide_eq_false_iff_not]
      intro hs
      obtain ⟨seat, hseat, hnot⟩ := hsold entry.1 hs
      obtain rfl := Option.some.inj ((Dict.get?_eq_some_iff.mpr hentry).symm.trans hseat)
      exact hnot hblocked)
  rw [List.countP_map] at hbooked
  rw [← hbooked, countStatus, refusedCount, Dict.keys, List.countP_map]
  refine (List.countP_congr ?_).trans hsplit
  intro entry hentry
  simpa using refuses_entry_iff hentry

theorem countStatus_occupied_eq_zero_iff :
    countStatus flight (fun status => decide (status = .occupied)) = 0 ↔
      flight.cabin.NoneOccupied := by
  rw [countStatus, List.countP_eq_zero, Cabin.noneOccupied_iff]
  simp

/-- **The counts agree exactly if the cabin marks no seat OCCUPIED and no seat
is booked twice.** -/
theorem occupiedCount_eq_refusedCount_iff (hsold : SeatsSold bookings flight) :
    occupiedCount bookings flight = refusedCount bookings flight ↔
      flight.cabin.NoneOccupied ∧ (occupiedSeatIds bookings flight.id).Nodup := by
  have hle : (occupiedSeatIds bookings flight.id).dedup.length ≤
      (occupiedSeatIds bookings flight.id).length := (List.dedup_sublist _).length_le
  rw [occupiedCount_eq, refusedCount_eq hsold, ← countStatus_occupied_eq_zero_iff,
    ← length_dedup_eq_iff]
  omega

end Counts

/-! ## Runs -/

/-- A service call or a move of the clock: the stored flights stay as they are. -/
def Op.Serves : Op → Prop
  | .addFlight _ => False
  | .updateFlight _ _ => False
  | _ => True

/-- A commit on the flight names no seat twice. -/
def Op.NamesOnce (flightId : FlightId) : Op → Prop
  | .commit _ request => request.flightId = flightId → request.seatIds.Nodup
  | _ => True

theorem Op.Serves.flightRepo {op : Op} (h : op.Serves) (c : Container) :
    (step c op).2.flightRepo = c.flightRepo := by
  have hexit := step_exit c op
  generalize (step c op).1 = out at hexit
  generalize (step c op).2 = c' at hexit
  cases hexit with
  | commit h => exact h.frame.flightRepo
  | quote h => exact h.frame.flightRepo
  | acquire flightId seatIds sessionId => rfl
  | setClock instant => rfl
  | addFlight flight => exact h.elim
  | updateFlight flightId change flights => exact h.elim

theorem occupiedSeatIds_save {bookings : InMemoryBookingRepository} {b : Booking}
    (hnew : bookings.get? b.reference = none) (hconfirmed : b.status = .confirmed)
    (flightId : FlightId) :
    occupiedSeatIds (bookings.save b) flightId =
      occupiedSeatIds bookings flightId ++ if b.flightId = flightId then b.seatIds else [] := by
  have hvalues : (bookings.save b).iterAll = bookings.iterAll ++ [b] :=
    Dict.values_set_fresh hnew b
  unfold occupiedSeatIds
  rw [hvalues, List.foldl_append]
  by_cases hf : b.flightId = flightId <;> simp [hf, hconfirmed]

/-- What a run knows of the flight: it is stored, and what is booked on it are
seats of its cabin that are not blocked. -/
structure Seated (flight : Flight) (c : Container) : Prop extends Booked c where
  found : c.flightRepo.get? flight.id = some flight
  sold : SeatsSold c.bookingRepo flight

section Step

variable {flight : Flight} {c : Container} {env : Collaborators} {request : CommitRequest}
  {total : Money} {result : PaymentResult} {ref : String} {rest : List String}

theorem Seated.start (hempty : c.bookingRepo = Dict.empty) (hrefs : c.ids.bookingRefs.Nodup)
    (hf : c.flightRepo.get flight.id = some flight) : Seated flight c where
  toBooked := .start hempty hrefs
  found := hf
  sold := by
    intro s hs
    rw [hempty] at hs
    cases hs

/-- The seats of a sale on the flight are for sale there. -/
theorem Seated.forSale (h : Seated flight c) (hs : Sold env request c total result ref rest)
    (hon : request.flightId = flight.id) {s : SeatId} (hm : s ∈ request.seatIds) :
    ForSale c.bookingRepo flight flight.id s := by
  obtain ⟨flight', hp⟩ := refusal_eq_none_iff.mp hs.passed
  have hseat := hp.seats s hm
  rw [hon] at hseat
  have hfound := hp.exists_flight
  rw [hon, h.found] at hfound
  obtain rfl := Option.some.inj hfound
  exact hseat

/-- The booked seats after a sale. -/
theorem Seated.occupiedSeatIds_sale (h : Seated flight c)
    (hs : Sold env request c total result ref rest) :
    occupiedSeatIds (c.bookingRepo.save (bookingOf c request total ref)) flight.id =
      occupiedSeatIds c.bookingRepo flight.id ++
        if request.flightId = flight.id then request.seatIds else [] :=
  occupiedSeatIds_save (h.fresh hs) rfl flight.id

theorem Seated.preserved (h : Seated flight c) {op : Op} (hop : op.Serves) :
    Seated flight (step c op).2 := by
  refine ⟨h.toBooked.preserved op, ?_, ?_⟩
  · rw [hop.flightRepo]
    exact h.found
  · cases step_bookings c op with
    | kept hb hr =>
        rw [hb]
        exact h.sold
    | @saved env request total result ref rest _ hs hb hr =>
        intro s hm
        rw [hb, h.occupiedSeatIds_sale hs, List.mem_append] at hm
        rcases hm with hold | hnew
        · exact h.sold s hold
        · split at hnew
          · rename_i hon
            obtain ⟨seat, hseat, hnot, -⟩ := h.forSale hs hon hnew
            exact ⟨seat, hseat, hnot⟩
          · cases hnew

/-- Commits that name no seat twice leave no seat booked twice. -/
theorem Seated.nodup_preserved (h : Seated flight c)
    (hn : (occupiedSeatIds c.bookingRepo flight.id).Nodup) {op : Op}
    (honce : op.NamesOnce flight.id) :
    (occupiedSeatIds (step c op).2.bookingRepo flight.id).Nodup := by
  cases step_bookings c op with
  | kept hb hr =>
      rw [hb]
      exact hn
  | @saved env request total result ref rest _ hs hb hr =>
      rw [hb, h.occupiedSeatIds_sale hs]
      by_cases hon : request.flightId = flight.id
      · rw [if_pos hon, List.nodup_append']
        refine ⟨hn, honce hon, ?_⟩
        intro s hold hnew
        -- a seat that was booked before is not for sale
        obtain ⟨-, -, -, hfree⟩ := h.forSale hs hon hnew
        rw [mem_occupiedSeatIds.mp hold] at hfree
        cases hfree
      · rw [if_neg hon, List.append_nil]
        exact hn

theorem Seated.final (h : Seated flight c) {ops : List Op} (hops : ∀ op ∈ ops, op.Serves) :
    Seated flight (Run.final step c ops) :=
  Run.invariant (A := fun _ op => op.Serves) (fun _ _ h hop => h.preserved hop) h
    (.of_mem hops c)

theorem Seated.nodup_final (h : Seated flight c)
    (hn : (occupiedSeatIds c.bookingRepo flight.id).Nodup) {ops : List Op}
    (hops : ∀ op ∈ ops, op.Serves) (honce : ∀ op ∈ ops, op.NamesOnce flight.id) :
    (occupiedSeatIds (Run.final step c ops).bookingRepo flight.id).Nodup := by
  have hI := Run.invariant
    (I := fun c => Seated flight c ∧ (occupiedSeatIds c.bookingRepo flight.id).Nodup)
    (A := fun _ (op : Op) => op.Serves ∧ op.NamesOnce flight.id)
    (fun c op hI hA => ⟨hI.1.preserved hA.1, hI.1.nodup_preserved hI.2 hA.2⟩) ⟨h, hn⟩
    ((Run.Along.of_mem hops c).and (.of_mem honce c))
  exact hI.2

end Step

/-! ## The count that prices -/

section Price

variable {flight : Flight} {c : Container}

/-- Where the counts agree, the percentage is that of the refused seats. -/
theorem occupancyPct_of_counts (hcabin : flight.cabin.seatCount ≠ 0)
    (h : occupiedCount c.bookingRepo flight = refusedCount c.bookingRepo flight) :
    ∃ occ, occupancyPct c.bookingRepo flight = .ok occ ∧
      Denotes occ (rnd (100 * refusedCount c.bookingRepo flight / flight.cabin.seatCount)) ∧
      0 ≤ rnd (100 * refusedCount c.bookingRepo flight / flight.cabin.seatCount) ∧
      rnd (100 * refusedCount c.bookingRepo flight / flight.cabin.seatCount) ≤ 100 := by
  have hpos : 0 < flight.cabin.seatCount := Nat.pos_of_ne_zero hcabin
  have hle : refusedCount c.bookingRepo flight ≤ flight.cabin.seatCount := by
    refine List.countP_le_length.trans ?_
    rw [Dict.keys, List.length_map]
    exact le_refl _
  obtain ⟨occ, hocc⟩ := (percentage_ok_iff _ hpos).mpr (fits_percentage hle)
  refine ⟨occ, ?_, percentage_denotes hpos hocc, rnd_percentage_bounds hle⟩
  rw [occupancyPct_eq hcabin, h]
  exact hocc

/-- A commit refuses every seat that the cabin does not show as available. -/
theorem refuses_unavailable (hnone : flight.cabin.NoneOccupied) {seatId : SeatId} {seat : Seat}
    (hseat : flight.cabin.seats.get? seatId = some seat) (hstatus : seat.status ≠ .available) :
    validateSeatIds c.bookingRepo flight flight.id [seatId] ≠ none := by
  have hblocked : seat.status = .blocked := by
    cases hs : seat.status with
    | available => exact absurd hs hstatus
    | occupied => exact absurd hs (hnone seatId seat hseat)
    | blocked => rfl
  rw [ne_eq, validateSeatIds_eq_none_iff, List.forall_mem_singleton]
  intro hsale
  obtain ⟨seat', hseat', hnot, -⟩ := hsale
  obtain rfl := Option.some.inj (hseat.symm.trans hseat')
  exact hnot hblocked

/-- A sale on the flight raises both counts by the seats it takes. -/
theorem Seated.counts_sale (h : Seated flight c) (hnone : flight.cabin.NoneOccupied)
    (hn : (occupiedSeatIds c.bookingRepo flight.id).Nodup) {env : Collaborators}
    {request : CommitRequest} {b : Booking} (hon : request.flightId = flight.id)
    (honce : request.seatIds.Nodup)
    (hb : (step c (.commit env request)).1.booking? = some b) :
    occupiedCount (step c (.commit env request)).2.bookingRepo flight =
        occupiedCount c.bookingRepo flight + request.seatIds.length ∧
      refusedCount (step c (.commit env request)).2.bookingRepo flight =
        refusedCount c.bookingRepo flight + request.seatIds.length := by
  have hserves : (Op.commit env request).Serves := trivial
  have hafter := h.preserved hserves
  have hnames : (Op.commit env request).NamesOnce flight.id := fun _ => honce
  have hn' := h.nodup_preserved hn hnames
  have hcount := (occupiedCount_eq_refusedCount_iff h.sold).mpr ⟨hnone, hn⟩
  have hcount' := (occupiedCount_eq_refusedCount_iff hafter.sold).mpr ⟨hnone, hn'⟩
  have hraise : occupiedCount (step c (.commit env request)).2.bookingRepo flight =
      occupiedCount c.bookingRepo flight + request.seatIds.length := by
    obtain ⟨env', request', total, result, ref, rest, hop, hs, -, hc⟩ := step_sold hb
    obtain ⟨rfl, rfl⟩ := Op.commit.inj hop
    have hrepo : (step c (.commit env request)).2.bookingRepo =
        c.bookingRepo.save (bookingOf c request total ref) := by
      rw [hc]
      rfl
    rw [hrepo, occupiedCount_eq, occupiedCount_eq, h.occupiedSeatIds_sale hs, if_pos hon,
      List.length_append]
    omega
  refine ⟨hraise, ?_⟩
  rw [← hcount', ← hcount]
  exact hraise

end Price

/-- **Occupancy counts the seats that cannot be sold** exactly as long as the
cabin marks no seat OCCUPIED and no seat is booked twice. Over a run whose
commits name no seat twice that is so in every state, the percentage is that of
the refused seats, and a sale raises both counts by what it sells. -/
theorem occupancy_counts_refused_iff {c₀ : Container} (hempty : c₀.bookingRepo = Dict.empty)
    (hrefs : c₀.ids.bookingRefs.Nodup) {flight : Flight}
    (hf : c₀.flightRepo.get flight.id = some flight) (hcabin : flight.cabin.seatCount ≠ 0)
    {ops : List Op} (hops : ∀ op ∈ ops, op.Serves) :
    let c := Run.final step c₀ ops
    (occupiedCount c.bookingRepo flight = refusedCount c.bookingRepo flight ↔
      flight.cabin.NoneOccupied ∧ (occupiedSeatIds c.bookingRepo flight.id).Nodup) ∧
    (flight.cabin.NoneOccupied → (∀ op ∈ ops, op.NamesOnce flight.id) →
      occupiedCount c.bookingRepo flight = refusedCount c.bookingRepo flight ∧
      (∃ occ, occupancyPct c.bookingRepo flight = .ok occ ∧
        Denotes occ (rnd (100 * refusedCount c.bookingRepo flight / flight.cabin.seatCount)) ∧
        0 ≤ rnd (100 * refusedCount c.bookingRepo flight / flight.cabin.seatCount) ∧
        rnd (100 * refusedCount c.bookingRepo flight / flight.cabin.seatCount) ≤ 100) ∧
      (∀ seatId seat, flight.cabin.seats.get? seatId = some seat → seat.status ≠ .available →
        validateSeatIds c.bookingRepo flight flight.id [seatId] ≠ none) ∧
      ∀ env request b, request.flightId = flight.id → request.seatIds.Nodup →
        (step c (.commit env request)).1.booking? = some b →
        occupiedCount (step c (.commit env request)).2.bookingRepo flight =
            occupiedCount c.bookingRepo flight + request.seatIds.length ∧
          refusedCount (step c (.commit env request)).2.bookingRepo flight =
            refusedCount c.bookingRepo flight + request.seatIds.length) := by
  intro c
  have hstart : Seated flight c₀ := .start hempty hrefs hf
  have h : Seated flight c := hstart.final hops
  refine ⟨occupiedCount_eq_refusedCount_iff h.sold, ?_⟩
  intro hnone honce
  have hnil : (occupiedSeatIds c₀.bookingRepo flight.id).Nodup := by
    rw [hempty]
    exact List.nodup_nil
  have hn : (occupiedSeatIds c.bookingRepo flight.id).Nodup := hstart.nodup_final hnil hops honce
  have hcount := (occupiedCount_eq_refusedCount_iff h.sold).mpr ⟨hnone, hn⟩
  refine ⟨hcount, occupancyPct_of_counts hcabin hcount, ?_, ?_⟩
  · intro seatId seat hseat hstatus
    exact refuses_unavailable hnone hseat hstatus
  · intro env request b hon hdistinct hb
    exact h.counts_sale hnone hn hon hdistinct hb

/-- One of two seats sold: each count is one, and the price is that of half a cabin. -/
theorem occupancy_counts_refused_one_of_two :
    let flight := seededFlight "FL-LAX-NYC-0800" ["30F", "30G"]
    let c := Run.final step (seededContainer [flight])
      [.commit .wired (commitFor "FL-LAX-NYC-0800" ["30F"])]
    refusedCount c.bookingRepo flight = 1 ∧
      occupiedCount c.bookingRepo flight = refusedCount c.bookingRepo flight := by
  intro flight c
  let ops : List Op := [.commit .wired (commitFor "FL-LAX-NYC-0800" ["30F"])]
  have hempty : (seededContainer [flight]).bookingRepo = Dict.empty := rfl
  have hf : (seededContainer [flight]).flightRepo.get flight.id = some flight := rfl
  have hops : ∀ op ∈ ops, op.Serves := by simp [ops, Op.Serves]
  have honce : ∀ op ∈ ops, op.NamesOnce flight.id := by simp [ops, Op.NamesOnce, commitFor]
  obtain ⟨-, hagree⟩ := occupancy_counts_refused_iff hempty (by decide) hf (by decide) hops
  exact ⟨by decide, (hagree (by decide) honce).1⟩

/-- A cabin of two seats, 30F of which is marked OCCUPIED. -/
def halfOccupiedFlight : Flight :=
  { seededFlight "FL-LAX-NYC-0800" ["30G"] with
    cabin.seats := (seededFlight "FL-LAX-NYC-0800" ["30G"]).cabin.seats.set ⟨"30F"⟩
      { id := ⟨"30F"⟩, seatClass := .economy, kind := .standard, status := .occupied } }

/-- 30F is counted but not refused; sold all the same it counts twice, and so does
30G for a commit that names it twice: the cabin is 200 percent full. -/
theorem occupancy_counts_seats_twice :
    let c := seededContainer [halfOccupiedFlight]
    let c' := Run.final step c [.commit .wired (commitFor "FL-LAX-NYC-0800" ["30F"]),
      .commit .wired (commitFor "FL-LAX-NYC-0800" ["30G", "30G"])]
    occupiedCount c.bookingRepo halfOccupiedFlight = 1 ∧
      refusedCount c.bookingRepo halfOccupiedFlight = 0 ∧
      occupiedCount c'.bookingRepo halfOccupiedFlight = 4 ∧
      refusedCount c'.bookingRepo halfOccupiedFlight = 2 ∧
      occupancyPct c'.bookingRepo halfOccupiedFlight = .ok (Decimal.ofInt 200) := by
  decide

end FlightBooking
