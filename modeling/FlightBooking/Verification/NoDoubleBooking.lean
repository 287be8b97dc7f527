import FlightBooking.Lib.Ledger
import FlightBooking.Verification.StepSpec

/-!
# NoDoubleBooking — a seat of a flight is sold once

The stored bookings are read as a ledger of `(flight, seat)`: the item belongs
to the first confirmed booking that names it. `seatAlreadyBooked` asks exactly
that ledger, so a step of the container is a step of the ledger, and a sale
there is final.
-/

namespace FlightBooking

open Py BookingService

/-- The booking is confirmed and names the seat on the flight. -/
def Booking.holds (b : Booking) (item : FlightId × SeatId) : Bool :=
  decide (b.flightId = item.1 ∧ b.status = .confirmed ∧ item.2 ∈ b.seatIds)

/-- The ledger of the bookings: who has `(flight, seat)`. -/
def holder (bookings : InMemoryBookingRepository) (item : FlightId × SeatId) :
    Option BookingReference :=
  (bookings.values.find? (fun b => b.holds item)).map Booking.reference

theorem holds_iff {b : Booking} {item : FlightId × SeatId} :
    b.holds item = true ↔
      b.flightId = item.1 ∧ b.status = .confirmed ∧ item.2 ∈ b.seatIds := by
  simp [Booking.holds]

/-- `_seat_already_booked` reads the ledger. -/
theorem seatAlreadyBooked_eq_false_iff {bookings : InMemoryBookingRepository}
    {flightId : FlightId} {seatId : SeatId} :
    seatAlreadyBooked bookings flightId seatId = false ↔
      holder bookings (flightId, seatId) = none := by
  simp only [seatAlreadyBooked, holder, InMemoryBookingRepository.iterAll, List.any_eq_false,
    Option.map_eq_none_iff, List.find?_eq_none, holds_iff]
  apply forall₂_congr
  intro b hb
  by_cases hf : b.flightId = flightId <;> by_cases hs : b.status = .confirmed <;> simp [hf, hs]

/-- Saving a booking under a new reference, on free items, is a sale. -/
theorem holder_save {bookings : InMemoryBookingRepository} {b : Booking}
    (hnew : bookings.get? b.reference = none)
    (hfree : ∀ item, b.holds item = true → holder bookings item = none) :
    holder (bookings.save b) =
      Ledger.sell (holder bookings) {item | b.holds item = true} b.reference := by
  funext item
  have hv : (bookings.save b).values = bookings.values ++ [b] := Dict.values_set_fresh hnew b
  simp only [holder, hv, List.find?_append, Ledger.sell, Set.mem_ofPred_eq]
  by_cases hb : b.holds item = true
  · have hnone : bookings.values.find? (fun b => b.holds item) = none := by
      simpa [holder] using hfree item hb
    simp [hb, hnone]
  · simp [hb]

/-! ## The invariant -/

/-- What the bookings know at every moment of a run. -/
structure Booked (c : Container) : Prop where
  /-- Every booking is in the ledger under its own key. -/
  recorded : ∀ k b, c.bookingRepo.get? k = some b → ∀ item, b.holds item = true →
    holder c.bookingRepo item = some k
  keyed : ∀ k b, c.bookingRepo.get? k = some b → b.reference = k
  refsNodup : c.ids.bookingRefs.Nodup
  refsFresh : ∀ ref ∈ c.ids.bookingRefs, c.bookingRepo.get? ⟨ref⟩ = none

theorem Booked.start {c : Container} (hempty : c.bookingRepo = Dict.empty)
    (hrefs : c.ids.bookingRefs.Nodup) : Booked c where
  recorded := by simp [hempty]
  keyed := by simp [hempty]
  refsNodup := hrefs
  refsFresh := by simp [hempty]

section Step

variable {c : Container} {env : Collaborators} {request : CommitRequest} {total : Money}
  {result : PaymentResult} {ref : String} {rest : List String}

/-- The next reference names no stored booking. -/
theorem Booked.fresh (hI : Booked c) (hs : Sold env request c total result ref rest) :
    c.bookingRepo.get? (bookingOf c request total ref).reference = none :=
  hI.refsFresh ref (by simp [hs.reference])

/-- A request is sold only items that nobody has. -/
theorem Sold.free (hs : Sold env request c total result ref rest) {seatId : SeatId}
    (hm : seatId ∈ request.seatIds) : holder c.bookingRepo (request.flightId, seatId) = none := by
  obtain ⟨flight, hp⟩ := refusal_eq_none_iff.mp hs.passed
  obtain ⟨seat, -, -, hbooked⟩ := hp.seats seatId hm
  exact seatAlreadyBooked_eq_false_iff.mp hbooked

theorem holds_bookingOf {item : FlightId × SeatId} :
    (bookingOf c request total ref).holds item = true ↔
      request.flightId = item.1 ∧ item.2 ∈ request.seatIds := by
  simp [holds_iff, bookingOf]

theorem Booked.holder_save (hI : Booked c) (hs : Sold env request c total result ref rest) :
    holder (c.bookingRepo.save (bookingOf c request total ref)) =
      Ledger.sell (holder c.bookingRepo)
        {item | (bookingOf c request total ref).holds item = true} ⟨ref⟩ := by
  refine FlightBooking.holder_save (hI.fresh hs) ?_
  intro ⟨flightId, seatId⟩ hitem
  obtain ⟨rfl, hm⟩ := holds_bookingOf.mp hitem
  exact hs.free hm

/-- **A step of the container is a step of the ledger.** -/
theorem Booked.ledger_step (hI : Booked c) (op : Op) :
    Ledger.Step (holder c.bookingRepo) (holder (step c op).2.bookingRepo) := by
  cases step_bookings c op with
  | kept hb hr =>
      rw [hb]
      exact .skip
  | saved hs hb hr =>
      rw [hb, hI.holder_save hs]
      refine .sale _ _ ?_
      intro ⟨flightId, seatId⟩ hitem
      obtain ⟨rfl, hm⟩ := holds_bookingOf.mp hitem
      exact hs.free hm

/-- A stored booking stays as it is. -/
theorem Booked.get_step (hI : Booked c) (op : Op) {k : BookingReference} {b : Booking}
    (hk : c.bookingRepo.get? k = some b) : (step c op).2.bookingRepo.get? k = some b := by
  cases step_bookings c op with
  | kept hb hr =>
      rw [hb]
      exact hk
  | @saved env request total result ref rest _ hs hb hr =>
      have hne : (bookingOf c request total ref).reference ≠ k := by
        intro he
        rw [← he, hI.fresh hs] at hk
        cases hk
      rw [hb, InMemoryBookingRepository.save, Dict.get?_set_ne _ _ hne]
      exact hk

theorem Booked.preserved (hI : Booked c) (op : Op) : Booked (step c op).2 := by
  have hext := (hI.ledger_step op).extends
  cases step_bookings c op with
  | kept hb hr =>
      refine ⟨?_, ?_, hr.sublist.nodup hI.refsNodup, ?_⟩
      · rw [hb]
        exact hI.recorded
      · rw [hb]
        exact hI.keyed
      · intro ref hm
        rw [hb]
        exact hI.refsFresh ref (hr.subset hm)
  | @saved env request total result ref rest _ hs hb hr =>
      -- the reference drawn is not among those left
      have hcons := hI.refsNodup
      rw [hs.reference, List.nodup_cons] at hcons
      refine ⟨?_, ?_, hr ▸ hcons.2, ?_⟩
      · intro k b hk item hitem
        rw [hb] at hk
        rcases Dict.get?_set_eq_some_iff.mp hk with ⟨rfl, rfl⟩ | ⟨-, hold⟩
        · rw [hb, hI.holder_save hs]
          exact Ledger.sell_of_mem hitem
        · exact hext item k (hI.recorded k b hold item hitem)
      · intro k b hk
        rw [hb] at hk
        rcases Dict.get?_set_eq_some_iff.mp hk with ⟨rfl, rfl⟩ | ⟨-, hold⟩
        · rfl
        · exact hI.keyed k b hold
      · intro ref' hm
        rw [hr] at hm
        have hne : ref ≠ ref' := fun he => hcons.1 (he ▸ hm)
        have hold := hI.refsFresh ref' (by simp [hs.reference, hm])
        rw [hb, InMemoryBookingRepository.save, Dict.get?_set_ne _ _ ?_]
        · exact hold
        · intro he
          exact hne (congrArg BookingReference.value he)

end Step

/-! ## Runs -/

theorem Booked.final {c : Container} (hI : Booked c) (ops : List Op) :
    Booked (Run.final step c ops) :=
  Run.invariant_all (fun _ op h => h.preserved op) hI ops

/-- Whatever is stored at some moment of a run is stored ever after. -/
theorem Booked.get_run {c : Container} (hI : Booked c) (ops : List Op) {k : BookingReference}
    {b : Booking} (hk : c.bookingRepo.get? k = some b) :
    (Run.final step c ops).bookingRepo.get? k = some b := by
  refine Run.relates (A := fun _ _ => True) (I := Booked)
    (R := fun c c' => ∀ k b, c.bookingRepo.get? k = some b → c'.bookingRepo.get? k = some b)
    (fun _ _ _ h => h) (fun _ _ _ h h' k b hk => h' k b (h k b hk))
    (fun _ op h _ => h.preserved op) (fun _ op h _ _ _ hk => h.get_step op hk) hI
    (Run.Along.of_forall (fun _ _ => trivial) c ops) k b hk

/-- No two stored confirmed bookings share a seat of a flight. -/
def SeatsDisjoint (bookings : InMemoryBookingRepository) : Prop :=
  ∀ k k' b b', bookings.get? k = some b → bookings.get? k' = some b' → k ≠ k' →
    b.status = .confirmed → b'.status = .confirmed → b.flightId = b'.flightId →
    ∀ s ∈ b.seatIds, s ∉ b'.seatIds

/-- Two bookings of one item have one key: the ledger has one entry for it. -/
theorem Booked.seatsDisjoint {c : Container} (hI : Booked c) : SeatsDisjoint c.bookingRepo := by
  intro k k' b b' hk hk' hne hc hc' hf s hm hm'
  have h := hI.recorded k b hk (b.flightId, s) (holds_iff.mpr ⟨rfl, hc, hm⟩)
  have h' := hI.recorded k' b' hk' (b.flightId, s) (holds_iff.mpr ⟨hf.symm, hc', hm'⟩)
  exact hne (Option.some.inj (h.symm.trans h'))

/-- The input is a commit that asks for the item. -/
def Op.asksFor (item : FlightId × SeatId) : Op → Bool
  | .commit _ request => decide (request.flightId = item.1 ∧ item.2 ∈ request.seatIds)
  | _ => false

/-- The event is a commit that asked for the item and succeeded. -/
def Event.sells (item : FlightId × SeatId) (e : Event) : Bool :=
  e.input.asksFor item && e.output.booking?.isSome

theorem Event.sells_step {c : Container} {op : Op} {item : FlightId × SeatId}
    (h : Event.sells item (Run.Event.of step c op) = true) :
    ∃ env request total result ref rest, op = .commit env request ∧
      Sold env request c total result ref rest ∧
      (step c op).2 = afterCommit c request total ref rest ∧
      request.flightId = item.1 ∧ item.2 ∈ request.seatIds := by
  obtain ⟨hask, hsome⟩ := Bool.and_eq_true_iff.mp h
  obtain ⟨b, hb⟩ := Option.isSome_iff_exists.mp hsome
  obtain ⟨env, request, total, result, ref, rest, rfl, hs, -, hc⟩ := step_sold hb
  have hitem : request.flightId = item.1 ∧ item.2 ∈ request.seatIds := by
    simpa [Op.asksFor, Run.Event.of] using hask
  exact ⟨env, request, total, result, ref, rest, rfl, hs, hc, hitem⟩

/-- Of two commits of an item in a run, one at most succeeds. -/
theorem Booked.sells_pairwise {c : Container} (hI : Booked c) (item : FlightId × SeatId)
    (ops : List Op) :
    (Run.trace step c ops).Pairwise
      (fun e e' => Event.sells item e = true → Event.sells item e' = false) := by
  refine Run.pairwise (A := fun _ _ => True) (I := Booked)
    (K := fun e c => Event.sells item e = true → holder c.bookingRepo item ≠ none)
    (fun _ op h _ => h.preserved op) ?_ ?_ ?_ hI (Run.Along.of_forall (fun _ _ => trivial) c ops)
  · -- the sale itself puts the item into the ledger
    intro c op hI _ hsell
    obtain ⟨env, request, total, result, ref, rest, rfl, hs, hc, hf, hm⟩ :=
      Event.sells_step hsell
    have hrepo : (step c (.commit env request)).2.bookingRepo =
        c.bookingRepo.save (bookingOf c request total ref) := by
      rw [hc]
      rfl
    have hsold := Ledger.sell_of_mem (l := holder c.bookingRepo) (r := (⟨ref⟩ : BookingReference))
      (show item ∈ {item | (bookingOf c request total ref).holds item = true} from
        holds_bookingOf.mpr ⟨hf, hm⟩)
    rw [hrepo, hI.holder_save hs, hsold]
    exact Option.some_ne_none _
  · -- and there it stays
    intro e c op hI _ hk hsell
    obtain ⟨r, hr⟩ := Option.ne_none_iff_exists'.mp (hk hsell)
    rw [(hI.ledger_step op).extends item r hr]
    exact Option.some_ne_none _
  · intro e c op hI _ hk hsell
    by_contra hagain
    obtain ⟨env, request, total, result, ref, rest, rfl, hs, -, hf, hm⟩ :=
      Event.sells_step (Bool.not_eq_false _ ▸ hagain)
    have hfree := hs.free hm
    rw [hf] at hfree
    exact hk hsell hfree

theorem length_filter_le_one {α : Type*} {p : α → Bool} {l : List α}
    (h : l.Pairwise (fun a b => p a = true → p b = false)) : (l.filter p).length ≤ 1 := by
  induction l with
  | nil => simp
  | cons a l ih =>
      rw [List.pairwise_cons] at h
      cases hp : p a with
      | false =>
          rw [List.filter_cons_of_neg (by simp [hp])]
          exact ih h.2
      | true =>
          have hnil : l.filter p = [] := by
            rw [List.filter_eq_nil_iff]
            intro b hb
            simp [h.1 b hb hp]
          rw [List.filter_cons_of_pos hp, hnil]
          simp

/-- **No double booking.** From a container without bookings whose references
do not repeat, over any run: the confirmed bookings are seat-disjoint, what is
stored stays stored as it is, and of the commits that ask for one seat of one
flight at most one succeeds. -/
theorem no_double_booking {c : Container} (hempty : c.bookingRepo = Dict.empty)
    (hrefs : c.ids.bookingRefs.Nodup) (ops : List Op) :
    SeatsDisjoint (Run.final step c ops).bookingRepo ∧
    (∀ before after, ops = before ++ after → ∀ k b,
      (Run.final step c before).bookingRepo.get? k = some b →
      (Run.final step c ops).bookingRepo.get? k = some b) ∧
    ∀ item, ((Run.trace step c ops).filter (Event.sells item)).length ≤ 1 := by
  have hI : Booked c := .start hempty hrefs
  refine ⟨(hI.final ops).seatsDisjoint, ?_, ?_⟩
  · intro before after hsplit k b hk
    rw [hsplit, Run.final_append]
    exact (hI.final before).get_run after hk
  · intro item
    exact length_filter_le_one (hI.sells_pairwise item ops)

/-- Two commits of seat 30F: the first one takes it, the second one is refused. -/
theorem no_double_booking_race :
    let ops : List Op := [.commit .wired (commitFor "FL-LAX-NYC-0800" ["30F"]),
      .commit .wired (commitFor "FL-LAX-NYC-0800" ["30F"])]
    let c := seededContainer [seededFlight "FL-LAX-NYC-0800" ["30F"]]
    let sales := (Run.trace step c ops).filter
      (Event.sells (⟨"FL-LAX-NYC-0800"⟩, ⟨"30F"⟩))
    sales ≠ [] ∧ sales.length ≤ 1 :=
  ⟨by decide, (no_double_booking rfl (by decide) _).2.2 _⟩

end FlightBooking
