import FlightBooking.Verification.NoDoubleBooking
import FlightBooking.Verification.QuoteWindow

/-!
# Authority — what a quote and a lock are good for

`commit` looks a quote up and lets it set the price; it looks a lock up and asks
whether it lives and whether it is another session's. Neither is compared with
the flight and the seats of the request. What follows says exactly when the
comparison would have made no difference.
-/

namespace FlightBooking

open Py BookingService QuoteService

/-! ## Quotes -/

/-- The quote is for this flight, these seats and this session. -/
def QuoteMatches (q : Quote) (request : CommitRequest) : Prop :=
  q.flightId = request.flightId ∧ (∀ s, s ∈ q.seatIds ↔ s ∈ request.seatIds) ∧
    request.sessionId = some q.sessionId

/-- A commit on a quote that gets past the gateway with a reference left is one
that the quote was made for; if it asks for no seats, the quote is unused. -/
def QuoteFits (c : Container) : Op → Prop
  | .commit env request =>
      (∃ total result ref rest, Sold env request c total result ref rest) →
        ∀ id q, request.quoteId = some id → c.quoteStore.get? id = some q →
          QuoteMatches q request ∧
            (request.seatIds = [] → ∀ k b, c.bookingRepo.get? k = some b → b.quoteId ≠ id)
  | _ => True

/-- What the bookings and the quotes know as long as every quote fits: a booking
on a quote has the flight and the seats of the quote, and is the only one. -/
structure QuoteBacked (c : Container) : Prop where
  booked : Booked c
  quoted : Quoted c
  confirmed : ∀ k b, c.bookingRepo.get? k = some b → b.status = .confirmed
  backed : ∀ k b, c.bookingRepo.get? k = some b → b.quoteId ≠ wsShortcutQuoteId →
    ∃ q, c.quoteStore.get? b.quoteId = some q ∧ q.flightId = b.flightId ∧
      ∀ s, s ∈ q.seatIds ↔ s ∈ b.seatIds
  once : ∀ k k' b b', c.bookingRepo.get? k = some b → c.bookingRepo.get? k' = some b' →
    b.quoteId = b'.quoteId → b.quoteId ≠ wsShortcutQuoteId → k = k'

theorem QuoteBacked.start {c : Container} (hbookings : c.bookingRepo = Dict.empty)
    (hrefs : c.ids.bookingRefs.Nodup) (hquotes : c.quoteStore = Dict.empty)
    (hids : c.ids.quoteIds.Nodup) : QuoteBacked c where
  booked := .start hbookings hrefs
  quoted := .start hquotes hids
  confirmed := by simp [hbookings]
  backed := by simp [hbookings]
  once := by simp [hbookings]

/-- The quote of a fitting commit backs no booking yet. -/
theorem QuoteBacked.unused {c : Container} (hI : QuoteBacked c) {env : Collaborators}
    {request : CommitRequest} {total : Money} {result : PaymentResult} {ref : String}
    {rest : List String} (hs : Sold env request c total result ref rest)
    (hfit : QuoteFits c (.commit env request)) {id : QuoteId}
    (hid : request.quoteId = some id) (hreal : id ≠ wsShortcutQuoteId) {k : BookingReference}
    {b : Booking} (hb : c.bookingRepo.get? k = some b) : b.quoteId ≠ id := by
  intro he
  obtain ⟨q, hq, -, -⟩ := hs.quote hid
  obtain ⟨⟨hflight, hseats, -⟩, hempty⟩ := hfit ⟨_, _, _, _, hs⟩ id q hid hq
  obtain ⟨q', hq', hflight', hseats'⟩ := hI.backed k b hb (he ▸ hreal)
  rw [he, hq] at hq'
  cases hq'
  -- a seat of the request is a seat of the quote, so of the booking, so it is taken
  cases hrequest : request.seatIds with
  | nil => exact hempty hrequest k b hb he
  | cons s rest =>
      have hs' : s ∈ request.seatIds := by simp [hrequest]
      have hheld := hI.booked.recorded k b hb (request.flightId, s)
        (holds_iff.mpr ⟨hflight'.symm.trans hflight, hI.confirmed k b hb,
          (hseats' s).mp ((hseats s).mpr hs')⟩)
      rw [hs.free hs'] at hheld
      cases hheld

theorem QuoteBacked.preserved {c : Container} (hI : QuoteBacked c) {op : Op}
    (hfit : QuoteFits c op) : QuoteBacked (step c op).2 := by
  have hbooked := hI.booked.preserved op
  have hquoted := hI.quoted.preserved op
  have hold : ∀ k b, c.bookingRepo.get? k = some b → b.quoteId ≠ wsShortcutQuoteId →
      ∃ q, (step c op).2.quoteStore.get? b.quoteId = some q ∧ q.flightId = b.flightId ∧
        ∀ s, s ∈ q.seatIds ↔ s ∈ b.seatIds := by
    intro k b hk hreal
    obtain ⟨q, hq, hrest⟩ := hI.backed k b hk hreal
    exact ⟨q, hI.quoted.get_step op hq, hrest⟩
  cases step_bookings c op with
  | kept hb hr =>
      exact ⟨hbooked, hquoted, hb ▸ hI.confirmed, hb ▸ hold, hb ▸ hI.once⟩
  | @saved env request total result ref rest _ hs hb hr =>
      have hnew : (bookingOf c request total ref).quoteId ≠ wsShortcutQuoteId →
          request.quoteId = some (bookingOf c request total ref).quoteId := by
        intro hreal
        have hq : (bookingOf c request total ref).quoteId =
            request.quoteId.getD wsShortcutQuoteId := hs.bookedQuoteId hI.quoted
        cases hid : request.quoteId with
        | none =>
            rw [hid] at hq
            exact absurd hq hreal
        | some id =>
            rw [hid] at hq
            rw [hq]
            rfl
      refine ⟨hbooked, hquoted, ?_, ?_, ?_⟩
      · intro k b hk
        rw [hb] at hk
        rcases Dict.get?_set_eq_some_iff.mp hk with ⟨-, rfl⟩ | ⟨-, hk⟩
        · rfl
        · exact hI.confirmed k b hk
      · intro k b hk hreal
        rw [hb] at hk
        rcases Dict.get?_set_eq_some_iff.mp hk with ⟨-, rfl⟩ | ⟨-, hk⟩
        · have hid := hnew hreal
          obtain ⟨q, hq, -, -⟩ := hs.quote hid
          obtain ⟨⟨hflight, hseats, -⟩, -⟩ := hfit ⟨_, _, _, _, hs⟩ _ q hid hq
          exact ⟨q, hI.quoted.get_step _ hq, hflight, hseats⟩
        · exact hold k b hk hreal
      · intro k k' b b' hk hk' hsame hreal
        rw [hb] at hk hk'
        -- the new booking, or an old one, on either side
        rcases Dict.get?_set_eq_some_iff.mp hk with ⟨he, rfl⟩ | ⟨-, hk⟩ <;>
          rcases Dict.get?_set_eq_some_iff.mp hk' with ⟨he', rfl⟩ | ⟨-, hk'⟩
        · exact he.symm.trans he'
        · exact absurd hsame.symm (hI.unused hs hfit (hnew hreal) hreal hk')
        · rw [hsame] at hreal
          exact absurd hsame (hI.unused hs hfit (hnew hreal) hreal hk)
        · exact hI.once k k' b b' hk hk' hsame hreal

/-- **A quote pays for what it quoted, if it is asked to.** In every state of
every run: a commit on a quote either fails or matches the quote exactly if it
matches the quote or lacks something else that a commit needs. And in a run on
an empty container with fresh ids whose commits on quotes all fit, a quote backs
at most one booking. -/
theorem quote_pays_for_what_it_quoted (c : Container) (ops : List Op) :
    (∀ env request id, request.quoteId = some id →
      let now := Run.final step c ops
      ((∃ b, (step now (.commit env request)).1.booking? = some b) →
        ∃ q, now.quoteStore.get? id = some q ∧ QuoteMatches q request) ↔
      (Completes env request now →
        ∀ q, now.quoteStore.get? id = some q → QuoteMatches q request)) ∧
    (c.bookingRepo = Dict.empty → c.ids.bookingRefs.Nodup → c.quoteStore = Dict.empty →
      c.ids.quoteIds.Nodup → Run.Along step QuoteFits c ops →
      ∀ k k' b b', (Run.final step c ops).bookingRepo.get? k = some b →
        (Run.final step c ops).bookingRepo.get? k' = some b' →
        b.quoteId = b'.quoteId → b.quoteId ≠ wsShortcutQuoteId → k = k') := by
  constructor
  · intro env request id hid now
    rw [commit_succeeds_iff]
    constructor
    · intro h hdone q hq
      obtain ⟨q', hq', hmatch⟩ := h hdone
      rw [hq] at hq'
      cases hq'
      exact hmatch
    · intro h hdone
      obtain ⟨flight, hp⟩ := hdone.passes
      obtain ⟨q, hq, -⟩ := hp.quote id hid
      exact ⟨q, hq, h hdone q hq⟩
  · intro hbookings hrefs hquotes hids hfits
    have hI := Run.invariant (fun _ _ h hfit => h.preserved hfit)
      (QuoteBacked.start hbookings hrefs hquotes hids) hfits
    exact hI.once

/-- The seat that was quoted is committed once, by the session of the quote. -/
theorem quote_pays_for_what_it_quoted_once :
    let ops : List Op := [
      .quote .wired { flightId := ⟨"FL-LAX-NYC-0800"⟩, seatIds := [⟨"30F"⟩], passengers := 1 },
      .commit .wired { commitFor "FL-LAX-NYC-0800" ["30F"] with
        quoteId := some ⟨"Q001"⟩, sessionId := some ⟨"S001"⟩ }]
    let c := Run.final step (seededContainer [seededFlight "FL-LAX-NYC-0800" ["30F", "30G"]]) ops
    ∀ k k' b b', c.bookingRepo.get? k = some b → c.bookingRepo.get? k' = some b' →
      b.quoteId = b'.quoteId → b.quoteId ≠ wsShortcutQuoteId → k = k' := by
  intro ops c
  refine (quote_pays_for_what_it_quoted _ ops).2 rfl (by decide) rfl (by decide)
    ⟨trivial, ?_, trivial⟩
  intro _ id q hid hq
  cases hid
  cases hq
  exact ⟨⟨rfl, fun s => Iff.rfl, rfl⟩, by simp [commitFor]⟩

/-- Two seats on one quote, and both bookings are stored. The second commit asks
for a seat that was not quoted. -/
theorem quote_backs_two_bookings :
    let request (seat : String) : CommitRequest :=
      { commitFor "FL-LAX-NYC-0800" [seat] with
        quoteId := some ⟨"Q001"⟩, sessionId := some ⟨"S001"⟩ }
    let c := Run.final step (seededContainer [seededFlight "FL-LAX-NYC-0800" ["30F", "30G"]]) [
      .quote .wired { flightId := ⟨"FL-LAX-NYC-0800"⟩, seatIds := [⟨"30F"⟩], passengers := 1 },
      .commit .wired (request "30F")]
    let after := step c (.commit .wired (request "30G"))
    after.1.booking?.isSome = true ∧
      (¬ ∃ q, c.quoteStore.get? ⟨"Q001"⟩ = some q ∧ QuoteMatches q (request "30G")) ∧
      after.2.bookingRepo.values.map Booking.quoteId = [⟨"Q001"⟩, ⟨"Q001"⟩] := by
  refine ⟨by decide, ?_, by decide⟩
  intro hquote
  obtain ⟨q, hq, -, hseats, -⟩ := hquote
  have hquoted : q.seatIds = [⟨"30F"⟩] := by
    cases hq
    rfl
  have h30G : (⟨"30G"⟩ : SeatId) ∈ q.seatIds := (hseats ⟨"30G"⟩).mpr (by decide)
  rw [hquoted] at h30G
  exact absurd h30G (by decide)

/-! ## Locks -/

/-- The lock lives, and is for this flight, for all of these seats, and of the
session that the request names. -/
def LockAuthorises (r : LockRecord) (request : CommitRequest) (now : DateTime) : Prop :=
  now < r.expiresAt ∧ r.flightId = request.flightId ∧
    (∀ s ∈ request.seatIds, s ∈ r.seatIds) ∧ request.sessionId = some r.sessionId

/-- **A lock authorises the booking, if it is of the flight and the seats and
the request names a session.** In every state: a commit with a lock either fails
or has the authority of the lock exactly if it lacks something else that a
commit needs, or the lock's flight and seats cover the request and a session is
named. -/
theorem lock_authorises_booking (c : Container) (env : Collaborators) {request : CommitRequest}
    {lockId : String} (hlock : request.lockId = some lockId) :
    ((∃ b, (step c (.commit env request)).1.booking? = some b) →
      ∃ r, c.seatLockStore.get lockId = some r ∧ LockAuthorises r request c.clock) ↔
    (Completes env request c →
      request.sessionId ≠ none ∧ ∀ r, c.seatLockStore.get lockId = some r →
        r.flightId = request.flightId ∧ ∀ s ∈ request.seatIds, s ∈ r.seatIds) := by
  rw [commit_succeeds_iff]
  constructor
  · intro h hdone
    obtain ⟨r, hr, -, hflight, hseats, hsession⟩ := h hdone
    refine ⟨by simp [hsession], ?_⟩
    intro r' hr'
    rw [hr] at hr'
    cases hr'
    exact ⟨hflight, hseats⟩
  · intro h hdone
    obtain ⟨flight, hp⟩ := hdone.passes
    obtain ⟨r, hr, hlive, howner⟩ := hp.lock lockId hlock
    obtain ⟨hnamed, hcover⟩ := h hdone
    obtain ⟨session, hsession⟩ := Option.ne_none_iff_exists'.mp hnamed
    obtain ⟨hflight, hseats⟩ := hcover r hr
    exact ⟨r, hr, hlive, hflight, hseats, by rw [hsession, howner session hsession]⟩

/-- The lock of 30F, and a commit of 30F by its session. -/
theorem lock_authorises_booking_own :
    let c := (step (seededContainer [seededFlight "FL-LAX-NYC-0800" ["30F", "30G"]])
      (.acquire ⟨"FL-LAX-NYC-0800"⟩ [⟨"30F"⟩] ⟨"S1"⟩)).2
    let request : CommitRequest := { commitFor "FL-LAX-NYC-0800" ["30F"] with
      lockId := some "L001", sessionId := some ⟨"S1"⟩ }
    (∃ b, (step c (.commit .wired request)).1.booking? = some b) →
      ∃ r, c.seatLockStore.get "L001" = some r ∧ LockAuthorises r request c.clock := by
  intro c request
  refine (lock_authorises_booking c .wired rfl).mpr ?_
  intro _
  refine ⟨by decide, ?_⟩
  intro r hr
  cases hr
  exact ⟨rfl, by decide⟩

/-- Nobody in particular commits 30G under the lock that S1 holds on 30F. -/
theorem foreign_lock_authorises_nothing :
    let c := (step (seededContainer [seededFlight "FL-LAX-NYC-0800" ["30F", "30G"]])
      (.acquire ⟨"FL-LAX-NYC-0800"⟩ [⟨"30F"⟩] ⟨"S1"⟩)).2
    let request : CommitRequest := { commitFor "FL-LAX-NYC-0800" ["30G"] with
      lockId := some "L001" }
    (step c (.commit .wired request)).1.booking?.isSome = true ∧
      ¬ ∃ r, c.seatLockStore.get "L001" = some r ∧ LockAuthorises r request c.clock := by
  refine ⟨by decide, ?_⟩
  intro hlock
  obtain ⟨r, -, -, -, -, hsession⟩ := hlock
  cases hsession

end FlightBooking
