import FlightBooking.Verification.CheckSpec
import FlightBooking.Verification.QuoteSpec

/-!
# StepSpec — one step of the container, field by field

`StepExit` says what a step is; the exits of `commit` and `quote` are then cut
down to what one part of the container sees of it: its bookings, its quotes, its
locks, the clock. An invariant over runs is a case analysis over one of these,
not over seventeen exits.
-/

namespace FlightBooking

open Py BookingService QuoteService

/-! ## Acquire -/

/-- The `SeatHoldResult` of an outcome. -/
def SeatHoldService.resultOf : AcquireOutcome → SeatHoldResult
  | .lock lock =>
      { success := true, lockId := some lock.lockId, expiresAt := some lock.expiresAt }
  | .conflict conflictingSeats => { success := false, conflicts := conflictingSeats }

theorem acquire_run (flightId : FlightId) (seatIds : List SeatId) (sessionId : SessionId)
    (c : Container) :
    (SeatHoldService.acquire flightId seatIds sessionId).run c =
      ((c.seatLockStore.acquire flightId seatIds sessionId c.clock).1.map
          SeatHoldService.resultOf,
        { c with seatLockStore :=
            (c.seatLockStore.acquire flightId seatIds sessionId c.clock).2 }) := by
  unfold SeatHoldService.acquire
  rw [Eff.run_get_bind]
  cases h : c.seatLockStore.acquire flightId seatIds sessionId c.clock with
  | mk outcome store =>
      cases outcome with
      | error e => simp [Eff.run_bind, Except.map]
      | ok outcome =>
          cases outcome <;> simp [Eff.run_bind, Except.map, SeatHoldService.resultOf]

/-! ## What a step is -/

/-- A step is an exit of a service, or a change of the clock or of the flights. -/
inductive StepExit (c : Container) : Op → Output → Container → Prop
  | commit {env : Collaborators} {request : CommitRequest} {out : Except Exn CommitResult}
      {c' : Container} (h : CommitExit env request c out c') :
      StepExit c (.commit env request) (.commit out) c'
  | quote {env : Collaborators} {request : QuoteRequest} {out : Except Exn Quote}
      {c' : Container} (h : QuoteExit env request c out c') :
      StepExit c (.quote env request) (.quote out) c'
  | acquire (flightId : FlightId) (seatIds : List SeatId) (sessionId : SessionId) :
      StepExit c (.acquire flightId seatIds sessionId)
        (.acquire ((c.seatLockStore.acquire flightId seatIds sessionId c.clock).1.map
          SeatHoldService.resultOf))
        { c with seatLockStore :=
            (c.seatLockStore.acquire flightId seatIds sessionId c.clock).2 }
  | setClock (instant : DateTime) :
      StepExit c (.setClock instant) .done { c with clock := instant }
  | addFlight (flight : Flight) :
      StepExit c (.addFlight flight) .done { c with flightRepo := c.flightRepo.add flight }
  | updateFlight (flightId : FlightId) (change : Flight → Flight)
      (flights : InMemoryFlightRepository) :
      StepExit c (.updateFlight flightId change) .done { c with flightRepo := flights }

@[simp] theorem step_acquire (flightId : FlightId) (seatIds : List SeatId)
    (sessionId : SessionId) (c : Container) :
    step c (.acquire flightId seatIds sessionId) =
      (.acquire ((c.seatLockStore.acquire flightId seatIds sessionId c.clock).1.map
          SeatHoldService.resultOf),
        { c with seatLockStore :=
            (c.seatLockStore.acquire flightId seatIds sessionId c.clock).2 }) := by
  simp [step, acquire_run]

theorem step_exit (c : Container) (op : Op) : StepExit c op (step c op).1 (step c op).2 := by
  cases op with
  | commit env request => exact .commit (commit_exit env request c)
  | quote env request => exact .quote (quote_exit env request c)
  | acquire flightId seatIds sessionId =>
      rw [step_acquire]
      exact .acquire flightId seatIds sessionId
  | setClock instant => exact .setClock instant
  | addFlight flight => exact .addFlight flight
  | updateFlight flightId change =>
      -- an unknown flight is not updated
      simp only [step]
      split
      · exact .updateFlight flightId change c.flightRepo
      · exact .updateFlight flightId change _

/-! ## A commit that returns a booking -/

/-- The booking that came out, if one did. -/
def Output.booking? : Output → Option Booking
  | .commit (.ok result) => result.booking
  | _ => none

/-- The commit succeeds: what it charges, what the gateway answers and the
reference it draws. -/
structure Sold (env : Collaborators) (request : CommitRequest) (c : Container) (total : Money)
    (result : PaymentResult) (ref : String) (rest : List String) : Prop
    extends Charged env request c total result where
  accepted : result.succeeded = true
  reference : c.ids.bookingRefs = ref :: rest

theorem BookingService.CommitExit.sold {env : Collaborators} {request : CommitRequest}
    {c c' : Container} {out : Except Exn CommitResult} (h : CommitExit env request c out c')
    {b : Booking} (hb : (Output.commit out).booking? = some b) :
    ∃ total result ref rest, Sold env request c total result ref rest ∧
      b = bookingOf c request total ref ∧ c' = afterCommit c request total ref rest := by
  cases h with
  | refused h => simp [Output.booking?, refusal_booking h] at hb
  | declined h hno hlog => cases hb
  | @committed total result ref rest h hyes href hgen hsave hqueue hrel hlog =>
      cases hb
      exact ⟨total, result, ref, rest, ⟨h, hyes, href⟩, rfl, rfl⟩
  | _ => cases hb

theorem StepExit.sold {c c' : Container} {op : Op} {out : Output} (h : StepExit c op out c')
    {b : Booking} (hb : out.booking? = some b) :
    ∃ env request total result ref rest, op = .commit env request ∧
      Sold env request c total result ref rest ∧ b = bookingOf c request total ref ∧
      c' = afterCommit c request total ref rest := by
  cases h with
  | @commit env request out c' h =>
      obtain ⟨total, result, ref, rest, hs, hbook, hc⟩ := h.sold hb
      exact ⟨env, request, total, result, ref, rest, rfl, hs, hbook, hc⟩
  | _ => cases hb

/-- A booking comes out of a commit, and only of one. -/
theorem step_sold {c : Container} {op : Op} {b : Booking}
    (h : (step c op).1.booking? = some b) :
    ∃ env request total result ref rest, op = .commit env request ∧
      Sold env request c total result ref rest ∧ b = bookingOf c request total ref ∧
      (step c op).2 = afterCommit c request total ref rest :=
  (step_exit c op).sold h

/-- Everything that a commit needs to return a booking: the checks pass, the
amount is known and paid, a reference is left, and no later call raises. -/
structure Completes (env : Collaborators) (request : CommitRequest) (c : Container) : Prop where
  passes : ∃ flight, Passes c request flight
  paid : ∃ total result, amountDue c request = .ok total ∧
    env.charge request.paymentToken total = .ok result ∧ result.succeeded = true
  reference : c.ids.bookingRefs ≠ []
  generates : env.fault .newBookingReference = none
  saves : env.fault .saveBooking = none
  queues : env.fault .queueConfirmation = none
  releases : request.lockId = none ∨ env.fault .releaseLock = none
  logs : env.fault .writeAudit = none

/-- What is charged is determined by the request and the container. -/
theorem Completes.charged {env : Collaborators} {request : CommitRequest}
    {c : Container} (h : Completes env request c) {total : Money} {result : PaymentResult}
    (hc : Charged env request c total result) : result.succeeded = true := by
  obtain ⟨total', result', hdue, hans, hyes⟩ := h.paid
  have ht : total' = total := Except.ok.inj (hdue.symm.trans hc.due)
  subst ht
  have hr : result' = result := Except.ok.inj (hans.symm.trans hc.answer)
  exact hr ▸ hyes

theorem BookingService.CommitExit.completes_iff {env : Collaborators} {request : CommitRequest}
    {c c' : Container} {out : Except Exn CommitResult} (h : CommitExit env request c out c') :
    (∃ b, (Output.commit out).booking? = some b) ↔ Completes env request c := by
  constructor
  · intro hbooking
    obtain ⟨b, hb⟩ := hbooking
    cases h with
    | refused h => simp [Output.booking?, refusal_booking h] at hb
    | declined h hno hlog => cases hb
    | @committed total result ref rest h hyes href hgen hsave hqueue hrel hlog =>
        exact ⟨refusal_eq_none_iff.mp h.passed, ⟨total, result, h.due, h.answer, hyes⟩,
          by simp [href], hgen, hsave, hqueue, hrel, hlog⟩
    | _ => cases hb
  · intro hd
    have hpassed := refusal_eq_none_iff.mpr hd.passes
    obtain ⟨total', result', hdue', hans', -⟩ := hd.paid
    -- every exit but the last is taken for want of something that is there
    cases h with
    | refused h => rw [hpassed] at h; cases h
    | noTotal h hdue => rw [hdue'] at hdue; cases hdue
    | noAnswer h hdue hans =>
        rw [hdue'] at hdue
        cases hdue
        rw [hans'] at hans
        cases hans
    | declined h hno hlog => rw [hd.charged h] at hno; cases hno
    | declinedUnlogged h hno hlog => rw [hd.charged h] at hno; cases hno
    | noReference h hyes href =>
        rcases href with hgen | ⟨-, hnil, -⟩
        · rw [hd.generates] at hgen; cases hgen
        · exact absurd hnil hd.reference
    | notSaved h hyes href hgen hsave => rw [hd.saves] at hsave; cases hsave
    | notQueued h hyes href hgen hsave hqueue => rw [hd.queues] at hqueue; cases hqueue
    | notReleased h hyes href hgen hsave hqueue hlock hrel =>
        rcases hd.releases with hnone | hok
        · exact absurd hnone hlock
        · rw [hok] at hrel; cases hrel
    | notLogged h hyes href hgen hsave hqueue hrel hlog => rw [hd.logs] at hlog; cases hlog
    | committed h hyes href hgen hsave hqueue hrel hlog => exact ⟨_, rfl⟩

/-- **A commit succeeds exactly if it completes.** -/
theorem commit_succeeds_iff {env : Collaborators} {request : CommitRequest} {c : Container} :
    (∃ b, (step c (.commit env request)).1.booking? = some b) ↔ Completes env request c :=
  (commit_exit env request c).completes_iff

/-! ## The parts of the container over a step -/

/-- The bookings and the references still to be drawn. -/
inductive BookingsAfter (c : Container) : Op → Container → Prop
  /-- No booking is saved; a reference may have been drawn. -/
  | kept {op : Op} {c' : Container} (hb : c'.bookingRepo = c.bookingRepo)
      (hr : c'.ids.bookingRefs <:+ c.ids.bookingRefs) : BookingsAfter c op c'
  | saved {env : Collaborators} {request : CommitRequest} {total : Money}
      {result : PaymentResult} {ref : String} {rest : List String} {c' : Container}
      (h : Sold env request c total result ref rest)
      (hb : c'.bookingRepo = c.bookingRepo.save (bookingOf c request total ref))
      (hr : c'.ids.bookingRefs = rest) : BookingsAfter c (.commit env request) c'

theorem BookingService.CommitExit.bookings {env : Collaborators} {request : CommitRequest}
    {c c' : Container} {out : Except Exn CommitResult} (h : CommitExit env request c out c') :
    BookingsAfter c (.commit env request) c' := by
  cases h with
  | notSaved h hyes href hgen hsave =>
      exact .kept rfl ⟨[_], by rw [href]; rfl⟩
  | notQueued h hyes href => exact .saved ⟨h, hyes, href⟩ rfl rfl
  | notReleased h hyes href => exact .saved ⟨h, hyes, href⟩ rfl rfl
  | notLogged h hyes href => exact .saved ⟨h, hyes, href⟩ rfl rfl
  | committed h hyes href => exact .saved ⟨h, hyes, href⟩ rfl rfl
  | _ => exact .kept rfl (List.suffix_refl _)

/-- A quote leaves everything but the quotes, their ids and the log alone. -/
structure QuoteFrame (c c' : Container) : Prop where
  flightRepo : c'.flightRepo = c.flightRepo
  bookingRepo : c'.bookingRepo = c.bookingRepo
  seatLockStore : c'.seatLockStore = c.seatLockStore
  bookingRefs : c'.ids.bookingRefs = c.ids.bookingRefs
  clock : c'.clock = c.clock
  queued : c'.queued = c.queued
  charges : c'.charges = c.charges

theorem QuoteService.QuoteExit.frame {env : Collaborators} {request : QuoteRequest}
    {c c' : Container} {out : Except Exn Quote} (h : QuoteExit env request c out c') :
    QuoteFrame c c' := by
  cases h <;> exact ⟨rfl, rfl, rfl, rfl, rfl, rfl, rfl⟩

/-- A commit leaves the flights, the quotes, their ids and the clock alone. -/
structure CommitFrame (c c' : Container) : Prop where
  flightRepo : c'.flightRepo = c.flightRepo
  quoteStore : c'.quoteStore = c.quoteStore
  quoteIds : c'.ids.quoteIds = c.ids.quoteIds
  sessionIds : c'.ids.sessionIds = c.ids.sessionIds
  clock : c'.clock = c.clock

theorem BookingService.CommitExit.frame {env : Collaborators} {request : CommitRequest}
    {c c' : Container} {out : Except Exn CommitResult} (h : CommitExit env request c out c') :
    CommitFrame c c' := by
  cases h <;> exact ⟨rfl, rfl, rfl, rfl, rfl⟩

theorem StepExit.bookings {c c' : Container} {op : Op} {out : Output}
    (h : StepExit c op out c') : BookingsAfter c op c' := by
  cases h with
  | commit h => exact h.bookings
  | quote h => exact .kept h.frame.bookingRepo (h.frame.bookingRefs ▸ List.suffix_refl _)
  | _ => exact .kept rfl (List.suffix_refl _)

theorem step_bookings (c : Container) (op : Op) : BookingsAfter c op (step c op).2 :=
  (step_exit c op).bookings

/-- The quotes and the ids still to be drawn. -/
inductive QuotesAfter (c : Container) : Op → Container → Prop
  | kept {op : Op} {c' : Container} (hq : c'.quoteStore = c.quoteStore)
      (hi : c'.ids.quoteIds <:+ c.ids.quoteIds) : QuotesAfter c op c'
  | saved {env : Collaborators} {request : QuoteRequest} {a : Appraisal} {session : SessionId}
      {id : String} {rest : List String} {c' : Container} (ha : appraise c request = .ok a)
      (hid : c.ids.quoteIds = id :: rest)
      (hq : c'.quoteStore = c.quoteStore.save (quoteOf c request a session id))
      (hi : c'.ids.quoteIds = rest) : QuotesAfter c (.quote env request) c'

theorem QuoteService.QuoteExit.quotes {env : Collaborators} {request : QuoteRequest}
    {c c' : Container} {out : Except Exn Quote} (h : QuoteExit env request c out c') :
    QuotesAfter c (.quote env request) c' := by
  cases h with
  | rejected h => exact .kept rfl List.suffix_rfl
  | noSession h hs => exact .kept rfl List.suffix_rfl
  | noQuoteId h hs hid => exact .kept rfl List.suffix_rfl
  | overflowed h hs hid hrange => exact .kept rfl (hid ▸ List.suffix_cons _ _)
  | unrendered h hs hid hrange hev => exact .saved h hid rfl rfl
  | unlogged h hs hid hrange hev hlog => exact .saved h hid rfl rfl
  | created h hs hid hrange hev hlog => exact .saved h hid rfl rfl

theorem StepExit.quotes {c c' : Container} {op : Op} {out : Output}
    (h : StepExit c op out c') : QuotesAfter c op c' := by
  cases h with
  | commit h => exact .kept h.frame.quoteStore (h.frame.quoteIds ▸ List.suffix_rfl)
  | quote h => exact h.quotes
  | _ => exact .kept rfl List.suffix_rfl

theorem step_quotes (c : Container) (op : Op) : QuotesAfter c op (step c op).2 :=
  (step_exit c op).quotes

/-- The input does not turn the clock back. -/
def Forward (c : Container) : Op → Prop
  | .setClock instant => c.clock ≤ instant
  | _ => True

instance (c : Container) (op : Op) : Decidable (Forward c op) := by
  cases op <;> unfold Forward <;> infer_instance

theorem StepExit.clock_le {c c' : Container} {op : Op} {out : Output}
    (h : StepExit c op out c') (hforward : Forward c op) : c.clock ≤ c'.clock := by
  cases h with
  | commit h => exact le_of_eq h.frame.clock.symm
  | quote h => exact le_of_eq h.frame.clock.symm
  | setClock instant => exact hforward
  | _ => exact le_refl _

theorem Forward.le {c : Container} {op : Op} (h : Forward c op) :
    c.clock ≤ (step c op).2.clock := (step_exit c op).clock_le h

/-- The lock store. -/
inductive LocksAfter (c : Container) : Op → Container → Prop
  | kept {op : Op} {c' : Container} (h : c'.seatLockStore = c.seatLockStore) :
      LocksAfter c op c'
  | acquired {flightId : FlightId} {seatIds : List SeatId} {sessionId : SessionId}
      {c' : Container}
      (h : c'.seatLockStore =
        (c.seatLockStore.acquire flightId seatIds sessionId c.clock).2) :
      LocksAfter c (.acquire flightId seatIds sessionId) c'
  | released {env : Collaborators} {request : CommitRequest} {total : Money}
      {result : PaymentResult} {ref : String} {rest : List String} {lockId : String}
      {c' : Container} (hs : Sold env request c total result ref rest)
      (hl : request.lockId = some lockId)
      (h : c'.seatLockStore = c.seatLockStore.release lockId) :
      LocksAfter c (.commit env request) c'

theorem releasedLocks_some {c : Container} {request : CommitRequest} {lockId : String}
    (h : request.lockId = some lockId) :
    releasedLocks c request = c.seatLockStore.release lockId := by
  simp [releasedLocks, h]

theorem releasedLocks_none {c : Container} {request : CommitRequest}
    (h : request.lockId = none) : releasedLocks c request = c.seatLockStore := by
  simp [releasedLocks, h]

/-- From the release on, the lock store is `releasedLocks`. -/
theorem LocksAfter.of_releasedLocks {env : Collaborators} {request : CommitRequest}
    {c c' : Container} {total : Money} {result : PaymentResult} {ref : String}
    {rest : List String} (hs : Sold env request c total result ref rest)
    (h : c'.seatLockStore = releasedLocks c request) : LocksAfter c (.commit env request) c' := by
  cases hl : request.lockId with
  | none => exact .kept (h.trans (releasedLocks_none hl))
  | some lockId => exact .released hs hl (h.trans (releasedLocks_some hl))

theorem BookingService.CommitExit.locks {env : Collaborators} {request : CommitRequest}
    {c c' : Container} {out : Except Exn CommitResult} (h : CommitExit env request c out c') :
    LocksAfter c (.commit env request) c' := by
  cases h with
  | notLogged h hyes href => exact .of_releasedLocks ⟨h, hyes, href⟩ rfl
  | committed h hyes href => exact .of_releasedLocks ⟨h, hyes, href⟩ rfl
  | _ => exact .kept rfl

theorem StepExit.locks {c c' : Container} {op : Op} {out : Output}
    (h : StepExit c op out c') : LocksAfter c op c' := by
  cases h with
  | commit h => exact h.locks
  | quote h => exact .kept h.frame.seatLockStore
  | acquire flightId seatIds sessionId => exact .acquired rfl
  | _ => exact .kept rfl

theorem step_locks (c : Container) (op : Op) : LocksAfter c op (step c op).2 :=
  (step_exit c op).locks

/-- The calls the gateway has answered. -/
inductive ChargesAfter (c : Container) : Op → Container → Prop
  | kept {op : Op} {c' : Container} (h : c'.charges = c.charges) : ChargesAfter c op c'
  | charged {env : Collaborators} {request : CommitRequest} {total : Money} {ok : Bool}
      {c' : Container} (hdue : amountDue c request = .ok total)
      (h : c'.charges = c.charges ++ [⟨request.paymentToken, total, ok⟩]) :
      ChargesAfter c (.commit env request) c'

theorem BookingService.CommitExit.charges {env : Collaborators} {request : CommitRequest}
    {c c' : Container} {out : Except Exn CommitResult} (h : CommitExit env request c out c') :
    ChargesAfter c (.commit env request) c' := by
  cases h with
  | declined h hno hlog => exact .charged h.due rfl
  | declinedUnlogged h hno hlog => exact .charged h.due rfl
  | noReference h hyes href => exact .charged h.due rfl
  | notSaved h => exact .charged h.due rfl
  | notQueued h => exact .charged h.due rfl
  | notReleased h => exact .charged h.due rfl
  | notLogged h => exact .charged h.due rfl
  | committed h => exact .charged h.due rfl
  | _ => exact .kept rfl

theorem StepExit.charges {c c' : Container} {op : Op} {out : Output}
    (h : StepExit c op out c') : ChargesAfter c op c' := by
  cases h with
  | commit h => exact h.charges
  | quote h => exact .kept h.frame.charges
  | _ => exact .kept rfl

theorem step_charges (c : Container) (op : Op) : ChargesAfter c op (step c op).2 :=
  (step_exit c op).charges

end FlightBooking
