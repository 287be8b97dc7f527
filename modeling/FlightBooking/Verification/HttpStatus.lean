import FlightBooking.Composition.HttpMachine
import FlightBooking.Verification.NoDoubleBooking
import FlightBooking.Verification.SeatLockSpec

/-!
# HttpStatus — the statuses of `POST /bookings`

The checks of a commit as a list, in their order: the first that fails gives the status.
A request that fails one changes nothing. `402` is the one answer to a request that
passes them all and is not booked.
-/

namespace FlightBooking

open Py BookingService

/-! ## The checks -/

/-- A check, and the status if it fails. -/
abbrev Check := Bool × Nat

/-- The status of the first check that fails. -/
def firstFailing (checks : List Check) : Option Nat :=
  (checks.find? fun check => !check.1).map Prod.snd

@[simp] theorem firstFailing_nil : firstFailing [] = none := rfl

@[simp] theorem firstFailing_cons (ok : Bool) (status : Nat) (checks : List Check) :
    firstFailing ((ok, status) :: checks) = if ok then firstFailing checks else some status := by
  cases ok <;> rfl

theorem firstFailing_append (checks checks' : List Check) :
    firstFailing (checks ++ checks') = (firstFailing checks).or (firstFailing checks') := by
  simp [firstFailing, List.find?_append, Option.map_or]

/-- The quote is known, and in its window. -/
def quoteChecks (c : Container) (request : CommitRequest) : List Check :=
  let quote := request.quoteId.bind c.quoteStore.get?
  [(request.quoteId.isNone || quote.isSome, 404),
    (quote.all fun quote => decide (c.clock < quote.expiresAt), 410)]

/-- The seat is in the cabin, for sale, and nobody's. -/
def seatChecks (c : Container) (flight : Flight) (flightId : FlightId) (seatId : SeatId) :
    List Check :=
  let seat := flight.cabin.seats.get? seatId
  [(seat.isSome, 400),
    (seat.all fun seat => decide (seat.status ≠ .blocked), 409),
    ((holder c.bookingRepo (flightId, seatId)).isNone, 409)]

/-- The lock is known, not expired, and the session's. -/
def lockChecks (c : Container) (request : CommitRequest) : List Check :=
  let lock := request.lockId.bind c.seatLockStore.byLock.get?
  [(request.lockId.isNone || lock.isSome, 404),
    (lock.all fun record => decide (c.clock < record.expiresAt), 410),
    (lock.all fun record => request.sessionId.all fun session =>
      decide (record.sessionId = session), 403)]

/-- The checks of a commit for one seat. -/
def bookingChecks (c : Container) (request : CommitRequest) (seatId : SeatId) : List Check :=
  match c.flightRepo.get? request.flightId with
  | none => [(false, 400)]
  | some flight =>
      quoteChecks c request ++ seatChecks c flight request.flightId seatId ++ lockChecks c request

/-- The status of a refusal. -/
def CommitResult.status (result : CommitResult) : Nat := errorStatusFor result.errorCode

section Refusal

variable (c : Container) (request : CommitRequest)

theorem resolveQuote_status :
    (resolveQuote c.quoteStore request.quoteId c.clock).error.map CommitResult.status =
      firstFailing (quoteChecks c request) := by
  cases hid : request.quoteId with
  | none => simp [resolveQuote, quoteChecks, hid]
  | some id =>
      cases hq : c.quoteStore.get? id with
      | none =>
          simp [resolveQuote, quoteChecks, hid, hq, InMemoryQuoteStore.getValid,
            InMemoryQuoteStore.get, CommitResult.status, CommitResult.refuse, errorStatusFor,
            commitErrorHttpStatus]
      | some quote =>
          by_cases hlive : c.clock < quote.expiresAt
          · have hnot : ¬ quote.expiresAt ≤ c.clock := DateTime.not_le.mpr hlive
            simp [resolveQuote, quoteChecks, hid, hq, InMemoryQuoteStore.getValid, hnot, hlive]
          · have hle : quote.expiresAt ≤ c.clock := DateTime.not_lt.mp hlive
            simp [resolveQuote, quoteChecks, hid, hq, InMemoryQuoteStore.getValid, hle, hlive,
              InMemoryQuoteStore.get, CommitResult.status, CommitResult.refuse, errorStatusFor,
              commitErrorHttpStatus]

theorem validateSeats_status (flight : Flight) {seatId : SeatId}
    (hseats : request.seatIds = [seatId]) :
    (validateSeats c.bookingRepo flight request).map CommitResult.status =
      firstFailing (seatChecks c flight request.flightId seatId) := by
  unfold validateSeats validateSeatIds seatChecks
  rw [hseats]
  cases hseat : flight.cabin.seats.get? seatId with
  | none =>
      simp [hseat, CommitResult.status, CommitResult.refuse, errorStatusFor, commitErrorHttpStatus]
  | some seat =>
      by_cases hblocked : seat.status = .blocked
      · simp [hseat, hblocked, CommitResult.status, CommitResult.refuse, errorStatusFor,
          commitErrorHttpStatus]
      · cases hbooked : seatAlreadyBooked c.bookingRepo request.flightId seatId with
        | false =>
            have hfree := seatAlreadyBooked_eq_false_iff.mp hbooked
            simp [hseat, hblocked, hbooked, hfree, validateSeatIds]
        | true =>
            have hheld : holder c.bookingRepo (request.flightId, seatId) ≠ none := by
              intro hfree
              rw [seatAlreadyBooked_eq_false_iff.mpr hfree] at hbooked
              cases hbooked
            simp [hseat, hblocked, hbooked, hheld, CommitResult.status, CommitResult.refuse,
              errorStatusFor, commitErrorHttpStatus]

theorem validateLock_status :
    (validateLock c.seatLockStore request c.clock).map CommitResult.status =
      firstFailing (lockChecks c request) := by
  unfold validateLock checkLockSessionOwnership lockChecks InMemorySeatLockStore.isValid
    InMemorySeatLockStore.get
  cases hid : request.lockId with
  | none => simp
  | some lockId =>
      cases hlock : c.seatLockStore.byLock.get? lockId with
      | none =>
          simp [hlock, CommitResult.status, CommitResult.refuse, errorStatusFor,
            commitErrorHttpStatus]
      | some record =>
          by_cases hlive : c.clock < record.expiresAt
          · cases hsession : request.sessionId with
            | none => simp [hlock, hlive]
            | some session =>
                by_cases hown : record.sessionId = session
                · simp [hlock, hlive, hown]
                · simp [hlock, hlive, hown, CommitResult.status, CommitResult.refuse,
                    errorStatusFor, commitErrorHttpStatus]
          · simp [hlock, hlive, CommitResult.status, CommitResult.refuse, errorStatusFor,
              commitErrorHttpStatus]

/-- **The refusal of a commit is that of the first check that fails.** -/
theorem refusal_status {seatId : SeatId} (hseats : request.seatIds = [seatId]) :
    (refusal c request).map CommitResult.status =
      firstFailing (bookingChecks c request seatId) := by
  unfold refusal bookingChecks InMemoryFlightRepository.get
  cases c.flightRepo.get? request.flightId with
  | none => rfl
  | some flight =>
      simp only [Option.map_or, firstFailing_append, resolveQuote_status,
        validateSeats_status c request flight hseats, validateLock_status, Option.or_assoc]

end Refusal

/-! ## The response -/

/-- How a request that passes every check is answered, if it is. -/
inductive SettlesWith (env : Collaborators) (request : CommitRequest) (c : Container) :
    Response → Container → Prop
  /-- The gateway declines: the attempt is recorded, nothing else. -/
  | declined {total : Money} {result : PaymentResult} (h : Charged env request c total result)
      (hno : result.succeeded = false) :
      SettlesWith env request c (.exception 402 (some "payment declined by gateway"))
        { afterCharge c request total false with
          audit := c.audit ++ [declinedEvent c request result] }
  | booked {total : Money} {result : PaymentResult} {ref : String} {rest : List String}
      (h : Sold env request c total result ref rest) :
      SettlesWith env request c ⟨201, .booking (serializeBooking (bookingOf c request total ref))⟩
        (afterCommit c request total ref rest)

/-- The body of `POST /bookings` names one seat. -/
theorem request_seat {payload : BookingPayload} {request : CommitRequest}
    (h : payload.request = .ok request) :
    ∃ seatId name, request.seatIds = [seatId] ∧ request.passengers = [{ fullName := name }] := by
  unfold BookingPayload.request at h
  cases hflight : payload.flightId <;> simp [hflight, BookingPayload.required, bind,
    Except.bind] at h
  cases hseat : payload.seatId <;> simp [hseat] at h
  cases hpassenger : payload.passenger <;> simp [hpassenger] at h
  next seatId passenger =>
    cases passenger <;> simp at h
    cases htoken : payload.paymentToken <;> simp [htoken, pure, Except.pure] at h
    next name token =>
      rw [← h]
      exact ⟨⟨seatId⟩, name, rfl, rfl⟩

/-- **What a status of `POST /bookings` says.** A body of texts that lacks a field is a `422` that
names the first one. A complete one is answered with the status of the first check that it
fails, and the container stays as it is; if it passes them all and is answered, that is
`402`, with the attempt in the log, or `201`, with the booking in the repository. -/
theorem booking_status (env : Collaborators) (c : Container) (payload : BookingPayload) :
    let out := (HttpApp.handle env (.postBooking payload)).run c
    match payload.request with
    | .error field => out = (.ok (.exception 422 (some ("missing field: " ++ field))), c)
    | .ok request =>
        ∃ seatId, request.seatIds = [seatId] ∧
          match firstFailing (bookingChecks c request seatId) with
          | some status => ∃ detail, out = (.ok (.exception status (some detail)), c)
          | none => ∀ response, out.1 = .ok response → SettlesWith env request c response out.2 := by
  intro out
  cases hreq : payload.request with
  | error field =>
      show (HttpApp.handle env (.postBooking payload)).run c = _
      simp only [HttpApp.handle, HttpApp.postBooking, hreq]
      rfl
  | ok request =>
      obtain ⟨seatId, -, hseats, -⟩ := request_seat hreq
      refine ⟨seatId, hseats, ?_⟩
      have hout : out = (((commit env request).run c).1.map commitResponse,
          ((commit env request).run c).2) := HttpApp.run_postBooking env hreq c
      rw [← refusal_status c request hseats]
      cases href : refusal c request with
      | some r =>
          obtain ⟨code, -, message, rfl⟩ := refusal_refuses c request r href
          refine ⟨message, ?_⟩
          rw [hout, commit_refused env href]
          rfl
      | none =>
          intro response hresponse
          have hexit := commit_exit env request c
          rw [hout] at hresponse ⊢
          generalize ((commit env request).run c).1 = result at hexit hresponse
          generalize ((commit env request).run c).2 = c' at hexit
          cases hexit with
          | refused h =>
              rw [href] at h
              cases h
          | declined h hno hlog =>
              cases hresponse
              exact .declined h hno
          | committed h hyes hnext hgen hsave hqueue hrel hlog =>
              cases hresponse
              exact .booked ⟨h, hyes, hnext⟩
          | _ => cases hresponse

/-! ## The limits of a request, in the stores -/

/-- No record is larger than a request may be. -/
structure WithinLimits (c : Container) : Prop where
  quotes : ∀ id q, c.quoteStore.get? id = some q →
    (1 ≤ q.seatIds.length ∧ q.seatIds.length ≤ maxSeatsPerQuote) ∧
      minPassengers ≤ q.passengers ∧ q.passengers ≤ maxPassengers
  locks : ∀ id r, c.seatLockStore.byLock.get? id = some r →
    (1 ≤ r.seatIds.length ∧ r.seatIds.length ≤ maxSeatsPerQuote) ∧ r.sessionId.value ≠ ""
  bookings : ∀ k b, c.bookingRepo.get? k = some b →
    b.seatIds.length = 1 ∧ b.passengers.length = 1

theorem WithinLimits.start {c : Container} (hquotes : c.quoteStore = Dict.empty)
    (hlocks : c.seatLockStore.byLock = Dict.empty) (hbookings : c.bookingRepo = Dict.empty) :
    WithinLimits c where
  quotes := by simp [hquotes]
  locks := by simp [hlocks]
  bookings := by simp [hbookings]

/-- The call is no larger than a request may be. -/
def Op.Limited : Op → Prop
  | .quote _ request =>
      (1 ≤ request.seatIds.length ∧ request.seatIds.length ≤ maxSeatsPerQuote) ∧
        minPassengers ≤ request.passengers ∧ request.passengers ≤ maxPassengers
  | .acquire _ seatIds sessionId =>
      (1 ≤ seatIds.length ∧ seatIds.length ≤ maxSeatsPerQuote) ∧ sessionId.value ≠ ""
  | .commit _ request => request.seatIds.length = 1 ∧ request.passengers.length = 1
  | _ => True

/-- A request that reaches a service is within the limits. -/
theorem HttpOp.limited {op : HttpOp} {call : Op} (h : op.op = some call) : call.Limited := by
  cases op with
  | setClock instant =>
      cases h
      trivial
  | addFlight flight =>
      cases h
      trivial
  | updateFlight flightId change =>
      cases h
      trivial
  | serve env request =>
      cases request with
      | searchFlights query => cases h
      | getSeats flightId sessionId => cases h
      | getBooking reference => cases h
      | postQuote payload =>
          simp only [HttpOp.op, HttpOp.call] at h
          cases hbody : payload.validate with
          | error fields =>
              rw [hbody] at h
              cases h
          | ok body =>
              rw [hbody] at h
              cases h
              refine ⟨?_, body.passengers_range⟩
              simpa [QuoteRequestBody.request] using body.seatIds_length
      | postSeatLock payload =>
          simp only [HttpOp.op, HttpOp.call] at h
          cases hbody : payload.validate with
          | error fields =>
              rw [hbody] at h
              cases h
          | ok body =>
              rw [hbody] at h
              cases h
              refine ⟨?_, body.sessionId_nonempty⟩
              simpa using body.seatIds_length
      | postBooking payload =>
          simp only [HttpOp.op, HttpOp.call] at h
          cases hreq : payload.request with
          | error key =>
              rw [hreq] at h
              cases h
          | ok request =>
              rw [hreq] at h
              cases h
              obtain ⟨seatId, name, hseats, hpassengers⟩ := request_seat hreq
              simp [Op.Limited, hseats, hpassengers]

theorem WithinLimits.step {c : Container} (h : WithinLimits c) {op : Op} (hop : op.Limited) :
    WithinLimits (step c op).2 where
  quotes id q hq := by
    cases step_quotes c op with
    | kept hkept hi =>
        rw [hkept] at hq
        exact h.quotes id q hq
    | saved ha hid hsaved hi =>
        rw [hsaved] at hq
        rcases Dict.get?_set_eq_some_iff.mp hq with ⟨-, rfl⟩ | ⟨-, hold⟩
        · exact hop
        · exact h.quotes id q hold
  locks id r hr := by
    cases step_locks c op with
    | kept hkept =>
        rw [hkept] at hr
        exact h.locks id r hr
    | @acquired flightId seatIds sessionId _ hstore =>
        rw [hstore] at hr
        rcases c.seatLockStore.acquire_granted_or_kept flightId seatIds sessionId c.clock with
          ⟨ids, -, hsame⟩ | ⟨lockId, hgranted⟩
        · rw [hsame] at hr
          exact h.locks id r hr
        · rw [hgranted.byLock] at hr
          split at hr
          · cases hr
            exact hop
          · exact h.locks id r hr
    | released hs hl hstore =>
        rw [hstore, InMemorySeatLockStore.get?_byLock_release] at hr
        split at hr
        · cases hr
        · exact h.locks id r hr
  bookings k b hk := by
    cases step_bookings c op with
    | kept hb hrefs =>
        rw [hb] at hk
        exact h.bookings k b hk
    | saved hs hb hrefs =>
        rw [hb] at hk
        rcases Dict.get?_set_eq_some_iff.mp hk with ⟨-, rfl⟩ | ⟨-, hold⟩
        · exact hop
        · exact h.bookings k b hold

/-- **What is in the stores has been let in.** Over any run of requests from empty stores,
every quote is for one to nine seats and as many passengers, every lock for one to nine
seats and a session, and every booking for one seat and one passenger. -/
theorem stores_within_limits {c : Container} (hquotes : c.quoteStore = Dict.empty)
    (hlocks : c.seatLockStore.byLock = Dict.empty) (hbookings : c.bookingRepo = Dict.empty)
    (ops : List HttpOp) : WithinLimits (Run.final httpStep c ops) := by
  refine Run.invariant_all ?_ (.start hquotes hlocks hbookings) ops
  intro c op h
  rw [httpStep_refines c op]
  cases hop : op.op with
  | none => exact h
  | some call => exact h.step (HttpOp.limited hop)

/-- Ten seats are refused, nine are quoted. -/
theorem stores_within_limits_nine_seats :
    let seats := ["1A", "1B", "1C", "1D", "1E", "1F", "1G", "1H", "1J"]
    let quote := fun seats => HttpOp.serve .wired (.postQuote {
      flightId := some "FL-LAX-NYC-0800"
      seatIds := some seats
      passengers := some 9 })
    let c := seededContainer [seededFlight "FL-LAX-NYC-0800" seats]
    (Run.trace httpStep c [quote ("1K" :: seats), quote seats]).map HttpEvent.status? =
        [some 400, some 200] ∧
      WithinLimits (Run.final httpStep c [quote ("1K" :: seats), quote seats]) :=
  ⟨by decide +kernel, stores_within_limits rfl rfl rfl _⟩

end FlightBooking
