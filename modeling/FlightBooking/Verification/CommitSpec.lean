import FlightBooking.Composition.Machine

/-!
# CommitSpec — the exits of `commit`

`commit` is read once, here. `refusal` is what its checks say, `amountDue` what
it is about to charge, and `CommitExit` lists every way out with the container
it leaves behind: four before the charge has succeeded, five by an exception
after it, and success. Everything later is a case analysis over the exits.
-/

namespace FlightBooking

open Py

namespace BookingService

/-- The first check that refuses the request, in the order of `commit`. -/
def refusal (c : Container) (request : CommitRequest) : Option CommitResult :=
  match c.flightRepo.get request.flightId with
  | none =>
      some (.refuse .flightNotFound ("flight " ++ request.flightId.value ++ " not found"))
  | some flight =>
      (resolveQuote c.quoteStore request.quoteId c.clock).error.or
        ((validateSeats c.bookingRepo flight request).or
          (validateLock c.seatLockStore request c.clock))

/-- The quote the commit runs on. -/
def liveQuote (c : Container) (request : CommitRequest) : Option Quote :=
  (resolveQuote c.quoteStore request.quoteId c.clock).quote

/-- What is charged: the total of the live quote, else the base fare. -/
def amountDue (c : Container) (request : CommitRequest) : Except Exn Money :=
  match liveQuote c request with
  | some quote => quote.priceBreakdown.total
  | none =>
      match c.flightRepo.get request.flightId with
      | some flight => .ok flight.baseFare
      | none => .error (.indexError "")

/-- The checks pass, the amount is `total` and the gateway answers `result`. -/
structure Charged (env : Collaborators) (request : CommitRequest) (c : Container)
    (total : Money) (result : PaymentResult) : Prop where
  passed : refusal c request = none
  due : amountDue c request = .ok total
  answer : env.charge request.paymentToken total = .ok result

/-! ## The container along the way -/

/-- The gateway has answered. -/
def afterCharge (c : Container) (request : CommitRequest) (total : Money) (ok : Bool) :
    Container :=
  { c with charges := c.charges ++ [⟨request.paymentToken, total, ok⟩] }

def declinedEvent (c : Container) (request : CommitRequest) (result : PaymentResult) :
    AuditEvent :=
  .paymentFailed {
    quoteId := request.quoteId.map QuoteId.value
    flightId := request.flightId.value
    seatIds := request.seatIds.map SeatId.value
    paymentToken := request.paymentToken
    reason := match result.reason with
      | none => "declined"
      | some reason => if reason = "" then "declined" else reason
    attemptedAt := c.clock.isoformat }

/-- The id on the booking: the live quote's, or the sentinel. -/
def bookedQuoteId (c : Container) (request : CommitRequest) : QuoteId :=
  match liveQuote c request with
  | some quote => quote.id
  | none => wsShortcutQuoteId

def bookingOf (c : Container) (request : CommitRequest) (total : Money) (ref : String) :
    Booking where
  reference := ⟨ref⟩
  flightId := request.flightId
  seatIds := request.seatIds
  passengers := request.passengers
  totalCharged := total
  status := .confirmed
  quoteId := bookedQuoteId c request
  confirmedAt := c.clock

/-- The `BookingCommitted` event of a booking. -/
def committedEvent (b : Booking) : BookingCommitted where
  bookingReference := b.reference.value
  quoteId := b.quoteId.value
  flightId := b.flightId.value
  seatIds := b.seatIds.map SeatId.value
  totalCharged := b.totalCharged.amount.str
  committedAt := b.confirmedAt.isoformat

/-- The reference has been drawn. -/
def afterReference (c : Container) (request : CommitRequest) (total : Money)
    (rest : List String) : Container :=
  { afterCharge c request total true with ids := { c.ids with bookingRefs := rest } }

/-- The booking is stored. -/
def afterSave (c : Container) (request : CommitRequest) (total : Money) (ref : String)
    (rest : List String) : Container :=
  { afterReference c request total rest with
    bookingRepo := c.bookingRepo.save (bookingOf c request total ref) }

/-- The confirmation is queued. -/
def afterQueue (c : Container) (request : CommitRequest) (total : Money) (ref : String)
    (rest : List String) : Container :=
  { afterSave c request total ref rest with
    queued := c.queued ++ [bookingOf c request total ref] }

/-- The lock store when the request's lock, if it has one, is released. -/
def releasedLocks (c : Container) (request : CommitRequest) : InMemorySeatLockStore :=
  match request.lockId with
  | some lockId => c.seatLockStore.release lockId
  | none => c.seatLockStore

def afterRelease (c : Container) (request : CommitRequest) (total : Money) (ref : String)
    (rest : List String) : Container :=
  { afterQueue c request total ref rest with seatLockStore := releasedLocks c request }

/-- The event is written: the end of a successful commit. -/
def afterCommit (c : Container) (request : CommitRequest) (total : Money) (ref : String)
    (rest : List String) : Container :=
  { afterRelease c request total ref rest with
    audit := c.audit ++ [.bookingCommitted (committedEvent (bookingOf c request total ref))] }

/-! ## The exits -/

/-- The ways out of `commit`: result and container after. -/
inductive CommitExit (env : Collaborators) (request : CommitRequest) (c : Container) :
    Except Exn CommitResult → Container → Prop
  /-- A check refuses. -/
  | refused {r : CommitResult} (h : refusal c request = some r) :
      CommitExit env request c (.ok r) c
  /-- The total of the quote cannot be computed. -/
  | noTotal {e : Exn} (h : refusal c request = none) (hdue : amountDue c request = .error e) :
      CommitExit env request c (.error e) c
  /-- The gateway does not answer. -/
  | noAnswer {total : Money} {e : Exn} (h : refusal c request = none)
      (hdue : amountDue c request = .ok total)
      (hans : env.charge request.paymentToken total = .error e) :
      CommitExit env request c (.error e) c
  | declined {total : Money} {result : PaymentResult} (h : Charged env request c total result)
      (hno : result.succeeded = false) (hlog : env.fault .writeAudit = none) :
      CommitExit env request c
        (.ok (.refuse .paymentDeclined "payment declined by gateway"))
        { afterCharge c request total false with
          audit := c.audit ++ [declinedEvent c request result] }
  | declinedUnlogged {total : Money} {result : PaymentResult} {e : Exn}
      (h : Charged env request c total result) (hno : result.succeeded = false)
      (hlog : env.fault .writeAudit = some e) :
      CommitExit env request c (.error e) (afterCharge c request total false)
  /-- No reference: the generator raises or is exhausted. -/
  | noReference {total : Money} {result : PaymentResult} {e : Exn}
      (h : Charged env request c total result) (hyes : result.succeeded = true)
      (href : env.fault .newBookingReference = some e ∨
        (env.fault .newBookingReference = none ∧ c.ids.bookingRefs = [] ∧ e = popFromEmpty)) :
      CommitExit env request c (.error e) (afterCharge c request total true)
  | notSaved {total : Money} {result : PaymentResult} {ref : String} {rest : List String}
      {e : Exn} (h : Charged env request c total result) (hyes : result.succeeded = true)
      (href : c.ids.bookingRefs = ref :: rest) (hgen : env.fault .newBookingReference = none)
      (hsave : env.fault .saveBooking = some e) :
      CommitExit env request c (.error e) (afterReference c request total rest)
  | notQueued {total : Money} {result : PaymentResult} {ref : String} {rest : List String}
      {e : Exn} (h : Charged env request c total result) (hyes : result.succeeded = true)
      (href : c.ids.bookingRefs = ref :: rest) (hgen : env.fault .newBookingReference = none)
      (hsave : env.fault .saveBooking = none) (hqueue : env.fault .queueConfirmation = some e) :
      CommitExit env request c (.error e) (afterSave c request total ref rest)
  | notReleased {total : Money} {result : PaymentResult} {ref : String} {rest : List String}
      {e : Exn} (h : Charged env request c total result) (hyes : result.succeeded = true)
      (href : c.ids.bookingRefs = ref :: rest) (hgen : env.fault .newBookingReference = none)
      (hsave : env.fault .saveBooking = none) (hqueue : env.fault .queueConfirmation = none)
      (hlock : request.lockId ≠ none) (hrel : env.fault .releaseLock = some e) :
      CommitExit env request c (.error e) (afterQueue c request total ref rest)
  | notLogged {total : Money} {result : PaymentResult} {ref : String} {rest : List String}
      {e : Exn} (h : Charged env request c total result) (hyes : result.succeeded = true)
      (href : c.ids.bookingRefs = ref :: rest) (hgen : env.fault .newBookingReference = none)
      (hsave : env.fault .saveBooking = none) (hqueue : env.fault .queueConfirmation = none)
      (hrel : request.lockId = none ∨ env.fault .releaseLock = none)
      (hlog : env.fault .writeAudit = some e) :
      CommitExit env request c (.error e) (afterRelease c request total ref rest)
  | committed {total : Money} {result : PaymentResult} {ref : String} {rest : List String}
      (h : Charged env request c total result) (hyes : result.succeeded = true)
      (href : c.ids.bookingRefs = ref :: rest) (hgen : env.fault .newBookingReference = none)
      (hsave : env.fault .saveBooking = none) (hqueue : env.fault .queueConfirmation = none)
      (hrel : request.lockId = none ∨ env.fault .releaseLock = none)
      (hlog : env.fault .writeAudit = none) :
      CommitExit env request c (.ok { booking := some (bookingOf c request total ref) })
        (afterCommit c request total ref rest)

/-! ## The checks -/

theorem commit_refused (env : Collaborators) {request : CommitRequest} {c : Container}
    {r : CommitResult} (h : refusal c request = some r) :
    (commit env request).run c = (.ok r, c) := by
  unfold commit
  rw [Eff.run_get_bind]
  cases hf : c.flightRepo.get request.flightId with
  | none =>
      simp only [refusal, hf, Option.some.injEq] at h
      simp [← h]
  | some flight =>
      -- quote, seats, lock, in this order: the first refusal is returned
      simp only [refusal, hf] at h
      cases hq : (resolveQuote c.quoteStore request.quoteId c.clock).error with
      | some quoteError =>
          simp only [hq, Option.some_or, Option.some.injEq] at h
          simp [hq, h]
      | none =>
          cases hs : validateSeats c.bookingRepo flight request with
          | some seatError =>
              simp only [hq, hs, Option.none_or, Option.some_or, Option.some.injEq] at h
              simp [hq, hs, h]
          | none =>
              simp only [hq, hs, Option.none_or] at h
              simp [hq, hs, h]

/-- What `commit` does once the gateway has accepted. -/
def confirm (env : Collaborators) (request : CommitRequest) (c : Container) (total : Money) :
    Stmt CommitResult := do
  let reference ← newBookingReference env
  let booking := bookingOf c request total reference.value
  saveBooking env booking
  queueConfirmation env booking
  match request.lockId with
  | some lockId => releaseLock env lockId
  | none => pure ()
  writeAudit env (.bookingCommitted (committedEvent booking))
  return { booking := some booking }

/-- What `commit` does once its checks have passed, from the charge on. -/
def settle (env : Collaborators) (request : CommitRequest) (c : Container) (total : Money) :
    Stmt CommitResult := do
  let paymentResult ← charge env request.paymentToken total
  if !paymentResult.succeeded then
    writeAudit env (declinedEvent c request paymentResult)
    return .refuse .paymentDeclined "payment declined by gateway"
  else confirm env request c total

theorem commit_passed {env : Collaborators} {request : CommitRequest} {c : Container}
    (h : refusal c request = none) :
    (commit env request).run c =
      match amountDue c request with
      | .error e => (.error e, c)
      | .ok total => (settle env request c total).run c := by
  unfold commit
  rw [Eff.run_get_bind]
  cases hf : c.flightRepo.get request.flightId with
  | none => simp [refusal, hf] at h
  | some flight =>
      simp only [refusal, hf, Option.or_eq_none_iff] at h
      obtain ⟨hq, hs, hl⟩ := h
      simp only [hq, hs, hl]
      cases hquote : liveQuote c request with
      | none =>
          have hquote' : (resolveQuote c.quoteStore request.quoteId c.clock).quote = none := hquote
          have hbook : bookedQuoteId c request = wsShortcutQuoteId := by
            unfold bookedQuoteId
            rw [hquote]
          simp only [amountDue, hquote, hquote', hf]
          rw [Eff.run_bind_ok (Eff.run_pure flight.baseFare c)]
          unfold settle confirm bookingOf
          rewrite [hbook]
          rfl
      | some quote =>
          have hquote' : (resolveQuote c.quoteStore request.quoteId c.clock).quote = some quote :=
            hquote
          have hbook : bookedQuoteId c request = quote.id := by
            unfold bookedQuoteId
            rw [hquote]
          simp only [amountDue, hquote, hquote']
          cases htotal : quote.priceBreakdown.total with
          | error e => exact Eff.run_bind_error (Eff.run_ofExcept _ c)
          | ok total =>
              rw [Eff.run_bind_ok (Eff.run_ofExcept _ c)]
              unfold settle confirm bookingOf
              rewrite [hbook]
              rfl

/-! ## Every run of `commit` is one of the exits -/

section Exits

variable {env : Collaborators} {request : CommitRequest} {c : Container} {total : Money}
  {result : PaymentResult}

/-- The last statement: the event is written. -/
theorem log_exit {ref : String} {rest : List String}
    (hc : Charged env request c total result) (hyes : result.succeeded = true)
    (href : c.ids.bookingRefs = ref :: rest) (hgen : env.fault .newBookingReference = none)
    (hsave : env.fault .saveBooking = none) (hqueue : env.fault .queueConfirmation = none)
    (hrel : request.lockId = none ∨ env.fault .releaseLock = none) :
    let m : Stmt CommitResult := do
      writeAudit env (.bookingCommitted (committedEvent (bookingOf c request total ref)))
      return { booking := some (bookingOf c request total ref) }
    CommitExit env request c (m.run (afterRelease c request total ref rest)).1
      (m.run (afterRelease c request total ref rest)).2 := by
  intro m
  cases hlog : env.fault .writeAudit with
  | some e =>
      rw [show m.run _ = _ from Eff.run_bind_error (run_portCall_fault _ hlog)]
      exact .notLogged hc hyes href hgen hsave hqueue hrel hlog
  | none =>
      rw [show m.run _ = _ from Eff.run_bind_ok (run_portCall _ hlog)]
      exact .committed hc hyes href hgen hsave hqueue hrel hlog

/-- The exits from the accepted charge on. -/
theorem confirm_exit (hc : Charged env request c total result)
    (hyes : result.succeeded = true) :
    CommitExit env request c
      ((confirm env request c total).run (afterCharge c request total true)).1
      ((confirm env request c total).run (afterCharge c request total true)).2 := by
  simp only [confirm]
  -- from here on every exception leaves the charge behind
  cases hgen : env.fault .newBookingReference with
  | some e =>
      rw [Eff.run_bind_error (run_newBookingReference_fault hgen)]
      exact .noReference hc hyes (.inl hgen)
  | none =>
  cases href : c.ids.bookingRefs with
  | nil =>
      have hdraw : (newBookingReference env).run (afterCharge c request total true) =
          (.error popFromEmpty, afterCharge c request total true) :=
        run_newBookingReference_exhausted hgen href
      rw [Eff.run_bind_error hdraw]
      exact .noReference hc hyes (.inr ⟨hgen, href, rfl⟩)
  | cons ref rest =>
  have hdraw : (newBookingReference env).run (afterCharge c request total true) =
      (.ok ⟨ref⟩, afterReference c request total rest) := run_newBookingReference hgen href
  rw [Eff.run_bind_ok hdraw]
  cases hsave : env.fault .saveBooking with
  | some e =>
      rw [Eff.run_bind_error (run_portCall_fault _ hsave)]
      exact .notSaved hc hyes href hgen hsave
  | none =>
  have hstore : (saveBooking env (bookingOf c request total ref)).run
      (afterReference c request total rest) = (.ok (), afterSave c request total ref rest) :=
    run_portCall _ hsave
  rw [Eff.run_bind_ok hstore]
  cases hqueue : env.fault .queueConfirmation with
  | some e =>
      rw [Eff.run_bind_error (run_portCall_fault _ hqueue)]
      exact .notQueued hc hyes href hgen hsave hqueue
  | none =>
  have hmail : (queueConfirmation env (bookingOf c request total ref)).run
      (afterSave c request total ref rest) = (.ok (), afterQueue c request total ref rest) :=
    run_portCall _ hqueue
  rw [Eff.run_bind_ok hmail]
  cases hlock : request.lockId with
  | none =>
      have hkeep : afterQueue c request total ref rest = afterRelease c request total ref rest := by
        simp [afterRelease, releasedLocks, hlock, afterQueue, afterSave, afterReference,
          afterCharge]
      rw [hkeep]
      exact log_exit hc hyes href hgen hsave hqueue (.inl hlock)
  | some lockId =>
      cases hrel : env.fault .releaseLock with
      | some e =>
          rw [Eff.run_bind_error (run_portCall_fault _ hrel)]
          exact .notReleased hc hyes href hgen hsave hqueue (by simp [hlock]) hrel
      | none =>
          have hfree : (releaseLock env lockId).run (afterQueue c request total ref rest) =
              (.ok (), afterRelease c request total ref rest) := by
            rw [releaseLock, run_portCall _ hrel]
            simp [afterRelease, releasedLocks, hlock, afterQueue, afterSave, afterReference,
              afterCharge]
          rw [Eff.run_bind_ok hfree]
          exact log_exit hc hyes href hgen hsave hqueue (.inr hrel)

/-- The exits from the charge on. -/
theorem settle_exit (h : refusal c request = none) (hdue : amountDue c request = .ok total) :
    CommitExit env request c ((settle env request c total).run c).1
      ((settle env request c total).run c).2 := by
  unfold settle
  cases hans : env.charge request.paymentToken total with
  | error e =>
      rw [Eff.run_bind_error (run_charge_fault hans)]
      exact .noAnswer h hdue hans
  | ok result =>
      have hc : Charged env request c total result := ⟨h, hdue, hans⟩
      have hpay : (charge env request.paymentToken total).run c =
          (.ok result, afterCharge c request total result.succeeded) := run_charge hans
      rw [Eff.run_bind_ok hpay]
      cases hok : result.succeeded with
      | true =>
          simp only [Bool.not_true, Bool.false_eq_true, if_false]
          exact confirm_exit hc hok
      | false =>
          simp only [Bool.not_false, if_true]
          cases hlog : env.fault .writeAudit with
          | some e =>
              rw [Eff.run_bind_error (run_portCall_fault _ hlog)]
              exact .declinedUnlogged hc hok hlog
          | none =>
              rw [Eff.run_bind_ok (run_portCall _ hlog)]
              exact .declined hc hok hlog

/-- **Every run of `commit` takes one of the exits.** -/
theorem commit_exit (env : Collaborators) (request : CommitRequest) (c : Container) :
    CommitExit env request c ((commit env request).run c).1 ((commit env request).run c).2 := by
  cases h : refusal c request with
  | some r =>
      rw [commit_refused env h]
      exact .refused h
  | none =>
      rw [commit_passed h]
      cases hdue : amountDue c request with
      | error e => exact .noTotal h hdue
      | ok total => exact settle_exit h hdue

end Exits

end BookingService

end FlightBooking
