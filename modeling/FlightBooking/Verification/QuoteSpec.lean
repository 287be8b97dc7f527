import FlightBooking.Composition.Machine

/-!
# QuoteSpec — the exits of `quote`

The same for `QuoteService.quote`: `appraise` is its pure part, up to the price
breakdown, and `QuoteExit` lists the ways out. Two of them leave a stored quote
without its event: the total is computed, and the log written, after the save.
-/

namespace FlightBooking

open Py

namespace QuoteService

/-- What a request is priced with. -/
structure Appraisal where
  occupancyPct : Decimal
  daysBefore : Int
  departureDow : DayOfWeek
  breakdown : PriceBreakdown

/-- The pure part of `quote`. -/
def appraise (c : Container) (request : QuoteRequest) : Except Exn Appraisal :=
  match c.flightRepo.get request.flightId with
  | none => .error (.quoteNotFound ("flight " ++ request.flightId.value ++ " not found"))
  | some flight =>
    let daysBefore := flight.departureAt.date - c.clock.date
    if daysBefore < 0 then
      .error (.flightAlreadyDeparted ("flight " ++ request.flightId.value ++
        " already departed at " ++ flight.departureAt.isoformat))
    else do
      let occupancyPct ← occupancyPct c.bookingRepo flight
      let departureDow := DayOfWeek.ofWeekday flight.departureAt.weekday
      let surcharges := seatSurcharges flight request.seatIds
      let taxes ← computeTaxes flight occupancyPct daysBefore departureDow surcharges
      let breakdown ← Pricing.price {
        baseFare := flight.baseFare
        occupancyPct
        daysBeforeDeparture := daysBefore
        departureDow
        surcharges
        taxes
        fees := Pricing.lookupFlatFees flight.id.value }
      return { occupancyPct, daysBefore, departureDow, breakdown }

/-- The session of the quote and the session ids left: the request's own, or the
next of the generator. -/
def drawSession (c : Container) (request : QuoteRequest) : Option (SessionId × List String) :=
  match request.sessionId with
  | some session => some (session, c.ids.sessionIds)
  | none =>
      match c.ids.sessionIds with
      | [] => none
      | id :: rest => some (⟨id⟩, rest)

/-- The quote that is stored. -/
def quoteOf (c : Container) (request : QuoteRequest) (a : Appraisal) (session : SessionId)
    (id : String) : Quote where
  id := ⟨id⟩
  sessionId := session
  flightId := request.flightId
  seatIds := request.seatIds
  passengers := request.passengers
  priceBreakdown := a.breakdown
  createdAt := c.clock
  expiresAt := c.clock.add quoteTtl

/-- The event of a quote, if its total can be computed. -/
def eventOf (q : Quote) (a : Appraisal) : Except Exn QuoteCreated :=
  buildAuditEvent q a.breakdown a.occupancyPct a.daysBefore a.departureDow

section Event

variable {q : Quote} {a : Appraisal} {event : QuoteCreated}

/-- The event has the text of the total, and the id and the times of the quote. -/
theorem eventOf_ok (h : eventOf q a = .ok event) :
    ∃ total, a.breakdown.total = .ok total ∧ event.total = total.amount.str ∧
      event.quoteId = q.id.value ∧ event.createdAt = q.createdAt.isoformat ∧
      event.expiresAt = q.expiresAt.isoformat := by
  unfold eventOf buildAuditEvent at h
  cases htotal : a.breakdown.total with
  | error e =>
      rw [htotal] at h
      cases h
  | ok total =>
      rw [htotal] at h
      cases h
      exact ⟨total, rfl, rfl, rfl, rfl, rfl⟩

theorem eventOf_error {e : Exn} (h : eventOf q a = .error e) : a.breakdown.total = .error e := by
  unfold eventOf buildAuditEvent at h
  cases htotal : a.breakdown.total with
  | error e' =>
      rw [htotal] at h
      cases h
      rfl
  | ok total =>
      rw [htotal] at h
      cases h

/-- There is an event if there is a total. -/
theorem eventOf_ok_iff :
    (∃ event, eventOf q a = .ok event) ↔ ∃ total, a.breakdown.total = .ok total := by
  constructor
  · intro ⟨event, h⟩
    obtain ⟨total, htotal, -⟩ := eventOf_ok h
    exact ⟨total, htotal⟩
  · intro ⟨total, htotal⟩
    unfold eventOf buildAuditEvent
    rw [htotal]
    exact ⟨_, rfl⟩

end Event

/-- The session id has been drawn. -/
def afterSession (c : Container) (sessions : List String) : Container :=
  { c with ids := { c.ids with sessionIds := sessions } }

/-- The quote id has been drawn too. -/
def afterQuoteId (c : Container) (sessions quoteIds : List String) : Container :=
  { c with ids := { c.ids with sessionIds := sessions, quoteIds := quoteIds } }

/-- The quote is stored. -/
def afterQuote (c : Container) (q : Quote) (sessions quoteIds : List String) : Container :=
  { c with
    ids := { c.ids with sessionIds := sessions, quoteIds := quoteIds }
    quoteStore := c.quoteStore.save q }

/-- The ways out of `quote`: result and container after. -/
inductive QuoteExit (env : Collaborators) (request : QuoteRequest) (c : Container) :
    Except Exn Quote → Container → Prop
  | rejected {e : Exn} (h : appraise c request = .error e) : QuoteExit env request c (.error e) c
  | noSession {a : Appraisal} (h : appraise c request = .ok a)
      (hs : drawSession c request = none) : QuoteExit env request c (.error popFromEmpty) c
  | noQuoteId {a : Appraisal} {session : SessionId} {sessions : List String}
      (h : appraise c request = .ok a) (hs : drawSession c request = some (session, sessions))
      (hid : c.ids.quoteIds = []) :
      QuoteExit env request c (.error popFromEmpty) (afterSession c sessions)
  /-- No instant to expire at: both ids have been drawn. -/
  | overflowed {a : Appraisal} {session : SessionId} {sessions rest : List String} {id : String}
      (h : appraise c request = .ok a) (hs : drawSession c request = some (session, sessions))
      (hid : c.ids.quoteIds = id :: rest) (hrange : ¬ (c.clock.add quoteTtl).InRange) :
      QuoteExit env request c (.error (.overflowError "date value out of range"))
        (afterQuoteId c sessions rest)
  /-- The total cannot be computed: raised after the save. -/
  | unrendered {a : Appraisal} {session : SessionId} {sessions rest : List String}
      {id : String} {e : Exn} (h : appraise c request = .ok a)
      (hs : drawSession c request = some (session, sessions))
      (hid : c.ids.quoteIds = id :: rest) (hrange : (c.clock.add quoteTtl).InRange)
      (hev : eventOf (quoteOf c request a session id) a = .error e) :
      QuoteExit env request c (.error e)
        (afterQuote c (quoteOf c request a session id) sessions rest)
  /-- The log raises: after the save too. -/
  | unlogged {a : Appraisal} {session : SessionId} {sessions rest : List String}
      {id : String} {e : Exn} {event : QuoteCreated} (h : appraise c request = .ok a)
      (hs : drawSession c request = some (session, sessions))
      (hid : c.ids.quoteIds = id :: rest) (hrange : (c.clock.add quoteTtl).InRange)
      (hev : eventOf (quoteOf c request a session id) a = .ok event)
      (hlog : env.fault .writeAudit = some e) :
      QuoteExit env request c (.error e)
        (afterQuote c (quoteOf c request a session id) sessions rest)
  | created {a : Appraisal} {session : SessionId} {sessions rest : List String}
      {id : String} {event : QuoteCreated} (h : appraise c request = .ok a)
      (hs : drawSession c request = some (session, sessions))
      (hid : c.ids.quoteIds = id :: rest) (hrange : (c.clock.add quoteTtl).InRange)
      (hev : eventOf (quoteOf c request a session id) a = .ok event)
      (hlog : env.fault .writeAudit = none) :
      QuoteExit env request c (.ok (quoteOf c request a session id))
        { afterQuote c (quoteOf c request a session id) sessions rest with
          audit := c.audit ++ [.quoteCreated event] }

/-- What `quote` does once the quote is built. -/
def record (env : Collaborators) (a : Appraisal) (quote : Quote) : Stmt Quote := do
  saveQuote quote
  let event ← Eff.ofExcept (eventOf quote a)
  writeAudit env (.quoteCreated event)
  return quote

/-- What `quote` does once the price is known. -/
def issue (env : Collaborators) (request : QuoteRequest) (c : Container) (a : Appraisal) :
    Stmt Quote := do
  let session ← match request.sessionId with
    | some session => pure session
    | none => newSessionId
  let quoteId ← newQuoteId
  let expiresAt ← Eff.ofExcept ((c.clock.plus quoteTtl).mapError Exn.overflowError)
  record env a { quoteOf c request a session quoteId.value with expiresAt }

/-- The price is found first, then the quote is issued. -/
theorem quote_run (env : Collaborators) (request : QuoteRequest) (c : Container) :
    (quote env request).run c =
      match appraise c request with
      | .error e => (.error e, c)
      | .ok a => (issue env request c a).run c := by
  unfold quote
  rw [Eff.run_get_bind]
  cases hf : c.flightRepo.get request.flightId with
  | none => simp [appraise, hf]
  | some flight =>
  by_cases hd : flight.departureAt.date - c.clock.date < 0
  · simp [appraise, hf, hd]
  -- the expressions that may raise, in the order of the source
  simp only [hd, if_false]
  cases ho : occupancyPct c.bookingRepo flight with
  | error e =>
      have ha : appraise c request = .error e := by
        simp [appraise, hf, hd, ho, bind, Except.bind]
      rw [ha]
      exact Eff.run_bind_error (Eff.run_ofExcept _ c)
  | ok occupancy =>
  rw [Eff.run_bind_ok (Eff.run_ofExcept _ c)]
  cases ht : computeTaxes flight occupancy (flight.departureAt.date - c.clock.date)
      (DayOfWeek.ofWeekday flight.departureAt.weekday)
      (seatSurcharges flight request.seatIds) with
  | error e =>
      have ha : appraise c request = .error e := by
        simp [appraise, hf, hd, ho, ht, bind, Except.bind]
      rw [ha]
      exact Eff.run_bind_error (Eff.run_ofExcept _ c)
  | ok taxes =>
  rw [Eff.run_bind_ok (Eff.run_ofExcept _ c)]
  cases hp : Pricing.price {
      baseFare := flight.baseFare
      occupancyPct := occupancy
      daysBeforeDeparture := flight.departureAt.date - c.clock.date
      departureDow := DayOfWeek.ofWeekday flight.departureAt.weekday
      surcharges := seatSurcharges flight request.seatIds
      taxes
      fees := Pricing.lookupFlatFees flight.id.value } with
  | error e =>
      have ha : appraise c request = .error e := by
        simp [appraise, hf, hd, ho, ht, hp, bind, Except.bind]
      rw [ha]
      exact Eff.run_bind_error (Eff.run_ofExcept _ c)
  | ok breakdown =>
      have ha : appraise c request = .ok ⟨occupancy, flight.departureAt.date - c.clock.date,
          DayOfWeek.ofWeekday flight.departureAt.weekday, breakdown⟩ := by
        simp [appraise, hf, hd, ho, ht, hp, bind, Except.bind, pure, Except.pure]
      rw [ha, Eff.run_bind_ok (Eff.run_ofExcept _ c)]
      unfold issue
      cases request.sessionId <;> rfl

/-! ## Every run of `quote` is one of the exits -/

section Exits

variable {env : Collaborators} {request : QuoteRequest} {c : Container} {a : Appraisal}

theorem run_newQuoteId {c : Container} {id : String} {rest : List String}
    (h : c.ids.quoteIds = id :: rest) :
    newQuoteId.run c = (.ok ⟨id⟩, { c with ids := { c.ids with quoteIds := rest } }) := by
  simp [newQuoteId, h]

theorem run_newQuoteId_exhausted {c : Container} (h : c.ids.quoteIds = []) :
    newQuoteId.run c = (.error popFromEmpty, c) := by
  simp [newQuoteId, h]

/-- The statements from the save on: one exit each. -/
theorem record_exit {session : SessionId} {sessions rest : List String} {id : String}
    (ha : appraise c request = .ok a) (hs : drawSession c request = some (session, sessions))
    (hid : c.ids.quoteIds = id :: rest) (hrange : (c.clock.add quoteTtl).InRange) :
    let m := record env a (quoteOf c request a session id)
    QuoteExit env request c (m.run (afterQuoteId c sessions rest)).1
      (m.run (afterQuoteId c sessions rest)).2 := by
  intro m
  have hsave : (saveQuote (quoteOf c request a session id)).run
      (afterQuoteId c sessions rest) =
      (.ok (), afterQuote c (quoteOf c request a session id) sessions rest) := rfl
  rw [show m.run _ = _ from Eff.run_bind_ok hsave]
  cases hev : eventOf (quoteOf c request a session id) a with
  | error e =>
      rw [Eff.run_bind_error (Eff.run_ofExcept _ _)]
      exact .unrendered ha hs hid hrange hev
  | ok event =>
  rw [Eff.run_bind_ok (Eff.run_ofExcept _ _)]
  cases hlog : env.fault .writeAudit with
  | some e =>
      rw [Eff.run_bind_error (run_portCall_fault _ hlog)]
      exact .unlogged ha hs hid hrange hev hlog
  | none =>
      rw [Eff.run_bind_ok (run_portCall _ hlog)]
      exact .created ha hs hid hrange hev hlog

/-- The statements after the session id: one exit each. -/
theorem store_exit {session : SessionId} {sessions : List String}
    (ha : appraise c request = .ok a) (hs : drawSession c request = some (session, sessions)) :
    let m : Stmt Quote := do
      let quoteId ← newQuoteId
      let expiresAt ← Eff.ofExcept ((c.clock.plus quoteTtl).mapError Exn.overflowError)
      record env a { quoteOf c request a session quoteId.value with expiresAt }
    QuoteExit env request c (m.run (afterSession c sessions)).1
      (m.run (afterSession c sessions)).2 := by
  intro m
  cases hid : c.ids.quoteIds with
  | nil =>
      have hdraw : newQuoteId.run (afterSession c sessions) =
          (.error popFromEmpty, afterSession c sessions) := run_newQuoteId_exhausted hid
      rw [show m.run _ = _ from Eff.run_bind_error hdraw]
      exact .noQuoteId ha hs hid
  | cons id rest =>
  have hdraw : newQuoteId.run (afterSession c sessions) =
      (.ok ⟨id⟩, afterQuoteId c sessions rest) := run_newQuoteId hid
  rw [show m.run _ = _ from Eff.run_bind_ok hdraw]
  by_cases hrange : (c.clock.add quoteTtl).InRange
  swap
  · have hexpires : (c.clock.plus quoteTtl).mapError Exn.overflowError =
        .error (.overflowError "date value out of range") := by
      rw [DateTime.plus_eq_error hrange]
      rfl
    rw [hexpires, Eff.run_bind_error (Eff.run_ofExcept _ _)]
    exact .overflowed ha hs hid hrange
  have hexpires : (c.clock.plus quoteTtl).mapError Exn.overflowError =
      .ok (c.clock.add quoteTtl) := by
    rw [DateTime.plus_eq_ok hrange]
    rfl
  rw [hexpires, Eff.run_bind_ok (Eff.run_ofExcept _ _)]
  exact record_exit ha hs hid hrange

/-- The exits once the price is known. -/
theorem issue_exit (ha : appraise c request = .ok a) :
    QuoteExit env request c ((issue env request c a).run c).1
      ((issue env request c a).run c).2 := by
  unfold issue
  cases hr : request.sessionId with
  | some session =>
      have hs : drawSession c request = some (session, c.ids.sessionIds) := by
        simp [drawSession, hr]
      exact store_exit ha hs
  | none =>
      cases hids : c.ids.sessionIds with
      | nil =>
          have hdraw : newSessionId.run c = (.error popFromEmpty, c) := by
            simp [newSessionId, hids]
          rw [Eff.run_bind_error hdraw]
          exact .noSession ha (by simp [drawSession, hr, hids])
      | cons id rest =>
          have hdraw : newSessionId.run c = (.ok ⟨id⟩, afterSession c rest) := by
            simp [newSessionId, hids, afterSession]
          rw [Eff.run_bind_ok hdraw]
          exact store_exit ha (by simp [drawSession, hr, hids])

/-- **Every run of `quote` takes one of the exits.** -/
theorem quote_exit (env : Collaborators) (request : QuoteRequest) (c : Container) :
    QuoteExit env request c ((quote env request).run c).1 ((quote env request).run c).2 := by
  rw [quote_run]
  cases ha : appraise c request with
  | error e => exact .rejected ha
  | ok a => exact issue_exit ha

end Exits

end QuoteService

end FlightBooking
