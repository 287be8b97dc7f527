import FlightBooking.Composition.HttpMachine
import FlightBooking.Verification.QuoteWindow
import FlightBooking.Verification.SeatMapAgreement

/-!
# HttpBooking — what a response promises

The invariants of the services, at the app: what a client has been told stands for every
later request, whoever sends it. The promise of a response is a record in a store, and
records stay as they are.
-/

namespace FlightBooking

open Py BookingService QuoteService

/-! ## What the app said -/

/-- The request of the event is answered with the response. -/
def HttpEvent.answers (e : HttpEvent) (request : HttpRequest) (response : Response) : Prop :=
  ∃ env, e.input = .serve env request ∧ e.output = some (.ok response)

/-- The event is a booking that went through. -/
def HttpEvent.books (e : HttpEvent) (payload : BookingPayload) (b : BookingResponse) : Prop :=
  HttpEvent.answers e (.postBooking payload) ⟨201, .booking b⟩

/-- The event is a quote that was given. -/
def HttpEvent.quotes (e : HttpEvent) (payload : QuotePayload) (q : QuoteResponse) : Prop :=
  HttpEvent.answers e (.postQuote payload) ⟨200, .quote q⟩

section Answers

variable {c : Container} {op : HttpOp}

theorem commitResponse_eq_booking {result : CommitResult} {status : Nat} {b : BookingResponse}
    (h : commitResponse result = ⟨status, .booking b⟩) :
    status = 201 ∧ ∃ booking, result.booking = some booking ∧ b = serializeBooking booking := by
  unfold commitResponse at h
  cases hb : result.booking with
  | none =>
      rw [hb] at h
      cases h
  | some booking =>
      rw [hb] at h
      cases h
      exact ⟨rfl, booking, rfl, rfl⟩

/-- A `201` of `POST /bookings` is a sale. -/
theorem books_sold {payload : BookingPayload} {b : BookingResponse}
    (h : HttpEvent.books (Run.Event.of httpStep c op) payload b) :
    ∃ env request total result ref rest, payload.request = .ok request ∧
      Sold env request c total result ref rest ∧
      b = serializeBooking (bookingOf c request total ref) ∧
      (httpStep c op).2 = afterCommit c request total ref rest := by
  obtain ⟨env, hin, hout⟩ := h
  obtain rfl : op = .serve env (.postBooking payload) := hin
  have hout' : ((HttpApp.handle env (.postBooking payload)).run c).1 =
      .ok ⟨201, .booking b⟩ := Option.some.inj hout
  have hdst : (httpStep c (.serve env (.postBooking payload))).2 =
      ((HttpApp.handle env (.postBooking payload)).run c).2 := rfl
  cases hreq : payload.request with
  | error key =>
      simp only [HttpApp.handle, HttpApp.postBooking, hreq, Eff.run_pure] at hout'
      cases hout'
  | ok request =>
      rw [HttpApp.run_postBooking env hreq] at hout' hdst
      cases hcommit : ((commit env request).run c).1 with
      | error e =>
          simp only [hcommit] at hout'
          cases hout'
      | ok result =>
          simp only [hcommit, Except.map, Except.ok.injEq] at hout'
          obtain ⟨-, booking, hbooking, rfl⟩ := commitResponse_eq_booking hout'
          have hstep : (step c (.commit env request)).1.booking? = some booking := by
            simp [step, hcommit, Output.booking?, hbooking]
          obtain ⟨env', request', total, result', ref, rest, hop, hs, rfl, hc⟩ :=
            step_sold hstep
          cases hop
          exact ⟨env, request, total, result', ref, rest, rfl, hs, rfl, hdst.trans hc⟩

end Answers

/-! ## A sale stands -/

/-- What a booking that went through at `e` means for the request at `e'`. -/
structure SaleStands (e e' : HttpEvent) : Prop where
  /-- It is what `GET /bookings/{reference}` shows. -/
  shown : ∀ payload b, HttpEvent.books e payload b → ∀ env,
    e'.input = .serve env (.getBooking b.bookingReference) →
    e'.output = some (.ok ⟨200, .booking b⟩)
  /-- Its reference and its seats are nobody else's. -/
  exclusive : ∀ payload b, HttpEvent.books e payload b → ∀ payload' b',
    HttpEvent.books e' payload' b' → b'.bookingReference ≠ b.bookingReference ∧
      (b'.flightId = b.flightId → ∀ s ∈ b.seats, s ∉ b'.seats)
  /-- No map of the flight offers its seats. -/
  taken : ∀ payload b, HttpEvent.books e payload b → ∀ session m,
    HttpEvent.answers e' (.getSeats b.flightId session) ⟨200, .seatMap m⟩ →
    ∀ seat ∈ m.seats, seat.seatId ∈ b.seats → seat.status ≠ "AVAILABLE"

/-- The booking is in the repository. -/
def Stored (c : Container) (b : BookingResponse) : Prop :=
  ∃ booking, c.bookingRepo.get? ⟨b.bookingReference⟩ = some booking ∧
    booking.status = .confirmed ∧ b = serializeBooking booking

section Sale

variable {c : Container} {b : BookingResponse}

theorem stored_after (c : Container) (request : CommitRequest) (total : Money) (ref : String)
    (rest : List String) :
    Stored (afterCommit c request total ref rest)
      (serializeBooking (bookingOf c request total ref)) :=
  ⟨bookingOf c request total ref, Dict.get?_set_self _ _ _, rfl, rfl⟩

theorem Stored.keeps (h : Stored c b) (hI : Booked c) (op : HttpOp) :
    Stored (httpStep c op).2 b := by
  obtain ⟨booking, hget, hrest⟩ := h
  refine ⟨booking, ?_, hrest⟩
  rw [httpStep_refines c op]
  cases op.op with
  | none => exact hget
  | some op => exact hI.get_step op hget

theorem value_eq_available_iff {status : SeatStatus} :
    status.value = "AVAILABLE" ↔ status = .available := by
  cases status <;> decide

theorem Stored.shown (h : Stored c b) :
    ((HttpApp.getBooking b.bookingReference).run c).1 = .ok ⟨200, .booking b⟩ := by
  obtain ⟨booking, hget, -, hbody⟩ := h
  unfold HttpApp.getBooking
  rw [Eff.run_get_bind, InMemoryBookingRepository.get, hget, hbody]
  rfl

/-- What is booked after it has another reference and other seats. -/
theorem Stored.exclusive (h : Stored c b) (hI : Booked c) {op : HttpOp}
    {payload : BookingPayload} {b' : BookingResponse}
    (hb' : HttpEvent.books (Run.Event.of httpStep c op) payload b') :
    b'.bookingReference ≠ b.bookingReference ∧
      (b'.flightId = b.flightId → ∀ s ∈ b.seats, s ∉ b'.seats) := by
  obtain ⟨booking, hget, hconfirmed, hbody⟩ := h
  obtain ⟨env, request, total, result, ref, rest, -, hs, hbody', -⟩ := books_sold hb'
  have hnew := hI.fresh hs
  refine ⟨?_, ?_⟩
  · intro he
    rw [hbody'] at he
    have hkey : (bookingOf c request total ref).reference = ⟨b.bookingReference⟩ :=
      congrArg BookingReference.mk he
    rw [hkey, hget] at hnew
    cases hnew
  · intro hflight s hm hm'
    rw [hbody, serializeBooking] at hm hflight
    rw [hbody', serializeBooking] at hm' hflight
    obtain ⟨seatId, hseat, rfl⟩ := List.mem_map.mp hm
    obtain ⟨seatId', hseat', hvalue⟩ := List.mem_map.mp hm'
    obtain rfl : seatId' = seatId := by
      cases seatId
      cases seatId'
      exact congrArg SeatId.mk hvalue
    -- the seat was not free any more
    have hfree := hs.free hseat'
    have hfid : request.flightId = booking.flightId := by
      cases hf : booking.flightId
      cases hf' : request.flightId
      simp only [bookingOf, hf, hf'] at hflight
      exact congrArg FlightId.mk hflight
    have hrec := hI.recorded _ _ hget (booking.flightId, seatId')
      (holds_iff.mpr ⟨rfl, hconfirmed, hseat⟩)
    rw [← hfid, hfree] at hrec
    cases hrec

/-- A map of the flight shows its seats, but not as available. -/
theorem Stored.taken (h : Stored c b) {session : Option String} {m : SeatMapResponse}
    (hmap : ((HttpApp.getSeats b.flightId session).run c).1 = .ok ⟨200, .seatMap m⟩)
    {seat : SeatResponse} (hseat : seat ∈ m.seats) (hin : seat.seatId ∈ b.seats) :
    seat.status ≠ "AVAILABLE" := by
  obtain ⟨booking, hget, hconfirmed, hbody⟩ := h
  unfold HttpApp.getSeats at hmap
  rw [Eff.run_get_bind] at hmap
  cases hview : SeatMapService.view c ⟨b.flightId⟩
      ((session.filter isNonempty).map SessionId.mk) with
  | error raised =>
      rw [hview] at hmap
      cases hmap
  | ok found =>
    rw [Eff.run_bind, Eff.run_ofExcept, hview] at hmap
    cases found with
    | none => cases hmap
    | some entries =>
      cases hmap
      obtain ⟨entry, hentry, rfl⟩ := List.mem_map.mp hseat
      rw [hbody] at hin hview
      obtain ⟨seatId, hbooked, hvalue⟩ := List.mem_map.mp hin
      have hid : entry.seatId = seatId := by
        cases hs : entry.seatId
        cases seatId
        rw [serializeEntry, hs] at hvalue
        exact congrArg SeatId.mk hvalue.symm
      intro havailable
      refine not_showsSeat_of_booked hget hconfirmed hbooked _ ⟨entries, hview, entry, hentry,
        hid, value_eq_available_iff.mp havailable⟩

theorem Stored.saleStands {e : HttpEvent} (hI : Booked c) (op : HttpOp)
    (h : ∀ payload b, HttpEvent.books e payload b → Stored c b) :
    SaleStands e (Run.Event.of httpStep c op) where
  shown payload b hb env hin := by
    obtain rfl : op = .serve env (.getBooking b.bookingReference) := hin
    exact congrArg some (h payload b hb).shown
  exclusive payload b hb payload' b' hb' := (h payload b hb).exclusive hI hb'
  taken payload b hb session m hm seat hseat hin := by
    obtain ⟨env, hop, hout⟩ := hm
    obtain rfl : op = .serve env (.getSeats b.flightId session) := hop
    exact (h payload b hb).taken (Option.some.inj hout) hseat hin

end Sale

/-- **A sale stands.** Over any run of requests, from a container with sound bookings, in
which ports may raise, the clock goes anywhere and flights are added and changed: what a
`201` of `POST /bookings` says is what `GET /bookings/{reference}` says ever after, no
later `201` has its reference or one of its seats, and no later seat map of the flight
offers them to anybody. -/
theorem sale_stands {c : Container} (hbooked : Booked c) (ops : List HttpOp) :
    (Run.trace httpStep c ops).Pairwise SaleStands := by
  refine Run.pairwise (A := fun _ _ => True) (I := Booked)
    (K := fun e c => ∀ payload b, HttpEvent.books e payload b → Stored c b)
    (fun c op hI _ => httpStep_refines.keeps (fun _ op hI => hI.preserved op) c op hI) ?_ ?_ ?_
    hbooked (Run.Along.of_forall (fun _ _ => trivial) c ops)
  · intro c op hI _ payload b hb
    obtain ⟨env, request, total, result, ref, rest, -, -, rfl, hc⟩ := books_sold hb
    rw [hc]
    exact stored_after c request total ref rest
  · intro e c op hI _ hk payload b hb
    exact (hk payload b hb).keeps hI op
  · intro e c op hI _ hk
    exact Stored.saleStands hI op hk

/-- A seat is booked, looked up, asked for again and looked for on the map. -/
theorem sale_stands_seat :
    let payload : BookingPayload := {
      flightId := some "FL-LAX-NYC-0800"
      seatId := some "30F"
      passenger := some (some "Jane Doe")
      paymentToken := some "mock-ok" }
    let ops : List HttpOp := [.serve .wired (.postBooking payload),
      .serve .wired (.getBooking "REF001"), .serve .wired (.postBooking payload),
      .serve .wired (.getSeats "FL-LAX-NYC-0800" none)]
    let events := Run.trace httpStep (seededContainer [seededFlight "FL-LAX-NYC-0800" ["30F"]]) ops
    events.map HttpEvent.status? = [some 201, some 200, some 409, some 200] ∧
      events.Pairwise SaleStands :=
  ⟨by decide +kernel, sale_stands (.start rfl (by decide)) _⟩

/-! ## A quote stands -/

/-- What a quote that was given at `e` means for the request at `e'`. -/
structure QuoteStands (e e' : HttpEvent) : Prop where
  /-- A booking on it is at its price, and within its thirty minutes. -/
  paid : ∀ payload q, HttpEvent.quotes e payload q → ∀ payload' b,
    HttpEvent.books e' payload' b → payload'.quoteId = some q.quoteId →
    b.totalCharged = ⟨q.total, q.currency⟩ ∧ e'.src.clock < e.src.clock.add quoteTtl
  /-- After that, one for a known flight is answered with `410`. -/
  expired : ∀ payload q, HttpEvent.quotes e payload q → ∀ env payload' request,
    e'.input = .serve env (.postBooking payload') → payload'.request = .ok request →
    payload'.quoteId = some q.quoteId → e'.src.flightRepo.get request.flightId ≠ none →
    e.src.clock.add quoteTtl ≤ e'.src.clock →
    e'.output = some (.ok (.exception 410 (some ("quote expired: " ++ q.quoteId))))

/-- The quote is in the store, until `expiry`. -/
def OnFile (c : Container) (q : QuoteResponse) (expiry : DateTime) : Prop :=
  ∃ quote, c.quoteStore.get? ⟨q.quoteId⟩ = some quote ∧ serializeQuote quote = .ok q ∧
    quote.expiresAt = expiry

section Quotes

variable {c : Container} {op : HttpOp} {q : QuoteResponse} {expiry : DateTime}

theorem serializeQuote_ok {quote : Quote} (h : serializeQuote quote = .ok q) :
    q.quoteId = quote.id.value ∧ ∃ total, quote.priceBreakdown.total = .ok total ∧
      q.total = total.amount.str ∧ q.currency = total.currency := by
  unfold serializeQuote at h
  cases htaxes : Money.of quote.priceBreakdown.taxes.amount
      quote.priceBreakdown.taxes.currency with
  | error e => simp [htaxes, bind, Except.bind] at h
  | ok taxes =>
  cases hfees : Money.of quote.priceBreakdown.fees.amount quote.priceBreakdown.fees.currency with
  | error e => simp [htaxes, hfees, bind, Except.bind] at h
  | ok fees =>
  cases htotal : quote.priceBreakdown.total with
  | error e => simp [htaxes, hfees, htotal, bind, Except.bind] at h
  | ok total =>
  simp only [htaxes, hfees, htotal, bind, Except.bind, pure, Except.pure, Except.ok.injEq] at h
  rw [← h]
  exact ⟨rfl, total, rfl, rfl, rfl⟩

theorem quoteResponse_eq_quote {out : Except Exn Quote} {status : Nat}
    (h : quoteResponse out = .ok ⟨status, .quote q⟩) :
    ∃ quote, out = .ok quote ∧ serializeQuote quote = .ok q := by
  unfold quoteResponse at h
  split at h
  · next quote =>
      cases hbody : serializeQuote quote with
      | error e =>
          rw [hbody] at h
          cases h
      | ok body =>
          rw [hbody] at h
          cases h
          exact ⟨quote, rfl, hbody⟩
  all_goals cases h

/-- A quote that is given is in the store. -/
theorem onFile_after {payload : QuotePayload}
    (h : HttpEvent.quotes (Run.Event.of httpStep c op) payload q) :
    OnFile (httpStep c op).2 q (c.clock.add quoteTtl) := by
  obtain ⟨env, hin, hout⟩ := h
  obtain rfl : op = .serve env (.postQuote payload) := hin
  have hout' : ((HttpApp.handle env (.postQuote payload)).run c).1 = .ok ⟨200, .quote q⟩ :=
    Option.some.inj hout
  have hdst : (httpStep c (.serve env (.postQuote payload))).2 =
      ((HttpApp.handle env (.postQuote payload)).run c).2 := rfl
  cases hbody : payload.validate with
  | error fields =>
      simp only [HttpApp.handle, hbody, Eff.run_pure] at hout'
      cases hout'
  | ok body =>
      rw [HttpApp.run_postQuote env hbody] at hout' hdst
      obtain ⟨quote, hquote, hserial⟩ := quoteResponse_eq_quote hout'
      have hexit := quote_exit env body.request c
      rw [hquote] at hexit
      rw [hdst]
      generalize ((QuoteService.quote env body.request).run c).2 = c' at hexit
      cases hexit with
      | @created a session sessions rest id event ha hs hid hrange hev hlog =>
          refine ⟨_, ?_, hserial, rfl⟩
          rw [(serializeQuote_ok hserial).1]
          exact Dict.get?_set_self _ _ _

theorem OnFile.keeps (h : OnFile c q expiry) (hI : Quoted c) (op : HttpOp) :
    OnFile (httpStep c op).2 q expiry := by
  obtain ⟨quote, hget, hrest⟩ := h
  refine ⟨quote, ?_, hrest⟩
  rw [httpStep_refines c op]
  cases op.op with
  | none => exact hget
  | some op => exact hI.get_step op hget

/-- The quote id of a body is that of its request. -/
theorem request_quoteId {payload : BookingPayload} {request : CommitRequest}
    (h : payload.request = .ok request) : request.quoteId = payload.quoteId.map QuoteId.mk := by
  unfold BookingPayload.request at h
  cases hflight : payload.flightId <;> simp [hflight, BookingPayload.required, bind,
    Except.bind] at h
  cases hseat : payload.seatId <;> simp [hseat] at h
  cases hpassenger : payload.passenger <;> simp [hpassenger] at h
  next passenger =>
    cases passenger <;> simp at h
    cases htoken : payload.paymentToken <;> simp [htoken, pure, Except.pure] at h
    rw [← h]

theorem OnFile.quoteStands {e : HttpEvent}
    (h : ∀ payload q, HttpEvent.quotes e payload q → OnFile c q (e.src.clock.add quoteTtl)) :
    QuoteStands e (Run.Event.of httpStep c op) where
  paid payload q hq payload' b hb hid := by
    obtain ⟨quote, hget, hserial, hexpiry⟩ := h payload q hq
    obtain ⟨env, request, total, result, ref, rest, hreq, hs, rfl, -⟩ := books_sold hb
    have hid' : request.quoteId = some ⟨q.quoteId⟩ := by
      rw [request_quoteId hreq, hid]
      rfl
    obtain ⟨quote', hget', hlive, -⟩ := hs.quote hid'
    obtain rfl : quote' = quote := Option.some.inj (hget'.symm.trans hget)
    obtain ⟨-, total', htotal, hamount, hcurrency⟩ := serializeQuote_ok hserial
    have hdue := hs.due
    rw [amountDue, liveQuote_eq_some_iff.mpr ⟨_, hid', hget, hlive⟩] at hdue
    obtain rfl : total' = total := Except.ok.inj (htotal.symm.trans hdue)
    refine ⟨?_, hexpiry ▸ hlive⟩
    rw [hamount, hcurrency]
    rfl
  expired payload q hq env payload' request hin hreq hid hflight hlate := by
    obtain ⟨quote, hget, hserial, hexpiry⟩ := h payload q hq
    obtain rfl : op = .serve env (.postBooking payload') := hin
    have hid' : request.quoteId = some ⟨q.quoteId⟩ := by
      rw [request_quoteId hreq, hid]
      rfl
    obtain ⟨flight, hflight'⟩ := Option.ne_none_iff_exists'.mp hflight
    have hrefusal : refusal c request =
        some (.refuse .quoteExpired ("quote expired: " ++ q.quoteId)) := by
      have hgone : c.quoteStore.getValid ⟨q.quoteId⟩ c.clock = none := by
        unfold InMemoryQuoteStore.getValid
        rw [hget]
        exact if_pos (hexpiry ▸ hlate)
      have hlook : (resolveQuote c.quoteStore request.quoteId c.clock).error =
          some (.refuse .quoteExpired ("quote expired: " ++ q.quoteId)) := by
        simp only [resolveQuote, hid', hgone, InMemoryQuoteStore.get, hget]
      have hflight'' : c.flightRepo.get request.flightId = some flight := hflight'
      simp [refusal, hflight'', hlook]
    show some ((HttpApp.handle env (.postBooking payload')).run c).1 = _
    rw [HttpApp.run_postBooking env hreq, commit_refused env hrefusal]
    rfl

end Quotes

/-- **A quote stands.** Over any run of requests, from a container whose quote ids do not
repeat: a booking on a quote that was given is charged the very text of its total and
currency, and was made within the thirty minutes; once they are over, one for a flight
of the repository is answered with `410`. -/
theorem quote_stands {c : Container} (hquoted : Quoted c) (ops : List HttpOp) :
    (Run.trace httpStep c ops).Pairwise QuoteStands := by
  refine Run.pairwise (A := fun _ _ => True) (I := Quoted)
    (K := fun e c => ∀ payload q, HttpEvent.quotes e payload q →
      OnFile c q (e.src.clock.add quoteTtl))
    (fun c op hI _ => httpStep_refines.keeps (fun _ op hI => hI.preserved op) c op hI) ?_ ?_ ?_
    hquoted (Run.Along.of_forall (fun _ _ => trivial) c ops)
  · exact fun c op hI _ payload q hq => onFile_after hq
  · exact fun e c op hI _ hk payload q hq => (hk payload q hq).keeps hI op
  · exact fun e c op hI _ hk => OnFile.quoteStands hk

/-- A quote for two seats pays for the one in time, and not for the other half an hour
later. -/
theorem quote_stands_two_seats :
    let payload : BookingPayload := {
      flightId := some "FL-LAX-NYC-0800"
      seatId := some "30F"
      passenger := some (some "Jane Doe")
      paymentToken := some "mock-ok"
      quoteId := some "Q001" }
    let ops : List HttpOp := [
      .serve .wired (.postQuote {
        flightId := some "FL-LAX-NYC-0800"
        seatIds := some ["30F", "30G"]
        passengers := some 2 }),
      .serve .wired (.postBooking payload),
      .setClock (testNow.add (DateTime.minutes 30)),
      .serve .wired (.postBooking { payload with seatId := some "30G" })]
    let events := Run.trace httpStep
      (seededContainer [seededFlight "FL-LAX-NYC-0800" ["30F", "30G"]]) ops
    events.map HttpEvent.status? = [some 200, some 201, none, some 410] ∧
      events.Pairwise QuoteStands :=
  ⟨by decide +kernel, quote_stands (.start rfl (by decide)) _⟩

end FlightBooking
