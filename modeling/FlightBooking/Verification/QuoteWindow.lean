import FlightBooking.Verification.StepSpec

/-!
# QuoteWindow — the price seen is the price paid

A quote is stored under an id of its own and never touched again, and its total
is a function of what is stored. So a commit that carries the id finds the same
total at any later moment, whatever has happened to the flight; only the clock
decides whether it may still use it.
-/

namespace FlightBooking

open Py BookingService QuoteService

/-! ## The invariant -/

/-- What the quotes know at every moment of a run. -/
structure Quoted (c : Container) : Prop where
  keyed : ∀ id q, c.quoteStore.get? id = some q → q.id = id
  idsNodup : c.ids.quoteIds.Nodup
  idsFresh : ∀ id ∈ c.ids.quoteIds, c.quoteStore.get? ⟨id⟩ = none

theorem Quoted.start {c : Container} (hempty : c.quoteStore = Dict.empty)
    (hids : c.ids.quoteIds.Nodup) : Quoted c where
  keyed := by simp [hempty]
  idsNodup := hids
  idsFresh := by simp [hempty]

/-- A stored quote stays as it is. -/
theorem Quoted.get_step {c : Container} (hI : Quoted c) (op : Op) {id : QuoteId} {q : Quote}
    (hq : c.quoteStore.get? id = some q) : (step c op).2.quoteStore.get? id = some q := by
  cases step_quotes c op with
  | kept hkept hi =>
      rw [hkept]
      exact hq
  | @saved env request a session new rest _ ha hid hsaved hi =>
      have hne : (quoteOf c request a session new).id ≠ id := by
        intro he
        have hnone := hI.idsFresh new (by simp [hid])
        rw [← he] at hq
        exact absurd (hq.symm.trans hnone) (by simp)
      rw [hsaved]
      exact Dict.get?_set_eq_some_iff.mpr (.inr ⟨hne, hq⟩)

theorem Quoted.preserved {c : Container} (hI : Quoted c) (op : Op) : Quoted (step c op).2 := by
  cases step_quotes c op with
  | kept hkept hi =>
      exact ⟨hkept ▸ hI.keyed, hI.idsNodup.sublist hi.sublist,
        hkept ▸ fun id hid => hI.idsFresh id (hi.subset hid)⟩
  | @saved env request a session new rest _ ha hid hsaved hi =>
      have hnodup := hI.idsNodup
      rw [hid, List.nodup_cons] at hnodup
      refine ⟨?_, hi ▸ hnodup.2, ?_⟩
      · intro id q hq
        rw [hsaved] at hq
        rcases Dict.get?_set_eq_some_iff.mp hq with ⟨he, rfl⟩ | ⟨-, hold⟩
        · exact he
        · exact hI.keyed id q hold
      · intro id hm
        rw [hi] at hm
        have hne : (quoteOf c request a session new).id ≠ ⟨id⟩ := by
          intro he
          obtain rfl : new = id := congrArg QuoteId.value he
          exact hnodup.1 hm
        rw [hsaved, InMemoryQuoteStore.save, Dict.get?_set_ne _ _ hne]
        exact hI.idsFresh id (by simp [hid, hm])

/-! ## A quote that is returned -/

theorem QuoteService.QuoteExit.stored {c c' : Container} {env : Collaborators}
    {request : QuoteRequest} {q : Quote} (h : QuoteExit env request c (.ok q) c') :
    c'.quoteStore.get? q.id = some q ∧ q.expiresAt = c.clock.add quoteTtl ∧
      ∃ total, q.priceBreakdown.total = .ok total := by
  cases h with
  | @created a session sessions rest id event ha hs hid hrange hev hlog =>
      obtain ⟨total, htotal, -⟩ := eventOf_ok hev
      exact ⟨Dict.get?_set_self _ _ _, rfl, total, htotal⟩

/-- A quote that comes out is stored, for thirty minutes, and has a total. -/
theorem step_quoted {c : Container} {env : Collaborators} {request : QuoteRequest} {q : Quote}
    (h : (step c (.quote env request)).1 = .quote (.ok q)) :
    (step c (.quote env request)).2.quoteStore.get? q.id = some q ∧
      q.expiresAt = c.clock.add quoteTtl ∧ ∃ total, q.priceBreakdown.total = .ok total := by
  have hexit := quote_exit env request c
  rw [show ((quote env request).run c).1 = .ok q from Output.quote.inj h] at hexit
  exact hexit.stored

/-! ## A commit that carries the id -/

section Commit

variable {c : Container} {request : CommitRequest} {id : QuoteId} {q : Quote} {flight : Flight}

theorem refusal_expired (hf : c.flightRepo.get? request.flightId = some flight)
    (hid : request.quoteId = some id) (hq : c.quoteStore.get? id = some q)
    (hdead : q.expiresAt ≤ c.clock) :
    refusal c request = some (.refuse .quoteExpired ("quote expired: " ++ id.value)) := by
  have hf' : c.flightRepo.get request.flightId = some flight := hf
  have hg : c.quoteStore.get id = some q := hq
  have hv : c.quoteStore.getValid id c.clock = none := by
    simp [InMemoryQuoteStore.getValid, hq, hdead]
  simp [refusal, hf', resolveQuote, hid, hv, hg]

theorem refusal_unknown (hf : c.flightRepo.get? request.flightId = some flight)
    (hid : request.quoteId = some id) (hq : c.quoteStore.get? id = none) :
    refusal c request = some (.refuse .quoteNotFound ("quote not found: " ++ id.value)) := by
  have hf' : c.flightRepo.get request.flightId = some flight := hf
  have hg : c.quoteStore.get id = none := hq
  have hv : c.quoteStore.getValid id c.clock = none := by
    simp [InMemoryQuoteStore.getValid, hq]
  simp [refusal, hf', resolveQuote, hid, hv, hg]

/-- With a live quote the checks that are left are about seats and locks. -/
theorem refusal_live (hf : c.flightRepo.get? request.flightId = some flight)
    (hid : request.quoteId = some id) (hq : c.quoteStore.get? id = some q)
    (hlive : c.clock < q.expiresAt) :
    RefusesWith [.unknownSeat, .seatNotForSale, .seatAlreadyBooked, .lockNotFound, .lockExpired,
      .lockSessionMismatch] (refusal c request) := by
  have hf' : c.flightRepo.get request.flightId = some flight := hf
  have herr : (resolveQuote c.quoteStore request.quoteId c.clock).error = none := by
    rw [resolveQuote_error_eq_none_iff]
    intro id' hid'
    rw [hid] at hid'
    cases hid'
    exact ⟨q, hq, hlive⟩
  simp only [refusal, hf', herr, Option.none_or]
  refine .or ?_ ?_
  · exact (validateSeats_refuses _ _ _).mono (by simp)
  · exact (validateLock_refuses _ _ _).mono (by simp)

theorem amountDue_live (hid : request.quoteId = some id) (hq : c.quoteStore.get? id = some q)
    (hlive : c.clock < q.expiresAt) : amountDue c request = q.priceBreakdown.total := by
  have hlq : liveQuote c request = some q := liveQuote_eq_some_iff.mpr ⟨id, hid, hq, hlive⟩
  simp [amountDue, hlq]

end Commit

/-- The error code that came out, if one did. -/
def Output.errorCode? : Output → Option ErrorCode
  | .commit (.ok result) => result.errorCode
  | _ => none

theorem BookingService.CommitExit.live_code {c c' : Container} {env : Collaborators}
    {request : CommitRequest} {out : Except Exn CommitResult} {id : QuoteId} {q : Quote}
    {flight : Flight} (h : CommitExit env request c out c')
    (hf : c.flightRepo.get? request.flightId = some flight) (hid : request.quoteId = some id)
    (hq : c.quoteStore.get? id = some q) (hlive : c.clock < q.expiresAt) :
    (Output.commit out).errorCode? ≠ some .quoteNotFound ∧
      (Output.commit out).errorCode? ≠ some .quoteExpired := by
  cases h with
  | refused h =>
      obtain ⟨code, hcode, message, rfl⟩ := refusal_live hf hid hq hlive _ h
      constructor <;> intro he <;> cases he <;> simp at hcode
  | _ => simp [Output.errorCode?, CommitResult.refuse]

/-- A live quote is never the reason of a refusal. -/
theorem commit_live_code {c : Container} {env : Collaborators} {request : CommitRequest}
    {id : QuoteId} {q : Quote} {flight : Flight}
    (hf : c.flightRepo.get? request.flightId = some flight) (hid : request.quoteId = some id)
    (hq : c.quoteStore.get? id = some q) (hlive : c.clock < q.expiresAt) :
    (step c (.commit env request)).1.errorCode? ≠ some .quoteNotFound ∧
      (step c (.commit env request)).1.errorCode? ≠ some .quoteExpired :=
  (commit_exit env request c).live_code hf hid hq hlive

/-- The quote of a commit that was sold. -/
theorem Sold.quote {env : Collaborators} {request : CommitRequest} {c : Container}
    {total : Money} {result : PaymentResult} {ref : String} {rest : List String}
    (hs : Sold env request c total result ref rest) {id : QuoteId}
    (hid : request.quoteId = some id) :
    ∃ q, c.quoteStore.get? id = some q ∧ c.clock < q.expiresAt ∧
      bookedQuoteId c request = q.id := by
  obtain ⟨flight, hp⟩ := refusal_eq_none_iff.mp hs.passed
  obtain ⟨q, hq, hlive⟩ := hp.quote id hid
  have hlq : liveQuote c request = some q := liveQuote_eq_some_iff.mpr ⟨id, hid, hq, hlive⟩
  exact ⟨q, hq, hlive, by simp [bookedQuoteId, hlq]⟩

/-- A booking carries the id that the commit carried, or the sentinel. -/
theorem Sold.bookedQuoteId {env : Collaborators} {request : CommitRequest} {c : Container}
    {total : Money} {result : PaymentResult} {ref : String} {rest : List String}
    (hs : Sold env request c total result ref rest) (hI : Quoted c) :
    bookedQuoteId c request = request.quoteId.getD wsShortcutQuoteId := by
  cases hid : request.quoteId with
  | none => simp [BookingService.bookedQuoteId, liveQuote_none hid]
  | some id =>
      obtain ⟨q, hq, -, hbook⟩ := hs.quote hid
      rw [hbook, hI.keyed id q hq]
      rfl

/-! ## The window -/

/-- How the commit of event `e` treats quote `q` of total `total`, issued at `issued`. -/
structure Honours (q : Quote) (total : Money) (issued : DateTime) (request : CommitRequest)
    (e : Event) : Prop where
  live : e.src.clock < issued.add quoteTtl →
    e.output.errorCode? ≠ some .quoteNotFound ∧ e.output.errorCode? ≠ some .quoteExpired
  price : e.src.clock < issued.add quoteTtl → ∀ b, e.output.booking? = some b →
    b.totalCharged = total ∧
      e.dst.charges = e.src.charges ++ [⟨request.paymentToken, total, true⟩]
  expired : issued.add quoteTtl ≤ e.src.clock →
    e.output = .commit (.ok (.refuse .quoteExpired ("quote expired: " ++ q.id.value)))

/-- A stored quote is honoured by the next commit that carries its id. -/
theorem honours_step {c : Container} {env : Collaborators} {request : CommitRequest} {q : Quote}
    {total : Money} {issued : DateTime} (hq : c.quoteStore.get? q.id = some q)
    (hexp : q.expiresAt = issued.add quoteTtl) (htotal : q.priceBreakdown.total = .ok total)
    (hid : request.quoteId = some q.id) (hf : c.flightRepo.get? request.flightId ≠ none) :
    Honours q total issued request (Run.Event.of step c (.commit env request)) := by
  obtain ⟨flight, hflight⟩ := Option.ne_none_iff_exists'.mp hf
  refine ⟨?_, ?_, ?_⟩
  · intro hlive
    exact commit_live_code hflight hid hq (hexp ▸ hlive)
  · intro hlive b hb
    obtain ⟨env', request', total', result, ref, rest, hop, hs, hbook, hc⟩ := step_sold hb
    cases hop
    have hdue := hs.due
    rw [amountDue_live hid hq (hexp ▸ hlive), htotal] at hdue
    cases hdue
    refine ⟨by rw [hbook]; rfl, ?_⟩
    show (step c (.commit env request)).2.charges = _
    rw [hc]
    rfl
  · intro hdead
    have hrun := commit_refused env (refusal_expired hflight hid hq (hexp ▸ hdead))
    exact congrArg (fun r => Output.commit r.1) hrun

/-- The event is a quote call that put `id` into the store. -/
def Event.stores (id : QuoteId) (e : Event) : Prop :=
  (∃ env request, e.input = .quote env request) ∧ e.src.quoteStore.get? id = none ∧
    e.dst.quoteStore.get? id ≠ none

/-- An id that no event has stored is not in the store. -/
theorem get?_of_not_stores {c : Container} {id : QuoteId} {op : Op}
    (hnone : c.quoteStore.get? id = none) (h : ¬ Event.stores id (Run.Event.of step c op)) :
    (step c op).2.quoteStore.get? id = none := by
  by_contra hsome
  cases hstep : step_quotes c op with
  | kept hkept hi => exact hsome (hkept ▸ hnone)
  | @saved env request a session new rest _ ha hid hsaved hi =>
      exact h ⟨⟨env, request, rfl⟩, hnone, hsome⟩

/-- Whatever quote `e` returned, a later commit `e'` on it honours it, if its
flight exists. -/
def TrustWindow (e e' : Event) : Prop :=
  ∀ env request q, e.input = .quote env request → e.output = .quote (.ok q) →
    ∃ total, q.priceBreakdown.total = .ok total ∧
      ∀ env' request', e'.input = .commit env' request' → request'.quoteId = some q.id →
        e'.src.flightRepo.get? request'.flightId ≠ none →
        Honours q total e.src.clock request' e'

/-- **The trust window.** In every run from a container without quotes whose
quote ids do not repeat, every later commit on a quote that was returned honours
it: within thirty minutes no quote error, and the total of the quote is what is
charged and recorded; from then on `QUOTE_EXPIRED`. A commit on an id that no
quote call has stored is refused with `QUOTE_NOT_FOUND`. Both for commits whose
flight exists. -/
theorem quote_trust_window {c : Container} (hempty : c.quoteStore = Dict.empty)
    (hids : c.ids.quoteIds.Nodup) (ops : List Op) :
    (Run.trace step c ops).Pairwise TrustWindow ∧
    ∀ before e after, Run.trace step c ops = before ++ e :: after →
      ∀ env request id, e.input = .commit env request → request.quoteId = some id →
        e.src.flightRepo.get? request.flightId ≠ none →
        (∀ e' ∈ before, ¬ Event.stores id e') →
        e.output = .commit (.ok (.refuse .quoteNotFound ("quote not found: " ++ id.value))) := by
  have hI : Quoted c := .start hempty hids
  constructor
  · refine Run.pairwise (A := fun _ _ => True) (I := Quoted)
      (K := fun e c => ∀ env request q, e.input = .quote env request →
        e.output = .quote (.ok q) → c.quoteStore.get? q.id = some q ∧
          q.expiresAt = e.src.clock.add quoteTtl ∧ ∃ total, q.priceBreakdown.total = .ok total)
      (fun _ op h _ => h.preserved op) ?_ ?_ ?_ hI (Run.Along.of_forall (fun _ _ => trivial) c ops)
    · -- the quote call makes the promise
      intro c op hI _ env request q hin hout
      obtain rfl : op = .quote env request := hin
      exact step_quoted hout
    · -- every step keeps it
      intro e c op hI _ hk env request q hin hout
      obtain ⟨hq, hexp, htotal⟩ := hk env request q hin hout
      exact ⟨hI.get_step op hq, hexp, htotal⟩
    · -- and a commit that meets it honours the quote
      intro e c op hI _ hk env request q hin hout
      obtain ⟨hq, hexp, total, htotal⟩ := hk env request q hin hout
      refine ⟨total, htotal, ?_⟩
      intro env' request' hin' hid hf
      obtain rfl : op = .commit env' request' := hin'
      exact honours_step hq hexp htotal hid hf
  · intro before e after htrace env request id hin hid hf hbefore
    obtain ⟨js, op, ks, rfl, rfl, rfl⟩ := Run.trace_split htrace
    obtain rfl : op = .commit env request := hin
    have hnone : (Run.final step c js).quoteStore.get? id = none :=
      Run.invariant (I := fun c => c.quoteStore.get? id = none)
        (fun _ _ hnone hno => get?_of_not_stores hnone hno) (by simp [hempty])
        (Run.along_of_trace hbefore)
    obtain ⟨flight, hflight⟩ := Option.ne_none_iff_exists'.mp hf
    have hrun := commit_refused env (refusal_unknown hflight hid hnone)
    exact congrArg (fun r => Output.commit r.1) hrun

/-- The fare doubles between the quote and the commit; the commit pays the quote. -/
theorem quote_trust_window_fare_change :
    let flight := seededFlight "FL-LAX-NYC-0800" ["30F"]
    let ops : List Op := [
      .quote .wired { flightId := flight.id, seatIds := [⟨"30F"⟩], passengers := 1 },
      .addFlight { flight with baseFare := Money.whole 598 },
      .commit .wired { commitFor "FL-LAX-NYC-0800" ["30F"] with quoteId := some ⟨"Q001"⟩ }]
    let c := seededContainer [flight]
    (Run.final step c ops).bookingRepo.values.map (fun b => b.totalCharged.amount.str) =
        ["260.35"] ∧
      (Run.trace step c ops).Pairwise TrustWindow :=
  ⟨by decide, (quote_trust_window rfl (by decide) _).1⟩

/-- The flight is looked up first: on a flight that does not exist an unknown
quote is not reported. -/
theorem unknown_quote_unknown_flight :
    ¬ ∀ (ops : List Op) before e after,
      Run.trace step (seededContainer []) ops = before ++ e :: after →
      ∀ env request id, e.input = .commit env request → request.quoteId = some id →
        (∀ e' ∈ before, ¬ Event.stores id e') →
        e.output = .commit (.ok (.refuse .quoteNotFound ("quote not found: " ++ id.value))) := by
  intro h
  have hout := h [.commit .wired { commitFor "FL-LAX-NYC-0800" ["30F"] with
    quoteId := some ⟨"Q999"⟩ }] [] _ [] rfl _ _ _ rfl rfl (by simp)
  have hcode := congrArg Output.errorCode? hout
  exact absurd hcode (by decide)

end FlightBooking
