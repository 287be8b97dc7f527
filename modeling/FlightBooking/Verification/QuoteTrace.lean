import FlightBooking.Verification.AuditTrail
import FlightBooking.Verification.QuoteOutcome

/-!
# QuoteTrace — what a quote that raises leaves behind

Between the save and the log a quote can still raise: there its total is first
computed, and there the log is written. A quote that gets that far and raises stays
in the store without an event, for good, since no other call writes one for its id.
-/

namespace FlightBooking

open Py BookingService QuoteService

/-- A quote that gets as far as the store gets as far as the log: its fare is in dollars
with a total that can be computed, and the log takes the event. -/
def LogsIfStored (c : Container) : Op → Prop
  | .quote env request => ∀ flight, c.flightRepo.get request.flightId = some flight →
      c.clock.date ≤ flight.departureAt.date → Priceable c flight → IdsReady c request →
      (c.clock.add quoteTtl).InRange →
      Totals c flight request.seatIds ∧ env.fault .writeAudit = none
  | _ => True

/-- The quotes in the store are those with an event in the log. -/
def Matched (c : Container) : Prop :=
  ∀ id : QuoteId, (∃ q, c.quoteStore.get? id = some q) ↔
    ∃ event, .quoteCreated event ∈ c.audit ∧ event.quoteId = id.value

/-! ## One step -/

/-- What a call leaves in the store and in the log: nothing, a quote and its event, or
a quote alone. -/
inductive Leaves (c : Container) (op : Op) : Container → Prop
  | nothing {c' : Container} (hlogs : LogsIfStored c op) (hq : c'.quoteStore = c.quoteStore)
      (hi : c'.ids.quoteIds <:+ c.ids.quoteIds)
      (ha : ∀ event, .quoteCreated event ∈ c'.audit ↔ .quoteCreated event ∈ c.audit) :
      Leaves c op c'
  | both {c' : Container} {q : Quote} {id : String} {rest : List String} {event : QuoteCreated}
      (hlogs : LogsIfStored c op) (hid : c.ids.quoteIds = id :: rest) (hqid : q.id = ⟨id⟩)
      (hq : c'.quoteStore = c.quoteStore.save q) (hi : c'.ids.quoteIds = rest)
      (hevent : event.quoteId = id) (ha : c'.audit = c.audit ++ [.quoteCreated event]) :
      Leaves c op c'
  | quoteOnly {c' : Container} {q : Quote} {id : String} {rest : List String}
      (hlogs : ¬ LogsIfStored c op) (hid : c.ids.quoteIds = id :: rest) (hqid : q.id = ⟨id⟩)
      (hq : c'.quoteStore = c.quoteStore.save q) (hi : c'.ids.quoteIds = rest)
      (ha : c'.audit = c.audit) : Leaves c op c'

section Step

variable {c c' : Container} {env : Collaborators} {request : QuoteRequest}

/-- A quote has been stored: the conditions for that were met. -/
theorem logsIfStored_iff {a : Appraisal} {session : SessionId} {sessions rest : List String}
    {id : String} (ha : appraise c request = .ok a)
    (hs : drawSession c request = some (session, sessions)) (hid : c.ids.quoteIds = id :: rest)
    (hrange : (c.clock.add quoteTtl).InRange) :
    LogsIfStored c (.quote env request) ↔
      (∃ total, a.breakdown.total = .ok total) ∧ env.fault .writeAudit = none := by
  obtain ⟨flight, hcosted⟩ := appraise_costed ha
  obtain ⟨hdate, hpriceable⟩ := (appraise_ok_iff hcosted.found).mp ⟨a, ha⟩
  have hready : IdsReady c request := ⟨by simp [hs], by simp [hid]⟩
  rw [hcosted.total_ok_iff]
  constructor
  · exact fun h => h flight hcosted.found hdate hpriceable hready hrange
  · intro h flight' hfound _ _ _ _
    obtain rfl : flight = flight' := Option.some.inj (hcosted.found.symm.trans hfound)
    exact h

/-- A quote that is not stored has nothing to log. -/
theorem logsIfStored_of_error {e : Exn} (h : appraise c request = .error e) :
    LogsIfStored c (.quote env request) := by
  intro flight hfound hdate hpriceable _ _
  obtain ⟨a, ha⟩ := (appraise_ok_iff hfound).mpr ⟨hdate, hpriceable⟩
  rw [ha] at h
  cases h

theorem not_logsIfStored_of_unrendered {a : Appraisal} {session : SessionId}
    {sessions rest : List String} {id : String} {e : Exn} (ha : appraise c request = .ok a)
    (hs : drawSession c request = some (session, sessions)) (hid : c.ids.quoteIds = id :: rest)
    (hrange : (c.clock.add quoteTtl).InRange)
    (hev : eventOf (quoteOf c request a session id) a = .error e) :
    ¬ LogsIfStored c (.quote env request) := by
  rw [logsIfStored_iff ha hs hid hrange, eventOf_error hev]
  rintro ⟨⟨_, htotal⟩, -⟩
  cases htotal

theorem not_logsIfStored_of_unlogged {a : Appraisal} {session : SessionId}
    {sessions rest : List String} {id : String} {e : Exn} (ha : appraise c request = .ok a)
    (hs : drawSession c request = some (session, sessions)) (hid : c.ids.quoteIds = id :: rest)
    (hrange : (c.clock.add quoteTtl).InRange) (hlog : env.fault .writeAudit = some e) :
    ¬ LogsIfStored c (.quote env request) := by
  rw [logsIfStored_iff ha hs hid hrange, hlog]
  rintro ⟨-, hnone⟩
  cases hnone

theorem QuoteService.QuoteExit.leaves {out : Except Exn Quote}
    (h : QuoteExit env request c out c') : Leaves c (.quote env request) c' := by
  cases h with
  | rejected h =>
      exact .nothing (logsIfStored_of_error h) rfl (List.suffix_refl _) fun _ => Iff.rfl
  | noSession h hs =>
      exact .nothing (fun _ _ _ _ hready => absurd hs hready.session) rfl (List.suffix_refl _)
        fun _ => Iff.rfl
  | noQuoteId h hs hid =>
      exact .nothing (fun _ _ _ _ hready => absurd hid hready.quote) rfl (List.suffix_refl _)
        fun _ => Iff.rfl
  | @overflowed a session sessions rest id h hs hid hrange =>
      refine .nothing (fun _ _ _ _ _ hyes => absurd hyes hrange) rfl ?_ fun _ => Iff.rfl
      rw [hid]
      exact List.suffix_cons id rest
  | unrendered h hs hid hrange hev =>
      exact .quoteOnly (not_logsIfStored_of_unrendered h hs hid hrange hev) hid rfl rfl rfl rfl
  | unlogged h hs hid hrange hev hlog =>
      exact .quoteOnly (not_logsIfStored_of_unlogged h hs hid hrange hlog) hid rfl rfl rfl rfl
  | created h hs hid hrange hev hlog =>
      refine .both ?_ hid rfl rfl rfl (eventOf_describes rfl hev).1 rfl
      exact (logsIfStored_iff h hs hid hrange).mpr ⟨eventOf_ok_iff.mp ⟨_, hev⟩, hlog⟩

/-- A commit logs no quote. -/
theorem BookingService.CommitExit.quote_events {request : CommitRequest}
    {out : Except Exn CommitResult} (h : CommitExit env request c out c') (event : QuoteCreated) :
    .quoteCreated event ∈ c'.audit ↔ .quoteCreated event ∈ c.audit := by
  cases h with
  | declined h hno hlog => simp [declinedEvent]
  | committed h hyes href hgen hsave hqueue hrel hlog => simp [afterCommit]
  | _ => exact Iff.rfl

theorem StepExit.leaves {op : Op} {out : Output} (h : StepExit c op out c') : Leaves c op c' := by
  cases h with
  | commit h =>
      refine .nothing trivial h.frame.quoteStore ?_ h.quote_events
      rw [h.frame.quoteIds]
  | quote h => exact h.leaves
  | _ => exact .nothing trivial rfl (List.suffix_refl _) fun _ => Iff.rfl

theorem step_leaves (c : Container) (op : Op) : Leaves c op (step c op).2 :=
  (step_exit c op).leaves

/-- A saved quote is new to a store whose ids are fresh. -/
theorem Quoted.save_ne (hI : Quoted c) {q : Quote} {id : String} {rest : List String}
    (hid : c.ids.quoteIds = id :: rest) (hqid : q.id = ⟨id⟩) :
    c.quoteStore.save q ≠ c.quoteStore := by
  intro hsame
  have hfresh : c.quoteStore.get? ⟨id⟩ = none := hI.idsFresh id (by simp [hid])
  rw [← hsame, InMemoryQuoteStore.save, hqid, Dict.get?_set_self] at hfresh
  cases hfresh

/-- A quote that raises leaves nothing, exactly if it logs what it stores. -/
theorem QuoteService.QuoteExit.unchanged_iff {out : Except Exn Quote}
    (h : QuoteExit env request c out c') (hI : Quoted c) :
    (∀ e, out = .error e → c'.quoteStore = c.quoteStore ∧ c'.audit = c.audit) ↔
      LogsIfStored c (.quote env request) := by
  cases h with
  | rejected h => exact iff_of_true (fun _ _ => ⟨rfl, rfl⟩) (logsIfStored_of_error h)
  | noSession h hs =>
      exact iff_of_true (fun _ _ => ⟨rfl, rfl⟩) fun _ _ _ _ hready => absurd hs hready.session
  | noQuoteId h hs hid =>
      exact iff_of_true (fun _ _ => ⟨rfl, rfl⟩) fun _ _ _ _ hready => absurd hid hready.quote
  | overflowed h hs hid hrange =>
      exact iff_of_true (fun _ _ => ⟨rfl, rfl⟩) fun _ _ _ _ _ hyes => absurd hyes hrange
  | unrendered h hs hid hrange hev =>
      exact iff_of_false (fun hall => hI.save_ne hid rfl (hall _ rfl).1)
        (not_logsIfStored_of_unrendered h hs hid hrange hev)
  | unlogged h hs hid hrange hev hlog =>
      exact iff_of_false (fun hall => hI.save_ne hid rfl (hall _ rfl).1)
        (not_logsIfStored_of_unlogged h hs hid hrange hlog)
  | created h hs hid hrange hev hlog =>
      refine iff_of_true (fun _ he => nomatch he) ?_
      exact (logsIfStored_iff h hs hid hrange).mpr ⟨eventOf_ok_iff.mp ⟨_, hev⟩, hlog⟩

/-! ## A run -/

theorem stored_save_iff {quotes : InMemoryQuoteStore} {q : Quote} {key : QuoteId} :
    (∃ q', (quotes.save q).get? key = some q') ↔ q.id = key ∨ ∃ q', quotes.get? key = some q' := by
  rw [InMemoryQuoteStore.save]
  by_cases he : q.id = key
  · rw [← he, Dict.get?_set_self]
    simp
  · rw [Dict.get?_set_ne _ _ he]
    simp [he]

/-- A step that logs what it stores keeps store and log in step. -/
theorem Matched.preserved (h : Matched c) {op : Op} (hlogs : LogsIfStored c op) :
    Matched (step c op).2 := by
  intro key
  cases step_leaves c op with
  | nothing _ hq hi ha =>
      rw [hq, h key]
      exact exists_congr fun event => and_congr_left' (ha event).symm
  | both _ hid hqid hq hi hevent ha =>
      rw [hq, ha, stored_save_iff, h key]
      simp only [List.mem_append, List.mem_singleton, AuditEvent.quoteCreated.injEq, or_and_right,
        exists_or, exists_eq_left, hevent, hqid]
      rw [or_comm]
      exact or_congr_right ⟨fun h => congrArg QuoteId.value h, fun h => by cases key; cases h; rfl⟩
  | quoteOnly hno => exact absurd hlogs hno

/-- A quote that is stored, has no event and will get none. -/
structure Orphan (id : String) (c : Container) : Prop where
  stored : ∃ q, c.quoteStore.get? ⟨id⟩ = some q
  unlogged : ∀ event, .quoteCreated event ∈ c.audit → event.quoteId ≠ id
  used : id ∉ c.ids.quoteIds

/-- Later quotes have other ids. -/
theorem Orphan.preserved {id : String} (h : Orphan id c) (op : Op) : Orphan id (step c op).2 := by
  have hother : ∀ {new : String} {rest : List String}, c.ids.quoteIds = new :: rest →
      new ≠ id ∧ id ∉ rest := by
    intro new rest hid
    have hused := h.used
    rw [hid, List.mem_cons, not_or] at hused
    exact ⟨Ne.symm hused.1, hused.2⟩
  cases step_leaves c op with
  | nothing _ hq hi ha =>
      exact ⟨hq ▸ h.stored, fun event hmem => h.unlogged event ((ha event).mp hmem),
        fun hmem => h.used (hi.subset hmem)⟩
  | both _ hid hqid hq hi hevent ha =>
      obtain ⟨hne, hrest⟩ := hother hid
      refine ⟨hq ▸ stored_save_iff.mpr (.inr h.stored), ?_, hi ▸ hrest⟩
      intro event hmem
      rw [ha, List.mem_append, List.mem_singleton, AuditEvent.quoteCreated.injEq] at hmem
      rcases hmem with hold | rfl
      · exact h.unlogged event hold
      · exact hevent ▸ hne
  | quoteOnly _ hid hqid hq hi ha =>
      exact ⟨hq ▸ stored_save_iff.mpr (.inr h.stored), ha ▸ h.unlogged, hi ▸ (hother hid).2⟩

theorem Orphan.not_matched {id : String} (h : Orphan id c) : ¬ Matched c := by
  intro hmatched
  obtain ⟨event, hmem, hevent⟩ := (hmatched ⟨id⟩).mp h.stored
  exact h.unlogged event hmem hevent

/-- A step that does not log what it stores leaves an orphan. -/
theorem Matched.orphan (h : Matched c) (hI : Quoted c) {op : Op} (hlogs : ¬ LogsIfStored c op) :
    ∃ id, Orphan id (step c op).2 := by
  cases step_leaves c op with
  | nothing hyes => exact absurd hyes hlogs
  | both hyes => exact absurd hyes hlogs
  | @quoteOnly _ id rest _ hid hqid hq hi ha =>
      have hnodup := hI.idsNodup
      rw [hid, List.nodup_cons] at hnodup
      refine ⟨id, hq ▸ stored_save_iff.mpr (.inl hqid), ?_, hi ▸ hnodup.1⟩
      rw [ha]
      intro event hmem hevent
      obtain ⟨q', hq'⟩ := (h ⟨id⟩).mpr ⟨event, hmem, hevent⟩
      rw [hI.idsFresh id (by simp [hid])] at hq'
      cases hq'

end Step

/-- Store and log are in step after a run exactly if every step logs what it stores. -/
theorem matched_final_iff {c : Container} (hI : Quoted c) (h : Matched c) (ops : List Op) :
    Matched (Run.final step c ops) ↔ Run.Along step LogsIfStored c ops := by
  induction ops generalizing c with
  | nil => exact iff_of_true h trivial
  | cons op ops ih =>
      by_cases hlogs : LogsIfStored c op
      · have hrest := ih (hI.preserved op) (h.preserved hlogs)
        exact hrest.trans (and_iff_right hlogs).symm
      · obtain ⟨id, horphan⟩ := h.orphan hI hlogs
        have hfinal : Orphan id (Run.final step c (op :: ops)) :=
          Run.invariant_all (fun _ op h => h.preserved op) horphan ops
        exact iff_of_false hfinal.not_matched (fun halong => hlogs halong.1)

/-- **A failed quote and its trace.** From empty stores with fresh ids, after any run: a
call of `quote` that raises leaves store and log as they were, for all that it may
raise, exactly if it logs what it stores; and the quotes in the store are those with
an event exactly if every step of the run does. -/
theorem failed_quote_leaves_no_trace_iff {c₀ : Container} (hquotes : c₀.quoteStore = Dict.empty)
    (hlog : c₀.audit = []) (hids : c₀.ids.quoteIds.Nodup) (ops : List Op) :
    let c := Run.final step c₀ ops
    (∀ (env : Collaborators) (request : QuoteRequest),
      (∀ e, ((quote env request).run c).1 = .error e →
        ((quote env request).run c).2.quoteStore = c.quoteStore ∧
          ((quote env request).run c).2.audit = c.audit) ↔
        LogsIfStored c (.quote env request)) ∧
    (Matched c ↔ Run.Along step LogsIfStored c₀ ops) := by
  intro c
  have hstart : Quoted c₀ := .start hquotes hids
  have hI : Quoted c := Run.invariant_all (fun _ op h => h.preserved op) hstart ops
  have hmatched : Matched c₀ := by
    intro id
    simp [hquotes, hlog]
  exact ⟨fun env request => (quote_exit env request c).unchanged_iff hI,
    matched_final_iff hstart hmatched ops⟩

/-- A flight in dollars, quoted once: the quote and its event. -/
theorem failed_quote_leaves_no_trace_iff_dollars :
    Matched (Run.final step (seededContainer [seededFlight "FL-LAX-NYC-0800" []])
      [.quote .wired noSeats]) := by
  let flight := seededFlight "FL-LAX-NYC-0800" []
  have hready : IdsReady (seededContainer [flight]) noSeats := ⟨by decide, by decide⟩
  have hquoted : ∃ q, ((quote .wired noSeats).run (seededContainer [flight])).1 = .ok q :=
    ⟨_, rfl⟩
  have hflight : (seededContainer [flight]).flightRepo.get noSeats.flightId = some flight := rfl
  have htotals := ((quote_returns_iff hflight hready rfl).mp hquoted).2.2.2
  refine (failed_quote_leaves_no_trace_iff rfl rfl (by decide) _).2.mpr ⟨?_, trivial⟩
  intro flight' hfound _ _ _ _
  obtain rfl : flight = flight' := Option.some.inj hfound
  exact ⟨htotals, rfl⟩

/-- A flight whose fare is in euros is quoted. The call raises for want of dollars, and
the quote stays, without an event. -/
theorem failed_quote_stays :
    let flight : Flight := { seededFlight "FL-LAX-NYC-0800" [] with
      baseFare := ⟨.finite false 29900 (-2), "EUR"⟩ }
    let c := seededContainer [flight]
    let after := (quote .wired noSeats).run c
    after.1 = .error (.valueError "fees currency USD != base EUR") ∧
      after.2.audit = [] ∧ (∃ q, after.2.quoteStore.get? ⟨"Q001"⟩ = some q) ∧
      ¬ (∀ e, after.1 = .error e →
        after.2.quoteStore = c.quoteStore ∧ after.2.audit = c.audit) ∧
      ¬ Matched after.2 := by
  intro flight c after
  have hraised : after.1 = .error (.valueError "fees currency USD != base EUR") := by decide
  have hlog : after.2.audit = [] := rfl
  have hstored : ∃ q, after.2.quoteStore.get? ⟨"Q001"⟩ = some q := ⟨_, rfl⟩
  refine ⟨hraised, hlog, hstored, fun hall => ?_, fun hmatched => ?_⟩
  · obtain ⟨q, hq⟩ := hstored
    rw [(hall _ hraised).1] at hq
    cases hq
  · obtain ⟨event, hmem, -⟩ := (hmatched ⟨"Q001"⟩).mp hstored
    rw [hlog] at hmem
    cases hmem

end FlightBooking
