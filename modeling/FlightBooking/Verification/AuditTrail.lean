import FlightBooking.Support.AuditReplay
import FlightBooking.Verification.NoDoubleBooking
import FlightBooking.Verification.QuoteWindow

/-!
# AuditTrail — the log accounts for every booking

Bookings and events are written by two services that know nothing of each
other. What ties them together is the quote store: a quote whose total can be
computed has one event, with that total, and a commit can only charge a quote
that is stored, and live, and whose total can be computed.
-/

namespace FlightBooking

open Py BookingService QuoteService

/-! ## A step on which nothing raises but the services themselves -/

/-- No port call of the input raises. -/
def Op.Quiet : Op → Prop
  | .commit env _ => ∀ port, env.fault port = none
  | .quote env _ => ∀ port, env.fault port = none
  | _ => True

/-- What a quiet step does to the bookings, the quotes and the log. -/
inductive QuietStep (c : Container) : Op → Container → Prop
  | silent {op : Op} {c' : Container} (hb : c'.bookingRepo = c.bookingRepo)
      (hq : c'.quoteStore = c.quoteStore)
      (ha : c'.audit = c.audit ∨ ∃ e, c'.audit = c.audit ++ [.paymentFailed e]) :
      QuietStep c op c'
  | committed {env : Collaborators} {request : CommitRequest} {total : Money}
      {result : PaymentResult} {ref : String} {rest : List String} {c' : Container}
      (hs : Sold env request c total result ref rest)
      (hb : c'.bookingRepo = c.bookingRepo.save (bookingOf c request total ref))
      (hq : c'.quoteStore = c.quoteStore)
      (ha : c'.audit =
        c.audit ++ [.bookingCommitted (committedEvent (bookingOf c request total ref))]) :
      QuietStep c (.commit env request) c'
  /-- A quote is stored whose total cannot be computed. -/
  | unpriced {env : Collaborators} {request : QuoteRequest} {a : Appraisal}
      {session : SessionId} {id : String} {rest : List String} {e : Exn} {c' : Container}
      (hid : c.ids.quoteIds = id :: rest) (he : a.breakdown.total = .error e)
      (hb : c'.bookingRepo = c.bookingRepo)
      (hq : c'.quoteStore = c.quoteStore.save (quoteOf c request a session id))
      (ha : c'.audit = c.audit) : QuietStep c (.quote env request) c'
  | quoted {env : Collaborators} {request : QuoteRequest} {a : Appraisal}
      {session : SessionId} {id : String} {rest : List String} {event : QuoteCreated}
      {c' : Container} (hid : c.ids.quoteIds = id :: rest)
      (hev : eventOf (quoteOf c request a session id) a = .ok event)
      (hb : c'.bookingRepo = c.bookingRepo)
      (hq : c'.quoteStore = c.quoteStore.save (quoteOf c request a session id))
      (ha : c'.audit = c.audit ++ [.quoteCreated event]) : QuietStep c (.quote env request) c'

theorem BookingService.CommitExit.quiet {env : Collaborators} {request : CommitRequest}
    {c c' : Container} {out : Except Exn CommitResult} (h : CommitExit env request c out c')
    (hquiet : ∀ port, env.fault port = none) : QuietStep c (.commit env request) c' := by
  cases h with
  | refused h => exact .silent rfl rfl (.inl rfl)
  | noTotal h hdue => exact .silent rfl rfl (.inl rfl)
  | noAnswer h hdue hans => exact .silent rfl rfl (.inl rfl)
  | declined h hno hlog => exact .silent rfl rfl (.inr ⟨_, rfl⟩)
  | declinedUnlogged h hno hlog => rw [hquiet] at hlog; cases hlog
  | noReference h hyes href => exact .silent rfl rfl (.inl rfl)
  | notSaved h hyes href hgen hsave => rw [hquiet] at hsave; cases hsave
  | notQueued h hyes href hgen hsave hqueue => rw [hquiet] at hqueue; cases hqueue
  | notReleased h hyes href hgen hsave hqueue hlock hrel => rw [hquiet] at hrel; cases hrel
  | notLogged h hyes href hgen hsave hqueue hrel hlog => rw [hquiet] at hlog; cases hlog
  | committed h hyes href hgen hsave hqueue hrel hlog =>
      exact .committed ⟨h, hyes, href⟩ rfl rfl rfl

theorem QuoteService.QuoteExit.quiet {env : Collaborators} {request : QuoteRequest}
    {c c' : Container} {out : Except Exn Quote} (h : QuoteExit env request c out c')
    (hquiet : ∀ port, env.fault port = none) : QuietStep c (.quote env request) c' := by
  cases h with
  | rejected h => exact .silent rfl rfl (.inl rfl)
  | noSession h hs => exact .silent rfl rfl (.inl rfl)
  | noQuoteId h hs hid => exact .silent rfl rfl (.inl rfl)
  | overflowed h hs hid hrange => exact .silent rfl rfl (.inl rfl)
  | unrendered h hs hid hrange hev => exact .unpriced hid (eventOf_error hev) rfl rfl rfl
  | unlogged h hs hid hrange hev hlog => rw [hquiet] at hlog; cases hlog
  | created h hs hid hrange hev hlog => exact .quoted hid hev rfl rfl rfl

theorem StepExit.quiet {c c' : Container} {op : Op} {out : Output} (h : StepExit c op out c')
    (hquiet : op.Quiet) : QuietStep c op c' := by
  cases h with
  | commit h => exact h.quiet hquiet
  | quote h => exact h.quiet hquiet
  | _ => exact .silent rfl rfl (.inl rfl)

/-! ## The invariant -/

/-- The quote event `e` is about quote `q`. -/
def Describes (e : QuoteCreated) (q : Quote) : Prop :=
  e.quoteId = q.id.value ∧ e.createdAt = q.createdAt.isoformat ∧
    e.expiresAt = q.expiresAt.isoformat ∧
    ∃ total, q.priceBreakdown.total = .ok total ∧ e.total = total.amount.str

/-- The commit event `e`, written after `before`: one quote event before it has
its quote id, with the total that was charged, and was created no later than the
commit, which was made before it expired. -/
def PaidAsQuoted (before : List AuditEvent) (e : BookingCommitted) : Prop :=
  ∃ created, (createdEvents before).filter (fun q => q.quoteId = e.quoteId) = [created] ∧
    created.total = e.totalCharged ∧
    ∃ createdAt committedAt expiresAt : DateTime,
      created.createdAt = createdAt.isoformat ∧ e.committedAt = committedAt.isoformat ∧
      created.expiresAt = expiresAt.isoformat ∧
      createdAt ≤ committedAt ∧ committedAt < expiresAt

/-- Every commit event of the log that is not the sentinel's was paid as quoted. -/
def Accounted (log : List AuditEvent) : Prop :=
  ∀ before e after, log = before ++ .bookingCommitted e :: after →
    e.quoteId ≠ AuditReplay.wsShortcutQuoteId → PaidAsQuoted before e

/-- What the bookings, the quotes and the log know of each other. -/
structure Audited (c : Container) : Prop where
  booked : Booked c
  quoted : Quoted c
  idsReal : ∀ id ∈ c.ids.quoteIds, id ≠ AuditReplay.wsShortcutQuoteId
  quotesReal : ∀ id q, c.quoteStore.get? id = some q →
    id.value ≠ AuditReplay.wsShortcutQuoteId ∧ q.createdAt ≤ c.clock
  /-- The commit events are those of the bookings, in their order. -/
  committed : committedEvents c.audit = c.bookingRepo.values.map committedEvent
  createdOnce : ((createdEvents c.audit).map QuoteCreated.quoteId).Nodup
  createdFrom : ∀ e ∈ createdEvents c.audit, ∃ id q, c.quoteStore.get? id = some q ∧
    Describes e q
  createdFor : ∀ id q total, c.quoteStore.get? id = some q →
    q.priceBreakdown.total = .ok total →
    ∃ e ∈ createdEvents c.audit, Describes e q
  accounted : Accounted c.audit

theorem Audited.start {c : Container} (hbookings : c.bookingRepo = Dict.empty)
    (hrefs : c.ids.bookingRefs.Nodup) (hquotes : c.quoteStore = Dict.empty)
    (hids : c.ids.quoteIds.Nodup) (hreal : AuditReplay.wsShortcutQuoteId ∉ c.ids.quoteIds)
    (hlog : c.audit = []) : Audited c where
  booked := .start hbookings hrefs
  quoted := .start hquotes hids
  idsReal := by
    intro id hid he
    exact hreal (he ▸ hid)
  quotesReal := by simp [hquotes]
  committed := by simp [hlog, hbookings, committedEvents]
  createdOnce := by simp [hlog, createdEvents]
  createdFrom := by simp [hlog, createdEvents]
  createdFor := by simp [hquotes]
  accounted := by simp [hlog, Accounted]

/-! ## One step -/

/-- A log with one more event, cut at a commit: the cut is in the old log, or the
new event is the commit. -/
theorem split_snoc {log before after : List AuditEvent} {x y : AuditEvent}
    (h : log ++ [x] = before ++ y :: after) :
    (∃ after', log = before ++ y :: after') ∨ (log = before ∧ x = y) := by
  rcases List.eq_nil_or_concat after with rfl | ⟨after', z, rfl⟩
  · obtain ⟨hlog, hx⟩ := List.append_inj' h rfl
    exact .inr ⟨hlog, (List.cons.inj hx).1⟩
  · have h' : log ++ [x] = (before ++ y :: after') ++ [z] := by simpa using h
    exact .inl ⟨after', (List.append_inj' h' rfl).1⟩

/-- A new event that is no commit, or one that was paid as quoted. -/
theorem Accounted.snoc {log : List AuditEvent} (h : Accounted log) {x : AuditEvent}
    (hx : ∀ e, x = .bookingCommitted e → e.quoteId ≠ AuditReplay.wsShortcutQuoteId →
      PaidAsQuoted log e) : Accounted (log ++ [x]) := by
  intro before e after hsplit hreal
  rcases split_snoc hsplit with ⟨after', hlog⟩ | ⟨hlog, he⟩
  · exact h before e after' hlog hreal
  · rw [← hlog]
    exact hx e he hreal

theorem filter_key_eq_singleton {α β : Type*} [DecidableEq β] {f : α → β} {l : List α} {a : α}
    (hn : (l.map f).Nodup) (ha : a ∈ l) : l.filter (fun b => f b = f a) = [a] := by
  induction l with
  | nil => simp at ha
  | cons b l ih =>
      rw [List.map_cons, List.nodup_cons] at hn
      rcases List.mem_cons.mp ha with rfl | hrest
      · have hnil : l.filter (fun b => f b = f a) = [] := by
          rw [List.filter_eq_nil_iff]
          intro b hb he
          exact hn.1 (List.mem_map.mpr ⟨b, hb, by simpa using he⟩)
        rw [List.filter_cons_of_pos (by simp), hnil]
      · have hne : f b ≠ f a := fun he => hn.1 (List.mem_map.mpr ⟨a, hrest, he.symm⟩)
        rw [List.filter_cons_of_neg (by simpa using hne), ih hn.2 hrest]

section Step

variable {c : Container}

/-- A commit on a quote writes an event that the log already accounts for. -/
theorem Audited.paid (hI : Audited c) {env : Collaborators} {request : CommitRequest}
    {total : Money} {result : PaymentResult} {ref : String} {rest : List String}
    (hs : Sold env request c total result ref rest)
    (hreal : (committedEvent (bookingOf c request total ref)).quoteId ≠
      AuditReplay.wsShortcutQuoteId) :
    PaidAsQuoted c.audit (committedEvent (bookingOf c request total ref)) := by
  cases hid : request.quoteId with
  | none =>
      have hsentinel : bookedQuoteId c request = wsShortcutQuoteId := by
        rw [hs.bookedQuoteId hI.quoted, hid]
        rfl
      exact absurd (congrArg QuoteId.value hsentinel) hreal
  | some id =>
      obtain ⟨q, hq, hlive, hbook⟩ := hs.quote hid
      have hprice : q.priceBreakdown.total = .ok total := by
        rw [← amountDue_live hid hq hlive]
        exact hs.due
      obtain ⟨e, he, hname, hat, hexp, total', htotal', hpaid⟩ := hI.createdFor id q total hq hprice
      rw [hprice] at htotal'
      cases htotal'
      have hkey : (committedEvent (bookingOf c request total ref)).quoteId = e.quoteId := by
        rw [hname]
        exact congrArg QuoteId.value hbook
      refine ⟨e, ?_, hpaid, q.createdAt, c.clock, q.expiresAt, hat, rfl, hexp,
        (hI.quotesReal id q hq).2, hlive⟩
      rw [hkey]
      exact filter_key_eq_singleton hI.createdOnce he

/-- A quote that is saved is new to the store, and so to the log. -/
theorem Audited.unlogged (hI : Audited c) {id : String} {rest : List String}
    (hid : c.ids.quoteIds = id :: rest) :
    id ∉ (createdEvents c.audit).map QuoteCreated.quoteId := by
  intro hm
  obtain ⟨e, he, hname⟩ := List.mem_map.mp hm
  obtain ⟨key, q, hq, hdesc, -⟩ := hI.createdFrom e he
  have hkey : key = ⟨id⟩ := by
    rw [← hI.quoted.keyed key q hq, ← hname, hdesc]
  rw [hkey, hI.quoted.idsFresh id (by simp [hid])] at hq
  cases hq

theorem eventOf_describes {q : Quote} {a : Appraisal} {event : QuoteCreated}
    (hb : q.priceBreakdown = a.breakdown) (h : eventOf q a = .ok event) : Describes event q := by
  obtain ⟨total, htotal, htext, hid, hcreated, hexpires⟩ := eventOf_ok h
  exact ⟨hid, hcreated, hexpires, total, hb ▸ htotal, htext⟩

/-- What every step keeps of the bookings and the quotes. -/
structure Carried (c c' : Container) : Prop where
  booked : Booked c'
  quoted : Quoted c'
  idsReal : ∀ id ∈ c'.ids.quoteIds, id ≠ AuditReplay.wsShortcutQuoteId
  quotes : ∀ id q, c.quoteStore.get? id = some q → c'.quoteStore.get? id = some q
  clock : c.clock ≤ c'.clock

theorem Audited.carried (hI : Audited c) {op : Op} (hforward : Forward c op) :
    Carried c (step c op).2 where
  booked := hI.booked.preserved op
  quoted := hI.quoted.preserved op
  idsReal := by
    intro id hid
    cases step_quotes c op with
    | kept hkept hi => exact hI.idsReal id (hi.subset hid)
    | saved ha hdraw hsaved hi => exact hI.idsReal id (by rw [hdraw]; exact .tail _ (hi ▸ hid))
  quotes := fun id q hq => hI.quoted.get_step op hq
  clock := hforward.le

variable {c' : Container}

theorem Carried.quotesReal (h : Carried c c') (hI : Audited c) {id : QuoteId} {q : Quote}
    (hq : c.quoteStore.get? id = some q) :
    id.value ≠ AuditReplay.wsShortcutQuoteId ∧ q.createdAt ≤ c'.clock := by
  obtain ⟨hreal, hpast⟩ := hI.quotesReal id q hq
  exact ⟨hreal, le_trans hpast h.clock⟩

theorem Carried.createdFrom (h : Carried c c') (hI : Audited c) {e : QuoteCreated}
    (he : e ∈ createdEvents c.audit) :
    ∃ id q, c'.quoteStore.get? id = some q ∧ Describes e q := by
  obtain ⟨id, q, hq, hdesc⟩ := hI.createdFrom e he
  exact ⟨id, q, h.quotes id q hq, hdesc⟩

/-- The quotes of a step that saves one: the new one, and those that were there. -/
theorem Carried.savedReal (h : Carried c c') (hI : Audited c) {request : QuoteRequest}
    {a : Appraisal} {session : SessionId} {id : String} {rest : List String}
    (hid : c.ids.quoteIds = id :: rest)
    (hq : c'.quoteStore = c.quoteStore.save (quoteOf c request a session id)) (key : QuoteId)
    (q : Quote) (hget : c'.quoteStore.get? key = some q) :
    key.value ≠ AuditReplay.wsShortcutQuoteId ∧ q.createdAt ≤ c'.clock := by
  rw [hq] at hget
  rcases Dict.get?_set_eq_some_iff.mp hget with ⟨rfl, rfl⟩ | ⟨-, hold⟩
  · exact ⟨hI.idsReal id (by simp [hid]), h.clock⟩
  · exact h.quotesReal hI hold

theorem Audited.silent (hI : Audited c) (h : Carried c c') (hb : c'.bookingRepo = c.bookingRepo)
    (hq : c'.quoteStore = c.quoteStore)
    (ha : c'.audit = c.audit ∨ ∃ e, c'.audit = c.audit ++ [.paymentFailed e]) : Audited c' := by
  have hcreated : createdEvents c'.audit = createdEvents c.audit := by
    rcases ha with ha | ⟨e, ha⟩
    · rw [ha]
    · simp [ha, createdEvents, AuditEvent.created?]
  have hcommitted : committedEvents c'.audit = committedEvents c.audit := by
    rcases ha with ha | ⟨e, ha⟩
    · rw [ha]
    · simp [ha, committedEvents, AuditEvent.committed?]
  refine ⟨h.booked, h.quoted, h.idsReal, ?_, ?_, hcreated ▸ hI.createdOnce, ?_, ?_, ?_⟩
  · intro id q hget
    exact h.quotesReal hI (hq ▸ hget)
  · rw [hcommitted, hb]
    exact hI.committed
  · intro e he
    exact h.createdFrom hI (hcreated ▸ he)
  · rw [hcreated, hq]
    exact hI.createdFor
  · rcases ha with ha | ⟨e, ha⟩
    · exact ha ▸ hI.accounted
    · rw [ha]
      refine hI.accounted.snoc ?_
      intro e' he'
      cases he'

theorem Audited.sold (hI : Audited c) (h : Carried c c') {env : Collaborators}
    {request : CommitRequest} {total : Money} {result : PaymentResult} {ref : String}
    {rest : List String} (hs : Sold env request c total result ref rest)
    (hb : c'.bookingRepo = c.bookingRepo.save (bookingOf c request total ref))
    (hq : c'.quoteStore = c.quoteStore)
    (ha : c'.audit =
      c.audit ++ [.bookingCommitted (committedEvent (bookingOf c request total ref))]) :
    Audited c' := by
  have hcreated : createdEvents c'.audit = createdEvents c.audit := by
    rw [ha, createdEvents_append]
    simp [createdEvents, AuditEvent.created?]
  refine ⟨h.booked, h.quoted, h.idsReal, ?_, ?_, hcreated ▸ hI.createdOnce, ?_, ?_, ?_⟩
  · intro id q hget
    exact h.quotesReal hI (hq ▸ hget)
  · have hvalues : (c.bookingRepo.save (bookingOf c request total ref)).values =
        c.bookingRepo.values ++ [bookingOf c request total ref] :=
      Dict.values_set_fresh (hI.booked.fresh hs) _
    rw [ha, hb, hvalues, committedEvents_append, hI.committed, List.map_append]
    rfl
  · intro e he
    exact h.createdFrom hI (hcreated ▸ he)
  · rw [hcreated, hq]
    exact hI.createdFor
  · rw [ha]
    refine hI.accounted.snoc ?_
    intro e he hreal
    cases he
    exact hI.paid hs hreal

/-- A quote without a total leaves no event, and no commit can use it. -/
theorem Audited.unpriced (hI : Audited c) (h : Carried c c') {request : QuoteRequest}
    {a : Appraisal} {session : SessionId} {id : String} {rest : List String} {e : Exn}
    (hid : c.ids.quoteIds = id :: rest) (he : a.breakdown.total = .error e)
    (hb : c'.bookingRepo = c.bookingRepo)
    (hq : c'.quoteStore = c.quoteStore.save (quoteOf c request a session id))
    (ha : c'.audit = c.audit) : Audited c' := by
  refine ⟨h.booked, h.quoted, h.idsReal, h.savedReal hI hid hq, ?_, ha ▸ hI.createdOnce, ?_, ?_,
    ha ▸ hI.accounted⟩
  · rw [ha, hb]
    exact hI.committed
  · intro e he
    exact h.createdFrom hI (ha ▸ he)
  · intro key q total hget htotal
    rw [hq] at hget
    rw [ha]
    rcases Dict.get?_set_eq_some_iff.mp hget with ⟨-, rfl⟩ | ⟨-, hold⟩
    · have hok : a.breakdown.total = .ok total := htotal
      rw [he] at hok
      cases hok
    · exact hI.createdFor key q total hold htotal

theorem Audited.priced (hI : Audited c) (h : Carried c c') {request : QuoteRequest}
    {a : Appraisal} {session : SessionId} {id : String} {rest : List String}
    {event : QuoteCreated} (hid : c.ids.quoteIds = id :: rest)
    (hev : eventOf (quoteOf c request a session id) a = .ok event)
    (hb : c'.bookingRepo = c.bookingRepo)
    (hq : c'.quoteStore = c.quoteStore.save (quoteOf c request a session id))
    (ha : c'.audit = c.audit ++ [.quoteCreated event]) : Audited c' := by
  have hdesc : Describes event (quoteOf c request a session id) := eventOf_describes rfl hev
  have hcreated : createdEvents c'.audit = createdEvents c.audit ++ [event] := by
    rw [ha, createdEvents_append]
    simp [createdEvents, AuditEvent.created?]
  refine ⟨h.booked, h.quoted, h.idsReal, h.savedReal hI hid hq, ?_, ?_, ?_, ?_, ?_⟩
  · rw [ha, hb, committedEvents_append, hI.committed]
    simp [committedEvents, AuditEvent.committed?]
  · have hname : event.quoteId = id := hdesc.1
    rw [hcreated, List.map_append, List.map_singleton, hname, ← List.concat_eq_append]
    exact hI.createdOnce.concat (hI.unlogged hid)
  · intro e he
    rw [hcreated] at he
    rcases List.mem_append.mp he with he | he
    · exact h.createdFrom hI he
    · rw [List.mem_singleton.mp he]
      refine ⟨⟨id⟩, quoteOf c request a session id, ?_, hdesc⟩
      rw [hq]
      exact Dict.get?_set_self _ _ _
  · intro key q total hget htotal
    rw [hq] at hget
    rw [hcreated]
    rcases Dict.get?_set_eq_some_iff.mp hget with ⟨-, rfl⟩ | ⟨-, hold⟩
    · exact ⟨event, by simp, hdesc⟩
    · obtain ⟨e, he, hdesc'⟩ := hI.createdFor key q total hold htotal
      exact ⟨e, by simp [he], hdesc'⟩
  · rw [ha]
    refine hI.accounted.snoc ?_
    intro e he
    cases he

theorem Audited.preserved (hI : Audited c) {op : Op} (hquiet : op.Quiet)
    (hforward : Forward c op) : Audited (step c op).2 := by
  have hcarried := hI.carried hforward
  cases (step_exit c op).quiet hquiet with
  | silent hb hq ha => exact hI.silent hcarried hb hq ha
  | committed hs hb hq ha => exact hI.sold hcarried hs hb hq ha
  | unpriced hid he hb hq ha => exact hI.unpriced hcarried hid he hb hq ha
  | quoted hid hev hb hq ha => exact hI.priced hcarried hid hev hb hq ha

end Step

/-! ## The replay -/

theorem Audited.verified {c : Container} (hI : Audited c) :
    AuditReplay.verifyCommits c.audit = [] := by
  unfold AuditReplay.verifyCommits
  rw [List.filterMap_eq_nil_iff]
  intro event hm
  cases event with
  | quoteCreated e => rfl
  | paymentFailed e => rfl
  | bookingCommitted e =>
      by_cases hws : e.quoteId = AuditReplay.wsShortcutQuoteId
      · simp [AuditReplay.mismatch, hws]
      · obtain ⟨before, after, hlog⟩ := List.append_of_mem hm
        obtain ⟨created, honly, htotal, -⟩ := hI.accounted before e after hlog hws
        have hfound : created ∈ (createdEvents before).filter (fun q => q.quoteId = e.quoteId) := by
          rw [honly]
          exact List.mem_singleton_self created
        obtain ⟨hcreated, hkey⟩ := List.mem_filter.mp hfound
        have hkey' : created.quoteId = e.quoteId := by simpa using hkey
        have hin : created ∈ createdEvents c.audit := by
          rw [hlog, createdEvents_append]
          exact List.mem_append_left _ hcreated
        have hget : (AuditReplay.quotesById c.audit).get? e.quoteId = some created :=
          hkey' ▸ Dict.get?_index hI.createdOnce hin
        simp [AuditReplay.mismatch, hws, hget, htotal]

/-! ## The account -/

/-- The log of a container accounts for its bookings. -/
structure AccountedFor (c : Container) : Prop where
  /-- One commit event a booking, in the same order. -/
  committed : committedEvents c.audit = c.bookingRepo.values.map committedEvent
  paid : Accounted c.audit
  verified : AuditReplay.verifyCommits c.audit = []

/-- The sentinel is on the booking exactly if the commit had no quote. -/
theorem Audited.sentinel_iff {c : Container} (hI : Audited c) {env : Collaborators}
    {request : CommitRequest} {total : Money} {result : PaymentResult} {ref : String}
    {rest : List String} (hs : Sold env request c total result ref rest) :
    (bookingOf c request total ref).quoteId = wsShortcutQuoteId ↔ request.quoteId = none := by
  show bookedQuoteId c request = wsShortcutQuoteId ↔ request.quoteId = none
  rw [hs.bookedQuoteId hI.quoted]
  cases hid : request.quoteId with
  | none => exact iff_of_true rfl rfl
  | some id =>
      obtain ⟨q, hq, -, -⟩ := hs.quote hid
      refine iff_of_false ?_ (by simp)
      intro he
      exact (hI.quotesReal id q hq).1 (congrArg QuoteId.value he)

/-- **The audit log accounts for every booking.** Over any run on an empty
container whose ids do not repeat, without a quote id that looks like the
sentinel, with a clock that only moves forward and ports that do not raise: the
commit events are those of the bookings, in order; one that is not the
sentinel's has exactly one quote event before it, with its total and its window;
the sentinel marks exactly the commits without a quote; and the replay finds no
mismatch. -/
theorem audit_accounts_for_bookings {c : Container} (hbookings : c.bookingRepo = Dict.empty)
    (hrefs : c.ids.bookingRefs.Nodup) (hquotes : c.quoteStore = Dict.empty)
    (hids : c.ids.quoteIds.Nodup) (hreal : AuditReplay.wsShortcutQuoteId ∉ c.ids.quoteIds)
    (hlog : c.audit = []) {ops : List Op} (hquiet : ∀ op ∈ ops, op.Quiet)
    (hclock : Run.Along step Forward c ops) :
    AccountedFor (Run.final step c ops) ∧
    ∀ e ∈ Run.trace step c ops, ∀ env request b, e.input = .commit env request →
      e.output.booking? = some b → (b.quoteId = wsShortcutQuoteId ↔ request.quoteId = none) := by
  have hstart := Audited.start hbookings hrefs hquotes hids hreal hlog
  have hsteps := (Run.Along.of_mem hquiet c).and hclock
  have hkeep : ∀ c op, Audited c → op.Quiet ∧ Forward c op → Audited (step c op).2 :=
    fun _ _ hI h => hI.preserved h.1 h.2
  constructor
  · have hI := Run.invariant hkeep hstart hsteps
    exact ⟨hI.committed, hI.accounted, hI.verified⟩
  · intro e he env request b hin hout
    obtain ⟨hI, -, heq⟩ := Run.mem_trace hkeep hstart hsteps he
    rw [heq] at hout
    obtain ⟨env', request', total, result, ref, rest, hop, hs, rfl, -⟩ := step_sold hout
    rw [hin] at hop
    cases hop
    exact hI.sentinel_iff hs

/-- A commit on a quote, and one without. -/
theorem audit_accounts_for_bookings_two :
    let ops : List Op := [
      .quote .wired { flightId := ⟨"FL-LAX-NYC-0800"⟩, seatIds := [⟨"30F"⟩], passengers := 1 },
      .setClock (testNow.add (DateTime.minutes 29)),
      .commit .wired { commitFor "FL-LAX-NYC-0800" ["30F"] with quoteId := some ⟨"Q001"⟩ },
      .commit .wired (commitFor "FL-LAX-NYC-0800" ["30G"])]
    let c := Run.final step (seededContainer [seededFlight "FL-LAX-NYC-0800" ["30F", "30G"]]) ops
    (committedEvents c.audit).map BookingCommitted.quoteId = ["Q001", "Q000-WS"] ∧
      AccountedFor c := by
  refine ⟨by decide, (audit_accounts_for_bookings rfl (by decide) rfl (by decide) (by decide) rfl
    ?_ (by decide)).1⟩
  intro op hop
  simp only [List.mem_cons, List.not_mem_nil, or_false] at hop
  rcases hop with rfl | rfl | rfl | rfl
  · exact fun _ => rfl
  · trivial
  · exact fun _ => rfl
  · exact fun _ => rfl

end FlightBooking
