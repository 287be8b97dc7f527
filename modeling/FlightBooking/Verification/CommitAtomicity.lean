import FlightBooking.Verification.NoDoubleBooking

/-!
# CommitAtomicity — what a commit leaves behind

A commit that returns has done all of its work or none of it. A commit that
raises has not: the gateway is called before the reference is drawn and nothing
compensates, so an exception on the way down leaves a charge without a booking,
or a booking without its event.
-/

namespace FlightBooking

open Py BookingService

/-! ## Commits that return -/

/-- What a commit that returns an error leaves behind. -/
structure Failed (request : CommitRequest) (result : CommitResult) (c c' : Container) : Prop where
  refused : ∃ code message, result = .refuse code message
  /-- Only the gateway's side and the log may have changed. -/
  frame : c' = { c with charges := c'.charges, audit := c'.audit }
  uncharged : c'.charges.filter Charge.succeeded = c.charges.filter Charge.succeeded
  silent : result.errorCode ≠ some .paymentDeclined → c'.audit = c.audit
  logged : result.errorCode = some .paymentDeclined →
    ∃ event, c'.audit = c.audit ++ [.paymentFailed event]
  /-- A retry meets the same checks. -/
  retry : refusal c' request = refusal c request

/-- What a commit that returns booking `b` leaves behind. -/
structure Succeeded (request : CommitRequest) (b : Booking) (c c' : Container) : Prop where
  isNew : c.bookingRepo.get? b.reference = none
  asked : b.flightId = request.flightId ∧ b.seatIds = request.seatIds ∧
    b.passengers = request.passengers ∧ b.status = .confirmed
  drawn : c.ids.bookingRefs = b.reference.value :: c'.ids.bookingRefs
  state : c' = { c with
    charges := c.charges ++ [⟨request.paymentToken, b.totalCharged, true⟩]
    ids := { c.ids with bookingRefs := c'.ids.bookingRefs }
    bookingRepo := c.bookingRepo.set b.reference b
    queued := c.queued ++ [b]
    seatLockStore := match request.lockId with
      | some lockId => c.seatLockStore.release lockId
      | none => c.seatLockStore
    audit := c.audit ++ [.bookingCommitted (committedEvent b)] }

theorem Booked.commit_returns {c c' : Container} (hI : Booked c) {env : Collaborators}
    {request : CommitRequest} {result : CommitResult}
    (hexit : CommitExit env request c (.ok result) c') :
    (result.booking = none → Failed request result c c') ∧
      ∀ b, result.booking = some b → Succeeded request b c c' := by
  cases hexit with
  | refused h =>
      obtain ⟨code, hcode, message, rfl⟩ := refusal_refuses c request _ h
      refine ⟨fun _ => ⟨⟨code, message, rfl⟩, rfl, rfl, fun _ => rfl, ?_, rfl⟩, ?_⟩
      · intro hdeclined
        cases hdeclined
        simp at hcode
      · intro b hb
        cases hb
  | @declined total payment h hno hlog =>
      refine ⟨fun _ => ⟨⟨_, _, rfl⟩, rfl, by simp [afterCharge], ?_, fun _ => ⟨_, rfl⟩, rfl⟩, ?_⟩
      · intro hne
        exact absurd rfl hne
      · intro b hb
        cases hb
  | @committed total payment ref rest h hyes href hgen hsave hqueue hrel hlog =>
      constructor
      · intro hnone
        cases hnone
      · intro b hb
        cases hb
        exact ⟨hI.fresh ⟨h, hyes, href⟩, ⟨rfl, rfl, rfl, rfl⟩, href, rfl⟩

/-- **All or nothing.** In every state of every run, a commit that returns an
error has changed nothing but for the declined attempt in the gateway and in the
log, and a commit that returns a booking has charged its total once, stored it
under a new reference, queued one confirmation, written one event, released the
lock of the request, and changed nothing else. -/
theorem commit_all_or_nothing {c₀ : Container} (hempty : c₀.bookingRepo = Dict.empty)
    (hrefs : c₀.ids.bookingRefs.Nodup) (ops : List Op) (env : Collaborators)
    (request : CommitRequest) :
    let c := Run.final step c₀ ops
    ∀ result c', (commit env request).run c = (.ok result, c') →
      (result.booking = none → Failed request result c c') ∧
      ∀ b, result.booking = some b → Succeeded request b c c' := by
  intro c result c' hrun
  have hI : Booked c := (Booked.start hempty hrefs).final ops
  have hexit := commit_exit env request c
  rw [hrun] at hexit
  exact hI.commit_returns hexit

/-- The first commit of the test container. -/
theorem commit_all_or_nothing_seat :
    let c := seededContainer [seededFlight "FL-LAX-NYC-0800" ["30F"]]
    let request := commitFor "FL-LAX-NYC-0800" ["30F"]
    ∃ b, ((commit .wired request).run c).1 = .ok { booking := some b } ∧
      Succeeded request b c ((commit .wired request).run c).2 := by
  intro c request
  have hempty : c.bookingRepo = Dict.empty := rfl
  exact ⟨_, rfl, (commit_all_or_nothing hempty (by decide) [] .wired request _ _ rfl).2 _ rfl⟩

/-! ## Commits that raise -/

/-- The checks pass and the gateway accepts the charge. -/
def Paid (env : Collaborators) (request : CommitRequest) (c : Container) : Prop :=
  ∃ total result, Charged env request c total result ∧ result.succeeded = true

/-- A reference is left and no call after the charge raises. -/
structure Unobstructed (env : Collaborators) (request : CommitRequest) (c : Container) :
    Prop where
  reference : c.ids.bookingRefs ≠ []
  generates : env.fault .newBookingReference = none
  saves : env.fault .saveBooking = none
  queues : env.fault .queueConfirmation = none
  releases : request.lockId = none ∨ env.fault .releaseLock = none
  logs : env.fault .writeAudit = none

/-- What a commit does to the charges, the bookings and the log, in three cases. -/
inductive Settlement (env : Collaborators) (request : CommitRequest) (c : Container) :
    Container → Prop
  /-- No successful charge, no booking, no event of one. -/
  | unpaid {c' : Container} (hno : ¬ Paid env request c)
      (hcharge : c'.charges = c.charges ∨
        ∃ total, c'.charges = c.charges ++ [⟨request.paymentToken, total, false⟩])
      (hbook : c'.bookingRepo = c.bookingRepo)
      (haudit : c'.audit = c.audit ∨ ∃ event, c'.audit = c.audit ++ [.paymentFailed event]) :
      Settlement env request c c'
  /-- Charged, stored and logged. -/
  | recorded {c' : Container} {total : Money} {b : Booking} (hun : Unobstructed env request c)
      (hcharge : c'.charges = c.charges ++ [⟨request.paymentToken, total, true⟩])
      (href : b.reference.value ∈ c.ids.bookingRefs)
      (hbook : c'.bookingRepo = c.bookingRepo.save b)
      (haudit : c'.audit = c.audit ++ [.bookingCommitted (committedEvent b)]) :
      Settlement env request c c'
  /-- Charged, and an exception on the way to the event. -/
  | stranded {c' : Container} {total : Money} (hpaid : Paid env request c)
      (hob : ¬ Unobstructed env request c)
      (hcharge : c'.charges = c.charges ++ [⟨request.paymentToken, total, true⟩])
      (haudit : c'.audit = c.audit) : Settlement env request c c'

theorem BookingService.Charged.paid_iff {env : Collaborators} {request : CommitRequest}
    {c : Container} {total : Money} {result : PaymentResult}
    (h : Charged env request c total result) :
    Paid env request c ↔ result.succeeded = true := by
  constructor
  · intro hpaid
    obtain ⟨total', result', h', hyes⟩ := hpaid
    have ht : total = total' := Except.ok.inj (h.due.symm.trans h'.due)
    subst ht
    have hr : result = result' := Except.ok.inj (h.answer.symm.trans h'.answer)
    exact hr ▸ hyes
  · exact fun hyes => ⟨total, result, h, hyes⟩

/-- Up to the charge nothing is paid; after it only the last exit is not stranded. -/
theorem BookingService.CommitExit.settlement {env : Collaborators} {request : CommitRequest}
    {c c' : Container} {out : Except Exn CommitResult} (h : CommitExit env request c out c') :
    Settlement env request c c' := by
  cases h with
  | refused h =>
      refine .unpaid ?_ (.inl rfl) rfl (.inl rfl)
      intro hpaid
      obtain ⟨total, result, hc, -⟩ := hpaid
      rw [hc.passed] at h
      cases h
  | noTotal h hdue =>
      refine .unpaid ?_ (.inl rfl) rfl (.inl rfl)
      intro hpaid
      obtain ⟨total, result, hc, -⟩ := hpaid
      rw [hc.due] at hdue
      cases hdue
  | noAnswer h hdue hans =>
      refine .unpaid ?_ (.inl rfl) rfl (.inl rfl)
      intro hpaid
      obtain ⟨total, result, hc, -⟩ := hpaid
      rw [hc.due] at hdue
      cases hdue
      rw [hc.answer] at hans
      cases hans
  | declined h hno hlog =>
      refine .unpaid ?_ (.inr ⟨_, rfl⟩) rfl (.inr ⟨_, rfl⟩)
      rw [h.paid_iff, hno]
      simp
  | declinedUnlogged h hno hlog =>
      refine .unpaid ?_ (.inr ⟨_, rfl⟩) rfl (.inl rfl)
      rw [h.paid_iff, hno]
      simp
  | noReference h hyes href =>
      refine .stranded (h.paid_iff.mpr hyes) ?_ rfl rfl
      intro hun
      rcases href with hgen | ⟨-, hnil, -⟩
      · rw [hun.generates] at hgen
        cases hgen
      · exact hun.reference hnil
  | notSaved h hyes href hgen hsave =>
      refine .stranded (h.paid_iff.mpr hyes) ?_ rfl rfl
      intro hun
      rw [hun.saves] at hsave
      cases hsave
  | notQueued h hyes href hgen hsave hqueue =>
      refine .stranded (h.paid_iff.mpr hyes) ?_ rfl rfl
      intro hun
      rw [hun.queues] at hqueue
      cases hqueue
  | notReleased h hyes href hgen hsave hqueue hlock hrel =>
      refine .stranded (h.paid_iff.mpr hyes) ?_ rfl rfl
      intro hun
      rcases hun.releases with hnone | hok
      · exact hlock hnone
      · rw [hok] at hrel
        cases hrel
  | notLogged h hyes href hgen hsave hqueue hrel hlog =>
      refine .stranded (h.paid_iff.mpr hyes) ?_ rfl rfl
      intro hun
      rw [hun.logs] at hlog
      cases hlog
  | @committed total result ref rest h hyes href hgen hsave hqueue hrel hlog =>
      exact .recorded ⟨by simp [href], hgen, hsave, hqueue, hrel, hlog⟩ rfl
        (by simp [href, bookingOf]) rfl rfl

/-- A successful charge was made between the two states. -/
def ChargeMade (c c' : Container) : Prop :=
  ∃ token total, c'.charges = c.charges ++ [⟨token, total, true⟩]

/-- A new booking was stored and its event written. -/
def BookingRecorded (c c' : Container) : Prop :=
  ∃ b, c.bookingRepo.get? b.reference = none ∧ c'.bookingRepo = c.bookingRepo.save b ∧
    c'.audit = c.audit ++ [.bookingCommitted (committedEvent b)]

theorem Settlement.recorded_iff {c c' : Container} {env : Collaborators} {request : CommitRequest}
    (h : Settlement env request c c') (hI : Booked c) :
    (ChargeMade c c' ↔ BookingRecorded c c') ↔
      (Paid env request c → Unobstructed env request c) := by
  cases h with
  | unpaid hno hcharge hbook haudit =>
      have hnot : ¬ ChargeMade c c' := by
        intro ⟨token, total, hmade⟩
        rcases hcharge with hsame | ⟨total', hdeclined⟩
        · simp [hsame] at hmade
        · simp [hdeclined] at hmade
      have hnot' : ¬ BookingRecorded c c' := by
        intro ⟨b, _, _, hlog⟩
        rcases haudit with hsame | ⟨event, hfailed⟩
        · simp [hsame] at hlog
        · simp [hfailed] at hlog
      simp [hnot, hnot', hno]
  | @recorded total b hun hcharge href hbook haudit =>
      have hmade : ChargeMade c c' := ⟨_, total, hcharge⟩
      have hrec : BookingRecorded c c' := ⟨b, hI.refsFresh _ href, hbook, haudit⟩
      simp [hmade, hrec, hun]
  | @stranded total hpaid hob hcharge haudit =>
      have hmade : ChargeMade c c' := ⟨_, total, hcharge⟩
      have hnot : ¬ BookingRecorded c c' := by
        intro ⟨b, _, _, hlog⟩
        simp [haudit] at hlog
      simp [hmade, hnot, hpaid, hob]

/-- A commit charges exactly what it records, or it is stranded. -/
theorem charge_recorded_iff {c : Container} (hI : Booked c) (env : Collaborators)
    (request : CommitRequest) :
    (ChargeMade c (step c (.commit env request)).2 ↔
      BookingRecorded c (step c (.commit env request)).2) ↔
    (Paid env request c → Unobstructed env request c) :=
  (commit_exit env request c).settlement.recorded_iff hI

/-! ## The three counts -/

def AuditEvent.isCommitted : AuditEvent → Bool
  | .bookingCommitted _ => true
  | _ => false

/-- The successful charges, the stored bookings and the `BookingCommitted`
events are as many. -/
def Balanced (c : Container) : Prop :=
  c.charges.countP Charge.succeeded = c.bookingRepo.size ∧
    c.bookingRepo.size = c.audit.countP AuditEvent.isCommitted

/-- A commit that is paid is not obstructed afterwards. -/
def Settles (c : Container) : Op → Prop
  | .commit env request => Paid env request c → Unobstructed env request c
  | _ => True

theorem size_save {bookings : InMemoryBookingRepository} {b : Booking}
    (h : bookings.get? b.reference = none) : (bookings.save b).size = bookings.size + 1 := by
  have hv := congrArg List.length (Dict.values_set_fresh h b)
  simpa [Dict.values, Dict.size, InMemoryBookingRepository.save] using hv

/-- The three counts after a commit, by how it settled. -/
theorem Settlement.balanced_iff {c c' : Container} {env : Collaborators} {request : CommitRequest}
    (h : Settlement env request c c') (hI : Booked c) (hbal : Balanced c) :
    Balanced c' ↔ (Paid env request c → Unobstructed env request c) := by
  obtain ⟨hpaid, hlogged⟩ := hbal
  unfold Balanced
  cases h with
  | unpaid hno hcharge hbook haudit =>
      have hc : c'.charges.countP Charge.succeeded = c.charges.countP Charge.succeeded := by
        rcases hcharge with hsame | ⟨total, hdeclined⟩
        · rw [hsame]
        · simp [hdeclined]
      have ha : c'.audit.countP AuditEvent.isCommitted =
          c.audit.countP AuditEvent.isCommitted := by
        rcases haudit with hsame | ⟨event, hfailed⟩
        · rw [hsame]
        · simp [hfailed, AuditEvent.isCommitted]
      rw [hc, ha, hbook]
      exact iff_of_true ⟨hpaid, hlogged⟩ (fun h => absurd h hno)
  | recorded hun hcharge href hbook haudit =>
      refine iff_of_true ⟨?_, ?_⟩ (fun _ => hun)
      · rw [hcharge, hbook, size_save (hI.refsFresh _ href)]
        simp [hpaid]
      · rw [hbook, haudit, size_save (hI.refsFresh _ href)]
        simp [hlogged, AuditEvent.isCommitted]
  | stranded hpaid' hob hcharge haudit =>
      -- one charge more, and no event more
      refine iff_of_false ?_ (fun h => hob (h hpaid'))
      intro ⟨hcount, hcount'⟩
      have hc : c'.charges.countP Charge.succeeded =
          c.charges.countP Charge.succeeded + 1 := by simp [hcharge]
      rw [haudit] at hcount'
      omega

theorem QuoteService.QuoteExit.balanced {c c' : Container} {env : Collaborators}
    {request : QuoteRequest} {out : Except Exn Quote} (h : QuoteExit env request c out c')
    (hbal : Balanced c) : Balanced c' := by
  obtain ⟨hpaid, hlogged⟩ := hbal
  cases h with
  | created ha hs hid hrange hev hlog =>
      exact ⟨hpaid, hlogged.trans (by simp [AuditEvent.isCommitted])⟩
  | _ => exact ⟨hpaid, hlogged⟩

/-- One step from a balanced state ends in a balanced one exactly if it settles. -/
theorem StepExit.balanced_iff {c c' : Container} {op : Op} {out : Output}
    (h : StepExit c op out c') (hI : Booked c) (hbal : Balanced c) :
    Balanced c' ↔ Settles c op := by
  cases h with
  | commit h => exact h.settlement.balanced_iff hI hbal
  | quote h => exact iff_of_true (h.balanced hbal) trivial
  | _ => exact iff_of_true hbal trivial

theorem balanced_step_iff {c : Container} (hI : Booked c) (hbal : Balanced c) (op : Op) :
    Balanced (step c op).2 ↔ Settles c op :=
  (step_exit c op).balanced_iff hI hbal

theorem balanced_run_iff {c : Container} (hI : Booked c) (hbal : Balanced c) (ops : List Op) :
    (∀ before after, ops = before ++ after → Balanced (Run.final step c before)) ↔
      Run.Along step Settles c ops := by
  induction ops generalizing c with
  | nil =>
      refine iff_of_true ?_ trivial
      intro before after h
      obtain ⟨rfl, -⟩ := List.append_eq_nil_iff.mp h.symm
      exact hbal
  | cons op ops ih =>
      constructor
      · intro h
        have hnext : Balanced (step c op).2 := h [op] ops rfl
        refine ⟨(balanced_step_iff hI hbal op).mp hnext, ?_⟩
        refine (ih (hI.preserved op) hnext).mp ?_
        intro before after hsplit
        exact h (op :: before) after (by rw [hsplit]; rfl)
      · intro hsettles before after h
        obtain ⟨hop, hops⟩ := hsettles
        have hnext := (balanced_step_iff hI hbal op).mpr hop
        cases before with
        | nil => exact hbal
        | cons op' before =>
            simp only [List.cons_append, List.cons.injEq] at h
            obtain ⟨rfl, hrest⟩ := h
            exact (ih (hI.preserved op) hnext).mpr hops before after hrest

/-- **A charge without a booking is an exception after the charge, and every
such exception leaves one.** In every state of every run, and whichever calls
raise: a commit charges exactly if it stores a booking and writes its event,
exactly if being paid it is not obstructed. And the counts of charges, bookings
and events agree all along a run exactly if all its commits are so. -/
theorem charged_iff_recorded {c₀ : Container} (hempty : c₀.bookingRepo = Dict.empty)
    (hrefs : c₀.ids.bookingRefs.Nodup) (hcharges : c₀.charges = []) (haudit : c₀.audit = [])
    (ops : List Op) :
    (∀ env request,
      let c := Run.final step c₀ ops
      (ChargeMade c (step c (.commit env request)).2 ↔
        BookingRecorded c (step c (.commit env request)).2) ↔
      (Paid env request c → Unobstructed env request c)) ∧
    ((∀ before after, ops = before ++ after → Balanced (Run.final step c₀ before)) ↔
      Run.Along step Settles c₀ ops) := by
  have hI : Booked c₀ := .start hempty hrefs
  have hbal : Balanced c₀ := by simp [Balanced, hempty, hcharges, haudit, Dict.size, Dict.empty]
  exact ⟨fun env request => charge_recorded_iff (hI.final ops) env request,
    balanced_run_iff hI hbal ops⟩

/-- One commit of the test container. -/
theorem charged_iff_recorded_seat :
    let ops : List Op := [.commit .wired (commitFor "FL-LAX-NYC-0800" ["30F"])]
    Balanced (Run.final step (seededContainer [seededFlight "FL-LAX-NYC-0800" ["30F"]]) ops) := by
  intro ops
  have hsettles : Run.Along step Settles
      (seededContainer [seededFlight "FL-LAX-NYC-0800" ["30F"]]) ops :=
    ⟨fun _ => ⟨by decide, rfl, rfl, rfl, .inl rfl, rfl⟩, trivial⟩
  exact (charged_iff_recorded rfl (by decide) rfl rfl ops).2.mpr hsettles ops [] rfl

/-- The test generator has three references; the fourth commit is charged and
then raises. -/
theorem fourth_commit_is_charged_for_nothing :
    let seats := ["1A", "1B", "1C", "1D"]
    let c := Run.final step (seededContainer [seededFlight "FL-LAX-NYC-0800" seats])
      (seats.map fun seat => Op.commit .wired (commitFor "FL-LAX-NYC-0800" [seat]))
    c.charges.countP Charge.succeeded = 4 ∧ c.bookingRepo.size = 3 ∧
      c.audit.countP AuditEvent.isCommitted = 3 ∧ ¬ Balanced c := by
  intro seats c
  have hcharges : c.charges.countP Charge.succeeded = 4 := by decide
  have hsize : c.bookingRepo.size = 3 := by decide
  refine ⟨hcharges, hsize, by decide, ?_⟩
  intro hbal
  obtain ⟨h, -⟩ := hbal
  omega

end FlightBooking
