import FlightBooking.Lib.RelyGuarantee
import FlightBooking.Composition.SystemCalls
import FlightBooking.Support.AuditReplay
import FlightBooking.Verification.NoDoubleBooking

/-!
# ConcurrentBooking — commits among everything else

Requests run at once, each call by call. What a commit needs from the others is that
they leave the books alone: the bookings and their references, the accepted charges, the
confirmations and the commit events. Quotes, lock requests, seat maps and the clock do,
and two commits never have `commit_lock` at once.
-/

namespace FlightBooking

open Py BookingService StoreCall

/-! ## The books -/

/-- What only a commit writes. -/
structure Books where
  bookings : InMemoryBookingRepository
  references : List String
  /-- The amounts of the accepted charges. -/
  paid : List Money
  queued : List Booking
  committed : List BookingCommitted

def Container.books (c : Container) : Books where
  bookings := c.bookingRepo
  references := c.ids.bookingRefs
  paid := (c.charges.filter Charge.succeeded).map Charge.amount
  queued := c.queued
  committed := committedEvents c.audit

namespace Books

/-- The charges, the bookings, the confirmations and the events agree as far as they
go, each ahead of the next, the first by at most one of the last. -/
structure InStep (b : Books) : Prop where
  charged : b.bookings.values.map Booking.totalCharged <+: b.paid
  confirmed : b.queued <+: b.bookings.values
  logged : b.committed <+: b.queued.map committedEvent
  oneOpen : b.paid.length ≤ b.committed.length + 1

/-- All four agree. -/
structure Settled (b : Books) : Prop where
  charged : b.paid = b.bookings.values.map Booking.totalCharged
  confirmed : b.queued = b.bookings.values
  logged : b.committed = b.bookings.values.map committedEvent

/-! ### What a commit does to them -/

def charge (b : Books) (total : Money) : Books := { b with paid := b.paid ++ [total] }

def draw (b : Books) (rest : List String) : Books := { b with references := rest }

def save (b : Books) (booking : Booking) : Books :=
  { b with bookings := b.bookings.save booking }

def queue (b : Books) (booking : Booking) : Books := { b with queued := b.queued ++ [booking] }

def log (b : Books) (event : BookingCommitted) : Books :=
  { b with committed := b.committed ++ [event] }

section Stages

variable {b : Books} {booking : Booking}

theorem Settled.inStep (h : b.Settled) : b.InStep where
  charged := by simp [h.charged]
  confirmed := by simp [h.confirmed]
  logged := by simp [h.logged, h.confirmed]
  oneOpen := by simp [h.charged, h.logged]

theorem Settled.charge (h : b.Settled) (total : Money) : (b.charge total).InStep where
  charged := by
    show b.bookings.values.map _ <+: b.paid ++ [total]
    rw [h.charged]
    exact List.prefix_append _ _
  confirmed := h.inStep.confirmed
  logged := h.inStep.logged
  oneOpen := by simp [Books.charge, h.charged, h.logged]

theorem InStep.draw (h : b.InStep) (rest : List String) : (b.draw rest).InStep :=
  ⟨h.charged, h.confirmed, h.logged, h.oneOpen⟩

/-- A booking under a new reference goes to the end. -/
theorem values_save (hnew : b.bookings.get? booking.reference = none) :
    (b.bookings.save booking).values = b.bookings.values ++ [booking] :=
  Dict.values_set_fresh hnew booking

theorem Settled.save (h : b.Settled) (rest : List String)
    (hnew : b.bookings.get? booking.reference = none) :
    (((b.charge booking.totalCharged).draw rest).save booking).InStep where
  charged := by
    show (b.bookings.save booking).values.map _ <+: b.paid ++ [booking.totalCharged]
    simp [values_save hnew, h.charged]
  confirmed := by
    show b.queued <+: (b.bookings.save booking).values
    rw [values_save hnew, h.confirmed]
    exact List.prefix_append _ _
  logged := h.inStep.logged
  oneOpen := (h.charge booking.totalCharged).oneOpen

theorem Settled.queue (h : b.Settled) (rest : List String)
    (hnew : b.bookings.get? booking.reference = none) :
    ((((b.charge booking.totalCharged).draw rest).save booking).queue booking).InStep where
  charged := (h.save rest hnew).charged
  confirmed := by
    show b.queued ++ [booking] <+: (b.bookings.save booking).values
    simp [values_save hnew, h.confirmed]
  logged := by
    show b.committed <+: (b.queued ++ [booking]).map committedEvent
    rw [List.map_append]
    exact h.inStep.logged.trans (List.prefix_append _ _)
  oneOpen := (h.charge booking.totalCharged).oneOpen

theorem Settled.log (h : b.Settled) (rest : List String)
    (hnew : b.bookings.get? booking.reference = none) :
    (((((b.charge booking.totalCharged).draw rest).save booking).queue booking).log
      (committedEvent booking)).Settled where
  charged := by
    show b.paid ++ [booking.totalCharged] = (b.bookings.save booking).values.map _
    simp [values_save hnew, h.charged]
  confirmed := by
    show b.queued ++ [booking] = (b.bookings.save booking).values
    rw [values_save hnew, h.confirmed]
  logged := by
    show b.committed ++ [committedEvent booking] = (b.bookings.save booking).values.map _
    simp [values_save hnew, h.logged]

end Stages

end Books

/-! ## The parts -/

/-- The books stay as they are. -/
def SameBooks (c c' : Container) : Prop := c'.books = c.books

theorem SameBooks.rely : Rely SameBooks where
  refl _ := rfl
  trans _ _ _ h h' := h'.trans h

section Parts

variable {c c' : Container} {b : Books}

theorem Booked.congr (hI : Booked c) (h : SameBooks c c') : Booked c' := by
  have hb : c'.bookingRepo = c.bookingRepo := congrArg Books.bookings h
  have hr : c'.ids.bookingRefs = c.ids.bookingRefs := congrArg Books.references h
  exact ⟨hb ▸ hI.recorded, hb ▸ hI.keyed, hr ▸ hI.refsNodup, hb ▸ hr ▸ hI.refsFresh⟩

/-- The books of the container are `b`, and they are sound. -/
structure At (b : Books) (c : Container) : Prop where
  books : c.books = b
  booked : Booked c

theorem At.stable (s s' : Container) (h : SameBooks s s') (hat : At b s) : At b s' :=
  ⟨h.trans hat.books, hat.booked.congr h⟩

/-- What holds while nobody has `commit_lock`. `clean` says that no port raises, `limit`
is the number of references that there were. -/
structure Closed (clean : Prop) (limit : Nat) (c : Container) : Prop where
  booked : Booked c
  settled : clean → c.books.paid.length ≤ limit →
    c.books.Settled ∧ c.books.references.length + c.books.committed.length = limit

/-- The books are in step, as long as they have to be. -/
def Books.Orderly (clean : Prop) (limit : Nat) (b : Books) : Prop :=
  clean → b.paid.length ≤ limit → b.InStep

/-- What a commit guarantees with each of its calls. -/
structure Kept (clean : Prop) (limit : Nat) (c c' : Container) : Prop where
  booked : Booked c'
  stays : ∀ k b, c.bookingRepo.get? k = some b → c'.bookingRepo.get? k = some b
  orderly : c'.books.Orderly clean limit

theorem At.kept {clean : Prop} {limit : Nat} (hat : At b c') (ho : b.Orderly clean limit)
    (hstays : ∀ k x, c.bookingRepo.get? k = some x → c'.bookingRepo.get? k = some x) :
    Kept clean limit c c' :=
  ⟨hat.booked, hstays, hat.books.symm ▸ ho⟩

theorem Closed.stable {clean : Prop} {limit : Nat} (s s' : Container) (h : SameBooks s s')
    (hJ : Closed clean limit s) : Closed clean limit s' := by
  refine ⟨hJ.booked.congr h, ?_⟩
  rw [h]
  exact hJ.settled

end Parts

/-! ## The calls of a commit -/

section Calls

variable {env : Collaborators} {c : Container}

theorem charge_cases (env : Collaborators) (token : String) (amount : Money) (c : Container) :
    (∃ e, (charge env token amount).run c = (.error e, c)) ∨
    ∃ result, (charge env token amount).run c =
      (.ok result, { c with charges := c.charges ++ [⟨token, amount, result.succeeded⟩] }) := by
  cases h : env.charge token amount with
  | error e => exact .inl ⟨e, run_charge_fault h⟩
  | ok result => exact .inr ⟨result, run_charge h⟩

theorem newBookingReference_cases (env : Collaborators) (c : Container) :
    (∃ e, (newBookingReference env).run c = (.error e, c) ∧
      (env.fault .newBookingReference = none → c.ids.bookingRefs = [])) ∨
    ∃ ref rest, c.ids.bookingRefs = ref :: rest ∧ (newBookingReference env).run c =
      (.ok ⟨ref⟩, { c with ids := { c.ids with bookingRefs := rest } }) := by
  cases h : env.fault .newBookingReference with
  | some e => exact .inl ⟨e, run_newBookingReference_fault h, by simp⟩
  | none =>
      cases hrefs : c.ids.bookingRefs with
      | nil => exact .inl ⟨_, run_newBookingReference_exhausted h hrefs, fun _ => rfl⟩
      | cons ref rest => exact .inr ⟨ref, rest, rfl, run_newBookingReference h hrefs⟩

theorem portCall_cases (env : Collaborators) (port : Port) (f : Container → Container)
    (c : Container) :
    (∃ e, env.fault port = some e ∧ (portCall env port f).run c = (.error e, c)) ∨
    (portCall env port f).run c = (.ok (), f c) := by
  cases h : env.fault port with
  | some e => exact .inl ⟨e, rfl, run_portCall_fault f h⟩
  | none => exact .inr (run_portCall f h)

end Calls

section Effects

variable {c : Container} {b : Books}

theorem At.charged (hat : At b c) (token : String) (total : Money) :
    At (b.charge total) { c with charges := c.charges ++ [⟨token, total, true⟩] } where
  books := by simp [← hat.books, Container.books, Books.charge]
  booked := ⟨hat.booked.recorded, hat.booked.keyed, hat.booked.refsNodup, hat.booked.refsFresh⟩

theorem At.declined (hat : At b c) (token : String) (total : Money) :
    At b { c with charges := c.charges ++ [⟨token, total, false⟩] } where
  books := by simp [← hat.books, Container.books]
  booked := ⟨hat.booked.recorded, hat.booked.keyed, hat.booked.refsNodup, hat.booked.refsFresh⟩

theorem At.drawn (hat : At b c) {ref : String} {rest : List String}
    (href : c.ids.bookingRefs = ref :: rest) :
    At (b.draw rest) { c with ids := { c.ids with bookingRefs := rest } } ∧
      b.references = ref :: rest ∧ ref ∉ rest ∧ b.bookings.get? ⟨ref⟩ = none := by
  have hnodup := hat.booked.refsNodup
  rw [href, List.nodup_cons] at hnodup
  refine ⟨⟨by simp [← hat.books, Container.books, Books.draw], hat.booked.recorded,
    hat.booked.keyed, hnodup.2, ?_⟩, ?_, hnodup.1, ?_⟩
  · intro ref' hm
    exact hat.booked.refsFresh ref' (href ▸ List.mem_cons_of_mem _ hm)
  · rw [← hat.books]
    exact href
  · rw [← hat.books]
    exact hat.booked.refsFresh ref (by simp [href])

/-- The booking has a new reference and takes free seats: it is recorded. -/
theorem At.saved (hat : At b c) {booking : Booking}
    (hnew : b.bookings.get? booking.reference = none)
    (hdrawn : booking.reference.value ∉ b.references)
    (hfree : ∀ item, booking.holds item = true → holder b.bookings item = none) :
    At (b.save booking) { c with bookingRepo := c.bookingRepo.save booking } ∧
      ∀ k x, c.bookingRepo.get? k = some x →
        (c.bookingRepo.save booking).get? k = some x := by
  have hbookings : c.bookingRepo = b.bookings := congrArg Books.bookings hat.books
  have hreferences : c.ids.bookingRefs = b.references := congrArg Books.references hat.books
  rw [← hbookings] at hnew hfree
  rw [← hreferences] at hdrawn
  have hstays : ∀ k x, c.bookingRepo.get? k = some x →
      (c.bookingRepo.save booking).get? k = some x := by
    intro k x hk
    have hne : booking.reference ≠ k := by
      rintro rfl
      rw [hnew] at hk
      cases hk
    rw [InMemoryBookingRepository.save, Dict.get?_set_ne _ _ hne]
    exact hk
  have hsale := holder_save hnew hfree
  refine ⟨⟨by simp [← hat.books, Container.books, Books.save], ?_, ?_, hat.booked.refsNodup, ?_⟩,
    hstays⟩
  · intro k x hk item hitem
    rcases Dict.get?_set_eq_some_iff.mp hk with ⟨rfl, rfl⟩ | ⟨-, hold⟩
    · rw [hsale]
      exact Ledger.sell_of_mem hitem
    · rw [hsale]
      exact (Ledger.Step.sale _ booking.reference hfree).extends _ _
        (hat.booked.recorded k x hold item hitem)
  · intro k x hk
    rcases Dict.get?_set_eq_some_iff.mp hk with ⟨rfl, rfl⟩ | ⟨-, hold⟩
    · rfl
    · exact hat.booked.keyed k x hold
  · intro ref hm
    have hne : booking.reference ≠ ⟨ref⟩ := by
      intro he
      rw [he] at hdrawn
      exact hdrawn hm
    show (c.bookingRepo.save booking).get? ⟨ref⟩ = none
    rw [InMemoryBookingRepository.save, Dict.get?_set_ne _ _ hne]
    exact hat.booked.refsFresh ref hm

theorem At.queued (hat : At b c) (booking : Booking) :
    At (b.queue booking) { c with queued := c.queued ++ [booking] } where
  books := by simp [← hat.books, Container.books, Books.queue]
  booked := ⟨hat.booked.recorded, hat.booked.keyed, hat.booked.refsNodup, hat.booked.refsFresh⟩

theorem At.released (hat : At b c) (lockId : String) :
    At b { c with seatLockStore := c.seatLockStore.release lockId } where
  books := by simp [← hat.books, Container.books]
  booked := ⟨hat.booked.recorded, hat.booked.keyed, hat.booked.refsNodup, hat.booked.refsFresh⟩

theorem At.logged (hat : At b c) (event : BookingCommitted) :
    At (b.log event) { c with audit := c.audit ++ [.bookingCommitted event] } where
  books := by
    simp [← hat.books, Container.books, Books.log, committedEvents, AuditEvent.committed?]
  booked := ⟨hat.booked.recorded, hat.booked.keyed, hat.booked.refsNodup, hat.booked.refsFresh⟩

/-- Events of the other kinds are not in the books. -/
theorem At.remarked (hat : At b c) {event : AuditEvent} (h : event.committed? = none) :
    At b { c with audit := c.audit ++ [event] } where
  books := by simp [← hat.books, Container.books, committedEvents, h]
  booked := ⟨hat.booked.recorded, hat.booked.keyed, hat.booked.refsNodup, hat.booked.refsFresh⟩

end Effects

/-- The commit keeps to its part. -/
abbrev CommitSafe {α : Type} (clean : Prop) (limit : Nat)
    (Q : Except Exn α → Container → Prop) (p : Thread α) (c : Container) : Prop :=
  p.Safe StoreCall.handle SameBooks (Kept clean limit) Q c

section Commit

variable {clean : Prop} {limit : Nat} {b b' : Books} {c : Container} {α : Type}

/-- A part of the commit that only reads. -/
theorem At.reads (hat : At b c) (ho : b.Orderly clean limit) {p : Thread α}
    (hp : Proc.Calls (fun f => ∀ c, ((handle f).run c).2 = c) p) :
    CommitSafe clean limit (fun _ c => At b c) p c :=
  hp.safe_reads At.stable (fun _ hat => hat.kept ho fun _ _ h => h) hat

/-- A port call of the commit, `b'` the books after it. Where it raises, nothing has to
be settled any more. -/
theorem At.port (hat : At b c) (ho : b.Orderly clean limit) (ho' : b'.Orderly clean limit)
    {env : Collaborators} (henv : clean → ∀ port, env.fault port = none) {port : Port}
    {f : StoreCall} {effect : Container → Container} {g : f.Result → Thread α}
    {answer : f.Result}
    (hf : ∀ c, (∃ e, env.fault port = some e ∧ (handle f).run c = (.error e, c)) ∨
      (handle f).run c = (.ok answer, effect c))
    (heffect : ∀ c, At b c → At b' (effect c) ∧
      ∀ k x, c.bookingRepo.get? k = some x → (effect c).bookingRepo.get? k = some x)
    (hg : ∀ c, At b' c → CommitSafe clean limit (fun _ c => Closed clean limit c) (g answer) c) :
    CommitSafe clean limit (fun _ c => Closed clean limit c) (Thread.call f >>= g) c := by
  refine Proc.Safe.perform_bind hat At.stable ?_
  intro c hat
  rcases hf c with ⟨e, hfault, hrun⟩ | hrun
  · refine .inl ⟨e, c, hrun, hat.kept ho (fun _ _ h => h), ?_⟩
    intro c' hc'
    refine ⟨hat.booked.congr hc', fun hclean => ?_⟩
    rw [henv hclean port] at hfault
    cases hfault
  · obtain ⟨hat', hstays⟩ := heffect c hat
    exact .inr ⟨answer, _, hrun, hat'.kept ho' hstays, hg _ hat'⟩

theorem reads_resolveQuote (quoteId : Option QuoteId) (now : DateTime) :
    Proc.Calls (fun f => ∀ c, ((handle f).run c).2 = c) (Thread.resolveQuote quoteId now) := by
  cases quoteId with
  | none => trivial
  | some quoteId =>
      refine .bind (.perform fun _ => rfl) fun valid => ?_
      cases valid with
      | some valid => trivial
      | none =>
          refine .bind (.perform fun _ => rfl) fun stored => ?_
          cases stored <;> trivial

theorem reads_validateLock (request : CommitRequest) (now : DateTime) :
    Proc.Calls (fun f => ∀ c, ((handle f).run c).2 = c) (Thread.validateLock request now) := by
  unfold Thread.validateLock
  cases request.lockId with
  | none => trivial
  | some lockId =>
      refine .bind (.perform fun _ => rfl) fun valid => ?_
      cases valid with
      | true =>
          refine .bind (.perform fun _ => rfl) fun raw => ?_
          cases raw with
          | none => trivial
          | some raw =>
              cases request.sessionId with
              | none => trivial
              | some sessionId => by_cases hs : raw.sessionId = sessionId <;> simp [hs] <;> trivial
      | false =>
          refine .bind (.perform fun _ => rfl) fun raw => ?_
          cases raw <;> trivial

theorem At.returns (hat : At b c) {Q : Except Exn α → Container → Prop} {a : α}
    (hQ : ∀ c, At b c → Q (.ok a) c) : CommitSafe clean limit Q (pure a) c :=
  fun c' hc' => hQ c' (hat.stable _ _ hc')

/-- The bookings that `_seat_already_booked` reads are those of the books. -/
theorem At.seatAlreadyBooked (hat : At b c) (ho : b.Orderly clean limit) (flightId : FlightId)
    (seatId : SeatId) :
    CommitSafe clean limit
      (fun x c => At b c ∧ x = .ok (BookingService.seatAlreadyBooked b.bookings flightId seatId))
      (Thread.seatAlreadyBooked flightId seatId) c := by
  refine Proc.Safe.read_bind (fun c => c.bookingRepo.iterAll) hat At.stable
    (fun _ => rfl) (fun _ hat => hat.kept ho fun _ _ h => h) ?_
  intro c hat c' hc'
  refine ⟨hat.stable _ _ hc', ?_⟩
  rw [← hat.books]
  rfl

/-- The seats that pass the check are free, and stay so under `commit_lock`. -/
theorem At.validateSeatIds (hat : At b c) (ho : b.Orderly clean limit) (flight : Flight)
    (flightId : FlightId) (seatIds : List SeatId) :
    CommitSafe clean limit
      (fun x c => At b c ∧
        (x = .ok none → ∀ s ∈ seatIds, holder b.bookings (flightId, s) = none))
      (Thread.validateSeatIds flight flightId seatIds) c := by
  induction seatIds generalizing c with
  | nil => exact hat.returns fun _ hat => ⟨hat, by simp⟩
  | cons seatId rest ih =>
      unfold Thread.validateSeatIds
      cases flight.cabin.seats.get? seatId with
      | none => exact hat.returns fun _ hat => ⟨hat, by simp⟩
      | some seat =>
          simp only
          by_cases hb : seat.status = .blocked
          · rw [if_pos hb]
            exact hat.returns fun _ hat => ⟨hat, by simp⟩
          · rw [if_neg hb]
            refine (hat.seatAlreadyBooked ho flightId seatId).bind SameBooks.rely ?_ ?_
            · rintro booked c ⟨hat, hbooked⟩
              cases hbooked
              cases hfree : BookingService.seatAlreadyBooked b.bookings flightId seatId with
              | true => exact hat.returns fun _ hat => ⟨hat, by simp⟩
              | false =>
                  simp only [Bool.false_eq_true, if_false]
                  refine (ih hat).imp ?_
                  rintro x c ⟨hat, hrest⟩
                  refine ⟨hat, fun hx s hs => ?_⟩
                  rcases List.mem_cons.mp hs with rfl | hs
                  · exact seatAlreadyBooked_eq_false_iff.mp hfree
                  · exact hrest hx s hs
            · rintro e c ⟨-, he⟩
              cases he

/-- The last calls of a commit, `b` the books before the charge: the booking is saved, then
queued, then the lock is released, then the event written. -/
theorem At.record {env : Collaborators} (henv : clean → ∀ port, env.fault port = none)
    {booking : Booking} {rest : List String} (lockId : Option String)
    (hat : At ((b.charge booking.totalCharged).draw rest) c)
    (hsettled : clean → b.paid.length + 1 ≤ limit →
      b.Settled ∧ rest.length + 1 + b.committed.length = limit)
    (hnew : b.bookings.get? booking.reference = none)
    (hdrawn : booking.reference.value ∉ rest)
    (hfree : ∀ item, booking.holds item = true → holder b.bookings item = none) :
    CommitSafe clean limit (fun _ c => Closed clean limit c)
      (do
        Thread.call (.saveBooking env booking)
        Thread.call (.queueConfirmation env booking)
        match lockId with
        | some lockId => Thread.call (.release env lockId)
        | none => pure ()
        Thread.call (.writeAudit env (.bookingCommitted (committedEvent booking)))
        return ({ booking := some booking } : CommitResult)) c := by
  have hset : clean → (b.charge booking.totalCharged).paid.length ≤ limit →
      b.Settled ∧ rest.length + 1 + b.committed.length = limit := by
    intro hclean hle
    exact hsettled hclean (by simpa [Books.charge] using hle)
  have hstart : ((b.charge booking.totalCharged).draw rest).Orderly clean limit :=
    fun hclean hle => ((hset hclean hle).1.charge _).draw rest
  have hsaved : (((b.charge booking.totalCharged).draw rest).save booking).Orderly clean limit :=
    fun hclean hle => (hset hclean hle).1.save rest hnew
  have hqueued : ((((b.charge booking.totalCharged).draw rest).save booking).queue
      booking).Orderly clean limit :=
    fun hclean hle => (hset hclean hle).1.queue rest hnew
  have hlogged : (((((b.charge booking.totalCharged).draw rest).save booking).queue booking).log
      (committedEvent booking)).Orderly clean limit :=
    fun hclean hle => ((hset hclean hle).1.log rest hnew).inStep
  refine hat.port hstart hsaved henv (fun c => portCall_cases env .saveBooking _ c)
    (fun c hat => hat.saved hnew hdrawn hfree) ?_
  intro c hat
  refine hat.port hsaved hqueued henv (fun c => portCall_cases env .queueConfirmation _ c)
    (fun c hat => ⟨hat.queued booking, fun _ _ h => h⟩) ?_
  have hlast : ∀ c, At ((((b.charge booking.totalCharged).draw rest).save booking).queue
      booking) c → CommitSafe clean limit (fun _ c => Closed clean limit c)
        (do
          Thread.call (.writeAudit env (.bookingCommitted (committedEvent booking)))
          return ({ booking := some booking } : CommitResult)) c := by
    intro c hat
    refine hat.port hqueued hlogged henv (fun c => portCall_cases env .writeAudit _ c)
      (fun c hat => ⟨hat.logged (committedEvent booking), fun _ _ h => h⟩) ?_
    intro c hat
    refine hat.returns fun c hat => ⟨hat.booked, fun hclean hle => ?_⟩
    rw [hat.books] at hle ⊢
    obtain ⟨hbefore, hcount⟩ := hset hclean hle
    refine ⟨hbefore.log rest hnew, ?_⟩
    show rest.length + (b.committed ++ [committedEvent booking]).length = limit
    rw [List.length_append, List.length_singleton]
    omega
  intro c hat
  cases lockId with
  | none => exact hlast c hat
  | some lockId =>
      exact hat.port hqueued hqueued henv (fun c => portCall_cases env .releaseLock _ c)
        (fun c hat => ⟨hat.released lockId, fun _ _ h => h⟩) hlast

/-- The commit once the charge is accepted: `b` are the books before it. -/
theorem At.confirm {env : Collaborators} (henv : clean → ∀ port, env.fault port = none)
    {request : CommitRequest} {now : DateTime} {quoteId : QuoteId} {total : Money}
    (hat : At (b.charge total) c)
    (hsettled : clean → b.paid.length ≤ limit →
      b.Settled ∧ b.references.length + b.committed.length = limit)
    (hfree : ∀ s ∈ request.seatIds, holder b.bookings (request.flightId, s) = none) :
    CommitSafe clean limit (fun _ c => Closed clean limit c)
      (Thread.confirm env request now quoteId total) c := by
  have hpaid : (b.charge total).paid.length = b.paid.length + 1 := by simp [Books.charge]
  have hcharged : (b.charge total).Orderly clean limit := fun hclean hle =>
    (hsettled hclean (by omega)).1.charge total
  unfold Thread.confirm
  refine Proc.Safe.perform_bind hat At.stable ?_
  intro c hat
  rcases newBookingReference_cases env c with ⟨e, hrun, hempty⟩ | ⟨ref, rest, href, hrun⟩
  · refine .inl ⟨e, c, hrun, hat.kept hcharged (fun _ _ h => h), ?_⟩
    -- without a reference the charges are more than the references were
    intro c' hc'
    refine ⟨hat.booked.congr hc', fun hclean hle => ?_⟩
    rw [hc', hat.books, hpaid] at hle
    obtain ⟨hset, hcount⟩ := hsettled hclean (by omega)
    have hnone : b.references = [] := by
      rw [← hempty (henv hclean _)]
      exact (congrArg Books.references hat.books).symm
    rw [hset.charged, List.length_map] at hle
    rw [hnone, hset.logged, List.length_map, List.length_nil] at hcount
    omega
  · obtain ⟨hdrawn, hrefs, hnodup, hnew⟩ := hat.drawn href
    refine .inr ⟨⟨ref⟩, _, hrun, hdrawn.kept ?_ (fun _ _ h => h), ?_⟩
    · exact fun hclean hle => (hcharged hclean hle).draw rest
    · refine At.record (b := b) henv request.lockId hdrawn ?_ hnew hnodup ?_
      · intro hclean hle
        obtain ⟨hset, hcount⟩ := hsettled hclean (by omega)
        have hrefs' : b.references = ref :: rest := hrefs
        rw [hrefs', List.length_cons] at hcount
        exact ⟨hset, hcount⟩
      · rintro ⟨flightId, seatId⟩ hitem
        obtain ⟨hf, -, hm⟩ := holds_iff.mp hitem
        obtain rfl : request.flightId = flightId := hf
        exact hfree seatId hm

/-- The commit from the charge on. -/
theorem At.settle {env : Collaborators} (henv : clean → ∀ port, env.fault port = none)
    {request : CommitRequest} {now : DateTime} {quoteId : QuoteId} {total : Money}
    (hat : At b c)
    (hsettled : clean → b.paid.length ≤ limit →
      b.Settled ∧ b.references.length + b.committed.length = limit)
    (hfree : ∀ s ∈ request.seatIds, holder b.bookings (request.flightId, s) = none) :
    CommitSafe clean limit (fun _ c => Closed clean limit c)
      (Thread.settle env request now quoteId total) c := by
  have ho : b.Orderly clean limit := fun hclean hle => (hsettled hclean hle).1.inStep
  have hclosed : ∀ c, At b c → Closed clean limit c := fun c hat =>
    ⟨hat.booked, hat.books.symm ▸ hsettled⟩
  unfold Thread.settle
  refine Proc.Safe.perform_bind hat At.stable ?_
  intro c hat
  rcases charge_cases env request.paymentToken total c with ⟨e, hrun⟩ | ⟨result, hrun⟩
  · refine .inl ⟨e, c, hrun, hat.kept ho (fun _ _ h => h), ?_⟩
    exact fun c' hc' => hclosed c' (hat.stable _ _ hc')
  · refine .inr ⟨result, _, hrun, ?_⟩
    cases hyes : result.succeeded with
    | true =>
        have hat' := hat.charged request.paymentToken total
        refine ⟨hat'.kept ?_ (fun _ _ h => h), hat'.confirm henv hsettled hfree⟩
        exact fun hclean hle => (hsettled hclean (by
          rw [Books.charge, List.length_append] at hle
          omega)).1.charge total
    | false =>
        have hat' := hat.declined request.paymentToken total
        refine ⟨hat'.kept ho (fun _ _ h => h), ?_⟩
        refine hat'.port ho ho henv (fun c => portCall_cases env .writeAudit _ c)
          (fun c hat => ⟨hat.remarked rfl, fun _ _ h => h⟩) ?_
        exact fun c hat => hat.returns hclosed

/-- **A commit keeps to its part**: with `commit_lock`, on closed books, each of its calls
keeps them in step, and it leaves them closed. -/
theorem Closed.commit {env : Collaborators} (henv : clean → ∀ port, env.fault port = none)
    (request : CommitRequest) (hJ : Closed clean limit c) :
    CommitSafe clean limit (fun _ c => Closed clean limit c) (Thread.commit env request) c := by
  have hat : At c.books c := ⟨rfl, hJ.booked⟩
  have hsettled := hJ.settled
  generalize c.books = b at hat hsettled
  have ho : b.Orderly clean limit := fun hclean hle => (hsettled hclean hle).1.inStep
  have hclosed : ∀ c, At b c → Closed clean limit c := fun c hat =>
    ⟨hat.booked, hat.books.symm ▸ hsettled⟩
  have hkept : ∀ c, At b c → Kept clean limit c c := fun c hat => hat.kept ho fun _ _ h => h
  have herror : ∀ (e : Exn) c, At b c → Closed clean limit c := fun _ c hat => hclosed c hat
  unfold Thread.commit
  refine Proc.Safe.read_bind (fun c => c.flightRepo.get request.flightId) hat At.stable
    (fun _ => rfl) hkept ?_
  intro c hat
  cases c.flightRepo.get request.flightId with
  | none => exact hat.returns hclosed
  | some flight =>
  refine Proc.Safe.read_bind Container.clock hat At.stable (fun _ => rfl) hkept ?_
  intro c hat
  refine (hat.reads ho (reads_resolveQuote _ _)).bind SameBooks.rely ?_ herror
  intro quoteLookup c hat
  cases quoteLookup.error with
  | some quoteError => exact hat.returns hclosed
  | none =>
  refine (hat.validateSeatIds ho flight request.flightId request.seatIds).bind
    SameBooks.rely ?_ (fun e c hat => hclosed c hat.1)
  rintro seatError c ⟨hat, hfree⟩
  cases seatError with
  | some seatError => exact hat.returns hclosed
  | none =>
  refine (hat.reads ho (reads_validateLock _ _)).bind SameBooks.rely ?_ herror
  intro lockError c hat
  cases lockError with
  | some lockError => exact hat.returns hclosed
  | none =>
  cases quoteLookup.quote with
  | none => exact hat.settle henv hsettled (hfree rfl)
  | some quote =>
      simp only
      cases quote.priceBreakdown.total with
      | error e => exact fun c' hc' => hclosed c' (hat.stable _ _ hc')
      | ok total => exact hat.settle henv hsettled (hfree rfl)

end Commit

/-! ## Everybody else -/

section Others

open SystemCall SystemThread

/-- The call leaves the books alone. -/
def SystemCall.Bookless (f : SystemCall) : Prop :=
  ∀ c, SameBooks c ((SystemCall.handle f).run c).2

theorem bookless_acquire (flightId : FlightId) (seatIds : List SeatId) (sessionId : SessionId)
    (now : DateTime) :
    SystemCall.Bookless (.store (.acquire flightId seatIds sessionId now)) :=
  fun _ => rfl

theorem bookless_newSessionId : SystemCall.Bookless .newSessionId := by
  intro c
  show SameBooks c (FlightBooking.newSessionId.run c).2
  unfold FlightBooking.newSessionId
  rw [Eff.run_get_bind]
  cases c.ids.sessionIds <;> rfl

theorem bookless_newQuoteId : SystemCall.Bookless .newQuoteId := by
  intro c
  show SameBooks c (FlightBooking.newQuoteId.run c).2
  unfold FlightBooking.newQuoteId
  rw [Eff.run_get_bind]
  cases c.ids.quoteIds <;> rfl

/-- The event of a quote is not in the books. -/
theorem bookless_quoteCreated (env : Collaborators) (event : QuoteCreated) :
    SystemCall.Bookless (.store (.writeAudit env (.quoteCreated event))) := by
  intro c
  show SameBooks c ((writeAudit env (.quoteCreated event)).run c).2
  rcases portCall_cases env .writeAudit
    (fun c => { c with audit := c.audit ++ [.quoteCreated event] }) c with ⟨e, -, hrun⟩ | hrun
  · rw [hrun]
    rfl
  · rw [hrun]
    simp [SameBooks, Container.books, committedEvents, AuditEvent.committed?]

theorem bookless_quote (env : Collaborators) (request : QuoteRequest) :
    Proc.Calls SystemCall.Bookless (quote env request) := by
  refine .bind (.perform fun _ => rfl) fun flight => ?_
  cases flight with
  | none => trivial
  | some flight =>
      refine .bind (.perform fun _ => rfl) fun now => ?_
      simp only
      split
      · trivial
      · refine .bind ?_ fun occupancyPct => ?_
        · unfold occupancyPct
          by_cases htotal : flight.cabin.seatCount = 0
          · simp only [htotal, if_true]
            trivial
          · simp only [htotal, if_false]
            refine .bind (.bind (.perform fun _ => rfl) fun _ => trivial) fun _ => ?_
            exact .bind (.ofExcept _) fun _ => .ofExcept _
        · refine .bind (.ofExcept _) fun taxes => .bind (.ofExcept _) fun breakdown => ?_
          refine .bind ?_ fun session => ?_
          · unfold drawSession
            cases request.sessionId with
            | some session => trivial
            | none => exact .perform bookless_newSessionId
          · refine .bind (.perform bookless_newQuoteId) fun quoteId => ?_
            refine .bind (.ofExcept _) fun expiresAt => ?_
            refine .bind (.perform fun _ => rfl) fun _ => .bind (.ofExcept _) fun event => ?_
            exact .bind (.perform (bookless_quoteCreated env event)) fun _ => trivial

theorem bookless_acquire_thread (flightId : FlightId) (seatIds : List SeatId)
    (sessionId : SessionId) :
    Proc.Calls SystemCall.Bookless (Thread.acquire flightId seatIds sessionId).toSystem := by
  refine Proc.Calls.translate (C := fun f => SystemCall.Bookless (.store f))
    (fun f hf => .perform hf) ?_
  refine .bind (.perform fun _ => rfl) fun now => ?_
  refine .bind (.perform (bookless_acquire flightId seatIds sessionId now)) fun outcome => ?_
  cases outcome <;> trivial

theorem bookless_view_thread (flightId : FlightId) (sessionId : Option SessionId) :
    Proc.Calls SystemCall.Bookless (Thread.view flightId sessionId).toSystem := by
  refine Proc.Calls.translate (C := fun f => SystemCall.Bookless (.store f))
    (fun f hf => .perform hf) ?_
  refine .bind (.perform fun _ => rfl) fun flight => ?_
  cases flight with
  | none => trivial
  | some flight =>
      have hlook : ∀ now seatIds, Proc.Calls (fun f => SystemCall.Bookless (.store f))
          (Thread.lockedAgainst now sessionId seatIds) := by
        intro now seatIds
        induction seatIds with
        | nil => trivial
        | cons seatId rest ih =>
            refine .bind (.perform fun _ => rfl) fun record => .bind ih fun against => ?_
            cases record with
            | none => trivial
            | some record =>
                by_cases hs : sessionId = some record.sessionId <;> simp only [hs] <;> trivial
      refine .bind (.bind (.perform fun _ => rfl) fun _ => trivial) fun occupied => ?_
      refine .bind (.bind (.perform fun _ => rfl) fun now => hlook now _) fun against => ?_
      exact .bind (.ofExcept _) fun seats => trivial

/-- Only commits write the books. -/
theorem Job.bookless {job : Job} (h : job.critical = false) :
    Proc.Calls SystemCall.Bookless job.thread := by
  cases job with
  | commit env request => cases h
  | quote env request => exact .bind (bookless_quote env request) fun _ => trivial
  | acquire flightId seatIds sessionId =>
      exact .bind (bookless_acquire_thread flightId seatIds sessionId) fun _ => trivial
  | view flightId sessionId => exact .bind (bookless_view_thread flightId sessionId) fun _ => trivial
  | setClock instant => exact .perform fun _ => rfl
  | addFlight flight => exact .perform fun _ => rfl

end Others

/-! ## All together -/

section System

variable {ι : Type} {clean : Prop} {limit : Nat} {c : Container} {jobs : ι → Job}

/-- What the job relies on, and what it guarantees. -/
def Job.relies (job : Job) : Container → Container → Prop :=
  if job.critical then SameBooks else fun _ _ => True

def Job.guarantees (clean : Prop) (limit : Nat) (job : Job) : Container → Container → Prop :=
  if job.critical then Kept clean limit else SameBooks

theorem discipline (clean : Prop) (limit : Nat) (jobs : ι → Job) :
    Pool.Discipline (fun i => (jobs i).critical) (fun i => (jobs i).relies)
      (fun i => (jobs i).guarantees clean limit) (Closed clean limit) where
  rely i := by
    unfold Job.relies
    split
    · exact SameBooks.rely
    · exact ⟨fun _ => trivial, fun _ _ _ _ _ => trivial⟩
  allows i j _ hc s s' h := by
    unfold Job.relies
    split
    · next hj =>
        have hi : (jobs i).critical = false := by simpa [hj] using hc
        simpa [Job.guarantees, hi] using h
    · trivial
  stable i hi s s' h hJ := by
    have hsame : SameBooks s s' := by simpa [Job.relies, hi] using h
    exact hJ.stable _ _ hsame
  keeps i hi s s' h hJ := by
    have hsame : SameBooks s s' := by simpa [Job.guarantees, hi] using h
    exact hJ.stable _ _ hsame

/-- The jobs of which no commit meets a port that raises, if `clean`. -/
def Clean (clean : Prop) (jobs : ι → Job) : Prop :=
  clean → ∀ i env request, jobs i = .commit env request → ∀ port, env.fault port = none

theorem ruled_start (hc : Closed clean limit c) (hjobs : Clean clean jobs) :
    (SystemPool.start c jobs).Ruled SystemCall.handle (fun i => (jobs i).relies)
      (fun i => (jobs i).guarantees clean limit) (fun _ _ _ => True) (Closed clean limit) where
  loose i hi := by
    have hi' : (jobs i).critical = false := hi
    have hG : (jobs i).guarantees clean limit = SameBooks := by simp [Job.guarantees, hi']
    rw [hG]
    exact (Job.bookless hi').safe c
  waiting i hi _ s hJ := by
    have hi' : (jobs i).critical = true := hi
    have hR : (jobs i).relies = SameBooks := by simp [Job.relies, hi']
    have hG : (jobs i).guarantees clean limit = Kept clean limit := by
      simp [Job.guarantees, hi']
    rw [hR, hG]
    show ((jobs i).thread).Safe _ _ _ _ s
    cases hjob : jobs i with
    | commit env request =>
        have henv : clean → ∀ port, env.fault port = none := fun hclean =>
          hjobs hclean i env request hjob
        have hcommit : (Thread.commit env request).toSystem.Safe SystemCall.handle SameBooks
            (Kept clean limit) (fun _ c => Closed clean limit c) s :=
          Proc.Safe.translate (g := fun f => Proc.perform (SystemCall.store f))
            (fun _ _ _ h => h) (hJ.commit henv request) SameBooks.rely
        refine hcommit.bind SameBooks.rely ?_ (fun _ _ h => h)
        exact fun _ s hJ s' hs => hJ.stable _ _ hs
    | quote env request => simp [hjob, Job.critical] at hi'
    | acquire flightId seatIds sessionId => simp [hjob, Job.critical] at hi'
    | view flightId sessionId => simp [hjob, Job.critical] at hi'
    | setClock instant => simp [hjob, Job.critical] at hi'
    | addFlight flight => simp [hjob, Job.critical] at hi'
  holding i hi := by cases hi
  free _ := hc

/-- The pool after some turns keeps to the rules. -/
theorem ruled_turns (hc : Closed clean limit c) (hjobs : Clean clean jobs) [DecidableEq ι]
    (is : List ι) :
    ((SystemPool.start c jobs).turns SystemCall.handle is).Ruled SystemCall.handle
      (fun i => (jobs i).relies) (fun i => (jobs i).guarantees clean limit) (fun _ _ _ => True)
      (Closed clean limit) :=
  (ruled_start hc hjobs).turns (discipline clean limit jobs) is

/-- What every guarantee keeps: sound books, in step, that contain what they did. -/
theorem Job.guarantees.keep {job : Job} {s s' : Container}
    (h : job.guarantees clean limit s s') (hs : Kept clean limit c s) :
    Kept clean limit c s' := by
  unfold Job.guarantees at h
  split at h
  · exact ⟨h.booked, fun k b hk => h.stays k b (hs.stays k b hk), h.orderly⟩
  · refine ⟨hs.booked.congr h, ?_, ?_⟩
    · have hsame : s'.bookingRepo = s.bookingRepo := congrArg Books.bookings h
      exact hsame ▸ hs.stays
    · have hsame : s'.books = s.books := h
      exact hsame ▸ hs.orderly

/-- **The states of a schedule.** Sound books stay so and keep what is in them, from any
state of the schedule on. -/
theorem kept_states (hc : Closed clean limit c) (hjobs : Clean clean jobs) [DecidableEq ι]
    (before after : List ι) :
    let w := (SystemPool.start c jobs).turns SystemCall.handle before
    ∀ c' ∈ w.states SystemCall.handle after, Kept clean limit w.shared c' := by
  intro w
  have hstart : Kept clean limit c c :=
    ⟨hc.booked, fun _ _ h => h, fun hclean hle => (hc.settled hclean hle).1.inStep⟩
  have hreached : Kept clean limit c w.shared :=
    (ruled_start hc hjobs).states (discipline clean limit jobs)
      (fun _ _ _ h hs => h.keep hs) hstart before _ (Pool.mem_states_turns _ _ before)
  have hcrit : w.critical = fun i => (jobs i).critical :=
    Pool.turns_critical _ (SystemPool.start c jobs) before
  exact (ruled_turns hc hjobs before).states (hcrit ▸ discipline clean limit jobs)
    (fun _ _ _ h hs => h.keep hs)
    ⟨hreached.booked, fun _ _ h => h, hreached.orderly⟩ after

/-- **No double booking, in whatever order the calls are made.** Any number of requests
runs at once on a container with sound bookings, any port may raise in any commit, the
clock goes anywhere and flights come and go. In every state of every schedule the
confirmed bookings are seat-disjoint, and what is stored at some moment is stored ever
after. -/
theorem concurrent_no_double_booking [DecidableEq ι] (hbooked : Booked c) (jobs : ι → Job)
    (before after : List ι) :
    let w := (SystemPool.start c jobs).turns SystemCall.handle before
    ∀ c' ∈ w.states SystemCall.handle after,
      SeatsDisjoint c'.bookingRepo ∧
        ∀ k b, w.shared.bookingRepo.get? k = some b → c'.bookingRepo.get? k = some b := by
  intro w c' hc'
  have hclosed : Closed False 0 c := ⟨hbooked, fun h => h.elim⟩
  have hkept : Kept False 0 w.shared c' :=
    kept_states hclosed (fun h => h.elim) before after c' hc'
  exact ⟨hkept.booked.seatsDisjoint, hkept.stays⟩

/-- Two commits of seat 30F, turn by turn beside a lock request for it: one is through. -/
theorem concurrent_no_double_booking_race :
    let c := seededContainer [seededFlight "FL-LAX-NYC-0800" ["30F"]]
    let commit := Job.commit .wired (commitFor "FL-LAX-NYC-0800" ["30F"])
    let jobs : Nat → Job := fun i =>
      if i = 1 then .acquire ⟨"FL-LAX-NYC-0800"⟩ [⟨"30F"⟩] ⟨"S1"⟩ else commit
    let w := (SystemPool.start c jobs).turns SystemCall.handle [0, 1, 2]
    let last := w.turns SystemCall.handle (List.replicate 12 [2, 1, 0]).flatten
    last.holder = none ∧ last.shared.bookingRepo.size = 1 ∧
      SeatsDisjoint last.shared.bookingRepo := by
  refine ⟨by decide +kernel, by decide +kernel, ?_⟩
  exact (concurrent_no_double_booking (.start rfl (by decide)) _ _ _ _
    (Pool.mem_states_turns _ _ _)).1

/-- Settled books are closed, with as many references as there are and were. -/
theorem closed_start (hbooked : Booked c) (hsettled : c.books.Settled) :
    Closed True (c.ids.bookingRefs.length + c.bookingRepo.size) c := by
  refine ⟨hbooked, fun _ _ => ⟨hsettled, ?_⟩⟩
  rw [hsettled.logged, List.length_map]
  simp [Container.books, Dict.values, Dict.size]

theorem settled_of_free [DecidableEq ι] (hbooked : Booked c) (hsettled : c.books.Settled)
    (hclean : ∀ i env request, jobs i = .commit env request → ∀ port, env.fault port = none)
    (schedule : List ι)
    (hfree : ((SystemPool.start c jobs).turns SystemCall.handle schedule).holder = none)
    (hle : ((SystemPool.start c jobs).turns SystemCall.handle schedule).shared.books.paid.length ≤
      c.ids.bookingRefs.length + c.bookingRepo.size) :
    ((SystemPool.start c jobs).turns SystemCall.handle schedule).shared.books.Settled :=
  (((ruled_turns (closed_start hbooked hsettled) (fun _ => hclean) schedule).free hfree).settled
    trivial hle).1

/-- **The books are in step, in whatever order the calls are made.** No port raises in a
commit, though the gateway may, and no more charges are accepted than there are
references. Then in every state the bookings lag behind the accepted charges, the
confirmations behind the bookings and the commit events behind the confirmations by at
most one; and whenever nobody has `commit_lock` all four agree, in their order. -/
theorem concurrent_books_in_step [DecidableEq ι] (hbooked : Booked c)
    (hsettled : c.books.Settled) {jobs : ι → Job}
    (hclean : ∀ i env request, jobs i = .commit env request → ∀ port, env.fault port = none)
    (schedule : List ι) :
    let limit := c.ids.bookingRefs.length + c.bookingRepo.size
    let w := (SystemPool.start c jobs).turns SystemCall.handle schedule
    (∀ c' ∈ (SystemPool.start c jobs).states SystemCall.handle schedule,
      c'.books.paid.length ≤ limit → c'.books.InStep) ∧
    (w.holder = none → w.shared.books.paid.length ≤ limit → w.shared.books.Settled) := by
  intro limit w
  constructor
  · intro c' hc'
    have hclosed := closed_start hbooked hsettled
    exact (kept_states hclosed (fun _ => hclean) [] schedule c' hc').orderly trivial
  · exact settled_of_free hbooked hsettled hclean schedule

/-- Two commits, one on each of two seats: in the middle one charge is ahead of its
booking, at the end both are in the books. -/
theorem concurrent_books_in_step_two_seats :
    let c := seededContainer [seededFlight "FL-LAX-NYC-0800" ["30F", "30G"]]
    let commit := fun seat => Job.commit .wired (commitFor "FL-LAX-NYC-0800" [seat])
    let jobs : Bool → Job := fun second => if second then commit "30G" else commit "30F"
    let pool := SystemPool.start c jobs
    let middle := [true, false, true, true, true]
    let whole := middle ++ (List.replicate 13 [false, true]).flatten
    let w := pool.turns SystemCall.handle middle
    let w' := pool.turns SystemCall.handle whole
    w.shared.books.paid.length = 1 ∧ w.shared.bookingRepo.size = 0 ∧ w.shared.books.InStep ∧
      w'.shared.bookingRepo.size = 2 ∧ w'.shared.books.Settled := by
  intro c commit jobs pool middle whole w w'
  have hclean : ∀ i env request, jobs i = .commit env request →
      ∀ port, env.fault port = none := by
    intro i env request h port
    cases i <;> cases h <;> rfl
  have hbooked : Booked c := .start rfl (by decide)
  have hsettled : c.books.Settled := ⟨by decide, by decide, by decide⟩
  have hmiddle := (concurrent_books_in_step hbooked hsettled hclean middle).1 w.shared
    (Pool.mem_states_turns _ _ _)
  have hwhole := (concurrent_books_in_step hbooked hsettled hclean whole).2
  exact ⟨by decide +kernel, by decide +kernel, hmiddle (by decide +kernel), by decide +kernel,
    hwhole (by decide +kernel) (by decide +kernel)⟩

end System

end FlightBooking
