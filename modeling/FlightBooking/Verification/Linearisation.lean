import FlightBooking.Composition.Callers
import FlightBooking.Lib.Reduction
import FlightBooking.Verification.SeatLockSpec
import FlightBooking.Verification.SeatMapRace

/-!
# Linearisation — commits and lock requests at once

`acquire` does not take `commit_lock`, so a lock may be granted in the middle of a commit.
But of the calls of a commit only the release of its lock matters to an `acquire`, and
only the call of the lock store in an `acquire` to a commit. So each request happens, as
far as anybody can tell, at one moment between its first call and its last.
-/

namespace FlightBooking

open Py

variable {ι : Type} {i : ι}

/-! ## Calls past each other -/

/-- The call neither reads nor writes the lock store. -/
def StoreCall.Storeless (f : StoreCall) : Prop :=
  ∀ c store, (handle f).run { c with seatLockStore := store } =
    (((handle f).run c).1, { ((handle f).run c).2 with seatLockStore := store })

namespace StoreCall

theorem storeless_portCall (env : Collaborators) (port : Port) {g : Container → Container}
    (hg : ∀ c store, g { c with seatLockStore := store } = { g c with seatLockStore := store })
    (c : Container) (store : InMemorySeatLockStore) :
    (portCall env port g).run { c with seatLockStore := store } =
      (((portCall env port g).run c).1,
        { ((portCall env port g).run c).2 with seatLockStore := store }) := by
  cases hfault : env.fault port with
  | none => rw [run_portCall g hfault, run_portCall g hfault, hg]
  | some e => rw [run_portCall_fault g hfault, run_portCall_fault g hfault]

theorem storeless_charge (env : Collaborators) (token : String) (amount : Money) :
    Storeless (.charge env token amount) := by
  intro c store
  cases h : env.charge token amount with
  | ok result =>
      have hrun : ∀ c, (handle (.charge env token amount)).run c = _ := fun c => run_charge h
      rw [hrun, hrun]
  | error e =>
      have hrun : ∀ c, (handle (.charge env token amount)).run c = _ := fun c =>
        run_charge_fault h
      rw [hrun, hrun]

theorem storeless_newBookingReference (env : Collaborators) :
    Storeless (.newBookingReference env) := by
  intro c store
  cases hfault : env.fault .newBookingReference with
  | some e =>
      have hrun : ∀ c, (handle (.newBookingReference env)).run c = _ := fun c =>
        run_newBookingReference_fault hfault
      rw [hrun, hrun]
  | none =>
      cases href : c.ids.bookingRefs with
      | nil =>
          have hrun : ∀ c', c'.ids = c.ids →
              (handle (.newBookingReference env)).run c' = _ := fun c' hc =>
            run_newBookingReference_exhausted hfault (by rw [hc, href])
          rw [hrun c rfl]
          exact hrun _ rfl
      | cons ref rest =>
          have hrun : ∀ c', c'.ids = c.ids →
              (handle (.newBookingReference env)).run c' = _ := fun c' hc =>
            run_newBookingReference hfault (by rw [hc, href])
          rw [hrun c rfl]
          exact hrun _ rfl

theorem storeless_saveBooking (env : Collaborators) (booking : Booking) :
    Storeless (.saveBooking env booking) :=
  storeless_portCall env _ fun _ _ => rfl

theorem storeless_queueConfirmation (env : Collaborators) (booking : Booking) :
    Storeless (.queueConfirmation env booking) :=
  storeless_portCall env _ fun _ _ => rfl

theorem storeless_writeAudit (env : Collaborators) (event : AuditEvent) :
    Storeless (.writeAudit env event) :=
  storeless_portCall env _ fun _ _ => rfl

/-- What a commit with the lock id calls before and after it releases the lock. -/
def Movable (lockId : Option String) : StoreCall → Prop
  | .acquire .. => False
  | .release .. => False
  | .findActiveLockForSeat .. => False
  | .isValid id _ => lockId = some id
  | .getLock id => lockId = some id
  | _ => True

/-- But for its looks at its own lock these have nothing to do with the store. -/
theorem Movable.storeless_or_look {lockId : Option String} {f : StoreCall}
    (hf : f.Movable lockId) :
    f.Storeless ∨ ∃ id, lockId = some id ∧ (f = .getLock id ∨ ∃ now, f = .isValid id now) := by
  cases f with
  | acquire => cases hf
  | release => cases hf
  | findActiveLockForSeat => cases hf
  | isValid id now => exact .inr ⟨id, hf, .inr ⟨now, rfl⟩⟩
  | getLock id => exact .inr ⟨id, hf, .inl rfl⟩
  | charge env token amount => exact .inl (storeless_charge env token amount)
  | newBookingReference env => exact .inl (storeless_newBookingReference env)
  | saveBooking env booking => exact .inl (storeless_saveBooking env booking)
  | queueConfirmation env booking => exact .inl (storeless_queueConfirmation env booking)
  | writeAudit env event => exact .inl (storeless_writeAudit env event)
  | getFlight flightId => exact .inl fun _ _ => rfl
  | clockNow => exact .inl fun _ _ => rfl
  | iterAll => exact .inl fun _ _ => rfl
  | getValidQuote quoteId now => exact .inl fun _ _ => rfl
  | getQuote quoteId => exact .inl fun _ _ => rfl

theorem Storeless.store {f : StoreCall} (hf : f.Storeless) (c : Container) :
    ((handle f).run c).2.seatLockStore = c.seatLockStore := by
  have hsame := hf c c.seatLockStore
  exact congrArg (fun x => x.2.seatLockStore) hsame

theorem Storeless.ids_subset {f : StoreCall} (hf : f.Storeless) (c : Container) :
    ((handle f).run c).2.seatLockStore.ids ⊆ c.seatLockStore.ids := by
  rw [hf.store c]
  exact fun id hid => hid

theorem run_acquireCall (flightId : FlightId) (seatIds : List SeatId) (sessionId : SessionId)
    (now : DateTime) (c : Container) :
    (handle (.acquire flightId seatIds sessionId now)).run c =
      ((c.seatLockStore.acquire flightId seatIds sessionId now).1,
        { c with seatLockStore :=
            (c.seatLockStore.acquire flightId seatIds sessionId now).2 }) := rfl

/-- Before a lock is granted or after, such a call finds the same and does the same: its
own lock is not the one that is granted. -/
theorem Movable.commute {I : Container → Prop} {lockId : Option String} {f : StoreCall}
    (hf : f.Movable lockId)
    (hI : ∀ c, I c → ∀ id ∈ c.seatLockStore.ids, lockId ≠ some id)
    (flightId : FlightId) (seatIds : List SeatId) (sessionId : SessionId) (now : DateTime) :
    Eff.Commute I (handle f) (handle (.acquire flightId seatIds sessionId now)) := by
  intro c hc
  rcases hf.storeless_or_look with hstoreless | ⟨id, hid, hlook⟩
  · have hkept := hstoreless.store c
    have hpast := hstoreless c (c.seatLockStore.acquire flightId seatIds sessionId now).2
    refine ⟨?_, ?_, ?_⟩
    · rw [run_acquireCall, run_acquireCall, hkept]
    · have hfirst := congrArg Prod.fst hpast
      exact hfirst
    · rw [run_acquireCall, run_acquireCall, hkept]
      exact (congrArg Prod.snd hpast).symm
  · -- the lock looked at is what it was
    have hsame : (c.seatLockStore.acquire flightId seatIds sessionId now).2.byLock.get? id =
        c.seatLockStore.byLock.get? id := by
      rcases InMemorySeatLockStore.acquire_granted_or_kept c.seatLockStore flightId seatIds
        sessionId now with ⟨ids, -, hkept⟩ | ⟨granted, h⟩
      · rw [hkept]
      · have hnew : granted ≠ id := by
          rintro rfl
          exact hI c hc granted (by rw [h.drawn]; exact List.mem_cons_self) hid
        rw [h.byLock, if_neg hnew]
    rw [run_acquireCall]
    rcases hlook with rfl | ⟨now', rfl⟩
    · refine ⟨rfl, ?_, rfl⟩
      exact congrArg Except.ok hsame
    · refine ⟨rfl, ?_, rfl⟩
      have hvalid : (c.seatLockStore.acquire flightId seatIds sessionId now).2.isValid id now' =
          c.seatLockStore.isValid id now' := by
        unfold InMemorySeatLockStore.isValid
        rw [hsame]
      exact congrArg Except.ok hvalid

/-- No call makes lock ids. -/
theorem ids_subset (f : StoreCall) (c : Container) :
    ((handle f).run c).2.seatLockStore.ids ⊆ c.seatLockStore.ids := by
  cases f with
  | acquire flightId seatIds sessionId now =>
      rw [run_acquireCall]
      rcases InMemorySeatLockStore.acquire_granted_or_kept c.seatLockStore flightId seatIds
        sessionId now with ⟨ids, hids, hkept⟩ | ⟨granted, h⟩
      · rw [hkept]
        exact hids.subset
      · rw [h.drawn]
        exact List.subset_cons_self _ _
  | release env lockId =>
      cases hfault : env.fault .releaseLock with
      | none =>
          have hrun : (handle (.release env lockId)).run c = _ := run_portCall _ hfault
          rw [hrun]
          have hids : (c.seatLockStore.release lockId).ids = c.seatLockStore.ids :=
            InMemorySeatLockStore.ids_release lockId
          exact fun id hid => hids ▸ hid
      | some e =>
          have hrun : (handle (.release env lockId)).run c = _ := run_portCall_fault _ hfault
          rw [hrun]
          exact fun id hid => hid
  | charge env token amount => exact (storeless_charge env token amount).ids_subset c
  | newBookingReference env => exact (storeless_newBookingReference env).ids_subset c
  | saveBooking env booking => exact (storeless_saveBooking env booking).ids_subset c
  | queueConfirmation env booking => exact (storeless_queueConfirmation env booking).ids_subset c
  | writeAudit env event => exact (storeless_writeAudit env event).ids_subset c
  | _ => exact fun id hid => hid

end StoreCall

/-! ## The requests -/

/-- A request that competes for seats. -/
inductive SeatRequest where
  | commit (env : Collaborators) (request : CommitRequest)
  | acquire (flightId : FlightId) (seatIds : List SeatId) (sessionId : SessionId)

inductive SeatReply where
  | commit (result : CommitResult)
  | acquire (result : SeatHoldResult)

namespace SeatRequest

def thread : SeatRequest → Thread SeatReply
  | commit env request => do
      let result ← Thread.commit env request
      return .commit result
  | acquire flightId seatIds sessionId => do
      let result ← Thread.acquire flightId seatIds sessionId
      return .acquire result

def op : SeatRequest → Op
  | commit env request => .commit env request
  | acquire flightId seatIds sessionId => .acquire flightId seatIds sessionId

def output : SeatRequest → Except Exn SeatReply → Output
  | _, .ok (.commit result) => .commit (.ok result)
  | _, .ok (.acquire result) => .acquire (.ok result)
  | commit _ _, .error e => .commit (.error e)
  | acquire _ _ _, .error e => .acquire (.error e)

/-- A commit takes `commit_lock`. -/
def critical : SeatRequest → Bool
  | commit _ _ => true
  | acquire _ _ _ => false

def lockId : SeatRequest → Option String
  | commit _ request => request.lockId
  | acquire _ _ _ => none

theorem output_injective (request : SeatRequest) : Function.Injective request.output := by
  intro x y h
  rcases x with e | x | x <;> rcases y with e' | y | y <;> cases request <;> simp_all [output]

theorem runs (request : SeatRequest) (c : Container) :
    step c request.op =
      let x := (request.thread.run StoreCall.handle).run c
      (request.output x.1, x.2) := by
  cases request with
  | commit env request =>
      simp only [step, op, thread, Proc.run_bind, Eff.run_bind, Thread.run_commit]
      rcases (BookingService.commit env request).run c with ⟨e | result, c'⟩ <;> rfl
  | acquire flightId seatIds sessionId =>
      simp only [step, op, thread, Proc.run_bind, Eff.run_bind, Thread.run_acquire]
      rcases (SeatHoldService.acquire flightId seatIds sessionId).run c with
        ⟨e | result, c'⟩ <;> rfl

end SeatRequest

/-- Callers that ask for locks or commit. -/
def Callers.seatRequests (requests : ι → SeatRequest) : Callers ι SeatReply where
  thread i := (requests i).thread
  op i := (requests i).op
  output i := (requests i).output
  output_injective i := (requests i).output_injective
  runs i := (requests i).runs

/-! ## Their calls -/

namespace SeatRequest

/-- The calls that can be pushed past those of the others. -/
def Moves : SeatRequest → StoreCall → Prop
  | commit _ request, f => f.Movable request.lockId
  | acquire _ _ _, _ => False

/-- The call at which the request happens. -/
def Decides : SeatRequest → StoreCall → Prop
  | commit _ _, f => ∃ env lockId, f = .release env lockId
  | acquire _ _ _, f => ∃ flightId seatIds sessionId now,
      f = .acquire flightId seatIds sessionId now

/-- The lock that the request names has been granted, if ever it is. -/
def Timely (request : SeatRequest) (c : Container) : Prop :=
  ∀ id ∈ request.lockId, id ∉ c.seatLockStore.ids

theorem keeps_timely (request : SeatRequest) (f : StoreCall) :
    Eff.Keeps request.Timely (StoreCall.handle f) :=
  fun c hc id hid hmem => hc id hid (StoreCall.ids_subset f c hmem)

theorem Moves.commute {I : Container → Prop} {request other : SeatRequest} {f g : StoreCall}
    (hf : request.Moves f) (hg : other.Moves g ∨ other.Decides g)
    (hc : (request.critical && other.critical) = false)
    (hI : ∀ c, I c → request.critical = true → request.Timely c) :
    Eff.Commute I (StoreCall.handle f) (StoreCall.handle g) := by
  cases request with
  | acquire => cases hf
  | commit env request =>
      cases other with
      | commit => cases hc
      | acquire =>
          obtain ⟨flightId, seatIds, sessionId, now, rfl⟩ := hg.resolve_left id
          refine StoreCall.Movable.commute hf (fun c hc id hid hlock => ?_) _ _ _ _
          exact hI c hc rfl id hlock hid

end SeatRequest

namespace Thread

section Commit

variable {env : Collaborators} {request : CommitRequest}

theorem movable_resolveQuote (lockId : Option String) (quoteId : Option QuoteId)
    (now : DateTime) : (resolveQuote quoteId now).Calls (StoreCall.Movable lockId) := by
  cases quoteId with
  | none => trivial
  | some quoteId =>
      refine .bind (.perform trivial) fun valid => ?_
      cases valid with
      | some valid => trivial
      | none =>
          refine .bind (.perform trivial) fun stored => ?_
          cases stored <;> trivial

theorem movable_validateSeatIds (lockId : Option String) (flight : Flight)
    (flightId : FlightId) (seatIds : List SeatId) :
    (validateSeatIds flight flightId seatIds).Calls (StoreCall.Movable lockId) := by
  induction seatIds with
  | nil => trivial
  | cons seatId rest ih =>
      unfold validateSeatIds
      cases flight.cabin.seats.get? seatId with
      | none => trivial
      | some seat =>
          by_cases hb : seat.status = .blocked
          · simp only [hb, if_true]
            trivial
          · simp only [hb, if_false]
            refine .bind (.bind (.perform trivial) fun _ => trivial) fun booked => ?_
            cases booked with
            | true => trivial
            | false => exact ih

theorem movable_validateLock (now : DateTime) :
    (validateLock request now).Calls (StoreCall.Movable request.lockId) := by
  unfold validateLock
  cases hlock : request.lockId with
  | none => trivial
  | some lockId =>
      refine .bind (.perform rfl) fun valid => ?_
      cases valid with
      | true =>
          refine .bind (.perform rfl) fun raw => ?_
          cases raw with
          | none => trivial
          | some raw =>
              cases request.sessionId with
              | none => trivial
              | some sessionId => by_cases hs : raw.sessionId = sessionId <;> simp [hs] <;> trivial
      | false =>
          refine .bind (.perform rfl) fun raw => ?_
          cases raw <;> trivial

/-- The lock is released once, and not looked at again. -/
theorem reduces_confirm (now : DateTime) (quoteId : QuoteId) (total : Money) :
    (confirm env request now quoteId total).Reduces (StoreCall.Movable request.lockId)
      (SeatRequest.Decides (.commit env request)) := by
  refine .bind (.perform trivial) fun reference => .bind (.perform trivial) fun _ =>
    .bind (.perform trivial) fun _ => ?_
  have hrest : ∀ lockId event (result : CommitResult), Proc.Calls (StoreCall.Movable lockId) (do
      call (.writeAudit env event)
      return result) := by
    intro lockId event result
    refine .bind (.perform trivial) fun _ => ?_
    trivial
  cases request.lockId with
  | none => exact (hrest none _ _).reduces
  | some lockId => exact .inr ⟨⟨env, lockId, rfl⟩, fun _ => hrest (some lockId) _ _⟩

theorem reduces_settle (now : DateTime) (quoteId : QuoteId) (total : Money) :
    (settle env request now quoteId total).Reduces (StoreCall.Movable request.lockId)
      (SeatRequest.Decides (.commit env request)) := by
  refine .bind (.perform trivial) fun result => ?_
  cases hpaid : result.succeeded with
  | true => exact reduces_confirm now quoteId total
  | false =>
      refine Proc.Calls.reduces (.bind (.perform trivial) fun _ => ?_)
      trivial

theorem reduces_commit :
    (commit env request).Reduces (StoreCall.Movable request.lockId)
      (SeatRequest.Decides (.commit env request)) := by
  refine .bind (.perform trivial) fun flight => ?_
  cases flight with
  | none => trivial
  | some flight =>
      refine .bind (.perform trivial) fun now =>
        .bind (movable_resolveQuote _ _ now) fun lookup => ?_
      cases lookup.error with
      | some e => trivial
      | none =>
          refine .bind (movable_validateSeatIds _ flight _ _) fun seatError => ?_
          cases seatError with
          | some e => trivial
          | none =>
              refine .bind (movable_validateLock now) fun lockError => ?_
              cases lockError with
              | some e => trivial
              | none =>
                  cases lookup.quote with
                  | none => exact reduces_settle _ _ _
                  | some quote =>
                      cases htotal : quote.priceBreakdown.total with
                      | ok total => simpa only [htotal] using reduces_settle now quote.id total
                      | error e => simp only [htotal]; trivial

end Commit

end Thread

namespace SeatRequest

variable {requests : ι → SeatRequest}

theorem reduces_thread (hc : (requests i).critical = true) :
    (requests i).thread.finished = false ∧
      (requests i).thread.Reduces (requests i).Moves (requests i).Decides := by
  cases hrequest : requests i with
  | acquire =>
      rw [hrequest] at hc
      cases hc
  | commit env request =>
      exact ⟨rfl, Proc.Reduces.append Thread.reduces_commit fun _ => trivial⟩

/-- The clock stands still, so a request for a lock is one call. -/
theorem atomic_thread {now : DateTime} (hc : (requests i).critical = false) :
    (requests i).thread.Atomic StoreCall.handle (fun c => c.clock = now) (requests i).Moves
      (requests i).Decides := by
  cases hrequest : requests i with
  | commit =>
      rw [hrequest] at hc
      cases hc
  | acquire flightId seatIds sessionId =>
      refine .inl ⟨now, fun c hclock => ?_, .inr ⟨⟨flightId, seatIds, sessionId, now, rfl⟩, ?_⟩⟩
      · subst hclock
        rfl
      · intro outcome
        cases outcome <;> trivial

end SeatRequest

variable [DecidableEq ι]

theorem movers_seatRequests (requests : ι → SeatRequest) (c : Container) :
    Pool.Movers (Answered.handle StoreCall.handle) (fun x => x.1.clock = c.clock)
      (fun i x => (requests i).Timely x.1) (Pool.Answering fun i => (requests i).Moves)
      (Pool.Silent fun i => (requests i).Decides)
      ((Callers.seatRequests requests).start (fun i => (requests i).critical) c) := by
  refine Pool.movers_answering (I := fun c' => c'.clock = c.clock)
    (J := fun i => (requests i).Timely) (p := fun i => (requests i).thread) ?_ ?_ ?_ ?_ ?_ ?_
    ?_ ?_
  · exact fun i => rfl
  · exact fun i f _ c' hclock => (handle_frame f c').clock.trans hclock
  · exact fun i f _ j => (requests j).keeps_timely f
  · exact fun i j f g _ hc hf hg => hf.commute hg hc fun c' hI => hI.2
  · rfl
  · rfl
  · exact fun i hc => SeatRequest.reduces_thread hc
  · exact fun i hc => SeatRequest.atomic_thread hc

/-- **Seat requests are linearisable.** Commits and requests for locks take turns in any
order; only that who commits with a lock has its id from somebody, so it has been given
out. If `commit_lock` is free after that, the callers have an order, in which who is
through before another begins comes first: the container is the one that a run of the
machine leaves which makes the requests in that order, and every caller that is through
has the answer that he gets in that run. -/
theorem seat_requests_linearise (requests : ι → SeatRequest) (c : Container) (is : List ι)
    (htimely :
      let start := (Callers.seatRequests requests).start (fun i => (requests i).critical) c
      let h := Answered.handle (ι := ι) (α := SeatReply) StoreCall.handle
      ∀ n i, is[n]? = some i → ∀ id ∈ (requests i).lockId,
        id ∉ (start.turns h (is.take n)).shared.1.seatLockStore.ids) :
    let callers := Callers.seatRequests requests
    let h := Answered.handle (ι := ι) (α := SeatReply) StoreCall.handle
    let start := callers.start (fun i => (requests i).critical) c
    let w := start.turns h is
    w.holder = none →
      ∃ order : List ι, order.Nodup ∧ (∀ i, (w.proc i).finished = true → i ∈ order) ∧
        (∀ n i j, ((start.turns h (is.take n)).proc i).finished = true → j ∈ order →
          j ∉ is.take n → order.idxOf i < order.idxOf j) ∧
        w.shared.1 = Run.final step c (order.map callers.op) ∧
        ∀ i, (w.proc i).finished = true → ∀ r, w.shared.2 i = some r ↔
          callers.Answers order (Run.trace step c (order.map callers.op)) i r := by
  intro callers h start w hfree
  have hm := movers_seatRequests requests c
  obtain ⟨order, hr, hbefore⟩ := hm.linearise is fun n i hi _ => htimely n i hi
  have hloose : ∀ i, start.critical i = false → ∀ f, ¬ (requests i).Moves f := by
    intro i hc f hf
    have hcritical : (requests i).critical = false := hc
    cases hrequest : requests i with
    | acquire =>
        rw [hrequest] at hf
        exact hf
    | commit =>
        rw [hrequest] at hcritical
        cases hcritical
  obtain ⟨hstate, htable⟩ := Pool.Reduced.answered (I := fun c' => c'.clock = c.clock)
    (J := fun i => (requests i).Timely) hr hloose hfree
  refine ⟨order, hr.nodup, fun i => hr.mem_of_finished hm, hbefore, ?_, fun i hdone r => ?_⟩
  · exact hstate.trans (Callers.serial_container callers _ c order)
  · rw [htable i hdone]
    exact Callers.serial_table hr.nodup i r

/-- A lock is granted, and while its session commits with it another asks for the seat. -/
theorem seat_requests_linearise_lock_then_commit :
    let requests : Fin 3 → SeatRequest := fun i =>
      if i = 0 then .acquire ⟨"FL-LAX-NYC-0800"⟩ [⟨"30F"⟩] ⟨"s1"⟩
      else if i = 1 then .commit .wired
        { commitFor "FL-LAX-NYC-0800" ["30F"] with lockId := some "L001", sessionId := some ⟨"s1"⟩ }
      else .acquire ⟨"FL-LAX-NYC-0800"⟩ [⟨"30F"⟩] ⟨"s2"⟩
    let callers := Callers.seatRequests requests
    let c := seededContainer [seededFlight "FL-LAX-NYC-0800" ["30F"]]
    let is : List (Fin 3) := [0, 0, 0, 1, 1, 1, 1, 2, 1, 1, 1, 1, 2, 1, 1, 1, 2, 1]
    let w := (callers.start (fun i => (requests i).critical) c).turns
      (Answered.handle StoreCall.handle) is
    ∃ order : List (Fin 3), order.Nodup ∧ (∀ i, i ∈ order) ∧ order.idxOf 0 < order.idxOf 1 ∧
      w.shared.1 = Run.final step c (order.map callers.op) := by
  intro requests callers c is w
  have hfree : w.holder = none := by decide +kernel
  have hdone : ∀ i, (w.proc i).finished = true := by decide +kernel
  have hfirst : ((((callers.start (fun i => (requests i).critical) c).turns
      (Answered.handle StoreCall.handle) (is.take 3)).proc 0).finished) = true := by
    decide +kernel
  have hlater : (1 : Fin 3) ∉ is.take 3 := by decide
  have hbounded : ∀ n < 18, ∀ i, is[n]? = some i → ∀ id ∈ (requests i).lockId,
      id ∉ ((callers.start (fun i => (requests i).critical) c).turns
        (Answered.handle StoreCall.handle) (is.take n)).shared.1.seatLockStore.ids := by
    decide +kernel
  have hlength : is.length = 18 := rfl
  clear_value c is
  obtain ⟨order, hnodup, hall, hbefore, hstate, -⟩ :=
    seat_requests_linearise requests c is
      (fun n i hi => hbounded n (by
        have hn := (List.getElem?_eq_some_iff.mp hi).1
        omega) i hi) hfree
  exact ⟨order, hnodup, fun i => hall i (hdone i), hbefore 3 0 1 hfirst (hall 1 (hdone 1)) hlater,
    hstate⟩

end FlightBooking
