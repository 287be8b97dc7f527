import FlightBooking.Verification.LockExclusion
import FlightBooking.Verification.NoDoubleBooking
import FlightBooking.Verification.QuoteWindow

/-!
# LockReservation — what holding a lock is worth

A lock keeps other locks away, not other commits: a commit without a lock skips
the lock store altogether. So what the holder of a lock can count on is that the
lock itself stays until a commit that presents it has come through, and that
nothing about the lock can then stand in the way of its own commit.
-/

namespace FlightBooking

open Py BookingService

/-- The event is a commit that presents the lock and leaves the store without it. -/
def Event.releases (lockId : String) (e : Event) : Prop :=
  (∃ env request, e.input = .commit env request ∧ request.lockId = some lockId) ∧
    e.dst.seatLockStore.get lockId = none

/-- The lock's id has been drawn: nobody else will get it. -/
structure Drawn (lockId : String) (c : Container) : Prop where
  consistent : c.seatLockStore.Consistent
  used : lockId ∉ c.seatLockStore.ids

section Step

variable {lockId : String} {c : Container}

theorem Drawn.preserved (h : Drawn lockId c) (op : Op) : Drawn lockId (step c op).2 := by
  refine ⟨lockStore_consistent_step h.consistent op, ?_⟩
  cases step_locks c op with
  | kept hkept => exact hkept ▸ h.used
  | @acquired flightId seatIds sessionId _ hacq =>
      rw [hacq]
      rcases c.seatLockStore.acquire_granted_or_kept flightId seatIds sessionId c.clock with
        ⟨ids, hids, hkept⟩ | ⟨_, hg⟩
      · rw [hkept]
        exact fun hm => h.used (hids.subset hm)
      · have hused := h.used
        rw [hg.drawn] at hused
        exact fun hm => hused (List.mem_cons_of_mem _ hm)
  | released hs hl hrel =>
      rw [hrel, InMemorySeatLockStore.ids_release]
      exact h.used

/-- A lock goes with a commit that presents it, and not otherwise. -/
theorem get_step (h : Drawn lockId c) {op : Op} {r : LockRecord}
    (hr : c.seatLockStore.get lockId = some r)
    (hno : ¬ Event.releases lockId (Run.Event.of step c op)) :
    (step c op).2.seatLockStore.get lockId = some r := by
  have hkeep : ∀ call, (lockStep c.seatLockStore call).2 = (step c op).2.seatLockStore →
      (∀ now, call ≠ .release lockId now) →
      (step c op).2.seatLockStore.get lockId = some r := by
    intro call hcall hne
    rw [← hcall]
    exact InMemorySeatLockStore.get?_byLock_step h.consistent hr hne
  cases hstep : step_locks c op with
  | kept hkept =>
      rw [hkept]
      exact hr
  | @acquired flightId seatIds sessionId _ hacq =>
      exact hkeep (.acquire flightId seatIds sessionId c.clock) hacq.symm (by simp)
  | @released env request total result ref rest released _ hs hl hrel =>
      have hne : released ≠ lockId := by
        intro he
        refine hno ⟨⟨env, request, rfl, he ▸ hl⟩, ?_⟩
        show (step c (.commit env request)).2.seatLockStore.byLock.get? lockId = none
        rw [hrel, InMemorySeatLockStore.get?_byLock_release, if_pos he]
      refine hkeep (.release released c.clock) hrel.symm ?_
      intro now he
      cases he
      exact hne rfl

/-- A lock that is gone does not come back. -/
theorem get_gone (h : Drawn lockId c) {op : Op} (hnone : c.seatLockStore.get lockId = none) :
    (step c op).2.seatLockStore.get lockId = none := by
  have hnone' : c.seatLockStore.byLock.get? lockId = none := hnone
  cases step_locks c op with
  | kept hkept =>
      rw [hkept]
      exact hnone
  | @acquired flightId seatIds sessionId _ hacq =>
      rw [hacq]
      rcases c.seatLockStore.acquire_granted_or_kept flightId seatIds sessionId c.clock with
        ⟨ids, -, hkept⟩ | ⟨new, hg⟩
      · rw [hkept]
        exact hnone
      · -- the id that the call draws is not this one
        have hne : new ≠ lockId := by
          intro he
          exact h.used (by simp [hg.drawn, he])
        exact (hg.byLock lockId).trans (by rw [if_neg hne]; exact hnone')
  | @released env request total result ref rest released _ hs hl hrel =>
      show (step c (.commit env request)).2.seatLockStore.byLock.get? lockId = none
      rw [hrel, InMemorySeatLockStore.get?_byLock_release, hnone']
      split <;> rfl

end Step

theorem get_gone_run {lockId : String} {c : Container} (h : Drawn lockId c)
    (hnone : c.seatLockStore.get lockId = none) (ops : List Op) :
    (Run.final step c ops).seatLockStore.get lockId = none :=
  (Run.invariant_all (I := fun c => Drawn lockId c ∧ c.seatLockStore.get lockId = none)
    (fun _ op hI => ⟨hI.1.preserved op, get_gone hI.1 hI.2⟩) ⟨h, hnone⟩ ops).2

open Classical in
/-- After a run the lock is there, as it was, if no commit released it, and gone
if one did. -/
theorem get_final {lockId : String} {c : Container} (h : Drawn lockId c) {r : LockRecord}
    (hr : c.seatLockStore.get lockId = some r) (ops : List Op) :
    (Run.final step c ops).seatLockStore.get lockId =
      if ∀ e ∈ Run.trace step c ops, ¬ Event.releases lockId e then some r else none := by
  induction ops generalizing c with
  | nil => simp [Run.trace, hr]
  | cons op ops ih =>
      simp only [Run.final_cons, Run.trace, List.forall_mem_cons]
      by_cases hrel : Event.releases lockId (Run.Event.of step c op)
      · simp [hrel, get_gone_run (h.preserved op) hrel.2 ops]
      · have hrest := ih (h.preserved op) (get_step h hr hrel)
        simpa [hrel] using hrest

/-! ## The holder's own commit -/

/-- What `SeatHoldService.acquire` has granted is in the store, under a drawn id. -/
theorem acquired_lock {c : Container} (h : c.seatLockStore.Consistent) {flightId : FlightId}
    {seatIds : List SeatId} {sessionId : SessionId} {held : SeatHoldResult} {lockId : String}
    (hacq : (step c (.acquire flightId seatIds sessionId)).1 = .acquire (.ok held))
    (hid : held.lockId = some lockId) :
    Drawn lockId (step c (.acquire flightId seatIds sessionId)).2 ∧
      (step c (.acquire flightId seatIds sessionId)).2.seatLockStore.get lockId =
        some (InMemorySeatLockStore.recordOf lockId flightId seatIds sessionId c.clock) := by
  simp only [step_acquire, Output.acquire.injEq] at hacq ⊢
  have hlocked : ∃ lock, (c.seatLockStore.acquire flightId seatIds sessionId c.clock).1 =
      .ok (.lock lock) ∧ lock.lockId = lockId := by
    cases hout : (c.seatLockStore.acquire flightId seatIds sessionId c.clock).1 with
    | error e =>
        rw [hout] at hacq
        cases hacq
    | ok outcome =>
        rw [hout] at hacq
        cases hacq
        cases outcome with
        | lock lock => exact ⟨lock, rfl, Option.some.inj hid⟩
        | conflict conflictingSeats => cases hid
  obtain ⟨lock, hlock, rfl⟩ := hlocked
  have hg := InMemorySeatLockStore.acquire_locked hlock
  exact ⟨⟨h.granted hg, (h.used hg).1⟩, (hg.byLock _).trans (if_pos rfl)⟩

/-- A fault-free commit of one seat, without a quote, that the gateway accepts. -/
structure Accepted (env : Collaborators) (request : CommitRequest) : Prop where
  noQuote : request.quoteId = none
  accepts : ∀ total, ∃ result, env.charge request.paymentToken total = .ok result ∧
    result.succeeded = true
  sound : ∀ port, env.fault port = none

/-- With nothing else in the way, a commit succeeds if its checks pass. -/
theorem completes_iff_passes {env : Collaborators} {request : CommitRequest} {c : Container}
    (ha : Accepted env request) (href : c.ids.bookingRefs ≠ []) :
    Completes env request c ↔ ∃ flight, Passes c request flight := by
  constructor
  · exact fun h => h.passes
  · intro hpasses
    obtain ⟨flight, hp⟩ := hpasses
    have hf : c.flightRepo.get request.flightId = some flight := hp.exists_flight
    have hdue : amountDue c request = .ok flight.baseFare := by
      simp [amountDue, liveQuote_none ha.noQuote, hf]
    obtain ⟨result, hans, hyes⟩ := ha.accepts flight.baseFare
    exact ⟨⟨flight, hp⟩, ⟨_, result, hdue, hans, hyes⟩, href, ha.sound _, ha.sound _, ha.sound _,
      .inr (ha.sound _), ha.sound _⟩

/-- The seat is a seat of the flight that is not blocked. -/
def Offered (c : Container) (flightId : FlightId) (seatId : SeatId) : Prop :=
  ∃ flight seat, c.flightRepo.get? flightId = some flight ∧
    flight.cabin.seats.get? seatId = some seat ∧ seat.status ≠ .blocked

/-- No stored confirmed booking of the flight has the seat. -/
def Unbooked (c : Container) (flightId : FlightId) (seatId : SeatId) : Prop :=
  ∀ k b, c.bookingRepo.get? k = some b → b.flightId = flightId → b.status = .confirmed →
    seatId ∉ b.seatIds

theorem seatAlreadyBooked_iff_unbooked {c : Container} {flightId : FlightId} {seatId : SeatId} :
    seatAlreadyBooked c.bookingRepo flightId seatId = false ↔ Unbooked c flightId seatId := by
  rw [seatAlreadyBooked_eq_false_iff, holder, Option.map_eq_none_iff, List.find?_eq_none]
  constructor
  · intro h k b hk hf hs hm
    exact h b (Dict.mem_values_iff.mpr ⟨k, hk⟩) (holds_iff.mpr ⟨hf, hs, hm⟩)
  · intro h b hb hholds
    obtain ⟨k, hk⟩ := Dict.mem_values_iff.mp hb
    obtain ⟨hf, hs, hm⟩ := holds_iff.mp hholds
    exact h k b hk hf hs hm

theorem passes_one_seat_iff {c : Container} {request : CommitRequest} {seatId : SeatId}
    {lockId : String} (hq : request.quoteId = none) (hseat : request.seatIds = [seatId])
    (hlock : request.lockId = some lockId) :
    (∃ flight, Passes c request flight) ↔
      (Offered c request.flightId seatId ∧ Unbooked c request.flightId seatId) ∧
        LockPresented c.seatLockStore request c.clock lockId := by
  constructor
  · intro hpasses
    obtain ⟨flight, hp⟩ := hpasses
    obtain ⟨seat, hs, hblocked, hfree⟩ := hp.seats seatId (by simp [hseat])
    exact ⟨⟨⟨flight, seat, hp.exists_flight, hs, hblocked⟩,
      seatAlreadyBooked_iff_unbooked.mp hfree⟩, hp.lock lockId hlock⟩
  · intro hall
    obtain ⟨⟨⟨flight, seat, hf, hs, hblocked⟩, hfree⟩, hpresented⟩ := hall
    refine ⟨flight, hf, by simp [hq], ?_, ?_⟩
    · intro s hm
      rw [hseat, List.mem_singleton] at hm
      subst hm
      exact ⟨seat, hs, hblocked, seatAlreadyBooked_iff_unbooked.mpr hfree⟩
    · intro lockId' hl
      rw [hlock] at hl
      cases hl
      exact hpresented

theorem BookingService.CommitExit.declined_keeps {c c' : Container} {env : Collaborators}
    {request : CommitRequest} {out : Except Exn CommitResult} (h : CommitExit env request c out c')
    (hout : out = .ok (.refuse .paymentDeclined "payment declined by gateway")) :
    c'.seatLockStore = c.seatLockStore ∧ c'.bookingRepo = c.bookingRepo := by
  cases h with
  | refused h => exact ⟨rfl, rfl⟩
  | declined h hno hlog => exact ⟨rfl, rfl⟩
  | _ => cases hout

/-- A declined commit moves neither the locks nor the bookings. -/
theorem StepExit.declined_keeps {c c' : Container} {op : Op} {out : Output}
    (h : StepExit c op out c')
    (hout : out = .commit (.ok (.refuse .paymentDeclined "payment declined by gateway"))) :
    c'.seatLockStore = c.seatLockStore ∧ c'.bookingRepo = c.bookingRepo := by
  cases h with
  | commit h => exact h.declined_keeps (Output.commit.inj hout)
  | _ => cases hout

/-- The holder's own commit, after any run: it succeeds exactly if the seat is
offered, nobody has booked it and the lock has not been released. -/
theorem Drawn.own_commit_iff {c : Container} {flightId : FlightId} {seatIds : List SeatId}
    {sessionId : SessionId} {lockId : String} {issued : DateTime} (h : Drawn lockId c)
    (hr : c.seatLockStore.get lockId =
      some (InMemorySeatLockStore.recordOf lockId flightId seatIds sessionId issued))
    {ops : List Op} (hlive : (Run.final step c ops).clock < issued.add lockTtl)
    {env : Collaborators} {request : CommitRequest} (ha : Accepted env request)
    (href : (Run.final step c ops).ids.bookingRefs ≠ []) {seatId : SeatId}
    (hseat : request.seatIds = [seatId]) (hlock : request.lockId = some lockId)
    (hsession : request.sessionId = some sessionId) :
    (∃ b, (step (Run.final step c ops) (.commit env request)).1.booking? = some b) ↔
      (Offered (Run.final step c ops) request.flightId seatId ∧
        Unbooked (Run.final step c ops) request.flightId seatId) ∧
        ∀ e ∈ Run.trace step c ops, ¬ Event.releases lockId e := by
  rw [commit_succeeds_iff, completes_iff_passes ha href,
    passes_one_seat_iff ha.noQuote hseat hlock]
  apply and_congr_right
  intro _
  have hget := get_final h hr ops
  constructor
  · intro hpresented
    obtain ⟨r, hpresent, -, -⟩ := hpresented
    by_contra hreleased
    rw [if_neg hreleased] at hget
    have hpresent' : (Run.final step c ops).seatLockStore.get lockId = some r := hpresent
    rw [hget] at hpresent'
    cases hpresent'
  · intro hkept
    rw [if_pos hkept] at hget
    refine ⟨_, hget, hlive, ?_⟩
    intro session hs
    rw [hsession] at hs
    exact Option.some.inj hs

/-- **What a lock reserves.** A lock is granted to a session; any run of any
services follows in which no commit that presents the lock releases it. Before
its ten minutes are over, a commit of a seat of the lock by that session with
the lock, without a quote and with a payment that is accepted, succeeds exactly
if the seat is offered and nobody has booked it. And a commit that is declined
moves neither the locks nor the bookings. -/
theorem lock_reserves_seat {c₀ : Container} {lockIds : List String}
    (hstore : c₀.seatLockStore = { ids := lockIds }) (hids : lockIds.Nodup)
    (before ops : List Op) {flightId : FlightId} {seatIds : List SeatId}
    {sessionId : SessionId} {held : SeatHoldResult} {lockId : String} :
    let c := Run.final step c₀ before
    let c₁ := (step c (.acquire flightId seatIds sessionId)).2
    let c₂ := Run.final step c₁ ops
    (step c (.acquire flightId seatIds sessionId)).1 = .acquire (.ok held) →
    held.lockId = some lockId → c₂.clock < c.clock.add lockTtl →
    ((∀ e ∈ Run.trace step c₁ ops, ¬ Event.releases lockId e) →
      ∀ env request, Accepted env request → c₂.ids.bookingRefs ≠ [] →
      ∀ seatId ∈ seatIds, request.flightId = flightId → request.seatIds = [seatId] →
        request.lockId = some lockId → request.sessionId = some sessionId →
        ((∃ b, (step c₂ (.commit env request)).1.booking? = some b) ↔
          Offered c₂ flightId seatId ∧ Unbooked c₂ flightId seatId)) ∧
    ∀ e ∈ Run.trace step c₁ ops,
      e.output = .commit (.ok (.refuse .paymentDeclined "payment declined by gateway")) →
      e.dst.seatLockStore = e.src.seatLockStore ∧ e.dst.bookingRepo = e.src.bookingRepo := by
  intro c c₁ c₂ hacq hheld hlive
  have hcons : c.seatLockStore.Consistent :=
    lockStore_consistent (by rw [hstore]; exact .start hids) before
  obtain ⟨hdrawn, hr⟩ := acquired_lock hcons hacq hheld
  constructor
  · intro hkept env request ha href seatId _ hflight hseat hlock hsession
    subst hflight
    have hiff := hdrawn.own_commit_iff hr hlive ha href hseat hlock hsession
    exact hiff.trans (and_iff_left hkept)
  · intro e he hdeclined
    obtain ⟨-, -, heq⟩ := Run.mem_trace (A := fun _ _ => True) (I := fun _ => True)
      (fun _ _ _ _ => trivial) trivial (Run.Along.of_forall (fun _ _ => trivial) c₁ ops) he
    rw [heq] at hdeclined ⊢
    exact (step_exit e.src e.input).declined_keeps hdeclined

/-- The holder's first payment is declined, the second one is accepted. -/
theorem lock_reserves_seat_retry :
    let request : CommitRequest := { commitFor "FL-LAX-NYC-0800" ["30F"] with
      lockId := some "L001", sessionId := some ⟨"S1"⟩ }
    let c := (step (seededContainer [seededFlight "FL-LAX-NYC-0800" ["30F"]])
      (.acquire ⟨"FL-LAX-NYC-0800"⟩ [⟨"30F"⟩] ⟨"S1"⟩)).2
    let declined : Op := .commit .wired { request with paymentToken := "fail" }
    ∃ b, (step (step c declined).2 (.commit .wired request)).1.booking? = some b := by
  intro request c declined
  have hacc : Accepted .wired request := by
    refine ⟨rfl, ?_, fun _ => rfl⟩
    intro total
    exact ⟨{ succeeded := true }, rfl, rfl⟩
  have hstore : (seededContainer [seededFlight "FL-LAX-NYC-0800" ["30F"]]).seatLockStore =
      { ids := ["L001", "L002", "L003"] } := rfl
  refine ((lock_reserves_seat hstore (by decide) [] [declined] rfl rfl (by decide)).1 ?_ .wired
    request hacc (by decide) ⟨"30F"⟩ (by decide) rfl rfl rfl rfl).mpr ⟨?_, ?_⟩
  · intro e he
    rw [List.mem_singleton.mp he]
    intro hreleases
    obtain ⟨-, hgone⟩ := hreleases
    exact absurd hgone (by decide)
  · exact ⟨_, _, rfl, rfl, by decide⟩
  · intro k b hk
    cases hk

/-- A lock is granted on a seat that the flight does not have. A commit without
a lock takes a seat that S1 has locked, and S1 is refused. And once S1 has
committed one seat of its lock, it has no lock for the other one. -/
theorem lock_does_not_reserve_seat :
    let c := seededContainer [seededFlight "FL-LAX-NYC-0800" ["30F", "30G"]]
    let hold := step c (.acquire ⟨"FL-LAX-NYC-0800"⟩ [⟨"30F"⟩, ⟨"30G"⟩, ⟨"99Z"⟩] ⟨"S1"⟩)
    let own (seat : String) : Op := .commit .wired { commitFor "FL-LAX-NYC-0800" [seat] with
      lockId := some "L001", sessionId := some ⟨"S1"⟩ }
    let taken := step hold.2 (.commit .wired (commitFor "FL-LAX-NYC-0800" ["30F"]))
    let first := step hold.2 (own "30F")
    hold.1 = .acquire (.ok ⟨true, some "L001", some (testNow.add lockTtl), []⟩) ∧
      taken.1.booking?.isSome = true ∧
      (step taken.2 (own "30F")).1.errorCode? = some .seatAlreadyBooked ∧
      first.1.booking?.isSome = true ∧
      (step first.2 (own "30G")).1.errorCode? = some .lockNotFound := by
  exact ⟨rfl, by decide, by decide, by decide, by decide⟩

end FlightBooking
