import FlightBooking.Verification.NoDoubleBooking
import FlightBooking.Verification.SeatLockSpec

/-!
# CommitOrder — commits on different seats in any order

A commit is summed up by its verdict: what it answers, the booking it stores and
the lock it releases. The verdict depends on the stores through the checks, the
amount due and the booking alone. A commit on other seats, with another lock and
another reference, leaves these as they are, and what two verdicts do to the
stores does not depend on their order.
-/

namespace FlightBooking

open Py BookingService

/-- A commit together with the booking reference that it will draw. -/
structure Attempt where
  env : Collaborators
  request : CommitRequest
  reference : String

/-- The generator yields `reference` next, and nothing after it. -/
def Container.withReference (c : Container) (reference : String) : Container :=
  { c with ids := { c.ids with bookingRefs := [reference] } }

/-- One commit, with its own reference. -/
def attempt (c : Container) (a : Attempt) : Except Exn CommitResult × Container :=
  (commit a.env a.request).run (c.withReference a.reference)

/-! ## The verdict -/

/-- What a commit answers, stores and releases. -/
structure Verdict where
  result : Except Exn CommitResult
  saved : Option Booking := none
  released : Option String := none

/-- The audit line comes last: it decides what the caller sees. -/
def logged (env : Collaborators) (result : CommitResult) : Except Exn CommitResult :=
  match env.fault .writeAudit with
  | some e => .error e
  | none => .ok result

/-- The verdict once the gateway has accepted. -/
def verdictPaid (env : Collaborators) (lockId : Option String) (b : Booking) : Verdict :=
  match env.fault .newBookingReference with
  | some e => { result := .error e }
  | none =>
      match env.fault .saveBooking with
      | some e => { result := .error e }
      | none =>
          match env.fault .queueConfirmation with
          | some e => { result := .error e, saved := some b }
          | none =>
              match lockId, env.fault .releaseLock with
              | some _, some e => { result := .error e, saved := some b }
              | lockId, _ =>
                  { result := logged env { booking := some b }
                    saved := some b
                    released := lockId }

/-- The verdict, from what the checks say, the amount due and the booking to store. -/
def verdictOn (env : Collaborators) (request : CommitRequest) (booking : Money → Booking) :
    Option CommitResult → Except Exn Money → Verdict
  | some r, _ => { result := .ok r }
  | none, .error e => { result := .error e }
  | none, .ok total =>
      match env.charge request.paymentToken total with
      | .error e => { result := .error e }
      | .ok result =>
          if result.succeeded then verdictPaid env request.lockId (booking total)
          else
            { result := logged env
                (.refuse .paymentDeclined "payment declined by gateway") }

/-- The verdict of the attempt in `c`. -/
def Attempt.verdict (a : Attempt) (c : Container) : Verdict :=
  verdictOn a.env a.request (fun total => bookingOf c a.request total a.reference)
    (refusal c a.request) (amountDue c a.request)

/-- `c'` is `c` with the booking stored and the lock released. -/
structure Applied (v : Verdict) (c c' : Container) : Prop where
  flightRepo : c'.flightRepo = c.flightRepo
  quoteStore : c'.quoteStore = c.quoteStore
  clock : c'.clock = c.clock
  bookingRepo : c'.bookingRepo = match v.saved with
    | some b => c.bookingRepo.save b
    | none => c.bookingRepo
  seatLockStore : c'.seatLockStore = match v.released with
    | some lockId => c.seatLockStore.release lockId
    | none => c.seatLockStore

/-- Nothing is stored or released. -/
theorem Applied.of_kept {v : Verdict} {c c' : Container} (hs : v.saved = none)
    (hr : v.released = none) (hf : CommitFrame c c') (hb : c'.bookingRepo = c.bookingRepo)
    (hl : c'.seatLockStore = c.seatLockStore) : Applied v c c' := by
  refine ⟨hf.flightRepo, hf.quoteStore, hf.clock, ?_, ?_⟩
  · rw [hs]
    exact hb
  · rw [hr]
    exact hl

/-- The booking is stored. -/
theorem Applied.of_saved {v : Verdict} {c c' : Container} {b : Booking} (hs : v.saved = some b)
    (hf : CommitFrame c c') (hb : c'.bookingRepo = c.bookingRepo.save b)
    (hl : c'.seatLockStore = match v.released with
      | some lockId => c.seatLockStore.release lockId
      | none => c.seatLockStore) : Applied v c c' := by
  refine ⟨hf.flightRepo, hf.quoteStore, hf.clock, ?_, hl⟩
  rw [hs]
  exact hb

section Exits

variable {env : Collaborators} {request : CommitRequest} {c c' : Container} {total : Money}
  {result : PaymentResult} {booking : Money → Booking}

/-- Once the gateway has answered, its answer decides. -/
theorem verdictOn_charged (h : Charged env request c total result) :
    verdictOn env request booking (refusal c request) (amountDue c request) =
      if result.succeeded then verdictPaid env request.lockId (booking total)
      else
        { result := logged env (.refuse .paymentDeclined "payment declined by gateway") } := by
  rw [h.passed, h.due, verdictOn, h.answer]

/-- Past the release, the log alone is left. -/
theorem verdictPaid_released {lockId : Option String} {b : Booking}
    (hgen : env.fault .newBookingReference = none) (hsave : env.fault .saveBooking = none)
    (hqueue : env.fault .queueConfirmation = none)
    (hrel : lockId = none ∨ env.fault .releaseLock = none) :
    verdictPaid env lockId b =
      { result := logged env { booking := some b }, saved := some b, released := lockId } := by
  unfold verdictPaid
  rw [hgen, hsave, hqueue]
  cases lockId with
  | none => rfl
  | some lockId =>
      rcases hrel with hnone | hok
      · cases hnone
      · rw [hok]

/-- The exits of a commit with a reference to draw, as verdicts. -/
theorem commitExit_verdict {ref : String} {out : Except Exn CommitResult}
    (href : c.ids.bookingRefs = [ref]) (h : CommitExit env request c out c') :
    let v := verdictOn env request (fun total => bookingOf c request total ref)
      (refusal c request) (amountDue c request)
    out = v.result ∧ Applied v c c' := by
  intro v
  have hframe := h.frame
  cases h with
  | refused h =>
      simp only [v, h, verdictOn]
      exact ⟨trivial, .of_kept rfl rfl hframe rfl rfl⟩
  | noTotal h hdue =>
      simp only [v, h, hdue, verdictOn]
      exact ⟨trivial, .of_kept rfl rfl hframe rfl rfl⟩
  | noAnswer h hdue hans =>
      simp only [v, h, hdue, hans, verdictOn]
      exact ⟨trivial, .of_kept rfl rfl hframe rfl rfl⟩
  | declined h hno hlog =>
      have hv : v = _ := (verdictOn_charged h).trans (if_neg (by simp [hno]))
      rw [hv]
      exact ⟨by simp [logged, hlog], .of_kept rfl rfl hframe rfl rfl⟩
  | declinedUnlogged h hno hlog =>
      have hv : v = _ := (verdictOn_charged h).trans (if_neg (by simp [hno]))
      rw [hv]
      exact ⟨by simp [logged, hlog], .of_kept rfl rfl hframe rfl rfl⟩
  | noReference h hyes hnone =>
      have hv : v = _ := (verdictOn_charged h).trans (if_pos hyes)
      rcases hnone with hgen | ⟨-, hnil, -⟩
      · simp only [hv, verdictPaid, hgen]
        exact ⟨trivial, .of_kept rfl rfl hframe rfl rfl⟩
      · rw [href] at hnil
        cases hnil
  | notSaved h hyes hdraw hgen hsave =>
      have hv : v = _ := (verdictOn_charged h).trans (if_pos hyes)
      simp only [hv, verdictPaid, hgen, hsave]
      exact ⟨trivial, .of_kept rfl rfl hframe rfl rfl⟩
  | notQueued h hyes hdraw hgen hsave hqueue =>
      have hv : v = _ := (verdictOn_charged h).trans (if_pos hyes)
      obtain ⟨rfl, -⟩ := List.cons.inj (href.symm.trans hdraw)
      simp only [hv, verdictPaid, hgen, hsave, hqueue]
      exact ⟨trivial, .of_saved rfl hframe rfl rfl⟩
  | notReleased h hyes hdraw hgen hsave hqueue hlock hrel =>
      have hv : v = _ := (verdictOn_charged h).trans (if_pos hyes)
      obtain ⟨rfl, -⟩ := List.cons.inj (href.symm.trans hdraw)
      obtain ⟨lockId, hl⟩ := Option.ne_none_iff_exists'.mp hlock
      simp only [hv, verdictPaid, hgen, hsave, hqueue, hl, hrel]
      exact ⟨trivial, .of_saved rfl hframe rfl rfl⟩
  | notLogged h hyes hdraw hgen hsave hqueue hrel hlog =>
      have hv : v = _ := (verdictOn_charged h).trans (if_pos hyes)
      obtain ⟨rfl, -⟩ := List.cons.inj (href.symm.trans hdraw)
      rw [hv, verdictPaid_released hgen hsave hqueue hrel]
      exact ⟨by simp [logged, hlog], .of_saved rfl hframe rfl rfl⟩
  | committed h hyes hdraw hgen hsave hqueue hrel hlog =>
      have hv : v = _ := (verdictOn_charged h).trans (if_pos hyes)
      obtain ⟨rfl, -⟩ := List.cons.inj (href.symm.trans hdraw)
      rw [hv, verdictPaid_released hgen hsave hqueue hrel]
      exact ⟨by simp [logged, hlog], .of_saved rfl hframe rfl rfl⟩

end Exits

/-- **A commit does what its verdict says.** -/
theorem attempt_verdict (c : Container) (a : Attempt) :
    (attempt c a).1 = (a.verdict c).result ∧ Applied (a.verdict c) c (attempt c a).2 := by
  have hexit := commit_exit a.env a.request (c.withReference a.reference)
  obtain ⟨hresult, happlied⟩ := commitExit_verdict rfl hexit
  exact ⟨hresult, happlied.flightRepo, happlied.quoteStore, happlied.clock,
    happlied.bookingRepo, happlied.seatLockStore⟩

/-! ## States with the same stores -/

/-- The lock stores have the same two maps. -/
structure SameLocks (s t : InMemorySeatLockStore) : Prop where
  bySeat : ∀ k, s.bySeat.get? k = t.bySeat.get? k
  byLock : ∀ k, s.byLock.get? k = t.byLock.get? k

/-- The stores hold the same, whatever the order in which it was put there. -/
structure SameStores (c d : Container) : Prop where
  flights : c.flightRepo = d.flightRepo
  quotes : c.quoteStore = d.quoteStore
  clock : c.clock = d.clock
  bookings : ∀ k, c.bookingRepo.get? k = d.bookingRepo.get? k
  locks : SameLocks c.seatLockStore d.seatLockStore

theorem SameStores.equivalence : Equivalence SameStores where
  refl _ := ⟨rfl, rfl, rfl, fun _ => rfl, ⟨fun _ => rfl, fun _ => rfl⟩⟩
  symm h := ⟨h.flights.symm, h.quotes.symm, h.clock.symm, fun k => (h.bookings k).symm,
    ⟨fun k => (h.locks.bySeat k).symm, fun k => (h.locks.byLock k).symm⟩⟩
  trans h h' := ⟨h.flights.trans h'.flights, h.quotes.trans h'.quotes, h.clock.trans h'.clock,
    fun k => (h.bookings k).trans (h'.bookings k),
    ⟨fun k => (h.locks.bySeat k).trans (h'.locks.bySeat k),
      fun k => (h.locks.byLock k).trans (h'.locks.byLock k)⟩⟩

/-! ## What the verdict depends on -/

theorem validateSeatIds_congr {bookings bookings' : InMemoryBookingRepository} {flight : Flight}
    {flightId : FlightId} {seatIds : List SeatId}
    (h : ∀ s ∈ seatIds,
      seatAlreadyBooked bookings flightId s = seatAlreadyBooked bookings' flightId s) :
    validateSeatIds bookings flight flightId seatIds =
      validateSeatIds bookings' flight flightId seatIds := by
  induction seatIds with
  | nil => rfl
  | cons s rest ih =>
      rw [List.forall_mem_cons] at h
      unfold validateSeatIds
      rw [h.1, ih h.2]

theorem validateLock_congr {locks locks' : InMemorySeatLockStore} {request : CommitRequest}
    {now : DateTime}
    (h : ∀ lockId, request.lockId = some lockId →
      locks.byLock.get? lockId = locks'.byLock.get? lockId) :
    validateLock locks request now = validateLock locks' request now := by
  unfold validateLock checkLockSessionOwnership InMemorySeatLockStore.isValid
    InMemorySeatLockStore.get
  cases hl : request.lockId with
  | none => rfl
  | some lockId => simp only [h lockId hl]

/-- The two states look alike to the attempt: the same flights, quotes and time,
the same answer for each of its seats, the same record of its lock. -/
structure Alike (a : Attempt) (c d : Container) : Prop where
  flights : c.flightRepo = d.flightRepo
  quotes : c.quoteStore = d.quoteStore
  clock : c.clock = d.clock
  seats : ∀ s ∈ a.request.seatIds, seatAlreadyBooked c.bookingRepo a.request.flightId s =
    seatAlreadyBooked d.bookingRepo a.request.flightId s
  lock : ∀ lockId, a.request.lockId = some lockId →
    c.seatLockStore.byLock.get? lockId = d.seatLockStore.byLock.get? lockId

theorem Alike.verdict {a : Attempt} {c d : Container} (h : Alike a c d) :
    a.verdict c = a.verdict d := by
  have hlive : liveQuote c a.request = liveQuote d a.request := by
    unfold liveQuote
    rw [h.quotes, h.clock]
  have hrefusal : refusal c a.request = refusal d a.request := by
    unfold refusal validateSeats
    rw [h.flights, h.quotes, h.clock, validateLock_congr h.lock]
    cases d.flightRepo.get a.request.flightId with
    | none => rfl
    | some flight => simp only [validateSeatIds_congr h.seats]
  have hdue : amountDue c a.request = amountDue d a.request := by
    unfold amountDue
    rw [hlive, h.flights]
  have hbooking : (fun total => bookingOf c a.request total a.reference) =
      fun total => bookingOf d a.request total a.reference := by
    funext total
    unfold bookingOf bookedQuoteId
    rw [hlive, h.clock]
  rw [Attempt.verdict, hrefusal, hdue, hbooking]
  rfl

/-! ## The stores answer by content -/

theorem seatAlreadyBooked_eq_true_iff {bookings : InMemoryBookingRepository}
    {flightId : FlightId} {seatId : SeatId} :
    seatAlreadyBooked bookings flightId seatId = true ↔
      ∃ k b, bookings.get? k = some b ∧ b.holds (flightId, seatId) = true := by
  rw [← Bool.not_eq_false, seatAlreadyBooked_eq_false_iff, holder, Option.map_eq_none_iff,
    List.find?_eq_none]
  constructor
  · intro h
    by_contra hnone
    apply h
    intro b hb hholds
    obtain ⟨k, hk⟩ := Dict.mem_values_iff.mp hb
    exact hnone ⟨k, b, hk, hholds⟩
  · intro h hnone
    obtain ⟨k, b, hk, hholds⟩ := h
    exact hnone b (Dict.mem_values_iff.mpr ⟨k, hk⟩) hholds

theorem seatAlreadyBooked_congr {bookings bookings' : InMemoryBookingRepository}
    (h : ∀ k, bookings.get? k = bookings'.get? k) (flightId : FlightId) (seatId : SeatId) :
    seatAlreadyBooked bookings flightId seatId = seatAlreadyBooked bookings' flightId seatId := by
  rw [Bool.eq_iff_iff, seatAlreadyBooked_eq_true_iff, seatAlreadyBooked_eq_true_iff]
  simp only [h]

/-- A booking under a new reference takes its own seats only. -/
theorem seatAlreadyBooked_save {bookings : InMemoryBookingRepository} {b : Booking}
    (hnew : bookings.get? b.reference = none) {flightId : FlightId} {seatId : SeatId}
    (hother : b.holds (flightId, seatId) = false) :
    seatAlreadyBooked (bookings.save b) flightId seatId =
      seatAlreadyBooked bookings flightId seatId := by
  rw [Bool.eq_iff_iff, seatAlreadyBooked_eq_true_iff, seatAlreadyBooked_eq_true_iff]
  constructor
  · intro h
    obtain ⟨k, b', hk, hholds⟩ := h
    rcases Dict.get?_set_eq_some_iff.mp hk with ⟨-, rfl⟩ | ⟨-, hold⟩
    · rw [hother] at hholds
      cases hholds
    · exact ⟨k, b', hold, hholds⟩
  · intro h
    obtain ⟨k, b', hk, hholds⟩ := h
    refine ⟨k, b', Dict.get?_set_eq_some_iff.mpr (.inr ⟨?_, hk⟩), hholds⟩
    rintro rfl
    rw [hnew] at hk
    cases hk

namespace SameLocks

open InMemorySeatLockStore

variable {s t : InMemorySeatLockStore}

theorem refl (s : InMemorySeatLockStore) : SameLocks s s := ⟨fun _ => rfl, fun _ => rfl⟩

theorem release (h : SameLocks s t) (lockId : String) :
    SameLocks (s.release lockId) (t.release lockId) := by
  constructor
  · intro k
    rw [get?_bySeat_release_record, get?_bySeat_release_record, h.byLock, h.bySeat]
  · intro k
    rw [get?_byLock_release, get?_byLock_release, h.byLock]

/-- Two locks are released in either order, also where they share seats: a release
clears the entries that name its own lock and no others. -/
theorem release_comm (s : InMemorySeatLockStore) {lockId lockId' : String}
    (hne : lockId ≠ lockId') :
    SameLocks ((s.release lockId).release lockId') ((s.release lockId').release lockId) := by
  constructor
  · intro k
    rw [get?_bySeat_release_record, get?_bySeat_release_record, get?_byLock_release, if_neg hne,
      get?_bySeat_release_record, get?_bySeat_release_record, get?_byLock_release,
      if_neg (Ne.symm hne)]
    cases s.byLock.get? lockId with
    | none => rfl
    | some record =>
        cases s.byLock.get? lockId' with
        | none => rfl
        | some record' =>
            by_cases hm : k ∈ record.seatIds <;> by_cases hm' : k ∈ record'.seatIds <;>
              simp [hm, hm', Option.filter_filter, Bool.and_comm]
  · intro k
    simp only [get?_byLock_release]
    split <;> split <;> rfl

end SameLocks

/-! ## Applying verdicts -/

section Applied

variable {v v' : Verdict} {c c' d d' : Container}

theorem Applied.get? (h : Applied v c c') (k : BookingReference) :
    c'.bookingRepo.get? k =
      match v.saved with
      | some b => if b.reference = k then some b else c.bookingRepo.get? k
      | none => c.bookingRepo.get? k := by
  rw [h.bookingRepo]
  cases v.saved with
  | none => rfl
  | some b => exact Dict.get?_set _ _ _ _

/-- One verdict on two states with the same stores. -/
theorem SameStores.applied (h : SameStores c d) (hc : Applied v c c') (hd : Applied v d d') :
    SameStores c' d' := by
  refine ⟨?_, ?_, ?_, ?_, ?_⟩
  · rw [hc.flightRepo, hd.flightRepo, h.flights]
  · rw [hc.quoteStore, hd.quoteStore, h.quotes]
  · rw [hc.clock, hd.clock, h.clock]
  · intro k
    rw [hc.get?, hd.get?, h.bookings]
  · rw [hc.seatLockStore, hd.seatLockStore]
    cases v.released with
    | none => exact h.locks
    | some lockId => exact h.locks.release lockId

/-- Two verdicts that store under different references and release different locks
are applied in either order. -/
theorem Applied.swap {cv cv' cvv' cv'v : Container} (hv : Applied v c cv)
    (hvv' : Applied v' cv cvv') (hv' : Applied v' c cv') (hv'v : Applied v cv' cv'v)
    (hsaved : ∀ b b', v.saved = some b → v'.saved = some b' → b.reference ≠ b'.reference)
    (hreleased : ∀ l l', v.released = some l → v'.released = some l' → l ≠ l') :
    SameStores cvv' cv'v := by
  refine ⟨?_, ?_, ?_, ?_, ?_⟩
  · rw [hvv'.flightRepo, hv.flightRepo, hv'v.flightRepo, hv'.flightRepo]
  · rw [hvv'.quoteStore, hv.quoteStore, hv'v.quoteStore, hv'.quoteStore]
  · rw [hvv'.clock, hv.clock, hv'v.clock, hv'.clock]
  · intro k
    rw [hvv'.get?, hv.get?, hv'v.get?, hv'.get?]
    cases hs : v.saved with
    | none => rfl
    | some b =>
        cases hs' : v'.saved with
        | none => rfl
        | some b' =>
            have hne := hsaved b b' hs hs'
            by_cases hk : b.reference = k
            · have hk' : b'.reference ≠ k := fun h => hne (hk.trans h.symm)
              simp only [hk, hk', if_true, if_false]
            · simp only [hk, if_false]
  · rw [hvv'.seatLockStore, hv.seatLockStore, hv'v.seatLockStore, hv'.seatLockStore]
    cases hr : v.released with
    | none => exact .refl _
    | some l =>
        cases hr' : v'.released with
        | none => exact .refl _
        | some l' => exact SameLocks.release_comm c.seatLockStore (hreleased l l' hr hr')

end Applied

/-! ## What a verdict can touch -/

theorem verdictPaid_saved {env : Collaborators} {lockId : Option String} {b b' : Booking}
    (h : (verdictPaid env lockId b).saved = some b') : b' = b := by
  unfold verdictPaid at h
  split at h
  · cases h
  split at h
  · cases h
  split at h
  · exact (Option.some.inj h).symm
  split at h
  · exact (Option.some.inj h).symm
  · exact (Option.some.inj h).symm

theorem verdictPaid_released_eq {env : Collaborators} {lockId : Option String} {b : Booking}
    {l : String} (h : (verdictPaid env lockId b).released = some l) : lockId = some l := by
  unfold verdictPaid at h
  split at h
  · cases h
  split at h
  · cases h
  split at h
  · cases h
  split at h
  · cases h
  · exact h

/-- The booking that is stored is the request's, under the attempt's reference. -/
theorem Attempt.verdict_saved {a : Attempt} {c : Container} {b : Booking}
    (h : (a.verdict c).saved = some b) :
    ∃ total, b = bookingOf c a.request total a.reference := by
  unfold Attempt.verdict verdictOn at h
  split at h
  · cases h
  · cases h
  · rename_i total _ _
    split at h
    · cases h
    · split at h
      · exact ⟨total, verdictPaid_saved h⟩
      · cases h

/-- The lock that is released is the request's. -/
theorem Attempt.verdict_released {a : Attempt} {c : Container} {l : String}
    (h : (a.verdict c).released = some l) : a.request.lockId = some l := by
  unfold Attempt.verdict verdictOn at h
  split at h
  · cases h
  · cases h
  · split at h
    · cases h
    · split at h
      · exact verdictPaid_released_eq h
      · cases h

/-! ## Independent attempts -/

/-- Two commits without a common seat of a flight, without a common lock, and with
references of their own. -/
structure Independent (a a' : Attempt) : Prop where
  seats : a.request.flightId = a'.request.flightId →
    ∀ s ∈ a.request.seatIds, s ∉ a'.request.seatIds
  locks : ∀ l, a.request.lockId = some l → a'.request.lockId ≠ some l
  references : a.reference ≠ a'.reference

theorem Independent.symm {a a' : Attempt} (h : Independent a a') : Independent a' a where
  seats := fun he s hs hm => h.seats he.symm s hm hs
  locks := fun l hl hl' => h.locks l hl' hl
  references := h.references.symm

/-- No stored booking has the attempt's reference. -/
def Attempt.Fresh (c : Container) (a : Attempt) : Prop :=
  c.bookingRepo.get? ⟨a.reference⟩ = none

section Pair

variable {c c' : Container} {a a' : Attempt}

theorem SameStores.alike {d : Container} (h : SameStores c d) (a : Attempt) : Alike a c d where
  flights := h.flights
  quotes := h.quotes
  clock := h.clock
  seats := fun s _ => seatAlreadyBooked_congr h.bookings a.request.flightId s
  lock := fun lockId _ => h.locks.byLock lockId

theorem Independent.references_ne (h : Independent a a') {b b' : Booking} {d d' : Container}
    (hb : (a.verdict d).saved = some b) (hb' : (a'.verdict d').saved = some b') :
    b.reference ≠ b'.reference := by
  obtain ⟨total, rfl⟩ := Attempt.verdict_saved hb
  obtain ⟨total', rfl⟩ := Attempt.verdict_saved hb'
  intro he
  exact h.references (congrArg BookingReference.value he)

/-- The second reference stays free when the first attempt is made. -/
theorem Independent.fresh (h : Independent a a') (hfresh : a'.Fresh c)
    (happlied : Applied (a.verdict c) c c') : a'.Fresh c' := by
  unfold Attempt.Fresh
  rw [happlied.get?]
  cases hs : (a.verdict c).saved with
  | none => exact hfresh
  | some b =>
      obtain ⟨total, rfl⟩ := Attempt.verdict_saved hs
      have hne : (bookingOf c a.request total a.reference).reference ≠ ⟨a'.reference⟩ :=
        fun he => h.references (congrArg BookingReference.value he)
      exact (if_neg hne).trans hfresh

/-- The state after the first attempt looks to the second as the state before. -/
theorem Independent.alike (h : Independent a a') (hfresh : a.Fresh c)
    (happlied : Applied (a.verdict c) c c') : Alike a' c' c where
  flights := happlied.flightRepo
  quotes := happlied.quoteStore
  clock := happlied.clock
  seats := by
    intro s hs
    rw [happlied.bookingRepo]
    cases hsaved : (a.verdict c).saved with
    | none => rfl
    | some b =>
        obtain ⟨total, rfl⟩ := Attempt.verdict_saved hsaved
        have hnew : c.bookingRepo.get? (bookingOf c a.request total a.reference).reference = none :=
          hfresh
        refine seatAlreadyBooked_save hnew ?_
        rw [← Bool.not_eq_true, holds_bookingOf]
        intro hcommon
        exact h.seats hcommon.1 s hcommon.2 hs
  lock := by
    intro lockId hl
    rw [happlied.seatLockStore]
    cases hreleased : (a.verdict c).released with
    | none => rfl
    | some l =>
        have hne : l ≠ lockId := by
          rintro rfl
          exact h.locks l (Attempt.verdict_released hreleased) hl
        exact (InMemorySeatLockStore.get?_byLock_release l lockId).trans (if_neg hne)

end Pair

/-! ## Any order -/

theorem attempt_congruent : Run.Congruent attempt SameStores := by
  intro c d a h
  obtain ⟨hc, hcapplied⟩ := attempt_verdict c a
  obtain ⟨hd, hdapplied⟩ := attempt_verdict d a
  rw [(h.alike a).verdict] at hc hcapplied
  exact ⟨hc.trans hd.symm, h.applied hcapplied hdapplied⟩

theorem attempt_commutes :
    Run.Commutes attempt SameStores Attempt.Fresh Independent where
  keeps c a a' _ hfresh' hind := hind.fresh hfresh' (attempt_verdict c a).2
  answers c a a' hfresh _ hind := by
    have halike := hind.alike hfresh (attempt_verdict c a).2
    rw [(attempt_verdict (attempt c a).2 a').1, (attempt_verdict c a').1, halike.verdict]
  swaps c a a' hfresh hfresh' hind := by
    have ha := (attempt_verdict c a).2
    have ha' := (attempt_verdict c a').2
    have hthen := (attempt_verdict (attempt c a).2 a').2
    have hthen' := (attempt_verdict (attempt c a').2 a).2
    rw [(hind.alike hfresh ha).verdict] at hthen
    rw [(hind.symm.alike hfresh' ha').verdict] at hthen'
    refine ha.swap hthen ha' hthen' ?_ ?_
    · intro b b' hb hb'
      exact hind.references_ne hb hb'
    · intro l l' hl hl' he
      exact hind.locks l (Attempt.verdict_released hl) (he ▸ Attempt.verdict_released hl')

/-- **Commits on different seats are order-independent.** In every state, of two
commits without a common seat or lock each gets the outcome that it gets alone,
in either order, and both orders leave the same stores. So does every order of
pairwise independent commits. -/
theorem commits_order_independent (c : Container) :
    (∀ a a', Independent a a' → a.Fresh c → a'.Fresh c →
      (attempt (attempt c a).2 a').1 = (attempt c a').1 ∧
      (attempt (attempt c a').2 a).1 = (attempt c a).1 ∧
      SameStores (attempt (attempt c a).2 a').2 (attempt (attempt c a').2 a).2) ∧
    ∀ as as', as.Perm as' → as.Pairwise Independent → (∀ a ∈ as, a.Fresh c) →
      (Run.trace attempt c as).map Run.Event.output = as.map (fun a => (attempt c a).1) ∧
      (Run.trace attempt c as').map Run.Event.output = as'.map (fun a => (attempt c a).1) ∧
      SameStores (Run.final attempt c as) (Run.final attempt c as') := by
  refine ⟨?_, ?_⟩
  · intro a a' hind hfresh hfresh'
    exact ⟨attempt_commutes.answers c a a' hfresh hfresh' hind,
      attempt_commutes.answers c a' a hfresh' hfresh hind.symm,
      attempt_commutes.swaps c a a' hfresh hfresh' hind⟩
  · intro as as' hperm hind hfresh
    have hsymm : ∀ a a', Independent a a' → Independent a' a := fun _ _ h => h.symm
    have hind' := hind.perm hperm (fun {a a'} h => hsymm a a' h)
    have hfresh' : ∀ a ∈ as', a.Fresh c := fun a ha => hfresh a (hperm.mem_iff.mpr ha)
    exact ⟨attempt_commutes.outputs_alone hind hfresh,
      attempt_commutes.outputs_alone hind' hfresh',
      attempt_commutes.final_perm SameStores.equivalence attempt_congruent hsymm hperm hind
        hfresh⟩

/-- 30F under a lock on both seats and 30G without a lock: both are sold, in
either order, for the same fare. -/
theorem commits_order_independent_two_seats :
    let flight := seededFlight "FL-LAX-NYC-0800" ["30F", "30G"]
    let c := (step (seededContainer [flight])
      (.acquire flight.id [⟨"30F"⟩, ⟨"30G"⟩] ⟨"S1"⟩)).2
    let a : Attempt := ⟨.wired,
      { commitFor "FL-LAX-NYC-0800" ["30F"] with lockId := some "L001" }, "REF001"⟩
    let a' : Attempt := ⟨.wired, commitFor "FL-LAX-NYC-0800" ["30G"], "REF002"⟩
    (Output.commit (attempt c a).1).booking?.map Booking.totalCharged = some (Money.whole 299) ∧
      (attempt (attempt c a').2 a).1 = (attempt c a).1 ∧
      SameStores (attempt (attempt c a).2 a').2 (attempt (attempt c a').2 a).2 := by
  intro flight c a a'
  have hind : Independent a a' := by
    refine ⟨fun _ => by decide, ?_, by decide⟩
    intro l _ hl'
    cases hl'
  obtain ⟨-, hsame, hstores⟩ := (commits_order_independent c).1 a a' hind rfl rfl
  exact ⟨by decide, hsame, hstores⟩

end FlightBooking
