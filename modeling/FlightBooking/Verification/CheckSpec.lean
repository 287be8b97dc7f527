import FlightBooking.Verification.CommitSpec

/-!
# CheckSpec — what the checks of `commit` check

`refusal` is `none` exactly if the flight exists, the quote is live, every seat
is for sale and free, and the lock is live and not another session's. That is
also all: nothing compares the quote or the lock with the flight and the seats
that are asked for.
-/

namespace FlightBooking

open Py BookingService

/-! ## What the checks refuse with -/

/-- An optional refusal whose code, if there is one, is among `codes`. -/
def RefusesWith (codes : List ErrorCode) (refusal : Option CommitResult) : Prop :=
  ∀ r, refusal = some r → ∃ code ∈ codes, ∃ message, r = .refuse code message

namespace RefusesWith

theorem none {codes : List ErrorCode} : RefusesWith codes none := by
  intro r h
  cases h

theorem some {codes : List ErrorCode} {code : ErrorCode} {message : String}
    (h : code ∈ codes) : RefusesWith codes (some (.refuse code message)) := by
  intro r hr
  cases hr
  exact ⟨code, h, message, rfl⟩

theorem mono {codes codes' : List ErrorCode} {refusal : Option CommitResult}
    (h : RefusesWith codes refusal) (hsub : codes ⊆ codes') : RefusesWith codes' refusal := by
  intro r hr
  obtain ⟨code, hc, message, he⟩ := h r hr
  exact ⟨code, hsub hc, message, he⟩

theorem or {codes : List ErrorCode} {a b : Option CommitResult}
    (ha : RefusesWith codes a) (hb : RefusesWith codes b) : RefusesWith codes (a.or b) := by
  intro r hr
  rcases Option.or_eq_some_iff.mp hr with h | ⟨-, h⟩
  · exact ha r h
  · exact hb r h

end RefusesWith

theorem resolveQuote_refuses (quotes : InMemoryQuoteStore) (quoteId : Option QuoteId)
    (now : DateTime) :
    RefusesWith [.quoteNotFound, .quoteExpired] (resolveQuote quotes quoteId now).error := by
  unfold resolveQuote
  cases quoteId with
  | none => exact .none
  | some id =>
      simp only
      cases quotes.getValid id now with
      | some valid => exact .none
      | none =>
          simp only
          cases quotes.get id with
          | none => exact .some (by simp)
          | some expired => exact .some (by simp)

theorem validateSeats_refuses (bookings : InMemoryBookingRepository) (flight : Flight)
    (request : CommitRequest) :
    RefusesWith [.unknownSeat, .seatNotForSale, .seatAlreadyBooked]
      (validateSeats bookings flight request) := by
  unfold validateSeats
  induction request.seatIds with
  | nil => exact .none
  | cons seatId rest ih =>
      unfold validateSeatIds
      cases flight.cabin.seats.get? seatId with
      | none => exact .some (by simp)
      | some seat =>
          by_cases hb : seat.status = .blocked
          · simpa [hb] using RefusesWith.some (by simp)
          · by_cases hs : seatAlreadyBooked bookings request.flightId seatId = true
            · simpa [hb, hs] using RefusesWith.some (by simp)
            · simpa [hb, hs] using ih

theorem checkLockSessionOwnership_refuses (locks : InMemorySeatLockStore)
    (request : CommitRequest) :
    RefusesWith [.lockSessionMismatch] (checkLockSessionOwnership locks request) := by
  unfold checkLockSessionOwnership
  -- without a lock, a record or a session there is nothing to compare
  split
  · exact .none
  split
  · exact .none
  split
  · exact .none
  split
  · exact .none
  · exact .some (by simp)

theorem validateLock_refuses (locks : InMemorySeatLockStore) (request : CommitRequest)
    (now : DateTime) :
    RefusesWith [.lockNotFound, .lockExpired, .lockSessionMismatch]
      (validateLock locks request now) := by
  unfold validateLock
  split
  · exact .none
  split
  · exact (checkLockSessionOwnership_refuses locks request).mono (by simp)
  split
  · exact .some (by simp)
  · exact .some (by simp)

/-- The codes of the checks: every code but the one of a declined payment. -/
theorem refusal_refuses (c : Container) (request : CommitRequest) :
    RefusesWith [.flightNotFound, .quoteNotFound, .quoteExpired, .unknownSeat, .seatNotForSale,
      .seatAlreadyBooked, .lockNotFound, .lockExpired, .lockSessionMismatch]
      (refusal c request) := by
  unfold refusal
  cases c.flightRepo.get request.flightId with
  | none => exact .some (by simp)
  | some flight =>
      refine .or ((resolveQuote_refuses _ _ _).mono (by simp)) (.or ?_ ?_)
      · exact (validateSeats_refuses _ _ _).mono (by simp)
      · exact (validateLock_refuses _ _ _).mono (by simp)

theorem refusal_booking {c : Container} {request : CommitRequest} {r : CommitResult}
    (h : refusal c request = some r) : r.booking = none := by
  obtain ⟨code, -, message, rfl⟩ := refusal_refuses c request r h
  rfl

/-! ## When they pass -/

theorem getValid_eq_some_iff {quotes : InMemoryQuoteStore} {id : QuoteId} {now : DateTime}
    {q : Quote} :
    quotes.getValid id now = some q ↔ quotes.get? id = some q ∧ now < q.expiresAt := by
  unfold InMemoryQuoteStore.getValid
  cases hq : quotes.get? id with
  | none => simp
  | some quote =>
      by_cases hle : quote.expiresAt ≤ now
      · have hnot : ∀ q, quote = q → ¬ now < q.expiresAt := by
          intro q he
          subst he
          exact fun hlt => DateTime.not_le.mpr hlt hle
        simp only [hle, if_true, reduceCtorEq, Option.some.injEq, false_iff, not_and]
        exact hnot q
      · have hlt : now < quote.expiresAt := DateTime.not_le.mp hle
        simp only [hle, if_false, Option.some.injEq]
        constructor
        · intro he
          exact ⟨he, he ▸ hlt⟩
        · exact fun h => h.1

theorem resolveQuote_quote {quotes : InMemoryQuoteStore} {id : QuoteId} {now : DateTime} :
    (resolveQuote quotes (some id) now).quote = quotes.getValid id now := by
  unfold resolveQuote
  cases hv : quotes.getValid id now with
  | some valid => simp [hv]
  | none => cases hg : quotes.get id <;> simp [hv, hg]

theorem resolveQuote_error_eq_none_iff {quotes : InMemoryQuoteStore} {quoteId : Option QuoteId}
    {now : DateTime} :
    (resolveQuote quotes quoteId now).error = none ↔
      ∀ id, quoteId = some id → ∃ q, quotes.get? id = some q ∧ now < q.expiresAt := by
  cases quoteId with
  | none => simp [resolveQuote]
  | some id =>
      simp only [Option.some.injEq, forall_eq', ← getValid_eq_some_iff]
      unfold resolveQuote
      cases hv : quotes.getValid id now with
      | some valid => simp [hv]
      | none => cases hg : quotes.get id <;> simp [hv, hg]

/-- A seat that can be sold: in the cabin, not blocked, in no confirmed booking. -/
def ForSale (bookings : InMemoryBookingRepository) (flight : Flight) (flightId : FlightId)
    (seatId : SeatId) : Prop :=
  ∃ seat, flight.cabin.seats.get? seatId = some seat ∧ seat.status ≠ .blocked ∧
    seatAlreadyBooked bookings flightId seatId = false

theorem validateSeatIds_eq_none_iff {bookings : InMemoryBookingRepository} {flight : Flight}
    {flightId : FlightId} {seatIds : List SeatId} :
    validateSeatIds bookings flight flightId seatIds = none ↔
      ∀ s ∈ seatIds, ForSale bookings flight flightId s := by
  induction seatIds with
  | nil => simp [validateSeatIds]
  | cons seatId rest ih =>
      rw [List.forall_mem_cons, ← ih]
      simp only [validateSeatIds, ForSale]
      cases flight.cabin.seats.get? seatId with
      | none => simp
      | some seat =>
          by_cases hb : seat.status = .blocked
          · simp [hb]
          · cases hs : seatAlreadyBooked bookings flightId seatId <;> simp [hb]

/-- The lock that a request presents: it exists, it lives, and it is of the
session that the request names, if it names one. -/
def LockPresented (locks : InMemorySeatLockStore) (request : CommitRequest) (now : DateTime)
    (lockId : String) : Prop :=
  ∃ r, locks.byLock.get? lockId = some r ∧ now < r.expiresAt ∧
    ∀ session, request.sessionId = some session → r.sessionId = session

theorem isValid_iff {locks : InMemorySeatLockStore} {lockId : String} {now : DateTime} :
    locks.isValid lockId now = true ↔
      ∃ r, locks.byLock.get? lockId = some r ∧ now < r.expiresAt := by
  unfold InMemorySeatLockStore.isValid
  cases locks.byLock.get? lockId <;> simp

theorem checkLockSessionOwnership_eq_none_iff {locks : InMemorySeatLockStore}
    {request : CommitRequest} {lockId : String} {r : LockRecord}
    (hl : request.lockId = some lockId) (hr : locks.byLock.get? lockId = some r) :
    checkLockSessionOwnership locks request = none ↔
      ∀ session, request.sessionId = some session → r.sessionId = session := by
  unfold checkLockSessionOwnership
  have hg : locks.get lockId = some r := hr
  simp only [hl, hg]
  cases request.sessionId with
  | none => simp
  | some session => simp

theorem validateLock_eq_none_iff {locks : InMemorySeatLockStore} {request : CommitRequest}
    {now : DateTime} :
    validateLock locks request now = none ↔
      ∀ lockId, request.lockId = some lockId → LockPresented locks request now lockId := by
  unfold validateLock
  cases hl : request.lockId with
  | none => simp
  | some lockId =>
      simp only [Option.some.injEq, forall_eq']
      cases hv : locks.isValid lockId now with
      | true =>
          obtain ⟨r, hr, hlt⟩ := isValid_iff.mp hv
          simp only [if_true, checkLockSessionOwnership_eq_none_iff hl hr, LockPresented, hr]
          constructor
          · exact fun hs => ⟨r, rfl, hlt, hs⟩
          · intro hpresented
            obtain ⟨r', he, -, hs⟩ := hpresented
            exact (Option.some.inj he) ▸ hs
      | false =>
          have hno : ¬ LockPresented locks request now lockId := by
            intro hpresented
            obtain ⟨r, hr, hlt, -⟩ := hpresented
            rw [isValid_iff.mpr ⟨r, hr, hlt⟩] at hv
            cases hv
          cases hg : locks.get lockId <;> simp [hno]

/-- The request passes every check, on `flight`. -/
structure Passes (c : Container) (request : CommitRequest) (flight : Flight) : Prop where
  exists_flight : c.flightRepo.get? request.flightId = some flight
  quote : ∀ id, request.quoteId = some id →
    ∃ q, c.quoteStore.get? id = some q ∧ c.clock < q.expiresAt
  seats : ∀ s ∈ request.seatIds, ForSale c.bookingRepo flight request.flightId s
  lock : ∀ lockId, request.lockId = some lockId →
    LockPresented c.seatLockStore request c.clock lockId

theorem refusal_eq_none_iff {c : Container} {request : CommitRequest} :
    refusal c request = none ↔ ∃ flight, Passes c request flight := by
  unfold refusal
  cases hf : c.flightRepo.get request.flightId with
  | none =>
      have hf' : c.flightRepo.get? request.flightId = none := hf
      simp only [reduceCtorEq, false_iff, not_exists]
      intro flight h
      rw [h.exists_flight] at hf'
      cases hf'
  | some flight =>
      have hf' : c.flightRepo.get? request.flightId = some flight := hf
      simp only [Option.or_eq_none_iff, resolveQuote_error_eq_none_iff, validateSeats,
        validateSeatIds_eq_none_iff, validateLock_eq_none_iff]
      constructor
      · intro hchecks
        obtain ⟨hq, hs, hl⟩ := hchecks
        exact ⟨flight, hf', hq, hs, hl⟩
      · intro hpasses
        obtain ⟨flight', h⟩ := hpasses
        have he : flight = flight' := Option.some.inj (hf'.symm.trans h.exists_flight)
        subst he
        exact ⟨h.quote, h.seats, h.lock⟩

theorem liveQuote_eq_some_iff {c : Container} {request : CommitRequest} {q : Quote} :
    liveQuote c request = some q ↔
      ∃ id, request.quoteId = some id ∧ c.quoteStore.get? id = some q ∧
        c.clock < q.expiresAt := by
  unfold liveQuote
  cases hq : request.quoteId with
  | none => simp [resolveQuote]
  | some id => simp [resolveQuote_quote, getValid_eq_some_iff]

theorem liveQuote_none {c : Container} {request : CommitRequest} (h : request.quoteId = none) :
    liveQuote c request = none := by
  simp [liveQuote, resolveQuote, h]

end FlightBooking
