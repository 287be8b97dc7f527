import FlightBooking.Lib.Interleave
import FlightBooking.Composition.Machine

/-!
# StoreCalls — the services call by call

Each method of a store or a port is atomic; between two of them another thread
may run. Here `view`, `commit` and `acquire` are the processes of their calls,
in the order of the source. Run without interruption they are the services of
`Application`.
-/

namespace FlightBooking

open Py

/-- One call of a store or a port. -/
inductive StoreCall where
  | getFlight (flightId : FlightId)
  | clockNow
  | iterAll
  | getValidQuote (quoteId : QuoteId) (now : DateTime)
  | getQuote (quoteId : QuoteId)
  | isValid (lockId : String) (now : DateTime)
  | getLock (lockId : String)
  | findActiveLockForSeat (seatId : SeatId) (now : DateTime)
  | acquire (flightId : FlightId) (seatIds : List SeatId) (sessionId : SessionId)
      (now : DateTime)
  | charge (env : Collaborators) (token : String) (amount : Money)
  | newBookingReference (env : Collaborators)
  | saveBooking (env : Collaborators) (booking : Booking)
  | queueConfirmation (env : Collaborators) (booking : Booking)
  | release (env : Collaborators) (lockId : String)
  | writeAudit (env : Collaborators) (event : AuditEvent)

namespace StoreCall

/-- What the call returns. -/
abbrev Result : StoreCall → Type
  | getFlight _ => Option Flight
  | clockNow => DateTime
  | iterAll => List Booking
  | getValidQuote _ _ => Option Quote
  | getQuote _ => Option Quote
  | isValid _ _ => Bool
  | getLock _ => Option LockRecord
  | findActiveLockForSeat _ _ => Option LockRecord
  | acquire _ _ _ _ => AcquireOutcome
  | charge _ _ _ => PaymentResult
  | newBookingReference _ => BookingReference
  | _ => Unit

/-- A call that reads. -/
def reading {α : Type} (f : Container → α) : Stmt α := do
  let c ← Eff.get
  return f c

/-- What the call does. -/
def handle : (f : StoreCall) → Stmt f.Result
  | getFlight flightId => reading fun c => c.flightRepo.get flightId
  | clockNow => reading Container.clock
  | iterAll => reading fun c => c.bookingRepo.iterAll
  | getValidQuote quoteId now => reading fun c => c.quoteStore.getValid quoteId now
  | getQuote quoteId => reading fun c => c.quoteStore.get quoteId
  | isValid lockId now => reading fun c => c.seatLockStore.isValid lockId now
  | getLock lockId => reading fun c => c.seatLockStore.get lockId
  | findActiveLockForSeat seatId now =>
      reading fun c => c.seatLockStore.findActiveLockForSeat seatId now
  | acquire flightId seatIds sessionId now => do
      let c ← Eff.get
      let (outcome, store) := c.seatLockStore.acquire flightId seatIds sessionId now
      Eff.modify fun c => { c with seatLockStore := store }
      Eff.ofExcept outcome
  | charge env token amount => FlightBooking.charge env token amount
  | newBookingReference env => FlightBooking.newBookingReference env
  | saveBooking env booking => FlightBooking.saveBooking env booking
  | queueConfirmation env booking => FlightBooking.queueConfirmation env booking
  | release env lockId => releaseLock env lockId
  | writeAudit env event => FlightBooking.writeAudit env event

end StoreCall

/-- A thread of the program. -/
abbrev Thread := Proc StoreCall StoreCall.Result Exn

namespace Thread

/-- One call. -/
def call (f : StoreCall) : Thread f.Result := Proc.perform f

/-! ## SeatMapService.view -/

/-- The loop of `_seats_locked_against_session`, one look a seat. -/
def lockedAgainst (now : DateTime) (sessionId : Option SessionId) :
    List SeatId → Thread (List SeatId)
  | [] => return []
  | seatId :: rest => do
      let record ← call (.findActiveLockForSeat seatId now)
      let against ← lockedAgainst now sessionId rest
      match record with
      | none => return against
      | some record =>
          if sessionId = some record.sessionId then return against
          else return seatId :: against

/-- `_seats_locked_against_session`. -/
def seatsLockedAgainstSession (cabin : Cabin) (sessionId : Option SessionId) :
    Thread (List SeatId) := do
  let now ← call .clockNow
  lockedAgainst now sessionId cabin.seats.keys

/-- `_occupied_seat_ids`: one call, the rest is a loop over its snapshot. -/
def occupiedSeatIds (flightId : FlightId) : Thread (List SeatId) := do
  let bookings : List Booking ← call .iterAll
  return bookings.foldl
    (fun occupied booking =>
      if booking.flightId ≠ flightId then occupied
      else if booking.status ≠ .confirmed then occupied
      else occupied ++ booking.seatIds)
    []

/-- `view`: the bookings are read before the locks. -/
def view (flightId : FlightId) (sessionId : Option SessionId) :
    Thread (Option (List SeatMapEntry)) := do
  match ← call (.getFlight flightId) with
  | none => return none
  | some flight =>
    let occupiedIds ← occupiedSeatIds flightId
    let lockedToOther ← seatsLockedAgainstSession flight.cabin sessionId
    let seats ← Proc.ofExcept (SeatMapService.orderedSeats flight)
    return some (seats.map fun seat =>
      { seatId := seat.id
        seatClass := seat.seatClass
        kind := seat.kind
        status := SeatMapService.statusFor seat.status seat.id occupiedIds lockedToOther })

/-! ## SeatHoldService.acquire -/

/-- `acquire`. -/
def acquire (flightId : FlightId) (seatIds : List SeatId) (sessionId : SessionId) :
    Thread SeatHoldResult := do
  let now ← call .clockNow
  match ← call (.acquire flightId seatIds sessionId now) with
  | .lock lock =>
      return { success := true, lockId := some lock.lockId, expiresAt := some lock.expiresAt }
  | .conflict conflictingSeats =>
      return { success := false, conflicts := conflictingSeats }

/-! ## BookingService.commit -/

/-- `_resolve_quote`. -/
def resolveQuote (quoteId : Option QuoteId) (now : DateTime) : Thread QuoteLookup := do
  match quoteId with
  | none => return {}
  | some quoteId =>
      match ← call (.getValidQuote quoteId now) with
      | some valid => return { quote := some valid }
      | none =>
          match ← call (.getQuote quoteId) with
          | none =>
              let error := .refuse .quoteNotFound ("quote not found: " ++ quoteId.value)
              return { error := some error }
          | some _ =>
              let error := .refuse .quoteExpired ("quote expired: " ++ quoteId.value)
              return { error := some error }

/-- `_seat_already_booked`. -/
def seatAlreadyBooked (flightId : FlightId) (seatId : SeatId) : Thread Bool := do
  let bookings : List Booking ← call .iterAll
  return bookings.any fun existing =>
    if existing.flightId ≠ flightId then false
    else if existing.status ≠ .confirmed then false
    else decide (seatId ∈ existing.seatIds)

/-- The loop of `_validate_seats`: the bookings are read anew for each seat. -/
def validateSeatIds (flight : Flight) (flightId : FlightId) :
    List SeatId → Thread (Option CommitResult)
  | [] => return none
  | seatId :: rest =>
      match flight.cabin.seats.get? seatId with
      | none => return some (.refuse .unknownSeat ("unknown seat: " ++ seatId.value))
      | some seat =>
          if seat.status = .blocked then
            return some (.refuse .seatNotForSale ("seat not for sale: " ++ seatId.value))
          else do
            if ← seatAlreadyBooked flightId seatId then
              return some (.refuse .seatAlreadyBooked ("seat already booked: " ++ seatId.value))
            else validateSeatIds flight flightId rest

/-- `_check_lock_session_ownership`. -/
def checkLockSessionOwnership (lockId : String) (sessionId : Option SessionId) :
    Thread (Option CommitResult) := do
  match ← call (.getLock lockId) with
  | none => return none
  | some raw =>
      match sessionId with
      | none => return none
      | some sessionId =>
          if raw.sessionId = sessionId then return none
          else return some (.refuse .lockSessionMismatch "seat lock not owned by session")

/-- `_validate_lock`. -/
def validateLock (request : CommitRequest) (now : DateTime) : Thread (Option CommitResult) := do
  match request.lockId with
  | none => return none
  | some lockId =>
      if ← call (.isValid lockId now) then checkLockSessionOwnership lockId request.sessionId
      else
        match ← call (.getLock lockId) with
        | none => return some (.refuse .lockNotFound ("seat lock not found: " ++ lockId))
        | some _ => return some (.refuse .lockExpired ("seat lock expired: " ++ lockId))

/-- `commit` from the accepted charge on: the booking is saved before the lock is
released. -/
def confirm (env : Collaborators) (request : CommitRequest) (now : DateTime)
    (quoteId : QuoteId) (total : Money) : Thread CommitResult := do
  let reference : BookingReference ← call (.newBookingReference env)
  let booking : Booking := {
    reference
    flightId := request.flightId
    seatIds := request.seatIds
    passengers := request.passengers
    totalCharged := total
    status := .confirmed
    quoteId
    confirmedAt := now }
  call (.saveBooking env booking)
  call (.queueConfirmation env booking)
  match request.lockId with
  | some lockId => call (.release env lockId)
  | none => pure ()
  call (.writeAudit env (.bookingCommitted {
    bookingReference := reference.value
    quoteId := quoteId.value
    flightId := request.flightId.value
    seatIds := request.seatIds.map SeatId.value
    totalCharged := total.amount.str
    committedAt := now.isoformat }))
  return { booking := some booking }

/-- `commit` from the charge on. -/
def settle (env : Collaborators) (request : CommitRequest) (now : DateTime)
    (quoteId : QuoteId) (total : Money) : Thread CommitResult := do
  let paymentResult : PaymentResult ← call (.charge env request.paymentToken total)
  if !paymentResult.succeeded then
    call (.writeAudit env (.paymentFailed {
      quoteId := request.quoteId.map QuoteId.value
      flightId := request.flightId.value
      seatIds := request.seatIds.map SeatId.value
      paymentToken := request.paymentToken
      reason := match paymentResult.reason with
        | none => "declined"
        | some reason => if reason = "" then "declined" else reason
      attemptedAt := now.isoformat }))
    return .refuse .paymentDeclined "payment declined by gateway"
  else confirm env request now quoteId total

/-- `commit`. -/
def commit (env : Collaborators) (request : CommitRequest) : Thread CommitResult := do
  match ← call (.getFlight request.flightId) with
  | none =>
      return .refuse .flightNotFound ("flight " ++ request.flightId.value ++ " not found")
  | some flight =>
    let now ← call .clockNow
    let quoteLookup ← resolveQuote request.quoteId now
    if let some quoteError := quoteLookup.error then return quoteError
    if let some seatError ← validateSeatIds flight request.flightId request.seatIds then
      return seatError
    if let some lockError ← validateLock request now then return lockError
    match quoteLookup.quote with
    | some quote =>
        match quote.priceBreakdown.total with
        | .ok total => settle env request now quote.id total
        | .error e => Proc.raise e
    | none => settle env request now BookingService.wsShortcutQuoteId flight.baseFare

/-! ## Uninterrupted -/

section Uninterrupted

open StoreCall

variable {c : Container}

theorem run_call (f : StoreCall) : ((call f).run handle).run c = (handle f).run c :=
  Proc.run_perform f c

theorem run_lockedAgainst (now : DateTime) (sessionId : Option SessionId)
    (seatIds : List SeatId) :
    ((lockedAgainst now sessionId seatIds).run handle).run c =
      (.ok (seatIds.filter fun seatId =>
        match c.seatLockStore.findActiveLockForSeat seatId now with
        | none => false
        | some record => decide (sessionId ≠ some record.sessionId)), c) := by
  induction seatIds with
  | nil => rfl
  | cons seatId rest ih =>
      have hlook : ((call (.findActiveLockForSeat seatId now)).run handle).run c =
          (.ok (c.seatLockStore.findActiveLockForSeat seatId now), c) := rfl
      unfold lockedAgainst
      rw [Proc.run_bind_ok hlook, Proc.run_bind_ok ih]
      cases hr : c.seatLockStore.findActiveLockForSeat seatId now with
      | none => simp [hr]
      | some record => by_cases hs : sessionId = some record.sessionId <;> simp [hr, hs]

/-- The map of an uninterrupted view is the map of the state. -/
theorem run_view (flightId : FlightId) (sessionId : Option SessionId) :
    ((view flightId sessionId).run handle).run c =
      (SeatMapService.view c flightId sessionId, c) := by
  have hget : ((call (.getFlight flightId)).run handle).run c =
      (.ok (c.flightRepo.get flightId), c) := rfl
  unfold view SeatMapService.view
  rw [Proc.run_bind_ok hget]
  cases c.flightRepo.get flightId with
  | none => rfl
  | some flight =>
      have hocc : ((occupiedSeatIds flightId).run handle).run c =
          (.ok (SeatMapService.occupiedSeatIds c.bookingRepo flightId), c) := rfl
      have hnow : ((call .clockNow).run handle).run c = (.ok c.clock, c) := rfl
      have hlock : ((seatsLockedAgainstSession flight.cabin sessionId).run handle).run c =
          (.ok (SeatMapService.seatsLockedAgainstSession c.seatLockStore c.clock flight.cabin
            sessionId), c) := by
        unfold seatsLockedAgainstSession
        rw [Proc.run_bind_ok hnow]
        exact run_lockedAgainst c.clock sessionId flight.cabin.seats.keys
      simp only
      rw [Proc.run_bind_ok hocc, Proc.run_bind_ok hlock]
      cases SeatMapService.orderedSeats flight <;> rfl

/-- An uninterrupted `acquire` is the service call. -/
theorem run_acquire (flightId : FlightId) (seatIds : List SeatId) (sessionId : SessionId) :
    ((acquire flightId seatIds sessionId).run handle).run c =
      (SeatHoldService.acquire flightId seatIds sessionId).run c := by
  have hnow : ((call .clockNow).run handle).run c = (.ok c.clock, c) := rfl
  have hcall : ((call (.acquire flightId seatIds sessionId c.clock)).run handle).run c =
      ((c.seatLockStore.acquire flightId seatIds sessionId c.clock).1,
        { c with seatLockStore :=
            (c.seatLockStore.acquire flightId seatIds sessionId c.clock).2 }) := by
    rw [run_call]
    rfl
  unfold acquire SeatHoldService.acquire
  rw [Proc.run_bind_ok hnow, Proc.run_bind, Eff.run_bind, hcall, Eff.run_get_bind]
  cases c.seatLockStore.acquire flightId seatIds sessionId c.clock with
  | mk outcome store =>
      cases outcome with
      | error e => rfl
      | ok outcome => cases outcome <;> rfl

theorem run_resolveQuote (quoteId : Option QuoteId) (now : DateTime) :
    ((resolveQuote quoteId now).run handle).run c =
      (.ok (BookingService.resolveQuote c.quoteStore quoteId now), c) := by
  unfold resolveQuote BookingService.resolveQuote
  cases quoteId with
  | none => rfl
  | some quoteId =>
      have hvalid : ((call (.getValidQuote quoteId now)).run handle).run c =
          (.ok (c.quoteStore.getValid quoteId now), c) := rfl
      have hget : ((call (.getQuote quoteId)).run handle).run c =
          (.ok (c.quoteStore.get quoteId), c) := rfl
      simp only
      rw [Proc.run_bind_ok hvalid]
      cases c.quoteStore.getValid quoteId now with
      | some valid => rfl
      | none =>
          simp only
          rw [Proc.run_bind_ok hget]
          cases c.quoteStore.get quoteId <;> rfl

theorem run_validateSeatIds (flight : Flight) (flightId : FlightId) (seatIds : List SeatId) :
    ((validateSeatIds flight flightId seatIds).run handle).run c =
      (.ok (BookingService.validateSeatIds c.bookingRepo flight flightId seatIds), c) := by
  induction seatIds with
  | nil => rfl
  | cons seatId rest ih =>
      have hbooked : ((seatAlreadyBooked flightId seatId).run handle).run c =
          (.ok (BookingService.seatAlreadyBooked c.bookingRepo flightId seatId), c) := rfl
      unfold validateSeatIds BookingService.validateSeatIds
      cases flight.cabin.seats.get? seatId with
      | none => rfl
      | some seat =>
          by_cases hb : seat.status = .blocked
          · simp only [hb, if_true]
            rfl
          · simp only [hb, if_false]
            rw [Proc.run_bind_ok hbooked]
            cases BookingService.seatAlreadyBooked c.bookingRepo flightId seatId with
            | true => rfl
            | false => exact ih

theorem run_validateLock (request : CommitRequest) (now : DateTime) :
    ((validateLock request now).run handle).run c =
      (.ok (BookingService.validateLock c.seatLockStore request now), c) := by
  unfold validateLock BookingService.validateLock BookingService.checkLockSessionOwnership
  cases request.lockId with
  | none => rfl
  | some lockId =>
      have hvalid : ((call (.isValid lockId now)).run handle).run c =
          (.ok (c.seatLockStore.isValid lockId now), c) := rfl
      have hget : ((call (.getLock lockId)).run handle).run c =
          (.ok (c.seatLockStore.get lockId), c) := rfl
      simp only
      rw [Proc.run_bind_ok hvalid]
      cases c.seatLockStore.isValid lockId now with
      | true =>
          simp only [if_true, checkLockSessionOwnership]
          rw [Proc.run_bind_ok hget]
          cases c.seatLockStore.get lockId with
          | none => rfl
          | some raw =>
              cases request.sessionId with
              | none => rfl
              | some sessionId => by_cases hs : raw.sessionId = sessionId <;> simp [hs]
      | false =>
          simp only [Bool.false_eq_true, if_false]
          rw [Proc.run_bind_ok hget]
          cases c.seatLockStore.get lockId <;> rfl

end Uninterrupted

end Thread

end FlightBooking
