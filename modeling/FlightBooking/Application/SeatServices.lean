import FlightBooking.Lib.Digits
import FlightBooking.Lib.StableSort
import FlightBooking.Composition.Container

/-!
# SeatHoldService and SeatMapService

`application/seat_hold_service.py` and `application/seat_map_service.py`: taking
a seat lock at the current instant, and the per-seat view of a flight.
-/

namespace FlightBooking

open Py

structure SeatHoldResult where
  success : Bool
  lockId : Option String := none
  expiresAt : Option DateTime := none
  conflicts : List SeatId := []
deriving DecidableEq, Repr

/-- `SeatHoldService.acquire`. -/
def SeatHoldService.acquire (flightId : FlightId) (seatIds : List SeatId)
    (sessionId : SessionId) : Stmt SeatHoldResult := do
  let c ← Eff.get
  let (outcome, store) := c.seatLockStore.acquire flightId seatIds sessionId c.clock
  Eff.modify fun c => { c with seatLockStore := store }
  match ← Eff.ofExcept outcome with
  | .lock lock =>
      return { success := true, lockId := some lock.lockId, expiresAt := some lock.expiresAt }
  | .conflict conflictingSeats =>
      return { success := false, conflicts := conflictingSeats }

structure SeatMapEntry where
  seatId : SeatId
  seatClass : SeatClass
  kind : SeatKind
  status : SeatStatus
deriving DecidableEq, Repr

namespace SeatMapService

/-- `_seats_locked_against_session`: the cabin seats on which a session other
than the requester's holds a live lock; without a requester, any live lock. -/
def seatsLockedAgainstSession (store : InMemorySeatLockStore) (now : DateTime) (cabin : Cabin)
    (sessionId : Option SessionId) : List SeatId :=
  cabin.seats.keys.filter fun seatId =>
    match store.findActiveLockForSeat seatId now with
    | none => false
    | some record => decide (sessionId ≠ some record.sessionId)

/-- `_occupied_seat_ids`: the seats of the confirmed bookings on the flight. -/
def occupiedSeatIds (bookings : InMemoryBookingRepository) (flightId : FlightId) : List SeatId :=
  bookings.iterAll.foldl
    (fun occupied booking =>
      if booking.flightId ≠ flightId then occupied
      else if booking.status ≠ .confirmed then occupied
      else occupied ++ booking.seatIds)
    []

/-- `_status_for`. -/
def statusFor (cabinStatus : SeatStatus) (seatId : SeatId)
    (occupiedIds lockedToOther : List SeatId) : SeatStatus :=
  if cabinStatus = .blocked then .blocked
  else if seatId ∈ occupiedIds then .occupied
  else if seatId ∈ lockedToOther then .occupied
  else .available

/-- `_row_column`: `12C` is row 12, column `C`; an id that starts otherwise is in
row 0. `int` does not read all that `isdigit` takes for a digit. -/
def rowColumn (seatId : SeatId) : Except Exn (Nat × String) :=
  let text := seatId.value.toList
  let digits := text.takeWhile isDigit
  if digits = [] then .ok (0, seatId.value)
  else do
    let row ← (intOfDigits digits).mapError Exn.valueError
    return (row, String.ofList (text.drop digits.length))

/-- The order of the keys: tuples, by row and then by column. -/
def RowColumnLe (a b : Nat × String) : Prop := a.1 < b.1 ∨ (a.1 = b.1 ∧ a.2 ≤ b.2)

instance : DecidableRel RowColumnLe := fun _ _ => inferInstanceAs (Decidable (_ ∨ _))

/-- `_ordered_seats`. -/
def orderedSeats (flight : Flight) : Except Exn (List Seat) :=
  StableSort.sortedByKey (fun seat => rowColumn seat.id) RowColumnLe flight.cabin.seats.values

/-- `view`, on the state that all of its reads see. -/
def view (c : Container) (flightId : FlightId) (sessionId : Option SessionId) :
    Except Exn (Option (List SeatMapEntry)) :=
  match c.flightRepo.get flightId with
  | none => .ok none
  | some flight => do
      let occupiedIds := occupiedSeatIds c.bookingRepo flightId
      let lockedToOther :=
        seatsLockedAgainstSession c.seatLockStore c.clock flight.cabin sessionId
      let seats ← orderedSeats flight
      return some (seats.map fun seat =>
        { seatId := seat.id
          seatClass := seat.seatClass
          kind := seat.kind
          status := statusFor seat.status seat.id occupiedIds lockedToOther })

end SeatMapService

end FlightBooking
