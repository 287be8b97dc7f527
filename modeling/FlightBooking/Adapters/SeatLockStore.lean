import FlightBooking.Domain.Model

/-!
# InMemorySeatLockStore

`adapters/inmemory/seat_lock_store.py`. Every method runs under the store's own
`RLock`, so a call is one step. The injected `ids` callable is the queue of the
lock ids it has still to yield; yielding from an empty queue raises.
-/

namespace FlightBooking

open Py

/-- `LOCK_TTL`, ten minutes. -/
def lockTtl : Int := DateTime.minutes 10

structure LockRecord where
  lockId : String
  flightId : FlightId
  seatIds : List SeatId
  sessionId : SessionId
  expiresAt : DateTime
deriving DecidableEq, Repr

structure SeatLock where
  lockId : String
  flightId : FlightId
  seatIds : List SeatId
  sessionId : SessionId
  expiresAt : DateTime
deriving DecidableEq, Repr

/-- What `acquire` returns: a `SeatLock` or a `SeatLockConflict`. -/
inductive AcquireOutcome where
  | lock (lock : SeatLock)
  | conflict (conflictingSeats : List SeatId)
deriving DecidableEq, Repr

structure InMemorySeatLockStore where
  bySeat : Dict SeatId LockRecord := Dict.empty
  byLock : Dict String LockRecord := Dict.empty
  ids : List String := []
deriving DecidableEq

namespace InMemorySeatLockStore

/-- `_find_conflicts` at one seat: a record of another session that has not
expired. -/
def conflicts (store : InMemorySeatLockStore) (sessionId : SessionId) (now : DateTime)
    (seatId : SeatId) : Bool :=
  match store.bySeat.get? seatId with
  | none => false
  | some record =>
      if record.expiresAt ≤ now then false
      -- a session that asks again is not in its own way
      else if record.sessionId = sessionId then false
      else true

/-- `_find_conflicts`. -/
def findConflicts (store : InMemorySeatLockStore) (seatIds : List SeatId)
    (sessionId : SessionId) (now : DateTime) : List SeatId :=
  seatIds.filter (store.conflicts sessionId now)

/-- `_install_lock`, with the id that `self._ids()` has yielded. -/
def installLock (store : InMemorySeatLockStore) (lockId : String) (flightId : FlightId)
    (seatIds : List SeatId) (sessionId : SessionId) (now : DateTime) :
    Except Exn SeatLock × InMemorySeatLockStore :=
  match now.plus lockTtl with
  | .error message => (.error (.overflowError message), store)
  | .ok expiresAt =>
      let record : LockRecord := { lockId, flightId, seatIds, sessionId, expiresAt }
      let byLock := store.byLock.set lockId record
      let bySeat := seatIds.foldl (fun m seatId => m.set seatId record) store.bySeat
      (.ok { lockId, flightId, seatIds, sessionId, expiresAt }, { store with bySeat, byLock })

/-- `acquire`: check, then install. No id is drawn on a conflict. -/
def acquire (store : InMemorySeatLockStore) (flightId : FlightId) (seatIds : List SeatId)
    (sessionId : SessionId) (now : DateTime) :
    Except Exn AcquireOutcome × InMemorySeatLockStore :=
  let conflicts := store.findConflicts seatIds sessionId now
  if conflicts ≠ [] then (.ok (.conflict conflicts), store)
  else
    match store.ids with
    | [] => (.error (.indexError "pop from empty list"), store)
    | lockId :: rest =>
        let (lock, store) := installLock { store with ids := rest } lockId flightId seatIds
          sessionId now
        (lock.map .lock, store)

/-- The loop of `release`: drop the seat's entry if it is still the lock's. -/
def releaseSeat (lockId : String) (m : Dict SeatId LockRecord) (seatId : SeatId) :
    Dict SeatId LockRecord :=
  match m.get? seatId with
  | none => m
  | some current => if current.lockId = lockId then m.erase seatId else m

/-- `release`; an unknown id changes nothing. -/
def release (store : InMemorySeatLockStore) (lockId : String) : InMemorySeatLockStore :=
  match store.byLock.get? lockId with
  | none => store
  | some record =>
      { store with
        byLock := store.byLock.erase lockId
        bySeat := record.seatIds.foldl (releaseSeat record.lockId) store.bySeat }

/-- `is_valid`. -/
def isValid (store : InMemorySeatLockStore) (lockId : String) (now : DateTime) : Bool :=
  match store.byLock.get? lockId with
  | none => false
  | some record => decide (now < record.expiresAt)

/-- `get`, whatever the clock says. -/
def get (store : InMemorySeatLockStore) (lockId : String) : Option LockRecord :=
  store.byLock.get? lockId

/-- `find_active_lock_for_seat`. -/
def findActiveLockForSeat (store : InMemorySeatLockStore) (seatId : SeatId) (now : DateTime) :
    Option LockRecord :=
  match store.bySeat.get? seatId with
  | none => none
  | some record => if record.expiresAt ≤ now then none else some record

end InMemorySeatLockStore

end FlightBooking
