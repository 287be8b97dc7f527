import FlightBooking.Lib.Effect
import FlightBooking.Adapters.SeatLockStore
import FlightBooking.Adapters.Repositories
import FlightBooking.Adapters.Mocks

/-!
# Container

The state behind the services that `composition/wire.py` builds, and the driven
ports as statements on it. A port call may be made to raise: what the gateway
answers and which calls raise is a parameter of each service call, so a run can
choose it anew every time.
-/

namespace FlightBooking

open Py

/-- The wired adapters. `charges` is the gateway's side of the `charge` calls. -/
structure Container where
  flightRepo : InMemoryFlightRepository := Dict.empty
  bookingRepo : InMemoryBookingRepository := Dict.empty
  quoteStore : InMemoryQuoteStore := Dict.empty
  seatLockStore : InMemorySeatLockStore := {}
  ids : DeterministicIdGenerator := {}
  clock : DateTime
  audit : List AuditEvent := []
  queued : List Booking := []
  charges : List Charge := []
deriving DecidableEq

/-- The port calls of `commit` after the charge. -/
inductive Port where
  | newBookingReference
  | saveBooking
  | queueConfirmation
  | releaseLock
  | writeAudit
deriving DecidableEq, Repr

/-- The world during one service call: the gateway's answers, and the port calls
that raise. -/
structure Collaborators where
  charge : String → Money → Except Exn PaymentResult
  fault : Port → Option Exn := fun _ => none

/-- The collaborators of `build_test_container`: the mock gateway, no faults. -/
def Collaborators.wired : Collaborators where
  charge := fun token amount => .ok (mockCharge ["fail"] token amount)

/-- `build_test_container(now=now)`. -/
def buildTestContainer (now : DateTime) : Container where
  seatLockStore := { ids := ["L001", "L002", "L003"] }
  clock := now

/-! ## The driven ports -/

abbrev Stmt := Eff Container Exn

/-- A port call raises before it has any effect, or does not raise. -/
def raiseFault (env : Collaborators) (port : Port) : Stmt Unit :=
  match env.fault port with
  | some e => Eff.raise e
  | none => pure ()

/-- A port call with effect `f`. -/
def portCall (env : Collaborators) (port : Port) (f : Container → Container) : Stmt Unit := do
  raiseFault env port
  Eff.modify f

def charge (env : Collaborators) (token : String) (amount : Money) : Stmt PaymentResult := do
  let result ← Eff.ofExcept (env.charge token amount)
  Eff.modify fun c =>
    { c with charges := c.charges ++ [{ token, amount, succeeded := result.succeeded }] }
  return result

def newBookingReference (env : Collaborators) : Stmt BookingReference := do
  raiseFault env .newBookingReference
  let c ← Eff.get
  match c.ids.bookingRefs with
  | [] => Eff.raise popFromEmpty
  | ref :: rest =>
      Eff.modify fun c => { c with ids := { c.ids with bookingRefs := rest } }
      return ⟨ref⟩

def newQuoteId : Stmt QuoteId := do
  let c ← Eff.get
  match c.ids.quoteIds with
  | [] => Eff.raise popFromEmpty
  | id :: rest =>
      Eff.modify fun c => { c with ids := { c.ids with quoteIds := rest } }
      return ⟨id⟩

def newSessionId : Stmt SessionId := do
  let c ← Eff.get
  match c.ids.sessionIds with
  | [] => Eff.raise popFromEmpty
  | id :: rest =>
      Eff.modify fun c => { c with ids := { c.ids with sessionIds := rest } }
      return ⟨id⟩

abbrev saveBooking (env : Collaborators) (booking : Booking) : Stmt Unit :=
  portCall env .saveBooking fun c => { c with bookingRepo := c.bookingRepo.save booking }

def saveQuote (quote : Quote) : Stmt Unit :=
  Eff.modify fun c => { c with quoteStore := c.quoteStore.save quote }

abbrev queueConfirmation (env : Collaborators) (booking : Booking) : Stmt Unit :=
  portCall env .queueConfirmation fun c => { c with queued := c.queued ++ [booking] }

abbrev releaseLock (env : Collaborators) (lockId : String) : Stmt Unit :=
  portCall env .releaseLock fun c => { c with seatLockStore := c.seatLockStore.release lockId }

abbrev writeAudit (env : Collaborators) (event : AuditEvent) : Stmt Unit :=
  portCall env .writeAudit fun c => { c with audit := c.audit ++ [event] }

/-! ## Running the ports -/

section Ports

variable {env : Collaborators} {port : Port} {c : Container}

theorem run_portCall (f : Container → Container) (h : env.fault port = none) :
    (portCall env port f).run c = (.ok (), f c) := by
  simp [portCall, raiseFault, h, Eff.run_bind]

theorem run_portCall_fault (f : Container → Container) {e : Exn}
    (h : env.fault port = some e) : (portCall env port f).run c = (.error e, c) := by
  simp [portCall, raiseFault, h, Eff.run_bind]

theorem run_charge {token : String} {amount : Money} {result : PaymentResult}
    (h : env.charge token amount = .ok result) :
    (charge env token amount).run c =
      (.ok result, { c with charges := c.charges ++ [⟨token, amount, result.succeeded⟩] }) := by
  simp [charge, h, Eff.run_bind]

theorem run_charge_fault {token : String} {amount : Money} {e : Exn}
    (h : env.charge token amount = .error e) :
    (charge env token amount).run c = (.error e, c) := by
  simp [charge, h, Eff.run_bind]

theorem run_newBookingReference {ref : String} {rest : List String}
    (h : env.fault .newBookingReference = none) (href : c.ids.bookingRefs = ref :: rest) :
    (newBookingReference env).run c =
      (.ok ⟨ref⟩, { c with ids := { c.ids with bookingRefs := rest } }) := by
  simp [newBookingReference, raiseFault, h, href, Eff.run_bind]

theorem run_newBookingReference_exhausted (h : env.fault .newBookingReference = none)
    (href : c.ids.bookingRefs = []) :
    (newBookingReference env).run c = (.error popFromEmpty, c) := by
  simp [newBookingReference, raiseFault, h, href, Eff.run_bind]

theorem run_newBookingReference_fault {e : Exn}
    (h : env.fault .newBookingReference = some e) :
    (newBookingReference env).run c = (.error e, c) := by
  simp [newBookingReference, raiseFault, h, Eff.run_bind]

end Ports

end FlightBooking
