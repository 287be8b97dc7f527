import FlightBooking.Adapters.JsonlAuditLog
import FlightBooking.Composition.Machine

/-!
# AuditedMachine

The container that `build_test_container` wires when it gets an `audit_path`: the same
services, whose events go to a file. No service reads the log, so `container.audit` is
only kept as the record of what has been handed to `write`.
-/

namespace FlightBooking

open Py

structure AuditedContainer where
  container : Container
  log : JsonlAuditLog := {}

namespace JsonlAuditLog

/-- The events are written one by one. -/
def writeAll (log : JsonlAuditLog) (events : List AuditEvent) : JsonlAuditLog :=
  events.foldl (fun log event => log.write event.toJson) log

/-- A `write` that raises: the first characters of the line may be on disk. -/
def tear (log : JsonlAuditLog) (flushed : Nat) (event : AuditEvent) : JsonlAuditLog where
  file := some (log.file.getD [] ++ (event.toJson.dumps ++ ['\n']).take flushed)

end JsonlAuditLog

/-- The world with a log that takes every event. -/
def Collaborators.logging (env : Collaborators) : Collaborators :=
  { env with fault := fun port => if port = .writeAudit then none else env.fault port }

def Op.logging : Op → Op
  | .commit env request => .commit env.logging request
  | .quote env request => .quote env.logging request
  | op => op

/-- Whether a `write` of the input raises. -/
def Op.logRaises : Op → Bool
  | .commit env _ | .quote env _ => (env.fault .writeAudit).isSome
  | _ => false

/-- One input; what it has logged is in the file. Where the log raises, the file has a
beginning of the line that the input would have added, of `flushed` characters. -/
def auditedStep (flushed : AuditedContainer → Op → Nat) (x : AuditedContainer) (op : Op) :
    Output × AuditedContainer :=
  let (out, c) := step x.container op
  let log :=
    if op.logRaises then
      ((step x.container op.logging).2.audit.drop x.container.audit.length).foldl
        (fun log event => log.tear (flushed x op) event) x.log
    else x.log.writeAll (c.audit.drop x.container.audit.length)
  (out, { container := c, log })

end FlightBooking
