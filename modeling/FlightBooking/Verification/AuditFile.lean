import FlightBooking.Composition.AuditedMachine
import FlightBooking.Support.AuditReplay
import FlightBooking.Verification.StepSpec

/-!
# AuditFile — the log on disk

Every event is one line of the file, and every line is one event: what `read_all` finds
after a run in which no write to the log raises is what was logged in it, in order. A
file that has been cut short after such a run either does not read, or reads as the
beginning of the log.
-/

namespace FlightBooking

open Py

theorem AuditEvent.record (e : AuditEvent) : Json.Record e.toJson :=
  ⟨e.toJson_keyed, e.toJson_dict⟩

theorem records (events : List AuditEvent) : ∀ j ∈ events.map AuditEvent.toJson, j.Record := by
  intro j hj
  obtain ⟨e, -, rfl⟩ := List.mem_map.mp hj
  exact e.record

/-- The dictionaries determine the events. -/
theorem mapM_ofJson (events : List AuditEvent) :
    (events.map AuditEvent.toJson).mapM AuditEvent.ofJson = some events := by
  induction events with
  | nil => rfl
  | cons e events ih => simp [AuditEvent.ofJson_toJson, ih]

namespace JsonlAuditLog

theorem readAll_eq (log : JsonlAuditLog) : log.readAll = JsonLines.read (log.file.getD []) := by
  unfold readAll
  cases log.file <;> rfl

/-- Writing adds the lines of the events. -/
theorem file_writeAll (log : JsonlAuditLog) (events : List AuditEvent) :
    (log.writeAll events).file.getD [] =
      log.file.getD [] ++ JsonLines.written (events.map AuditEvent.toJson) := by
  induction events generalizing log with
  | nil => simp [writeAll, JsonLines.written, TextFile.text]
  | cons e events ih =>
      have hfirst : log.writeAll (e :: events) = (log.write e.toJson).writeAll events := rfl
      rw [hfirst, ih, List.map_cons, ← List.singleton_append, JsonLines.written_append,
        JsonLines.written_singleton]
      simp [write]

end JsonlAuditLog

/-! ## Runs -/

/-- The log only grows. -/
theorem StepExit.logged {c c' : Container} {op : Op} {out : Output}
    (h : StepExit c op out c') : ∃ events, c'.audit = c.audit ++ events := by
  cases h with
  | commit h => cases h <;> first | exact ⟨[], (List.append_nil _).symm⟩ | exact ⟨_, rfl⟩
  | quote h => cases h <;> first | exact ⟨[], (List.append_nil _).symm⟩ | exact ⟨_, rfl⟩
  | _ => exact ⟨[], (List.append_nil _).symm⟩

/-- The file holds the log. -/
def AuditedContainer.OnDisk (x : AuditedContainer) : Prop :=
  x.log.file.getD [] = JsonLines.written (x.container.audit.map AuditEvent.toJson)

section Runs

variable {flushed : AuditedContainer → Op → Nat}

/-- Where no write raises, the lines of the new events are added. -/
theorem auditedStep_snd (x : AuditedContainer) {op : Op} (hwrites : op.logRaises = false) :
    (auditedStep flushed x op).2 = {
      container := (step x.container op).2
      log := x.log.writeAll ((step x.container op).2.audit.drop x.container.audit.length) } := by
  simp [auditedStep, hwrites]

theorem auditedStep_onDisk (x : AuditedContainer) (op : Op) (h : x.OnDisk)
    (hwrites : op.logRaises = false) : (auditedStep flushed x op).2.OnDisk := by
  obtain ⟨events, hevents⟩ := (step_exit x.container op).logged
  rw [auditedStep_snd x hwrites, AuditedContainer.OnDisk, hevents, List.drop_left,
    JsonlAuditLog.file_writeAll, h, List.map_append, JsonLines.written_append]

/-- The services do not notice the file. -/
theorem auditedStep_container (x : AuditedContainer) (ops : List Op) :
    (Run.final (auditedStep flushed) x ops).container = Run.final step x.container ops := by
  induction ops generalizing x with
  | nil => rfl
  | cons op ops ih => exact ih _

theorem onDisk_run {c : Container} (hempty : c.audit = []) {ops : List Op}
    (hwrites : ∀ op ∈ ops, op.logRaises = false) :
    (Run.final (auditedStep flushed) { container := c } ops).OnDisk := by
  refine Run.invariant (A := fun _ op => op.logRaises = false) auditedStep_onDisk ?_
    (Run.Along.of_mem hwrites _)
  simp [AuditedContainer.OnDisk, hempty, JsonLines.written, TextFile.text]

end Runs

/-- **The file is the log.** After any run of a container with an empty log and no
file in which no write to the log raises, `read_all` returns the events that were
logged, in order and with every field; so the replay finds in the file the mismatches
that it finds in memory. -/
theorem audit_file_round_trip (flushed : AuditedContainer → Op → Nat) {c : Container}
    (hempty : c.audit = []) {ops : List Op} (hwrites : ∀ op ∈ ops, op.logRaises = false) :
    let x := Run.final (auditedStep flushed) { container := c } ops
    let audit := (Run.final step c ops).audit
    x.log.readAll = some (audit.map AuditEvent.toJson) ∧
      x.log.readAll.bind (fun events => (events.mapM AuditEvent.ofJson).map
        AuditReplay.verifyCommits) = some (AuditReplay.verifyCommits audit) := by
  intro x audit
  have hread : x.log.readAll = some (audit.map AuditEvent.toJson) := by
    have hdisk : x.OnDisk := onDisk_run hempty hwrites
    rw [AuditedContainer.OnDisk, auditedStep_container] at hdisk
    rw [JsonlAuditLog.readAll_eq, hdisk]
    exact JsonLines.read_written (records audit)
  refine ⟨hread, ?_⟩
  rw [hread, Option.bind_some, mapM_ofJson]
  rfl

/-- A quote and its commit, from the file. -/
theorem audit_file_round_trip_commit :
    let ops : List Op := [
      .quote .wired { flightId := ⟨"FL-LAX-NYC-0800"⟩, seatIds := [⟨"30F"⟩], passengers := 1 },
      .commit .wired { commitFor "FL-LAX-NYC-0800" ["30F"] with quoteId := some ⟨"Q001"⟩ }]
    let c := seededContainer [seededFlight "FL-LAX-NYC-0800" ["30F", "30G"]]
    let x := Run.final (auditedStep fun _ _ => 0) { container := c } ops
    (Run.final step c ops).audit.length = 2 ∧
      x.log.readAll = some ((Run.final step c ops).audit.map AuditEvent.toJson) :=
  ⟨by decide, (audit_file_round_trip _ rfl (by simp [Op.logRaises, Collaborators.wired])).1⟩

/-- **A torn file makes nothing up.** Cut the file of a run in which no write to the
log raises, anywhere. If `read_all` still returns, then it returns the first events that
were logged, and nothing of them is missing from the file but perhaps the last newline. -/
theorem torn_audit_file (flushed : AuditedContainer → Op → Nat) {c : Container}
    (hempty : c.audit = []) {ops : List Op} (hwrites : ∀ op ∈ ops, op.logRaises = false) (n : Nat)
    {found : List Json} :
    let content := (Run.final (auditedStep flushed) { container := c } ops).log.file.getD []
    JsonlAuditLog.readAll ⟨some (content.take n)⟩ = some found →
      found <+: (Run.final step c ops).audit.map AuditEvent.toJson ∧
        (content.take n = JsonLines.written found ∨
          content.take n ++ ['\n'] = JsonLines.written found) := by
  intro content hread
  have hdisk : content = JsonLines.written ((Run.final step c ops).audit.map AuditEvent.toJson) := by
    have hdisk : (Run.final (auditedStep flushed) { container := c } ops).OnDisk :=
      onDisk_run hempty hwrites
    rwa [AuditedContainer.OnDisk, auditedStep_container] at hdisk
  rw [hdisk] at hread ⊢
  exact JsonLines.read_take (records _) hread

/-- Of two lines, the first without its newline is left. -/
theorem torn_audit_file_newline :
    let ops : List Op := [
      .quote .wired { flightId := ⟨"FL-LAX-NYC-0800"⟩, seatIds := [⟨"30F"⟩], passengers := 1 },
      .commit .wired { commitFor "FL-LAX-NYC-0800" ["30F"] with quoteId := some ⟨"Q001"⟩ }]
    let c := seededContainer [seededFlight "FL-LAX-NYC-0800" ["30F", "30G"]]
    let content :=
      (Run.final (auditedStep fun _ _ => 0) { container := c } ops).log.file.getD []
    ∃ found, JsonlAuditLog.readAll ⟨some (content.take 322)⟩ = some found ∧
      found <+: (Run.final step c ops).audit.map AuditEvent.toJson := by
  intro ops c content
  have hreads : (JsonlAuditLog.readAll ⟨some (content.take 322)⟩).isSome = true := by
    decide +kernel
  obtain ⟨found, hfound⟩ := Option.isSome_iff_exists.mp hreads
  have hwrites : ∀ op ∈ ops, op.logRaises = false := by
    simp [ops, Op.logRaises, Collaborators.wired]
  exact ⟨found, hfound, (torn_audit_file _ rfl hwrites 322 hfound).1⟩

end FlightBooking
