import FlightBooking.Lib.JsonLines
import FlightBooking.Adapters.Mocks

/-!
# JsonlAuditLog

`adapters/mocks/audit.py`: the log as a file of JSON lines. The events are the
dictionaries that the services build; all their values are strings, integers, lists of
strings and `None`, so `default=str` has nothing to do.
-/

namespace FlightBooking

open Py

/-! ## The dictionaries -/

def Json.strs (items : List String) : Json := .list (items.map .str)

/-- The dictionary that `_build_audit_event` builds. -/
def QuoteCreated.toJson (e : QuoteCreated) : Json :=
  .dict [
    ("type", .str "QuoteCreated"),
    ("quote_id", .str e.quoteId),
    ("session_id", .str e.sessionId),
    ("flight_id", .str e.flightId),
    ("seat_ids", Json.strs e.seatIds),
    ("occupancy_pct", .str e.occupancyPct),
    ("days_before_departure", .int e.daysBeforeDeparture),
    ("departure_dow", .str e.departureDow),
    ("base_fare", .str e.baseFare),
    ("total", .str e.total),
    ("created_at", .str e.createdAt),
    ("expires_at", .str e.expiresAt)]

/-- The dictionary of a declined payment. -/
def PaymentFailed.toJson (e : PaymentFailed) : Json :=
  .dict [
    ("type", .str "PaymentFailed"),
    ("quote_id", match e.quoteId with
      | some quoteId => .str quoteId
      | none => .null),
    ("flight_id", .str e.flightId),
    ("seat_ids", Json.strs e.seatIds),
    ("payment_token", .str e.paymentToken),
    ("reason", .str e.reason),
    ("attempted_at", .str e.attemptedAt)]

/-- The dictionary of a commit. -/
def BookingCommitted.toJson (e : BookingCommitted) : Json :=
  .dict [
    ("type", .str "BookingCommitted"),
    ("booking_reference", .str e.bookingReference),
    ("quote_id", .str e.quoteId),
    ("flight_id", .str e.flightId),
    ("seat_ids", Json.strs e.seatIds),
    ("total_charged", .str e.totalCharged),
    ("at", .str e.committedAt)]

def AuditEvent.toJson : AuditEvent → Json
  | .quoteCreated e => e.toJson
  | .paymentFailed e => e.toJson
  | .bookingCommitted e => e.toJson

/-! ## The file -/

/-- `JsonlAuditLog(path)`: the content of the file, if there is one. -/
structure JsonlAuditLog where
  file : Option (List Char) := none
deriving DecidableEq

namespace JsonlAuditLog

/-- `write`: one line more. -/
def write (log : JsonlAuditLog) (event : Json) : JsonlAuditLog where
  file := some (log.file.getD [] ++ event.dumps ++ ['\n'])

/-- `read_all`: the value of every line that is not blank; one that does not parse raises. -/
def readAll (log : JsonlAuditLog) : Option (List Json) :=
  match log.file with
  | none => some []
  | some content => JsonLines.read content

end JsonlAuditLog

/-! ## Reading the dictionaries -/

def Json.asStr : Json → Option String
  | .str s => some s
  | _ => none

def Json.asInt : Json → Option Int
  | .int n => some n
  | _ => none

/-- A list of strings. -/
def Json.asStrs : Json → Option (List String)
  | .list items => items.mapM Json.asStr
  | _ => none

/-- A string or `None`. -/
def Json.asStr? : Json → Option (Option String)
  | .str s => some (some s)
  | .null => some none
  | _ => none

/-- `event[key]`, of the kind that `read` reads. -/
def at? {α : Type} (event : Json) (key : String) (read : Json → Option α) : Option α :=
  (event.get? key).bind read

def QuoteCreated.ofJson (event : Json) : Option QuoteCreated := do
  return {
    quoteId := ← at? event "quote_id" Json.asStr
    sessionId := ← at? event "session_id" Json.asStr
    flightId := ← at? event "flight_id" Json.asStr
    seatIds := ← at? event "seat_ids" Json.asStrs
    occupancyPct := ← at? event "occupancy_pct" Json.asStr
    daysBeforeDeparture := ← at? event "days_before_departure" Json.asInt
    departureDow := ← at? event "departure_dow" Json.asStr
    baseFare := ← at? event "base_fare" Json.asStr
    total := ← at? event "total" Json.asStr
    createdAt := ← at? event "created_at" Json.asStr
    expiresAt := ← at? event "expires_at" Json.asStr }

def PaymentFailed.ofJson (event : Json) : Option PaymentFailed := do
  return {
    quoteId := ← at? event "quote_id" Json.asStr?
    flightId := ← at? event "flight_id" Json.asStr
    seatIds := ← at? event "seat_ids" Json.asStrs
    paymentToken := ← at? event "payment_token" Json.asStr
    reason := ← at? event "reason" Json.asStr
    attemptedAt := ← at? event "attempted_at" Json.asStr }

def BookingCommitted.ofJson (event : Json) : Option BookingCommitted := do
  return {
    bookingReference := ← at? event "booking_reference" Json.asStr
    quoteId := ← at? event "quote_id" Json.asStr
    flightId := ← at? event "flight_id" Json.asStr
    seatIds := ← at? event "seat_ids" Json.asStrs
    totalCharged := ← at? event "total_charged" Json.asStr
    committedAt := ← at? event "at" Json.asStr }

/-- The event of a dictionary, by its `type` and its keys. -/
def AuditEvent.ofJson (event : Json) : Option AuditEvent := do
  let kind ← at? event "type" Json.asStr
  if kind = "QuoteCreated" then return .quoteCreated (← QuoteCreated.ofJson event)
  else if kind = "PaymentFailed" then return .paymentFailed (← PaymentFailed.ofJson event)
  else if kind = "BookingCommitted" then
    return .bookingCommitted (← BookingCommitted.ofJson event)
  else none

@[simp] theorem Json.asStrs_strs (items : List String) :
    Json.asStrs (Json.strs items) = some items := by
  have hitems : (items.map Json.str).mapM Json.asStr = some items := by
    induction items with
    | nil => rfl
    | cons s items ih => rw [List.map_cons, List.mapM_cons, ih]; rfl
  exact hitems

theorem QuoteCreated.ofJson_toJson (e : QuoteCreated) : QuoteCreated.ofJson e.toJson = some e := by
  have hseats : at? e.toJson "seat_ids" Json.asStrs = some e.seatIds := Json.asStrs_strs e.seatIds
  rw [QuoteCreated.ofJson, hseats]
  rfl

theorem PaymentFailed.ofJson_toJson (e : PaymentFailed) :
    PaymentFailed.ofJson e.toJson = some e := by
  have hseats : at? e.toJson "seat_ids" Json.asStrs = some e.seatIds := Json.asStrs_strs e.seatIds
  have hquote : at? e.toJson "quote_id" Json.asStr? = some e.quoteId := by
    cases e with
    | mk quoteId => cases quoteId <;> rfl
  rw [PaymentFailed.ofJson, hseats, hquote]
  rfl

theorem BookingCommitted.ofJson_toJson (e : BookingCommitted) :
    BookingCommitted.ofJson e.toJson = some e := by
  have hseats : at? e.toJson "seat_ids" Json.asStrs = some e.seatIds := Json.asStrs_strs e.seatIds
  rw [BookingCommitted.ofJson, hseats]
  rfl

namespace AuditEvent

/-- The dictionary of an event determines it. -/
theorem ofJson_toJson (e : AuditEvent) : ofJson e.toJson = some e := by
  cases e with
  | quoteCreated e =>
      have htype : at? e.toJson "type" Json.asStr = some "QuoteCreated" := rfl
      simp [ofJson, toJson, htype, QuoteCreated.ofJson_toJson]
  | paymentFailed e =>
      have htype : at? e.toJson "type" Json.asStr = some "PaymentFailed" := rfl
      simp [ofJson, toJson, htype, PaymentFailed.ofJson_toJson]
  | bookingCommitted e =>
      have htype : at? e.toJson "type" Json.asStr = some "BookingCommitted" := rfl
      simp [ofJson, toJson, htype, BookingCommitted.ofJson_toJson]

theorem keyedItems_strs (items : List String) : Json.KeyedItems (items.map .str) := by
  induction items with
  | nil => exact trivial
  | cons s items ih => exact ⟨by simp [Json.Keyed], ih⟩

/-- No event has a key twice. -/
theorem toJson_keyed (e : AuditEvent) : Json.Keyed e.toJson := by
  cases e with
  | quoteCreated e =>
      simp [toJson, QuoteCreated.toJson, Json.Keyed, Json.KeyedEntries, Json.strs,
        keyedItems_strs]
  | paymentFailed e =>
      obtain ⟨quoteId, flightId, seatIds, paymentToken, reason, attemptedAt⟩ := e
      cases quoteId <;>
        simp [toJson, PaymentFailed.toJson, Json.Keyed, Json.KeyedEntries, Json.strs,
          keyedItems_strs]
  | bookingCommitted e =>
      simp [toJson, BookingCommitted.toJson, Json.Keyed, Json.KeyedEntries, Json.strs,
        keyedItems_strs]

/-- An event is a dictionary. -/
theorem toJson_dict (e : AuditEvent) : ∃ entries, e.toJson = .dict entries := by
  cases e <;> exact ⟨_, rfl⟩

end AuditEvent

end FlightBooking
