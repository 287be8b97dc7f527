import FlightBooking.Adapters.Mocks
import FlightBooking.Domain.Pricing
import FlightBooking.Lib.DecimalParse

/-!
# AuditReplay

`tests/support/audit_replay.py`: `replay_quote` prices the inputs of a quote
event again, `verify_commits` checks every commit of the log against the quote
event of its quote id.
-/

namespace FlightBooking

open Py

/-! ## The log, by type -/

def AuditEvent.created? : AuditEvent → Option QuoteCreated
  | .quoteCreated e => some e
  | _ => none

def AuditEvent.committed? : AuditEvent → Option BookingCommitted
  | .bookingCommitted e => some e
  | _ => none

/-- The quote events of a log, in order. -/
def createdEvents (log : List AuditEvent) : List QuoteCreated := log.filterMap AuditEvent.created?

/-- The commit events of a log, in order. -/
def committedEvents (log : List AuditEvent) : List BookingCommitted :=
  log.filterMap AuditEvent.committed?

theorem createdEvents_append (log log' : List AuditEvent) :
    createdEvents (log ++ log') = createdEvents log ++ createdEvents log' :=
  List.filterMap_append

theorem committedEvents_append (log log' : List AuditEvent) :
    committedEvents (log ++ log') = committedEvents log ++ committedEvents log' :=
  List.filterMap_append

/-! ## The replay -/

structure ReplayMismatch where
  bookingReference : String
  reason : String
deriving DecidableEq, Repr

namespace AuditReplay

/-- `_WS_SHORTCUT_QUOTE_ID`. -/
def wsShortcutQuoteId : String := "Q000-WS"

/-- One character inside `repr` of a string that is delimited by `quote`.
Characters beyond ASCII are taken to be printable. -/
def reprChar (quote c : Char) : List Char :=
  let backslash := Char.ofNat 92
  if c = quote ∨ c = backslash then [backslash, c]
  else if c = '\n' then [backslash, 'n']
  else if c = '\r' then [backslash, 'r']
  else if c = '\t' then [backslash, 't']
  else if c.toNat < 32 ∨ c.toNat = 127 then
    [backslash, 'x', Nat.digitChar (c.toNat / 16), Nat.digitChar (c.toNat % 16)]
  else [c]

/-- `repr(s)` of a string: single quotes, unless it holds one and no double one. -/
def repr (s : String) : String :=
  let single := Char.ofNat 39
  let double := Char.ofNat 34
  let quote := if single ∈ s.toList ∧ double ∉ s.toList then double else single
  String.ofList ([quote] ++ s.toList.flatMap (reprChar quote) ++ [quote])

/-- `quotes_by_id`. -/
def quotesById (events : List AuditEvent) : Dict String QuoteCreated :=
  Dict.index QuoteCreated.quoteId (createdEvents events)

/-- The loop body of `verify_commits`. -/
def mismatch (quotes : Dict String QuoteCreated) : AuditEvent → Option ReplayMismatch
  | .bookingCommitted e =>
      if e.quoteId = wsShortcutQuoteId then none
      else
        match quotes.get? e.quoteId with
        | none =>
            some {
              bookingReference := e.bookingReference
              reason := "quote not found for quote_id=" ++ repr e.quoteId }
        | some quote =>
            if quote.total ≠ e.totalCharged then
              some {
                bookingReference := e.bookingReference
                reason := "quoted=" ++ quote.total ++ " charged=" ++ e.totalCharged }
            else none
  | _ => none

/-- `DayOfWeek[name]`. -/
def dayOfWeek : String → Except Exn DayOfWeek
  | "MON" => .ok .mon
  | "TUE" => .ok .tue
  | "WED" => .ok .wed
  | "THU" => .ok .thu
  | "FRI" => .ok .fri
  | "SAT" => .ok .sat
  | "SUN" => .ok .sun
  | name => .error (.fault ("KeyError: " ++ name))

/-- The inputs a quote event pins. Surcharges, taxes and fees are not among its
fields and keep their defaults. -/
def recordedInputs (event : QuoteCreated) : Except Exn Pricing.PricingInputs := do
  let departureDow ← dayOfWeek event.departureDow
  let fare ← Exn.lift (Decimal.parse event.baseFare)
  let baseFare ← Money.of fare
  let occupancyPct ← Exn.lift (Decimal.parse event.occupancyPct)
  return {
    baseFare
    occupancyPct
    daysBeforeDeparture := event.daysBeforeDeparture
    departureDow }

/-- `replay_quote`. -/
def replayQuote (event : QuoteCreated) : Except Exn PriceBreakdown := do
  let inputs ← recordedInputs event
  Pricing.price inputs

/-- `verify_commits`. -/
def verifyCommits (events : List AuditEvent) : List ReplayMismatch :=
  events.filterMap (mismatch (quotesById events))

end AuditReplay

end FlightBooking
