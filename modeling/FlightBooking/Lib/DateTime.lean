import Mathlib.Data.Int.Init
import Mathlib.Order.Defs.PartialOrder

/-!
# DateTime — aware datetimes with a fixed offset

Python's `datetime` with a fixed `utcoffset`: an instant, compared as an
instant, that is shown and cut into dates at its own offset. Both are counted
in microseconds. A `datetime` shows the years 1 to 9999, and a sum that leaves
them raises.
-/

namespace Py

/-- `instant` since 1970-01-01T00:00Z, shown at `offset` from UTC. -/
structure DateTime where
  instant : Int
  offset : Int
deriving DecidableEq, Repr

namespace DateTime

def microsPerSecond : Int := 1000000

def microsPerDay : Int := 86400 * microsPerSecond

/-- `timedelta(minutes=n)`. -/
def minutes (n : Int) : Int := n * 60 * microsPerSecond

/-- Comparison of aware datetimes is comparison of instants. -/
instance : LE DateTime := ⟨fun a b => a.instant ≤ b.instant⟩

instance : LT DateTime := ⟨fun a b => a.instant < b.instant⟩

instance (a b : DateTime) : Decidable (a ≤ b) := inferInstanceAs (Decidable (a.instant ≤ b.instant))

instance (a b : DateTime) : Decidable (a < b) := inferInstanceAs (Decidable (a.instant < b.instant))

theorem le_iff {a b : DateTime} : a ≤ b ↔ a.instant ≤ b.instant := Iff.rfl

theorem lt_iff {a b : DateTime} : a < b ↔ a.instant < b.instant := Iff.rfl

/-- Two spellings of one instant are `≤` each other, so this is no partial order. -/
instance : Preorder DateTime where
  le_refl a := Int.le_refl a.instant
  le_trans a b c hab hbc := by simp only [le_iff] at *; omega
  lt_iff_le_not_ge a b := by simp only [le_iff, lt_iff]; omega

theorem not_le {a b : DateTime} : ¬ a ≤ b ↔ b < a := by
  simp only [le_iff, lt_iff]; omega

theorem not_lt {a b : DateTime} : ¬ a < b ↔ b ≤ a := by
  simp only [le_iff, lt_iff]; omega

/-- `delta` microseconds later, whatever the year. -/
def add (d : DateTime) (delta : Int) : DateTime := { d with instant := d.instant + delta }

@[simp] theorem instant_add (d : DateTime) (delta : Int) :
    (d.add delta).instant = d.instant + delta := rfl

/-- Microseconds of the wall clock at the datetime's own offset. -/
def localMicros (d : DateTime) : Int := d.instant + d.offset

/-- The wall clock at the beginning of year 1, and of year 10000. -/
def yearOne : Int := -62135596800 * microsPerSecond

def yearTenThousand : Int := 253402300800 * microsPerSecond

/-- The wall clock is one that a `datetime` can show. -/
def InRange (d : DateTime) : Prop :=
  yearOne ≤ d.localMicros ∧ d.localMicros < yearTenThousand

instance (d : DateTime) : Decidable d.InRange := inferInstanceAs (Decidable (_ ∧ _))

/-- `d + timedelta(microseconds=delta)`, with the message of the `OverflowError`. -/
def plus (d : DateTime) (delta : Int) : Except String DateTime :=
  if (d.add delta).InRange then .ok (d.add delta) else .error "date value out of range"

theorem plus_eq_ok {d : DateTime} {delta : Int} (h : (d.add delta).InRange) :
    d.plus delta = .ok (d.add delta) := if_pos h

theorem plus_eq_error {d : DateTime} {delta : Int} (h : ¬ (d.add delta).InRange) :
    d.plus delta = .error "date value out of range" := if_neg h

/-- `d.date()`, as days since 1970-01-01: a local date. -/
def date (d : DateTime) : Int := d.localMicros / microsPerDay

/-- A naive `time`: microseconds since midnight, less than a day. -/
structure Time where
  micros : Int
  nonneg : 0 ≤ micros
  lt_day : micros < microsPerDay
deriving DecidableEq, Repr

instance : LE Time := ⟨fun a b => a.micros ≤ b.micros⟩

instance : LT Time := ⟨fun a b => a.micros < b.micros⟩

instance (a b : Time) : Decidable (a ≤ b) := inferInstanceAs (Decidable (a.micros ≤ b.micros))

instance (a b : Time) : Decidable (a < b) := inferInstanceAs (Decidable (a.micros < b.micros))

theorem Time.not_lt {a b : Time} : ¬ a < b ↔ b ≤ a := Int.not_lt

/-- `d.time()`: the wall clock at the datetime's own offset. -/
def time (d : DateTime) : Time where
  micros := d.localMicros % microsPerDay
  nonneg := Int.emod_nonneg _ (by decide)
  lt_day := Int.emod_lt_of_pos _ (by decide)

/-- `d.weekday()`, Monday 0 (day 0 was a Thursday). -/
def weekday (d : DateTime) : Nat := ((d.date + 3) % 7).toNat

/-! ## ISO 8601 text -/

/-- `n` with at least `width` digits. -/
def pad (width : Nat) (n : Nat) : String :=
  let digits := Nat.toDigits 10 n
  String.ofList (List.replicate (width - digits.length) '0' ++ digits)

/-- Year, month and day of a day count, in the proleptic Gregorian calendar: the
count is cut into 400-year eras of 146097 days that begin on a first of March. -/
def civil (days : Int) : Int × Nat × Nat :=
  let z := days + 719468
  let era := z / 146097
  let doe := (z % 146097).toNat
  let yoe := (doe - doe / 1460 + doe / 36524 - doe / 146096) / 365
  let doy := doe - (365 * yoe + yoe / 4 - yoe / 100)
  let mp := (5 * doy + 2) / 153
  let day := doy - (153 * mp + 2) / 5 + 1
  let month := if mp < 10 then mp + 3 else mp - 9
  ((yoe : Int) + era * 400 + (if month ≤ 2 then 1 else 0), month, day)

/-- `date.isoformat()`. -/
def isoDate (days : Int) : String :=
  let (y, m, d) := civil days
  pad 4 y.toNat ++ "-" ++ pad 2 m ++ "-" ++ pad 2 d

/-- Hours, minutes, seconds, and microseconds if there are any. -/
def isoClock (micros : Nat) : String :=
  let s := micros / 1000000
  let frac := micros % 1000000
  pad 2 (s / 3600) ++ ":" ++ pad 2 (s / 60 % 60) ++ ":" ++ pad 2 (s % 60) ++
    (if frac = 0 then "" else "." ++ pad 6 frac)

/-- The offset: seconds and microseconds only if there are any. -/
def isoOffset (offset : Int) : String :=
  let m := offset.natAbs
  let s := m / 1000000
  (if offset < 0 then "-" else "+") ++ pad 2 (s / 3600) ++ ":" ++ pad 2 (s / 60 % 60) ++
    (if m % 60000000 = 0 then "" else ":" ++ pad 2 (s % 60)) ++
    (if m % 1000000 = 0 then "" else "." ++ pad 6 (m % 1000000))

/-- `d.isoformat()`. -/
def isoformat (d : DateTime) : String :=
  isoDate d.date ++ "T" ++ isoClock (d.localMicros % microsPerDay).toNat ++ isoOffset d.offset

example : isoformat ⟨1777111200000000, 0⟩ = "2026-04-25T10:00:00+00:00" := by decide
example : isoformat ⟨1777111200000000, -25200000000⟩ = "2026-04-25T03:00:00-07:00" := by decide
example : weekday ⟨1777111200000000, 0⟩ = 5 := by decide

end DateTime

end Py
