import FlightBooking.Lib.Calendar

/-!
# ZonedDateTime — aware datetimes of any zone

Python's aware `datetime` is a wall clock, a `tzinfo` and a `fold`. Two that share
their `tzinfo` are compared by the wall clock, others as instants, and a sum moves
the wall clock; so where a zone changes its offset `<` need not be an order. It is
one as soon as one clock gives the readings: without changes of the offset the
instant does, in a zone of its own the wall clock.
-/

namespace Py

/-- A `tzinfo`: the offset from UTC, and the wall clocks from which on there is another
one, for `fold=0` and for `fold=1`. The key tells two objects apart. -/
structure TzInfo where
  key : String
  standard : Int
  changes : List (Int × Int) := []
  foldedChanges : List (Int × Int) := []
deriving DecidableEq, Repr

namespace TzInfo

/-- `timezone(offset)`. -/
def timezone (offset : Int) : TzInfo := { key := "UTC", standard := offset }

/-- The offset at a wall clock: that of the last change before it. -/
def offsetAt (tz : TzInfo) (wall : Int) (fold : Bool) : Int :=
  (if fold then tz.foldedChanges else tz.changes).foldl
    (fun offset change => if change.1 ≤ wall then change.2 else offset) tz.standard

/-- The offset never changes. -/
def IsFixed (tz : TzInfo) : Prop := tz.changes = [] ∧ tz.foldedChanges = []

instance (tz : TzInfo) : Decidable tz.IsFixed := inferInstanceAs (Decidable (_ ∧ _))

theorem IsFixed.offsetAt_eq {tz : TzInfo} (h : tz.IsFixed) (wall : Int) (fold : Bool) :
    tz.offsetAt wall fold = tz.standard := by
  unfold offsetAt
  cases fold <;> simp [h.1, h.2]

theorem isFixed_timezone (offset : Int) : (timezone offset).IsFixed := ⟨rfl, rfl⟩

end TzInfo

/-- An aware `datetime`: the microseconds of its wall clock since 1970-01-01T00:00, in
the years 1 to 9999. -/
structure ZonedDateTime where
  wall : Int
  tz : TzInfo
  fold : Bool := false
  inRange : DateTime.yearOne ≤ wall ∧ wall < DateTime.yearTenThousand
deriving DecidableEq, Repr

namespace ZonedDateTime

/-- `d.utcoffset()`. -/
def utcoffset (d : ZonedDateTime) : Int := d.tz.offsetAt d.wall d.fold

/-- The same instant, at the same offset. -/
def shown (d : ZonedDateTime) : DateTime := ⟨d.wall - d.utcoffset, d.utcoffset⟩

@[simp] theorem localMicros_shown (d : ZonedDateTime) : d.shown.localMicros = d.wall := by
  simp [shown, DateTime.localMicros]

/-- A datetime of `timezone(offset)`. -/
def ofDateTime (d : DateTime) (h : d.InRange) : ZonedDateTime where
  wall := d.localMicros
  tz := .timezone d.offset
  inRange := h

@[simp] theorem shown_ofDateTime (d : DateTime) (h : d.InRange) : (ofDateTime d h).shown = d := by
  have hoffset : (ofDateTime d h).utcoffset = d.offset :=
    (TzInfo.isFixed_timezone d.offset).offsetAt_eq ..
  rw [shown, hoffset]
  simp [ofDateTime, DateTime.localMicros]

/-! ## Its parts -/

/-- `d.date()`, `d.time()`, `d.weekday()` and `d.isoformat()`. -/
def date (d : ZonedDateTime) : Int := d.shown.date

def time (d : ZonedDateTime) : DateTime.Time := d.shown.time

def weekday (d : ZonedDateTime) : Nat := d.shown.weekday

def isoformat (d : ZonedDateTime) : String := d.shown.isoformat

theorem representable_date (d : ZonedDateTime) : DateTime.Representable d.date := by
  obtain ⟨hlo, hhi⟩ := d.inRange
  unfold date DateTime.date
  rw [localMicros_shown]
  simp only [DateTime.yearOne, DateTime.yearTenThousand, DateTime.microsPerDay,
    DateTime.microsPerSecond] at *
  exact DateTime.representable_of_days (by omega) (by omega)

/-! ## Comparison -/

/-- `a < b`. -/
instance : LT ZonedDateTime :=
  ⟨fun a b => if a.tz = b.tz then a.wall < b.wall else a.shown < b.shown⟩

instance (a b : ZonedDateTime) : Decidable (a < b) :=
  inferInstanceAs (Decidable (if a.tz = b.tz then a.wall < b.wall else a.shown < b.shown))

/-- `a <= b`, that is not `b < a`. -/
instance : LE ZonedDateTime := ⟨fun a b => ¬ b < a⟩

instance (a b : ZonedDateTime) : Decidable (a ≤ b) := inferInstanceAs (Decidable (¬ _))

theorem lt_def {a b : ZonedDateTime} :
    a < b ↔ if a.tz = b.tz then a.wall < b.wall else a.shown < b.shown := Iff.rfl

/-- The wall clock is shown twice, or not at all. -/
def Folded (d : ZonedDateTime) : Prop := d.tz.offsetAt d.wall (!d.fold) ≠ d.utcoffset

instance (d : ZonedDateTime) : Decidable d.Folded := inferInstanceAs (Decidable (_ ≠ _))

/-- `a == b`: across zones a folded time equals none. -/
def SameTime (a b : ZonedDateTime) : Prop :=
  if a.tz = b.tz then a.wall = b.wall
  else a.shown.instant = b.shown.instant ∧ ¬ a.Folded ∧ ¬ b.Folded

instance (a b : ZonedDateTime) : Decidable (SameTime a b) :=
  inferInstanceAs (Decidable (if a.tz = b.tz then a.wall = b.wall
    else a.shown.instant = b.shown.instant ∧ ¬ a.Folded ∧ ¬ b.Folded))

@[simp] theorem sameTime_self (d : ZonedDateTime) : SameTime d d := by
  simp [SameTime]

/-- `d + timedelta(microseconds=delta)` moves the wall clock. -/
def plus (d : ZonedDateTime) (delta : Int) : Except String ZonedDateTime :=
  if h : DateTime.yearOne ≤ d.wall + delta ∧ d.wall + delta < DateTime.yearTenThousand then
    .ok { wall := d.wall + delta, tz := d.tz, inRange := h }
  else .error "date value out of range"

theorem plus_ok_iff {d : ZonedDateTime} {delta : Int} :
    (∃ later, d.plus delta = .ok later) ↔
      DateTime.yearOne ≤ d.wall + delta ∧ d.wall + delta < DateTime.yearTenThousand := by
  unfold plus
  split <;> simp_all

/-! ## One clock -/

/-- One clock gives the readings by which the times of `S` compare. -/
def OneClock (S : Set ZonedDateTime) : Prop :=
  ∃ reading : ZonedDateTime → ℤ, ∀ a ∈ S, ∀ b ∈ S,
    (a < b ↔ reading a < reading b) ∧ (SameTime a b ↔ reading a = reading b)

variable {S : Set ZonedDateTime}

/-- At fixed offsets, times compare as instants. -/
theorem OneClock.of_fixed (h : ∀ d ∈ S, d.tz.IsFixed) : OneClock S := by
  refine ⟨fun d => d.shown.instant, fun a ha b hb => ?_⟩
  have hinstant : ∀ d ∈ S, d.shown.instant = d.wall - d.tz.standard := by
    intro d hd
    simp [shown, utcoffset, (h d hd).offsetAt_eq]
  have hfolded : ∀ d ∈ S, ¬ d.Folded := by
    intro d hd
    simp [Folded, utcoffset, (h d hd).offsetAt_eq]
  rw [lt_def, SameTime, DateTime.lt_iff]
  split
  · next htz =>
      dsimp only
      rw [hinstant a ha, hinstant b hb, htz]
      omega
  · exact ⟨Iff.rfl, and_iff_left ⟨hfolded a ha, hfolded b hb⟩⟩

/-- In one zone, times compare as wall clocks. -/
theorem OneClock.of_shared (tz : TzInfo) (h : ∀ d ∈ S, d.tz = tz) : OneClock S := by
  refine ⟨fun d => d.wall, fun a ha b hb => ?_⟩
  have htz : a.tz = b.tz := (h a ha).trans (h b hb).symm
  rw [lt_def, SameTime, if_pos htz, if_pos htz]
  exact ⟨Iff.rfl, Iff.rfl⟩

end ZonedDateTime

/-! ## Times of the day -/

/-- A `time`, with the offset that its `tzinfo` gives it without a date, if any. -/
structure TimeOfDay where
  clock : DateTime.Time
  utcoffset : Option Int := none
deriving DecidableEq, Repr

/-- The clock, for a comparison with a naive time; the message is that of the `TypeError`. -/
def TimeOfDay.naive (t : TimeOfDay) : Except String DateTime.Time :=
  if t.utcoffset = none then .ok t.clock
  else .error "can't compare offset-naive and offset-aware times"

end Py
