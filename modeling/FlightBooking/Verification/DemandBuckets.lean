import FlightBooking.Lib.DecimalParse
import FlightBooking.Verification.PriceSpec

/-!
# DemandBuckets — a rounded percentage in the right bucket

The percentage is a quotient rounded to 28 digits, times a hundred. Below a
boundary `u` the exact percentage `100n/m` keeps a distance of at least `1/m`,
which rounding does not bridge for `m < 10^20`; on a boundary it is exact.
-/

namespace FlightBooking

open Py Decimal Rounding QuoteService

/-- `Decimal(n) / Decimal(m) * Decimal(100)`. -/
def percentage (n m : Nat) : Except Exn Decimal := do
  let ratio ← Exn.lift ((Decimal.ofInt n).div (Decimal.ofInt m))
  Exn.lift (ratio.mul (Decimal.ofInt 100))

/-- The seats `_occupancy_pct` counts: not available in the cabin, or booked. -/
def occupiedCount (bookings : InMemoryBookingRepository) (flight : Flight) : Nat :=
  flight.cabin.seats.values.countP
      (fun seat => decide (seat.status = .occupied ∨ seat.status = .blocked)) +
    activeBookedSeatCount bookings flight.id

theorem occupancyPct_eq {bookings : InMemoryBookingRepository} {flight : Flight}
    (h : flight.cabin.seatCount ≠ 0) :
    occupancyPct bookings flight =
      percentage (occupiedCount bookings flight) flight.cabin.seatCount := by
  unfold occupancyPct
  rw [if_neg h]
  rfl

/-- Times a hundred moves the point only. -/
theorem rnd_times_hundred (n m : Nat) :
    rnd (rnd ((n : Int) / (m : Int) : ℚ) * (100 : Int)) = rnd (100 * n / m) ∧
      rnd (100 * n / m) = rnd ((n : Int) / (m : Int) : ℚ) * 100 := by
  have hpoint : ((100 : Int) : ℚ) = 10 ^ (2 : ℤ) := by norm_num
  have hscale : (100 * n / m : ℚ) = ((n : Int) / (m : Int) : ℚ) * 10 ^ (2 : ℤ) := by
    push_cast
    ring
  constructor
  · unfold rnd
    rw [hpoint, roundSig_mul_tenPow, roundSig_idem (by decide), hscale, roundSig_mul_tenPow]
  · rw [hscale, rnd, roundSig_mul_tenPow]
    norm_num

/-- Two operations, one rounding; what overflows in the first is too large in the end. -/
theorem percentage_computes (n : Nat) {m : Nat} (hm : 0 < m) :
    ∃ r, percentage n m = Exn.lift r ∧ Computes r (rnd (100 * n / m)) := by
  have hne : ((m : Int) : ℚ) ≠ 0 := by exact_mod_cast hm.ne'
  have hdiv := (denotes_ofInt n).div (denotes_ofInt m) hne
  obtain ⟨honce, hscale⟩ := rnd_times_hundred n m
  unfold percentage
  by_cases hfits : Fits (rnd ((n : Int) / (m : Int) : ℚ))
  · obtain ⟨ratio, hratio, hvalue⟩ := hdiv.of_fits hfits
    have hmul := hvalue.mul (denotes_ofInt 100)
    rw [honce] at hmul
    exact ⟨_, by rw [hratio]; rfl, hmul⟩
  · refine ⟨.error .overflow, by rw [hdiv.of_not_fits hfits]; rfl, .overflow fun hpct => ?_⟩
    refine hfits (hpct.of_le ?_)
    rw [hscale, abs_mul, abs_of_pos (show (0 : ℚ) < 100 by norm_num)]
    linarith [abs_nonneg (rnd ((n : Int) / (m : Int) : ℚ))]

theorem percentage_denotes {n m : Nat} (hm : 0 < m) {occ : Decimal}
    (h : percentage n m = .ok occ) : Denotes occ (rnd (100 * n / m)) := by
  obtain ⟨r, hr, hcomputes⟩ := percentage_computes n hm
  rw [hr] at h
  rw [Exn.lift_eq_ok h] at hcomputes
  exact hcomputes.denotes

theorem percentage_ok_iff (n : Nat) {m : Nat} (hm : 0 < m) :
    (∃ occ, percentage n m = .ok occ) ↔ Fits (rnd (100 * n / m)) := by
  obtain ⟨r, hr, hcomputes⟩ := percentage_computes n hm
  rw [hr, ← hcomputes.ok_iff]
  exact exists_congr fun occ => ⟨Exn.lift_eq_ok, congrArg Exn.lift⟩

/-- The percentage of a flight does not overflow. -/
def OccupancyFits (bookings : InMemoryBookingRepository) (flight : Flight) : Prop :=
  Fits (rnd (100 * occupiedCount bookings flight / flight.cabin.seatCount))

theorem occupancyPct_ok_iff (bookings : InMemoryBookingRepository) (flight : Flight) :
    (∃ occ, occupancyPct bookings flight = .ok occ) ↔ OccupancyFits bookings flight := by
  by_cases hempty : flight.cabin.seatCount = 0
  · refine iff_of_true ⟨_, if_pos hempty⟩ ?_
    rw [OccupancyFits, hempty, Nat.cast_zero, div_zero, rnd, roundSig_zero, Fits, abs_zero]
    exact tenPow_pos _
  · rw [occupancyPct_eq hempty]
    exact percentage_ok_iff _ (Nat.pos_of_ne_zero hempty)

theorem occupancyPct_isFinite {bookings : InMemoryBookingRepository} {flight : Flight}
    {occ : Decimal} (h : occupancyPct bookings flight = .ok occ) : IsFinite occ := by
  by_cases hempty : flight.cabin.seatCount = 0
  · obtain rfl : Decimal.ofInt 0 = occ := Except.ok.inj ((if_pos hempty).symm.trans h)
    exact (denotes_ofInt 0).isFinite
  · rw [occupancyPct_eq hempty] at h
    exact (percentage_denotes (Nat.pos_of_ne_zero hempty) h).isFinite

/-- A part of the cabin is between 0 and 100 percent of it, rounding included. -/
theorem rnd_percentage_bounds {n m : Nat} (hle : n ≤ m) :
    0 ≤ rnd (100 * n / m) ∧ rnd (100 * n / m) ≤ 100 := by
  have hgrid : OnGrid 0 (100 : ℚ) := ⟨100, by norm_num⟩
  refine ⟨roundSig_nonneg (by positivity), roundSig_le (by decide) hgrid ?_ ?_⟩
  · norm_num [prec]
  · rcases Nat.eq_zero_or_pos m with rfl | hm
    · simp
    · rw [div_le_iff₀ (by exact_mod_cast hm)]
      exact_mod_cast Nat.mul_le_mul_left 100 hle

theorem fits_percentage {n m : Nat} (hle : n ≤ m) : Fits (rnd (100 * n / m)) := by
  obtain ⟨hnonneg, hhigh⟩ := rnd_percentage_bounds hle
  refine fits_of_lt (k := 3) (by norm_num) ?_
  rw [abs_of_nonneg hnonneg]
  linarith

/-- Rounding neither reaches nor crosses a boundary. -/
theorem rnd_percentage_lt_iff {n m u : Nat} (hm : 0 < m) (hsmall : m < 10 ^ 20) (hu : u < 100) :
    rnd (100 * n / m) < u ↔ 100 * n < u * m := by
  have hmq : (0 : ℚ) < m := by exact_mod_cast hm
  have hgrid : OnGrid 0 (u : ℚ) := ⟨u, by simp⟩
  constructor
  · intro h
    by_contra hle
    have hexact : (u : ℚ) ≤ 100 * n / m := by
      rw [le_div_iff₀ hmq]
      exact_mod_cast not_lt.mp hle
    have hdigits : |(u : ℚ)| < 10 ^ ((prec : Int) + 0) := by
      rw [abs_of_nonneg (Nat.cast_nonneg u)]
      have : (u : ℚ) < 100 := by exact_mod_cast hu
      norm_num [prec]
      linarith
    exact absurd h (not_lt.mpr (le_roundSig (by decide) hgrid hdigits hexact))
  · intro h
    -- the gap below the boundary, and the most that rounding can move
    have hgap : (100 * n / m : ℚ) ≤ u - 1 / m := by
      rw [le_sub_iff_add_le, ← add_div, div_le_iff₀ hmq]
      exact_mod_cast h
    have hinv : (1 : ℚ) / 10 ^ 20 < 1 / m := by
      apply one_div_lt_one_div_of_lt hmq
      exact_mod_cast hsmall
    have hsize : |(100 * n / m : ℚ)| < 10 ^ (2 : Int) := by
      rw [abs_of_nonneg (by positivity)]
      have : (u : ℚ) < 100 := by exact_mod_cast hu
      norm_num
      linarith [hinv.trans' (by positivity : (0 : ℚ) < 1 / 10 ^ 20)]
    have hmove := abs_le.mp (abs_sub_roundSig_le (p := prec) hsize)
    have hhalf : (10 : ℚ) ^ ((2 : Int) - prec) / 2 ≤ 1 / 10 ^ 20 := by norm_num [prec]
    linarith [hmove.1]

/-! ## The lookup -/

/-- `multiplier` is the one of the row whose bucket has `100n/m` in it: all earlier
upper bounds are at or below it, and the row's own is above, or infinite. -/
def InBucket (n m : Nat) (table : List (Decimal × Decimal)) (multiplier : Decimal) : Prop :=
  ∃ before upper after, table = before ++ (upper, multiplier) :: after ∧
    (∀ row ∈ before, ∃ lo : Nat, row.1 = Decimal.ofInt lo ∧ lo * m ≤ 100 * n) ∧
    (upper = .infinity false ∨ ∃ hi : Nat, upper = Decimal.ofInt hi ∧ 100 * n < hi * m)

/-- A table that ends in an infinite bound, with finite bounds of two digits before. -/
inductive BucketTable : List (Decimal × Decimal) → Prop
  | last (multiplier : Decimal) (rest : List (Decimal × Decimal)) :
      BucketTable ((.infinity false, multiplier) :: rest)
  | row (hi : Nat) (hhi : hi < 100) (multiplier : Decimal) {rest : List (Decimal × Decimal)}
      (hrest : BucketTable rest) : BucketTable ((Decimal.ofInt hi, multiplier) :: rest)

theorem demandTable_bucketTable : BucketTable Pricing.demandTable := by
  refine .row 31 (by decide) _ (.row 51 (by decide) _ (.row 71 (by decide) _ ?_))
  exact .row 86 (by decide) _ (.row 96 (by decide) _ (.last _ _))

/-- The lookup stops in the bucket of the exact percentage. -/
theorem demandLookup_exact {n m : Nat} (hm : 0 < m) (hsmall : m < 10 ^ 20) {occ : Decimal}
    (hocc : Denotes occ (rnd (100 * n / m))) {table : List (Decimal × Decimal)}
    (ht : BucketTable table) :
    ∃ multiplier, Pricing.demandLookup occ table = .ok multiplier ∧
      InBucket n m table multiplier := by
  induction ht with
  | last multiplier rest =>
      obtain ⟨s, c, e, rfl, -⟩ := hocc
      exact ⟨multiplier, rfl, [], _, rest, rfl, by simp, .inl rfl⟩
  | @row hi hhi multiplier rest hrest ih =>
      have hlt := hocc.lt (denotes_ofInt hi)
      have hiff : rnd (100 * n / m) < ((hi : Int) : ℚ) ↔ 100 * n < hi * m := by
        exact_mod_cast rnd_percentage_lt_iff hm hsmall hhi
      unfold Pricing.demandLookup
      rw [hlt]
      by_cases hbelow : 100 * n < hi * m
      · rw [decide_eq_true (hiff.mpr hbelow)]
        exact ⟨multiplier, rfl, [], _, rest, rfl, by simp, .inr ⟨hi, rfl, hbelow⟩⟩
      · obtain ⟨found, hfound, before, upper, after, rfl, hbefore, hupper⟩ := ih
        rw [decide_eq_false (mt hiff.mp hbelow)]
        refine ⟨found, hfound, (Decimal.ofInt hi, multiplier) :: before, upper, after, rfl, ?_,
          hupper⟩
        intro row hrow
        rcases List.mem_cons.mp hrow with rfl | hrow
        · exact ⟨hi, rfl, not_lt.mp hbelow⟩
        · exact hbefore row hrow

/-- **Demand buckets are exact.** For a cabin of fewer than `10^20` seats the percentage
is found unless it overflows. Its multiplier is that of the exact one, the lookup never
runs off the table, the percentage read back from its text selects the same, and a
quote for such a flight has that multiplier and writes that text. -/
theorem demand_bucket_exact (n : Nat) {m : Nat} (hm : 1 ≤ m) (hsmall : m < 10 ^ 20) :
    ((∃ occ, percentage n m = .ok occ) ↔ Fits (rnd (100 * n / m))) ∧
    ∀ occ, percentage n m = .ok occ → ∃ multiplier,
      Pricing.demandMultiplier occ = .ok multiplier ∧
      InBucket n m Pricing.demandTable multiplier ∧
      (∃ read, Decimal.parse occ.str = .ok read ∧
        Pricing.demandMultiplier read = .ok multiplier) ∧
      (∀ bookings flight, flight.cabin.seatCount = m → occupiedCount bookings flight = n →
        occupancyPct bookings flight = .ok occ) ∧
      ∀ c env request flight q, c.flightRepo.get request.flightId = some flight →
        flight.cabin.seatCount = m → occupiedCount c.bookingRepo flight = n →
        ((quote env request).run c).1 = .ok q →
        q.priceBreakdown.demandMultiplier = multiplier ∧
          ∃ event, Emits c env request q event ∧ event.occupancyPct = occ.str := by
  refine ⟨percentage_ok_iff n hm, fun occ hpct => ?_⟩
  obtain ⟨multiplier, hmult, hbucket⟩ :=
    demandLookup_exact hm hsmall (percentage_denotes hm hpct) demandTable_bucketTable
  have hflight : ∀ bookings flight, flight.cabin.seatCount = m →
      occupiedCount bookings flight = n → occupancyPct bookings flight = .ok occ := by
    rintro bookings flight rfl rfl
    rw [occupancyPct_eq (Nat.ne_of_gt hm), hpct]
  refine ⟨multiplier, hmult, hbucket, ⟨occ, parse_str occ, hmult⟩, hflight, ?_⟩
  intro c env request flight q hfound hseats hcount hq
  obtain ⟨event, hemits⟩ := emits_of_quote hq
  obtain ⟨flight', a, total, hrecorded⟩ := hemits.recorded
  obtain rfl : flight = flight' := Option.some.inj (hfound.symm.trans hrecorded.found)
  have hocc : occ = a.occupancyPct :=
    Except.ok.inj ((hflight c.bookingRepo flight hseats hcount).symm.trans hrecorded.occupancy)
  obtain ⟨demand, hdemand, hbreakdown⟩ := bind_eq_ok hrecorded.priced
  obtain ⟨time, -, hbreakdown⟩ := bind_eq_ok hbreakdown
  have hsame : multiplier = demand := by
    rw [← hocc] at hdemand
    exact Except.ok.inj (hmult.symm.trans hdemand)
  refine ⟨?_, event, hemits, by rw [hrecorded.occupancyPct, hocc]⟩
  rw [hrecorded.breakdown, ← Except.ok.inj hbreakdown, hsame]

/-- 17 of 55 seats are 30.90…%, below the first boundary; 31 of 100 are on it. -/
theorem demand_bucket_exact_near_31 :
    (∃ occ, percentage 17 55 = .ok occ ∧ occ.str = "30.90909090909090909090909091" ∧
      Pricing.demandMultiplier occ = .ok (Pricing.hundredths 100)) ∧
    ∃ occ multiplier, percentage 31 100 = .ok occ ∧
      Pricing.demandMultiplier occ = .ok multiplier ∧
      InBucket 31 100 Pricing.demandTable multiplier := by
  refine ⟨⟨_, rfl, by decide, by decide⟩, ?_⟩
  obtain ⟨hok, hall⟩ := demand_bucket_exact 31 (m := 100) (by decide) (by decide)
  obtain ⟨occ, hpct⟩ := hok.mpr (fits_percentage (by decide))
  obtain ⟨multiplier, hmult, hbucket, -⟩ := hall occ hpct
  exact ⟨occ, multiplier, hpct, hmult, hbucket⟩

/-- A count with more digits than the context has room for. -/
theorem percentage_overflows {n : Nat} (h : (10 : ℚ) ^ (emax + 1) ≤ n) :
    percentage n 1 = .error (.decimal .overflow) := by
  obtain ⟨r, hr, hcomputes⟩ := percentage_computes n Nat.one_pos
  have hlarge : (10 : ℚ) ^ (emax + 1) ≤ 100 * n / (1 : Nat) := by
    rw [Nat.cast_one, div_one]
    linarith [n.cast_nonneg (α := ℚ)]
  rw [hr, hcomputes.of_not_fits (not_fits_of_le hlarge)]
  rfl

/-- One seat, and a one followed by a million zeros of them taken: the quotient is more
than the context has exponents for, so there is no percentage and no multiplier. -/
theorem percentage_of_a_million_zeros :
    percentage (10 ^ 1000000) 1 = .error (.decimal .overflow) ∧
      ¬ ∃ occ multiplier, percentage (10 ^ 1000000) 1 = .ok occ ∧
        Pricing.demandMultiplier occ = .ok multiplier := by
  have hraised : percentage (10 ^ 1000000) 1 = .error (.decimal .overflow) := by
    refine percentage_overflows (le_of_eq ?_)
    rw [Nat.cast_pow, Nat.cast_ofNat, ← zpow_natCast]
    rfl
  refine ⟨hraised, ?_⟩
  rintro ⟨occ, multiplier, hpct, -⟩
  rw [hraised] at hpct
  cases hpct

end FlightBooking
