import FlightBooking.Verification.PriceSpec
import FlightBooking.Verification.StepSpec

/-!
# PositivePrice — when a quote is worth something

A middle seat takes five dollars off, the fare enters once however many seats are
quoted, and the final rounding can take a small sum to zero. The total is
positive exactly if the sum on paper is `Clear`; then nothing but positive
amounts reaches the gateway.
-/

namespace FlightBooking

open Py Decimal Rounding BookingService QuoteService

/-! ## Large fares -/

theorem le_rnd {n : ℕ} {x : ℚ} (hn : n < 10 ^ prec) (h : (n : ℚ) ≤ x) : (n : ℚ) ≤ rnd x := by
  refine le_roundSig (e := 0) (by decide) ⟨n, by simp⟩ ?_ h
  rw [abs_of_nonneg n.cast_nonneg, add_zero, zpow_natCast]
  exact_mod_cast hn

/-- A surcharge takes at most five dollars off the running sum. -/
theorem le_addAll {n : ℕ} {x : ℚ} {terms : List ℚ} (hterms : ∀ a ∈ terms, -5 ≤ a)
    (hn : n + 5 * terms.length < 10 ^ prec) (hx : (n + 5 * terms.length : ℚ) ≤ x) :
    (n : ℚ) ≤ PriceTerms.addAll x terms := by
  induction terms generalizing x with
  | nil => simpa [PriceTerms.addAll] using hx
  | cons a terms ih =>
      rw [List.length_cons] at hn hx
      push_cast at hx
      have ha : -5 ≤ a := hterms a (by simp)
      have hstep : ((n + 5 * terms.length : ℕ) : ℚ) ≤ rnd (x + a) := by
        refine le_rnd (by omega) ?_
        push_cast
        linarith
      push_cast at hstep
      exact ih (fun b hb => hterms b (by simp [hb])) (by omega) hstep

section Large

variable {p : PriceTerms}

theorem PriceTerms.Tabled.multiplier_ge (h : p.Tabled) :
    7 / 10 ≤ p.demand * p.time * p.day := by
  have hdt : 17 / 20 ≤ p.demand * p.time := by
    have := mul_le_mul h.demand.2.1 h.time.2.1 (by norm_num) (by linarith [h.demand.2.1])
    linarith
  have := mul_le_mul hdt h.day.2.1 (by norm_num) (by linarith)
  linarith

theorem PriceTerms.Tabled.surcharges_ge (h : p.Tabled) : ∀ a ∈ p.surcharges, -5 ≤ a :=
  fun a ha => (h.surcharges a ha).2.1

/-- From a trillion on, both sums are above a dollar. -/
theorem PriceTerms.Tabled.sum28_large (h : p.Tabled) (hfare : 10 ^ 12 ≤ p.fare)
    (hseats : p.surcharges.length ≤ 9) : 1 ≤ p.sum28 := by
  have hlen : 5 * (p.surcharges.length : ℚ) ≤ 45 := by
    have : (p.surcharges.length : ℚ) ≤ 9 := by exact_mod_cast hseats
    linarith
  have hproduct : ((10 ^ 11 : ℕ) : ℚ) ≤ p.product28 := by
    unfold PriceTerms.product28
    rw [h.multiplier_exact]
    refine le_rnd (by norm_num [prec]) ?_
    have := mul_le_mul hfare h.multiplier_ge (by norm_num) (by linarith)
    push_cast
    linarith
  have hsum : ((10 ^ 10 : ℕ) : ℚ) ≤ PriceTerms.addAll p.product28 p.surcharges := by
    refine le_addAll h.surcharges_ge ?_ ?_
    · have : 5 * p.surcharges.length ≤ 45 := by omega
      norm_num [prec]
      omega
    · push_cast at hproduct ⊢
      linarith
  have htaxes : ((0 : ℕ) : ℚ) ≤ p.taxes28 := by
    have h1 : ((10 ^ 12 : ℕ) : ℚ) ≤ rnd (p.fare * p.demand) := by
      refine le_rnd (by norm_num [prec]) ?_
      have := mul_le_mul hfare h.demand.2.1 (by norm_num) (by linarith)
      push_cast
      linarith
    have h2 : ((8 * 10 ^ 11 : ℕ) : ℚ) ≤ rnd (rnd (p.fare * p.demand) * p.time) := by
      refine le_rnd (by norm_num [prec]) ?_
      have := mul_le_mul h1 h.time.2.1 (by norm_num) (by push_cast at h1; linarith)
      push_cast at this ⊢
      linarith
    have h3 : ((6 * 10 ^ 11 : ℕ) : ℚ) ≤ rnd (rnd (rnd (p.fare * p.demand) * p.time) * p.day) := by
      refine le_rnd (by norm_num [prec]) ?_
      have := mul_le_mul h2 h.day.2.1 (by norm_num) (by push_cast at h2; linarith)
      push_cast at this ⊢
      linarith
    have h4 : ((0 : ℕ) : ℚ) ≤ p.taxable28 := by
      refine le_addAll h.surcharges_ge ?_ ?_
      · norm_num [prec]
        omega
      · push_cast at h3 ⊢
        linarith
    refine le_rnd (by norm_num [prec]) ?_
    have := mul_nonneg (by simpa using h4) (show 0 ≤ p.rate by linarith [h.rate.2.1])
    simpa using this
  have htaxed : ((1 : ℕ) : ℚ) ≤ rnd (PriceTerms.addAll p.product28 p.surcharges + p.taxes28) := by
    refine le_rnd (by norm_num [prec]) ?_
    push_cast at hsum htaxes ⊢
    linarith
  have hfees : ((1 : ℕ) : ℚ) ≤ p.sum28 := by
    refine le_rnd (by norm_num [prec]) ?_
    rw [h.fees, add_zero]
    exact htaxed
  exact_mod_cast hfees

/-- The same on paper. -/
theorem PriceTerms.Tabled.sum_large (h : p.Tabled) (hfare : 10 ^ 12 ≤ p.fare)
    (hseats : p.surcharges.length ≤ 9) : 1 ≤ p.sum := by
  have hlen : (p.surcharges.length : ℚ) ≤ 9 := by exact_mod_cast hseats
  have hlines := List.card_nsmul_le_sum p.surcharges (-5) h.surcharges_ge
  rw [nsmul_eq_mul] at hlines
  have hproduct : 7 / 10 * 10 ^ 12 ≤ p.product := by
    have := mul_le_mul hfare h.multiplier_ge (by norm_num) (by linarith)
    unfold PriceTerms.product
    linarith
  have hbase : 1 ≤ p.taxable := by
    unfold PriceTerms.taxable
    linarith
  have htaxes : 0 ≤ p.taxable * p.rate :=
    mul_nonneg (zero_le_one.trans hbase) (h.rate.2.1.trans' (by norm_num))
  unfold PriceTerms.sum
  rw [h.fees]
  linarith

/-- For up to nine seats, rounding to 28 digits does not decide the sign. -/
theorem PriceTerms.Tabled.clear_sum28_iff (h : p.Tabled) (hfare : 0 ≤ p.fare)
    (hseats : p.surcharges.length ≤ 9) : Clear p.sum28 ↔ Clear p.sum := by
  rcases lt_or_ge p.fare (10 ^ 12) with hsmall | hlarge
  · have hm : p.Moderate := 
      ⟨by rw [abs_of_nonneg hfare]; linarith, hseats.trans (by norm_num)⟩
    rw [hm.sum28_eq h]
  · have h28 := h.sum28_large hlarge hseats
    have hsum := h.sum_large hlarge hseats
    exact iff_of_true (clear_of_half_lt (by linarith)) (clear_of_half_lt (by linarith))

end Large

/-! ## Positive amounts -/

/-- `amount > 0`. -/
def Money.Positive (m : Money) : Prop := (Decimal.ofInt 0).lt m.amount = .ok true

instance (m : Money) : Decidable m.Positive := inferInstanceAs (Decidable (_ = _))

theorem Money.positive_iff {m : Money} {x : ℚ} (h : Denotes m.amount x) :
    m.Positive ↔ 0 < x := by
  unfold Money.Positive
  rw [(denotes_ofInt 0).lt h]
  simp

/-- A fare in dollars, built by `Money.of`, of at least one. -/
def Money.FromOneDollar (fare : Money) : Prop := ∃ x, fare.IsFare x ∧ 1 ≤ x

theorem Money.FromOneDollar.positive {fare : Money} (h : fare.FromOneDollar) : fare.Positive := by
  obtain ⟨x, hx, hle⟩ := h
  exact (positive_iff hx.value).mpr (by linarith)

/-- The total of a breakdown is positive exactly if the sum on paper is clear. -/
theorem Priced.positive_iff {c : Container} {request : QuoteRequest} {flight : Flight}
    {b : PriceBreakdown} {total : Money} (h : Priced c request flight b total)
    (hfare : flight.baseFare.FromOneDollar) (hseats : request.seatIds.length ≤ 9) :
    total.Positive ↔ Clear (termsOf c flight request.seatIds).sum := by
  obtain ⟨x, hx, hleast⟩ := hfare
  have htabled := h.tabled hx.onGrid
  have hdenotes := h.total_value hx.value.isFinite
  have hlines : h.terms.surcharges.length ≤ 9 := by
    unfold terms PriceBreakdown.terms
    rw [List.length_map, h.lines]
    exact (seatSurcharges_length_le flight request.seatIds).trans hseats
  have hnonneg : 0 ≤ h.terms.fare := by
    unfold terms PriceBreakdown.terms
    rw [h.fare, hx.value.toRat_eq]
    linarith
  rw [Money.positive_iff hdenotes, priorDigit_pos_iff,
    htabled.clear_sum28_iff hnonneg hlines, h.terms_eq]

/-! ## Over a run -/

/-- The flights quoted and booked cost a dollar or more, quotes are for up to nine
seats, and the sum of each is clear. -/
def Worthwhile (c : Container) : Op → Prop
  | .quote _ request => ∀ flight, c.flightRepo.get request.flightId = some flight →
      flight.baseFare.FromOneDollar ∧ request.seatIds.length ≤ 9 ∧
        (c.clock.date ≤ flight.departureAt.date →
          Clear (termsOf c flight request.seatIds).sum)
  | .commit _ request => ∀ flight, c.flightRepo.get request.flightId = some flight →
      flight.baseFare.FromOneDollar
  | _ => True

/-- What is stored and what was charged is positive. -/
structure Paying (c : Container) : Prop where
  quotes : ∀ id q, c.quoteStore.get? id = some q → ∀ total,
    q.priceBreakdown.total = .ok total → total.Positive
  charges : ∀ charge ∈ c.charges, charge.amount.Positive

theorem Paying.quotes_step {c : Container} (hI : Paying c) {op : Op} (hop : Worthwhile c op)
    {id : QuoteId} {q : Quote} (hq : (step c op).2.quoteStore.get? id = some q) {total : Money}
    (ht : q.priceBreakdown.total = .ok total) : total.Positive := by
  cases step_quotes c op with
  | kept hkept hi =>
      rw [hkept] at hq
      exact hI.quotes id q hq total ht
  | @saved env request a session new rest _ ha hid hsaved hi =>
      rw [hsaved] at hq
      rcases Dict.get?_set_eq_some_iff.mp hq with ⟨-, rfl⟩ | ⟨-, hold⟩
      · obtain ⟨flight, hp⟩ := appraise_priced ha ht
        obtain ⟨hfare, hseats, hclear⟩ := hop flight hp.found
        exact (hp.positive_iff hfare hseats).mpr (hclear (sub_nonneg.mp hp.ahead))
      · exact hI.quotes id q hold total ht

theorem Paying.amountDue {c : Container} (hI : Paying c) {env : Collaborators}
    {request : CommitRequest} (hop : Worthwhile c (.commit env request)) {total : Money}
    (hdue : amountDue c request = .ok total) : total.Positive := by
  unfold BookingService.amountDue at hdue
  cases hlive : liveQuote c request with
  | some quote =>
      rw [hlive] at hdue
      obtain ⟨id, -, hq, -⟩ := liveQuote_eq_some_iff.mp hlive
      exact hI.quotes id quote hq total hdue
  | none =>
      rw [hlive] at hdue
      cases hf : c.flightRepo.get request.flightId with
      | none =>
          rw [hf] at hdue
          cases hdue
      | some flight =>
          rw [hf] at hdue
          cases hdue
          exact (hop flight hf).positive

theorem Paying.preserved {c : Container} (hI : Paying c) (op : Op) (hop : Worthwhile c op) :
    Paying (step c op).2 where
  quotes id q hq total ht := hI.quotes_step hop hq ht
  charges := by
    cases step_charges c op with
    | kept h =>
        rw [h]
        exact hI.charges
    | charged hdue h =>
        rw [h]
        intro charge hcharge
        rcases List.mem_append.mp hcharge with hold | hnew
        · exact hI.charges charge hold
        · obtain rfl := List.mem_singleton.mp hnew
          exact hI.amountDue hop hdue

theorem Paying.final {c : Container} (hI : Paying c) {ops : List Op}
    (h : Run.Along step Worthwhile c ops) : Paying (Run.final step c ops) :=
  Run.invariant (fun _ op hI hop => hI.preserved op hop) hI h

/-- **When a price is positive.** The total of a quote is, exactly if its sum on
paper is clear; and if all sums of a run are, every amount the gateway is asked
for is. -/
theorem price_positive_iff (c : Container) :
    (∀ (env : Collaborators) (request : QuoteRequest) (q : Quote) (flight : Flight),
      ((quote env request).run c).1 = .ok q →
      c.flightRepo.get request.flightId = some flight → flight.baseFare.FromOneDollar →
      request.seatIds.length ≤ 9 →
      ∃ total, q.priceBreakdown.total = .ok total ∧
        (total.Positive ↔ Clear (termsOf c flight request.seatIds).sum)) ∧
    (c.quoteStore = Dict.empty → c.charges = [] → ∀ ops : List Op,
      Run.Along step Worthwhile c ops →
      ∀ charge ∈ (Run.final step c ops).charges, charge.amount.Positive) := by
  refine ⟨?_, ?_⟩
  · intro env request q flight hquote hf hfare hseats
    obtain ⟨flight', total, hp⟩ := quote_priced hquote
    obtain rfl : flight = flight' := Option.some.inj (hf.symm.trans hp.found)
    exact ⟨total, hp.total, hp.positive_iff hfare hseats⟩
  · intro hquotes hcharges ops halong
    have hstart : Paying c := ⟨by simp [hquotes], by simp [hcharges]⟩
    exact (hstart.final halong).charges

/-- A flight for one dollar with an economy seat 30E of the given kind. -/
def dollarFlight (kind : SeatKind) : Flight :=
  { seededFlight "FL-LAX-NYC-0800" [] with
    baseFare := Money.whole 1
    cabin.seats := Dict.empty.set ⟨"30E"⟩ { id := ⟨"30E"⟩, seatClass := .economy, kind } }

theorem dollarFlight_fare (kind : SeatKind) : (dollarFlight kind).baseFare.FromOneDollar :=
  ⟨1, ⟨⟨Decimal.ofInt 1, rfl⟩, by exact_mod_cast denotes_whole 1⟩, le_refl 1⟩

/-- A quote for the seat. -/
def dollarRequest : QuoteRequest where
  flightId := ⟨"FL-LAX-NYC-0800"⟩
  seatIds := [⟨"30E"⟩]
  passengers := 1

/-- The quote, and a commit that carries it. -/
def quoteThenCommit : List Op :=
  [.quote .wired dollarRequest,
   .commit .wired { commitFor "FL-LAX-NYC-0800" ["30E"] with quoteId := some ⟨"Q001"⟩ }]

/-- A standard seat for a dollar, 37 days ahead on a Monday: 0.81 and 7.5% of it. -/
theorem price_positive_iff_standard_seat :
    let flight := dollarFlight .standard
    let c := seededContainer [flight]
    (∃ q total, ((quote .wired dollarRequest).run c).1 = .ok q ∧
      q.priceBreakdown.total = .ok total ∧ total.amount.str = "0.87" ∧
      (total.Positive ↔ Clear (termsOf c flight dollarRequest.seatIds).sum)) ∧
    ∀ charge ∈ (Run.final step c quoteThenCommit).charges, charge.amount.Positive := by
  intro flight c
  have hfare : flight.baseFare.FromOneDollar := dollarFlight_fare .standard
  have hquote : ((quote .wired dollarRequest).run c).1 = .ok _ := rfl
  obtain ⟨total, htotal, hiff⟩ :=
    (price_positive_iff c).1 .wired dollarRequest _ flight hquote rfl hfare (by decide)
  obtain rfl : (⟨.finite false 87 (-2), "USD"⟩ : Money) = total := Except.ok.inj htotal
  refine ⟨⟨_, _, hquote, htotal, by decide, hiff⟩, ?_⟩
  refine (price_positive_iff c).2 rfl rfl quoteThenCommit ⟨?_, ?_, trivial⟩
  · intro found hf
    obtain rfl : flight = found := Option.some.inj hf
    exact ⟨hfare, by decide, fun _ => hiff.mp (by decide)⟩
  · intro found hf
    obtain rfl : flight = found := Option.some.inj hf
    exact hfare

/-- A middle seat for a dollar: 0.81 - 5.00 and 7.5% of that. The gateway is asked
for a negative amount. -/
theorem middle_seat_is_paid_out :
    let flight := dollarFlight .middle
    let c := seededContainer [flight]
    flight.baseFare.FromOneDollar ∧
    (∃ q total, ((quote .wired dollarRequest).run c).1 = .ok q ∧
      q.priceBreakdown.total = .ok total ∧ total.amount.str = "-4.50" ∧ ¬ total.Positive) ∧
    ∃ charge ∈ (Run.final step c quoteThenCommit).charges,
      charge.amount.amount.str = "-4.50" ∧ ¬ charge.amount.Positive := by
  intro flight c
  refine ⟨dollarFlight_fare .middle, ⟨_, _, rfl, rfl, by decide, by decide⟩, ?_⟩
  exact ⟨⟨"mock-ok", ⟨.finite true 450 (-2), "USD"⟩, true⟩, by decide, by decide, by decide⟩

end FlightBooking
