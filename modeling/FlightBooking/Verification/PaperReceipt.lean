import FlightBooking.Adapters.HttpApp
import FlightBooking.Lib.DecimalParse
import FlightBooking.Verification.PriceSpec

/-!
# PaperReceipt — adding up a quote by hand

The response shows fare, multipliers and surcharges exactly, taxes and fees at
two decimals, and a total that is rounded by a rule of its own. As long as 28 digits
hold taxes and sum, adding up the lines gives the total within a cent if that rule
rounds to cents or not at all, and hardly ever where it rounds to tenths or units.
-/

namespace FlightBooking

open Py Decimal Rounding QuoteService

/-! ## What a response shows -/

/-- `Decimal(s)` is the number `x`. -/
def Reads (s : String) (x : ℚ) : Prop := ∃ d, Decimal.parse s = .ok d ∧ Denotes d x

theorem reads_str_iff {d : Decimal} {x : ℚ} : Reads d.str x ↔ Denotes d x := by
  unfold Reads
  rw [parse_str]
  constructor
  · intro h
    obtain ⟨d', hd', hx⟩ := h
    obtain rfl := Except.ok.inj hd'
    exact hx
  · exact fun h => ⟨d, rfl, h⟩

/-- The numbers of a receipt. -/
structure Receipt where
  fare : ℚ
  demand : ℚ
  time : ℚ
  day : ℚ
  surcharges : List ℚ
  taxes : ℚ
  fees : ℚ
  total : ℚ

/-- The lines added up. -/
def Receipt.sum (r : Receipt) : ℚ :=
  r.fare * r.demand * r.time * r.day + r.surcharges.sum + r.taxes + r.fees

/-- A response with the numbers of a receipt. -/
structure QuoteResponse.Shows (response : QuoteResponse) (r : Receipt) : Prop where
  fare : Reads response.baseFare r.fare
  demand : Reads response.demandMultiplier r.demand
  time : Reads response.timeMultiplier r.time
  day : Reads response.dayMultiplier r.day
  surcharges : List.Forall₂ (fun line x => Reads line.amount x) response.seatSurcharges r.surcharges
  taxes : Reads response.taxes r.taxes
  fees : Reads response.fees r.fees
  total : Reads response.total r.total

/-- The total is within a cent of the lines added up. -/
def QuoteResponse.OnPaper (response : QuoteResponse) : Prop :=
  ∃ r, response.Shows r ∧ |r.total - r.sum| ≤ 1 / 100

/-! ## The receipt of a quote -/

/-- What the terms come to when taxes and fees are shown at two decimals. -/
def PriceTerms.receiptSum (p : PriceTerms) : ℚ :=
  p.product + p.surcharges.sum + roundTo (-2) p.taxes28 + roundTo (-2) p.fees

theorem forall₂_reads_iff {lines : List SeatSurchargeLine} (hlines : Lines lines) {xs : List ℚ} :
    List.Forall₂ (fun line x => Reads line.amount x)
        (lines.map fun line => ({ seat := line.seat.value, amount := line.amount.amount.str } :
          SeatSurchargeResponse)) xs ↔
      xs = lines.map fun line => line.amount.amount.toRat := by
  induction lines generalizing xs with
  | nil => simp
  | cons line lines ih =>
      have hline : IsFinite line.amount.amount := hlines line (by simp)
      have hrest : Lines lines := fun l hl => hlines l (by simp [hl])
      rw [List.map_cons, List.map_cons]
      constructor
      · intro h
        cases h with
        | cons hx hxs =>
            rw [(ih hrest).mp hxs, (reads_str_iff.mp hx).toRat_eq]
      · rintro rfl
        exact .cons (reads_str_iff.mpr hline) ((ih hrest).mpr rfl)

/-- An amount shown at two decimals. -/
theorem money_of_denotes {v : Decimal} {x : ℚ} {currency : String} {m : Money}
    (hv : Denotes v x) (h : Money.of v currency = .ok m) :
    Denotes m.amount (roundTo (-2) x) := by
  obtain ⟨amount, ha, h⟩ := bind_eq_ok h
  obtain rfl := Except.ok.inj h
  obtain ⟨s, c, hamount, hvalue⟩ := hv.quantize (q := moneyQuant) rfl (Exn.lift_eq_ok ha)
  rw [← hvalue]
  exact ⟨s, c, -2, hamount, rfl⟩

section Quotes

variable {c : Container} {request : QuoteRequest} {flight : Flight} {q : Quote} {total : Money}
  {response : QuoteResponse}

/-- The receipt of a quote for a fare that is a number. -/
theorem Priced.shows_iff (hp : Priced c request flight q.priceBreakdown total)
    (hfare : IsFinite flight.baseFare.amount) (h : serializeQuote q = .ok response) {r : Receipt} :
    response.Shows r ↔ r = {
      fare := hp.terms.fare
      demand := hp.terms.demand
      time := hp.terms.time
      day := hp.terms.day
      surcharges := hp.terms.surcharges
      taxes := roundTo (-2) hp.terms.taxes28
      fees := roundTo (-2) hp.terms.fees
      total := priorDigit hp.terms.sum28 } := by
  have hnum := hp.numeric hfare
  obtain ⟨taxes, htaxes, h⟩ := bind_eq_ok h
  obtain ⟨fees, hfees, h⟩ := bind_eq_ok h
  obtain ⟨total', htotal, h⟩ := bind_eq_ok h
  obtain rfl : total = total' := Except.ok.inj (hp.total.symm.trans htotal)
  obtain rfl := Except.ok.inj h
  have htaxes' := money_of_denotes (hp.taxes_denotes hfare) htaxes
  have hfees' := money_of_denotes hnum.fees hfees
  have htotal' := hp.total_value hfare
  constructor
  · intro hs
    obtain ⟨fare, demand, time, day, surcharges, rtaxes, rfees, rtotal⟩ := r
    have h₁ := (reads_str_iff.mp hs.fare).toRat_eq
    have h₂ := (reads_str_iff.mp hs.demand).toRat_eq
    have h₃ := (reads_str_iff.mp hs.time).toRat_eq
    have h₄ := (reads_str_iff.mp hs.day).toRat_eq
    have h₅ := (forall₂_reads_iff hnum.lines).mp hs.surcharges
    have h₆ := (reads_str_iff.mp hs.taxes).toRat_eq
    have h₇ := (reads_str_iff.mp hs.fees).toRat_eq
    have h₈ := (reads_str_iff.mp hs.total).toRat_eq
    rw [htaxes'.toRat_eq] at h₆
    rw [hfees'.toRat_eq] at h₇
    rw [htotal'.toRat_eq] at h₈
    subst h₁ h₂ h₃ h₄ h₅ h₆ h₇ h₈
    rfl
  · rintro rfl
    exact {
      fare := reads_str_iff.mpr hnum.fare
      demand := reads_str_iff.mpr hnum.demand
      time := reads_str_iff.mpr hnum.time
      day := reads_str_iff.mpr hnum.day
      surcharges := (forall₂_reads_iff hnum.lines).mpr rfl
      taxes := reads_str_iff.mpr htaxes'
      fees := reads_str_iff.mpr hfees'
      total := reads_str_iff.mpr htotal' }

theorem Priced.onPaper_iff (hp : Priced c request flight q.priceBreakdown total)
    (hfare : IsFinite flight.baseFare.amount) (h : serializeQuote q = .ok response) :
    response.OnPaper ↔
      |priorDigit hp.terms.sum28 - hp.terms.receiptSum| ≤ 1 / 100 := by
  unfold QuoteResponse.OnPaper
  simp only [hp.shows_iff hfare h]
  rw [exists_eq_left]
  rfl

/-- A fare that is not a number cannot be added up. -/
theorem Priced.fare_isFinite (hp : Priced c request flight q.priceBreakdown total)
    (h : serializeQuote q = .ok response) (hpaper : response.OnPaper) :
    IsFinite flight.baseFare.amount := by
  obtain ⟨taxes, htaxes, h⟩ := bind_eq_ok h
  obtain ⟨fees, hfees, h⟩ := bind_eq_ok h
  obtain ⟨total', htotal, h⟩ := bind_eq_ok h
  obtain rfl := Except.ok.inj h
  obtain ⟨r, hshows, -⟩ := hpaper
  rw [← hp.fare]
  exact (reads_str_iff.mp hshows.fare).isFinite

end Quotes

/-! ## Digits -/

/-- A number with one fractional digit is a tenth or more from the whole ones. -/
theorem tenth_le_abs_roundTo_sub {x : ℚ} (h1 : OnGrid (-1) x) (h0 : ¬ OnGrid 0 x) :
    1 / 10 ≤ |roundTo 0 x - x| := by
  obtain ⟨m, hm⟩ := h1
  have hx : x = m / 10 := by
    rw [hm]
    norm_num
    ring
  obtain ⟨k, hk⟩ := roundTo_onGrid 0 x
  rw [zpow_zero, mul_one] at hk
  have hne : 10 * k - m ≠ 0 := by
    intro he
    refine h0 ⟨k, ?_⟩
    have : (m : ℚ) = 10 * k := by exact_mod_cast (sub_eq_zero.mp he).symm
    rw [hx, this]
    norm_num
  have hone : (1 : ℚ) ≤ |((10 * k - m : ℤ) : ℚ)| := by exact_mod_cast Int.one_le_abs hne
  have hscale : roundTo 0 x - x = ((10 * k - m : ℤ) : ℚ) / 10 := by
    rw [hk, hx]
    push_cast
    ring
  rw [hscale, abs_div, abs_of_pos (by norm_num : (0 : ℚ) < 10)]
  exact div_le_div_of_nonneg_right hone (by norm_num)

/-- Where two fractional digits are rounded to: `j` hundredths on, five at most. -/
theorem roundTo_tenths {n : ℤ} (h1 : ¬ OnGrid (-1) (n / 100 : ℚ)) :
    ∃ j : ℤ, roundTo (-1) (n / 100 : ℚ) = (n / 100 : ℚ) + j / 100 ∧
      (n + j) % 10 = 0 ∧ j ≠ 0 ∧ -5 ≤ j ∧ j ≤ 5 := by
  obtain ⟨k, hk⟩ := roundTo_onGrid (-1) (n / 100 : ℚ)
  have hround := abs_sub_roundTo_le (-1) (n / 100 : ℚ)
  have hk' : roundTo (-1) (n / 100 : ℚ) = k / 10 := by
    rw [hk]
    norm_num
    ring
  rw [hk', show (10 : ℚ) ^ (-1 : ℤ) / 2 = 1 / 20 by norm_num] at hround
  obtain ⟨hl, hr⟩ := abs_le.mp hround
  refine ⟨10 * k - n, ?_, by omega, ?_, ?_, ?_⟩
  · rw [hk']
    push_cast
    ring
  · intro he
    refine h1 ⟨k, ?_⟩
    have : (n : ℚ) = 10 * k := by exact_mod_cast (sub_eq_zero.mp he).symm
    rw [this]
    norm_num
    ring
  · have : (-5 : ℚ) ≤ 10 * k - n := by linarith
    exact_mod_cast this
  · have : (10 * k - n : ℚ) ≤ 5 := by linarith
    exact_mod_cast this

/-- A cent above, or below, a whole number of tenths: on either side of zero. -/
theorem cents_eq_tenths_add_iff {n r : ℤ} :
    (∃ k : ℤ, (n / 100 : ℚ) = k / 10 + r / 100) ↔ (n - r) % 10 = 0 := by
  constructor
  · rintro ⟨k, hk⟩
    have hq : (n : ℚ) = 10 * k + r := by linarith
    have : n = 10 * k + r := by exact_mod_cast hq
    omega
  · intro h
    refine ⟨(n - r) / 10, ?_⟩
    have hn : n = 10 * ((n - r) / 10) + r := by omega
    have hq : (n : ℚ) = 10 * ((n - r) / 10 : ℤ) + r := by exact_mod_cast hn
    rw [hq]
    ring

/-- Two fractional digits against a sum off by half a cent at most. -/
theorem tenths_within_cent_iff {n : ℤ} {d : ℚ} (h1 : ¬ OnGrid (-1) (n / 100 : ℚ))
    (hlow : -(1 / 200) ≤ d) (hhigh : d ≤ 1 / 200) :
    |roundTo (-1) (n / 100 : ℚ) - (n / 100 - d)| ≤ 1 / 100 ↔
      ((n - 1) % 10 = 0 ∧ 0 ≤ d) ∨ ((n - -1) % 10 = 0 ∧ d ≤ 0) := by
  obtain ⟨j, hj, hdigit, hne, hmin, hmax⟩ := roundTo_tenths h1
  rw [hj, show (n / 100 + j / 100 - (n / 100 - d) : ℚ) = j / 100 + d by ring, abs_le]
  rcases (show j ≤ -2 ∨ j = -1 ∨ j = 1 ∨ 2 ≤ j by omega) with hj | rfl | rfl | hj
  · -- two hundredths or more too low
    have hjq : (j : ℚ) ≤ -2 := by exact_mod_cast hj
    constructor
    · intro h
      linarith [h.1]
    · rintro (⟨hn, -⟩ | ⟨hn, -⟩) <;> omega
  · constructor
    · intro h
      exact .inl ⟨by omega, by push_cast at h; linarith [h.1]⟩
    · rintro (⟨-, h⟩ | ⟨hn, -⟩)
      · push_cast
        constructor <;> linarith
      · omega
  · constructor
    · intro h
      exact .inr ⟨by omega, by push_cast at h; linarith [h.2]⟩
    · rintro (⟨hn, -⟩ | ⟨-, h⟩)
      · omega
      · push_cast
        constructor <;> linarith
  · have hjq : (2 : ℚ) ≤ j := by exact_mod_cast hj
    constructor
    · intro h
      linarith [h.2]
    · rintro (⟨hn, -⟩ | ⟨hn, -⟩) <;> omega

/-- The rule against a sum off by half a cent at most. One fractional digit is
rounded away too far; two are unless they are a cent from a whole number of tenths and
the sum is off to its side; none, and three or more, are close enough. -/
theorem priorDigit_within_cent_iff {x d : ℚ} (hd : |d| ≤ 1 / 200) :
    |priorDigit x - (x - d)| ≤ 1 / 100 ↔
      OnGrid 0 x ∨ ¬ OnGrid (-2) x ∨ (0 ≤ d ∧ ∃ k : ℤ, x = k / 10 + (1 : ℤ) / 100) ∨
        (d ≤ 0 ∧ ∃ k : ℤ, x = k / 10 + (-1 : ℤ) / 100) := by
  obtain ⟨hlow, hhigh⟩ := abs_le.mp hd
  by_cases h0 : OnGrid 0 x
  · have hrule : priorDigit x = x := if_pos h0
    rw [hrule, sub_sub_cancel]
    exact iff_of_true (hd.trans (by norm_num)) (.inl h0)
  by_cases h2 : OnGrid (-2) x
  swap
  · have h1 : ¬ OnGrid (-1) x := fun h => h2 (h.mono (by norm_num))
    have hrule : priorDigit x = roundTo (-2) x := by
      unfold priorDigit
      rw [if_neg h0, if_neg h1, if_neg h2]
    have hround := abs_sub_roundTo_le (-2) x
    rw [show (10 : ℚ) ^ (-2 : ℤ) / 2 = 1 / 200 by norm_num] at hround
    obtain ⟨hl, hr⟩ := abs_le.mp hround
    refine iff_of_true ?_ (.inr (.inl h2))
    rw [hrule, abs_le]
    constructor <;> linarith
  obtain ⟨n, hn⟩ := h2
  have hx : x = n / 100 := by
    rw [hn]
    norm_num
    ring
  by_cases h1 : OnGrid (-1) x
  · have hrule : priorDigit x = roundTo 0 x := by
      unfold priorDigit
      rw [if_neg h0, if_pos h1]
    have hfar := tenth_le_abs_roundTo_sub h1 h0
    refine iff_of_false ?_ ?_
    · rw [hrule]
      intro hclose
      have hsplit : roundTo 0 x - x = (roundTo 0 x - (x - d)) - d := by ring
      rw [hsplit] at hfar
      have := (abs_sub (roundTo 0 x - (x - d)) d)
      linarith
    · -- a whole number of tenths is not a cent from one
      have hdigit : n % 10 = 0 := by
        obtain ⟨k, hk⟩ := h1
        rw [hx] at hk
        norm_num at hk
        have hq : (n : ℚ) = 10 * k := by linarith
        have : n = 10 * k := by exact_mod_cast hq
        omega
      rw [hx, cents_eq_tenths_add_iff, cents_eq_tenths_add_iff]
      rintro (h | h | ⟨-, h⟩ | ⟨-, h⟩)
      · exact h0 (hx ▸ h)
      · exact h (hx ▸ ⟨n, hn⟩)
      · omega
      · omega
  · have hrule : priorDigit x = roundTo (-1) x := by
      unfold priorDigit
      rw [if_neg h0, if_neg h1, if_pos ⟨n, hn⟩]
    subst hx
    rw [hrule, tenths_within_cent_iff h1 hlow hhigh, cents_eq_tenths_add_iff,
      cents_eq_tenths_add_iff, and_comm, and_comm (a := d ≤ 0)]
    constructor
    · exact fun h => .inr (.inr h)
    · rintro (h | h | h)
      · exact absurd h h0
      · exact absurd ⟨n, hn⟩ h
      · exact h

/-! ## Where 28 digits hold the sum -/

/-- Taxes and sum come out as on paper. -/
structure PriceTerms.Exact (p : PriceTerms) : Prop where
  taxes : p.taxes28 = p.taxes
  sum : p.sum28 = p.sum

/-- The sum is whole, or it has three fractional digits or more, or it is a cent above
or below a whole number of tenths and the taxes are not shown on the other side. -/
def PriceTerms.AddsUp (p : PriceTerms) : Prop :=
  OnGrid 0 p.sum ∨ ¬ OnGrid (-2) p.sum ∨
    (roundTo (-2) p.taxes ≤ p.taxes ∧ ∃ k : ℤ, p.sum = k / 10 + 1 / 100) ∨
    (p.taxes ≤ roundTo (-2) p.taxes ∧ ∃ k : ℤ, p.sum = k / 10 - 1 / 100)

/-- All of the sum but the taxes is shown exactly. -/
theorem PriceTerms.Exact.within_cent_iff {p : PriceTerms} (he : p.Exact) (hfees : p.fees = 0) :
    |priorDigit p.sum28 - p.receiptSum| ≤ 1 / 100 ↔ p.AddsUp := by
  have hround := abs_sub_roundTo_le (-2) p.taxes
  rw [show (10 : ℚ) ^ (-2 : ℤ) / 2 = 1 / 200 by norm_num] at hround
  have hreceipt : p.receiptSum = p.sum - (p.taxes - roundTo (-2) p.taxes) := by
    unfold PriceTerms.receiptSum
    rw [he.taxes, hfees, roundTo_eq_self (OnGrid.zero (-2))]
    unfold PriceTerms.sum PriceTerms.taxes PriceTerms.taxable
    rw [hfees]
    ring
  rw [he.sum, hreceipt, priorDigit_within_cent_iff hround]
  have hbelow : ∀ k : ℤ, (k / 10 - 1 / 100 : ℚ) = k / 10 + (-1 : ℤ) / 100 := by
    intro k
    push_cast
    ring
  unfold PriceTerms.AddsUp
  simp only [sub_nonneg, sub_nonpos, hbelow, Int.cast_one]

theorem PriceTerms.Moderate.exact {p : PriceTerms} (hm : p.Moderate) (h : p.Tabled) : p.Exact :=
  ⟨hm.taxes28_eq h, hm.sum28_eq h⟩

/-- A quote can be shown if its taxes can be brought to two decimals. -/
theorem Priced.serializes_of_taxes {c : Container} {request : QuoteRequest} {flight : Flight}
    {q : Quote} {total : Money} (hp : Priced c request flight q.priceBreakdown total)
    (htaxes : ∃ taxes, q.priceBreakdown.taxes.amount.quantize moneyQuant = .ok taxes) :
    ∃ response, serializeQuote q = .ok response := by
  obtain ⟨taxes, htaxes⟩ := htaxes
  have hmoney : Money.of q.priceBreakdown.taxes.amount q.priceBreakdown.taxes.currency =
      .ok ⟨taxes, q.priceBreakdown.taxes.currency⟩ := by
    unfold Money.of
    rw [htaxes]
    rfl
  unfold serializeQuote
  dsimp only
  rw [hmoney, hp.fees, hp.total]
  exact ⟨_, rfl⟩

/-- Such a quote can be shown. -/
theorem Priced.serializes {c : Container} {request : QuoteRequest} {flight : Flight} {q : Quote}
    {total : Money} (hp : Priced c request flight q.priceBreakdown total)
    (hfare : IsFinite flight.baseFare.amount) (hm : hp.terms.Moderate) (ht : hp.terms.Tabled) :
    ∃ response, serializeQuote q = .ok response := by
  have hsmall : |hp.terms.taxes28| < 10 ^ (prec - 1 + -2 : Int) := by
    have := abs_mul_le ht.abs_rate (hm.abs_taxable ht)
    rw [hm.taxes28_eq ht]
    unfold PriceTerms.taxes
    refine this.trans_lt ?_
    norm_num [prec]
  exact hp.serializes_of_taxes ((hp.taxes_denotes hfare).quantize_ok (q := moneyQuant) rfl hsmall)

/-- **When a quote adds up on paper.** The fare is a number, and where 28 digits hold
taxes and sum, as they do for every fare below 10^16, it is a matter of the last
fractional digits of the sum. -/
theorem adds_up_on_paper_iff {c : Container} {env : Collaborators} {request : QuoteRequest}
    {q : Quote} (h : ((quote env request).run c).1 = .ok q) {flight : Flight}
    (hf : c.flightRepo.get request.flightId = some flight) {v : Decimal}
    (hmoney : Money.of v = .ok flight.baseFare) :
    let p := termsOf c flight request.seatIds
    (∀ response, serializeQuote q = .ok response →
      (response.OnPaper → IsFinite flight.baseFare.amount) ∧
        (IsFinite flight.baseFare.amount → p.Exact → (response.OnPaper ↔ p.AddsUp))) ∧
    (IsFinite flight.baseFare.amount → |flight.baseFare.amount.toRat| < 10 ^ 16 →
      request.seatIds.length ≤ 10 ^ 12 →
      p.Exact ∧ ∃ response, serializeQuote q = .ok response) := by
  intro p
  obtain ⟨found, total, hp⟩ := quote_priced h
  obtain rfl : flight = found := Option.some.inj (hf.symm.trans hp.found)
  refine ⟨?_, ?_⟩
  · intro response hresponse
    refine ⟨hp.fare_isFinite hresponse, fun hfare hexact => ?_⟩
    rw [hp.onPaper_iff hfare hresponse, hp.terms_eq]
    have hfees : p.fees = 0 := (congrArg PriceTerms.fees hp.terms_eq).symm.trans
      hp.toCosted.rows.fees
    exact hexact.within_cent_iff hfees
  · intro hfare hsmall hseats
    have hgrid : OnGrid (-2) flight.baseFare.amount.toRat :=
      Money.IsFare.onGrid ⟨⟨v, hmoney⟩, hfare⟩
    have htabled := hp.tabled hgrid
    have hmod := hp.moderate hsmall hseats
    have hexact := hmod.exact htabled
    rw [hp.terms_eq] at hexact
    exact ⟨hexact, hp.serializes hfare hmod htabled⟩

/-- 399.99: the sum 348.291… is rounded to cents, and the lines add up to 348.29. -/
theorem adds_up_on_paper_iff_cents :
    ∃ q response, ((quote .wired noSeats).run (seededContainer [centsFlight 39999])).1 = .ok q ∧
      serializeQuote q = .ok response ∧ response.total = "348.29" ∧
      (response.OnPaper ↔
        (termsOf (seededContainer [centsFlight 39999]) (centsFlight 39999) []).AddsUp) := by
  have hquote :
      ((quote .wired noSeats).run (seededContainer [centsFlight 39999])).1 = .ok _ := rfl
  have hmoney : Money.of (.finite false 39999 (-2)) = .ok (centsFlight 39999).baseFare := rfl
  have hfare : IsFinite (centsFlight 39999).baseFare.amount := denotes_finite ..
  have hsmall : |(centsFlight 39999).baseFare.amount.toRat| < 10 ^ 16 := by
    show |finiteValue false 39999 (-2)| < 10 ^ 16
    norm_num [finiteValue]
  obtain ⟨hpaper, hexact⟩ := adds_up_on_paper_iff hquote rfl hmoney
  obtain ⟨hexact, response, hresponse⟩ := hexact hfare hsmall (by decide)
  have hiff := (hpaper response hresponse).2 hfare hexact
  have htotal := congrArg (Except.map QuoteResponse.total) hresponse
  exact ⟨_, response, hquote, hresponse, (Except.ok.inj htotal).symm, hiff⟩

/-- The lines of a receipt without seats, five weeks ahead on a Monday, in cents. -/
theorem onPaper_noSeats {response : QuoteResponse} (fare taxes total : ℕ)
    (hfare : response.baseFare = (Decimal.finite false fare (-2)).str)
    (hdemand : response.demandMultiplier = (Pricing.hundredths 100).str)
    (htime : response.timeMultiplier = (Pricing.hundredths 90).str)
    (hday : response.dayMultiplier = (Pricing.hundredths 90).str)
    (hlines : response.seatSurcharges = [])
    (htaxes : response.taxes = (Decimal.finite false taxes (-2)).str)
    (hfees : response.fees = (Decimal.finite false 0 (-2)).str)
    (htotal : response.total = (Decimal.finite false total (-2)).str)
    (hpaper : response.OnPaper) :
    |(total : ℚ) / 100 - (fare / 100 * (81 / 100) + taxes / 100)| ≤ 1 / 100 := by
  obtain ⟨r, hs, hclose⟩ := hpaper
  have h₁ := (reads_str_iff.mp (hfare ▸ hs.fare)).toRat_eq
  have h₂ := (reads_str_iff.mp (hdemand ▸ hs.demand)).toRat_eq
  have h₃ := (reads_str_iff.mp (htime ▸ hs.time)).toRat_eq
  have h₄ := (reads_str_iff.mp (hday ▸ hs.day)).toRat_eq
  have h₅ : r.surcharges = [] := List.forall₂_nil_left_iff.mp (hlines ▸ hs.surcharges)
  have h₆ := (reads_str_iff.mp (htaxes ▸ hs.taxes)).toRat_eq
  have h₇ := (reads_str_iff.mp (hfees ▸ hs.fees)).toRat_eq
  have h₈ := (reads_str_iff.mp (htotal ▸ hs.total)).toRat_eq
  have hcents : ∀ n : ℕ, (Decimal.finite false n (-2)).toRat = n / 100 := by
    intro n
    norm_num [toRat, finiteValue, div_eq_mul_inv]
  unfold Receipt.sum at hclose
  rw [← h₁, ← h₂, ← h₃, ← h₄, h₅, ← h₆, ← h₇, ← h₈] at hclose
  simp only [Pricing.hundredths, hcents, List.sum_nil] at hclose
  norm_num at hclose
  convert hclose using 2
  ring

/-- 400.00: the lines 400.00 * 0.90 * 0.90 and 24.30 add up to 348.30, the total is
348.00, a sum of one fractional digit rounded to units. With 25 digits before the point
the context drops digits of the taxes and of the sum, and a sum of three fractional digits
is off by more than a cent. -/
theorem receipt_is_thirty_cents_off :
    (∃ q response, ((quote .wired noSeats).run (seededContainer [centsFlight 40000])).1 = .ok q ∧
      serializeQuote q = .ok response ∧ response.baseFare = "400.00" ∧ response.taxes = "24.30" ∧
      response.total = "348.00" ∧ ¬ response.OnPaper) ∧
    ∃ q response, ((quote .wired noSeats).run
        (seededContainer [centsFlight 922616495802359906378132979])).1 = .ok q ∧
      serializeQuote q = .ok response ∧
      response.total = "8033683137199048884787592.92" ∧ ¬ response.OnPaper := by
  constructor
  · refine ⟨_, _, rfl, rfl, by decide, by decide, by decide, fun hpaper => ?_⟩
    have := onPaper_noSeats 40000 2430 34800 rfl rfl rfl rfl rfl rfl rfl rfl hpaper
    norm_num at this
  · refine ⟨_, _, rfl, rfl, by decide, fun hpaper => ?_⟩
    have := onPaper_noSeats 922616495802359906378132979 56048952119993364312471578
      803368313719904888478759292 rfl rfl rfl rfl rfl rfl rfl rfl hpaper
    norm_num at this

end FlightBooking
