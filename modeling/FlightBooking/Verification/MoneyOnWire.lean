import FlightBooking.Verification.PaperReceipt
import FlightBooking.Verification.QuoteOutcome

/-!
# MoneyOnWire — the amounts of a response as text

Every amount that a response shows has been brought to two decimals, whatever its
size: the fare by `Money.of`, surcharges and fees in the tables, the taxes on the way
out, the total by its last rounding. Two decimals are never printed with an exponent,
and what is printed is read back as it was.
-/

namespace FlightBooking

open Py Decimal Rounding QuoteService

/-! ## The text of an amount -/

/-- An optional minus sign, digits, a point and two digits. -/
def MoneyText (s : String) : Prop :=
  ∃ sign int : List Char, ∃ tenth cent : Char, (sign = [] ∨ sign = ['-']) ∧ int ≠ [] ∧
    Digits int ∧ Digits [tenth, cent] ∧ s.toList = sign ++ int ++ ['.', tenth, cent]

theorem moneyText_str (s : Bool) (c : Nat) : MoneyText (str (.finite s c (-2))) := by
  obtain ⟨int, frac, htext, hint, hne, hfrac, hlen⟩ :=
    strFinite_fixed c (e := -2) (by decide) (by decide)
  obtain ⟨tenth, cent, rfl⟩ := List.length_eq_two.mp (show frac.length = 2 by omega)
  refine ⟨if s then ['-'] else [], int, tenth, cent, ?_, hne, hint, hfrac, ?_⟩
  · cases s
    · exact .inl rfl
    · exact .inr rfl
  · rw [toList_str_finite, htext, List.append_assoc]

/-- The text shows the amount: it has the form, it is read as the amount, and the amount
that is read is printed as the text. -/
structure ShowsAmount (s : String) (amount : Decimal) : Prop where
  text : MoneyText s
  read : Decimal.parse s = .ok amount
  reprint : ∀ d, Decimal.parse s = .ok d → d.str = s

/-- An amount at two decimals is shown by its text. -/
theorem showsAmount_str {amount : Decimal} (h : ∃ s c, amount = .finite s c (-2)) :
    ShowsAmount amount.str amount := by
  obtain ⟨s, c, rfl⟩ := h
  refine ⟨moneyText_str s c, parse_str _, fun d hd => ?_⟩
  rw [parse_str] at hd
  rw [Except.ok.inj hd]

/-! ## The taxes fit if the total does -/

/-- Below 28 digits before the point an operation is off by half a dollar at most. -/
theorem abs_sub_rnd_le {x : ℚ} (h : |x| < 10 ^ 28) : |x - rnd x| ≤ 1 / 2 := by
  have hsize : |x| < 10 ^ (28 : ℤ) := by exact_mod_cast h
  have := abs_sub_roundSig_le (p := prec) hsize
  norm_num [prec] at this
  exact this

theorem abs_sub_rnd_trans {x y a b : ℚ} (hy : |y - x| ≤ a) (hx : |x| ≤ b)
    (hroom : a + b < 10 ^ 28) : |rnd y - x| ≤ a + 1 / 2 := by
  have hsize : |y| < 10 ^ 28 := by
    have := abs_add_le' hy hx
    rw [sub_add_cancel] at this
    exact this.trans_lt hroom
  have hround := abs_sub_rnd_le hsize
  rw [abs_sub_comm] at hround
  have := abs_sub_le (rnd y) y x
  linarith

/-- A running sum is off by half a dollar a term. -/
theorem abs_addAll_sub_le {x bound : ℚ} {terms : List ℚ} (hterms : ∀ a ∈ terms, |a| ≤ 500)
    (hx : |x| ≤ bound) (hroom : bound + 501 * terms.length < 10 ^ 28) :
    |PriceTerms.addAll x terms - (x + terms.sum)| ≤ (terms.length : ℚ) / 2 := by
  induction terms generalizing x bound with
  | nil => simp [PriceTerms.addAll]
  | cons a terms ih =>
      have ha := hterms a (by simp)
      rw [List.length_cons, Nat.cast_succ] at hroom ⊢
      have hlen : (0 : ℚ) ≤ terms.length := Nat.cast_nonneg _
      have hsum : |x + a| ≤ bound + 500 := abs_add_le' hx ha
      have hround := abs_sub_rnd_le (x := x + a) (by linarith)
      have hnext : |rnd (x + a)| ≤ bound + 501 := by
        have := abs_sub_abs_le_abs_sub (rnd (x + a)) (x + a)
        rw [abs_sub_comm] at this
        linarith
      have hrest := ih (fun b hb => hterms b (by simp [hb])) hnext (by linarith)
      have hfold : PriceTerms.addAll x (a :: terms) = PriceTerms.addAll (rnd (x + a)) terms := rfl
      rw [hfold, List.sum_cons]
      rw [abs_le] at hrest hround ⊢
      constructor <;> linarith [hrest.1, hrest.2, hround.1, hround.2]

namespace PriceTerms

variable {p : PriceTerms}

/-- A fare that `Money.of` can build, and no more seats than there are dollars in it. -/
structure Bounded (p : PriceTerms) : Prop where
  fare : |p.fare| < 10 ^ 26
  seats : p.surcharges.length ≤ 10 ^ 20

theorem Bounded.abs_product (hb : p.Bounded) (h : p.Tabled) : |p.product| ≤ 65 * 10 ^ 25 := by
  have := abs_mul_le (abs_mul_le (abs_mul_le hb.fare.le h.abs_demand) h.abs_time) h.abs_day
  refine this.trans ?_
  norm_num

/-- Both orders of the factors come close to the product. -/
theorem Bounded.product28_close (hb : p.Bounded) (h : p.Tabled) :
    |p.product28 - p.product| ≤ 1 / 2 := by
  have hprod : p.fare * (p.demand * p.time * p.day) = p.product := by
    unfold product
    ring
  have habs := hb.abs_product h
  unfold product28
  rw [h.multiplier_exact, hprod, abs_sub_comm]
  exact abs_sub_rnd_le (habs.trans_lt (by norm_num))

theorem Bounded.factors_close (hb : p.Bounded) (h : p.Tabled) :
    |rnd (rnd (rnd (p.fare * p.demand) * p.time) * p.day) - p.product| ≤ 3 := by
  have hfd := abs_mul_le hb.fare.le h.abs_demand
  have hfdt := abs_mul_le hfd h.abs_time
  have h1 : |rnd (p.fare * p.demand) - p.fare * p.demand| ≤ 1 / 2 := by
    rw [abs_sub_comm]
    exact abs_sub_rnd_le (hfd.trans_lt (by norm_num))
  have h2 : |rnd (rnd (p.fare * p.demand) * p.time) - p.fare * p.demand * p.time| ≤
      1 / 2 * 2 + 1 / 2 := by
    refine abs_sub_rnd_trans ?_ hfdt (by norm_num)
    rw [← sub_mul]
    exact abs_mul_le h1 h.abs_time
  have h3 : |rnd (rnd (rnd (p.fare * p.demand) * p.time) * p.day) - p.product| ≤
      (1 / 2 * 2 + 1 / 2) * (13 / 10) + 1 / 2 := by
    refine abs_sub_rnd_trans ?_ (hb.abs_product h) (by norm_num)
    unfold product
    rw [← sub_mul]
    exact abs_mul_le h2 h.abs_day
  exact h3.trans (by norm_num)

theorem Bounded.length_le (hb : p.Bounded) : (p.surcharges.length : ℚ) ≤ 10 ^ 20 := by
  exact_mod_cast hb.seats

/-- A running sum from close to the product stays close to what is taxed. -/
theorem Bounded.addAll_close (hb : p.Bounded) (h : p.Tabled) {x : ℚ} (hx : |x - p.product| ≤ 3) :
    |addAll x p.surcharges - p.taxable| ≤ 10 ^ 20 := by
  have hlen := hb.length_le
  have habs := hb.abs_product h
  have hterms : ∀ a ∈ p.surcharges, |a| ≤ 500 := fun a ha => (h.abs_surcharge a ha).2
  have hbound : |x| ≤ 65 * 10 ^ 25 + 3 := by
    have := abs_sub_abs_le_abs_sub x p.product
    linarith
  have hsum := abs_addAll_sub_le hterms hbound (by norm_num; linarith)
  have hvia := abs_sub_le (addAll x p.surcharges) (x + p.surcharges.sum) p.taxable
  have hstart : x + p.surcharges.sum - p.taxable = x - p.product := by
    unfold taxable
    ring
  rw [hstart] at hvia
  linarith

theorem Bounded.abs_taxable (hb : p.Bounded) (h : p.Tabled) : |p.taxable| ≤ 66 * 10 ^ 25 := by
  have hsum := abs_sum_le (m := 500) fun a ha => (h.abs_surcharge a ha).2
  have hlen := hb.length_le
  refine (abs_add_le' (hb.abs_product h) hsum).trans ?_
  norm_num
  linarith

/-- The taxes are the smaller part of a total that fits. -/
theorem Bounded.taxes_fit (hb : p.Bounded) (h : p.Tabled)
    (hfits : |priorDigit p.sum28| < 10 ^ 26) : |roundTo (-2) p.taxes28| < 10 ^ 26 := by
  have hrate := h.abs_rate
  have hX := hb.abs_taxable h
  have hT : |p.taxable28 - p.taxable| ≤ 10 ^ 20 := hb.addAll_close h (hb.factors_close h)
  have hP : |addAll p.product28 p.surcharges - p.taxable| ≤ 10 ^ 20 :=
    hb.addAll_close h ((hb.product28_close h).trans (by norm_num))
  -- the taxes, from what is taxed
  have ht : |p.taxes28 - p.taxable * p.rate| ≤ 10 ^ 20 * (3 / 25) + 1 / 2 := by
    refine abs_sub_rnd_trans ?_ (abs_mul_le hX hrate) (by norm_num)
    rw [← sub_mul]
    exact abs_mul_le hT hrate
  -- the sum, from what is taxed
  have hS : |p.sum28 - p.taxable * (1 + p.rate)| ≤ 10 ^ 20 * 2 := by
    have hsum28 : p.sum28 = rnd (addAll p.product28 p.surcharges + p.taxes28) := by
      unfold sum28
      rw [h.fees, add_zero]
      exact roundSig_idem (by decide) _
    have hparts : addAll p.product28 p.surcharges + p.taxes28 - p.taxable * (1 + p.rate) =
        (addAll p.product28 p.surcharges - p.taxable) + (p.taxes28 - p.taxable * p.rate) := by
      ring
    have hfactor : |1 + p.rate| ≤ 28 / 25 :=
      (abs_add_le' (le_of_eq abs_one) hrate).trans (by norm_num)
    have hclose := abs_add_le' hP ht
    rw [← hparts] at hclose
    rw [hsum28]
    have := abs_sub_rnd_trans hclose (abs_mul_le hX hfactor) (by norm_num)
    linarith
  have hround : |p.sum28 - priorDigit p.sum28| ≤ 1 / 2 := by
    rw [priorDigit_eq]
    refine (abs_sub_roundTo_le _ _).trans ?_
    have hstep : (10 : ℚ) ^ ruleExp p.sum28 ≤ 10 ^ (0 : ℤ) :=
      zpow_le_zpow_right₀ (by norm_num) (ruleExp_bounds _).2
    rw [zpow_zero] at hstep
    linarith
  -- so what is taxed is not much more than the total
  have hsmall : |p.taxable * (1 + p.rate)| ≤ 10 ^ 26 + 10 ^ 20 * 3 := by
    have h1 := abs_sub_abs_le_abs_sub (p.taxable * (1 + p.rate)) p.sum28
    have h2 := abs_sub_abs_le_abs_sub p.sum28 (priorDigit p.sum28)
    rw [abs_sub_comm] at h1
    linarith
  have hle : |p.taxable| ≤ |p.taxable * (1 + p.rate)| := by
    rw [abs_mul]
    refine le_mul_of_one_le_right (abs_nonneg _) ?_
    rw [abs_of_nonneg] <;> linarith [h.rate.2.1]
  have htaxes : |p.taxable * p.rate| ≤ (10 ^ 26 + 10 ^ 20 * 3) * (3 / 25) :=
    abs_mul_le (hle.trans hsmall) hrate
  have hcents : |p.taxes28 - roundTo (-2) p.taxes28| ≤ 1 / 200 :=
    (abs_sub_roundTo_le (-2) p.taxes28).trans (by norm_num)
  have h1 := abs_sub_abs_le_abs_sub (roundTo (-2) p.taxes28) p.taxes28
  have h2 := abs_sub_abs_le_abs_sub p.taxes28 (p.taxable * p.rate)
  rw [abs_sub_comm] at h1
  linarith

end PriceTerms

/-! ## The amounts of a quote -/

/-- A fare built by `Money.of` that is a number: at two decimals, of at most 26 digits
before the point. -/
theorem money_of_size {v : Decimal} {currency : String} {m : Money}
    (h : Money.of v currency = .ok m) (hfinite : IsFinite m.amount) :
    (∃ s c, m.amount = .finite s c (-2)) ∧ |m.amount.toRat| < 10 ^ 26 := by
  obtain ⟨amount, ha, h⟩ := bind_eq_ok h
  obtain rfl := Except.ok.inj h
  have hq := Exn.lift_eq_ok ha
  cases v with
  | finite s c e =>
      have hv := denotes_finite s c e
      obtain ⟨s', c', rfl, hvalue⟩ := hv.quantize (q := moneyQuant) (e := -2) rfl hq
      have hsize := (hv.quantize_ok_iff (q := moneyQuant) (e := -2) rfl).mp ⟨_, hq⟩
      rw [← hvalue] at hsize
      norm_num [prec] at hsize
      exact ⟨⟨s', c', rfl⟩, hsize⟩
  | infinity s => cases hq
  | nan signaling =>
      obtain ⟨s, c, e, he, -⟩ := hfinite
      cases signaling <;> cases hq
      cases he

/-- The amount brought to two decimals, half-even, and its text. -/
def ShowsCents (s : String) (amount : Decimal) : Prop :=
  ∃ cents, amount.quantize moneyQuant = .ok cents ∧
    Denotes cents (roundTo (-2) amount.toRat) ∧ ShowsAmount s cents

theorem showsCents_of_money {amount : Decimal} {currency : String} {m : Money}
    (hamount : IsFinite amount) (h : Money.of amount currency = .ok m) :
    ShowsCents m.amount.str amount := by
  have hdenotes := money_of_denotes hamount h
  obtain ⟨cents, ha, h⟩ := bind_eq_ok h
  obtain rfl := Except.ok.inj h
  obtain ⟨s, c, hc, -⟩ := Denotes.quantize hamount (q := moneyQuant) rfl (Exn.lift_eq_ok ha)
  exact ⟨cents, Exn.lift_eq_ok ha, hdenotes, showsAmount_str ⟨s, c, hc⟩⟩

/-- Every amount of the response is shown: fare, lines and total as they are, taxes and
fees at two decimals. -/
structure QuoteResponse.ShowsMoney (response : QuoteResponse) (b : PriceBreakdown)
    (total : Money) : Prop where
  baseFare : ShowsAmount response.baseFare b.baseFare.amount
  surcharges : List.Forall₂ (fun shown line => ShowsAmount shown.amount line.amount.amount)
    response.seatSurcharges b.seatSurcharges
  taxes : ShowsCents response.taxes b.taxes.amount
  fees : ShowsCents response.fees b.fees.amount
  total : ShowsAmount response.total total.amount

section Quote

variable {c : Container} {request : QuoteRequest} {flight : Flight} {q : Quote} {total : Money}

/-- A total that is a number is one of a fare that is a number. -/
theorem Priced.isFinite_of_total (hp : Priced c request flight q.priceBreakdown total)
    (hnumber : IsFinite total.amount) : IsFinite flight.baseFare.amount := by
  obtain ⟨husd, hnan | ⟨hfinite, -⟩⟩ := hp.toCosted.total_ok_iff.mp ⟨total, hp.total⟩
  · have hraw := hp.toCosted.rawTotal_special (hnan ▸ Special.nan) husd
    have htotal := hp.total
    rw [PriceBreakdown.total_eq, hraw, hnan] at htotal
    cases htotal
    obtain ⟨s, n, e, he, -⟩ := hnumber
    cases he
  · exact hfinite

theorem Priced.bounded (hp : Priced c request flight q.priceBreakdown total)
    (hfare : |flight.baseFare.amount.toRat| < 10 ^ 26)
    (hseats : request.seatIds.length ≤ 10 ^ 20) : hp.terms.Bounded where
  fare := by
    rw [terms, PriceBreakdown.terms, hp.fare]
    exact hfare
  seats := by
    rw [terms, PriceBreakdown.terms, List.length_map, hp.lines]
    exact (seatSurcharges_length_le flight request.seatIds).trans hseats

theorem forall₂_showsAmount {lines : List SeatSurchargeLine}
    (hlines : ∀ line ∈ lines, ∃ s n, line.amount.amount = .finite s n (-2)) :
    List.Forall₂ (fun (shown : SeatSurchargeResponse) line =>
        ShowsAmount shown.amount line.amount.amount)
      (lines.map fun line => { seat := line.seat.value, amount := line.amount.amount.str })
      lines := by
  rw [List.forall₂_map_left_iff, List.forall₂_same]
  exact fun line hline => showsAmount_str (hlines line hline)

theorem Priced.showsMoney (hp : Priced c request flight q.priceBreakdown total)
    (hcents : ∃ s n, flight.baseFare.amount = .finite s n (-2)) {response : QuoteResponse}
    (h : serializeQuote q = .ok response) :
    response.ShowsMoney q.priceBreakdown total := by
  have hfare : IsFinite flight.baseFare.amount := by
    obtain ⟨s, n, hn⟩ := hcents
    exact hn ▸ (denotes_finite s n (-2)).isFinite
  obtain ⟨taxes, htaxes, h⟩ := bind_eq_ok h
  obtain ⟨fees, hfees, h⟩ := bind_eq_ok h
  obtain ⟨total', htotal, h⟩ := bind_eq_ok h
  obtain rfl : total = total' := Except.ok.inj (hp.total.symm.trans htotal)
  obtain rfl := Except.ok.inj h
  have hnumeric := hp.numeric hfare
  obtain ⟨-, s, n, hamount, -⟩ := hp.total_denotes hfare
  exact {
    baseFare := showsAmount_str (hp.fare ▸ hcents)
    surcharges := by
      apply forall₂_showsAmount
      intro line hline
      rw [hp.lines] at hline
      obtain ⟨whole, hwhole, -⟩ := seatSurcharges_whole flight request.seatIds line hline
      exact ⟨_, _, congrArg Money.amount hwhole⟩
    taxes := showsCents_of_money hnumeric.taxes htaxes
    fees := showsCents_of_money hnumeric.fees hfees
    total := showsAmount_str ⟨s, n, hamount⟩ }

/-- **Money on the wire.** A quote for a fare in dollars built by `Money.of`, whose total
is a number: in whatever response it is serialized to, every amount is an optional minus
sign, digits, a point and two digits, is read back as the amount it was printed from,
taxes and fees as rounded half-even to cents, and is printed the same again. And with
at most 10^20 seats it is serialized. -/
theorem money_round_trips_on_wire {env : Collaborators}
    (h : ((quote env request).run c).1 = .ok q)
    (hf : c.flightRepo.get request.flightId = some flight) {v : Decimal}
    (hmoney : Money.of v = .ok flight.baseFare)
    (htotal : q.priceBreakdown.total = .ok total) (hnumber : IsFinite total.amount) :
    (∀ response, serializeQuote q = .ok response →
      response.ShowsMoney q.priceBreakdown total) ∧
    (request.seatIds.length ≤ 10 ^ 20 → ∃ response, serializeQuote q = .ok response) := by
  obtain ⟨found, total', hp⟩ := quote_priced h
  obtain rfl : flight = found := Option.some.inj (hf.symm.trans hp.found)
  obtain rfl : total = total' := Except.ok.inj (htotal.symm.trans hp.total)
  have hfare := hp.isFinite_of_total hnumber
  obtain ⟨hcents, hsize⟩ := money_of_size hmoney hfare
  refine ⟨fun response hresponse => hp.showsMoney hcents hresponse, fun hseats => ?_⟩
  have hgrid : OnGrid (-2) flight.baseFare.amount.toRat := by
    obtain ⟨s, n, hn⟩ := hcents
    exact hn ▸ finiteValue_onGrid s n (-2)
  have hfits : |priorDigit hp.terms.sum28| < 10 ^ 26 := by
    rw [hp.terms_eq]
    rcases (hp.toCosted.total_ok_iff.mp ⟨total, hp.total⟩).2 with hnan | ⟨-, hfits⟩
    · obtain ⟨s, n, hn⟩ := hcents
      rw [hn] at hnan
      cases hnan
    · exact hfits
  have htaxes := (hp.bounded hsize hseats).taxes_fit (hp.tabled hgrid) hfits
  apply hp.serializes_of_taxes
  rw [(hp.taxes_denotes hfare).quantize_ok_iff (q := moneyQuant) (e := -2) rfl]
  refine htaxes.trans_le ?_
  norm_num [prec]

end Quote

/-- 399.99 for no seats: "399.99", "24.30", "0.00" and "348.29". -/
theorem money_round_trips_on_wire_cents :
    ∃ q total response,
      ((quote .wired noSeats).run (seededContainer [centsFlight 39999])).1 = .ok q ∧
      serializeQuote q = .ok response ∧ response.taxes = "24.30" ∧ response.total = "348.29" ∧
      response.ShowsMoney q.priceBreakdown total := by
  have hquote :
      ((quote .wired noSeats).run (seededContainer [centsFlight 39999])).1 = .ok _ := rfl
  have hmoney : Money.of (.finite false 39999 (-2)) = .ok (centsFlight 39999).baseFare := rfl
  have hnumber : IsFinite (Money.mk (.finite false 34829 (-2)) "USD").amount := denotes_finite ..
  have hwire := money_round_trips_on_wire hquote rfl hmoney rfl hnumber
  exact ⟨_, _, _, hquote, rfl, by decide, by decide, hwire.1 _ rfl⟩

end FlightBooking
