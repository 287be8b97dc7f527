import FlightBooking.Support.AuditReplay
import FlightBooking.Verification.PriceSpec

/-!
# ReplayAgreement — pricing an event again

What a quote event pins comes back from its text unchanged, and the price is a
function of that, of the surcharge amounts and of the route. The event has no
fields for the latter two: put back, they give the recorded total.
-/

namespace FlightBooking

open Py Decimal Rounding QuoteService AuditReplay

/-! ## Reading an event -/

theorem quantize_quantized {d r : Decimal} (h : d.quantize moneyQuant = .ok r) :
    r.quantize moneyQuant = .ok r := by
  cases d with
  | infinity s => cases h
  | nan s =>
      cases s with
      | true => cases h
      | false =>
          cases h
          rfl
  | finite s c e =>
      simp only [moneyQuant, Decimal.quantize] at h
      split at h
      · cases h
        rfl
      split at h
      · cases h
      split at h
      · cases h
      next hdigits =>
        cases h
        have hself : rescale (rescale c e (-2)) (-2) (-2) = rescale c e (-2) := by
          simp [rescale]
        simp only [moneyQuant, Decimal.quantize]
        by_cases hzero : rescale c e (-2) = 0
        · rw [if_pos hzero, hzero]
        · rw [if_neg hzero, if_neg (by omega), hself, if_neg hdigits]

/-- Cents are not rounded again. -/
theorem money_of_amount {v : Decimal} {m : Money} (h : Money.of v = .ok m) :
    Money.of m.amount = .ok m := by
  obtain ⟨amount, ha, h⟩ := bind_eq_ok h
  obtain rfl := Except.ok.inj h
  unfold Money.of
  rw [quantize_quantized (Exn.lift_eq_ok ha)]
  rfl

theorem dayOfWeek_name (dow : DayOfWeek) : dayOfWeek dow.name = .ok dow := by
  cases dow <;> rfl

theorem name_injective : Function.Injective DayOfWeek.name := by
  intro dow dow' h
  have := congrArg dayOfWeek h
  rw [dayOfWeek_name, dayOfWeek_name] at this
  exact Except.ok.inj this

theorem str_injective : Function.Injective Decimal.str := by
  intro d d' h
  have := congrArg Decimal.parse h
  rw [parse_str, parse_str] at this
  exact Except.ok.inj this

/-- Four fields of an event are read. -/
theorem recordedInputs_congr {e e' : QuoteCreated} (hfare : e.baseFare = e'.baseFare)
    (hocc : e.occupancyPct = e'.occupancyPct)
    (hdays : e.daysBeforeDeparture = e'.daysBeforeDeparture)
    (hdow : e.departureDow = e'.departureDow) : recordedInputs e = recordedInputs e' := by
  unfold recordedInputs
  rw [hfare, hocc, hdays, hdow]

/-! ## What decides a price -/

/-- A fold over lines that looks at their amounts only. -/
theorem foldlM_amounts {β : Type} {f : β → Money → Except Exn β}
    {lines lines' : List SeatSurchargeLine}
    (h : lines.map SeatSurchargeLine.amount = lines'.map SeatSurchargeLine.amount) (x : β) :
    lines.foldlM (fun acc line => f acc line.amount) x =
      lines'.foldlM (fun acc line => f acc line.amount) x := by
  have hmap : ∀ ls : List SeatSurchargeLine,
      ls.foldlM (fun acc line => f acc line.amount) x =
        (ls.map SeatSurchargeLine.amount).foldlM f x := fun ls => by rw [List.foldlM_map]
  rw [hmap, hmap, h]

/-- The taxes depend on the fare, the route and the amounts of the lines. -/
theorem computeTaxes_congr {flight flight' : Flight} {occ : Decimal} {days : Int}
    {dow : DayOfWeek} {lines lines' : List SeatSurchargeLine}
    (hfare : flight.baseFare = flight'.baseFare) (hroute : flight.routeKind = flight'.routeKind)
    (hlines : lines.map SeatSurchargeLine.amount = lines'.map SeatSurchargeLine.amount) :
    computeTaxes flight occ days dow lines = computeTaxes flight' occ days dow lines' := by
  unfold computeTaxes
  rw [hfare, hroute]
  have hfold := foldlM_amounts
    (f := fun (taxable : Decimal) (m : Money) => Exn.lift (taxable.add m.amount)) hlines
  simp only [hfold]

/-- The total depends on the amounts. -/
theorem total_congr {b b' : PriceBreakdown} (hfare : b.baseFare = b'.baseFare)
    (hdemand : b.demandMultiplier = b'.demandMultiplier)
    (htime : b.timeMultiplier = b'.timeMultiplier) (hday : b.dayMultiplier = b'.dayMultiplier)
    (hlines : b.seatSurcharges.map SeatSurchargeLine.amount =
      b'.seatSurcharges.map SeatSurchargeLine.amount)
    (htaxes : b.taxes = b'.taxes) (hfees : b.fees = b'.fees) : b.total = b'.total := by
  unfold PriceBreakdown.total
  rw [hfare, hdemand, htime, hday, htaxes, hfees]
  have hfold := foldlM_amounts (f := addMoney "surcharge" b'.baseFare.currency) hlines
  simp only [hfold]

/-- A breakdown with a total is in the currency of its fees. -/
theorem currency_of_total {b : PriceBreakdown} {total : Money} (h : b.total = .ok total) :
    b.baseFare.currency = b.fees.currency := by
  rw [PriceBreakdown.total_eq] at h
  obtain ⟨raw, hraw, -⟩ := bind_eq_ok h
  unfold PriceBreakdown.rawTotal at hraw
  obtain ⟨demandTime, -, hraw⟩ := bind_eq_ok hraw
  obtain ⟨multiplier, -, hraw⟩ := bind_eq_ok hraw
  obtain ⟨product, -, hraw⟩ := bind_eq_ok hraw
  obtain ⟨surcharged, -, hraw⟩ := bind_eq_ok hraw
  obtain ⟨taxed, -, hraw⟩ := bind_eq_ok hraw
  by_contra hne
  rw [addMoney, if_pos (Ne.symm hne)] at hraw
  cases hraw

section Recorded

variable {c c' : Container} {request request' : QuoteRequest} {flight flight' : Flight}
  {q q' : Quote} {event event' : QuoteCreated} {a a' : Appraisal} {total total' : Money}

theorem Recorded.shape (h : Recorded c request flight q event a total) :
    a.breakdown.baseFare = flight.baseFare ∧
    a.breakdown.seatSurcharges = seatSurcharges flight request.seatIds ∧
    a.breakdown.fees = Money.whole 0 ∧
    Pricing.demandMultiplier a.occupancyPct = .ok a.breakdown.demandMultiplier ∧
    Pricing.timeMultiplier a.daysBefore = .ok a.breakdown.timeMultiplier ∧
    a.breakdown.dayMultiplier = Pricing.dayMultiplier a.departureDow := by
  obtain ⟨demand, hdemand, hb⟩ := bind_eq_ok h.priced
  obtain ⟨time, htime, hb⟩ := bind_eq_ok hb
  rw [← Except.ok.inj hb]
  exact ⟨rfl, rfl, lookupFlatFees_eq flight.id.value, hdemand, htime, rfl⟩

/-- The recorded inputs are the ones the quote was priced with. -/
theorem Recorded.inputs (h : Recorded c request flight q event a total) {v : Decimal}
    (hmoney : Money.of v = .ok flight.baseFare) :
    recordedInputs event = .ok {
      baseFare := flight.baseFare
      occupancyPct := a.occupancyPct
      daysBeforeDeparture := a.daysBefore
      departureDow := a.departureDow } := by
  unfold recordedInputs
  rw [h.departureDow, dayOfWeek_name, h.baseFare, parse_str, h.occupancyPct, parse_str,
    h.daysBefore]
  show (Money.of flight.baseFare.amount >>= _) = _
  rw [money_of_amount hmoney]
  rfl

/-- The same inputs, surcharge amounts and route give the same breakdown, up to the
seats of its lines. -/
theorem Recorded.total_eq (h : Recorded c request flight q event a total)
    (h' : Recorded c' request' flight' q' event' a' total')
    (hfare : event.baseFare = event'.baseFare) (hocc : event.occupancyPct = event'.occupancyPct)
    (hdays : event.daysBeforeDeparture = event'.daysBeforeDeparture)
    (hdow : event.departureDow = event'.departureDow)
    (hlines : (seatSurcharges flight request.seatIds).map SeatSurchargeLine.amount =
      (seatSurcharges flight' request'.seatIds).map SeatSurchargeLine.amount)
    (hroute : flight.routeKind = flight'.routeKind) : event.total = event'.total := by
  obtain ⟨hb, hs, hf, hd, ht, hw⟩ := h.shape
  obtain ⟨hb', hs', hf', hd', ht', hw'⟩ := h'.shape
  rw [h.baseFare, h'.baseFare] at hfare
  rw [h.occupancyPct, h'.occupancyPct] at hocc
  rw [h.daysBefore, h'.daysBefore] at hdays
  rw [h.departureDow, h'.departureDow] at hdow
  have hamount := str_injective hfare
  have hocc := str_injective hocc
  have hdow := name_injective hdow
  -- fees are in dollars, so the fares are
  have hcurrency : flight.baseFare.currency = flight'.baseFare.currency := by
    have hc := currency_of_total h.totalled
    have hc' := currency_of_total h'.totalled
    rw [hb, hf] at hc
    rw [hb', hf'] at hc'
    exact hc.trans hc'.symm
  have hbase : flight.baseFare = flight'.baseFare := by
    cases hm : flight.baseFare
    cases hm' : flight'.baseFare
    simp_all
  have htaxes : a.breakdown.taxes = a'.breakdown.taxes := by
    have htaxed := h.taxed
    rw [computeTaxes_congr hbase hroute hlines, hocc, hdays, hdow] at htaxed
    exact Except.ok.inj (htaxed.symm.trans h'.taxed)
  have hdemand : a.breakdown.demandMultiplier = a'.breakdown.demandMultiplier := by
    rw [hocc] at hd
    exact Except.ok.inj (hd.symm.trans hd')
  have htime : a.breakdown.timeMultiplier = a'.breakdown.timeMultiplier := by
    rw [hdays] at ht
    exact Except.ok.inj (ht.symm.trans ht')
  have htotals := total_congr (hb.trans (hbase.trans hb'.symm)) hdemand htime
    (hw.trans (hdow ▸ hw'.symm)) (by rw [hs, hs', hlines]) htaxes (hf.trans hf'.symm)
  rw [h.totalled, h'.totalled] at htotals
  rw [h.total, h'.total, Except.ok.inj htotals]

end Recorded

/-- The breakdown without its lines, which is what `replay_quote` sees of it. -/
def PriceBreakdown.bare (b : PriceBreakdown) : PriceBreakdown :=
  { b with seatSurcharges := [], taxes := Money.whole 0, fees := Money.whole 0 }

/-- **What the log reproduces.** The recorded inputs, priced again with the lines of
the quote, give its breakdown and the recorded total; `replay_quote` gives the
breakdown without the lines. Events that agree on the inputs, of quotes that
agree on surcharge amounts and route, record the same total. -/
theorem replay_reproduces_total (c : Container) :
    (∀ (env : Collaborators) (request : QuoteRequest) (q : Quote) (flight : Flight) (v : Decimal),
      ((quote env request).run c).1 = .ok q →
      c.flightRepo.get request.flightId = some flight → Money.of v = .ok flight.baseFare →
      ∃ event inputs total, Emits c env request q event ∧ recordedInputs event = .ok inputs ∧
        Pricing.price { inputs with
          surcharges := q.priceBreakdown.seatSurcharges
          taxes := q.priceBreakdown.taxes
          fees := q.priceBreakdown.fees } = .ok q.priceBreakdown ∧
        q.priceBreakdown.total = .ok total ∧ event.total = total.amount.str ∧
        replayQuote event = .ok q.priceBreakdown.bare) ∧
    ∀ (c' : Container) (env env' : Collaborators) (request request' : QuoteRequest)
      (q q' : Quote) (event event' : QuoteCreated) (flight flight' : Flight),
      Emits c env request q event → Emits c' env' request' q' event' →
      c.flightRepo.get request.flightId = some flight →
      c'.flightRepo.get request'.flightId = some flight' →
      event.baseFare = event'.baseFare → event.occupancyPct = event'.occupancyPct →
      event.daysBeforeDeparture = event'.daysBeforeDeparture →
      event.departureDow = event'.departureDow →
      q.priceBreakdown.seatSurcharges.map SeatSurchargeLine.amount =
        q'.priceBreakdown.seatSurcharges.map SeatSurchargeLine.amount →
      flight.routeKind = flight'.routeKind → event.total = event'.total := by
  refine ⟨?_, ?_⟩
  · intro env request q flight v hquote hf hmoney
    obtain ⟨event, hemits⟩ := emits_of_quote hquote
    obtain ⟨found, a, total, h⟩ := hemits.recorded
    obtain rfl : flight = found := Option.some.inj (hf.symm.trans h.found)
    obtain ⟨hb, hs, hfees, hd, ht, hw⟩ := h.shape
    have hpriced := h.priced
    rw [← hs, lookupFlatFees_eq, ← hfees] at hpriced
    refine ⟨event, _, total, hemits, h.inputs hmoney, ?_, h.breakdown ▸ h.totalled, h.total, ?_⟩
    · rw [h.breakdown]
      exact hpriced
    · unfold replayQuote
      rw [h.inputs hmoney]
      show Pricing.price _ = _
      unfold Pricing.price PriceBreakdown.bare
      rw [hd, ht, h.breakdown, hw, hb]
      rfl
  · intro c' env env' request request' q q' event event' flight flight' hemits hemits' hf hf'
      hfare hocc hdays hdow hlines hroute
    obtain ⟨found, a, total, h⟩ := hemits.recorded
    obtain ⟨found', a', total', h'⟩ := hemits'.recorded
    obtain rfl : flight = found := Option.some.inj (hf.symm.trans h.found)
    obtain rfl : flight' = found' := Option.some.inj (hf'.symm.trans h'.found)
    obtain ⟨-, hs, -⟩ := h.shape
    obtain ⟨-, hs', -⟩ := h'.shape
    rw [h.breakdown, hs, h'.breakdown, hs'] at hlines
    exact h.total_eq h' hfare hocc hdays hdow hlines hroute

/-- 299.00 at 37 days on a Monday, on two flights of one route kind: 260.35 each. -/
theorem replay_reproduces_total_260 :
    let c := seededContainer [centsFlight 29900]
    let c' := seededContainer [{ centsFlight 29900 with id := ⟨"FL-LAX-NYC-1900"⟩ }]
    ∃ q event event' inputs total, Emits c .wired noSeats q event ∧
      recordedInputs event = .ok inputs ∧ q.priceBreakdown.total = .ok total ∧
      total.amount.str = "260.35" ∧ event.total = total.amount.str ∧
      replayQuote event = .ok q.priceBreakdown.bare ∧
      (∃ q', Emits c' .wired { noSeats with flightId := ⟨"FL-LAX-NYC-1900"⟩ } q' event') ∧
      event.total = event'.total := by
  intro c c'
  have hquote : ((quote .wired noSeats).run c).1 = .ok _ := rfl
  have hmoney : Money.of (.finite false 29900 (-2)) = .ok (centsFlight 29900).baseFare := rfl
  obtain ⟨event, inputs, total, hemits, hinputs, -, htotal, hrecorded, hreplay⟩ :=
    (replay_reproduces_total c).1 .wired noSeats _ (centsFlight 29900) _ hquote rfl hmoney
  obtain rfl : (⟨.finite false 26035 (-2), "USD"⟩ : Money) = total := Except.ok.inj htotal
  have hother : Emits c' .wired { noSeats with flightId := ⟨"FL-LAX-NYC-1900"⟩ } _ _ := ⟨rfl, rfl⟩
  obtain rfl := AuditEvent.quoteCreated.inj (List.cons.inj hemits.2).1
  exact ⟨_, _, _, inputs, _, hemits, hinputs, htotal, by decide, hrecorded, hreplay, ⟨_, hother⟩,
    (replay_reproduces_total c).2 c' .wired .wired noSeats _ _ _ _ _ _ _ hemits hother rfl rfl rfl
      rfl rfl rfl rfl rfl⟩

/-- The replay of 260.35 gives 242.20, the fare times the multipliers; and an
international flight with the same inputs recorded 271.25. -/
theorem replay_misses_taxes :
    let c := seededContainer [centsFlight 29900]
    let c' := seededContainer [{ centsFlight 29900 with routeKind := .international }]
    ∃ q q' event event' total, Emits c .wired noSeats q event ∧
      Emits c' .wired noSeats q' event' ∧
      (replayQuote event >>= PriceBreakdown.total) = .ok total ∧
      total.amount.str = "242.20" ∧ event.total = "260.35" ∧
      recordedInputs event = recordedInputs event' ∧ event'.total = "271.25" := by
  intro c c'
  have hemits : Emits c .wired noSeats _ _ := ⟨rfl, rfl⟩
  have hemits' : Emits c' .wired noSeats _ _ := ⟨rfl, rfl⟩
  have hmoney : Money.of (.finite false 29900 (-2)) = .ok (centsFlight 29900).baseFare := rfl
  obtain ⟨found, a, total, h⟩ := hemits.recorded
  obtain rfl : centsFlight 29900 = found := Option.some.inj h.found
  have hocc : ofInt 0 = a.occupancyPct := Except.ok.inj h.occupancy
  refine ⟨_, _, _, _, ⟨.finite false 24220 (-2), "USD"⟩, hemits, hemits', ?_, by decide,
    by decide, recordedInputs_congr rfl rfl rfl rfl, by decide⟩
  rw [replayQuote, h.inputs hmoney, ← hocc, h.days, h.dow]
  rfl

end FlightBooking
