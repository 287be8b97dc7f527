import Mathlib.Data.String.Basic
import FlightBooking.Verification.SeatMapAgreement

/-!
# SeatOrder — the seat map is in row and column order

A seat id is a row number and a column. The scan of the sort key takes the two
apart again, so the seats of a cabin come out by row as a number and then by
column; and since no two seats of a cabin have the same key, the order in which
they were put into the cabin does not show.
-/

namespace FlightBooking

open Py SeatMapService

/-! ## Rows and columns -/

/-- The id is the row, in digits without a leading zero and no more than `int` reads,
and then the column. -/
structure SeatId.At (id : SeatId) (row : Nat) (column : String) : Prop where
  row_pos : 1 ≤ row
  row_short : (Nat.toDigits 10 row).length ≤ intMaxStrDigits
  column_ne : column ≠ ""
  column_ascii : ∀ ch ∈ column.toList, ch.toNat < 128
  column_head : ∀ ch, column.toList.head? = some ch → ch.isDigit = false
  value : id.value = toString row ++ column

/-- The scan finds the row and the column that the id is made of. -/
theorem rowColumn_at {id : SeatId} {row : Nat} {column : String} (h : id.At row column) :
    rowColumn id = .ok (row, column) := by
  have htext : id.value.toList = Nat.toDigits 10 row ++ column.toList := by
    rw [h.value, String.toList_append, Nat.toString_eq_ofList_toDigits, String.toList_ofList]
  have hdigits : ∀ ch ∈ Nat.toDigits 10 row, ch.isDigit = true :=
    fun ch hch => Nat.isDigit_of_mem_toDigits (by decide) (by decide) hch
  have hscan : (Nat.toDigits 10 row ++ column.toList).takeWhile isDigit = Nat.toDigits 10 row :=
    takeWhile_isDigit_append hdigits h.column_ascii h.column_head
  have hrest : (Nat.toDigits 10 row ++ column.toList).drop (Nat.toDigits 10 row).length =
      column.toList := List.drop_left
  simp only [rowColumn, htext, hscan, hrest, if_neg Nat.toDigits_ne_nil,
    intOfDigits_toDigits h.row_short, String.ofList_toList]
  rfl

theorem SeatId.At.unique {id : SeatId} {row row' : Nat} {column column' : String}
    (h : id.At row column) (h' : id.At row' column') : row = row' ∧ column = column' := by
  have heq := (rowColumn_at h).symm.trans (rowColumn_at h')
  exact Prod.mk.inj (Except.ok.inj heq)

theorem SeatId.At.inj {id id' : SeatId} {row : Nat} {column : String} (h : id.At row column)
    (h' : id'.At row column) : id = id' := by
  have hvalue : id.value = id'.value := h.value.trans h'.value.symm
  cases id
  cases id'
  exact congrArg SeatId.mk hvalue

/-- The one is in an earlier row, or before the other in the same row. -/
def SeatId.Before (a b : SeatId) : Prop :=
  ∃ row column row' column', a.At row column ∧ b.At row' column' ∧
    (row < row' ∨ row = row' ∧ column < column')

/-! ## The sort -/

instance : Std.Total RowColumnLe := ⟨fun a b => by
  unfold RowColumnLe
  rcases lt_trichotomy a.1 b.1 with hlt | heq | hgt
  · exact .inl (.inl hlt)
  · exact (le_total a.2 b.2).imp (fun h => .inr ⟨heq, h⟩) (fun h => .inr ⟨heq.symm, h⟩)
  · exact .inr (.inl hgt)⟩

instance : IsTrans (Nat × String) RowColumnLe := ⟨fun a b c hab hbc => by
  unfold RowColumnLe at *
  rcases hab with hab | ⟨hab, hcol⟩
  · rcases hbc with hbc | ⟨hbc, -⟩
    · exact .inl (hab.trans hbc)
    · exact .inl (hbc ▸ hab)
  · rcases hbc with hbc | ⟨hbc, hcol'⟩
    · exact .inl (hab ▸ hbc)
    · exact .inr ⟨hab.trans hbc, hcol.trans hcol'⟩⟩

/-- Two keys in the wrong order both ways are one. -/
theorem rowColumn_eq_of_ties {a b : Nat × String} (hab : RowColumnLe a b)
    (hba : RowColumnLe b a) : a = b := by
  unfold RowColumnLe at *
  rcases hab with hab | ⟨hrow, hab⟩
  · rcases hba with hba | ⟨hrow, -⟩ <;> omega
  · rcases hba with hba | ⟨-, hba⟩
    · omega
    · exact Prod.ext hrow (le_antisymm hab hba)

/-! ## Cabins -/

/-- Every key of the cabin is a row and a column. -/
def Cabin.Numbered (cabin : Cabin) : Prop :=
  ∀ seatId ∈ cabin.seats.keys, ∃ row column, seatId.At row column

namespace Cabin

variable {cabin cabin' : Cabin}

theorem Keyed.map_id (h : cabin.Keyed) : cabin.seats.values.map Seat.id = cabin.seats.keys :=
  Dict.map_key_values h

theorem Numbered.at_of_mem (h : cabin.Numbered) (hkeyed : cabin.Keyed) {seat : Seat}
    (hseat : seat ∈ cabin.seats.values) : ∃ row column, seat.id.At row column := by
  refine h seat.id ?_
  rw [← hkeyed.map_id]
  exact List.mem_map_of_mem hseat

/-- The ids of a numbered cabin can be put in order. -/
theorem Numbered.readable (h : cabin.Numbered) (hkeyed : cabin.Keyed) : cabin.Readable := by
  intro seat hseat
  obtain ⟨row, column, hat⟩ := h.at_of_mem hkeyed hseat
  exact rowColumn_ok_iff.mp ⟨_, rowColumn_at hat⟩

/-- In a cabin of numbered seats no two have one key. -/
theorem Numbered.eq_of_ties (h : cabin.Numbered) (hkeyed : cabin.Keyed) {a b : Seat}
    (ha : a ∈ cabin.seats.values) (hb : b ∈ cabin.seats.values) {k k' : Nat × String}
    (hka : rowColumn a.id = .ok k) (hkb : rowColumn b.id = .ok k') (hab : RowColumnLe k k')
    (hba : RowColumnLe k' k) : a = b := by
  obtain ⟨row, column, hat⟩ := h.at_of_mem hkeyed ha
  obtain ⟨row', column', hat'⟩ := h.at_of_mem hkeyed hb
  have hkey := rowColumn_eq_of_ties hab hba
  rw [rowColumn_at hat] at hka
  rw [rowColumn_at hat'] at hkb
  obtain rfl := Except.ok.inj hka
  obtain rfl := Except.ok.inj hkb
  obtain ⟨rfl, rfl⟩ := Prod.mk.inj hkey
  have hid : a.id = b.id := hat.inj hat'
  obtain ⟨k, hk⟩ := Dict.mem_values_iff.mp ha
  obtain ⟨k', hk'⟩ := Dict.mem_values_iff.mp hb
  obtain rfl : k = k' := (hkeyed k a hk).symm.trans (hid.trans (hkeyed k' b hk'))
  exact Option.some.inj (hk.symm.trans hk')

end Cabin

/-- The seats of a numbered cabin come out strictly by row and column. -/
theorem orderedSeats_before {flight : Flight} (hkeyed : flight.cabin.Keyed)
    (hnum : flight.cabin.Numbered) {seats : List Seat} (hseats : orderedSeats flight = .ok seats) :
    seats.Pairwise fun a b => a.id.Before b.id := by
  have hids : (seats.map Seat.id).Nodup := by
    refine ((orderedSeats_perm hseats).map Seat.id).nodup_iff.mpr ?_
    rw [hkeyed.map_id]
    exact flight.cabin.seats.nodupKeys
  have hboth := (StableSort.sortedByKey_pairwise hseats).and (List.pairwise_map.mp hids)
  refine hboth.imp_of_mem ?_
  rintro a b ha hb ⟨⟨k, k', hka, hkb, hle⟩, hne⟩
  have hmem : ∀ seat ∈ seats, ∃ row column, seat.id.At row column :=
    fun seat hseat => hnum.at_of_mem hkeyed ((orderedSeats_perm hseats).subset hseat)
  obtain ⟨row, column, hat⟩ := hmem a ha
  obtain ⟨row', column', hat'⟩ := hmem b hb
  refine ⟨row, column, row', column', hat, hat', ?_⟩
  rw [rowColumn_at hat] at hka
  rw [rowColumn_at hat'] at hkb
  obtain rfl := Except.ok.inj hka
  obtain rfl := Except.ok.inj hkb
  rcases hle with hrow | ⟨rfl, hcol⟩
  · exact .inl hrow
  · refine .inr ⟨rfl, lt_of_le_of_ne hcol ?_⟩
    rintro rfl
    exact hne (hat.inj hat')

/-- The same seats in another order of insertion are shown in the same order. -/
theorem orderedSeats_eq {flight flight' : Flight} (hkeyed : flight.cabin.Keyed)
    (hnum : flight.cabin.Numbered)
    (hsame : ∀ k, flight'.cabin.seats.get? k = flight.cabin.seats.get? k) {seats : List Seat}
    (hseats : orderedSeats flight = .ok seats) : orderedSeats flight' = .ok seats := by
  have hvalues : flight.cabin.seats.values.Perm flight'.cabin.seats.values :=
    Dict.values_perm_of_get?_eq fun k => (hsame k).symm
  refine StableSort.sortedByKey_eq_of_perm hvalues ?_ hseats
  intro a ha b hb k k' hka hkb hab hba
  exact hnum.eq_of_ties hkeyed ha hb hka hkb hab hba

/-! ## The view -/

/-- What an entry says of the seat itself. -/
def SeatMapEntry.seat (e : SeatMapEntry) : SeatId × SeatClass × SeatKind :=
  (e.seatId, e.seatClass, e.kind)

/-- The view is the ordered seats, each with its own id, class and kind. -/
theorem view_seats {c : Container} {flightId : FlightId} {flight : Flight}
    (hf : c.flightRepo.get flightId = some flight) {seats : List Seat}
    (hseats : orderedSeats flight = .ok seats) (sessionId : Option SessionId) :
    ∃ entries, view c flightId sessionId = .ok (some entries) ∧
      entries.map SeatMapEntry.seat =
        seats.map fun seat => (seat.id, seat.seatClass, seat.kind) := by
  rw [view_eq hf, hseats]
  refine ⟨_, rfl, ?_⟩
  rw [List.map_map]
  rfl

/-- **The seat map is in true row and column order.** Of a cabin keyed by its seats'
own ids, each of them a row number without leading zeros and a column, the view has
exactly one entry for each seat, in strictly increasing order of row number and column
text; a cabin with the same seats, put in in whatever order, gives the same sequence
of seats, in any state and to any requester. -/
theorem seat_map_in_row_order {c : Container} {flightId : FlightId} {flight : Flight}
    (hf : c.flightRepo.get flightId = some flight) (hkeyed : flight.cabin.Keyed)
    (hnum : flight.cabin.Numbered) (sessionId : Option SessionId) :
    ∃ entries, view c flightId sessionId = .ok (some entries) ∧
      (entries.map SeatMapEntry.seatId).Perm flight.cabin.seats.keys ∧
      (∀ e ∈ entries, ∃ seat, flight.cabin.seats.get? e.seatId = some seat ∧
        e.seatClass = seat.seatClass ∧ e.kind = seat.kind) ∧
      (entries.map SeatMapEntry.seatId).Pairwise SeatId.Before ∧
      ∀ c' flightId' flight' sessionId', c'.flightRepo.get flightId' = some flight' →
        (∀ k, flight'.cabin.seats.get? k = flight.cabin.seats.get? k) →
        ∃ entries', view c' flightId' sessionId' = .ok (some entries') ∧
          entries'.map SeatMapEntry.seat = entries.map SeatMapEntry.seat := by
  obtain ⟨seats, hseats⟩ := orderedSeats_ok_iff.mpr (hnum.readable hkeyed)
  obtain ⟨entries, hview, hentries⟩ := view_seats hf hseats sessionId
  have hids : entries.map SeatMapEntry.seatId = seats.map Seat.id := by
    have h := congrArg (List.map Prod.fst) hentries
    rwa [List.map_map, List.map_map] at h
  refine ⟨entries, hview, ?_, ?_, ?_, ?_⟩
  · rw [hids, ← hkeyed.map_id]
    exact (orderedSeats_perm hseats).map Seat.id
  · intro e he
    have hmem : e.seat ∈ entries.map SeatMapEntry.seat := List.mem_map_of_mem he
    rw [hentries] at hmem
    obtain ⟨seat, hseat, heq⟩ := List.mem_map.mp hmem
    simp only [SeatMapEntry.seat, Prod.mk.injEq] at heq
    obtain ⟨hid, hclass, hkind⟩ := heq
    obtain ⟨k, hk⟩ := Dict.mem_values_iff.mp ((orderedSeats_perm hseats).subset hseat)
    obtain rfl := hkeyed k seat hk
    exact ⟨seat, hid ▸ hk, hclass.symm, hkind.symm⟩
  · rw [hids]
    exact List.pairwise_map.mpr (orderedSeats_before hkeyed hnum hseats)
  · intro c' flightId' flight' sessionId' hf' hsame
    obtain ⟨entries', hview', hentries'⟩ :=
      view_seats hf' (orderedSeats_eq hkeyed hnum hsame hseats) sessionId'
    exact ⟨entries', hview', by rw [hentries', hentries]⟩

/-- Seats 10A and 2A, put in in this order or the other, are shown as 2A and 10A. -/
theorem seat_map_in_row_order_two_seats :
    let flight := seededFlight "FL-LAX-NYC-0800" ["10A", "2A"]
    let other := seededFlight "FL-LAX-NYC-0800" ["2A", "10A"]
    ∃ entries, view (seededContainer [flight]) flight.id none = .ok (some entries) ∧
      (entries.map SeatMapEntry.seatId).Pairwise SeatId.Before ∧
      ∃ entries', view (seededContainer [other]) other.id none = .ok (some entries') ∧
        entries'.map SeatMapEntry.seat = entries.map SeatMapEntry.seat := by
  intro flight other
  have hnum : flight.cabin.Numbered := by
    intro seatId hseat
    have hkeys : flight.cabin.seats.keys = [⟨"10A"⟩, ⟨"2A"⟩] := by decide
    rw [hkeys] at hseat
    rcases List.mem_pair.mp hseat with rfl | rfl
    · exact ⟨10, "A", by decide, by decide, by decide, by simp, by simp, by decide⟩
    · exact ⟨2, "A", by decide, by decide, by decide, by simp, by simp, by decide⟩
  have hf : (seededContainer [flight]).flightRepo.get flight.id = some flight := by decide
  obtain ⟨entries, hview, -, -, hsorted, hsame⟩ :=
    seat_map_in_row_order hf (by decide) hnum none
  refine ⟨entries, hview, hsorted, hsame (seededContainer [other]) other.id other none
    (by decide) ?_⟩
  have hperm : other.cabin.seats.entries.Perm flight.cabin.seats.entries := by decide
  intro k
  exact Dict.get?_eq_of_entries_perm hperm k

end FlightBooking
