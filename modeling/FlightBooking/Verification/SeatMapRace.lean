import FlightBooking.Composition.StoreCalls
import FlightBooking.Verification.SeatMapAgreement

/-!
# SeatMapRace — the seat map while others book

`view` reads the bookings first and then looks at the locks, one seat after the
other; `commit` saves the booking first and then releases the lock. A seat that
is handed over from the one to the other between the two reads is shown free
although it never was. That is the only way in which an entry of the map can be
one that was at no moment true.
-/

namespace FlightBooking

open Py BookingService StoreCall

/-! ## The processes are the services -/

/-- Other threads on the container, numbered. -/
abbrev Threads := Pool StoreCall StoreCall.Result Container Exn Nat

/-- A thread among them, in the middle of its calls. -/
abbrev InMiddle := Interfered StoreCall StoreCall.Result Container Exn Nat

namespace Thread

theorem runs_confirm (env : Collaborators) (request : CommitRequest) (c : Container)
    (total : Money) :
    Proc.Runs handle (confirm env request c.clock (bookedQuoteId c request) total)
      (BookingService.confirm env request c total) := by
  refine .bind (.perform _) ?_
  intro reference
  refine .bind (.perform _) ?_
  intro _
  refine .bind (.perform _) ?_
  intro _
  cases request.lockId with
  | some lockId =>
      refine .bind (.perform _) ?_
      intro _
      exact .bind (.perform _) (fun _ _ => rfl)
  | none => exact .bind (.perform _) (fun _ _ => rfl)

theorem runs_settle (env : Collaborators) (request : CommitRequest) (c : Container)
    (total : Money) :
    Proc.Runs handle (settle env request c.clock (bookedQuoteId c request) total)
      (BookingService.settle env request c total) := by
  refine .bind (.perform _) ?_
  intro paymentResult
  cases paymentResult.succeeded with
  | false => exact .bind (.perform _) (fun _ _ => rfl)
  | true => exact runs_confirm env request c total

/-- An uninterrupted `commit` is the service call. -/
theorem run_commit (env : Collaborators) (request : CommitRequest) (c : Container) :
    ((commit env request).run handle).run c = (BookingService.commit env request).run c := by
  have hflight : ((call (.getFlight request.flightId)).run handle).run c =
      (.ok (c.flightRepo.get request.flightId), c) := rfl
  have hnow : ((call .clockNow).run handle).run c = (.ok c.clock, c) := rfl
  unfold commit
  rw [Proc.run_bind_ok hflight]
  cases hf : c.flightRepo.get request.flightId with
  | none =>
      have href : refusal c request = some (.refuse .flightNotFound
          ("flight " ++ request.flightId.value ++ " not found")) := by simp [refusal, hf]
      rw [commit_refused env href]
      rfl
  | some flight =>
  simp only
  rw [Proc.run_bind_ok hnow, Proc.run_bind_ok (run_resolveQuote _ _)]
  cases hq : (BookingService.resolveQuote c.quoteStore request.quoteId c.clock).error with
  | some quoteError =>
      have href : refusal c request = some quoteError := by simp [refusal, hf, hq]
      rw [commit_refused env href]
      rfl
  | none =>
  simp only
  rw [Proc.run_bind_ok (run_validateSeatIds _ _ _)]
  cases hs : BookingService.validateSeatIds c.bookingRepo flight request.flightId
      request.seatIds with
  | some seatError =>
      have href : refusal c request = some seatError := by
        simp [refusal, hf, hq, validateSeats, hs]
      rw [commit_refused env href]
      rfl
  | none =>
  simp only
  rw [Proc.run_bind_ok (run_validateLock _ _)]
  cases hl : BookingService.validateLock c.seatLockStore request c.clock with
  | some lockError =>
      have href : refusal c request = some lockError := by
        simp [refusal, hf, hq, validateSeats, hs, hl]
      rw [commit_refused env href]
      rfl
  | none =>
  have hpassed : refusal c request = none := by simp [refusal, hf, hq, validateSeats, hs, hl]
  have hsettle := runs_settle env request c
  rw [commit_passed hpassed, amountDue]
  unfold bookedQuoteId at hsettle
  cases hquote : liveQuote c request with
  | none =>
      have hquote' : (BookingService.resolveQuote c.quoteStore request.quoteId c.clock).quote =
          none := hquote
      simp only [hquote] at hsettle
      simp only [hquote', hf]
      exact hsettle flight.baseFare c
  | some quote =>
      have hquote' : (BookingService.resolveQuote c.quoteStore request.quoteId c.clock).quote =
          some quote := hquote
      simp only [hquote] at hsettle
      simp only [hquote']
      cases quote.priceBreakdown.total with
      | error e => rfl
      | ok total => exact hsettle total c

/-- A thread whose result nobody waits for. -/
def background {α : Type} (p : Thread α) : Thread Unit := do
  let _ ← p

/-- Left alone until it is done, a thread does what its statement does. -/
theorem turns_alone {α : Type} {p : Thread α} {m : Stmt α} (hruns : Proc.Runs handle p m)
    {pool : Threads} {i n : Nat} (hproc : pool.proc i = background p)
    (hready : pool.blocked i = false)
    (hdone : ((pool.turns handle (List.replicate n i)).proc i).finished = true) :
    (pool.turns handle (List.replicate n i)).shared = (m.run pool.shared).2 := by
  have halone := Pool.run_turns_alone (h := handle) hready n
  have hend := Proc.run_finished (h := handle) hdone
    (pool.turns handle (List.replicate n i)).shared
  rw [halone, hproc] at hend
  have hbind : Proc.Runs handle (background p) (m >>= fun _ => pure ()) :=
    hruns.bind (fun _ _ => rfl)
  rw [← hend, hbind pool.shared, Eff.run_bind]
  cases m.run pool.shared with
  | mk result c => cases result <;> rfl

theorem commit_turns_alone {env : Collaborators} {request : CommitRequest} {pool : Threads}
    {i n : Nat} (hproc : pool.proc i = background (commit env request))
    (hready : pool.blocked i = false)
    (hdone : ((pool.turns handle (List.replicate n i)).proc i).finished = true) :
    (pool.turns handle (List.replicate n i)).shared =
      ((BookingService.commit env request).run pool.shared).2 :=
  turns_alone (run_commit env request) hproc hready hdone

theorem acquire_turns_alone {flightId : FlightId} {seatIds : List SeatId}
    {sessionId : SessionId} {pool : Threads} {i n : Nat}
    (hproc : pool.proc i = background (acquire flightId seatIds sessionId))
    (hready : pool.blocked i = false)
    (hdone : ((pool.turns handle (List.replicate n i)).proc i).finished = true) :
    (pool.turns handle (List.replicate n i)).shared =
      ((SeatHoldService.acquire flightId seatIds sessionId).run pool.shared).2 :=
  turns_alone (fun _ => run_acquire flightId seatIds sessionId) hproc hready hdone

end Thread

/-! ## What calls leave alone -/

/-- The flights and the clock are as they were. -/
structure Frame (c c' : Container) : Prop where
  flightRepo : c'.flightRepo = c.flightRepo
  clock : c'.clock = c.clock

theorem Frame.trans {c c' c'' : Container} (h : Frame c c') (h' : Frame c' c'') : Frame c c'' :=
  ⟨h'.flightRepo.trans h.flightRepo, h'.clock.trans h.clock⟩

theorem portCall_frame (env : Collaborators) (port : Port) {f : Container → Container}
    (hf : ∀ c, Frame c (f c)) (c : Container) : Frame c ((portCall env port f).run c).2 := by
  cases hfault : env.fault port with
  | none =>
      rw [run_portCall f hfault]
      exact hf c
  | some e =>
      rw [run_portCall_fault f hfault]
      exact ⟨rfl, rfl⟩

/-- No call of a store or a port touches the flights or the clock. -/
theorem handle_frame (f : StoreCall) (c : Container) : Frame c ((handle f).run c).2 := by
  cases f with
  | charge env token amount =>
      cases hans : env.charge token amount with
      | ok result =>
          have hrun : (handle (.charge env token amount)).run c = _ := run_charge hans
          rw [hrun]
          exact ⟨rfl, rfl⟩
      | error e =>
          have hrun : (handle (.charge env token amount)).run c = _ := run_charge_fault hans
          rw [hrun]
          exact ⟨rfl, rfl⟩
  | newBookingReference env =>
      cases hfault : env.fault .newBookingReference with
      | some e =>
          have hrun : (handle (.newBookingReference env)).run c = _ :=
            run_newBookingReference_fault hfault
          rw [hrun]
          exact ⟨rfl, rfl⟩
      | none =>
          cases href : c.ids.bookingRefs with
          | nil =>
              have hrun : (handle (.newBookingReference env)).run c = _ :=
                run_newBookingReference_exhausted hfault href
              rw [hrun]
              exact ⟨rfl, rfl⟩
          | cons ref rest =>
              have hrun : (handle (.newBookingReference env)).run c = _ :=
                run_newBookingReference hfault href
              rw [hrun]
              exact ⟨rfl, rfl⟩
  | saveBooking env booking =>
      refine portCall_frame env _ ?_ c
      exact fun _ => ⟨rfl, rfl⟩
  | queueConfirmation env booking =>
      refine portCall_frame env _ ?_ c
      exact fun _ => ⟨rfl, rfl⟩
  | release env lockId =>
      refine portCall_frame env _ ?_ c
      exact fun _ => ⟨rfl, rfl⟩
  | writeAudit env event =>
      refine portCall_frame env _ ?_ c
      exact fun _ => ⟨rfl, rfl⟩
  | _ => exact ⟨rfl, rfl⟩

theorem handle_keeps_frame (c₀ : Container) (f : StoreCall) (c : Container) (h : Frame c₀ c) :
    Frame c₀ ((handle f).run c).2 := h.trans (handle_frame f c)

/-! ## The view among other threads -/

/-- A live lock of another session, as a look at the lock finds it. -/
def looksLocked (now : DateTime) (sessionId : Option SessionId) (look : SeatId × Container) :
    Bool :=
  match look.2.seatLockStore.findActiveLockForSeat look.1 now with
  | none => false
  | some record => decide (sessionId ≠ some record.sessionId)

/-- The calls of the loop over the seats. -/
def lookCall (now : DateTime) (look : SeatId × Container) : StoreCall × Container :=
  (.findActiveLockForSeat look.1 now, look.2)

/-- The loop finds for each seat what is there at the look at it. -/
theorem run_lockedAgainst_interfered {c₀ : Container} (now : DateTime)
    (sessionId : Option SessionId) (seatIds : List SeatId) (x : InMiddle)
    (hx : x.Keeps (Frame c₀)) :
    ∃ (looks : List (SeatId × Container)) (x' : InMiddle), looks.map Prod.fst = seatIds ∧
      ((Thread.lockedAgainst now sessionId seatIds).run (interfere handle)).run x =
        (.ok ((looks.filter (looksLocked now sessionId)).map Prod.fst), x') ∧
      x'.Keeps (Frame c₀) ∧ x'.calls = x.calls ++ looks.map (lookCall now) := by
  induction seatIds generalizing x with
  | nil => exact ⟨[], x, rfl, rfl, hx, by simp⟩
  | cons seatId rest ih =>
      have hafter := hx.after (handle_keeps_frame c₀) (.findActiveLockForSeat seatId now)
      obtain ⟨looks, x', hseats, hrest, hx', hcalls⟩ := ih _ hafter
      have hlook : ((Thread.call (.findActiveLockForSeat seatId now)).run (interfere handle)).run x
          = (.ok ((x.seen handle).seatLockStore.findActiveLockForSeat seatId now),
            x.after handle (.findActiveLockForSeat seatId now)) := rfl
      refine ⟨(seatId, x.seen handle) :: looks, x', by simp [hseats], ?_, hx', ?_⟩
      · unfold Thread.lockedAgainst
        rw [Proc.run_bind_ok hlook, Proc.run_bind_ok hrest, List.filter_cons, looksLocked]
        cases (x.seen handle).seatLockStore.findActiveLockForSeat seatId now with
        | none => simp
        | some record => by_cases hs : sessionId = some record.sessionId <;> simp [hs]
      · rw [hcalls, Interfered.after, List.append_assoc]
        rfl

/-- The entry of a seat that is shown with `status`. -/
def entryOf (seat : Seat) (status : SeatStatus) : SeatMapEntry where
  seatId := seat.id
  seatClass := seat.seatClass
  kind := seat.kind
  status := status

/-- The status of the seat in a state, as the map of that state shows it. -/
def statusIn (flight : Flight) (flightId : FlightId) (sessionId : Option SessionId)
    (c : Container) (seat : Seat) : SeatStatus :=
  SeatMapService.statusFor seat.status seat.id
    (SeatMapService.occupiedSeatIds c.bookingRepo flightId)
    (SeatMapService.seatsLockedAgainstSession c.seatLockStore c.clock flight.cabin sessionId)

/-- The status of the seat by the bookings of one state and looks at the locks in others. -/
def statusAcross (flightId : FlightId) (sessionId : Option SessionId) (now : DateTime)
    (read : Container) (looks : List (SeatId × Container)) (seat : Seat) : SeatStatus :=
  SeatMapService.statusFor seat.status seat.id
    (SeatMapService.occupiedSeatIds read.bookingRepo flightId)
    ((looks.filter (looksLocked now sessionId)).map Prod.fst)

/-- `view` among the threads of `pool`, with the turns in `gaps` before its calls. -/
def viewAmong (pool : Threads) (gaps : List (List Nat)) (flightId : FlightId)
    (sessionId : Option SessionId) : Except Exn (Option (List SeatMapEntry)) × InMiddle :=
  ((Thread.view flightId sessionId).run (interfere handle)).run { pool, gaps }

/-- While the others do nothing, the map is the map of the state. -/
theorem viewAmong_alone (pool : Threads) (flightId : FlightId) (sessionId : Option SessionId) :
    (viewAmong pool [] flightId sessionId).1 =
      SeatMapService.view pool.shared flightId sessionId := by
  have halone := run_interfere_alone handle (Thread.view flightId sessionId)
    ({ pool, gaps := [] } : InMiddle) rfl
  rw [Thread.run_view] at halone
  exact halone.1

/-- What `view` comes to among others: the status of a seat is composed of the
bookings in one state and of the look at its lock in a later one. -/
structure Viewed (flight : Flight) (flightId : FlightId) (sessionId : Option SessionId)
    (c₀ read : Container) (looks : List (SeatId × Container))
    (out : Except Exn (Option (List SeatMapEntry)) × InMiddle) : Prop where
  result : out.1 = (SeatMapService.orderedSeats flight).map fun seats =>
    some (seats.map fun seat =>
      entryOf seat (statusAcross flightId sessionId c₀.clock read looks seat))
  seats : looks.map Prod.fst = flight.cabin.seats.keys
  keeps : out.2.Keeps (Frame c₀)
  read_iff : ∀ c, (.iterAll, c) ∈ out.2.calls ↔ c = read
  look_iff : ∀ seatId now c, (.findActiveLockForSeat seatId now, c) ∈ out.2.calls ↔
    now = c₀.clock ∧ (seatId, c) ∈ looks

theorem viewAmong_viewed (pool : Threads) (gaps : List (List Nat)) {flightId : FlightId}
    {flight : Flight} (hf : pool.shared.flightRepo.get flightId = some flight)
    (sessionId : Option SessionId) :
    ∃ read looks, Viewed flight flightId sessionId pool.shared read looks
      (viewAmong pool gaps flightId sessionId) := by
  let x₀ : InMiddle := { pool, gaps }
  let x₁ := x₀.after handle (.getFlight flightId)
  let x₂ := x₁.after handle .iterAll
  let x₃ := x₂.after handle .clockNow
  have hkeep := handle_keeps_frame pool.shared
  have h₀ : x₀.Keeps (Frame pool.shared) := ⟨⟨rfl, rfl⟩, by simp [x₀], by simp [x₀]⟩
  have h₁ : x₁.Keeps (Frame pool.shared) := h₀.after hkeep _
  have h₂ : x₂.Keeps (Frame pool.shared) := h₁.after hkeep _
  have h₃ : x₃.Keeps (Frame pool.shared) := h₂.after hkeep _
  -- the four parts of `view`
  have hget : ((Thread.call (.getFlight flightId)).run (interfere handle)).run x₀ =
      (.ok (some flight), x₁) := by
    have hfound : (x₀.seen handle).flightRepo.get flightId = some flight := by
      rw [(h₀.seen hkeep).flightRepo]
      exact hf
    rw [← hfound]
    rfl
  have hocc : ((Thread.occupiedSeatIds flightId).run (interfere handle)).run x₁ =
      (.ok (SeatMapService.occupiedSeatIds (x₁.seen handle).bookingRepo flightId), x₂) := rfl
  have hnow : ((Thread.call .clockNow).run (interfere handle)).run x₂ =
      (.ok pool.shared.clock, x₃) := by
    rw [← (h₂.seen hkeep).clock]
    rfl
  obtain ⟨looks, x', hseats, hlocked, hx', hcalls⟩ :=
    run_lockedAgainst_interfered pool.shared.clock sessionId flight.cabin.seats.keys x₃ h₃
  have hagainst : ((Thread.seatsLockedAgainstSession flight.cabin sessionId).run
      (interfere handle)).run x₂ =
      (.ok ((looks.filter (looksLocked pool.shared.clock sessionId)).map Prod.fst), x') := by
    unfold Thread.seatsLockedAgainstSession
    rw [Proc.run_bind_ok hnow]
    exact hlocked
  have hrun : viewAmong pool gaps flightId sessionId =
      ((SeatMapService.orderedSeats flight).map fun seats => some (seats.map fun seat =>
        entryOf seat (statusAcross flightId sessionId pool.shared.clock (x₁.seen handle) looks
          seat)), x') := by
    unfold viewAmong Thread.view
    rw [Proc.run_bind_ok hget]
    simp only
    rw [Proc.run_bind_ok hocc, Proc.run_bind_ok hagainst]
    cases SeatMapService.orderedSeats flight <;> rfl
  have hcalls' : x'.calls = [(.getFlight flightId, x₀.seen handle),
      (.iterAll, x₁.seen handle), (.clockNow, x₂.seen handle)] ++
      looks.map (lookCall pool.shared.clock) := hcalls
  refine ⟨x₁.seen handle, looks, ?_⟩
  rw [hrun]
  refine ⟨rfl, hseats, hx', ?_, ?_⟩
  · intro c
    rw [hcalls']
    simp [lookCall]
  · intro seatId now c
    rw [hcalls']
    constructor
    · intro h
      -- the first three calls are no looks
      have hlook : (StoreCall.findActiveLockForSeat seatId now, c) ∈
          looks.map (lookCall pool.shared.clock) := by simpa using h
      obtain ⟨look, hmem, he⟩ := List.mem_map.mp hlook
      obtain ⟨hcall, rfl⟩ := Prod.mk.inj he
      obtain ⟨rfl, rfl⟩ := StoreCall.findActiveLockForSeat.inj hcall
      exact ⟨rfl, hmem⟩
    · intro h
      obtain ⟨rfl, hmem⟩ := h
      exact List.mem_append_right _ (List.mem_map.mpr ⟨(seatId, c), hmem, rfl⟩)

/-! ## The handover -/

/-- The seat goes over from a lock to a booking behind the back of the view: the
bookings are read before it is booked, its lock is looked at when it is gone, and
as long as the seat is not booked it is locked against the requester. -/
def HandedOver (calls : List (StoreCall × Container)) (states : List Container)
    (flightId : FlightId) (sessionId : Option SessionId) (seatId : SeatId) : Prop :=
  ∃ read look now, (.iterAll, read) ∈ calls ∧ (.findActiveLockForSeat seatId now, look) ∈ calls ∧
    seatAlreadyBooked read.bookingRepo flightId seatId = false ∧
    seatAlreadyBooked look.bookingRepo flightId seatId = true ∧
    ¬ LockedAgainst look.seatLockStore now seatId sessionId ∧
    ∀ c ∈ states, seatAlreadyBooked c.bookingRepo flightId seatId = false →
      LockedAgainst c.seatLockStore c.clock seatId sessionId

section Entries

variable {flight : Flight} {flightId : FlightId} {sessionId : Option SessionId}
  {c₀ c read : Container} {looks : List (SeatId × Container)}
  {out : Except Exn (Option (List SeatMapEntry)) × InMiddle}

/-- Each seat of the cabin is looked at once. -/
theorem Viewed.look_unique (h : Viewed flight flightId sessionId c₀ read looks out)
    {seatId : SeatId} {look look' : Container} (hm : (seatId, look) ∈ looks)
    (hm' : (seatId, look') ∈ looks) : look = look' := by
  have hnodup : (looks.map Prod.fst).Nodup := h.seats ▸ flight.cabin.seats.nodupKeys
  have he := List.inj_on_of_nodup_map hnodup hm hm' rfl
  exact (Prod.mk.inj he).2

/-- The locked seats, by the look at each. -/
theorem Viewed.mem_against_iff (h : Viewed flight flightId sessionId c₀ read looks out)
    {seatId : SeatId} {look : Container} (hm : (seatId, look) ∈ looks) :
    seatId ∈ (looks.filter (looksLocked c₀.clock sessionId)).map Prod.fst ↔
      LockedAgainst look.seatLockStore c₀.clock seatId sessionId := by
  constructor
  · intro hagainst
    obtain ⟨⟨seatId', look'⟩, hfilter, rfl⟩ := List.mem_map.mp hagainst
    obtain ⟨hmem, hlocked⟩ := List.mem_filter.mp hfilter
    obtain rfl := h.look_unique hm hmem
    exact lockedLook_iff.mp hlocked
  · intro hlocked
    exact List.mem_map.mpr ⟨(seatId, look),
      List.mem_filter.mpr ⟨hm, lockedLook_iff.mpr hlocked⟩, rfl⟩

/-- The map of a state with the flight in it. -/
theorem view_of_frame (hf : c₀.flightRepo.get flightId = some flight) (hc : Frame c₀ c) :
    SeatMapService.view c flightId sessionId =
      (SeatMapService.orderedSeats flight).map fun seats => some (seats.map fun seat =>
        entryOf seat (statusIn flight flightId sessionId c seat)) := by
  have hfound : c.flightRepo.get flightId = some flight := by
    rw [hc.flightRepo]
    exact hf
  exact view_eq hfound sessionId

theorem statusFor_eq_occupied_iff {cabinStatus : SeatStatus} {seatId : SeatId}
    {occupiedIds lockedToOther : List SeatId} :
    SeatMapService.statusFor cabinStatus seatId occupiedIds lockedToOther = .occupied ↔
      cabinStatus ≠ .blocked ∧ (seatId ∈ occupiedIds ∨ seatId ∈ lockedToOther) := by
  unfold SeatMapService.statusFor
  split_ifs <;> simp_all

/-- A seat of the cabin is free in a state if it is neither blocked, booked nor locked. -/
theorem statusIn_eq_available_iff {seat : Seat} (hkey : seat.id ∈ flight.cabin.seats.keys) :
    statusIn flight flightId sessionId c seat = .available ↔
      seat.status ≠ .blocked ∧ seatAlreadyBooked c.bookingRepo flightId seat.id = false ∧
        ¬ LockedAgainst c.seatLockStore c.clock seat.id sessionId := by
  rw [statusIn, statusFor_eq_available_iff, mem_occupiedSeatIds,
    mem_seatsLockedAgainstSession, Bool.not_eq_true]
  simp [hkey]

theorem Viewed.frame_of_call (h : Viewed flight flightId sessionId c₀ read looks out)
    {call : StoreCall × Container} (hcall : call ∈ out.2.calls) : Frame c₀ call.2 :=
  h.keeps.passed _ (h.keeps.calls call hcall)

/-- A seat that is shown as held was held at one of the moments that the view
looks at: when it read the bookings, or when it looked at the lock. -/
theorem Viewed.current_of_held (h : Viewed flight flightId sessionId c₀ read looks out)
    {seat : Seat} (hheld : statusAcross flightId sessionId c₀.clock read looks seat ≠ .available) :
    ∃ call ∈ out.2.calls, statusIn flight flightId sessionId call.2 seat =
      statusAcross flightId sessionId c₀.clock read looks seat := by
  have hread : (StoreCall.iterAll, read) ∈ out.2.calls := (h.read_iff read).mpr rfl
  by_cases hblocked : seat.status = .blocked
  · refine ⟨_, hread, ?_⟩
    simp [statusIn, statusAcross, SeatMapService.statusFor, hblocked]
  by_cases hbooked : seat.id ∈ SeatMapService.occupiedSeatIds read.bookingRepo flightId
  · refine ⟨_, hread, ?_⟩
    simp [statusIn, statusAcross, SeatMapService.statusFor, hblocked, hbooked]
  -- neither blocked nor booked: the look found a lock
  have hagainst : seat.id ∈ (looks.filter (looksLocked c₀.clock sessionId)).map Prod.fst := by
    by_contra hnot
    exact hheld (statusFor_eq_available_iff.mpr ⟨hblocked, hbooked, hnot⟩)
  obtain ⟨⟨seatId, look⟩, hfilter, hid⟩ := List.mem_map.mp hagainst
  obtain rfl : seatId = seat.id := hid
  have hlook := (List.mem_filter.mp hfilter).1
  have hcall : (StoreCall.findActiveLockForSeat seat.id c₀.clock, look) ∈ out.2.calls :=
    (h.look_iff _ _ _).mpr ⟨rfl, hlook⟩
  have hkey : seat.id ∈ flight.cabin.seats.keys := by
    rw [← h.seats]
    exact List.mem_map.mpr ⟨_, hlook, rfl⟩
  have hlocked : seat.id ∈ SeatMapService.seatsLockedAgainstSession look.seatLockStore
      look.clock flight.cabin sessionId := by
    rw [mem_seatsLockedAgainstSession, (h.frame_of_call hcall).clock]
    exact ⟨hkey, (h.mem_against_iff hlook).mp hagainst⟩
  refine ⟨_, hcall, ?_⟩
  have hin : statusIn flight flightId sessionId look seat = .occupied :=
    statusFor_eq_occupied_iff.mpr ⟨hblocked, .inr hlocked⟩
  have hacross : statusAcross flightId sessionId c₀.clock read looks seat = .occupied :=
    statusFor_eq_occupied_iff.mpr ⟨hblocked, .inr hagainst⟩
  exact hin.trans hacross.symm

/-- A seat that is shown free was free at one moment, or it was handed over. -/
theorem Viewed.current_of_free (h : Viewed flight flightId sessionId c₀ read looks out)
    {states : List Container} (hcalls : ∀ call ∈ out.2.calls, call.2 ∈ states) {seat : Seat}
    (hfree : statusAcross flightId sessionId c₀.clock read looks seat = .available)
    (hover : ¬ HandedOver out.2.calls states flightId sessionId seat.id) :
    ∃ c ∈ states, statusIn flight flightId sessionId c seat = .available := by
  obtain ⟨hblocked, hbooked, hagainst⟩ := statusFor_eq_available_iff.mp hfree
  have hread : (StoreCall.iterAll, read) ∈ out.2.calls := (h.read_iff read).mpr rfl
  by_cases hkey : seat.id ∈ flight.cabin.seats.keys
  · by_contra hnever
    apply hover
    -- at no moment free: as long as the seat is not booked it is locked
    have hlocked : ∀ c ∈ states, seatAlreadyBooked c.bookingRepo flightId seat.id = false →
        LockedAgainst c.seatLockStore c.clock seat.id sessionId := by
      intro c hc hnot
      by_contra hunlocked
      exact hnever ⟨c, hc, (statusIn_eq_available_iff hkey).mpr ⟨hblocked, hnot, hunlocked⟩⟩
    rw [← h.seats] at hkey
    obtain ⟨⟨seatId, look⟩, hlook, hid⟩ := List.mem_map.mp hkey
    obtain rfl : seatId = seat.id := hid
    have hcall : (StoreCall.findActiveLockForSeat seat.id c₀.clock, look) ∈ out.2.calls :=
      (h.look_iff _ _ _).mpr ⟨rfl, hlook⟩
    have hgone : ¬ LockedAgainst look.seatLockStore c₀.clock seat.id sessionId :=
      fun hl => hagainst ((h.mem_against_iff hlook).mpr hl)
    rw [mem_occupiedSeatIds, Bool.not_eq_true] at hbooked
    refine ⟨read, look, c₀.clock, hread, hcall, hbooked, ?_, hgone, hlocked⟩
    by_contra hnot
    apply hgone
    rw [← (h.frame_of_call hcall).clock]
    exact hlocked look (hcalls _ hcall) (Bool.not_eq_true _ ▸ hnot)
  · -- an id that is no key of the cabin is never locked
    refine ⟨read, hcalls _ hread, ?_⟩
    refine statusFor_eq_available_iff.mpr ⟨hblocked, hbooked, ?_⟩
    intro hlocked
    exact hkey (mem_seatsLockedAgainstSession.mp hlocked).1

/-- A seat handed over is shown free, and was at no moment free. -/
theorem Viewed.phantom (h : Viewed flight flightId sessionId c₀ read looks out)
    {states : List Container} {seat : Seat} (hblocked : seat.status ≠ .blocked)
    (hover : HandedOver out.2.calls states flightId sessionId seat.id) :
    statusAcross flightId sessionId c₀.clock read looks seat = .available ∧
      ∀ c ∈ states, ∀ seat' : Seat, seat'.id = seat.id →
        statusIn flight flightId sessionId c seat' ≠ .available := by
  obtain ⟨read', look, now, hread, hcall, hbooked, -, hgone, hlocked⟩ := hover
  obtain rfl := (h.read_iff read').mp hread
  obtain ⟨rfl, hlook⟩ := (h.look_iff _ _ _).mp hcall
  have hkey : seat.id ∈ flight.cabin.seats.keys := by
    rw [← h.seats]
    exact List.mem_map.mpr ⟨_, hlook, rfl⟩
  refine ⟨statusFor_eq_available_iff.mpr ⟨hblocked, ?_, ?_⟩, ?_⟩
  · rw [mem_occupiedSeatIds, hbooked]
    exact Bool.false_ne_true
  · exact fun hm => hgone ((h.mem_against_iff hlook).mp hm)
  · intro c hc seat' hid hfree
    rw [statusIn_eq_available_iff (hid ▸ hkey), hid] at hfree
    exact hfree.2.2 (hlocked c hc hfree.2.1)

end Entries

/-- **The concurrent seat map.** Among any other threads, whatever turns they take
between the calls of `view` and after the last of them: every entry of the map is
that of the map of some state passed during the call, if and only if no seat of the
cabin that is not blocked was handed over. Where the ids cannot be put in order there
is no map, in no state. -/
theorem concurrent_view_current_iff (pool : Threads) (gaps : List (List Nat)) (last : List Nat)
    {flightId : FlightId} {flight : Flight}
    (hf : pool.shared.flightRepo.get flightId = some flight) (sessionId : Option SessionId) :
    let out := viewAmong pool gaps flightId sessionId
    let states := out.2.passed ++ out.2.pool.states handle last
    (∀ seats, SeatMapService.orderedSeats flight = .ok seats →
      ∃ entries, out.1 = .ok (some entries) ∧
        entries.map SeatMapEntry.seatId = seats.map Seat.id ∧
        ((∀ e ∈ entries, ∃ c ∈ states, ∃ entries',
            SeatMapService.view c flightId sessionId = .ok (some entries') ∧ e ∈ entries') ↔
          ∀ seat ∈ flight.cabin.seats.values, seat.status ≠ .blocked →
            ¬ HandedOver out.2.calls states flightId sessionId seat.id)) ∧
      ∀ raised, SeatMapService.orderedSeats flight = .error raised →
        out.1 = .error raised ∧
          ∀ c ∈ states, SeatMapService.view c flightId sessionId = .error raised := by
  intro out states
  obtain ⟨read, looks, h⟩ := viewAmong_viewed pool gaps hf sessionId
  have hstates : ∀ c ∈ states, Frame pool.shared c := by
    intro c hc
    rcases List.mem_append.mp hc with hpassed | hlast
    · exact h.keeps.passed c hpassed
    · exact h.keeps.states (handle_keeps_frame pool.shared) last c hlast
  have hcalls : ∀ call ∈ out.2.calls, call.2 ∈ states :=
    fun call hcall => List.mem_append_left _ (h.keeps.calls call hcall)
  have hresult := h.result
  refine ⟨?_, ?_⟩
  · intro seats hseats
    rw [hseats] at hresult
    refine ⟨_, hresult, by simp [Function.comp_def, entryOf], ?_⟩
    constructor
    · intro hcurrent seat hseat hblocked hover
      obtain ⟨hfree, hnever⟩ := h.phantom hblocked hover
      have hordered : seat ∈ seats := (orderedSeats_perm hseats).symm.subset hseat
      obtain ⟨c, hc, entries', hview, he⟩ := hcurrent _ (List.mem_map.mpr ⟨seat, hordered, rfl⟩)
      rw [view_of_frame hf (hstates c hc), hseats] at hview
      obtain rfl := Option.some.inj (Except.ok.inj hview)
      obtain ⟨seat', -, heq⟩ := List.mem_map.mp he
      rw [hfree] at heq
      exact hnever c hc seat' (congrArg SeatMapEntry.seatId heq)
        (congrArg SeatMapEntry.status heq)
    · intro hnone e he
      obtain ⟨seat, hordered, rfl⟩ := List.mem_map.mp he
      have hsome : ∃ c ∈ states, statusIn flight flightId sessionId c seat =
          statusAcross flightId sessionId pool.shared.clock read looks seat := by
        by_cases hfree : statusAcross flightId sessionId pool.shared.clock read looks seat =
            .available
        · have hseat : seat ∈ flight.cabin.seats.values :=
            (orderedSeats_perm hseats).subset hordered
          rw [hfree]
          exact h.current_of_free hcalls hfree
            (hnone seat hseat (statusFor_eq_available_iff.mp hfree).1)
        · obtain ⟨call, hcall, heq⟩ := h.current_of_held hfree
          exact ⟨call.2, hcalls call hcall, heq⟩
      obtain ⟨c, hc, heq⟩ := hsome
      refine ⟨c, hc, seats.map fun seat => entryOf seat (statusIn flight flightId sessionId c seat),
        ?_, List.mem_map.mpr ⟨seat, hordered, ?_⟩⟩
      · rw [view_of_frame hf (hstates c hc), hseats]
        rfl
      · rw [heq]
  · intro raised hraised
    rw [hraised] at hresult
    refine ⟨hresult, fun c hc => ?_⟩
    rw [view_of_frame hf (hstates c hc), hraised]
    rfl

/-- Session S1 holds 30F and is about to book it. -/
def bookingPool : Threads where
  shared := (step (seededContainer [seededFlight "FL-LAX-NYC-0800" ["30F"]])
    (.acquire ⟨"FL-LAX-NYC-0800"⟩ [⟨"30F"⟩] ⟨"S1"⟩)).2
  proc := fun _ => Thread.background (Thread.commit .wired
    { commitFor "FL-LAX-NYC-0800" ["30F"] with
      lockId := some "L001"
      sessionId := some ⟨"S1"⟩ })
  critical := fun _ => true

/-- The commit is through before the view reads anything: the map is current. -/
theorem concurrent_view_current_after_commit :
    let out := viewAmong bookingPool [List.replicate 11 0] ⟨"FL-LAX-NYC-0800"⟩ (some ⟨"S2"⟩)
    ∃ entries, out.1 = .ok (some entries) ∧
      ∀ e ∈ entries, ∃ c ∈ out.2.passed ++ out.2.pool.states handle [], ∃ entries',
        SeatMapService.view c ⟨"FL-LAX-NYC-0800"⟩ (some ⟨"S2"⟩) = .ok (some entries') ∧
          e ∈ entries' := by
  intro out
  have hf : bookingPool.shared.flightRepo.get ⟨"FL-LAX-NYC-0800"⟩ =
      some (seededFlight "FL-LAX-NYC-0800" ["30F"]) := rfl
  obtain ⟨entries, hout, -, hiff⟩ := (concurrent_view_current_iff bookingPool
    [List.replicate 11 0] [] hf (some ⟨"S2"⟩)).1 _ rfl
  refine ⟨entries, hout, hiff.mpr ?_⟩
  have hsame : ∀ call ∈ out.2.calls, call.2 = out.2.pool.shared := by decide
  intro seat _ _ hover
  obtain ⟨read, look, now, hread, hlook, hnot, hbooked, -⟩ := hover
  obtain rfl : read = out.2.pool.shared := hsame _ hread
  obtain rfl : look = out.2.pool.shared := hsame _ hlook
  rw [hnot] at hbooked
  cases hbooked

/-- The commit runs between the read of the bookings and the look at the lock of
30F: S2 is shown a free seat that was held, then sold, and free at no moment. -/
theorem concurrent_view_phantom_seat :
    let out := viewAmong bookingPool [[], [], [], List.replicate 11 0] ⟨"FL-LAX-NYC-0800"⟩
      (some ⟨"S2"⟩)
    out.1 = .ok (some [⟨⟨"30F"⟩, .economy, .standard, .available⟩]) ∧
      ∀ c ∈ out.2.passed ++ out.2.pool.states handle [],
        SeatMapService.view c ⟨"FL-LAX-NYC-0800"⟩ (some ⟨"S2"⟩) =
          .ok (some [⟨⟨"30F"⟩, .economy, .standard, .occupied⟩]) := by
  decide

end FlightBooking
