import FlightBooking.Lib.FirstCome
import FlightBooking.Verification.LockExpiry

/-!
# LockRace — sessions racing for the seats of a flight

Each session asks once, all within ten minutes, so no lock expires and no session
meets its own. The store is then the first-come-first-served service: `Held` says
that `bySeat` is nothing but the seats of the calls that have won so far.
-/

namespace FlightBooking

open Py InMemorySeatLockStore

/-- One session's call of `acquire` in the race. -/
structure Contender where
  seatIds : List SeatId
  sessionId : SessionId
  now : DateTime
deriving DecidableEq, Repr

/-- The race on one flight: an input is one call. -/
def contend (flightId : FlightId) (store : InMemorySeatLockStore) (a : Contender) :
    Except Exn AcquireOutcome × InMemorySeatLockStore :=
  store.acquire flightId a.seatIds a.sessionId a.now

abbrev RaceEvent := Run.Event InMemorySeatLockStore Contender (Except Exn AcquireOutcome)

/-- The lock that the call has returned. -/
def RaceEvent.lock? (e : RaceEvent) : Option SeatLock :=
  match e.output with
  | .ok (.lock lock) => some lock
  | _ => none

/-- The call has won. -/
def RaceEvent.won (e : RaceEvent) : Bool := e.lock?.isSome

@[simp] theorem RaceEvent.won_lock (store store' : InMemorySeatLockStore) (a : Contender)
    (lock : SeatLock) : RaceEvent.won ⟨store, a, .ok (.lock lock), store'⟩ = true := rfl

@[simp] theorem RaceEvent.won_conflict (store store' : InMemorySeatLockStore) (a : Contender)
    (conflicting : List SeatId) :
    RaceEvent.won ⟨store, a, .ok (.conflict conflicting), store'⟩ = false := rfl

theorem RaceEvent.lock?_eq_some_iff {e : RaceEvent} {lock : SeatLock} :
    e.lock? = some lock ↔ e.output = .ok (.lock lock) := by
  unfold RaceEvent.lock?
  split
  · next out h => simp [h]
  · next out h =>
      simp only [reduceCtorEq, false_iff]
      exact h lock

/-- The seats of a call. -/
def Contender.wants (a : Contender) : Set SeatId := {s | s ∈ a.seatIds}

/-- The calls have pairwise distinct sessions and lie within ten minutes, and there is
an instant for each lock to expire at. -/
structure Race (contenders : List Contender) : Prop where
  sessions : (contenders.map Contender.sessionId).Nodup
  window : ∃ t₀ : DateTime, ∀ a ∈ contenders, t₀ ≤ a.now ∧ a.now < t₀.add lockTtl
  inRange : ∀ a ∈ contenders, (a.now.add lockTtl).InRange

theorem Race.before {js ks : List Contender} {a : Contender} (h : Race (js ++ a :: ks)) :
    ∀ b ∈ js, b.sessionId ≠ a.sessionId ∧ a.now < b.now.add lockTtl := by
  intro b hb
  obtain ⟨t₀, hwindow⟩ := h.window
  obtain ⟨hb₀, -⟩ := hwindow b (by simp [hb])
  obtain ⟨-, ha⟩ := hwindow a (by simp)
  have hsessions := h.sessions
  rw [List.map_append, List.map_cons, List.nodup_append] at hsessions
  refine ⟨hsessions.2.2 _ (List.mem_map.mpr ⟨b, hb, rfl⟩) _ (by simp), ?_⟩
  simp only [DateTime.le_iff, DateTime.lt_iff, DateTime.instant_add] at *
  omega

theorem Race.take {js ks : List Contender} (h : Race (js ++ ks)) : Race js where
  sessions := by
    have hsessions := h.sessions
    rw [List.map_append] at hsessions
    exact hsessions.of_append_left
  window := by
    obtain ⟨t₀, hwindow⟩ := h.window
    exact ⟨t₀, fun a ha => hwindow a (by simp [ha])⟩
  inRange := fun a ha => h.inRange a (by simp [ha])

/-! ## The store during a race -/

/-- The record of a call that has won. -/
def RaceEvent.record (flightId : FlightId) (e : RaceEvent) (lock : SeatLock) : LockRecord :=
  recordOf lock.lockId flightId e.input.seatIds e.input.sessionId e.input.now

/-- `bySeat` is the seats of the winners, there are lock ids left for everybody who
has not called, and those who have won are the ones served. -/
structure Held (flightId : FlightId) (ids : List String) (sofar : List RaceEvent)
    (store : InMemorySeatLockStore) : Prop where
  bySeat : ∀ s r, store.bySeat.get? s = some r ↔
    ∃ e ∈ sofar, ∃ lock, e.lock? = some lock ∧ s ∈ e.input.seatIds ∧ r = e.record flightId lock
  room : ids.length ≤ store.ids.length + sofar.length
  served : (sofar.filter RaceEvent.won).map Run.Event.input =
    FirstCome.winners Contender.wants (sofar.map Run.Event.input)

/-- The seat went to an earlier winner. -/
def TakenBy (sofar : List RaceEvent) (s : SeatId) : Prop :=
  ∃ e ∈ sofar, e.won = true ∧ s ∈ e.input.seatIds

section Step

variable {flightId : FlightId} {ids : List String} {sofar : List RaceEvent}
  {store : InMemorySeatLockStore} {a : Contender}

/-- The conflicts of a call are its seats that earlier winners hold. -/
theorem Held.mem_findConflicts_iff (h : Held flightId ids sofar store)
    (ha : ∀ e ∈ sofar, e.input.sessionId ≠ a.sessionId ∧ a.now < e.input.now.add lockTtl)
    {s : SeatId} :
    s ∈ store.findConflicts a.seatIds a.sessionId a.now ↔ s ∈ a.seatIds ∧ TakenBy sofar s := by
  rw [InMemorySeatLockStore.mem_findConflicts_iff]
  apply and_congr_right
  intro _
  constructor
  · intro hlive
    obtain ⟨r, hr, -, -⟩ := hlive
    obtain ⟨e, he, lock, hlock, hs, -⟩ := (h.bySeat s r).mp hr
    exact ⟨e, he, by simp [RaceEvent.won, hlock], hs⟩
  · intro htaken
    obtain ⟨e, he, hwon, hs⟩ := htaken
    obtain ⟨lock, hlock⟩ := Option.isSome_iff_exists.mp hwon
    obtain ⟨hsession, hlive⟩ := ha e he
    exact ⟨e.record flightId lock, (h.bySeat s _).mpr ⟨e, he, lock, hlock, hs, rfl⟩, hlive,
      hsession⟩

open Classical in
theorem Held.findConflicts_eq (h : Held flightId ids sofar store)
    (ha : ∀ e ∈ sofar, e.input.sessionId ≠ a.sessionId ∧ a.now < e.input.now.add lockTtl) :
    store.findConflicts a.seatIds a.sessionId a.now =
      a.seatIds.filter (fun s => decide (TakenBy sofar s)) := by
  have hmem : ∀ s ∈ a.seatIds, store.conflicts a.sessionId a.now s = decide (TakenBy sofar s) := by
    intro s hs
    have hiff := h.mem_findConflicts_iff ha (s := s)
    rw [findConflicts, List.mem_filter] at hiff
    rw [Bool.eq_iff_iff, decide_eq_true_iff]
    simpa [hs] using hiff
  exact List.filter_congr hmem

/-- No conflict: the call is disjoint from every earlier winner. -/
theorem Held.free_iff (h : Held flightId ids sofar store)
    (ha : ∀ e ∈ sofar, e.input.sessionId ≠ a.sessionId ∧ a.now < e.input.now.add lockTtl) :
    store.findConflicts a.seatIds a.sessionId a.now = [] ↔
      ∀ e ∈ sofar, e.won = true → Disjoint e.input.wants a.wants := by
  rw [List.eq_nil_iff_forall_not_mem]
  constructor
  · intro hnone e he hwon
    rw [Set.disjoint_left]
    intro s hs hs'
    exact hnone s ((h.mem_findConflicts_iff ha).mpr ⟨hs', e, he, hwon, hs⟩)
  · intro hfree s hs
    obtain ⟨hs', e, he, hwon, hm⟩ := (h.mem_findConflicts_iff ha).mp hs
    exact Set.disjoint_left.mp (hfree e he hwon) hm hs'

/-- With an id left, a call is granted or told its conflicts. -/
theorem contend_cases (flightId : FlightId) (a : Contender) (hids : store.ids ≠ [])
    (hrange : (a.now.add lockTtl).InRange) :
    (store.findConflicts a.seatIds a.sessionId a.now = [] ∧ ∃ lock store',
      contend flightId store a = (.ok (.lock lock), store') ∧
      Granted store flightId a.seatIds a.sessionId a.now lock.lockId store') ∨
    (store.findConflicts a.seatIds a.sessionId a.now ≠ [] ∧
      contend flightId store a =
        (.ok (.conflict (store.findConflicts a.seatIds a.sessionId a.now)), store)) := by
  have hexit := acquire_exit store flightId a.seatIds a.sessionId a.now
  unfold contend
  rcases hacquire : store.acquire flightId a.seatIds a.sessionId a.now with ⟨out, store'⟩
  rw [hacquire] at hexit
  dsimp only at hexit
  cases hexit with
  | conflict hbusy => exact .inr ⟨hbusy, rfl⟩
  | exhausted _ hnone => exact absurd hnone hids
  | overflowed _ _ hover => exact absurd hrange hover
  | granted hg => exact .inl ⟨hg.free, _, _, rfl, hg⟩

/-- A call that wins: its seats are its own from here on. -/
theorem Held.win (h : Held flightId ids sofar store)
    (hfree : ∀ e ∈ sofar, e.won = true → Disjoint e.input.wants a.wants) {lock : SeatLock}
    {store' : InMemorySeatLockStore}
    (hg : Granted store flightId a.seatIds a.sessionId a.now lock.lockId store') :
    Held flightId ids (sofar ++ [⟨store, a, .ok (.lock lock), store'⟩]) store' where
  bySeat := by
    intro s r
    rw [hg.bySeat]
    simp only [List.mem_append, List.mem_singleton, or_and_right, exists_or, exists_eq_left]
    by_cases hs : s ∈ a.seatIds
    · -- no earlier winner has the seat
      have hold : ¬ ∃ e ∈ sofar, ∃ lock', e.lock? = some lock' ∧ s ∈ e.input.seatIds ∧
          r = e.record flightId lock' := by
        intro hsome
        obtain ⟨e, he, lock', hlock, hm, -⟩ := hsome
        exact Set.disjoint_left.mp (hfree e he (by simp [RaceEvent.won, hlock])) hm hs
      simp only [if_pos hs, hold, false_or]
      simp [RaceEvent.lock?, RaceEvent.record, hs, eq_comm]
    · rw [if_neg hs, h.bySeat]
      simp [hs]
  room := by
    have hroom := h.room
    rw [hg.drawn] at hroom
    simp only [List.length_cons, List.length_append, List.length_nil] at *
    omega
  served := by
    rw [List.map_append, List.map_singleton, FirstCome.winners_concat, ← h.served]
    rw [FirstCome.serve_of_free]
    · rw [List.filter_append, List.map_append, List.filter_cons_of_pos (RaceEvent.won_lock ..)]
      rfl
    · intro w hw
      obtain ⟨e, he, rfl⟩ := List.mem_map.mp hw
      obtain ⟨hmem, hwon⟩ := List.mem_filter.mp he
      exact hfree e hmem hwon

/-- A call that is turned away leaves everything as it was. -/
theorem Held.lose (h : Held flightId ids sofar store)
    (htaken : ¬ ∀ e ∈ sofar, e.won = true → Disjoint e.input.wants a.wants)
    (conflicting : List SeatId) :
    Held flightId ids (sofar ++ [⟨store, a, .ok (.conflict conflicting), store⟩]) store where
  bySeat := by
    intro s r
    rw [h.bySeat]
    simp [or_and_right, exists_or, RaceEvent.lock?]
  room := by
    have hroom := h.room
    rw [List.length_append]
    omega
  served := by
    rw [List.map_append, List.map_singleton, FirstCome.winners_concat, ← h.served]
    rw [FirstCome.serve_of_taken]
    · rw [List.filter_append, List.map_append, List.filter_cons_of_neg (by simp), List.filter_nil,
        List.map_nil, List.append_nil]
    · intro hfree
      apply htaken
      intro e he hwon
      exact hfree e.input (List.mem_map.mpr ⟨e, List.mem_filter.mpr ⟨he, hwon⟩, rfl⟩)

theorem Held.ids_ne_nil (h : Held flightId ids sofar store) (hroom : sofar.length < ids.length) :
    store.ids ≠ [] := by
  intro hnil
  have := h.room
  rw [hnil, List.length_nil] at this
  omega

/-- A call takes the race one step on. -/
theorem Held.step (h : Held flightId ids sofar store) (hroom : sofar.length < ids.length)
    (ha : ∀ e ∈ sofar, e.input.sessionId ≠ a.sessionId ∧ a.now < e.input.now.add lockTtl)
    (hrange : (a.now.add lockTtl).InRange) :
    Held flightId ids (sofar ++ [Run.Event.of (contend flightId) store a])
      (contend flightId store a).2 := by
  rcases contend_cases flightId a (h.ids_ne_nil hroom) hrange with
    ⟨hnone, lock, store', hout, hg⟩ | ⟨hbusy, hout⟩
  · rw [Run.Event.of, hout]
    exact h.win ((h.free_iff ha).mp hnone) hg
  · rw [Run.Event.of, hout]
    exact h.lose (fun hfree => hbusy ((h.free_iff ha).mpr hfree)) _

end Step

/-! ## The whole race -/

theorem Race.held {ids : List String} {contenders : List Contender} (h : Race contenders)
    (hids : contenders.length ≤ ids.length) (flightId : FlightId) :
    Held flightId ids (Run.trace (contend flightId) { ids } contenders)
      (Run.final (contend flightId) { ids } contenders) := by
  apply Run.history
  · exact ⟨by simp, by simp, rfl⟩
  · rintro js a ks rfl hheld
    have hinputs := Run.map_input_trace (contend flightId) { ids } js
    refine hheld.step ?_ ?_ (h.inRange a (by simp))
    · rw [← List.length_map (f := Run.Event.input), hinputs]
      simp only [List.length_append, List.length_cons] at hids
      omega
    · intro e he
      exact h.before e.input (hinputs ▸ List.mem_map_of_mem he)

open Classical in
/-- **First come, first served, all or nothing.** Pairwise distinct sessions call
`acquire` on one flight, in any order and each for any seats, at instants within
ten minutes, the ten minutes of each ending by the year 9999, on an empty store with
ids for all. A call wins exactly if its seats
are disjoint from those of every earlier winner. A call that does not win is told
its seats that earlier winners hold, in the order of the request, and leaves the
store as it was. At the end every seat of a winner has the winner's record. The
winners are those of the first-come-first-served service, and of requests for one
and the same seat exactly one wins. -/
theorem first_come_first_served {ids : List String} {contenders : List Contender}
    (hrace : Race contenders) (hids : contenders.length ≤ ids.length) (flightId : FlightId) :
    let run : List RaceEvent := Run.trace (contend flightId) { ids } contenders
    (∀ before e after, run = before ++ e :: after →
      (e.won = true ↔ ∀ e' ∈ before, e'.won = true → Disjoint e'.input.wants e.input.wants) ∧
      (e.won = false → e.dst = e.src ∧
        e.output = .ok (.conflict (e.input.seatIds.filter fun s => TakenBy before s)))) ∧
    (∀ e ∈ run, ∀ lock, e.output = .ok (.lock lock) → ∀ s ∈ e.input.seatIds,
      (Run.final (contend flightId) { ids } contenders).bySeat.get? s =
        some (recordOf lock.lockId flightId e.input.seatIds e.input.sessionId e.input.now)) ∧
    (run.filter RaceEvent.won).map Run.Event.input =
      FirstCome.winners Contender.wants contenders ∧
    ∀ s, contenders ≠ [] → (∀ a ∈ contenders, a.seatIds = [s]) →
      (run.filter RaceEvent.won).length = 1 := by
  intro run
  have hinputs : run.map Run.Event.input = contenders := Run.map_input_trace _ _ _
  have hheld : Held flightId ids run _ := hrace.held hids flightId
  have hserved := hheld.served
  rw [hinputs] at hserved
  refine ⟨?_, ?_, hserved, ?_⟩
  · intro before e after hrun
    obtain ⟨js, a, ks, rfl, rfl, rfl⟩ := Run.trace_split hrun
    have hroom : js.length < ids.length := by
      simp only [List.length_append, List.length_cons] at hids
      omega
    have hbefore := hrace.take.held hroom.le flightId
    have hsofar := Run.map_input_trace (contend flightId) { ids } js
    have ha : ∀ e ∈ Run.trace (contend flightId) { ids } js,
        e.input.sessionId ≠ a.sessionId ∧ a.now < e.input.now.add lockTtl :=
      fun e he => hrace.before e.input (hsofar ▸ List.mem_map_of_mem he)
    have hleft : (Run.final (contend flightId) { ids } js).ids ≠ [] := by
      apply hbefore.ids_ne_nil
      rw [← List.length_map (f := Run.Event.input), hsofar]
      exact hroom
    have hfree := hbefore.free_iff ha
    rcases contend_cases flightId a hleft (hrace.inRange a (by simp)) with
      ⟨hnone, lock, store', hout, hg⟩ | ⟨hbusy, hout⟩
    · rw [Run.Event.of, hout]
      refine ⟨⟨fun _ => hfree.mp hnone, fun _ => rfl⟩, ?_⟩
      intro hlost
      cases hlost
    · rw [Run.Event.of, hout]
      refine ⟨⟨?_, fun hall => absurd (hfree.mpr hall) hbusy⟩, fun _ => ⟨rfl, ?_⟩⟩
      · intro hwon
        cases hwon
      · rw [hbefore.findConflicts_eq ha]
  · intro e he lock hlock s hs
    exact (hheld.bySeat s _).mpr ⟨e, he, lock, RaceEvent.lock?_eq_some_iff.mpr hlock, hs, rfl⟩
  · intro s hne hall
    obtain ⟨a, rest, rfl⟩ := List.exists_cons_of_ne_nil hne
    have hwants : ∀ b ∈ a :: rest, s ∈ b.wants := by
      intro b hb
      show s ∈ b.seatIds
      rw [hall b hb]
      exact List.mem_singleton_self s
    have hone := congrArg List.length hserved
    rw [FirstCome.winners_of_common (hwants a (by simp))
      (fun b hb => hwants b (List.mem_cons_of_mem _ hb)), List.length_map] at hone
    exact hone

/-- Three sessions race for 30F, the second one for 30G too: only the first wins. -/
theorem first_come_first_served_last_seat :
    let run : List RaceEvent := Run.trace (contend ⟨"FL-LAX-NYC-0800"⟩)
      { ids := ["L001", "L002", "L003"] }
      [⟨[⟨"30F"⟩], ⟨"S1"⟩, testNow⟩, ⟨[⟨"30G"⟩, ⟨"30F"⟩], ⟨"S2"⟩, testNow⟩,
        ⟨[⟨"30F"⟩], ⟨"S3"⟩, testNow⟩]
    run.map RaceEvent.won = [true, false, false] ∧
    (run.filter RaceEvent.won).map Run.Event.input =
      FirstCome.winners Contender.wants [⟨[⟨"30F"⟩], ⟨"S1"⟩, testNow⟩,
        ⟨[⟨"30G"⟩, ⟨"30F"⟩], ⟨"S2"⟩, testNow⟩, ⟨[⟨"30F"⟩], ⟨"S3"⟩, testNow⟩] := by
  intro run
  have hrace : Race [⟨[⟨"30F"⟩], ⟨"S1"⟩, testNow⟩, ⟨[⟨"30G"⟩, ⟨"30F"⟩], ⟨"S2"⟩, testNow⟩,
      ⟨[⟨"30F"⟩], ⟨"S3"⟩, testNow⟩] := ⟨by decide, ⟨testNow, by decide⟩, by decide⟩
  exact ⟨by decide,
    (first_come_first_served hrace (show 3 ≤ ["L001", "L002", "L003"].length by decide) _).2.2.1⟩

/-- Five minutes before the year 10000 the first call meets nobody and does not win: it
draws an id, and there is no instant ten minutes on. -/
theorem first_call_overflows :
    let now : DateTime := ⟨253402300500000000, 0⟩
    let run : List RaceEvent := Run.trace (contend ⟨"FL-LAX-NYC-0800"⟩) { ids := ["L001"] }
      [⟨[⟨"30F"⟩], ⟨"S1"⟩, now⟩]
    now.isoformat = "9999-12-31T23:55:00+00:00" ∧
      run.map RaceEvent.won = [false] ∧
      run.map Run.Event.output = [.error (.overflowError "date value out of range")] ∧
      run.map (fun e => e.dst.ids) = [[]] := by
  decide

end FlightBooking
