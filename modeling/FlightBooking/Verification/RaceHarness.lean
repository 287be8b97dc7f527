import FlightBooking.Lib.Calendar
import FlightBooking.Lib.RelyGuarantee
import FlightBooking.Scripts.RaceLastSeat
import FlightBooking.Verification.SeatLockSpec

/-!
# RaceHarness — every schedule of the race has one winner

The clock stands still while the threads of a trial race, so a lock on the seat never
expires: whoever takes it first keeps it, and everyone else is turned away. The threads
need nothing of each other but that.
-/

namespace FlightBooking

open Py

/-- Uninterrupted, the thread is the endpoint. -/
theorem Thread.runs_postSeatLock (body : SeatLockRequestBody) :
    Proc.Runs StoreCall.handle (Thread.postSeatLock body) (HttpApp.postSeatLock body) := by
  refine Proc.Runs.bind (fun c => Thread.run_acquire ..) ?_
  intro result c
  cases hsuccess : result.success with
  | false => simp
  | true =>
      cases hlock : result.lockId <;> cases hexpiry : result.expiresAt <;> rfl

namespace RaceLastSeat

/-! ## A thread -/

theorem session_injective : Function.Injective session := by
  intro a b h
  have hlists := congrArg String.toList h
  simp only [session, String.toList_append, List.append_cancel_left_eq] at hlists
  exact DateTime.pad_injective 2 (String.toList_injective hlists)

theorem session_nonempty (sessionIdx : Nat) : session sessionIdx ≠ "" := by
  intro h
  have hlists := congrArg String.toList h
  simp [session] at hlists

/-- The body of a thread's request. -/
def body (sessionIdx : Nat) : SeatLockRequestBody where
  flightId := flightId
  seatIds := [seatId]
  sessionId := session sessionIdx
  flightId_nonempty := by decide
  seatIds_length := by decide
  sessionId_nonempty := session_nonempty sessionIdx

theorem validate_payload (i : Nat) : (payload i).validate = .ok (body i) := by
  unfold SeatLockPayload.validate payload
  exact dif_pos ⟨(body i).flightId_nonempty, (body i).seatIds_length, (body i).sessionId_nonempty⟩

/-- The status that the endpoint gives to an outcome. -/
def statusOf : AcquireOutcome → Nat
  | .lock _ => 201
  | .conflict _ => 409

/-- One call of a thread. -/
def ask (f : Answered StoreCall Nat Nat) :
    Proc (Answered StoreCall Nat Nat) (Answered.Result StoreCall.Result) Exn
      (Answered.Result StoreCall.Result f) :=
  Proc.perform f

/-- A thread looks at the clock, asks for the seat and enters the status it got. -/
theorem attempt_answering (i : Nat) :
    (attempt i).answering i =
      ask (.call .clockNow) >>= fun now =>
        ask (.call (.acquire ⟨flightId⟩ [⟨seatId⟩] ⟨session i⟩ now)) >>= fun outcome =>
          ask (.answer i (statusOf outcome)) := by
  have hattempt : attempt i = Thread.postSeatLock (body i) >>= fun r => pure r.status := by
    rw [attempt, validate_payload]
  rw [hattempt]
  refine congrArg (Proc.call _) (funext fun now => congrArg (Proc.call _) (funext fun outcome => ?_))
  cases outcome <;> rfl

/-! ## Between the turns -/

/-- The container, and what the threads have entered. -/
abbrev Trial := Container × (Nat → Option Nat)

/-- The record on the seat. -/
def onSeat (c : Container) : Option LockRecord := c.seatLockStore.bySeat.get? ⟨seatId⟩

/-- What holds of the container while the threads race: an id is left for who takes the
seat, and the lock on it is a thread's and does not expire. -/
structure Racing (threads : Nat) (c : Container) : Prop where
  clock : c.clock = trialClock
  unlocked : onSeat c = none → c.seatLockStore.ids ≠ []
  locked : ∀ r, onSeat c = some r → r.expiresAt = trialClock.add lockTtl ∧
    ∃ j < threads, r.sessionId = ⟨session j⟩

/-- What happens in turns of the threads in `mine` alone. -/
structure Happens (threads : Nat) (mine : Nat → Prop) (x x' : Trial) : Prop where
  racing : Racing threads x'.1
  answers : ∀ j, ¬ mine j → x'.2 j = x.2 j
  kept : ∀ r, onSeat x.1 = some r → onSeat x'.1 = some r
  taken : onSeat x.1 = none → ∀ r, onSeat x'.1 = some r → ∃ j, mine j ∧ r.sessionId = ⟨session j⟩

/-- What a turn of thread `i` does. -/
def turnOf (threads i : Nat) (x x' : Trial) : Prop :=
  Racing threads x.1 → Happens threads (· = i) x x'

/-- What the others do between two turns of thread `i`. -/
def betweenTurns (threads i : Nat) (x x' : Trial) : Prop :=
  Racing threads x.1 → Happens threads (· ≠ i) x x'

theorem betweenTurns_rely (threads i : Nat) : Rely (betweenTurns threads i) where
  refl x hx := ⟨hx, fun _ _ => rfl, fun _ hr => hr, fun hnone r hr => by simp [hnone] at hr⟩
  trans x x' x'' h h' hx := by
    have h := h hx
    have h' := h' h.racing
    refine ⟨h'.racing, fun j hj => (h'.answers j hj).trans (h.answers j hj),
      fun r hr => h'.kept r (h.kept r hr), fun hnone r hr => ?_⟩
    cases hmid : onSeat x'.1 with
    | none => exact h'.taken hmid r hr
    | some r' =>
        obtain rfl : r' = r := Option.some.inj ((h'.kept r' hmid).symm.trans hr)
        exact h.taken hnone r' hmid

theorem raceDiscipline (threads : Nat) :
    Pool.Discipline (fun _ => false) (betweenTurns threads) (turnOf threads) fun _ => True where
  rely := betweenTurns_rely threads
  allows i j hij _ x x' h hx := by
    have h := h hx
    refine ⟨h.racing, fun k hk => h.answers k ?_, h.kept, fun hnone r hr => ?_⟩
    · rintro rfl
      exact hk hij
    · obtain ⟨k, rfl, hk⟩ := h.taken hnone r hr
      exact ⟨k, hij, hk⟩
  stable _ hc := by cases hc
  keeps _ _ _ _ _ _ := trivial

/-- What thread `i` knows before it asks: the lock on the seat is not its own. -/
structure Unserved (threads i : Nat) (x : Trial) : Prop where
  racing : Racing threads x.1
  others : ∀ r, onSeat x.1 = some r → r.sessionId ≠ ⟨session i⟩

/-- What it knows afterwards: the seat is locked, and the status says by whom. -/
structure Served (threads i : Nat) (status : Nat) (x : Trial) : Prop where
  racing : Racing threads x.1
  outcome : ∃ r, onSeat x.1 = some r ∧
    status = if r.sessionId = ⟨session i⟩ then 201 else 409

theorem Unserved.stable {threads i : Nat} {x x' : Trial} (hR : betweenTurns threads i x x')
    (hx : Unserved threads i x) : Unserved threads i x' := by
  have h := hR hx.racing
  refine ⟨h.racing, fun r hr => ?_⟩
  cases hseat : onSeat x.1 with
  | none =>
      obtain ⟨j, hj, hsession⟩ := h.taken hseat r hr
      rw [hsession]
      intro heq
      exact hj (session_injective (SessionId.mk.inj heq))
  | some r' =>
      obtain rfl : r' = r := Option.some.inj ((h.kept r' hseat).symm.trans hr)
      exact hx.others r' hseat

theorem Served.stable {threads i status : Nat} {x x' : Trial} (hR : betweenTurns threads i x x')
    (hx : Served threads i status x) : Served threads i status x' := by
  have h := hR hx.racing
  obtain ⟨r, hr, hstatus⟩ := hx.outcome
  exact ⟨h.racing, r, h.kept r hr, hstatus⟩

/-! ## The turns -/

theorem turnOf_refl (threads i : Nat) (x : Trial) : turnOf threads i x x := fun hx =>
  ⟨hx, fun _ _ => rfl, fun _ hr => hr, fun hnone r hr => by simp [hnone] at hr⟩

theorem trialClock_lt : trialClock < trialClock.add lockTtl := by decide

/-- A thread asks for the seat: it gets the lock if there is none, and is refused if
another thread has it. -/
theorem acquire_turn {threads i : Nat} (hi : i < threads) {x : Trial}
    (hx : Unserved threads i x) :
    ∃ outcome x',
      (Answered.handle (α := Nat) StoreCall.handle
        (.call (.acquire ⟨flightId⟩ [⟨seatId⟩] ⟨session i⟩ trialClock))).run x =
        (.ok outcome, x') ∧
      turnOf threads i x x' ∧ Served threads i (statusOf outcome) x' := by
  have hexit := InMemorySeatLockStore.acquire_exit x.1.seatLockStore ⟨flightId⟩ [⟨seatId⟩]
    ⟨session i⟩ trialClock
  have hrun : (Answered.handle (α := Nat) StoreCall.handle
      (.call (.acquire ⟨flightId⟩ [⟨seatId⟩] ⟨session i⟩ trialClock))).run x =
        ((x.1.seatLockStore.acquire ⟨flightId⟩ [⟨seatId⟩] ⟨session i⟩ trialClock).1,
          { x.1 with seatLockStore :=
            (x.1.seatLockStore.acquire ⟨flightId⟩ [⟨seatId⟩] ⟨session i⟩ trialClock).2 },
          x.2) := rfl
  have hfree : x.1.seatLockStore.findConflicts [⟨seatId⟩] ⟨session i⟩ trialClock = [] ↔
      onSeat x.1 = none := by
    rw [InMemorySeatLockStore.findConflicts_eq_nil_iff, Option.eq_none_iff_forall_ne_some]
    simp only [List.mem_singleton, forall_eq]
    refine forall_congr' fun r => ⟨fun h hr => ?_, fun h hr => absurd hr h⟩
    have hlive : trialClock < r.expiresAt := by
      rw [(hx.racing.locked r hr).1]
      exact trialClock_lt
    exact hx.others r hr (h hr hlive)
  rw [hrun]
  generalize x.1.seatLockStore.acquire ⟨flightId⟩ [⟨seatId⟩] ⟨session i⟩ trialClock = result at *
  obtain ⟨out, store⟩ := result
  cases hexit with
  | conflict hbusy =>
      obtain ⟨r, hr⟩ := Option.ne_none_iff_exists'.mp (mt hfree.mpr hbusy)
      refine ⟨_, _, rfl, turnOf_refl threads i x, hx.racing, r, hr, ?_⟩
      rw [if_neg (hx.others r hr)]
      rfl
  | exhausted hnone hids => exact absurd hids (hx.racing.unlocked (hfree.mp hnone))
  | overflowed _ _ hover => exact absurd (by decide) hover
  | granted h =>
      have hseat : store.bySeat.get? ⟨seatId⟩ = some _ :=
        (h.bySeat ⟨seatId⟩).trans (if_pos List.mem_cons_self)
      have hracing : Racing threads { x.1 with seatLockStore := store } := by
        refine ⟨hx.racing.clock, fun hnone => ?_, fun r hr => ?_⟩
        · rw [onSeat, hseat] at hnone
          cases hnone
        · obtain rfl := Option.some.inj (hseat.symm.trans hr)
          exact ⟨rfl, i, hi, rfl⟩
      refine ⟨_, _, rfl, fun _ => ⟨hracing, fun _ _ => rfl, fun r hr => ?_, fun _ r hr => ?_⟩,
        hracing, _, hseat, ?_⟩
      · rw [hfree.mp h.free] at hr
        cases hr
      · obtain rfl := Option.some.inj (hseat.symm.trans hr)
        exact ⟨i, rfl, rfl⟩
      · exact (if_pos rfl).symm

/-- What a thread has got to at its end. -/
def Done (threads i : Nat) (x : Trial) : Prop :=
  ∃ status, x.2 i = some status ∧ Served threads i status x

/-- **A thread of the race**, whatever the others do between its turns. -/
theorem attempt_safe {threads i : Nat} (hi : i < threads) {x : Trial}
    (hx : Unserved threads i x) :
    ((attempt i).answering i).Safe (Answered.handle StoreCall.handle) (betweenTurns threads i)
      (turnOf threads i) (fun _ => Done threads i) x := by
  rw [attempt_answering]
  refine Proc.Safe.read_bind (fun x => x.1.clock) hx (fun _ _ => Unserved.stable) (fun _ => rfl)
    (fun x _ => turnOf_refl threads i x) fun x hx => ?_
  change Proc.Safe _ _ _ _
    (ask (.call (.acquire ⟨flightId⟩ [⟨seatId⟩] ⟨session i⟩ x.1.clock)) >>= fun outcome =>
      ask (.answer i (statusOf outcome))) x
  rw [hx.racing.clock]
  refine Proc.Safe.perform_bind hx (fun _ _ => Unserved.stable) fun x hx => .inr ?_
  obtain ⟨outcome, x', hrun, hturn, hserved⟩ := acquire_turn hi hx
  refine ⟨outcome, x', hrun, hturn, ?_⟩
  -- the status is entered
  intro y hy
  have hserved := hserved.stable hy
  refine ⟨fun hracing => ⟨hracing, fun j hj => Function.update_of_ne hj _ _, fun _ hr => hr,
    fun hnone r hr => ?_⟩, fun r hr z hz => ?_, fun e he => ?_⟩
  · have hr : onSeat y.1 = some r := hr
    rw [hnone] at hr
    cases hr
  · have hkept := (hz hserved.racing).answers i (not_not.mpr rfl)
    have hentered : Function.update y.2 i (some (statusOf outcome)) i = some (statusOf outcome) :=
      Function.update_self _ _ _
    exact ⟨_, hkept.trans hentered, Served.stable hz ⟨hserved.racing, hserved.outcome⟩⟩
  · cases he

/-! ## The trial -/

theorem barrier_ruled (threads : Nat) :
    (barrier threads).Ruled (Answered.handle StoreCall.handle) (betweenTurns threads)
      (turnOf threads) (fun i _ x => i < threads → Done threads i x) fun _ => True where
  loose i _ := by
    have hstart : Racing threads seedSingleSeatFlight := by
      have hnone : onSeat seedSingleSeatFlight = none := by decide
      exact ⟨rfl, fun _ => by decide, fun r hr => by simp [hnone] at hr⟩
    have hnone : onSeat seedSingleSeatFlight = none := by decide
    by_cases hi : i < threads
    · have hproc : (barrier threads).proc i = (attempt i).answering i := if_pos hi
      rw [hproc]
      exact (attempt_safe hi ⟨hstart, fun r hr => by
        have hr : onSeat seedSingleSeatFlight = some r := hr
        simp [hnone] at hr⟩).imp fun _ _ h _ => h
    · have hproc : (barrier threads).proc i = .ret () := if_neg hi
      rw [hproc]
      exact fun _ _ h => absurd h hi
  waiting _ hc := by cases hc
  holding _ hholder := by cases hholder
  free _ := trivial

/-- All threads through: the seat is locked for one of them, and it alone has a 201. -/
theorem race_answers {threads : Nat} (hthreads : 1 ≤ threads) {schedule : List Nat}
    (hjoined : Joined threads schedule) :
    ∃ winner < threads, ∀ i < threads,
      (race threads schedule).shared.2 i = some (if i = winner then 201 else 409) := by
  have hruled := (barrier_ruled threads).turns (raceDiscipline threads) schedule
  have hcritical : ((barrier threads).turns (Answered.handle StoreCall.handle) schedule).critical =
      fun _ => false := Pool.turns_critical _ _ _
  have hdone : ∀ i < threads, Done threads i (race threads schedule).shared := by
    intro i hi
    obtain ⟨_, h⟩ := hruled.finished (hcritical ▸ raceDiscipline threads) (congrFun hcritical i)
      (hjoined i hi)
    exact h hi
  obtain ⟨_, -, hracing, r, hr, -⟩ := hdone 0 hthreads
  obtain ⟨-, winner, hwinner, hsession⟩ := hracing.locked r hr
  refine ⟨winner, hwinner, fun i hi => ?_⟩
  obtain ⟨status, hstatus, -, r', hr', houtcome⟩ := hdone i hi
  obtain rfl : r = r' := Option.some.inj (hr.symm.trans hr')
  rw [hstatus, houtcome, hsession]
  by_cases hi' : i = winner
  · rw [if_pos hi', if_pos (by rw [hi'])]
  · have hother : (⟨session winner⟩ : SessionId) ≠ ⟨session i⟩ := fun heq =>
      hi' (session_injective (SessionId.mk.inj heq)).symm
    rw [if_neg hi', if_neg hother]

/-- The codes of a list in which one thread has the seat. -/
theorem count_codes {threads winner : Nat} (hwinner : winner < threads) :
    let codes := (List.range threads).map fun i => if i = winner then 201 else 409
    codes.countP (· = 201) = 1 ∧ codes.countP (· = 409) = threads - 1 ∧
      codes.filter (fun code => code ≠ 201 ∧ code ≠ 409) = [] := by
  intro codes
  have hwon : codes.countP (· = 201) = (List.range threads).count winner := by
    rw [List.countP_map, List.count]
    refine List.countP_congr fun i _ => ?_
    by_cases hi : i = winner <;> simp [hi]
  have hone : (List.range threads).count winner = 1 :=
    List.count_eq_one_of_mem List.nodup_range (List.mem_range.mpr hwinner)
  have hlost : codes.countP (· = 409) =
      codes.countP fun code => ¬ decide (code = 201) = true := by
    refine List.countP_congr fun code hcode => ?_
    obtain ⟨i, -, rfl⟩ := List.mem_map.mp hcode
    by_cases hi : i = winner <;> simp [hi]
  have hall := List.length_eq_countP_add_countP (fun code => decide (code = 201)) (l := codes)
  have hlength : codes.length = threads := by simp [codes]
  refine ⟨hwon.trans hone, by omega, ?_⟩
  · rw [List.filter_eq_nil_iff]
    intro code hcode
    obtain ⟨i, -, rfl⟩ := List.mem_map.mp hcode
    by_cases hi : i = winner <;> simp [hi]

theorem mapM_some {α β : Type} {f : α → Option β} {g : α → β} {xs : List α}
    (h : ∀ x ∈ xs, f x = some (g x)) : xs.mapM f = some (xs.map g) := by
  induction xs with
  | nil => rfl
  | cons x xs ih =>
      rw [List.forall_mem_cons] at h
      rw [List.mapM_cons, h.1, ih h.2]
      rfl

/-- **A trial has one winner.** -/
theorem runTrial_joined {threads : Nat} (hthreads : 1 ≤ threads) {schedule : List Nat}
    (hjoined : Joined threads schedule) :
    runTrial threads schedule = some (1, threads - 1) := by
  obtain ⟨winner, hwinner, hanswers⟩ := race_answers hthreads hjoined
  obtain ⟨hwon, hlost, hexpected⟩ := count_codes hwinner
  have hcodes := mapM_some fun i hi => hanswers i (List.mem_range.mp hi)
  unfold runTrial
  rw [hcodes]
  simp only [Option.bind_eq_bind, Option.bind_some, hexpected, hwon, hlost]
  rfl

theorem foldlM_countTrial {threads : Nat} {schedules : List (List Nat)}
    (htrials : ∀ schedule ∈ schedules, runTrial threads schedule = some (1, threads - 1))
    (summary : Summary) :
    schedules.foldlM (countTrial threads) summary = some { summary with
      totalWinners := summary.totalWinners + schedules.length
      totalRejected := summary.totalRejected + schedules.length * (threads - 1) } := by
  induction schedules generalizing summary with
  | nil => simp
  | cons schedule rest ih =>
      rw [List.forall_mem_cons] at htrials
      have hcount : countTrial threads summary schedule = some (summary.add 1 (threads - 1)) := by
        rw [countTrial, htrials.1]
        rfl
      have hwinners : summary.totalWinners + 1 + rest.length =
          summary.totalWinners + (rest.length + 1) := by omega
      have hrejected : summary.totalRejected + (threads - 1) + rest.length * (threads - 1) =
          summary.totalRejected + (rest.length + 1) * (threads - 1) := by
        rw [Nat.add_mul]
        omega
      rw [List.foldlM_cons, hcount]
      refine (ih htrials.2 (summary.add 1 (threads - 1))).trans ?_
      rw [List.length_cons, ← hwinners, ← hrejected]
      rfl

/-- **The harness never sees a double booking.** Whatever the number of threads and in
whatever order they take their turns, trial after trial: one of them gets the seat and
all others a 409. -/
theorem race_harness_perfect {threads : Nat} (hthreads : 1 ≤ threads)
    (schedules : List (List Nat)) (hjoined : ∀ schedule ∈ schedules, Joined threads schedule) :
    main threads schedules = some
      ({ trials := schedules.length
         totalWinners := schedules.length
         totalRejected := schedules.length * (threads - 1)
         doubleBookings := 0 }, 0) := by
  have hsummary := foldlM_countTrial
    (fun schedule h => runTrial_joined hthreads (hjoined schedule h)) { trials := schedules.length }
  unfold main runHarness
  rw [hsummary]
  simp

/-- Three threads: the first to look at the clock is not the first to ask. -/
theorem race_harness_perfect_three :
    let schedule := [0, 1, 2, 2, 0, 1, 0, 1, 2]
    Joined 3 schedule ∧ main 3 [schedule] =
      some ({ trials := 1, totalWinners := 1, totalRejected := 2, doubleBookings := 0 }, 0) := by
  intro schedule
  have hjoined : Joined 3 schedule := by
    unfold Joined
    decide +kernel
  refine ⟨hjoined, ?_⟩
  exact race_harness_perfect (by decide) [schedule] (by simpa using hjoined)

end RaceLastSeat

end FlightBooking
