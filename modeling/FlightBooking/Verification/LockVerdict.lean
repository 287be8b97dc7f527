import FlightBooking.Verification.LockReservation

/-!
# LockVerdict — a verdict from the store against a lock's history

The lock check of a commit looks at the lock map as it is now. A lock that was
issued is in the map until a commit releases it, so the map tells an issued lock
from an unknown one only as long as nobody has released it; and the check asks
for the owner of a live lock only, so another session's lock is refused as
expired once it has expired.
-/

namespace FlightBooking

open Py BookingService InMemorySeatLockStore

/-! ## What has happened to a lock -/

/-- The call of `acquire` has returned the lock to the session, until `expiresAt`. -/
def Event.issues (lockId : String) (sessionId : SessionId) (expiresAt : DateTime) (e : Event) :
    Prop :=
  ∃ flightId seatIds held, e.input = .acquire flightId seatIds sessionId ∧
    e.output = .acquire (.ok held) ∧ held.lockId = some lockId ∧ held.expiresAt = some expiresAt

/-- A commit has taken the lock out of the store. -/
def Event.drops (lockId : String) (e : Event) : Prop :=
  Event.releases lockId e ∧ e.src.seatLockStore.get lockId ≠ none

def IssuedIn (history : List Event) (lockId : String) (sessionId : SessionId)
    (expiresAt : DateTime) : Prop :=
  ∃ e ∈ history, Event.issues lockId sessionId expiresAt e

def Released (history : List Event) (lockId : String) : Prop :=
  ∃ e ∈ history, Event.drops lockId e

theorem issued_concat {history : List Event} {e : Event} {lockId : String}
    {sessionId : SessionId} {expiresAt : DateTime} :
    IssuedIn (history ++ [e]) lockId sessionId expiresAt ↔
      IssuedIn history lockId sessionId expiresAt ∨ Event.issues lockId sessionId expiresAt e := by
  simp [IssuedIn, or_and_right, exists_or]

theorem released_concat {history : List Event} {e : Event} {lockId : String} :
    Released (history ++ [e]) lockId ↔ Released history lockId ∨ Event.drops lockId e := by
  simp [Released, or_and_right, exists_or]

/-- Where the history of a lock leaves it: never issued, in the store as issued, or
released. -/
inductive Fate (history : List Event) (lockId : String) (c : Container) : Prop
  | unissued (hissued : ∀ sessionId expiresAt, ¬ IssuedIn history lockId sessionId expiresAt)
      (hkept : ¬ Released history lockId) (hget : c.seatLockStore.get lockId = none)
  | held {r : LockRecord} (hdrawn : Drawn lockId c)
      (hissued : ∀ sessionId expiresAt, IssuedIn history lockId sessionId expiresAt ↔
        sessionId = r.sessionId ∧ expiresAt = r.expiresAt)
      (hkept : ¬ Released history lockId) (hget : c.seatLockStore.get lockId = some r)
  | released {sessionId : SessionId} {expiresAt : DateTime} (hdrawn : Drawn lockId c)
      (hissued : IssuedIn history lockId sessionId expiresAt)
      (hreleased : Released history lockId) (hget : c.seatLockStore.get lockId = none)

/-! ## One step -/

section Step

variable {c : Container} {lockId : String} {history : List Event}

/-- A call of `acquire` issues the one lock it adds to the store, or none. -/
theorem acquire_issues (flightId : FlightId) (seatIds : List SeatId) (sessionId : SessionId) :
    let op : Op := .acquire flightId seatIds sessionId
    ((∃ ids, ids <:+ c.seatLockStore.ids ∧
        (step c op).2.seatLockStore = { c.seatLockStore with ids }) ∧
      ∀ k s t, ¬ Event.issues k s t (Run.Event.of step c op)) ∨
    ∃ new, Granted c.seatLockStore flightId seatIds sessionId c.clock new
        (step c op).2.seatLockStore ∧
      ∀ k s t, Event.issues k s t (Run.Event.of step c op) ↔
        k = new ∧ s = sessionId ∧ t = c.clock.add lockTtl := by
  intro op
  have hout : ∀ k s t, Event.issues k s t (Run.Event.of step c op) ↔
      ∃ held, (c.seatLockStore.acquire flightId seatIds sessionId c.clock).1.map
        SeatHoldService.resultOf = .ok held ∧ held.lockId = some k ∧ held.expiresAt = some t ∧
        s = sessionId := by
    intro k s t
    simp only [Event.issues, Run.Event.of, op, step_acquire, Op.acquire.injEq,
      Output.acquire.injEq]
    constructor
    · rintro ⟨_, _, held, ⟨-, -, rfl⟩, hheld, hk, ht⟩
      exact ⟨held, hheld, hk, ht, rfl⟩
    · rintro ⟨held, hheld, hk, ht, rfl⟩
      exact ⟨_, _, held, ⟨rfl, rfl, rfl⟩, hheld, hk, ht⟩
  have hstore : (step c op).2.seatLockStore =
      (c.seatLockStore.acquire flightId seatIds sessionId c.clock).2 := by
    rw [step_acquire]
  rw [hstore]
  simp only [hout]
  have hexit := acquire_exit c.seatLockStore flightId seatIds sessionId c.clock
  rcases hacquire : c.seatLockStore.acquire flightId seatIds sessionId c.clock with ⟨out, store'⟩
  rw [hacquire] at hexit
  dsimp only at hexit ⊢
  cases hexit with
  | conflict hbusy =>
      exact .inl ⟨⟨_, List.suffix_rfl, rfl⟩, by simp [Except.map, SeatHoldService.resultOf]⟩
  | exhausted hfree hnone => exact .inl ⟨⟨_, List.suffix_rfl, rfl⟩, by simp [Except.map]⟩
  | overflowed hfree hdrawn hover =>
      exact .inl ⟨⟨_, hdrawn ▸ List.suffix_cons _ _, rfl⟩, by simp [Except.map]⟩
  | granted hg =>
      refine .inr ⟨_, hg, ?_⟩
      intro k s t
      simp only [Except.map, SeatHoldService.resultOf, Except.ok.injEq, exists_eq_left',
        Option.some.injEq]
      constructor
      · rintro ⟨rfl, rfl, rfl⟩
        exact ⟨rfl, rfl, rfl⟩
      · rintro ⟨rfl, rfl, rfl⟩
        exact ⟨rfl, rfl, rfl⟩

theorem not_issues_of_ne_acquire {op : Op}
    (hop : ∀ flightId seatIds sessionId, op ≠ .acquire flightId seatIds sessionId) (k : String)
    (s : SessionId) (t : DateTime) : ¬ Event.issues k s t (Run.Event.of step c op) := by
  intro hissues
  obtain ⟨flightId, seatIds, held, hinput, -⟩ := hissues
  exact hop flightId seatIds s hinput

theorem not_drops_of_acquire (flightId : FlightId) (seatIds : List SeatId)
    (sessionId : SessionId) :
    ¬ Event.drops lockId (Run.Event.of step c (.acquire flightId seatIds sessionId)) := by
  intro hdrops
  obtain ⟨⟨⟨env, request, hinput, -⟩, -⟩, -⟩ := hdrops
  cases hinput

/-- Only `acquire` puts a lock into the store. -/
theorem get_none_of_ne_acquire {op : Op}
    (hop : ∀ flightId seatIds sessionId, op ≠ .acquire flightId seatIds sessionId)
    (hnone : c.seatLockStore.get lockId = none) :
    (step c op).2.seatLockStore.get lockId = none := by
  cases step_locks c op with
  | kept hkept => rw [hkept, hnone]
  | @acquired flightId seatIds sessionId _ _ => exact absurd rfl (hop flightId seatIds sessionId)
  | released hs hl hrel =>
      have hnone' : c.seatLockStore.byLock.get? lockId = none := hnone
      rw [hrel]
      show (c.seatLockStore.release _).byLock.get? lockId = none
      rw [get?_byLock_release, hnone']
      split <;> rfl

/-- A call of `acquire` brings a lock to life or leaves it where it was. -/
theorem Fate.acquire (h : Fate history lockId c) (hcons : c.seatLockStore.Consistent)
    (flightId : FlightId) (seatIds : List SeatId) (sessionId : SessionId) :
    let op : Op := .acquire flightId seatIds sessionId
    Fate (history ++ [Run.Event.of step c op]) lockId (step c op).2 := by
  intro op
  have hdrops : ¬ Event.drops lockId (Run.Event.of step c op) :=
    not_drops_of_acquire flightId seatIds sessionId
  rcases acquire_issues (c := c) flightId seatIds sessionId with
    ⟨⟨_, -, hsame⟩, hno⟩ | ⟨new, hg, hiff⟩
  · have hget : (step c op).2.seatLockStore.get lockId = c.seatLockStore.get lockId := by
      rw [hsame]
      rfl
    have hissued : ∀ s t, IssuedIn (history ++ [Run.Event.of step c op]) lockId s t ↔
        IssuedIn history lockId s t := fun s t => issued_concat.trans (or_iff_left (hno lockId s t))
    have hreleased : Released (history ++ [Run.Event.of step c op]) lockId ↔
        Released history lockId := released_concat.trans (or_iff_left hdrops)
    cases h with
    | unissued hissued' hkept hnone =>
        exact .unissued (fun s t => (hissued s t).not.mpr (hissued' s t)) (hreleased.not.mpr hkept)
          (hget.trans hnone)
    | held hdrawn hissued' hkept hsome =>
        exact .held (hdrawn.preserved op) (fun s t => (hissued s t).trans (hissued' s t))
          (hreleased.not.mpr hkept) (hget.trans hsome)
    | released hdrawn hissued' hrel hnone =>
        exact .released (hdrawn.preserved op) ((hissued _ _).mpr hissued') (hreleased.mpr hrel)
          (hget.trans hnone)
  · have hget : ∀ k, (step c op).2.seatLockStore.get k =
        if new = k then some (recordOf new flightId seatIds sessionId c.clock)
        else c.seatLockStore.get k := hg.byLock
    have hreleased : Released (history ++ [Run.Event.of step c op]) lockId ↔
        Released history lockId := released_concat.trans (or_iff_left hdrops)
    have hnew : lockId ∉ c.seatLockStore.ids → new ≠ lockId := by
      rintro hused rfl
      exact hused (by simp [hg.drawn])
    -- the issue of another lock is nothing to this one
    have hissued : new ≠ lockId → ∀ s t, IssuedIn (history ++ [Run.Event.of step c op]) lockId s t ↔
        IssuedIn history lockId s t := by
      intro hne s t
      refine issued_concat.trans (or_iff_left ?_)
      rw [hiff]
      exact fun h => hne h.1.symm
    cases h with
    | unissued hno hkept hnone =>
        by_cases hne : new = lockId
        · subst hne
          refine .held ⟨hcons.granted hg, (hcons.used hg).1⟩ (fun s t => ?_)
            (hreleased.not.mpr hkept) ((hget new).trans (if_pos rfl))
          rw [issued_concat, or_iff_right (hno s t), hiff]
          simp [recordOf]
        · exact .unissued (fun s t => (hissued hne s t).not.mpr (hno s t))
            (hreleased.not.mpr hkept) ((hget lockId).trans ((if_neg hne).trans hnone))
    | held hdrawn hissued' hkept hsome =>
        have hne := hnew hdrawn.used
        exact .held (hdrawn.preserved op) (fun s t => (hissued hne s t).trans (hissued' s t))
          (hreleased.not.mpr hkept) ((hget lockId).trans ((if_neg hne).trans hsome))
    | released hdrawn hissued' hrel hnone =>
        have hne := hnew hdrawn.used
        exact .released (hdrawn.preserved op) ((hissued hne _ _).mpr hissued')
          (hreleased.mpr hrel) ((hget lockId).trans ((if_neg hne).trans hnone))

/-- Every other step takes a lock out of the store or leaves it where it was. -/
theorem Fate.other (h : Fate history lockId c) {op : Op}
    (hop : ∀ flightId seatIds sessionId, op ≠ .acquire flightId seatIds sessionId) :
    Fate (history ++ [Run.Event.of step c op]) lockId (step c op).2 := by
  have hissued : ∀ s t, IssuedIn (history ++ [Run.Event.of step c op]) lockId s t ↔
      IssuedIn history lockId s t :=
    fun s t => issued_concat.trans (or_iff_left (not_issues_of_ne_acquire hop lockId s t))
  have hreleased : ¬ Event.drops lockId (Run.Event.of step c op) →
      (Released (history ++ [Run.Event.of step c op]) lockId ↔ Released history lockId) :=
    fun hno => released_concat.trans (or_iff_left hno)
  cases h with
  | unissued hno hkept hnone =>
      have hdrops : ¬ Event.drops lockId (Run.Event.of step c op) := fun hd => hd.2 hnone
      exact .unissued (fun s t => (hissued s t).not.mpr (hno s t))
        ((hreleased hdrops).not.mpr hkept) (get_none_of_ne_acquire hop hnone)
  | held hdrawn hissued' hkept hsome =>
      by_cases hrel : Event.releases lockId (Run.Event.of step c op)
      · have hdrops : Event.drops lockId (Run.Event.of step c op) :=
          ⟨hrel, fun hnone => absurd (hsome.symm.trans hnone) (by simp)⟩
        exact .released (hdrawn.preserved op)
          ((hissued _ _).mpr ((hissued' _ _).mpr ⟨rfl, rfl⟩))
          (released_concat.mpr (.inr hdrops)) hrel.2
      · have hdrops : ¬ Event.drops lockId (Run.Event.of step c op) := fun hd => hrel hd.1
        exact .held (hdrawn.preserved op) (fun s t => (hissued s t).trans (hissued' s t))
          ((hreleased hdrops).not.mpr hkept) (get_step hdrawn hsome hrel)
  | released hdrawn hissued' hrel hnone =>
      exact .released (hdrawn.preserved op) ((hissued _ _).mpr hissued')
        (released_concat.mpr (.inl hrel)) (get_gone hdrawn hnone)

theorem Fate.step (h : Fate history lockId c) (hcons : c.seatLockStore.Consistent) (op : Op) :
    Fate (history ++ [Run.Event.of step c op]) lockId (step c op).2 := by
  cases op with
  | acquire flightId seatIds sessionId => exact h.acquire hcons flightId seatIds sessionId
  | _ => exact h.other (by simp)

end Step

/-- **Where a run leaves a lock.** The lock map at the end of any run, from an empty
store on, by the history of one lock. -/
theorem fate {c₀ : Container} {lockIds : List String}
    (hstore : c₀.seatLockStore = { ids := lockIds }) (hids : lockIds.Nodup) (ops : List Op)
    (lockId : String) :
    Fate (Run.trace step c₀ ops) lockId (Run.final step c₀ ops) := by
  have hstart : c₀.seatLockStore.Consistent := by
    rw [hstore]
    exact .start hids
  refine Run.history (H := fun history c => Fate history lockId c) ?_ ?_
  · refine .unissued (by simp [IssuedIn]) (by simp [Released]) ?_
    rw [hstore]
    rfl
  · rintro before op after - hfate
    exact hfate.step (lockStore_consistent hstart before) op

/-! ## The verdict -/

/-- The commit comes as far as the lock check: the flight is there, and neither the
quote nor the seats refuse it. -/
structure ReachesLock (c : Container) (request : CommitRequest) (flight : Flight) : Prop where
  exists_flight : c.flightRepo.get? request.flightId = some flight
  quote : (resolveQuote c.quoteStore request.quoteId c.clock).error = none
  seats : validateSeats c.bookingRepo flight request = none

theorem ReachesLock.refusal_eq {c : Container} {request : CommitRequest} {flight : Flight}
    (h : ReachesLock c request flight) :
    refusal c request = validateLock c.seatLockStore request c.clock := by
  have hf : c.flightRepo.get request.flightId = some flight := h.exists_flight
  simp [refusal, hf, h.quote, h.seats]

/-- The codes of the lock check. -/
def ErrorCode.OfLock (code : ErrorCode) : Prop :=
  code = .lockNotFound ∨ code = .lockExpired ∨ code = .lockSessionMismatch

theorem BookingService.CommitExit.lock_code_iff {c c' : Container} {env : Collaborators}
    {request : CommitRequest} {out : Except Exn CommitResult} (h : CommitExit env request c out c')
    {code : ErrorCode} (hcode : code.OfLock) :
    (Output.commit out).errorCode? = some code ↔
      (refusal c request).bind CommitResult.errorCode = some code := by
  have hpassed : refusal c request = none →
      ((refusal c request).bind CommitResult.errorCode = some code ↔ False) := by
    intro hnone
    simp [hnone]
  cases h with
  | refused h => simp [Output.errorCode?, h]
  | noTotal h => simp [Output.errorCode?, hpassed h]
  | noAnswer h => simp [Output.errorCode?, hpassed h]
  | declined h =>
      rw [hpassed h.passed]
      rcases hcode with rfl | rfl | rfl <;> simp [Output.errorCode?, CommitResult.refuse]
  | committed h => simp [Output.errorCode?, hpassed h.passed]
  | declinedUnlogged h => simp [Output.errorCode?, hpassed h.passed]
  | noReference h => simp [Output.errorCode?, hpassed h.passed]
  | notSaved h => simp [Output.errorCode?, hpassed h.passed]
  | notQueued h => simp [Output.errorCode?, hpassed h.passed]
  | notReleased h => simp [Output.errorCode?, hpassed h.passed]
  | notLogged h => simp [Output.errorCode?, hpassed h.passed]

/-- The code of the lock check, by the record of the lock. -/
def lockCode (record : Option LockRecord) (sessionId : SessionId) (now : DateTime) :
    Option ErrorCode :=
  match record with
  | none => some .lockNotFound
  | some r =>
      if r.expiresAt ≤ now then some .lockExpired
      else if r.sessionId = sessionId then none
      else some .lockSessionMismatch

theorem validateLock_code {locks : InMemorySeatLockStore} {request : CommitRequest}
    {now : DateTime} {lockId : String} {sessionId : SessionId}
    (hlock : request.lockId = some lockId) (hsession : request.sessionId = some sessionId) :
    (validateLock locks request now).bind CommitResult.errorCode =
      lockCode (locks.get lockId) sessionId now := by
  unfold validateLock checkLockSessionOwnership isValid lockCode
  simp only [hlock, hsession, InMemorySeatLockStore.get]
  cases locks.byLock.get? lockId with
  | none => rfl
  | some r =>
      by_cases hdead : r.expiresAt ≤ now
      · have hlive : ¬ now < r.expiresAt := DateTime.not_lt.mpr hdead
        simp [hlive, hdead, CommitResult.refuse]
      · have hlive : now < r.expiresAt := DateTime.not_le.mp hdead
        by_cases hown : r.sessionId = sessionId <;> simp [hlive, hdead, hown, CommitResult.refuse]

section LockCode

variable {r : LockRecord} {sessionId : SessionId} {now : DateTime}

theorem lockCode_ne_notFound : lockCode (some r) sessionId now ≠ some .lockNotFound := by
  simp only [lockCode]
  split_ifs <;> simp

theorem lockCode_expired_iff :
    lockCode (some r) sessionId now = some .lockExpired ↔ r.expiresAt ≤ now := by
  simp only [lockCode]
  by_cases hdead : r.expiresAt ≤ now
  · simp [hdead]
  · by_cases hown : r.sessionId = sessionId <;> simp [hdead, hown]

theorem lockCode_mismatch_iff :
    lockCode (some r) sessionId now = some .lockSessionMismatch ↔
      now < r.expiresAt ∧ r.sessionId ≠ sessionId := by
  rw [← DateTime.not_le]
  simp only [lockCode]
  by_cases hdead : r.expiresAt ≤ now
  · simp [hdead]
  · by_cases hown : r.sessionId = sessionId <;> simp [hdead, hown]

end LockCode

/-- What the history of a lock says of a commit with the lock by the session at
`now`: refused as unknown exactly if never issued, as another's exactly if issued to
another session, and, its own and not released, as expired exactly if it has. -/
structure VerdictReflects (history : List Event) (lockId : String) (sessionId : SessionId)
    (now : DateTime) (out : Output) : Prop where
  notFound : out.errorCode? = some .lockNotFound ↔ ¬ ∃ s t, IssuedIn history lockId s t
  mismatch : out.errorCode? = some .lockSessionMismatch ↔
    ∃ s t, IssuedIn history lockId s t ∧ s ≠ sessionId
  expired : ∀ t, IssuedIn history lockId sessionId t → ¬ Released history lockId →
    (out.errorCode? = some .lockExpired ↔ t ≤ now)

/-- **The verdict on a lock.** After any run from an empty store with fresh lock ids, a
commit that comes as far as the lock check gets the verdict that the history of its
lock calls for, if and only if no commit has released the lock and, where it was
issued to another session, it has not expired. -/
theorem lock_verdict_iff {c₀ : Container} {lockIds : List String}
    (hstore : c₀.seatLockStore = { ids := lockIds }) (hids : lockIds.Nodup) (ops : List Op)
    {env : Collaborators} {request : CommitRequest} {flight : Flight} {lockId : String}
    {sessionId : SessionId}
    (hreaches : ReachesLock (Run.final step c₀ ops) request flight)
    (hlock : request.lockId = some lockId) (hsession : request.sessionId = some sessionId) :
    let history := Run.trace step c₀ ops
    let c := Run.final step c₀ ops
    VerdictReflects history lockId sessionId c.clock (step c (.commit env request)).1 ↔
      ¬ Released history lockId ∧
        ∀ s t, IssuedIn history lockId s t → s ≠ sessionId → c.clock < t := by
  intro history c
  have hverdict : ∀ code : ErrorCode, code.OfLock →
      ((step c (.commit env request)).1.errorCode? = some code ↔
        lockCode (c.seatLockStore.get lockId) sessionId c.clock = some code) := by
    intro code hcode
    rw [← validateLock_code hlock hsession, ← hreaches.refusal_eq]
    exact (commit_exit env request c).lock_code_iff hcode
  have hnotFound := hverdict .lockNotFound (.inl rfl)
  have hexpired := hverdict .lockExpired (.inr (.inl rfl))
  have hmismatch := hverdict .lockSessionMismatch (.inr (.inr rfl))
  have hfate : Fate history lockId c := fate hstore hids ops lockId
  cases hfate with
  | unissued hno hkept hnone =>
      rw [hnone] at hnotFound hexpired hmismatch
      refine ⟨fun _ => ⟨hkept, fun s t hs => absurd hs (hno s t)⟩, fun _ => ⟨?_, ?_, ?_⟩⟩
      · simpa [lockCode, hno] using hnotFound
      · simpa [lockCode, hno] using hmismatch
      · exact fun t ht => absurd ht (hno _ _)
  | @held r _ hissued hkept hsome =>
      rw [hsome] at hnotFound hexpired hmismatch
      have hissue : IssuedIn history lockId r.sessionId r.expiresAt := (hissued _ _).mpr ⟨rfl, rfl⟩
      constructor
      · intro hreflects
        refine ⟨hkept, ?_⟩
        intro s t hs hne
        obtain ⟨rfl, rfl⟩ := (hissued s t).mp hs
        -- an expired lock of another session would be refused as expired
        have hcode := hmismatch.mp (hreflects.mismatch.mpr ⟨_, _, hissue, hne⟩)
        exact (lockCode_mismatch_iff.mp hcode).1
      · rintro ⟨-, hlive⟩
        refine ⟨?_, ?_, ?_⟩
        · rw [hnotFound]
          exact iff_of_false lockCode_ne_notFound (fun hno => hno ⟨_, _, hissue⟩)
        · rw [hmismatch, lockCode_mismatch_iff]
          constructor
          · exact fun h => ⟨_, _, hissue, h.2⟩
          · rintro ⟨s, t, hs, hne⟩
            obtain ⟨rfl, rfl⟩ := (hissued s t).mp hs
            exact ⟨hlive _ _ hissue hne, hne⟩
        · intro t ht _
          obtain ⟨-, rfl⟩ := (hissued sessionId t).mp ht
          rw [hexpired, lockCode_expired_iff]
  | released _ hissued hrel hnone =>
      rw [hnone] at hnotFound
      constructor
      · intro hreflects
        exact absurd ⟨_, _, hissued⟩ (hreflects.notFound.mp (hnotFound.mpr rfl))
      · exact fun h => absurd hrel h.1

/-- The session that holds 30F commits it: not refused for its lock. -/
theorem lock_verdict_iff_own :
    let c₀ := seededContainer [seededFlight "FL-LAX-NYC-0800" ["30F"]]
    let ops : List Op := [.acquire ⟨"FL-LAX-NYC-0800"⟩ [⟨"30F"⟩] ⟨"S1"⟩]
    let request : CommitRequest := { commitFor "FL-LAX-NYC-0800" ["30F"] with
      lockId := some "L001", sessionId := some ⟨"S1"⟩ }
    VerdictReflects (Run.trace step c₀ ops) "L001" ⟨"S1"⟩ (Run.final step c₀ ops).clock
      (step (Run.final step c₀ ops) (.commit .wired request)).1 := by
  intro c₀ ops request
  have hstore : c₀.seatLockStore = { ids := ["L001", "L002", "L003"] } := rfl
  have hreaches : ReachesLock (Run.final step c₀ ops) request
      (seededFlight "FL-LAX-NYC-0800" ["30F"]) := ⟨rfl, rfl, by decide⟩
  refine (lock_verdict_iff hstore (by decide) ops hreaches rfl rfl).mpr ⟨?_, ?_⟩
  · rintro ⟨e, he, hdrops⟩
    rw [List.mem_singleton.mp he] at hdrops
    exact not_drops_of_acquire _ _ _ hdrops
  · rintro s t ⟨e, he, hissues⟩ hne
    rw [List.mem_singleton.mp he] at hissues
    obtain ⟨_, _, _, hinput, -⟩ := hissues
    cases hinput
    exact absurd rfl hne

/-- S1 locks 30F. Ten minutes later S2 presents the lock and is told that it has
expired. And once S1 has committed 30F, its lock is one that was never issued. -/
theorem lock_verdict_forgets :
    let c₀ := seededContainer [seededFlight "FL-LAX-NYC-0800" ["30F", "30G"]]
    let hold : Op := .acquire ⟨"FL-LAX-NYC-0800"⟩ [⟨"30F"⟩, ⟨"30G"⟩] ⟨"S1"⟩
    let present (session seat : String) : Op := .commit .wired
      { commitFor "FL-LAX-NYC-0800" [seat] with
        lockId := some "L001", sessionId := some ⟨session⟩ }
    let wait : Op := .setClock (testNow.add lockTtl)
    let aged := Run.final step c₀ [hold, wait]
    let sold := Run.final step c₀ [hold, present "S1" "30F"]
    IssuedIn (Run.trace step c₀ [hold, wait]) "L001" ⟨"S1"⟩ (testNow.add lockTtl) ∧
      (step aged (present "S2" "30F")).1.errorCode? = some .lockExpired ∧
      ¬ VerdictReflects (Run.trace step c₀ [hold, wait]) "L001" ⟨"S2"⟩ aged.clock
        (step aged (present "S2" "30F")).1 ∧
      (step sold (present "S1" "30G")).1.errorCode? = some .lockNotFound ∧
      ¬ VerdictReflects (Run.trace step c₀ [hold, present "S1" "30F"]) "L001" ⟨"S1"⟩ sold.clock
        (step sold (present "S1" "30G")).1 := by
  intro c₀ hold present wait aged sold
  have hissues : Event.issues "L001" ⟨"S1"⟩ (testNow.add lockTtl) (Run.Event.of step c₀ hold) :=
    ⟨_, _, _, rfl, rfl, rfl, rfl⟩
  have hexpired : (step aged (present "S2" "30F")).1.errorCode? = some .lockExpired := by decide
  have hunknown : (step sold (present "S1" "30G")).1.errorCode? = some .lockNotFound := by decide
  refine ⟨⟨_, List.mem_cons_self, hissues⟩, hexpired, ?_, hunknown, ?_⟩
  · intro hreflects
    have hmismatch := hreflects.mismatch.mpr
      ⟨⟨"S1"⟩, _, ⟨_, List.mem_cons_self, hissues⟩, by decide⟩
    rw [hexpired] at hmismatch
    cases hmismatch
  · intro hreflects
    exact hreflects.notFound.mp hunknown ⟨_, _, _, List.mem_cons_self, hissues⟩

end FlightBooking
