import FlightBooking.Lib.Lease
import FlightBooking.Verification.SeatLockSpec
import FlightBooking.Verification.StepSpec

/-!
# LockExclusion — live locks on one seat have one session

The store is an instance of the lease table: `byLock` holds the leases granted,
`bySeat` the index. An acquire is a `grant` and a release is a `revoke`, so the
store is exclusive as long as the index guards it. What can end that is a
session that locks a seat twice: `bySeat` then names its second lock only, and
releasing the second leaves the first one live without an entry.
-/

namespace FlightBooking

open Py

namespace InMemorySeatLockStore

/-- The lease that a record stands for. -/
def claimOf (r : LockRecord) : Lease.Claim String SeatId SessionId Int where
  id := r.lockId
  resources := {s | s ∈ r.seatIds}
  holder := r.sessionId
  expiry := r.expiresAt.instant

/-- The store as a lease table. -/
def table (store : InMemorySeatLockStore) : Lease.Table String SeatId SessionId Int where
  granted := {a | ∃ k r, store.byLock.get? k = some r ∧ a = claimOf r}
  owner := fun s => (store.bySeat.get? s).map claimOf

/-! ## The operations are the table's -/

/-- `_find_conflicts` asks the index. -/
theorem free_iff {store : InMemorySeatLockStore} {seatIds : List SeatId}
    {sessionId : SessionId} {now : DateTime} :
    store.findConflicts seatIds sessionId now = [] ↔
      ∀ s ∈ seatIds, (table store).Free now.instant sessionId s := by
  rw [findConflicts_eq_nil_iff]
  apply forall₂_congr
  intro s hs
  cases hr : store.bySeat.get? s with
  | none => simp [Lease.Table.Free, table, hr]
  | some r => simp [Lease.Table.Free, table, hr, claimOf, Lease.Claim.Live, DateTime.lt_iff]

theorem table_grant {store store' : InMemorySeatLockStore} {r : LockRecord}
    (hnew : store.byLock.get? r.lockId = none)
    (hlock : ∀ k, store'.byLock.get? k = if r.lockId = k then some r else store.byLock.get? k)
    (hseat : ∀ s, store'.bySeat.get? s =
      if s ∈ r.seatIds then some r else store.bySeat.get? s) :
    table store' = (table store).grant (claimOf r) := by
  unfold table Lease.Table.grant
  congr 1
  · ext a
    constructor
    · intro hgranted
      obtain ⟨k, q, hq, rfl⟩ := hgranted
      rw [hlock] at hq
      split at hq
      · cases hq
        exact .inl rfl
      · exact .inr ⟨k, q, hq, rfl⟩
    · rintro (rfl | ⟨k, q, hq, rfl⟩)
      · exact ⟨r.lockId, r, by rw [hlock, if_pos rfl], rfl⟩
      · have hne : r.lockId ≠ k := by
          intro he
          rw [← he, hnew] at hq
          cases hq
        exact ⟨k, q, by rw [hlock, if_neg hne]; exact hq, rfl⟩
  · funext s
    rw [hseat]
    by_cases hm : s ∈ r.seatIds <;> simp [claimOf, hm]

theorem table_release {store : InMemorySeatLockStore} (h : Consistent store)
    (lockId : String) : table (store.release lockId) = (table store).revoke lockId := by
  unfold table Lease.Table.revoke
  congr 1
  · ext a
    constructor
    · intro hgranted
      obtain ⟨k, q, hq, rfl⟩ := hgranted
      rw [get?_byLock_release] at hq
      split at hq
      · cases hq
      · rename_i hne
        refine ⟨⟨k, q, hq, rfl⟩, ?_⟩
        intro he
        exact hne (he.symm.trans (h.keyed k q hq))
    · intro hkept
      obtain ⟨⟨k, q, hq, rfl⟩, hne⟩ := hkept
      have hk : lockId ≠ k := fun he => hne ((h.keyed k q hq).trans he.symm)
      exact ⟨k, q, by rw [get?_byLock_release, if_neg hk]; exact hq, rfl⟩
  · funext s
    simp only [get?_bySeat_release h]
    cases store.bySeat.get? s with
    | none => rfl
    | some r => by_cases hr : r.lockId = lockId <;> simp [Option.filter_some, claimOf, hr]

/-- The release takes no entry of `bySeat` away from a live lock that it does
not release: every other live lock on the seats that `bySeat` files under
`lockId` is dead by `now`. An acquire never does. -/
def UncoversNothing (store : InMemorySeatLockStore) : LockOp → Prop
  | .acquire _ _ _ _ => True
  | .release lockId now =>
      ∀ k r, store.byLock.get? k = some r → k ≠ lockId → now < r.expiresAt →
        ∀ s ∈ r.seatIds, ∀ g, store.bySeat.get? s = some g → g.lockId ≠ lockId

/-- The condition, read off the entries of the two maps. -/
theorem uncoversNothing_iff {store : InMemorySeatLockStore} {lockId : String}
    {now : DateTime} :
    UncoversNothing store (.release lockId now) ↔
      ∀ e ∈ store.byLock.entries, e.1 ≠ lockId → now < e.2.expiresAt →
        ∀ s ∈ e.2.seatIds, ∀ g ∈ store.bySeat.get? s, g.lockId ≠ lockId := by
  constructor
  · intro h e he hne hlive s hs g hg
    exact h e.1 e.2 (Dict.get?_eq_some_iff.mpr he) hne hlive s hs g hg
  · intro h k r hr hne hlive s hs g hg
    exact h (k, r) (Dict.get?_eq_some_iff.mp hr) hne hlive s hs g hg

instance (store : InMemorySeatLockStore) (op : LockOp) :
    Decidable (UncoversNothing store op) :=
  match op with
  | .acquire _ _ _ _ => inferInstanceAs (Decidable True)
  | .release _ _ => decidable_of_iff _ uncoversNothing_iff.symm

theorem covered_iff {store : InMemorySeatLockStore} (h : Consistent store) {lockId : String}
    {now : DateTime} :
    (table store).Covered now.instant lockId ↔ UncoversNothing store (.release lockId now) := by
  constructor
  · intro hcov k r hr hne hlive s hs g hg
    refine hcov (claimOf r) ⟨k, r, hr, rfl⟩ ?_ hlive s hs (claimOf g) ?_
    · exact fun he => hne ((h.keyed k r hr).symm.trans he)
    · simp [table, hg]
  · rintro hun _ ⟨k, r, hr, rfl⟩ hne hlive s hs g hg
    obtain ⟨q, hq, rfl⟩ := Option.map_eq_some_iff.mp hg
    exact hun k r hr (fun he => hne ((h.keyed k r hr).trans he)) hlive s hs q hq

/-! ## The invariant -/

/-- At time `t` the maps agree, no lock outlives one granted at `t`, and
`bySeat` guards every live lock. -/
structure Guarded (t : DateTime) (store : InMemorySeatLockStore) : Prop where
  consistent : Consistent store
  bounded : ∀ k r, store.byLock.get? k = some r → r.expiresAt ≤ t.add lockTtl
  guards : (table store).Guards t.instant

theorem Guarded.start {ids : List String} (h : ids.Nodup) (t : DateTime) :
    Guarded t { ids } where
  consistent := .start h
  bounded := by simp
  guards := by
    rintro a ⟨k, r, hr, -⟩
    cases hr

theorem Guarded.later {t t' : DateTime} {store : InMemorySeatLockStore} (h : Guarded t store)
    (hle : t ≤ t') : Guarded t' store where
  consistent := h.consistent
  bounded := by
    intro k r hr
    have hb := h.bounded k r hr
    simp only [DateTime.le_iff, DateTime.instant_add] at *
    omega
  guards := h.guards.later hle

theorem Guarded.acquire {t : DateTime} {store : InMemorySeatLockStore} (h : Guarded t store)
    (flightId : FlightId) (seatIds : List SeatId) (sessionId : SessionId) :
    Guarded t (store.acquire flightId seatIds sessionId t).2 := by
  have hcons := h.consistent.acquire flightId seatIds sessionId t
  rcases acquire_granted_or_kept store flightId seatIds sessionId t with
    ⟨ids, hids, hkept⟩ | ⟨lockId, hg⟩
  · rw [hkept]
    exact ⟨h.consistent.drawn hids, h.bounded, h.guards⟩
  · refine ⟨hcons, ?_, ?_⟩
    · intro k r hr
      rw [hg.byLock] at hr
      split at hr
      · cases hr
        exact le_refl _
      · exact h.bounded k r hr
    · have hnew := h.consistent.fresh hg
      rw [table_grant (r := recordOf lockId flightId seatIds sessionId t) hnew hg.byLock hg.bySeat]
      -- nothing granted so far outlives a lock granted now
      refine h.guards.grant ?_ (free_iff.mp hg.free)
      rintro a ⟨k, r, hr, rfl⟩
      exact h.bounded k r hr

theorem Guarded.release {t : DateTime} {store : InMemorySeatLockStore} (h : Guarded t store)
    {lockId : String} (hun : UncoversNothing store (.release lockId t)) :
    Guarded t (store.release lockId) where
  consistent := h.consistent.release lockId
  bounded := by
    intro k r hr
    rw [get?_byLock_release] at hr
    split at hr
    · cases hr
    · exact h.bounded k r hr
  guards := by
    rw [table_release h.consistent, h.guards.revoke_iff]
    exact (covered_iff h.consistent).mpr hun

theorem Guarded.step {t : DateTime} {store : InMemorySeatLockStore} {op : LockOp}
    (h : Guarded t store) (hun : UncoversNothing store op) (hle : t ≤ op.now) :
    Guarded op.now (lockStep store op).2 := by
  have hnow := h.later hle
  cases op with
  | acquire flightId seatIds sessionId now => exact hnow.acquire flightId seatIds sessionId
  | release lockId now => exact hnow.release hun

/-- The store after a run whose releases uncover nothing, at any later instant. -/
theorem guarded_run {ids : List String} (hids : ids.Nodup) {ops : List LockOp}
    (hclock : ops.Pairwise (fun a b => a.now ≤ b.now))
    (hun : Run.Along lockStep UncoversNothing { ids } ops) {now : DateTime}
    (hnow : ∀ op ∈ ops, op.now ≤ now) :
    Guarded now (Run.final lockStep { ids } ops) := by
  cases ops with
  | nil => exact .start hids now
  | cons op ops =>
      -- the clock of the invariant starts at the first call
      have hstart : ∀ i ∈ op :: ops, op.now ≤ i.now := by
        intro i hi
        rcases List.mem_cons.mp hi with rfl | hi
        · exact le_refl _
        · exact (List.pairwise_cons.mp hclock).1 i hi
      obtain ⟨t', hg, -, hlast⟩ := Run.invariant_timed LockOp.now
        (fun _ _ _ h hun hle => h.step hun hle) (Guarded.start hids op.now) hun hstart hclock
      exact hg.later (hlast now (hnow op (by simp)) hnow)

/-! ## Exclusion -/

/-- Two valid locks of one flight that share a seat are of one session. -/
def MutualExclusion (store : InMemorySeatLockStore) (now : DateTime) : Prop :=
  ∀ k k' r r', store.get k = some r → store.get k' = some r' →
    store.isValid k now = true → store.isValid k' now = true → r.flightId = r'.flightId →
    (∃ s ∈ r.seatIds, s ∈ r'.seatIds) → r.sessionId = r'.sessionId

theorem valid_of_get {store : InMemorySeatLockStore} {k : String} {r : LockRecord}
    {now : DateTime} (hr : store.get k = some r) :
    store.isValid k now = true ↔ now < r.expiresAt := by
  have hr' : store.byLock.get? k = some r := hr
  simp [isValid, hr']

theorem Guarded.exclusive {now : DateTime} {store : InMemorySeatLockStore}
    (h : Guarded now store) : MutualExclusion store now := by
  intro k k' r r' hr hr' hv hv' _ hshare
  obtain ⟨s, hs, hs'⟩ := hshare
  exact h.guards.exclusive (claimOf r) ⟨k, r, hr, rfl⟩ (claimOf r') ⟨k', r', hr', rfl⟩
    ((valid_of_get hr).mp hv) ((valid_of_get hr').mp hv') ⟨s, hs, hs'⟩

/-- A live lock turns every other session away from its seats. -/
theorem Guarded.conflict {now : DateTime} {store : InMemorySeatLockStore}
    (h : Guarded now store) {k : String} {r : LockRecord} (hr : store.byLock.get? k = some r)
    (hlive : now < r.expiresAt) {sessionId : SessionId} (hne : r.sessionId ≠ sessionId)
    {seatIds : List SeatId} (hshare : ∃ s ∈ r.seatIds, s ∈ seatIds) (flightId : FlightId) :
    ∃ conflicting, (store.acquire flightId seatIds sessionId now).1 =
      .ok (.conflict conflicting) := by
  have hbusy : store.findConflicts seatIds sessionId now ≠ [] := by
    intro hnil
    obtain ⟨s, hs, hs'⟩ := hshare
    exact h.guards.not_free (c := claimOf r) ⟨k, r, hr, rfl⟩ hlive hs hne
      (free_iff.mp hnil s hs')
  refine ⟨store.findConflicts seatIds sessionId now, ?_⟩
  simp [InMemorySeatLockStore.acquire, hbusy]

/-! ## A lock stays until it is released -/

theorem get?_byLock_step {store : InMemorySeatLockStore} (h : Consistent store) {op : LockOp}
    {k : String} {r : LockRecord} (hr : store.byLock.get? k = some r)
    (hkeep : ∀ now, op ≠ .release k now) : (lockStep store op).2.byLock.get? k = some r := by
  cases op with
  | acquire flightId seatIds sessionId now =>
      show (store.acquire flightId seatIds sessionId now).2.byLock.get? k = some r
      rcases acquire_granted_or_kept store flightId seatIds sessionId now with
        ⟨ids, -, hkept⟩ | ⟨_, hg⟩
      · rw [hkept]
        exact hr
      · exact h.kept hg hr
  | release lockId now =>
      have hne : lockId ≠ k := by
        intro he
        exact hkeep now (by rw [he])
      show (store.release lockId).byLock.get? k = some r
      rw [get?_byLock_release, if_neg hne]
      exact hr

theorem get?_byLock_run {store : InMemorySeatLockStore} (h : Consistent store)
    {ops : List LockOp} {k : String} {r : LockRecord} (hr : store.byLock.get? k = some r)
    (hkeep : ∀ now, .release k now ∉ ops) :
    (Run.final lockStep store ops).byLock.get? k = some r := by
  have hmem : ∀ op ∈ ops, ∀ now, op ≠ .release k now := by
    intro op hop now he
    exact hkeep now (he ▸ hop)
  exact (Run.invariant (I := fun store => Consistent store ∧ store.byLock.get? k = some r)
    (fun _ op hI hop => ⟨hI.1.step op, get?_byLock_step hI.1 hI.2 hop⟩) ⟨h, hr⟩
    (Run.Along.of_mem hmem store)).2

/-- What `acquire` returns is in `byLock`. -/
theorem get?_byLock_acquired {store : InMemorySeatLockStore} {flightId : FlightId}
    {seatIds : List SeatId} {sessionId : SessionId} {now : DateTime} {lock : SeatLock}
    (hlock : (store.acquire flightId seatIds sessionId now).1 = .ok (.lock lock)) :
    (store.acquire flightId seatIds sessionId now).2.byLock.get? lock.lockId =
      some (recordOf lock.lockId flightId seatIds sessionId now) := by
  rw [(acquire_locked hlock).byLock, if_pos rfl]

/-- **Mutual exclusion, while no release uncovers a live lock.** Over any run of
acquires and releases with fresh lock ids and a clock that never goes back, in
which no release takes the `bySeat` entry of a seat from another live lock:
valid locks of one flight that share a seat are of one session, and until its
ten minutes are over or it is released itself, a lock turns every other session
away from its seats. -/
theorem lock_mutual_exclusion {ids : List String} (hids : ids.Nodup) {ops : List LockOp}
    (hclock : ops.Pairwise (fun a b => a.now ≤ b.now))
    (hun : Run.Along lockStep UncoversNothing { ids } ops) {now : DateTime}
    (hnow : ∀ op ∈ ops, op.now ≤ now) :
    MutualExclusion (Run.final lockStep { ids } ops) now ∧
    ∀ before after flightId seatIds sessionId t lock,
      ops = before ++ .acquire flightId seatIds sessionId t :: after →
      ((Run.final lockStep { ids } before).acquire flightId seatIds sessionId t).1 =
        .ok (.lock lock) →
      (∀ t', .release lock.lockId t' ∉ after) → now < t.add lockTtl →
      ∀ flightId' seatIds' sessionId', sessionId ≠ sessionId' →
        (∃ s ∈ seatIds, s ∈ seatIds') →
        ∃ conflicting, ((Run.final lockStep { ids } ops).acquire flightId' seatIds' sessionId'
          now).1 = .ok (.conflict conflicting) := by
  have hg := guarded_run hids hclock hun hnow
  refine ⟨hg.exclusive, ?_⟩
  intro before after flightId seatIds sessionId t lock hops hlock hkeep hlive flightId' seatIds'
    sessionId' hne hshare
  have hbefore : Consistent (Run.final lockStep { ids } before) := .run hids before
  have hget : (Run.final lockStep { ids } ops).byLock.get? lock.lockId =
      some (recordOf lock.lockId flightId seatIds sessionId t) := by
    rw [hops, Run.final_append, Run.final_cons]
    exact get?_byLock_run (hbefore.step _) (get?_byLock_acquired hlock) hkeep
  exact hg.conflict hget hlive hne hshare flightId'

/-- A seat that is locked, released and locked by someone else. -/
theorem lock_mutual_exclusion_handover :
    let ops : List LockOp := [.acquire ⟨"FL-LAX-NYC-0800"⟩ [⟨"30F"⟩] ⟨"S1"⟩ testNow,
      .release "L001" testNow, .acquire ⟨"FL-LAX-NYC-0800"⟩ [⟨"30F"⟩] ⟨"S2"⟩ testNow]
    MutualExclusion (Run.final lockStep { ids := ["L001", "L002"] } ops) testNow :=
  (lock_mutual_exclusion (by decide) (by decide) (by decide) (by decide)).1

/-- One session locks seat 12C, then 12C together with 12D, and commits 12D
under its second lock. The release clears 12C, another session locks it, and the
first lock is still valid. -/
theorem relocked_seat_is_released :
    let ops : List Op := [
      .acquire ⟨"FL-LAX-NYC-0800"⟩ [⟨"12C"⟩] ⟨"S1"⟩,
      .acquire ⟨"FL-LAX-NYC-0800"⟩ [⟨"12C"⟩, ⟨"12D"⟩] ⟨"S1"⟩,
      .commit .wired { commitFor "FL-LAX-NYC-0800" ["12D"] with
        lockId := some "L002", sessionId := some ⟨"S1"⟩ },
      .acquire ⟨"FL-LAX-NYC-0800"⟩ [⟨"12C"⟩] ⟨"S2"⟩]
    let c := Run.final step (seededContainer [seededFlight "FL-LAX-NYC-0800" ["12C", "12D"]]) ops
    ¬ MutualExclusion c.seatLockStore testNow := by
  intro ops c h
  have hsame := h "L001" "L003" _ _ rfl rfl (by decide) (by decide) rfl
    ⟨⟨"12C"⟩, by decide, by decide⟩
  exact absurd hsame (by decide)

/-- A release that uncovers a live lock lets any other session take a seat of it at
once. -/
theorem Guarded.uncovered {now : DateTime} {store : InMemorySeatLockStore}
    (h : Guarded now store) {lockId : String}
    (hun : ¬ UncoversNothing store (.release lockId now)) (hids : store.ids ≠ [])
    (hrange : (now.add lockTtl).InRange) :
    ∃ k r, store.byLock.get? k = some r ∧ ∃ s ∈ r.seatIds, ∀ sessionId, r.sessionId ≠ sessionId →
      ¬ MutualExclusion ((store.release lockId).acquire r.flightId [s] sessionId now).2 now := by
  simp only [UncoversNothing, not_forall, not_not] at hun
  obtain ⟨k, r, hr, hk, hlive, s, hs, g, hg, hgid⟩ := hun
  have hcons := h.consistent.release lockId
  have hr' : (store.release lockId).byLock.get? k = some r := by
    rw [get?_byLock_release, if_neg (Ne.symm hk)]
    exact hr
  have hfree : (store.release lockId).bySeat.get? s = none := by
    simp [get?_bySeat_release h.consistent, hg, Option.filter_some, hgid]
  refine ⟨k, r, hr, s, hs, ?_⟩
  intro sessionId hne hex
  have hnil : (store.release lockId).findConflicts [s] sessionId now = [] := by
    rw [findConflicts_eq_nil_iff]
    intro s' hs' q hq
    rw [List.mem_singleton.mp hs', hfree] at hq
    cases hq
  -- the seat is free now, and whoever takes it joins the lock that was uncovered
  obtain ⟨id, hgrant⟩ := (acquire_exit (store.release lockId) r.flightId [s] sessionId now).free
    hnil (by rw [ids_release]; exact hids) hrange
  have hold := hcons.kept hgrant hr'
  have hnew := hgrant.byLock id
  rw [if_pos rfl] at hnew
  have hlive' : now < (recordOf id r.flightId [s] sessionId now).expiresAt := by
    simp only [recordOf, DateTime.lt_iff, DateTime.instant_add, lockTtl, DateTime.minutes,
      DateTime.microsPerSecond]
    omega
  exact hne (hex k id r _ hold hnew ((valid_of_get hold).mpr hlive)
    ((valid_of_get hnew).mpr hlive') rfl ⟨s, hs, by simp [recordOf]⟩)

/-- The condition is exact: a release uncovers nothing if and only if the locks exclude
each other after it, whoever asks next. -/
theorem Guarded.release_exclusive_iff {now : DateTime} {store : InMemorySeatLockStore}
    (h : Guarded now store) (lockId : String) (hids : store.ids ≠ [])
    (hrange : (now.add lockTtl).InRange) :
    UncoversNothing store (.release lockId now) ↔ ∀ flightId seatIds sessionId,
      MutualExclusion ((store.release lockId).acquire flightId seatIds sessionId now).2 now := by
  constructor
  · intro hun flightId seatIds sessionId
    exact ((h.release hun).acquire flightId seatIds sessionId).exclusive
  · intro hall
    by_contra hun
    obtain ⟨k, r, -, s, -, hbroken⟩ := h.uncovered hun hids hrange
    -- any session but the owner's
    have hother : r.sessionId ≠ ⟨r.sessionId.value ++ "'"⟩ := by
      intro he
      have hlength := congrArg (fun id => id.value.length) he
      simp at hlength
    exact hbroken _ hother (hall r.flightId [s] _)

end InMemorySeatLockStore

/-! ## The container's lock store -/

theorem lockStore_consistent_step {c : Container} (h : c.seatLockStore.Consistent) (op : Op) :
    (step c op).2.seatLockStore.Consistent := by
  cases step_locks c op with
  | kept hkept => exact hkept ▸ h
  | acquired hacq =>
      rw [hacq]
      exact h.acquire _ _ _ _
  | released hs hl hrel =>
      rw [hrel]
      exact h.release _

theorem lockStore_consistent {c : Container} (h : c.seatLockStore.Consistent) (ops : List Op) :
    (Run.final step c ops).seatLockStore.Consistent :=
  Run.invariant_all (I := fun c : Container => c.seatLockStore.Consistent)
    (fun _ op h => lockStore_consistent_step h op) h ops

/-- What a commit releases, if it does, uncovers no live lock. -/
def Op.UncoversNothing (c : Container) : Op → Prop
  | .commit _ request => ∀ lockId, request.lockId = some lockId →
      c.seatLockStore.UncoversNothing (.release lockId c.clock)
  | _ => True

/-- The lock store of a container runs on the calls of its services, each made
at the clock of the container. -/
theorem lockStore_run {c : Container} {ops : List Op} (hclock : Run.Along step Forward c ops) :
    ∃ calls : List LockOp,
      (Run.final step c ops).seatLockStore = Run.final lockStep c.seatLockStore calls ∧
      calls.Pairwise (fun a b => a.now ≤ b.now) ∧
      c.clock ≤ (Run.final step c ops).clock ∧
      (∀ call ∈ calls, c.clock ≤ call.now ∧ call.now ≤ (Run.final step c ops).clock) ∧
      (Run.Along step Op.UncoversNothing c ops →
        Run.Along lockStep InMemorySeatLockStore.UncoversNothing c.seatLockStore calls) := by
  induction ops generalizing c with
  | nil => exact ⟨[], rfl, .nil, le_refl _, by simp, fun _ => trivial⟩
  | cons op ops ih =>
      obtain ⟨calls, hstore, hsorted, hend, hbounds, huncovers⟩ := ih hclock.2
      have hle := hclock.1.le
      have hlater : ∀ call ∈ calls, c.clock ≤ call.now := fun call hm =>
        le_trans hle (hbounds call hm).1
      -- a call of this step comes before all that follow
      have hfirst : ∀ call : LockOp, call.now = c.clock →
          (lockStep c.seatLockStore call).2 = (step c op).2.seatLockStore →
          (op.UncoversNothing c → c.seatLockStore.UncoversNothing call) →
          ∃ calls : List LockOp,
            (Run.final step c (op :: ops)).seatLockStore =
              Run.final lockStep c.seatLockStore calls ∧
            calls.Pairwise (fun a b => a.now ≤ b.now) ∧
            c.clock ≤ (Run.final step c (op :: ops)).clock ∧
            (∀ call ∈ calls, c.clock ≤ call.now ∧
              call.now ≤ (Run.final step c (op :: ops)).clock) ∧
            (Run.Along step Op.UncoversNothing c (op :: ops) →
              Run.Along lockStep InMemorySeatLockStore.UncoversNothing c.seatLockStore calls) := by
        intro call hnow hcall hcovered
        refine ⟨call :: calls, ?_, ?_, le_trans hle hend, ?_, ?_⟩
        · rw [Run.final_cons, Run.final_cons, hcall]
          exact hstore
        · exact List.Pairwise.cons (fun call' hm => hnow ▸ hlater call' hm) hsorted
        · intro call' hm
          rcases List.mem_cons.mp hm with rfl | hm
          · rw [hnow]
            exact ⟨le_refl _, le_trans hle hend⟩
          · exact ⟨hlater call' hm, (hbounds call' hm).2⟩
        · intro hun
          exact ⟨hcovered hun.1, hcall ▸ huncovers hun.2⟩
      cases step_locks c op with
      | kept hkept =>
          refine ⟨calls, ?_, hsorted, le_trans hle hend, fun call hm =>
            ⟨hlater call hm, (hbounds call hm).2⟩, ?_⟩
          · rw [Run.final_cons, ← hkept]
            exact hstore
          · intro hun
            rw [← hkept]
            exact huncovers hun.2
      | @acquired flightId seatIds sessionId _ hacq =>
          exact hfirst (.acquire flightId seatIds sessionId c.clock) rfl hacq.symm
            fun _ => trivial
      | @released env request total result ref rest lockId _ hs hl hrel =>
          exact hfirst (.release lockId c.clock) rfl hrel.symm fun hun => hun lockId hl

/-- **Exclusion among the services.** Over any run of the services whose clock never goes
back and whose commits uncover no live lock, valid locks of one flight that share a seat
are of one session. -/
theorem services_mutual_exclusion {c : Container} {ids : List String}
    (hstart : c.seatLockStore = { ids }) (hids : ids.Nodup) {ops : List Op}
    (hclock : Run.Along step Forward c ops) (hun : Run.Along step Op.UncoversNothing c ops) :
    (Run.final step c ops).seatLockStore.MutualExclusion (Run.final step c ops).clock := by
  obtain ⟨calls, hstore, hsorted, -, hbounds, huncovers⟩ := lockStore_run hclock
  have hcalls := huncovers hun
  rw [hstart] at hstore hcalls
  rw [hstore]
  exact (InMemorySeatLockStore.guarded_run hids hsorted hcalls
    fun call hm => (hbounds call hm).2).exclusive

end FlightBooking
