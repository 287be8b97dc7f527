import FlightBooking.Lib.Run
import FlightBooking.Adapters.SeatLockStore

/-!
# SeatLockSpec — the seat-lock store as a machine

One input is one call of `acquire` or `release`, with the instant at which it is
made. `Granted` and `get?_bySeat_release` say what the two maps hold
afterwards; `Consistent` is what keeps them in step: an entry of `bySeat` is a
lock that `byLock` knows and that covers the seat. The converse fails, a lock of
`byLock` need not be the one `bySeat` names.
-/

namespace FlightBooking

open Py

/-- A call of the store. `release` does not look at the clock. -/
inductive LockOp where
  | acquire (flightId : FlightId) (seatIds : List SeatId) (sessionId : SessionId)
      (now : DateTime)
  | release (lockId : String) (now : DateTime)
deriving DecidableEq, Repr

/-- The instant of the call. -/
def LockOp.now : LockOp → DateTime
  | .acquire _ _ _ now => now
  | .release _ now => now

inductive LockOutput where
  | acquired (result : Except Exn AcquireOutcome)
  | released

def lockStep (store : InMemorySeatLockStore) : LockOp → LockOutput × InMemorySeatLockStore
  | .acquire flightId seatIds sessionId now =>
      let (result, store) := store.acquire flightId seatIds sessionId now
      (.acquired result, store)
  | .release lockId _ => (.released, store.release lockId)

namespace InMemorySeatLockStore

/-! ## Acquire -/

/-- The record that `acquire` installs. -/
def recordOf (lockId : String) (flightId : FlightId) (seatIds : List SeatId)
    (sessionId : SessionId) (now : DateTime) : LockRecord where
  lockId := lockId
  flightId := flightId
  seatIds := seatIds
  sessionId := sessionId
  expiresAt := now.add lockTtl

/-- The call is granted as `lockId`: one more lock, and it is the one that every
seat of the call names. -/
structure Granted (store : InMemorySeatLockStore) (flightId : FlightId) (seatIds : List SeatId)
    (sessionId : SessionId) (now : DateTime) (lockId : String) (store' : InMemorySeatLockStore) :
    Prop where
  free : store.findConflicts seatIds sessionId now = []
  inRange : (now.add lockTtl).InRange
  drawn : store.ids = lockId :: store'.ids
  byLock : ∀ k, store'.byLock.get? k =
    if lockId = k then some (recordOf lockId flightId seatIds sessionId now)
    else store.byLock.get? k
  bySeat : ∀ s, store'.bySeat.get? s =
    if s ∈ seatIds then some (recordOf lockId flightId seatIds sessionId now)
    else store.bySeat.get? s

/-- The ways out of `acquire`: result and store after. -/
inductive AcquireExit (store : InMemorySeatLockStore) (flightId : FlightId)
    (seatIds : List SeatId) (sessionId : SessionId) (now : DateTime) :
    Except Exn AcquireOutcome → InMemorySeatLockStore → Prop
  | conflict (h : store.findConflicts seatIds sessionId now ≠ []) :
      AcquireExit store flightId seatIds sessionId now
        (.ok (.conflict (store.findConflicts seatIds sessionId now))) store
  | exhausted (h : store.findConflicts seatIds sessionId now = []) (hids : store.ids = []) :
      AcquireExit store flightId seatIds sessionId now
        (.error (.indexError "pop from empty list")) store
  /-- No instant to expire at: the id has been drawn. -/
  | overflowed {lockId : String} {rest : List String}
      (h : store.findConflicts seatIds sessionId now = []) (hids : store.ids = lockId :: rest)
      (hrange : ¬ (now.add lockTtl).InRange) :
      AcquireExit store flightId seatIds sessionId now
        (.error (.overflowError "date value out of range")) { store with ids := rest }
  | granted {lockId : String} {store' : InMemorySeatLockStore}
      (h : Granted store flightId seatIds sessionId now lockId store') :
      AcquireExit store flightId seatIds sessionId now
        (.ok (.lock { lockId, flightId, seatIds, sessionId, expiresAt := now.add lockTtl }))
        store'

theorem acquire_exit (store : InMemorySeatLockStore) (flightId : FlightId)
    (seatIds : List SeatId) (sessionId : SessionId) (now : DateTime) :
    AcquireExit store flightId seatIds sessionId now
      (store.acquire flightId seatIds sessionId now).1
      (store.acquire flightId seatIds sessionId now).2 := by
  unfold acquire
  by_cases h : store.findConflicts seatIds sessionId now = []
  · simp only [h, ne_eq, not_true_eq_false, if_false]
    cases hids : store.ids with
    | nil => exact .exhausted h hids
    | cons lockId rest =>
        simp only [installLock]
        by_cases hrange : (now.add lockTtl).InRange
        · rw [DateTime.plus_eq_ok hrange]
          refine .granted ⟨h, hrange, hids, ?_, ?_⟩
          · intro k
            exact Dict.get?_set _ _ _ _
          · intro s
            exact Dict.get?_foldl_set _ _ _ _
        · rw [DateTime.plus_eq_error hrange]
          exact .overflowed h hids hrange
  · simp only [h, ne_eq, not_false_eq_true, if_true]
    exact .conflict h

section Exits

variable {store store' : InMemorySeatLockStore} {flightId : FlightId} {seatIds : List SeatId}
  {sessionId : SessionId} {now : DateTime} {out : Except Exn AcquireOutcome}

theorem AcquireExit.granted_or_kept
    (h : AcquireExit store flightId seatIds sessionId now out store') :
    (∃ ids, ids <:+ store.ids ∧ store' = { store with ids }) ∨
      ∃ lockId, Granted store flightId seatIds sessionId now lockId store' := by
  cases h with
  | conflict => exact .inl ⟨_, List.suffix_rfl, rfl⟩
  | exhausted => exact .inl ⟨_, List.suffix_rfl, rfl⟩
  | overflowed _ hids => exact .inl ⟨_, hids ▸ List.suffix_cons _ _, rfl⟩
  | granted h => exact .inr ⟨_, h⟩

/-- A call either is granted or leaves the maps as they were. -/
theorem acquire_granted_or_kept (store : InMemorySeatLockStore) (flightId : FlightId)
    (seatIds : List SeatId) (sessionId : SessionId) (now : DateTime) :
    (∃ ids, ids <:+ store.ids ∧
      (store.acquire flightId seatIds sessionId now).2 = { store with ids }) ∨
      ∃ lockId, Granted store flightId seatIds sessionId now lockId
        (store.acquire flightId seatIds sessionId now).2 :=
  (acquire_exit store flightId seatIds sessionId now).granted_or_kept

theorem AcquireExit.locked {lock : SeatLock}
    (h : AcquireExit store flightId seatIds sessionId now (.ok (.lock lock)) store') :
    Granted store flightId seatIds sessionId now lock.lockId store' := by
  cases h with
  | granted h => exact h

/-- A call that returns a lock was granted under the lock's id. -/
theorem acquire_locked {lock : SeatLock}
    (h : (store.acquire flightId seatIds sessionId now).1 = .ok (.lock lock)) :
    Granted store flightId seatIds sessionId now lock.lockId
      (store.acquire flightId seatIds sessionId now).2 := by
  have hexit := acquire_exit store flightId seatIds sessionId now
  rw [h] at hexit
  exact hexit.locked

theorem AcquireExit.free (h : AcquireExit store flightId seatIds sessionId now out store')
    (hfree : store.findConflicts seatIds sessionId now = []) (hids : store.ids ≠ [])
    (hrange : (now.add lockTtl).InRange) :
    ∃ lockId, Granted store flightId seatIds sessionId now lockId store' := by
  cases h with
  | conflict hbusy => exact absurd hfree hbusy
  | exhausted _ hnone => exact absurd hnone hids
  | overflowed _ _ hover => exact absurd hrange hover
  | granted h => exact ⟨_, h⟩

end Exits

/-- No conflict: every live record on the seats is the session's own. -/
theorem findConflicts_eq_nil_iff {store : InMemorySeatLockStore} {seatIds : List SeatId}
    {sessionId : SessionId} {now : DateTime} :
    store.findConflicts seatIds sessionId now = [] ↔
      ∀ s ∈ seatIds, ∀ r, store.bySeat.get? s = some r → now < r.expiresAt →
        r.sessionId = sessionId := by
  unfold findConflicts
  rw [List.filter_eq_nil_iff]
  apply forall₂_congr
  intro s hs
  unfold conflicts
  cases store.bySeat.get? s with
  | none => simp
  | some r =>
      simp only [Option.some.injEq, forall_eq']
      by_cases hle : r.expiresAt ≤ now
      · have hnot : ¬ now < r.expiresAt := DateTime.not_lt.mpr hle
        simp [hle, hnot]
      · have hlt : now < r.expiresAt := DateTime.not_le.mp hle
        by_cases he : r.sessionId = sessionId <;> simp [hle, hlt, he]

/-! ## Release -/

/-- One turn of the loop keeps the entries of other seats and of other locks. -/
theorem entries_releaseSeat (lockId : String) (m : Dict SeatId LockRecord) (seatId : SeatId) :
    (releaseSeat lockId m seatId).entries =
      m.entries.filter (fun e => e.1 ≠ seatId ∨ e.2.lockId ≠ lockId) := by
  have hvalue : ∀ e ∈ m.entries, e.1 = seatId → m.get? seatId = some e.2 := by
    rintro e he rfl
    exact Dict.get?_eq_some_iff.mpr he
  unfold releaseSeat
  cases hm : m.get? seatId with
  | none =>
      refine (List.filter_eq_self.mpr fun e he => ?_).symm
      have hne : e.1 ≠ seatId := by
        intro heq
        rw [hvalue e he heq] at hm
        cases hm
      simp [hne]
  | some current =>
      have hcurrent : ∀ e ∈ m.entries, e.1 = seatId → e.2 = current := by
        intro e he heq
        exact Option.some.inj ((hvalue e he heq).symm.trans hm)
      by_cases hl : current.lockId = lockId
      · simp only [hl, if_true]
        refine List.filter_congr fun e he => ?_
        by_cases heq : e.1 = seatId
        · simp [heq, hcurrent e he heq, hl]
        · simp [heq]
      · simp only [hl, if_false]
        refine (List.filter_eq_self.mpr fun e he => ?_).symm
        by_cases heq : e.1 = seatId
        · simp [hcurrent e he heq, hl]
        · simp [heq]

theorem entries_foldl_releaseSeat (lockId : String) (seatIds : List SeatId)
    (m : Dict SeatId LockRecord) :
    (seatIds.foldl (releaseSeat lockId) m).entries =
      m.entries.filter (fun e => e.1 ∉ seatIds ∨ e.2.lockId ≠ lockId) := by
  induction seatIds generalizing m with
  | nil => simp
  | cons seatId rest ih =>
      rw [List.foldl_cons, ih, entries_releaseSeat, List.filter_filter]
      refine List.filter_congr fun e _ => ?_
      by_cases heq : e.1 = seatId <;> by_cases hl : e.2.lockId = lockId <;> simp [heq, hl]

theorem get?_foldl_releaseSeat (lockId : String) (seatIds : List SeatId)
    (m : Dict SeatId LockRecord) (s : SeatId) :
    (seatIds.foldl (releaseSeat lockId) m).get? s =
      if s ∈ seatIds then (m.get? s).filter (fun r => r.lockId ≠ lockId) else m.get? s := by
  rw [Dict.get?_of_entries_filter (entries_foldl_releaseSeat lockId seatIds m)]
  by_cases hs : s ∈ seatIds <;> simp [hs]

/-! ## The two maps agree -/

/-- What holds between the maps at every moment. -/
structure Consistent (store : InMemorySeatLockStore) : Prop where
  /-- `bySeat` names known locks that cover the seat. -/
  indexed : ∀ s r, store.bySeat.get? s = some r →
    store.byLock.get? r.lockId = some r ∧ s ∈ r.seatIds
  keyed : ∀ k r, store.byLock.get? k = some r → r.lockId = k
  idsNodup : store.ids.Nodup
  idsFresh : ∀ id ∈ store.ids, store.byLock.get? id = none

theorem Consistent.start {ids : List String} (h : ids.Nodup) :
    Consistent ({ ids } : InMemorySeatLockStore) where
  indexed := by simp
  keyed := by simp
  idsNodup := h
  idsFresh := by simp

section Kept

variable {store : InMemorySeatLockStore}

/-- From `byLock` goes the entry of the lock. -/
theorem entries_byLock_release (lockId : String) :
    (store.release lockId).byLock.entries =
      store.byLock.entries.filter (fun e => e.1 ≠ lockId) := by
  unfold release
  cases hl : store.byLock.get? lockId with
  | none =>
      refine (List.filter_eq_self.mpr fun e he => ?_).symm
      have hne : e.1 ≠ lockId := by
        intro heq
        rw [← heq, Dict.get?_eq_some_iff.mpr he] at hl
        cases hl
      simp [hne]
  | some lock => rfl

theorem get?_byLock_release (lockId k : String) :
    (store.release lockId).byLock.get? k =
      if lockId = k then none else store.byLock.get? k := by
  rw [Dict.get?_of_entries_filter (entries_byLock_release lockId)]
  by_cases hk : lockId = k
  · simp [hk]
  · simp [hk, Ne.symm hk]

/-- From `bySeat` go exactly the entries that name the lock; the others stay in
their places. -/
theorem entries_bySeat_release (h : Consistent store) (lockId : String) :
    (store.release lockId).bySeat.entries =
      store.bySeat.entries.filter (fun e => e.2.lockId ≠ lockId) := by
  unfold release
  cases hl : store.byLock.get? lockId with
  | none =>
      refine (List.filter_eq_self.mpr fun e he => ?_).symm
      have hknown := (h.indexed e.1 e.2 (Dict.get?_eq_some_iff.mpr he)).1
      have hne : e.2.lockId ≠ lockId := by
        intro heq
        rw [heq, hl] at hknown
        cases hknown
      simp [hne]
  | some lock =>
      have hid : lock.lockId = lockId := h.keyed lockId lock hl
      simp only [entries_foldl_releaseSeat, hid]
      refine List.filter_congr fun e he => ?_
      obtain ⟨hknown, hcovers⟩ := h.indexed e.1 e.2 (Dict.get?_eq_some_iff.mpr he)
      by_cases heq : e.2.lockId = lockId
      · -- an entry of the lock is on one of its seats, so the loop comes by
        rw [heq, hl] at hknown
        have hrecord : lock = e.2 := Option.some.inj hknown
        simp [heq, hrecord, hcovers]
      · simp [heq]

theorem get?_bySeat_release (h : Consistent store) (lockId : String) (s : SeatId) :
    (store.release lockId).bySeat.get? s =
      (store.bySeat.get? s).filter (fun r => r.lockId ≠ lockId) :=
  Dict.get?_of_entries_filter (entries_bySeat_release h lockId) s

/-- What a release leaves under a seat, by the record of the lock: one loop over
the seats of the record. -/
theorem get?_bySeat_release_record (lockId : String) (s : SeatId) :
    (store.release lockId).bySeat.get? s =
      match store.byLock.get? lockId with
      | none => store.bySeat.get? s
      | some record =>
          if s ∈ record.seatIds then
            (store.bySeat.get? s).filter (fun r => r.lockId ≠ record.lockId)
          else store.bySeat.get? s := by
  unfold release
  cases store.byLock.get? lockId with
  | none => rfl
  | some record => exact get?_foldl_releaseSeat _ _ _ _

theorem ids_release (lockId : String) : (store.release lockId).ids = store.ids := by
  unfold release
  cases store.byLock.get? lockId <;> rfl

/-- The id of a granted lock is new to the store. -/
theorem Consistent.fresh (h : Consistent store) {store' : InMemorySeatLockStore}
    {flightId : FlightId} {seatIds : List SeatId} {sessionId : SessionId} {now : DateTime}
    {lockId : String} (hg : Granted store flightId seatIds sessionId now lockId store') :
    store.byLock.get? lockId = none :=
  h.idsFresh lockId (by simp [hg.drawn])

/-- A grant leaves the locks that are there. -/
theorem Consistent.kept (h : Consistent store) {store' : InMemorySeatLockStore}
    {flightId : FlightId} {seatIds : List SeatId} {sessionId : SessionId} {now : DateTime}
    {lockId : String} (hg : Granted store flightId seatIds sessionId now lockId store')
    {k : String} {r : LockRecord} (hr : store.byLock.get? k = some r) :
    store'.byLock.get? k = some r := by
  have hne : lockId ≠ k := by
    intro he
    rw [← he, h.fresh hg] at hr
    cases hr
  rw [hg.byLock, if_neg hne]
  exact hr

/-- The id of a granted lock is not drawn again. -/
theorem Consistent.used (h : Consistent store) {store' : InMemorySeatLockStore}
    {flightId : FlightId} {seatIds : List SeatId} {sessionId : SessionId} {now : DateTime}
    {lockId : String} (hg : Granted store flightId seatIds sessionId now lockId store') :
    lockId ∉ store'.ids ∧ store'.ids.Nodup := by
  have hnodup := h.idsNodup
  rw [hg.drawn, List.nodup_cons] at hnodup
  exact hnodup

theorem Consistent.granted (h : Consistent store) {store' : InMemorySeatLockStore}
    {flightId : FlightId} {seatIds : List SeatId} {sessionId : SessionId} {now : DateTime}
    {lockId : String} (hg : Granted store flightId seatIds sessionId now lockId store') :
    Consistent store' := by
  refine ⟨?_, ?_, (h.used hg).2, ?_⟩
  · intro s r hr
    rw [hg.bySeat] at hr
    split at hr
    · rename_i hm
      cases hr
      exact ⟨by rw [hg.byLock]; exact if_pos rfl, hm⟩
    · obtain ⟨hr', hm⟩ := h.indexed s r hr
      exact ⟨h.kept hg hr', hm⟩
  · intro k r hr
    rw [hg.byLock] at hr
    split at hr
    · rename_i he
      cases hr
      exact he
    · exact h.keyed k r hr
  · intro id hid
    have hne : lockId ≠ id := fun he => (h.used hg).1 (he ▸ hid)
    rw [hg.byLock, if_neg hne]
    exact h.idsFresh id (by simp [hg.drawn, hid])

theorem Consistent.withIds (h : Consistent store) {ids : List String} (hnodup : ids.Nodup)
    (hfresh : ∀ id ∈ ids, store.byLock.get? id = none) : Consistent { store with ids } where
  indexed := h.indexed
  keyed := h.keyed
  idsNodup := hnodup
  idsFresh := hfresh

/-- Ids that are drawn for nothing are not missed. -/
theorem Consistent.drawn (h : Consistent store) {ids : List String} (hids : ids <:+ store.ids) :
    Consistent { store with ids } :=
  h.withIds (h.idsNodup.sublist hids.sublist) fun id hid => h.idsFresh id (hids.subset hid)

theorem Consistent.acquire (h : Consistent store) (flightId : FlightId)
    (seatIds : List SeatId) (sessionId : SessionId) (now : DateTime) :
    Consistent (store.acquire flightId seatIds sessionId now).2 := by
  rcases acquire_granted_or_kept store flightId seatIds sessionId now with
    ⟨ids, hids, hkept⟩ | ⟨lockId, hg⟩
  · rw [hkept]
    exact h.drawn hids
  · exact h.granted hg

theorem Consistent.release (h : Consistent store) (lockId : String) :
    Consistent (store.release lockId) := by
  refine ⟨?_, ?_, (ids_release lockId).symm ▸ h.idsNodup, ?_⟩
  · intro s r hr
    rw [get?_bySeat_release h, Option.filter_eq_some_iff] at hr
    obtain ⟨hr, hne⟩ := hr
    obtain ⟨hl, hm⟩ := h.indexed s r hr
    have hne' : lockId ≠ r.lockId := by
      intro he
      simp [he] at hne
    exact ⟨by rw [get?_byLock_release, if_neg hne']; exact hl, hm⟩
  · intro k r hr
    rw [get?_byLock_release] at hr
    split at hr
    · cases hr
    · exact h.keyed k r hr
  · intro id hid
    rw [ids_release] at hid
    rw [get?_byLock_release]
    split
    · rfl
    · exact h.idsFresh id hid

theorem Consistent.step (h : Consistent store) (op : LockOp) :
    Consistent (lockStep store op).2 := by
  cases op with
  | acquire flightId seatIds sessionId now => exact h.acquire flightId seatIds sessionId now
  | release lockId now => exact h.release lockId

/-- The maps of a store that was empty and has answered any calls. -/
theorem Consistent.run {ids : List String} (hids : ids.Nodup) (ops : List LockOp) :
    Consistent (Run.final lockStep { ids } ops) :=
  Run.invariant_all (fun _ op h => h.step op) (.start hids) ops

end Kept

end InMemorySeatLockStore

end FlightBooking
