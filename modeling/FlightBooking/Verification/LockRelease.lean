import FlightBooking.Verification.LockExclusion

/-!
# LockRelease — what a release takes out of the two maps

The maps are kept in step by every call, in whatever order sessions lock a seat
again, overlap or release. A release then comes down to two filters: of
`bySeat` by the lock a record names, of `byLock` by its key.
-/

namespace FlightBooking

open Py

namespace InMemorySeatLockStore

/-! ## The maps after a release -/

section Release

variable {store : InMemorySeatLockStore}

theorem release_unknown {lockId : String} (h : store.byLock.get? lockId = none) :
    store.release lockId = store := by
  unfold release
  rw [h]

/-- Releasing a lock twice is releasing it once. -/
theorem release_release (lockId : String) :
    (store.release lockId).release lockId = store.release lockId := by
  apply release_unknown
  rw [get?_byLock_release, if_pos rfl]

end Release

/-- **The two maps.** After any acquires and releases with fresh lock ids, an entry
of `bySeat` is a lock of `byLock` that covers the seat, and an entry of `byLock`
has its own key. A release takes out the entries that name the lock and nothing
else: other locks are as valid as before, other seats as locked, no entry is left
that names the lock, and a second release changes nothing. -/
theorem release_takes_one_lock {ids : List String} (hids : ids.Nodup) (ops : List LockOp) :
    let store := Run.final lockStep { ids } ops
    (∀ s r, store.bySeat.get? s = some r →
      store.byLock.get? r.lockId = some r ∧ s ∈ r.seatIds) ∧
    (∀ k r, store.byLock.get? k = some r → r.lockId = k) ∧
    ∀ lockId,
      (store.release lockId).bySeat.entries =
        store.bySeat.entries.filter (fun e => e.2.lockId ≠ lockId) ∧
      (store.release lockId).byLock.entries =
        store.byLock.entries.filter (fun e => e.1 ≠ lockId) ∧
      (store.release lockId).ids = store.ids ∧
      (∀ k, k ≠ lockId → (store.release lockId).get k = store.get k ∧
        ∀ now, (store.release lockId).isValid k now = store.isValid k now) ∧
      (∀ s r, store.bySeat.get? s = some r → r.lockId ≠ lockId →
        (store.release lockId).bySeat.get? s = some r) ∧
      (∀ s r, (store.release lockId).bySeat.get? s = some r → r.lockId ≠ lockId) ∧
      (store.release lockId).release lockId = store.release lockId := by
  intro store
  have h : Consistent store := .run hids ops
  refine ⟨h.indexed, h.keyed, fun lockId => ?_⟩
  refine ⟨entries_bySeat_release h lockId, entries_byLock_release lockId, ids_release lockId,
    ?_, ?_, ?_, release_release lockId⟩
  · intro k hne
    have hget : (store.release lockId).byLock.get? k = store.byLock.get? k := by
      rw [get?_byLock_release, if_neg (Ne.symm hne)]
    refine ⟨hget, fun now => ?_⟩
    unfold isValid
    rw [hget]
  · intro s r hr hne
    simp [get?_bySeat_release h, hr, Option.filter_some, hne]
  · intro s r hr
    rw [get?_bySeat_release h, Option.filter_eq_some_iff] at hr
    simpa using hr.2

/-- A session locks 12C, then 12C and 12D; releasing the second lock leaves the
first one valid, without an entry for its seat. -/
theorem release_takes_one_lock_overlap :
    let ops : List LockOp := [.acquire ⟨"FL-LAX-NYC-0800"⟩ [⟨"12C"⟩] ⟨"S1"⟩ testNow,
      .acquire ⟨"FL-LAX-NYC-0800"⟩ [⟨"12C"⟩, ⟨"12D"⟩] ⟨"S1"⟩ testNow]
    let store := Run.final lockStep { ids := ["L001", "L002"] } ops
    (store.release "L002").bySeat.entries = [] ∧
      (store.release "L002").isValid "L001" testNow = true ∧
      (store.release "L002").release "L002" = store.release "L002" := by
  intro ops store
  obtain ⟨-, -, hrelease⟩ :=
    release_takes_one_lock (show ["L001", "L002"].Nodup by decide) ops
  obtain ⟨hseat, -, -, hother, -, -, htwice⟩ := hrelease "L002"
  refine ⟨hseat.trans (by decide), ?_, htwice⟩
  rw [(hother "L001" (by decide)).2 testNow]
  decide

end InMemorySeatLockStore

end FlightBooking
