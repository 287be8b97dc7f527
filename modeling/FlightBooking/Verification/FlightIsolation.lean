import FlightBooking.Application.SeatServices
import FlightBooking.Verification.SeatLockSpec

/-!
# FlightIsolation — locks of one flight and locks of another

`bySeat` is keyed by the seat alone, and seat ids repeat on every flight. The
calls on one flight can therefore notice another one through a record that
`bySeat` files under a seat they share, while that record may still live. As
long as no call meets such a record, the history of a flight is what it would be
without the others: an unwinding between the two stores.
-/

namespace FlightBooking

open Py InMemorySeatLockStore

/-- A call of the store or a look at it, with the lock id that an acquire would
get. `view` is the seat map of a flight with the cabin that it has then. -/
inductive HoldOp where
  | acquire (lockId : String) (flightId : FlightId) (seatIds : List SeatId)
      (sessionId : SessionId) (now : DateTime)
  | release (lockId : String)
  | isValid (lockId : String) (now : DateTime)
  | get (lockId : String)
  | view (flightId : FlightId) (cabin : Cabin) (sessionId : Option SessionId) (now : DateTime)

inductive HoldOutput where
  | acquired (result : Except Exn AcquireOutcome)
  | released
  | valid (answer : Bool)
  | found (record : Option LockRecord)
  | locked (seatIds : List SeatId)
deriving DecidableEq

/-- One input. The ids callable of an acquire yields the id of the request. -/
def holdStep (store : InMemorySeatLockStore) : HoldOp → HoldOutput × InMemorySeatLockStore
  | .acquire lockId flightId seatIds sessionId now =>
      let (result, store) :=
        InMemorySeatLockStore.acquire { store with ids := [lockId] } flightId seatIds sessionId now
      (.acquired result, { store with ids := [] })
  | .release lockId => (.released, store.release lockId)
  | .isValid lockId now => (.valid (store.isValid lockId now), store)
  | .get lockId => (.found (store.get lockId), store)
  | .view _ cabin sessionId now =>
      (.locked (SeatMapService.seatsLockedAgainstSession store now cabin sessionId), store)

/-! ## Whose call it is -/

/-- The lock id that the call may issue, and the flight it is for. -/
def HoldOp.issues : HoldOp → Option (String × FlightId)
  | .acquire lockId flightId _ _ _ => some (lockId, flightId)
  | _ => none

/-- The lock ids of a history, each with its flight. -/
def issued (history : List HoldOp) : List (String × FlightId) := history.filterMap HoldOp.issues

/-- The call is about `flightId`: directly, or through a lock that `flightOf`
files under it. -/
def concerns (flightOf : String → Option FlightId) (flightId : FlightId) : HoldOp → Bool
  | .acquire _ flightId' _ _ _ => decide (flightId' = flightId)
  | .view flightId' _ _ _ => decide (flightId' = flightId)
  | .release lockId => decide (flightOf lockId = some flightId)
  | .isValid lockId _ => decide (flightOf lockId = some flightId)
  | .get lockId => decide (flightOf lockId = some flightId)

/-! ## The condition -/

/-- The instant at which a call reads `bySeat`, if it does. -/
def HoldOp.looksAt : HoldOp → Option DateTime
  | .acquire _ _ _ _ now => some now
  | .view _ _ _ now => some now
  | _ => none

/-- No call in `future` reads `bySeat` while `r` lives. -/
def Over (r : LockRecord) (future : List HoldOp) : Prop :=
  ∀ op ∈ future, ∀ now ∈ op.looksAt, r.expiresAt ≤ now

/-- The next call meets no record of another flight that matters: an acquire
none that is not over for good, a view none that lives and that it would mark. -/
def MeetsNone (store : InMemorySeatLockStore) (op : HoldOp) (later : List HoldOp) : Prop :=
  match op with
  | .acquire _ flightId seatIds _ _ =>
      ∀ s ∈ seatIds, ∀ r, store.bySeat.get? s = some r → r.flightId ≠ flightId →
        Over r (op :: later)
  | .view flightId cabin sessionId now =>
      ∀ s ∈ cabin.seats.keys, ∀ r, store.bySeat.get? s = some r → r.flightId ≠ flightId →
        now < r.expiresAt → sessionId = some r.sessionId
  | _ => True

/-- All along the history, no call meets a record of another flight. -/
def Apart : InMemorySeatLockStore → List HoldOp → Prop
  | _, [] => True
  | store, op :: later => MeetsNone store op later ∧ Apart (holdStep store op).2 later

instance (r : LockRecord) (future : List HoldOp) : Decidable (Over r future) :=
  inferInstanceAs (Decidable (∀ op ∈ future, ∀ now ∈ op.looksAt, r.expiresAt ≤ now))

instance (store : InMemorySeatLockStore) (op : HoldOp) (later : List HoldOp) :
    Decidable (MeetsNone store op later) :=
  match op with
  | .acquire lockId flightId seatIds sessionId now =>
      inferInstanceAs (Decidable (∀ s ∈ seatIds, ∀ r ∈ store.bySeat.get? s,
        r.flightId ≠ flightId → Over r (.acquire lockId flightId seatIds sessionId now :: later)))
  | .view flightId cabin sessionId now =>
      inferInstanceAs (Decidable (∀ s ∈ cabin.seats.keys, ∀ r ∈ store.bySeat.get? s,
        r.flightId ≠ flightId → now < r.expiresAt → sessionId = some r.sessionId))
  | .release _ => inferInstanceAs (Decidable True)
  | .isValid _ _ => inferInstanceAs (Decidable True)
  | .get _ => inferInstanceAs (Decidable True)

instance decidableApart : (store : InMemorySeatLockStore) → (history : List HoldOp) →
    Decidable (Apart store history)
  | _, [] => inferInstanceAs (Decidable True)
  | store, op :: later =>
      have := decidableApart (holdStep store op).2 later
      inferInstanceAs (Decidable (MeetsNone store op later ∧ Apart (holdStep store op).2 later))

/-! ## Acquire, with an id of its own -/

/-- No seat is in the way, and there is an instant to expire at. -/
def Grants (store : InMemorySeatLockStore) (seatIds : List SeatId) (sessionId : SessionId)
    (now : DateTime) : Prop :=
  store.findConflicts seatIds sessionId now = [] ∧ (now.add lockTtl).InRange

/-- What a call comes to that is not granted. -/
def refusalOf (conflicts : List SeatId) : Except Exn AcquireOutcome :=
  if conflicts ≠ [] then .ok (.conflict conflicts)
  else .error (.overflowError "date value out of range")

/-- The call is not granted and changes nothing. -/
theorem hold_refused {store : InMemorySeatLockStore} {lockId : String} {flightId : FlightId}
    {seatIds : List SeatId} {sessionId : SessionId} {now : DateTime}
    (h : ¬ Grants store seatIds sessionId now) :
    holdStep store (.acquire lockId flightId seatIds sessionId now) =
      (.acquired (refusalOf (store.findConflicts seatIds sessionId now)),
        { store with ids := [] }) := by
  have hsame : InMemorySeatLockStore.findConflicts { store with ids := [lockId] } seatIds sessionId
      now = store.findConflicts seatIds sessionId now := rfl
  simp only [holdStep, InMemorySeatLockStore.acquire, hsame, refusalOf]
  by_cases hfree : store.findConflicts seatIds sessionId now = []
  · have hrange : ¬ (now.add lockTtl).InRange := fun hrange => h ⟨hfree, hrange⟩
    simp only [hfree, ne_eq, not_true_eq_false, if_false, installLock,
      DateTime.plus_eq_error hrange]
    rfl
  · rw [if_pos hfree, if_pos hfree]

/-- The call is granted: the record is filed under its id and its seats. -/
theorem hold_granted (lockId : String) (flightId : FlightId) {store : InMemorySeatLockStore}
    {seatIds : List SeatId} {sessionId : SessionId} {now : DateTime}
    (h : Grants store seatIds sessionId now) :
    let after := holdStep store (.acquire lockId flightId seatIds sessionId now)
    let record := recordOf lockId flightId seatIds sessionId now
    after.1 = .acquired (.ok (.lock ⟨lockId, flightId, seatIds, sessionId, now.add lockTtl⟩)) ∧
      (∀ k, after.2.byLock.get? k =
        if lockId = k then some record else store.byLock.get? k) ∧
      ∀ s, after.2.bySeat.get? s = if s ∈ seatIds then some record else store.bySeat.get? s := by
  have hfree : ¬ InMemorySeatLockStore.findConflicts { store with ids := [lockId] } seatIds
      sessionId now ≠ [] := not_not.mpr h.1
  simp only [holdStep, InMemorySeatLockStore.acquire, if_neg hfree, installLock,
    DateTime.plus_eq_ok h.2]
  exact ⟨rfl, fun k => Dict.get?_set _ _ _ _, fun s => Dict.get?_foldl_set _ _ _ _⟩

theorem InMemorySeatLockStore.Consistent.holdStep {store : InMemorySeatLockStore}
    (h : Consistent store) {op : HoldOp} (hfresh : ∀ e ∈ op.issues, store.byLock.get? e.1 = none) :
    Consistent (holdStep store op).2 := by
  cases op with
  | acquire lockId flightId seatIds sessionId now =>
      have hid : Consistent { store with ids := [lockId] } := by
        refine h.withIds (List.nodup_singleton lockId) ?_
        intro id hm
        rw [List.mem_singleton.mp hm]
        exact hfresh _ rfl
      exact (hid.acquire flightId seatIds sessionId now).withIds List.nodup_nil (by simp)
  | release lockId => exact h.release lockId
  | isValid lockId now => exact h
  | get lockId => exact h
  | view flightId cabin sessionId now => exact h

/-! ## The unwinding relation -/

/-- Everything that does not depend on the flight observed. -/
structure Issued (flightOf : String → Option FlightId) (later : List HoldOp)
    (store : InMemorySeatLockStore) : Prop where
  consistent : Consistent store
  known : ∀ e ∈ issued later, flightOf e.1 = some e.2
  nodup : ((issued later).map Prod.fst).Nodup
  fresh : ∀ e ∈ issued later, store.byLock.get? e.1 = none
  filed : ∀ k r, store.byLock.get? k = some r → flightOf k = some r.flightId

section Issued

variable {flightOf : String → Option FlightId} {op : HoldOp} {later : List HoldOp}
  {store : InMemorySeatLockStore}

theorem issued_cons_acquire (lockId : String) (flightId : FlightId) (seatIds : List SeatId)
    (sessionId : SessionId) (now : DateTime) :
    issued (.acquire lockId flightId seatIds sessionId now :: later) =
      (lockId, flightId) :: issued later := rfl

theorem Issued.step (h : Issued flightOf (op :: later) store) :
    Issued flightOf later (holdStep store op).2 := by
  have hnow : ∀ e ∈ op.issues, store.byLock.get? e.1 = none := by
    intro e he
    exact h.fresh e (List.mem_filterMap.mpr ⟨op, by simp, he⟩)
  have hcons := h.consistent.holdStep hnow
  have hlater : ∀ e ∈ issued later, e ∈ issued (op :: later) := by
    intro e he
    obtain ⟨op', hop', hi⟩ := List.mem_filterMap.mp he
    exact List.mem_filterMap.mpr ⟨op', by simp [hop'], hi⟩
  cases op with
  | acquire lockId flightId seatIds sessionId now =>
      have hnodup := h.nodup
      have hknown := h.known (lockId, flightId)
        (by rw [issued_cons_acquire]; exact List.mem_cons_self)
      rw [issued_cons_acquire, List.map_cons, List.nodup_cons] at hnodup
      -- no later request gets the id of this one
      have hne : ∀ e ∈ issued later, lockId ≠ e.1 := by
        intro e he hid
        exact hnodup.1 (List.mem_map.mpr ⟨e, he, hid.symm⟩)
      by_cases hgrants : Grants store seatIds sessionId now
      · obtain ⟨-, hlock, -⟩ := hold_granted lockId flightId hgrants
        refine ⟨hcons, fun e he => h.known e (hlater e he), hnodup.2, ?_, ?_⟩
        · intro e he
          rw [hlock, if_neg (hne e he)]
          exact h.fresh e (hlater e he)
        · intro k r hr
          rw [hlock] at hr
          split at hr
          · rename_i he
            cases hr
            exact he ▸ hknown
          · exact h.filed k r hr
      · rw [hold_refused hgrants] at hcons ⊢
        exact ⟨hcons, fun e he => h.known e (hlater e he), hnodup.2,
          fun e he => h.fresh e (hlater e he), h.filed⟩
  | release lockId =>
      refine ⟨hcons, h.known, h.nodup, ?_, ?_⟩
      · intro e he
        show (store.release lockId).byLock.get? e.1 = none
        rw [get?_byLock_release, h.fresh e he]
        split <;> rfl
      · intro k r hr
        have hr' : (store.release lockId).byLock.get? k = some r := hr
        rw [get?_byLock_release] at hr'
        split at hr'
        · cases hr'
        · exact h.filed k r hr'
  | isValid lockId now => exact ⟨hcons, h.known, h.nodup, h.fresh, h.filed⟩
  | get lockId => exact ⟨hcons, h.known, h.nodup, h.fresh, h.filed⟩
  | view flightId cabin sessionId now => exact ⟨hcons, h.known, h.nodup, h.fresh, h.filed⟩

end Issued

/-- The store of the whole history (`left`) and the one of the calls about
`flightId` only (`right`), with `later` still to come. -/
structure Unnoticed (flightOf : String → Option FlightId) (flightId : FlightId)
    (later : List HoldOp) (left right : InMemorySeatLockStore) : Prop where
  issuedLeft : Issued flightOf later left
  issuedRight : Issued flightOf (later.filter (concerns flightOf flightId)) right
  locks : ∀ k, flightOf k = some flightId → left.byLock.get? k = right.byLock.get? k
  /-- A seat that the left store files under the flight, the right one does too. -/
  own : ∀ s r, left.bySeat.get? s = some r → r.flightId = flightId →
    right.bySeat.get? s = some r
  /-- On any other seat the right store has nothing that matters any more. -/
  stale : ∀ s, (∀ r, left.bySeat.get? s = some r → r.flightId ≠ flightId) →
    ∀ q, right.bySeat.get? s = some q → Over q later
  apart : Apart left later

theorem Over.tail {r : LockRecord} {op : HoldOp} {later : List HoldOp}
    (h : Over r (op :: later)) : Over r later :=
  fun op' hop' => h op' (List.mem_cons_of_mem _ hop')

section Unnoticed

variable {flightOf : String → Option FlightId} {flightId : FlightId} {op : HoldOp}
  {later : List HoldOp} {left right : InMemorySeatLockStore}

/-- What the two stores know about a seat. -/
theorem Unnoticed.seat (h : Unnoticed flightOf flightId later left right) (s : SeatId) :
    (∃ r, left.bySeat.get? s = some r ∧ right.bySeat.get? s = some r ∧ r.flightId = flightId) ∨
    ((∀ r, left.bySeat.get? s = some r → r.flightId ≠ flightId) ∧
      ∀ q, right.bySeat.get? s = some q → Over q later) := by
  by_cases hown : ∃ r, left.bySeat.get? s = some r ∧ r.flightId = flightId
  · obtain ⟨r, hr, hf⟩ := hown
    exact .inl ⟨r, hr, h.own s r hr hf, hf⟩
  · have hother : ∀ r, left.bySeat.get? s = some r → r.flightId ≠ flightId :=
      fun r hr hf => hown ⟨r, hr, hf⟩
    exact .inr ⟨hother, h.stale s hother⟩

/-- Calls that do not write keep the stores related. -/
theorem Unnoticed.read (h : Unnoticed flightOf flightId (op :: later) left right)
    (hleft : (holdStep left op).2 = left) (hright : Issued flightOf
      (later.filter (concerns flightOf flightId)) right) :
    Unnoticed flightOf flightId later left right where
  issuedLeft := hleft ▸ h.issuedLeft.step
  issuedRight := hright
  locks := h.locks
  own := h.own
  stale := fun s hs q hq => (h.stale s hs q hq).tail
  apart := hleft ▸ h.apart.2

theorem issuedRight_visible (h : Unnoticed flightOf flightId (op :: later) left right)
    (hv : concerns flightOf flightId op = true) :
    Issued flightOf (later.filter (concerns flightOf flightId)) (holdStep right op).2 := by
  have hr := h.issuedRight
  rw [List.filter_cons_of_pos hv] at hr
  exact hr.step

theorem issuedRight_invisible (h : Unnoticed flightOf flightId (op :: later) left right)
    (hv : concerns flightOf flightId op = false) :
    Issued flightOf (later.filter (concerns flightOf flightId)) right := by
  have hr := h.issuedRight
  rwa [List.filter_cons_of_neg (by simp [hv])] at hr

/-! ## Acquire -/

theorem conflicts_of_expired {store : InMemorySeatLockStore} {sessionId : SessionId}
    {now : DateTime} {s : SeatId}
    (h : ∀ r, store.bySeat.get? s = some r → r.expiresAt ≤ now) :
    store.conflicts sessionId now s = false := by
  unfold conflicts
  cases hs : store.bySeat.get? s with
  | none => rfl
  | some r => simp [h r hs]

/-- Both stores see the same conflicts. -/
theorem Unnoticed.findConflicts_eq {lockId : String} {seatIds : List SeatId}
    {sessionId : SessionId} {now : DateTime}
    (h : Unnoticed flightOf flightId
      (.acquire lockId flightId seatIds sessionId now :: later) left right) :
    left.findConflicts seatIds sessionId now = right.findConflicts seatIds sessionId now := by
  unfold findConflicts
  apply List.filter_congr
  intro s hs
  have hnow : ∀ r, Over r (.acquire lockId flightId seatIds sessionId now :: later) →
      r.expiresAt ≤ now := fun r hover => hover _ List.mem_cons_self now rfl
  rcases h.seat s with ⟨r, hl, hr, -⟩ | ⟨hother, hstale⟩
  · simp only [conflicts, hl, hr]
  · rw [conflicts_of_expired fun r hr => hnow r (h.apart.1 s hs r hr (hother r hr)),
      conflicts_of_expired fun q hq => hnow q (hstale q hq)]

theorem Unnoticed.acquire_visible {lockId : String} {seatIds : List SeatId}
    {sessionId : SessionId} {now : DateTime}
    (h : Unnoticed flightOf flightId
      (.acquire lockId flightId seatIds sessionId now :: later) left right) :
    (holdStep left (.acquire lockId flightId seatIds sessionId now)).1 =
        (holdStep right (.acquire lockId flightId seatIds sessionId now)).1 ∧
      Unnoticed flightOf flightId later
        (holdStep left (.acquire lockId flightId seatIds sessionId now)).2
        (holdStep right (.acquire lockId flightId seatIds sessionId now)).2 := by
  have hvis : concerns flightOf flightId (.acquire lockId flightId seatIds sessionId now) =
      true := by simp [concerns]
  have hleft := h.issuedLeft.step
  have hright := issuedRight_visible h hvis
  have hapart := h.apart.2
  have hsame := h.findConflicts_eq
  have hboth : Grants left seatIds sessionId now ↔ Grants right seatIds sessionId now := by
    rw [Grants, Grants, hsame]
  by_cases hgrants : Grants left seatIds sessionId now
  · obtain ⟨hout, hlock, hseat⟩ := hold_granted lockId flightId hgrants
    obtain ⟨hout', hlock', hseat'⟩ := hold_granted lockId flightId (hboth.mp hgrants)
    -- both stores file the same record under the same id and seats
    refine ⟨hout.trans hout'.symm, hleft, hright, ?_, ?_, ?_, hapart⟩
    · intro k hk
      rw [hlock, hlock', h.locks k hk]
    · intro s r hr hf
      rw [hseat] at hr
      rw [hseat']
      split at hr
      · rename_i hm
        rw [if_pos hm, hr]
      · rename_i hm
        rw [if_neg hm]
        exact h.own s r hr hf
    · intro s hs q hq
      rw [hseat'] at hq
      split at hq
      · rename_i hm
        exact absurd rfl (hs _ (by rw [hseat, if_pos hm]))
      · rename_i hm
        refine (h.stale s ?_ q hq).tail
        intro r hr
        exact hs r (by rw [hseat, if_neg hm]; exact hr)
  · rw [hold_refused hgrants] at hleft hapart ⊢
    rw [hold_refused (hboth.not.mp hgrants)] at hright ⊢
    refine ⟨by rw [hsame], hleft, hright, h.locks, h.own, ?_, hapart⟩
    exact fun s hs q hq => (h.stale s hs q hq).tail

theorem Unnoticed.acquire_invisible {lockId : String} {flightId' : FlightId}
    {seatIds : List SeatId} {sessionId : SessionId} {now : DateTime}
    (h : Unnoticed flightOf flightId
      (.acquire lockId flightId' seatIds sessionId now :: later) left right)
    (hne : flightId' ≠ flightId) :
    Unnoticed flightOf flightId later
      (holdStep left (.acquire lockId flightId' seatIds sessionId now)).2 right := by
  have hinv : concerns flightOf flightId (.acquire lockId flightId' seatIds sessionId now) =
      false := by simp [concerns, hne]
  have hleft := h.issuedLeft.step
  have hapart := h.apart.2
  by_cases hgrants : Grants left seatIds sessionId now
  · obtain ⟨-, hlock, hseat⟩ := hold_granted lockId flightId' hgrants
    refine ⟨hleft, issuedRight_invisible h hinv, ?_, ?_, ?_, hapart⟩
    · -- the id is another flight's
      intro k hk
      have hk' : lockId ≠ k := by
        intro he
        have hknown := h.issuedLeft.known (lockId, flightId')
          (by rw [issued_cons_acquire]; exact List.mem_cons_self)
        rw [← he, hknown] at hk
        exact hne (Option.some.inj hk)
      rw [hlock, if_neg hk', h.locks k hk]
    · intro s r hr hf
      rw [hseat] at hr
      split at hr
      · cases hr
        exact absurd hf hne
      · exact h.own s r hr hf
    · intro s hs q hq
      rcases h.seat s with ⟨r, hl, hr, hf⟩ | ⟨-, hstale⟩
      · by_cases hm : s ∈ seatIds
        · -- the record of the flight is written over: it was over for good
          rw [hr] at hq
          cases hq
          exact (h.apart.1 s hm q hl (hf ▸ Ne.symm hne)).tail
        · exact absurd hf (hs r (by rw [hseat, if_neg hm]; exact hl))
      · exact (hstale q hq).tail
  · rw [hold_refused hgrants] at hleft hapart ⊢
    exact ⟨hleft, issuedRight_invisible h hinv, h.locks, h.own,
      fun s hs q hq => (h.stale s hs q hq).tail, hapart⟩

/-! ## Release -/

theorem Unnoticed.release_visible {lockId : String}
    (h : Unnoticed flightOf flightId (.release lockId :: later) left right)
    (hf : flightOf lockId = some flightId) :
    Unnoticed flightOf flightId later (left.release lockId) (right.release lockId) := by
  have hvis : concerns flightOf flightId (.release lockId) = true := by simp [concerns, hf]
  have hbyLeft := get?_bySeat_release h.issuedLeft.consistent lockId
  have hbyRight := get?_bySeat_release h.issuedRight.consistent lockId
  refine ⟨h.issuedLeft.step, issuedRight_visible h hvis, ?_, ?_, ?_, h.apart.2⟩
  · intro k hk
    rw [get?_byLock_release, get?_byLock_release, h.locks k hk]
  · intro s r hr hr'
    rw [hbyLeft, Option.filter_eq_some_iff] at hr
    rw [hbyRight, Option.filter_eq_some_iff]
    exact ⟨h.own s r hr.1 hr', hr.2⟩
  · intro s hs q hq
    rw [hbyRight, Option.filter_eq_some_iff] at hq
    rcases h.seat s with ⟨r, hl, hr, hflight⟩ | ⟨-, hstale⟩
    · rw [hr] at hq
      obtain ⟨hq, hkeep⟩ := hq
      cases hq
      exact absurd hflight (hs q (by rw [hbyLeft, Option.filter_eq_some_iff]; exact ⟨hl, hkeep⟩))
    · exact (hstale q hq.1).tail

theorem Unnoticed.release_invisible {lockId : String}
    (h : Unnoticed flightOf flightId (.release lockId :: later) left right)
    (hf : flightOf lockId ≠ some flightId) :
    Unnoticed flightOf flightId later (left.release lockId) right := by
  have hinv : concerns flightOf flightId (.release lockId) = false := by simp [concerns, hf]
  have hbyLeft := get?_bySeat_release h.issuedLeft.consistent lockId
  refine ⟨h.issuedLeft.step, issuedRight_invisible h hinv, ?_, ?_, ?_, h.apart.2⟩
  · intro k hk
    have hne : lockId ≠ k := by
      intro he
      exact hf (he ▸ hk)
    rw [get?_byLock_release, if_neg hne, h.locks k hk]
  · intro s r hr hr'
    rw [hbyLeft, Option.filter_eq_some_iff] at hr
    exact h.own s r hr.1 hr'
  · intro s hs q hq
    rcases h.seat s with ⟨r, hl, -, hflight⟩ | ⟨-, hstale⟩
    · -- a record of the flight does not carry the released id
      have hid : r.lockId ≠ lockId := by
        intro he
        have hfiled := h.issuedLeft.filed r.lockId r (h.issuedLeft.consistent.indexed s r hl).1
        rw [he, hflight] at hfiled
        exact hf hfiled
      exact absurd hflight (hs r (by
        rw [hbyLeft, Option.filter_eq_some_iff]
        exact ⟨hl, by simpa using hid⟩))
    · exact (hstale q hq).tail

/-! ## Looking -/

theorem Unnoticed.view_eq {cabin : Cabin} {sessionId : Option SessionId} {now : DateTime}
    (h : Unnoticed flightOf flightId (.view flightId cabin sessionId now :: later) left right) :
    SeatMapService.seatsLockedAgainstSession left now cabin sessionId =
      SeatMapService.seatsLockedAgainstSession right now cabin sessionId := by
  unfold SeatMapService.seatsLockedAgainstSession findActiveLockForSeat
  apply List.filter_congr
  intro s hs
  rcases h.seat s with ⟨r, hl, hr, -⟩ | ⟨hother, hstale⟩
  · simp only [hl, hr]
  · have hright : ∀ q, right.bySeat.get? s = some q → q.expiresAt ≤ now :=
      fun q hq => hstale q hq _ List.mem_cons_self now rfl
    have hleft : ∀ r, left.bySeat.get? s = some r → ¬ r.expiresAt ≤ now →
        sessionId = some r.sessionId :=
      fun r hr hlive => h.apart.1 s hs r hr (hother r hr) (DateTime.not_le.mp hlive)
    -- the left store may have a live record here, of the requester itself
    cases hl : left.bySeat.get? s with
    | none =>
        cases hr : right.bySeat.get? s with
        | none => rfl
        | some q => simp [hright q hr]
    | some r =>
        cases hr : right.bySeat.get? s with
        | none =>
            by_cases hlive : r.expiresAt ≤ now
            · simp [hlive]
            · simp [hlive, hleft r hl hlive]
        | some q =>
            by_cases hlive : r.expiresAt ≤ now
            · simp [hlive, hright q hr]
            · simp [hlive, hleft r hl hlive, hright q hr]

/-! ## Unwinding -/

theorem Unnoticed.visible (h : Unnoticed flightOf flightId (op :: later) left right)
    (hv : concerns flightOf flightId op = true) :
    (holdStep left op).1 = (holdStep right op).1 ∧
      Unnoticed flightOf flightId later (holdStep left op).2 (holdStep right op).2 := by
  have hright := issuedRight_visible h hv
  cases op with
  | acquire lockId flightId' seatIds sessionId now =>
      obtain rfl : flightId' = flightId := by simpa [concerns] using hv
      exact h.acquire_visible
  | release lockId => exact ⟨rfl, h.release_visible (by simpa [concerns] using hv)⟩
  | isValid lockId now =>
      have hf : flightOf lockId = some flightId := by simpa [concerns] using hv
      refine ⟨?_, h.read rfl hright⟩
      simp only [holdStep, isValid, h.locks lockId hf]
  | get lockId =>
      have hf : flightOf lockId = some flightId := by simpa [concerns] using hv
      refine ⟨?_, h.read rfl hright⟩
      simp only [holdStep, InMemorySeatLockStore.get, h.locks lockId hf]
  | view flightId' cabin sessionId now =>
      obtain rfl : flightId' = flightId := by simpa [concerns] using hv
      exact ⟨congrArg HoldOutput.locked h.view_eq, h.read rfl hright⟩

theorem Unnoticed.invisible (h : Unnoticed flightOf flightId (op :: later) left right)
    (hv : concerns flightOf flightId op = false) :
    Unnoticed flightOf flightId later (holdStep left op).2 right := by
  have hright := issuedRight_invisible h hv
  cases op with
  | acquire lockId flightId' seatIds sessionId now =>
      exact h.acquire_invisible (by simpa [concerns] using hv)
  | release lockId => exact h.release_invisible (by simpa [concerns] using hv)
  | isValid lockId now => exact h.read rfl hright
  | get lockId => exact h.read rfl hright
  | view flightId' cabin sessionId now => exact h.read rfl hright

end Unnoticed

/-- The flight that a history issues a lock id for. -/
def flightIn (history : List HoldOp) (lockId : String) : Option FlightId :=
  (issued history).lookup lockId

/-- **Flight isolation, while flights stay off each other's seats.** In a
history with an id of its own for each request, in which no call meets a record
of another flight that may still live, every call about a flight answers as in
the history without the calls about other flights. -/
theorem flight_isolation {history : List HoldOp}
    (hids : ((issued history).map Prod.fst).Nodup) (hapart : Apart {} history)
    (flightId : FlightId) :
    Run.outputs holdStep (concerns (flightIn history) flightId) {} history =
      Run.outputs holdStep (concerns (flightIn history) flightId) {}
        (history.filter (concerns (flightIn history) flightId)) := by
  have hempty : ∀ later : List HoldOp, (∀ e ∈ issued later, flightIn history e.1 = some e.2) →
      ((issued later).map Prod.fst).Nodup → Issued (flightIn history) later {} := by
    intro later hknown hnodup
    exact ⟨.start List.nodup_nil, hknown, hnodup, by simp, by simp⟩
  have hknown : ∀ e ∈ issued history, flightIn history e.1 = some e.2 :=
    fun e he => Dict.lookup_of_mem hids he
  have hsub : (issued (history.filter (concerns (flightIn history) flightId))).Sublist
      (issued history) := List.filter_sublist.filterMap _
  have hstart : Unnoticed (flightIn history) flightId history {} {} :=
    { issuedLeft := hempty history hknown hids
      issuedRight := hempty _ (fun e he => hknown e (hsub.subset he)) ((hsub.map _).nodup hids)
      locks := fun _ _ => rfl
      own := by simp
      stale := by simp
      apart := hapart }
  exact Run.outputs_purge (R := Unnoticed (flightIn history) flightId)
    (fun op later left right hv h => h.visible hv)
    (fun op later left right hv h => h.invisible hv) hstart

/-- Two flights with locks on different seats. -/
theorem flight_isolation_apart :
    let now : DateTime := ⟨0, 0⟩
    let history : List HoldOp := [
      .acquire "L1" ⟨"F1"⟩ [⟨"12C"⟩] ⟨"S1"⟩ now,
      .acquire "L2" ⟨"F2"⟩ [⟨"14A"⟩] ⟨"S2"⟩ now,
      .acquire "L3" ⟨"F1"⟩ [⟨"12C"⟩] ⟨"S2"⟩ now, .isValid "L1" now, .release "L1"]
    Run.outputs holdStep (concerns (flightIn history) ⟨"F1"⟩) {} history =
      Run.outputs holdStep (concerns (flightIn history) ⟨"F1"⟩) {}
        (history.filter (concerns (flightIn history) ⟨"F1"⟩)) :=
  flight_isolation (by decide) (by decide) ⟨"F1"⟩

/-- Seat 12C of F1 is locked, and seat 12C of F2 cannot be. -/
theorem same_seat_of_another_flight :
    let now : DateTime := ⟨0, 0⟩
    let history : List HoldOp := [
      .acquire "L1" ⟨"F1"⟩ [⟨"12C"⟩] ⟨"S1"⟩ now,
      .acquire "L2" ⟨"F2"⟩ [⟨"12C"⟩] ⟨"S2"⟩ now]
    Run.outputs holdStep (concerns (flightIn history) ⟨"F2"⟩) {} history ≠
      Run.outputs holdStep (concerns (flightIn history) ⟨"F2"⟩) {}
        (history.filter (concerns (flightIn history) ⟨"F2"⟩)) := by
  decide

end FlightBooking
