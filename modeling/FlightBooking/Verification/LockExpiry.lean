import FlightBooking.Verification.LockRelease
import FlightBooking.Verification.SeatMapAgreement

/-!
# LockExpiry — one expiry for all readers

`is_valid` and the lock check of a commit look in `byLock`, the seat map and the
conflict check of `acquire` in `bySeat`, and each has its own comparison with
the clock. The record under a seat is the record under its lock, so all of them
turn at the same instant, `expires_at` itself being expired. Only a flight whose ids
cannot be put in order has no seat map that could say so.
-/

namespace FlightBooking

open Py BookingService SeatMapService

namespace InMemorySeatLockStore

section Readers

variable {store : InMemorySeatLockStore} {s : SeatId} {r : LockRecord} {now : DateTime}

theorem isValid_iff_live (h : Consistent store) (hr : store.bySeat.get? s = some r) :
    store.isValid r.lockId now = true ↔ now < r.expiresAt :=
  valid_of_get (h.indexed s r hr).1

theorem findActiveLockForSeat_iff_live (hr : store.bySeat.get? s = some r) :
    store.findActiveLockForSeat s now = some r ↔ now < r.expiresAt := by
  rw [findActiveLockForSeat_eq_some_iff]
  exact and_iff_right hr

theorem mem_findConflicts_iff {seatIds : List SeatId} {sessionId : SessionId} :
    s ∈ store.findConflicts seatIds sessionId now ↔
      s ∈ seatIds ∧
        ∃ r, store.bySeat.get? s = some r ∧ now < r.expiresAt ∧ r.sessionId ≠ sessionId := by
  unfold findConflicts
  rw [List.mem_filter]
  apply and_congr_right
  intro _
  unfold conflicts
  cases store.bySeat.get? s with
  | none => simp
  | some r =>
      by_cases hle : r.expiresAt ≤ now
      · simp [hle, DateTime.not_lt.mpr hle]
      · by_cases he : r.sessionId = sessionId <;> simp [hle, DateTime.not_le.mp hle, he]

/-- A call that asks for the seat of a live lock of another session is told so. -/
theorem acquire_lists_iff_live (hr : store.bySeat.get? s = some r) {sessionId : SessionId}
    (hne : sessionId ≠ r.sessionId) {seatIds : List SeatId} (hs : s ∈ seatIds)
    (flightId : FlightId) :
    (∃ conflicting, (store.acquire flightId seatIds sessionId now).1 = .ok (.conflict conflicting) ∧
      s ∈ conflicting) ↔ now < r.expiresAt := by
  have hmem : s ∈ store.findConflicts seatIds sessionId now ↔ now < r.expiresAt := by
    rw [mem_findConflicts_iff]
    constructor
    · intro h
      obtain ⟨-, r', hr', hlive, -⟩ := h
      exact Option.some.inj (hr'.symm.trans hr) ▸ hlive
    · exact fun hlive => ⟨hs, r, hr, hlive, Ne.symm hne⟩
  rw [← hmem]
  constructor
  · intro h
    obtain ⟨conflicting, hout, hin⟩ := h
    have hexit := acquire_exit store flightId seatIds sessionId now
    rw [hout] at hexit
    generalize (store.acquire flightId seatIds sessionId now).2 = store' at hexit
    cases hexit with
    | conflict _ => exact hin
  · intro hin
    refine ⟨store.findConflicts seatIds sessionId now, ?_, hin⟩
    have hbusy : store.findConflicts seatIds sessionId now ≠ [] := List.ne_nil_of_mem hin
    simp [acquire, hbusy]

/-- The lock check refuses a lock as expired or unknown. -/
def RefusedAsDead (locks : InMemorySeatLockStore) (request : CommitRequest) (now : DateTime) :
    Prop :=
  ∃ refusal, validateLock locks request now = some refusal ∧
    (refusal.errorCode = some .lockExpired ∨ refusal.errorCode = some .lockNotFound)

theorem not_refusedAsDead_iff_valid {request : CommitRequest} {lockId : String}
    (hl : request.lockId = some lockId) :
    ¬ RefusedAsDead store request now ↔ store.isValid lockId now = true := by
  unfold RefusedAsDead validateLock
  simp only [hl]
  by_cases hv : store.isValid lockId now = true
  · -- a valid lock is only asked for its owner
    simp only [hv, if_true, iff_true, not_exists, not_and]
    intro refusal hrefusal hcode
    obtain ⟨code, hc, message, rfl⟩ := checkLockSessionOwnership_refuses store request _ hrefusal
    rw [List.mem_singleton.mp hc] at hcode
    rcases hcode with hcode | hcode <;> cases hcode
  · simp only [hv]
    cases store.get lockId <;> simp [CommitResult.refuse]

end Readers

end InMemorySeatLockStore

/-- The seat map, if there is one, shows a free seat as occupied to another session
while the lock under it lives. -/
theorem showsSeat_occupied_iff_live {c : Container} {s : SeatId} {r : LockRecord}
    (hr : c.seatLockStore.bySeat.get? s = some r) {sessionId : SessionId}
    (hne : sessionId ≠ r.sessionId) {flightId : FlightId} {flight : Flight}
    (hf : c.flightRepo.get flightId = some flight) {seat : Seat}
    (hseat : flight.cabin.seats.get? s = some seat) (hid : seat.id = s)
    (hstatus : seat.status = .available) (hfree : Unbooked c flightId s) :
    ShowsSeat c flightId (some sessionId) s .occupied ↔
      flight.cabin.Readable ∧ c.clock < r.expiresAt := by
  have hlocked : LockedAgainst c.seatLockStore c.clock s (some sessionId) ↔
      c.clock < r.expiresAt := by
    constructor
    · intro h
      obtain ⟨r', hr', hlive, -⟩ := h
      exact Option.some.inj (hr'.symm.trans hr) ▸ hlive
    · exact fun hlive => ⟨r, hr, hlive, by simpa using hne⟩
  have hunbooked : s ∉ occupiedSeatIds c.bookingRepo flightId := by
    rw [mem_occupiedSeatIds, Bool.not_eq_true]
    exact seatAlreadyBooked_iff_unbooked.mpr hfree
  have hkey : s ∈ flight.cabin.seats.keys := by
    by_contra hnone
    rw [Dict.get?_eq_none_iff.mpr hnone] at hseat
    cases hseat
  have hagainst : s ∈ seatsLockedAgainstSession c.seatLockStore c.clock flight.cabin
      (some sessionId) ↔ c.clock < r.expiresAt := by
    rw [mem_seatsLockedAgainstSession, hlocked]
    exact and_iff_right hkey
  rw [showsSeat_iff hf, ← hagainst]
  refine and_congr_right fun _ => ?_
  constructor
  · intro h
    obtain ⟨other, -, -, hshown⟩ := h
    unfold statusFor at hshown
    rw [if_neg hunbooked] at hshown
    by_contra hnot
    rw [if_neg hnot] at hshown
    split at hshown <;> cases hshown
  · intro h
    exact ⟨seat, Dict.mem_values_iff.mpr ⟨s, hseat⟩, hid, by simp [statusFor, hstatus, h]⟩

/-- **One expiry.** In a store that acquires and releases have led to, let `r` be
the record under the seat `s`. Then `now < r.expires_at` is what `is_valid` says
of the lock, what `find_active_lock_for_seat` goes by, when another session that
asks for `s` gets it listed as a conflict, and when a commit that presents the lock is
not refused for an expired or an unknown lock. It is when the seat map shows `s`, free
and unbooked, as occupied to the other session if and only if the lock is over or the
ids of the cabin can be put in order. -/
theorem expiry_readers_agree_iff {ids : List String} (hids : ids.Nodup) (ops : List LockOp) :
    let store := Run.final lockStep { ids } ops
    ∀ s r, store.bySeat.get? s = some r → ∀ now sessionId, sessionId ≠ r.sessionId →
      (store.isValid r.lockId now = true ↔ now < r.expiresAt) ∧
      (store.findActiveLockForSeat s now = some r ↔ now < r.expiresAt) ∧
      (∀ flightId seatIds, s ∈ seatIds →
        ((∃ conflicting, (store.acquire flightId seatIds sessionId now).1 =
          .ok (.conflict conflicting) ∧ s ∈ conflicting) ↔ now < r.expiresAt)) ∧
      (∀ c : Container, c.seatLockStore = store → c.clock = now →
        ∀ flightId flight, c.flightRepo.get flightId = some flight →
        ∀ seat, flight.cabin.seats.get? s = some seat → seat.id = s → seat.status = .available →
          Unbooked c flightId s →
          ((ShowsSeat c flightId (some sessionId) s .occupied ↔ now < r.expiresAt) ↔
            (now < r.expiresAt → flight.cabin.Readable))) ∧
      ∀ request : CommitRequest, request.lockId = some r.lockId →
        (¬ store.RefusedAsDead request now ↔ now < r.expiresAt) := by
  intro store s r hr now sessionId hne
  have h : store.Consistent := .run hids ops
  have hvalid : store.isValid r.lockId now = true ↔ now < r.expiresAt :=
    InMemorySeatLockStore.isValid_iff_live h hr
  refine ⟨hvalid, InMemorySeatLockStore.findActiveLockForSeat_iff_live hr, ?_, ?_, ?_⟩
  · intro flightId seatIds hs
    exact InMemorySeatLockStore.acquire_lists_iff_live hr hne hs flightId
  · rintro c hstore rfl flightId flight hf seat hseat hid hstatus hfree
    rw [← hstore] at hr
    rw [showsSeat_occupied_iff_live hr hne hf hseat hid hstatus hfree]
    tauto
  · intro request hl
    rw [InMemorySeatLockStore.not_refusedAsDead_iff_valid hl, hvalid]

/-- At the tenth minute S1's lock on 30F is over: it is invalid, S2 is not turned
away, the map does not show 30F as occupied, and a commit under it is refused. -/
theorem expiry_readers_agree_at_expiry :
    let store := Run.final lockStep { ids := ["L001"] }
      [.acquire ⟨"FL-LAX-NYC-0800"⟩ [⟨"30F"⟩] ⟨"S1"⟩ testNow]
    let now := testNow.add lockTtl
    store.isValid "L001" now = false ∧ store.findActiveLockForSeat ⟨"30F"⟩ now = none ∧
      (¬ ∃ conflicting, (store.acquire ⟨"FL-LAX-NYC-0800"⟩ [⟨"30F"⟩] ⟨"S2"⟩ now).1 =
        .ok (.conflict conflicting) ∧ ⟨"30F"⟩ ∈ conflicting) ∧
      (¬ ShowsSeat { seededContainer [seededFlight "FL-LAX-NYC-0800" ["30F"]] with
          seatLockStore := store
          clock := now } ⟨"FL-LAX-NYC-0800"⟩ (some ⟨"S2"⟩) ⟨"30F"⟩ .occupied) ∧
      store.RefusedAsDead { commitFor "FL-LAX-NYC-0800" ["30F"] with lockId := some "L001" }
        now := by
  intro store now
  obtain ⟨hvalid, -, hacquire, hmap, hcommit⟩ :=
    expiry_readers_agree_iff (show ["L001"].Nodup by decide)
      [.acquire ⟨"FL-LAX-NYC-0800"⟩ [⟨"30F"⟩] ⟨"S1"⟩ testNow] ⟨"30F"⟩ _ rfl now ⟨"S2"⟩ (by decide)
  have hover : ¬ now < testNow.add lockTtl := by decide
  refine ⟨?_, by decide, ?_, ?_, ?_⟩
  · exact Bool.not_eq_true _ ▸ fun h => hover (hvalid.mp h)
  · exact fun h => hover ((hacquire ⟨"FL-LAX-NYC-0800"⟩ [⟨"30F"⟩] (by decide)).mp h)
  · intro hshown
    refine hover (((hmap _ rfl rfl ⟨"FL-LAX-NYC-0800"⟩ _ rfl _ rfl rfl rfl ?_).mpr
      fun hlive => absurd hlive hover).mp hshown)
    exact fun k b hb => nomatch hb
  · by_contra hnot
    exact hover ((hcommit { commitFor "FL-LAX-NYC-0800" ["30F"] with lockId := some "L001" }
      rfl).mp hnot)

/-- With a seat `²A` in the cabin, 30F is under a live lock of S1, and no map says so
to S2. -/
theorem expiry_readers_disagree_on_superscript :
    let store := Run.final lockStep { ids := ["L001"] }
      [.acquire ⟨"FL-LAX-NYC-0800"⟩ [⟨"30F"⟩] ⟨"S1"⟩ testNow]
    let c := { seededContainer [seededFlight "FL-LAX-NYC-0800" ["30F", "²A"]] with
      seatLockStore := store }
    store.isValid "L001" c.clock = true ∧
      view c ⟨"FL-LAX-NYC-0800"⟩ (some ⟨"S2"⟩) =
        .error (.valueError "invalid literal for int() with base 10: '²'") ∧
      ¬ ShowsSeat c ⟨"FL-LAX-NYC-0800"⟩ (some ⟨"S2"⟩) ⟨"30F"⟩ .occupied := by
  intro store c
  have hview : view c ⟨"FL-LAX-NYC-0800"⟩ (some ⟨"S2"⟩) =
      .error (.valueError "invalid literal for int() with base 10: '²'") := by decide
  refine ⟨by decide, hview, ?_⟩
  intro hshown
  obtain ⟨entries, hentries, -⟩ := hshown
  rw [hview] at hentries
  cases hentries

end FlightBooking
