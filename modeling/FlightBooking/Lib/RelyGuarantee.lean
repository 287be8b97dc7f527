import FlightBooking.Lib.Interleave

/-!
# RelyGuarantee — processes that keep to their part

Rules for processes that share a state. A process may rely on what the others do
between two of its calls (`R`) and guarantees that each of its own calls is a step of
`G`. In a pool where what one guarantees the others may rely on, every process does
what it does under its own rely. Processes under the mutex rely on each other for
nothing but `J`, which holds whenever the mutex is free.
-/

namespace Py

variable {F : Type} {V : F → Type} {σ ε α β : Type}

/-- What may happen between two calls: nothing, or one thing after the other. -/
structure Rely (R : σ → σ → Prop) : Prop where
  refl : ∀ s, R s s
  trans : ∀ s s' s'', R s s' → R s' s'' → R s s''

namespace Proc

/-- The process makes no call that is not in `C`. -/
def Calls (C : F → Prop) : Proc F V ε α → Prop
  | ret _ => True
  | raise _ => True
  | call f k => C f ∧ ∀ r, Calls C (k r)

theorem Calls.perform {C : F → Prop} {f : F} (hf : C f) :
    Calls C (perform f : Proc F V ε (V f)) :=
  ⟨hf, fun _ => trivial⟩

/-- An expression makes no call. -/
theorem Calls.ofExcept {C : F → Prop} (x : Except ε α) :
    Calls C (Proc.ofExcept x : Proc F V ε α) := by
  cases x <;> trivial

theorem Calls.bind {C : F → Prop} {p : Proc F V ε α} {g : α → Proc F V ε β} (hp : Calls C p)
    (hg : ∀ a, Calls C (g a)) : Calls C (p >>= g) := by
  induction p with
  | ret a => exact hg a
  | raise e => trivial
  | call f k ih => exact ⟨hp.1, fun r => ih r (hp.2 r)⟩

theorem Calls.translate {F' : Type} {V' : F' → Type} {C : F → Prop} {C' : F' → Prop}
    {g : (f : F) → Proc F' V' ε (V f)} (hg : ∀ f, C f → Calls C' (g f)) {p : Proc F V ε α}
    (hp : Calls C p) : Calls C' (p.translate g) := by
  induction p with
  | ret a => trivial
  | raise e => trivial
  | call f k ih => exact (hg f hp.1).bind fun r => ih r (hp.2 r)

/-- The process, from `s` on: under interference of `R`, each call is a step of `G`, and
the end satisfies `Q` for as long as only `R` happens. -/
def Safe (h : (f : F) → Eff σ ε (V f)) (R G : σ → σ → Prop) (Q : Except ε α → σ → Prop) :
    Proc F V ε α → σ → Prop
  | ret a, s => ∀ s', R s s' → Q (.ok a) s'
  | raise e, s => ∀ s', R s s' → Q (.error e) s'
  | call f k, s => ∀ s', R s s' →
      G s' ((h f).run s').2 ∧
      (∀ r, ((h f).run s').1 = .ok r → Safe h R G Q (k r) ((h f).run s').2) ∧
      ∀ e, ((h f).run s').1 = .error e → ∀ s'', R ((h f).run s').2 s'' → Q (.error e) s''

section Safe

variable {h : (f : F) → Eff σ ε (V f)} {R G : σ → σ → Prop} {Q : Except ε α → σ → Prop}
  {s s' : σ}

/-- A process stays safe while it waits for its next turn. -/
theorem Safe.later {p : Proc F V ε α} (hp : Safe h R G Q p s) (hR : Rely R) (hs : R s s') :
    Safe h R G Q p s' := by
  cases p with
  | ret a => exact fun s'' hs' => hp s'' (hR.trans _ _ _ hs hs')
  | raise e => exact fun s'' hs' => hp s'' (hR.trans _ _ _ hs hs')
  | call f k => exact fun s'' hs' => hp s'' (hR.trans _ _ _ hs hs')

theorem Safe.imp {Q' : Except ε α → σ → Prop} {p : Proc F V ε α} (hp : Safe h R G Q p s)
    (hQ : ∀ x s, Q x s → Q' x s) : Safe h R G Q' p s := by
  induction p generalizing s with
  | ret a => exact fun s' hs => hQ _ _ (hp s' hs)
  | raise e => exact fun s' hs => hQ _ _ (hp s' hs)
  | call f k ih =>
      intro s' hs
      obtain ⟨hstep, hok, herr⟩ := hp s' hs
      exact ⟨hstep, fun r hr => ih r (hok r hr), fun e he s'' hs' => hQ _ _ (herr e he s'' hs')⟩

/-- The rule for a sequence. -/
theorem Safe.bind {Q' : Except ε β → σ → Prop} {p : Proc F V ε α} {g : α → Proc F V ε β}
    (hp : Safe h R G Q p s) (hR : Rely R)
    (hok : ∀ a s, Q (.ok a) s → Safe h R G Q' (g a) s)
    (herr : ∀ e s, Q (.error e) s → Q' (.error e) s) : Safe h R G Q' (p >>= g) s := by
  induction p generalizing s with
  | ret a => exact hok a s (hp s (hR.refl s))
  | raise e => exact fun s' hs => herr e s' (hp s' hs)
  | call f k ih =>
      intro s' hs
      obtain ⟨hstep, hret, hraise⟩ := hp s' hs
      refine ⟨hstep, fun r hr => ih r (hret r hr), ?_⟩
      exact fun e he s'' hs' => herr e s'' (hraise e he s'' hs')

/-- The rule for a call that is followed by `g`: `P` is what is known before it,
whatever the others do. -/
theorem Safe.perform_bind {P : σ → Prop} {f : F} {g : V f → Proc F V ε α} (hs : P s)
    (hstable : ∀ s s', R s s' → P s → P s')
    (hcall : ∀ s, P s →
      (∃ e s', (h f).run s = (.error e, s') ∧ G s s' ∧ ∀ s'', R s' s'' → Q (.error e) s'') ∨
      ∃ r s', (h f).run s = (.ok r, s') ∧ G s s' ∧ Safe h R G Q (g r) s') :
    Safe h R G Q (perform f >>= g) s := by
  intro s' hs'
  rcases hcall s' (hstable s s' hs' hs) with
    ⟨e, s₁, hrun, hstep, hend⟩ | ⟨r, s₁, hrun, hstep, hrest⟩
  · rw [hrun]
    refine ⟨hstep, ?_, ?_⟩
    · intro r hr
      cases hr
    · intro e' he
      cases he
      exact hend
  · rw [hrun]
    refine ⟨hstep, ?_, ?_⟩
    · intro r' hr
      cases hr
      exact hrest
    · intro e he
      cases he

/-- The rule for a call that reads. -/
theorem Safe.read_bind {P : σ → Prop} {f : F} {g : V f → Proc F V ε α} (value : σ → V f)
    (hs : P s) (hstable : ∀ s s', R s s' → P s → P s')
    (hread : ∀ s, (h f).run s = (.ok (value s), s)) (hskip : ∀ s, P s → G s s)
    (hok : ∀ s, P s → Safe h R G Q (g (value s)) s) :
    Safe h R G Q (perform f >>= g) s :=
  Safe.perform_bind hs hstable fun s hP => .inr ⟨_, _, hread s, hskip s hP, hok s hP⟩

/-- A process that makes only calls of `G`, from whatever state, is safe. -/
theorem Calls.safe {p : Proc F V ε α}
    (hp : Calls (fun f => ∀ s, G s ((h f).run s).2) p) (s : σ) :
    Safe h R G (fun _ _ => True) p s := by
  induction p generalizing s with
  | ret a => exact fun _ _ => trivial
  | raise e => exact fun _ _ => trivial
  | call f k ih =>
      intro s' _
      exact ⟨hp.1 s', fun r _ => ih r (hp.2 r) _, fun _ _ _ _ => trivial⟩

/-- A process that only reads keeps what the others keep. -/
theorem Calls.safe_reads {P : σ → Prop} {p : Proc F V ε α}
    (hp : Calls (fun f => ∀ s, ((h f).run s).2 = s) p)
    (hstable : ∀ s s', R s s' → P s → P s') (hskip : ∀ s, P s → G s s) (hs : P s) :
    Safe h R G (fun _ s => P s) p s := by
  induction p generalizing s with
  | ret a => exact fun s' hs' => hstable s s' hs' hs
  | raise e => exact fun s' hs' => hstable s s' hs' hs
  | call f k ih =>
      intro s' hs'
      have hP := hstable s s' hs' hs
      rw [hp.1 s']
      refine ⟨hskip s' hP, fun r _ => ih r (hp.2 r) hP, ?_⟩
      exact fun _ _ s'' hs'' => hstable s' s'' hs'' hP

/-- A translation in which every call keeps to what the call did is as safe. -/
theorem Safe.translate {F' : Type} {V' : F' → Type} {h' : (f : F') → Eff σ ε (V' f)}
    {g : (f : F) → Proc F' V' ε (V f)}
    (hg : ∀ (f : F) (Q : Except ε (V f) → σ → Prop) (s : σ),
      Safe h R G Q (perform f) s → Safe h' R G Q (g f) s)
    {p : Proc F V ε α} (hp : Safe h R G Q p s) (hR : Rely R) :
    Safe h' R G Q (p.translate g) s := by
  induction p generalizing s with
  | ret a => exact hp
  | raise e => exact hp
  | call f k ih =>
      -- after the call: what is left is safe
      let after : Except ε (V f) → σ → Prop := fun x s =>
        (∀ r, x = .ok r → Safe h R G Q (k r) s) ∧ ∀ e, x = .error e → Q (.error e) s
      have hcall : Safe h R G after (perform f) s := by
        intro s' hs'
        obtain ⟨hstep, hok, herr⟩ := hp s' hs'
        refine ⟨hstep, fun r hr s'' hs'' => ⟨?_, by simp⟩, fun e he s'' hs'' => ⟨by simp, ?_⟩⟩
        · intro r' hr'
          cases hr'
          exact (hok r hr).later hR hs''
        · intro e' he'
          cases he'
          exact herr e he s'' hs''
      exact (hg f after s hcall).bind hR (fun r s' hr => ih r (hr.1 r rfl)) fun e _ he => he.2 e rfl

/-- One turn of a safe process. -/
theorem Safe.step {p : Proc F V ε α} (hp : Safe h R G Q p s) (hR : Rely R) :
    ((p.step h s).2 = s ∨ G s (p.step h s).2) ∧
      Safe h R G Q (p.step h s).1 (p.step h s).2 := by
  cases p with
  | ret a => exact ⟨.inl rfl, hp⟩
  | raise e => exact ⟨.inl rfl, hp⟩
  | call f k =>
      obtain ⟨hstep, hok, herr⟩ := hp s (hR.refl s)
      have hres : (call f k).step h s = (resume k ((h f).run s).1, ((h f).run s).2) := rfl
      rw [hres]
      refine ⟨.inr hstep, ?_⟩
      cases hr : ((h f).run s).1 with
      | ok r => exact hok r hr
      | error e => exact herr e hr

/-- At its end a safe process has reached `Q`. -/
theorem Safe.finished {p : Proc F V ε α} (hp : Safe h R G Q p s) (hR : Rely R)
    (hdone : p.finished = true) : ∃ x, Q x s := by
  cases p with
  | ret a => exact ⟨_, hp s (hR.refl s)⟩
  | raise e => exact ⟨_, hp s (hR.refl s)⟩
  | call f k => cases hdone

/-- A process at its end is safe where `Q` does not depend on what the others do. -/
theorem Safe.of_finished {J : σ → Prop} {p : Proc F V ε α} (hdone : p.finished = true)
    (hJ : ∀ s', R s s' → J s') : Safe h R G (fun _ s => J s) p s := by
  cases p with
  | ret a => exact hJ
  | raise e => exact hJ
  | call f k => cases hdone

end Safe

end Proc

/-! ## Pools -/

namespace Pool

variable {ι : Type} {h : (f : F) → Eff σ ε (V f)} {R G : ι → σ → σ → Prop}
  {Q : ι → Except ε Unit → σ → Prop} {J : σ → Prop} {critical : ι → Bool}

/-- What one process guarantees the others may rely on, those under the mutex as far
as they are not both. -/
structure Discipline (critical : ι → Bool) (R G : ι → σ → σ → Prop) (J : σ → Prop) : Prop where
  rely : ∀ i, Rely (R i)
  allows : ∀ i j, i ≠ j → (critical i && critical j) = false → ∀ s s', G i s s' → R j s s'
  stable : ∀ i, critical i = true → ∀ s s', R i s s' → J s → J s'
  keeps : ∀ i, critical i = false → ∀ s s', G i s s' → J s → J s'

/-- A step of one is nothing that another does not expect. -/
theorem Discipline.expected (hd : Discipline critical R G J) {i j : ι} (hji : j ≠ i)
    (hc : (critical i && critical j) = false) {s s' : σ} (hstep : s' = s ∨ G i s s') :
    R j s s' := by
  rcases hstep with hsame | hG
  · rw [hsame]
    exact (hd.rely j).refl _
  · exact hd.allows i j (Ne.symm hji) hc _ _ hG

/-- Every process keeps to its part: one that has to wait for the mutex does so from
any state with `J`, one that needs none gets to its `Q`. -/
structure Ruled (h : (f : F) → Eff σ ε (V f)) (R G : ι → σ → σ → Prop)
    (Q : ι → Except ε Unit → σ → Prop) (J : σ → Prop) (w : Pool F V σ ε ι) : Prop where
  loose : ∀ i, w.critical i = false → (w.proc i).Safe h (R i) (G i) (Q i) w.shared
  waiting : ∀ i, w.critical i = true → w.holder ≠ some i → ∀ s, J s →
    (w.proc i).Safe h (R i) (G i) (fun _ s => J s) s
  holding : ∀ i, w.holder = some i → w.critical i = true ∧
    (w.proc i).Safe h (R i) (G i) (fun _ s => J s) w.shared
  free : w.holder = none → J w.shared

/-- At its end a process that needs no mutex has got to its `Q`. -/
theorem Ruled.finished {w : Pool F V σ ε ι} (hw : w.Ruled h R G Q J)
    (hd : Discipline w.critical R G J) {i : ι} (hc : w.critical i = false) (hdone : (w.proc i).finished = true) : ∃ x, Q i x w.shared :=
  (hw.loose i hc).finished (hd.rely i) hdone

variable [DecidableEq ι] {w : Pool F V σ ε ι} {i : ι}

/-- The turn of a process without the mutex. -/
theorem Ruled.turn_loose (hw : w.Ruled h R G Q J) (hd : Discipline w.critical R G J)
    (hready : w.blocked i = false) (hc : w.critical i = false) :
    (w.turn h i).Ruled h R G Q J ∧
      ((w.turn h i).shared = w.shared ∨ G i w.shared (w.turn h i).shared) := by
  obtain ⟨hstep, hsafe⟩ := (hw.loose i hc).step (hd.rely i)
  have hothers : ∀ j, j ≠ i → R j w.shared ((w.proc i).step h w.shared).2 := fun j hji =>
    hd.expected hji (by simp [hc]) hstep
  have hne : ∀ j, w.critical j = true → j ≠ i := by
    rintro j hj rfl
    rw [hc] at hj
    cases hj
  rw [turn_ready hready]
  refine ⟨⟨?_, ?_, ?_, ?_⟩, hstep⟩
  · intro j hj
    by_cases hji : j = i
    · subst hji
      simpa using hsafe
    · simp only [Function.update_of_ne hji]
      exact (hw.loose j hj).later (hd.rely j) (hothers j hji)
  · intro j hj hholder
    simp only [Function.update_of_ne (hne j hj)]
    exact hw.waiting j hj (by simpa [hc] using hholder)
  · intro j hj
    have hj' : w.holder = some j := by simpa [hc] using hj
    obtain ⟨hcj, hsafej⟩ := hw.holding j hj'
    simp only [Function.update_of_ne (hne j hcj)]
    exact ⟨hcj, hsafej.later (hd.rely j) (hothers j (hne j hcj))⟩
  · intro hnone
    have hJ := hw.free (by simpa [hc] using hnone)
    rcases hstep with hsame | hG
    · exact hsame.symm ▸ hJ
    · exact hd.keeps i hc _ _ hG hJ

/-- Who has the mutex or gets it is safe where it stands. -/
theorem Ruled.ready (hw : w.Ruled h R G Q J) (hready : w.blocked i = false)
    (hc : w.critical i = true) :
    (w.proc i).Safe h (R i) (G i) (fun _ s => J s) w.shared := by
  by_cases hi : w.holder = some i
  · exact (hw.holding i hi).2
  · have hnone := (holder_of_ready hc hready).resolve_right hi
    exact hw.waiting i hc hi _ (hw.free hnone)

/-- The turn of a process under the mutex. -/
theorem Ruled.turn_mutex (hw : w.Ruled h R G Q J) (hd : Discipline w.critical R G J)
    (hready : w.blocked i = false) (hc : w.critical i = true) :
    (w.turn h i).Ruled h R G Q J ∧
      ((w.turn h i).shared = w.shared ∨ G i w.shared (w.turn h i).shared) := by
  obtain ⟨hstep, hsafe⟩ := (hw.ready hready hc).step (hd.rely i)
  rw [turn_ready hready]
  refine ⟨⟨?_, ?_, ?_, ?_⟩, hstep⟩
  · intro j hj
    have hj' : w.critical j = false := hj
    have hji : j ≠ i := by
      rintro rfl
      rw [hc] at hj'
      cases hj'
    simp only [Function.update_of_ne hji]
    exact (hw.loose j hj').later (hd.rely j) (hd.expected hji (by simp [hj']) hstep)
  · intro j hj hholder s hJ
    by_cases hji : j = i
    · subst hji
      -- it is done, or it would still hold the mutex
      cases hdone : ((w.proc j).step h w.shared).1.finished with
      | false => simp [hc, hdone] at hholder
      | true =>
          simp only [Function.update_self]
          exact .of_finished hdone fun s' hs => hd.stable j hc s s' hs hJ
    · simp only [Function.update_of_ne hji]
      refine hw.waiting j hj ?_ s hJ
      rcases holder_of_ready hc hready with hnone | hsome
      · simp [hnone]
      · simp [hsome, Ne.symm hji]
  · intro j hj
    cases hdone : ((w.proc i).step h w.shared).1.finished with
    | true => simp [hc, hdone] at hj
    | false =>
        obtain rfl : i = j := by simpa [hc, hdone] using hj
        simp only [Function.update_self]
        exact ⟨hc, hsafe⟩
  · intro hnone
    cases hdone : ((w.proc i).step h w.shared).1.finished with
    | true => exact (hsafe.finished (hd.rely i) hdone).elim fun _ hJ => hJ
    | false => simp [hc, hdone] at hnone

/-- **A turn keeps everyone to his part**, and is itself a step of its process. -/
theorem Ruled.turn (hw : w.Ruled h R G Q J) (hd : Discipline w.critical R G J) (i : ι) :
    (w.turn h i).Ruled h R G Q J ∧
      ((w.turn h i).shared = w.shared ∨ G i w.shared (w.turn h i).shared) := by
  cases hready : w.blocked i with
  | true =>
      rw [turn_blocked hready]
      exact ⟨hw, .inl rfl⟩
  | false =>
      cases hc : w.critical i with
      | false => exact hw.turn_loose hd hready hc
      | true => exact hw.turn_mutex hd hready hc

theorem Ruled.turns (hw : w.Ruled h R G Q J) (hd : Discipline w.critical R G J) (is : List ι) :
    (w.turns h is).Ruled h R G Q J := by
  induction is generalizing w with
  | nil => exact hw
  | cons i is ih => exact ih (hw.turn hd i).1 (turn_critical h w i ▸ hd)

/-- **The rule for invariants**: what every guarantee keeps holds in all states, in
whatever order the processes take their turns. -/
theorem Ruled.states {I : σ → Prop} (hw : w.Ruled h R G Q J) (hd : Discipline w.critical R G J)
    (hI : ∀ i s s', G i s s' → I s → I s') (h0 : I w.shared) (is : List ι) :
    ∀ s ∈ w.states h is, I s := by
  induction is generalizing w with
  | nil =>
      intro s hs
      rw [Pool.states, List.mem_singleton] at hs
      exact hs ▸ h0
  | cons i is ih =>
      intro s hs
      obtain ⟨hw', hstep⟩ := hw.turn hd i
      rcases List.mem_cons.mp hs with rfl | hrest
      · exact h0
      · refine ih hw' (turn_critical h w i ▸ hd) ?_ s hrest
        rcases hstep with hsame | hG
        · exact hsame.symm ▸ h0
        · exact hI i _ _ hG h0

end Pool

end Py
