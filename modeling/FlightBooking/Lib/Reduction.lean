import FlightBooking.Lib.Answers
import FlightBooking.Lib.Movers

/-!
# Reduction — one call for the whole process

A process most of whose calls commute with those of the others does all its work, as far
as anyone can tell, at the one call that does not. So a pool of such processes, some of
them under a mutex, leaves the state that they leave one after the other, in the order
of these calls. What each has still to do then commutes with what the others do.
-/

namespace Py

variable {F : Type} {V : F → Type} {σ ε α β ι : Type}

namespace Pool

/-- The processes run to their end, one after the other. -/
def settle (h : (f : F) → Eff σ ε (V f)) (proc : ι → Proc F V ε Unit) (order : List ι) (s : σ) :
    σ :=
  order.foldl (fun s i => (((proc i).run h).run s).2) s

section Settle

variable {h : (f : F) → Eff σ ε (V f)} {I : σ → Prop} {proc proc' : ι → Proc F V ε Unit}
  {order : List ι}

theorem settle_concat (i : ι) (s : σ) :
    settle h proc (order ++ [i]) s = (((proc i).run h).run (settle h proc order s)).2 := by
  simp [settle]

theorem settle_congr (hproc : ∀ i ∈ order, proc i = proc' i) (s : σ) :
    settle h proc order s = settle h proc' order s := by
  induction order generalizing s with
  | nil => rfl
  | cons i order ih =>
      rw [List.forall_mem_cons] at hproc
      simp only [settle, List.foldl_cons, hproc.1]
      exact ih hproc.2 _

theorem settle_keeps (hkeeps : ∀ i ∈ order, Eff.Keeps I ((proc i).run h)) {s : σ} (hs : I s) :
    I (settle h proc order s) := by
  induction order generalizing s with
  | nil => exact hs
  | cons i order ih =>
      rw [List.forall_mem_cons] at hkeeps
      exact ih hkeeps.2 (hkeeps.1 s hs)

/-- What commutes with all of them may come after or before. -/
theorem settle_commute {x : Eff σ ε β}
    (hcommute : ∀ i ∈ order, Eff.Commute I x ((proc i).run h) ∧ Eff.Keeps I ((proc i).run h))
    {s : σ} (hs : I s) :
    x.run (settle h proc order s) = ((x.run s).1, settle h proc order (x.run s).2) := by
  induction order generalizing s with
  | nil => rfl
  | cons i order ih =>
      rw [List.forall_mem_cons] at hcommute
      obtain ⟨-, hresult, hstate⟩ := hcommute.1.1 s hs
      have hrest := ih hcommute.2 (hcommute.1.2 s hs)
      rw [hresult, ← hstate] at hrest
      exact hrest

/-- The next call of one of them is made now. -/
theorem settle_turn [DecidableEq ι] {i : ι} {f : F} {k : V f → Proc F V ε Unit}
    (hi : i ∈ order) (hnodup : order.Nodup) (hproc : proc i = .call f k)
    (hcommute : ∀ j ∈ order, j ≠ i →
      Eff.Commute I (h f) ((proc j).run h) ∧ Eff.Keeps I ((proc j).run h))
    {s : σ} (hs : I s) :
    settle h (Function.update proc i (Proc.resume k ((h f).run s).1)) order ((h f).run s).2 =
      settle h proc order s := by
  induction order generalizing s with
  | nil => cases hi
  | cons j order ih =>
      obtain ⟨hj, hnodup⟩ := List.nodup_cons.mp hnodup
      by_cases hji : j = i
      · subst hji
        have hrest : ∀ j' ∈ order,
            Function.update proc j (Proc.resume k ((h f).run s).1) j' = proc j' := by
          intro j' hj'
          refine Function.update_of_ne ?_ _ _
          rintro rfl
          exact hj hj'
        have hrun := Proc.run_step (h := h) (proc j) s
        rw [hproc] at hrun
        simp only [settle, List.foldl_cons, Function.update_self, hproc]
        rw [← hrun]
        exact settle_congr hrest _
      · have hi' : i ∈ order := (List.mem_cons.mp hi).resolve_left (Ne.symm hji)
        obtain ⟨hcomm, hkeeps⟩ := hcommute j List.mem_cons_self hji
        obtain ⟨-, hresult, hstate⟩ := hcomm s hs
        have hrest := ih hi' hnodup (fun j' hj' => hcommute j' (List.mem_cons_of_mem _ hj'))
          (hkeeps s hs)
        rw [hresult, ← hstate] at hrest
        simp only [settle, List.foldl_cons, Function.update_of_ne hji]
        exact hrest

end Settle

/-- The calls of a process are its `M`, which commute with those of the others, and its
`N`; those under the mutex make one of `N` at most, and the others one after their reads.
Under the mutex a process relies on its `J`. -/
structure Movers (h : (f : F) → Eff σ ε (V f)) (I : σ → Prop) (J : ι → σ → Prop)
    (M N : ι → F → Prop) (w : Pool F V σ ε ι) : Prop where
  keeps : ∀ i f, M i f ∨ N i f → Eff.Keeps I (h f)
  keeps_own : ∀ i f, M i f ∨ N i f → ∀ j, Eff.Keeps (J j) (h f)
  commute : ∀ i j f g, i ≠ j → (w.critical i && w.critical j) = false →
    M i f → M j g ∨ N j g →
      Eff.Commute (fun s => I s ∧ (w.critical i = true → J i s)) (h f) (h g)
  within : I w.shared
  free : w.holder = none
  mutex : ∀ i, w.critical i = true →
    (w.proc i).finished = false ∧ (w.proc i).Reduces (M i) (N i)
  loose : ∀ i, w.critical i = false → (w.proc i).Atomic h I (M i) (N i)

/-- Where process `i` stands in `w'`: those of `order` have made their call of `N`, or are
through without one. -/
inductive Stage (h : (f : F) → Eff σ ε (V f)) (I : σ → Prop) (M N : ι → F → Prop)
    (w w' : Pool F V σ ε ι) (order : List ι) (i : ι) : Prop
  | waiting (hc : w.critical i = true) (hi : i ∉ order) (hh : w'.holder ≠ some i)
      (hp : w'.proc i = w.proc i)
  | reading (hc : w.critical i = false) (hi : i ∉ order) (hh : w'.holder ≠ some i)
      (hp : (w'.proc i).Atomic h I (M i) (N i))
      (heq : ∀ s, I s → ((w.proc i).run h).run s = ((w'.proc i).run h).run s)
  | before (hc : w.critical i = true) (hi : i ∉ order) (hh : w'.holder = some i)
      (hgoing : (w'.proc i).finished = false) (hp : (w'.proc i).Reduces (M i) (N i))
  | after (hc : w.critical i = true) (hi : i ∈ order) (hh : w'.holder = some i)
      (hgoing : (w'.proc i).finished = false) (hp : (w'.proc i).Calls (M i))
  | leaving (hc : w.critical i = false) (hi : i ∈ order) (hh : w'.holder ≠ some i)
      (hp : (w'.proc i).Calls (M i))
  | through (hi : i ∈ order) (hh : w'.holder ≠ some i) (hdone : (w'.proc i).finished = true)

/-- What the processes rely on in `w'`. -/
structure Within (I : σ → Prop) (J : ι → σ → Prop) (w' : Pool F V σ ε ι) (s : σ) : Prop where
  all : I s
  own : ∀ j, w'.holder = some j → J j s

/-- `w'` has been reached from `w`: once those of `order` have run to their end it is as
if they had run one after the other, but for what the process before its call of `N`
has done with the mutex. -/
structure Reduced (h : (f : F) → Eff σ ε (V f)) (I : σ → Prop) (J : ι → σ → Prop)
    (M N : ι → F → Prop) (w w' : Pool F V σ ε ι) (order : List ι) : Prop where
  critical : w'.critical = w.critical
  nodup : order.Nodup
  within : Within I J w' w'.shared
  begun : Within I J w' (settle h w.proc order w.shared)
  stage : ∀ i, Stage h I M N w w' order i
  ahead : ∀ i ∉ order, w'.holder = some i →
    Proc.Ahead h (M i) (w.proc i) (settle h w.proc order w.shared) (w'.proc i)
      (settle h w'.proc order w'.shared)
  settled : (∀ i, w'.holder = some i → i ∈ order) →
    settle h w'.proc order w'.shared = settle h w.proc order w.shared

variable {h : (f : F) → Eff σ ε (V f)} {I : σ → Prop} {J : ι → σ → Prop}
  {M N : ι → F → Prop} {w w' w'' : Pool F V σ ε ι} {order order' : List ι} {i j : ι}

theorem Movers.start (hm : Movers h I J M N w) : Reduced h I J M N w w [] where
  critical := rfl
  nodup := List.nodup_nil
  within := ⟨hm.within, by simp [hm.free]⟩
  begun := ⟨hm.within, by simp [hm.free]⟩
  stage i := by
    have hh : w.holder ≠ some i := by simp [hm.free]
    cases hc : w.critical i with
    | true => exact .waiting hc (by simp) hh rfl
    | false => exact .reading hc (by simp) hh (hm.loose i hc) fun _ _ => rfl
  ahead i _ hh := by simp [hm.free] at hh
  settled _ := rfl

/-- The turn of another process. -/
theorem Stage.other (hs : Stage h I M N w w' order i) (hproc : w''.proc i = w'.proc i)
    (hholder : w''.holder = some i ↔ w'.holder = some i) (horder : i ∈ order' ↔ i ∈ order) :
    Stage h I M N w w'' order' i := by
  cases hs with
  | waiting hc hi hh hp =>
      exact .waiting hc (mt horder.mp hi) (mt hholder.mp hh) (hproc.trans hp)
  | reading hc hi hh hp heq =>
      exact .reading hc (mt horder.mp hi) (mt hholder.mp hh) (hproc ▸ hp)
        (hproc ▸ heq)
  | before hc hi hh hgoing hp =>
      exact .before hc (mt horder.mp hi) (hholder.mpr hh) (hproc ▸ hgoing) (hproc ▸ hp)
  | after hc hi hh hgoing hp =>
      exact .after hc (horder.mpr hi) (hholder.mpr hh) (hproc ▸ hgoing) (hproc ▸ hp)
  | leaving hc hi hh hp =>
      exact .leaving hc (horder.mpr hi) (mt hholder.mp hh) (hproc ▸ hp)
  | through hi hh hdone =>
      exact .through (horder.mpr hi) (mt hholder.mp hh) (hproc ▸ hdone)

theorem Movers.keeps_within (hm : Movers h I J M N w) {f : F} (hf : M i f ∨ N i f) :
    Eff.Keeps (Within I J w') (h f) :=
  fun _ hs => ⟨hm.keeps i f hf _ hs.all, fun j hj => hm.keeps_own i f hf j _ (hs.own j hj)⟩

/-- Uninterrupted, a process keeps what its calls keep. -/
theorem Movers.keeps_run (hm : Movers h I J M N w) {P : σ → Prop}
    (hP : ∀ f, M i f ∨ N i f → Eff.Keeps P (h f)) {s : σ} (hI : I s) (hs : P s) :
    P (((w.proc i).run h).run s).2 := by
  cases hc : w.critical i with
  | true =>
      have hkeeps : Eff.Keeps P ((w.proc i).run h) :=
        Proc.Calls.keeps ((hm.mutex i hc).2.calls.imp hP)
      exact hkeeps s hs
  | false =>
      obtain ⟨f, k, hf, hk, heq⟩ := (hm.loose i hc).eq_call
      have hkeeps : Eff.Keeps P ((Proc.call f k).run h) := Proc.Calls.keeps
        (p := .call f k) ⟨hP f (.inr hf), fun r => (hk r).imp fun g hg => hP g (.inl hg)⟩
      rw [heq s hI]
      exact hkeeps s hs

/-- What is left of those that have their place. -/
theorem Reduced.calls (hr : Reduced h I J M N w w' order) (hi : i ∈ order) :
    (w'.proc i).Calls (M i) := by
  cases hr.stage i with
  | waiting _ hnot => exact absurd hi hnot
  | reading _ hnot => exact absurd hi hnot
  | before _ hnot => exact absurd hi hnot
  | after _ _ _ _ hp => exact hp
  | leaving _ _ _ hp => exact hp
  | through _ _ hdone => exact Proc.calls_finished hdone

/-- They keep what their calls keep. -/
theorem Reduced.settle_keeps (hr : Reduced h I J M N w w' order) {P : σ → Prop}
    (hP : ∀ j f, M j f → Eff.Keeps P (h f)) {s : σ} (hs : P s) :
    P (settle h w'.proc order s) :=
  Pool.settle_keeps (fun j hj => Proc.Calls.keeps ((hr.calls hj).imp fun f hf => hP j f hf)) hs

/-- What is left of the others commutes with a call of a process at its turn. -/
theorem Reduced.commute (hr : Reduced h I J M N w w' order) (hm : Movers h I J M N w) {f : F}
    (hf : M i f ∨ N i f) (hready : w.critical i = true → ∀ j, w'.holder = some j → j = i)
    (hj : j ∈ order) (hji : j ≠ i) :
    Eff.Commute (Within I J w') (h f) ((w'.proc j).run h) ∧
      Eff.Keeps (Within I J w') ((w'.proc j).run h) := by
  have hcalls : (w.critical j && w.critical i) = false →
      (w.critical j = true → w'.holder = some j) → (w'.proc j).Calls (M j) →
      Eff.Commute (Within I J w') (h f) ((w'.proc j).run h) ∧
        Eff.Keeps (Within I J w') ((w'.proc j).run h) := by
    intro hc hh hp
    refine ⟨Proc.Calls.commute (hp.imp fun g hg => ⟨?_, hm.keeps_within (.inl hg)⟩),
      Proc.Calls.keeps (hp.imp fun g hg => hm.keeps_within (.inl hg))⟩
    exact (hm.commute j i g f hji hc hg hf).symm.mono fun s hs =>
      ⟨hs.all, fun hc => hs.own j (hh hc)⟩
  cases hr.stage j with
  | waiting _ hnot => exact absurd hj hnot
  | reading _ hnot => exact absurd hj hnot
  | before _ hnot => exact absurd hj hnot
  | after hc _ hh _ hp =>
      refine hcalls ?_ (fun _ => hh) hp
      cases hci : w.critical i with
      | true => exact absurd (hready hci j hh) hji
      | false => simp
  | leaving hc _ _ hp => exact hcalls (by simp [hc]) (by simp [hc]) hp
  | through _ _ hdone => exact ⟨Proc.commute_finished hdone, Proc.keeps_finished hdone⟩

/-! ## One turn -/

section Turn

variable [DecidableEq ι]

/-- Who is at its turn has the mutex, or it is free, as far as it needs it. -/
theorem mine_of_ready (hready : w'.blocked i = false) (hc : w'.critical i = true) :
    ∀ j, w'.holder = some j → j = i := by
  intro j hj
  rcases holder_of_ready hc hready with hnone | hsome
  · rw [hnone] at hj
    cases hj
  · exact Option.some.inj (hj.symm.trans hsome)

/-- A call of process `i`, at its turn: the pool and what the others make of it. -/
theorem turn_call (hready : w'.blocked i = false) {f : F} {k : V f → Proc F V ε Unit}
    (hp : w'.proc i = .call f k) :
    (w'.turn h i).shared = ((h f).run w'.shared).2 ∧
      (w'.turn h i).proc =
        Function.update w'.proc i (Proc.resume k ((h f).run w'.shared).1) ∧
      (w'.turn h i).holder =
        if w'.critical i then
          if (Proc.resume k ((h f).run w'.shared).1).finished then none else some i
        else w'.holder := by
  rw [turn_ready hready, hp]
  exact ⟨rfl, rfl, rfl⟩

/-- A turn of `i` leaves the others where they stand. -/
theorem Reduced.others (hr : Reduced h I J M N w w' order) (hready : w'.blocked i = false)
    (horder : ∀ j, j ≠ i → (j ∈ order' ↔ j ∈ order)) (hj : j ≠ i) :
    Stage h I M N w (w'.turn h i) order' j := by
  refine (hr.stage j).other (turn_proc_ne hj) ?_ (horder j hj)
  rw [turn_ready hready]
  cases hc : w'.critical i with
  | false => simp
  | true =>
      have hmine := mine_of_ready hready hc j
      have hnot : w'.holder ≠ some j := fun hh => hj (hmine hh)
      cases hdone : ((w'.proc i).step h w'.shared).1.finished <;> simp [hnot, Ne.symm hj]

section Call

variable {f : F} {k : V f → Proc F V ε Unit}

/-- The first call that a process makes for the others to see, or one that they do not:
the others run on to their end after it as before. -/
theorem Reduced.settle_call (hr : Reduced h I J M N w w' order) (hm : Movers h I J M N w)
    (hready : w'.blocked i = false) (hi : i ∉ order) (hp : w'.proc i = .call f k)
    (hf : M i f ∨ N i f) :
    let s := settle h w'.proc order w'.shared
    ((h f).run s).1 = ((h f).run w'.shared).1 ∧
      settle h (w'.turn h i).proc order (w'.turn h i).shared = ((h f).run s).2 := by
  intro s
  obtain ⟨hshared, hproc, -⟩ := turn_call (h := h) hready hp
  have hne : ∀ j ∈ order, j ≠ i := by
    rintro j hj rfl
    exact hi hj
  have hmine : w.critical i = true → ∀ j, w'.holder = some j → j = i := fun hc =>
    mine_of_ready hready (hr.critical ▸ hc)
  have hrun := settle_commute (fun j hj => hr.commute hm hf hmine hj (hne j hj)) hr.within
  have hothers : settle h (w'.turn h i).proc order (w'.turn h i).shared =
      settle h w'.proc order ((h f).run w'.shared).2 := by
    rw [hshared, hproc]
    exact settle_congr (fun j hj => Function.update_of_ne (hne j hj) _ _) _
  rw [hothers, hrun]
  exact ⟨rfl, rfl⟩

/-- What is left of the process after the call runs as the process did before it. -/
theorem Reduced.run_call (hr : Reduced h I J M N w w' order) (hm : Movers h I J M N w)
    (hready : w'.blocked i = false) (hi : i ∉ order) (hp : w'.proc i = .call f k)
    (hf : M i f ∨ N i f) :
    ((((w'.turn h i).proc i).run h).run
        (settle h (w'.turn h i).proc order (w'.turn h i).shared)) =
      ((w'.proc i).run h).run (settle h w'.proc order w'.shared) := by
  obtain ⟨hresult, hsettle⟩ := hr.settle_call hm hready hi hp hf
  obtain ⟨-, hproc, -⟩ := turn_call (h := h) hready hp
  rw [hsettle, hproc, Function.update_self, ← hresult, hp]
  exact Proc.run_step (.call f k) _

/-- Who has the mutex after the turn. -/
theorem Reduced.holder_turn (hr : Reduced h I J M N w w' order) (hready : w'.blocked i = false)
    (hp : w'.proc i = .call f k) (hh : (w'.turn h i).holder = some j) :
    w.critical i = true ∧ i = j ∨ w.critical i = false ∧ w'.holder = some j := by
  obtain ⟨-, -, hholder⟩ := turn_call (h := h) hready hp
  rw [hholder, hr.critical] at hh
  cases hc : w.critical i with
  | false =>
      rw [hc, if_neg (by simp)] at hh
      exact .inr ⟨rfl, hh⟩
  | true =>
      rw [hc, if_pos rfl] at hh
      cases hdone : (Proc.resume k ((h f).run w'.shared).1).finished <;> simp [hdone] at hh
      exact .inl ⟨rfl, hh⟩

/-- What the process relies on held where it began. -/
theorem Reduced.own_begun (hr : Reduced h I J M N w w' order) (hm : Movers h I J M N w)
    (hready : w'.blocked i = false) (hJ : w.critical i = true → J i w'.shared)
    (hc : w.critical i = true) : J i (settle h w.proc order w.shared) := by
  rcases holder_of_ready (hr.critical ▸ hc) hready with hnone | hsome
  · rw [← hr.settled (by simp [hnone])]
    exact hr.settle_keeps (fun j f hf => hm.keeps_own j f (.inl hf) i) (hJ hc)
  · exact hr.begun.own i hsome

theorem Reduced.within_turn (hr : Reduced h I J M N w w' order) (hm : Movers h I J M N w)
    (hready : w'.blocked i = false) (hJ : w.critical i = true → J i w'.shared)
    (hp : w'.proc i = .call f k) (hf : M i f ∨ N i f) :
    Within I J (w'.turn h i) (w'.turn h i).shared := by
  have hshared := (turn_call (h := h) hready hp).1
  refine ⟨hshared ▸ hm.keeps i f hf _ hr.within.all, fun j hj => ?_⟩
  rw [hshared]
  rcases hr.holder_turn hready hp hj with ⟨hc, rfl⟩ | ⟨-, hh⟩
  · exact hm.keeps_own i f hf i _ (hJ hc)
  · exact hm.keeps_own i f hf j _ (hr.within.own j hh)

/-- No place is taken. -/
theorem Reduced.begun_turn (hr : Reduced h I J M N w w' order) (hm : Movers h I J M N w)
    (hready : w'.blocked i = false) (hJ : w.critical i = true → J i w'.shared)
    (hp : w'.proc i = .call f k) :
    Within I J (w'.turn h i) (settle h w.proc order w.shared) := by
  refine ⟨hr.begun.all, fun j hj => ?_⟩
  rcases hr.holder_turn hready hp hj with ⟨hc, rfl⟩ | ⟨-, hh⟩
  · exact hr.own_begun hm hready hJ hc
  · exact hr.begun.own j hh

/-- The process takes its place. -/
theorem Reduced.begun_concat (hr : Reduced h I J M N w w' order) (hm : Movers h I J M N w)
    (hready : w'.blocked i = false) (hJ : w.critical i = true → J i w'.shared)
    (hp : w'.proc i = .call f k) :
    Within I J (w'.turn h i) (settle h w.proc (order ++ [i]) w.shared) := by
  have hbegun := hr.begun_turn hm hready hJ hp
  rw [settle_concat]
  exact ⟨hm.keeps_run (hm.keeps i) hbegun.all hbegun.all, fun j hj =>
    hm.keeps_run (fun g hg => hm.keeps_own i g hg j) hbegun.all (hbegun.own j hj)⟩

/-- A process under the mutex at a call of `M`, before its call of `N`. -/
theorem Reduced.mutex_mover (hr : Reduced h I J M N w w' order) (hm : Movers h I J M N w)
    (hready : w'.blocked i = false) (hJ : w.critical i = true → J i w'.shared)
    (hc : w.critical i = true) (hi : i ∉ order)
    (hp : w'.proc i = .call f k) (hf : M i f) (hk : ∀ r, (k r).Reduces (M i) (N i))
    (hahead : Proc.Ahead h (M i) (w.proc i) (settle h w.proc order w.shared) (w'.proc i)
      (settle h w'.proc order w'.shared)) :
    ∃ added, (∀ j ∈ added, j = i) ∧ Reduced h I J M N w (w'.turn h i) (order ++ added) := by
  have hc' : w'.critical i = true := hr.critical ▸ hc
  obtain ⟨-, hproc, hholder⟩ := turn_call (h := h) hready hp
  obtain ⟨hresult, hsettle⟩ := hr.settle_call hm hready hi hp (.inl hf)
  have hcritical := (turn_critical h w' i).trans hr.critical
  have hwithin := hr.within_turn hm hready hJ hp (.inl hf)
  -- one call more
  have hnext : Proc.Ahead h (M i) (w.proc i) (settle h w.proc order w.shared)
      ((w'.turn h i).proc i) (settle h (w'.turn h i).proc order (w'.turn h i).shared) := by
    rw [hsettle, hproc, Function.update_self, ← hresult]
    rw [hp] at hahead
    exact hahead.step hf
  rw [if_pos hc'] at hholder
  have hreduces : ((w'.turn h i).proc i).Reduces (M i) (N i) := by
    rw [hproc, Function.update_self]
    cases ((h f).run w'.shared).1 with
    | ok r => exact hk r
    | error e => trivial
  have hself : (w'.turn h i).proc i = Proc.resume k ((h f).run w'.shared).1 := by
    rw [hproc, Function.update_self]
  rw [← hself] at hholder
  cases hdone : ((w'.turn h i).proc i).finished with
  | false =>
      rw [hdone] at hholder
      have hholder : (w'.turn h i).holder = some i := hholder
      refine ⟨[], by simp, ?_⟩
      rw [List.append_nil]
      refine ⟨hcritical, hr.nodup, hwithin, hr.begun_turn hm hready hJ hp, fun j => ?_,
        fun j hj hh => ?_, fun hall => ?_⟩
      · by_cases hji : j = i
        · subst hji
          exact .before hc hi hholder hdone hreduces
        · exact hr.others hready (fun _ _ => Iff.rfl) hji
      · obtain rfl : i = j := Option.some.inj (hholder.symm.trans hh)
        exact hnext
      · exact absurd (hall i hholder) hi
  | true =>
      rw [hdone] at hholder
      have hholder : (w'.turn h i).holder = none := hholder
      refine ⟨[i], by simp, hcritical, ?_, hwithin, hr.begun_concat hm hready hJ hp,
        fun j => ?_, fun j hj hh => ?_, fun _ => ?_⟩
      · simpa [List.nodup_append] using ⟨hr.nodup, fun j hj hji => hi (hji ▸ hj)⟩
      · by_cases hji : j = i
        · subst hji
          exact .through (by simp) (by simp [hholder]) hdone
        · exact hr.others hready (fun j hj => by simp [hj]) hji
      · simp [hholder] at hh
      · rw [settle_concat, settle_concat, hnext.run_eq]

/-- A process at its call of `N`. It has done nothing but what is `Ahead` of its start. -/
theorem Reduced.effect (hr : Reduced h I J M N w w' order) (hm : Movers h I J M N w)
    (hready : w'.blocked i = false) (hJ : w.critical i = true → J i w'.shared)
    (hi : i ∉ order) (hp : w'.proc i = .call f k) (hf : N i f) (hk : ∀ r, (k r).Calls (M i))
    (hloose : w.critical i = false → w'.holder ≠ some i)
    (hstart : (w.critical i = true ∨ ∀ j, w'.holder = some j → j ∈ order) →
      ((w'.proc i).run h).run (settle h w'.proc order w'.shared) =
        ((w.proc i).run h).run (settle h w.proc order w.shared))
    (hahead : ∀ j ∉ order ++ [i], (w'.turn h i).holder = some j →
      Proc.Ahead h (M j) (w.proc j) (settle h w.proc (order ++ [i]) w.shared)
        ((w'.turn h i).proc j)
        (settle h (w'.turn h i).proc (order ++ [i]) (w'.turn h i).shared)) :
    Reduced h I J M N w (w'.turn h i) (order ++ [i]) := by
  obtain ⟨-, hproc, hholder⟩ := turn_call (h := h) hready hp
  have hself : (w'.turn h i).proc i = Proc.resume k ((h f).run w'.shared).1 := by
    rw [hproc, Function.update_self]
  have hcalls : ((w'.turn h i).proc i).Calls (M i) := by
    rw [hself]
    exact Proc.Calls.resume hk _
  rw [← hself, hr.critical] at hholder
  refine ⟨(turn_critical h w' i).trans hr.critical, ?_, hr.within_turn hm hready hJ hp (.inr hf),
    hr.begun_concat hm hready hJ hp, fun j => ?_, hahead, fun hall => ?_⟩
  · simpa [List.nodup_append] using ⟨hr.nodup, fun j hj hji => hi (hji ▸ hj)⟩
  · by_cases hji : j = i
    · subst hji
      cases hc : w.critical j with
      | false =>
          rw [hc, if_neg (by simp)] at hholder
          exact .leaving hc (by simp) (hholder ▸ hloose hc) hcalls
      | true =>
          rw [hc, if_pos rfl] at hholder
          cases hdone : ((w'.turn h j).proc j).finished with
          | true =>
              rw [hdone, if_pos rfl] at hholder
              exact .through (by simp) (by simp [hholder]) hdone
          | false =>
              rw [hdone, if_neg (by simp)] at hholder
              exact .after hc (by simp) hholder hdone hcalls
    · exact hr.others hready (fun j hj => by simp [hj]) hji
  · have hbegan := hstart <| by
      cases hc : w.critical i with
      | true => exact .inl rfl
      | false =>
          rw [hc, if_neg (by simp)] at hholder
          refine .inr fun j hj => ?_
          have hmem := hall j (hholder.trans hj)
          have hji : j ≠ i := fun hji => hloose hc (hji ▸ hj)
          simpa [hji] using hmem
    rw [settle_concat, settle_concat, hr.run_call hm hready hi hp (.inr hf), hbegan]

/-- A process that has made its call of `N`, at a call of `M`. -/
theorem Reduced.mover (hr : Reduced h I J M N w w' order) (hm : Movers h I J M N w)
    (hready : w'.blocked i = false) (hJ : w.critical i = true → J i w'.shared)
    (hi : i ∈ order) (hp : w'.proc i = .call f k) (hcalls : (w'.proc i).Calls (M i))
    (hholder : if w.critical i then w'.holder = some i else w'.holder ≠ some i) :
    Reduced h I J M N w (w'.turn h i) order := by
  obtain ⟨hshared, hproc, hholder'⟩ := turn_call (h := h) hready hp
  rw [hp] at hcalls
  have hmine : w.critical i = true → ∀ j, w'.holder = some j → j = i := fun hc =>
    mine_of_ready hready (hr.critical ▸ hc)
  have hsame : settle h (w'.turn h i).proc order (w'.turn h i).shared =
      settle h w'.proc order w'.shared := by
    rw [hshared, hproc]
    exact settle_turn hi hr.nodup hp
      (fun j hj hji => hr.commute hm (.inl hcalls.1) hmine hj hji) hr.within
  have hself : (w'.turn h i).proc i = Proc.resume k ((h f).run w'.shared).1 := by
    rw [hproc, Function.update_self]
  have hcalls' : ((w'.turn h i).proc i).Calls (M i) := by
    rw [hself]
    exact Proc.Calls.resume hcalls.2 _
  rw [← hself, hr.critical] at hholder'
  refine ⟨(turn_critical h w' i).trans hr.critical, hr.nodup,
    hr.within_turn hm hready hJ hp (.inl hcalls.1), hr.begun_turn hm hready hJ hp,
    fun j => ?_, fun j hj hh => ?_, fun hall => ?_⟩
  · by_cases hji : j = i
    · subst hji
      cases hc : w.critical j with
      | false =>
          rw [hc, if_neg (by simp)] at hholder hholder'
          exact .leaving hc hi (hholder' ▸ hholder) hcalls'
      | true =>
          rw [hc, if_pos rfl] at hholder'
          cases hdone : ((w'.turn h j).proc j).finished with
          | true =>
              rw [hdone, if_pos rfl] at hholder'
              exact .through hi (by simp [hholder']) hdone
          | false =>
              rw [hdone, if_neg (by simp)] at hholder'
              exact .after hc hi hholder' hdone hcalls'
    · exact hr.others hready (fun _ _ => Iff.rfl) hji
  · have hji : j ≠ i := fun hji => hj (hji ▸ hi)
    have hh' : w'.holder = some j := by
      cases hc : w.critical i with
      | false =>
          rw [hc, if_neg (by simp)] at hholder'
          exact hholder' ▸ hh
      | true =>
          rw [hc, if_pos rfl] at hholder'
          rw [hholder'] at hh
          cases hdone : ((w'.turn h i).proc i).finished <;> simp [hdone, Ne.symm hji] at hh
    rw [hsame, turn_proc_ne hji]
    exact hr.ahead j hj hh'
  · rw [hsame]
    refine hr.settled fun j hj => ?_
    cases hc : w.critical i with
    | false =>
        rw [hc, if_neg (by simp)] at hholder'
        exact hall j (hholder'.trans hj)
    | true => exact hmine hc j hj ▸ hi

/-- A process without the mutex at a read. -/
theorem Reduced.read (hr : Reduced h I J M N w w' order) (hready : w'.blocked i = false)
    (hc : w.critical i = false) (hi : i ∉ order) (hh : w'.holder ≠ some i)
    (hp : w'.proc i = .call f k) {r : V f} (hread : ∀ s, I s → (h f).run s = (.ok r, s))
    (hatomic : (k r).Atomic h I (M i) (N i))
    (heq : ∀ s, I s → ((w.proc i).run h).run s = ((w'.proc i).run h).run s) :
    Reduced h I J M N w (w'.turn h i) order := by
  obtain ⟨hshared, hproc, hholder⟩ := turn_call (h := h) hready hp
  have hnow := hread w'.shared hr.within.all
  rw [hnow] at hshared hproc
  rw [hr.critical, hc, if_neg (by simp)] at hholder
  have hself : (w'.turn h i).proc i = k r := by
    rw [hproc, Function.update_self]
    rfl
  have hsame : settle h (w'.turn h i).proc order (w'.turn h i).shared =
      settle h w'.proc order w'.shared := by
    rw [hshared]
    refine settle_congr (fun j hj => turn_proc_ne ?_) _
    rintro rfl
    exact hi hj
  refine ⟨(turn_critical h w' i).trans hr.critical, hr.nodup, ?_, ?_, fun j => ?_,
    fun j hj hh' => ?_, fun hall => ?_⟩
  · exact ⟨hshared ▸ hr.within.all, fun j hj => hshared ▸ hr.within.own j (hholder ▸ hj)⟩
  · exact ⟨hr.begun.all, fun j hj => hr.begun.own j (hholder ▸ hj)⟩
  · by_cases hji : j = i
    · subst hji
      refine .reading hc hi (hholder ▸ hh) (hself ▸ hatomic) fun s hs => ?_
      have hrun : ((Proc.call f k).run h).run s =
          ((h f >>= fun r => (k r).run h) : Eff σ ε Unit).run s := rfl
      rw [heq s hs, hself, hp, hrun, Eff.run_bind_ok (hread s hs)]
    · exact hr.others hready (fun _ _ => Iff.rfl) hji
  · rw [hholder] at hh'
    have hji : j ≠ i := fun hji => hh (hji ▸ hh')
    rw [hsame, turn_proc_ne hji]
    exact hr.ahead j hj hh'
  · rw [hsame]
    exact hr.settled fun j hj => hall j (hholder.trans hj)

end Call

/-- A process under the mutex that has not made its call of `N`. -/
theorem Reduced.turn_mutex (hr : Reduced h I J M N w w' order) (hm : Movers h I J M N w)
    (hready : w'.blocked i = false) (hJ : w.critical i = true → J i w'.shared)
    (hc : w.critical i = true) (hi : i ∉ order)
    (hgoing : (w'.proc i).finished = false) (hp : (w'.proc i).Reduces (M i) (N i))
    (hahead : Proc.Ahead h (M i) (w.proc i) (settle h w.proc order w.shared) (w'.proc i)
      (settle h w'.proc order w'.shared)) :
    ∃ added, (∀ j ∈ added, j = i) ∧ Reduced h I J M N w (w'.turn h i) (order ++ added) := by
  cases hcall : w'.proc i with
  | ret a => simp [hcall, Proc.finished] at hgoing
  | raise e => simp [hcall, Proc.finished] at hgoing
  | call f k =>
      rw [hcall] at hp
      rcases hp with ⟨hf, hk⟩ | ⟨hf, hk⟩
      · exact hr.mutex_mover hm hready hJ hc hi hcall hf hk hahead
      · refine ⟨[i], by simp, hr.effect hm hready hJ hi hcall hf hk (by simp [hc])
          (fun _ => hahead.run_eq) fun j hj hh => ?_⟩
        obtain ⟨-, -, hholder⟩ := turn_call (h := h) hready hcall
        rw [hr.critical, hc, if_pos rfl] at hholder
        have hji : i ≠ j := fun hij => hj (by simp [hij])
        rw [hholder] at hh
        cases hdone : (Proc.resume k ((h f).run w'.shared).1).finished <;>
          simp [hdone, hji] at hh

/-- A process without the mutex that has not made its call of `N`. -/
theorem Reduced.turn_loose (hr : Reduced h I J M N w w' order) (hm : Movers h I J M N w)
    (hready : w'.blocked i = false) (hc : w.critical i = false) (hi : i ∉ order)
    (hh : w'.holder ≠ some i) (hp : (w'.proc i).Atomic h I (M i) (N i))
    (heq : ∀ s, I s → ((w.proc i).run h).run s = ((w'.proc i).run h).run s) :
    ∃ added, (∀ j ∈ added, j = i) ∧ Reduced h I J M N w (w'.turn h i) (order ++ added) := by
  cases hcall : w'.proc i with
  | ret a =>
      rw [hcall] at hp
      cases hp
  | raise e =>
      rw [hcall] at hp
      cases hp
  | call f k =>
      rw [hcall] at hp
      rcases hp with ⟨r, hread, hrest⟩ | ⟨hf, hk⟩
      · refine ⟨[], by simp, ?_⟩
        rw [List.append_nil]
        exact hr.read hready hc hi hh hcall hread hrest heq
      · have hbegun := hr.begun
        refine ⟨[i], by simp, hr.effect hm hready (by simp [hc]) hi hcall hf hk (fun _ => hh) ?_ ?_⟩
        · intro hsettled
          have hsettled := hr.settled (hsettled.resolve_left (by simp [hc]))
          rw [hsettled, heq _ hbegun.all]
        · intro j hj hholder
          obtain ⟨-, -, hsame⟩ := turn_call (h := h) hready hcall
          rw [hr.critical, hc, if_neg (by simp)] at hsame
          have hji : j ≠ i := fun hij => hj (by simp [hij])
          have hj' : j ∉ order := fun hmem => hj (by simp [hmem])
          rw [hsame] at hholder
          have hcommute : ∀ g, M j g →
              Eff.Commute (Within I J w') (h g) ((w'.proc i).run h) := by
            intro g hg
            have hpast : ∀ g', M i g' ∨ N i g' → Eff.Commute (Within I J w') (h g) (h g') ∧
                Eff.Keeps (Within I J w') (h g') := fun g' hg' =>
              ⟨(hm.commute j i g g' hji (by simp [hc]) hg hg').mono fun s hs =>
                ⟨hs.all, fun _ => hs.own j hholder⟩, hm.keeps_within hg'⟩
            rw [hcall]
            exact Proc.Calls.commute (p := .call f k)
              ⟨hpast f (.inr hf), fun r => (hk r).imp fun g' hg' => hpast g' (.inl hg')⟩
          have hpast := (hr.ahead j hj' hholder).commute
            (fun g hg => hm.keeps_within (.inl hg)) hcommute hbegun
          rw [settle_concat, settle_concat, hr.run_call hm hready hi hcall (.inr hf),
            heq _ hbegun.all, turn_proc_ne hji]
          exact hpast

/-- At its end a process does nothing. -/
theorem turn_through (hready : w'.blocked i = false) (hh : w'.holder ≠ some i)
    (hdone : (w'.proc i).finished = true) : w'.turn h i = w' := by
  have hholder : (if w'.critical i = true then none else w'.holder) = w'.holder := by
    cases hc : w'.critical i with
    | false => simp
    | true => simp [(holder_of_ready hc hready).resolve_right hh]
  rw [turn_ready hready, Proc.step_finished hdone, Function.update_eq_self, if_pos hdone, hholder]

/-- **A turn**: the process takes its place with its call of `N`, or none is taken. -/
theorem Reduced.turn (hr : Reduced h I J M N w w' order) (hm : Movers h I J M N w)
    (hJ : w.critical i = true → J i w'.shared) :
    ∃ added, (∀ j ∈ added, j = i) ∧ Reduced h I J M N w (w'.turn h i) (order ++ added) := by
  have hidle : w'.turn h i = w' →
      ∃ added, (∀ j ∈ added, j = i) ∧ Reduced h I J M N w (w'.turn h i) (order ++ added) := by
    intro hsame
    rw [hsame]
    exact ⟨[], by simp, by simpa using hr⟩
  cases hready : w'.blocked i with
  | true => exact hidle (turn_blocked hready)
  | false =>
  cases hr.stage i with
  | waiting hc hi hh hp =>
      have hnone : w'.holder = none :=
        (holder_of_ready (hr.critical ▸ hc) hready).resolve_right hh
      have hsettled := hr.settled (by simp [hnone])
      obtain ⟨hgoing, hreduces⟩ := hm.mutex i hc
      refine hr.turn_mutex hm hready hJ hc hi (hp ▸ hgoing) (hp ▸ hreduces) ?_
      rw [hp, hsettled]
      exact .refl
  | reading hc hi hh hp heq => exact hr.turn_loose hm hready hc hi hh hp heq
  | before hc hi hh hgoing hp => exact hr.turn_mutex hm hready hJ hc hi hgoing hp (hr.ahead i hi hh)
  | after hc hi hh hgoing hp =>
      cases hcall : w'.proc i with
      | ret a => simp [hcall, Proc.finished] at hgoing
      | raise e => simp [hcall, Proc.finished] at hgoing
      | call f k =>
          refine ⟨[], by simp, ?_⟩
          rw [List.append_nil]
          exact hr.mover hm hready hJ hi hcall hp (by simp [hc, hh])
  | leaving hc hi hh hp =>
      cases hcall : w'.proc i with
      | ret a => exact hidle (turn_through hready hh (by rw [hcall]; rfl))
      | raise e => exact hidle (turn_through hready hh (by rw [hcall]; rfl))
      | call f k =>
          refine ⟨[], by simp, ?_⟩
          rw [List.append_nil]
          exact hr.mover hm hready hJ hi hcall hp (by simp [hc, hh])
  | through hi hh hdone => exact hidle (turn_through hready hh hdone)

/-- **Any schedule**: the places are taken one after another, at each moment by processes
that have had a turn. -/
theorem Reduced.turns (hr : Reduced h I J M N w w' order) (hm : Movers h I J M N w) (is : List ι)
    (hJ : ∀ n i, is[n]? = some i → w.critical i = true → J i (w'.turns h (is.take n)).shared) :
    ∃ added, Reduced h I J M N w (w'.turns h is) (order ++ added) ∧
      ∀ n, ∃ m, Reduced h I J M N w (w'.turns h (is.take n)) (order ++ added.take m) ∧
        ∀ j ∈ added.take m, j ∈ is.take n := by
  induction is generalizing w' order with
  | nil =>
      have hr' : Reduced h I J M N w w' (order ++ []) := (List.append_nil order).symm ▸ hr
      refine ⟨[], hr', fun n => ⟨0, ?_, by simp⟩⟩
      rw [List.take_nil]
      exact hr'
  | cons i is ih =>
      obtain ⟨first, hfirst, hr'⟩ := hr.turn hm (hJ 0 i rfl)
      obtain ⟨rest, hr'', hmoments⟩ := ih hr' fun n j hj => hJ (n + 1) j hj
      rw [List.append_assoc] at hr''
      refine ⟨first ++ rest, hr'', fun n => ?_⟩
      cases n with
      | zero =>
          refine ⟨0, ?_, by simp⟩
          rw [List.take_zero, List.take_zero, List.append_nil]
          exact hr
      | succ n =>
          obtain ⟨m, hnow, hplaces⟩ := hmoments n
          have htake : (first ++ rest).take (first.length + m) = first ++ rest.take m :=
            List.take_length_add_append m
          refine ⟨first.length + m, ?_, fun j hj => ?_⟩
          · rw [htake, ← List.append_assoc]
            exact hnow
          · rw [htake] at hj
            rw [List.take_succ_cons]
            rcases List.mem_append.mp hj with hj | hj
            · exact List.mem_cons.mpr (.inl (hfirst j hj))
            · exact List.mem_cons_of_mem _ (hplaces j hj)

end Turn

/-- Who is through has his place. -/
theorem Reduced.mem_of_finished (hr : Reduced h I J M N w w' order) (hm : Movers h I J M N w)
    (hdone : (w'.proc i).finished = true) : i ∈ order := by
  cases hr.stage i with
  | waiting hc _ _ hp =>
      rw [hp, (hm.mutex i hc).1] at hdone
      cases hdone
  | reading _ _ _ hp =>
      cases hcall : w'.proc i with
      | ret a =>
          rw [hcall] at hp
          cases hp
      | raise e =>
          rw [hcall] at hp
          cases hp
      | call f k =>
          rw [hcall] at hdone
          cases hdone
  | before _ _ _ hgoing =>
      rw [hgoing] at hdone
      cases hdone
  | after _ hi => exact hi
  | leaving _ hi => exact hi
  | through hi => exact hi

/-- **One order for the whole schedule**: who is through before another has its first
turn has its place before it. -/
theorem Movers.linearise [DecidableEq ι] (hm : Movers h I J M N w) (is : List ι)
    (hJ : ∀ n i, is[n]? = some i → w.critical i = true → J i (w.turns h (is.take n)).shared) :
    ∃ order, Reduced h I J M N w (w.turns h is) order ∧
      ∀ n i j, ((w.turns h (is.take n)).proc i).finished = true → j ∈ order → j ∉ is.take n →
        order.idxOf i < order.idxOf j := by
  obtain ⟨order, hr, hmoments⟩ := hm.start.turns hm is hJ
  rw [List.nil_append] at hr
  refine ⟨order, hr, fun n i j hdone hj hlater => ?_⟩
  obtain ⟨m, hnow, hplaces⟩ := hmoments n
  rw [List.nil_append] at hnow
  have hi : i ∈ order.take m := hnow.mem_of_finished hm hdone
  have hnot : j ∉ order.take m := fun hmem => hlater (hplaces j hmem)
  rw [← List.take_append_drop m order, List.idxOf_append_of_mem hi,
    List.idxOf_append_of_notMem hnot]
  have hlt := List.idxOf_lt_length_of_mem hi
  omega

/-! ## Processes that answer -/

section Answered

/-- The calls of `C`, and the answer of the process itself. -/
def Answering (C : ι → F → Prop) (i : ι) : Answered F ι α → Prop
  | .call f => C i f
  | .answer j _ => j = i

/-- The calls of `C`, and no answer. -/
def Silent (C : ι → F → Prop) (i : ι) : Answered F ι α → Prop
  | .call f => C i f
  | .answer _ _ => False

variable {h : (f : F) → Eff σ ε (V f)} {I : σ → Prop} {J : ι → σ → Prop}
  {M N : ι → F → Prop} {p : Proc F V ε α} {i : ι}

theorem calls_answering (hp : p.Calls (M i)) : (p.answering i).Calls (Answering M i) := by
  induction p with
  | ret a => exact ⟨rfl, fun _ => trivial⟩
  | raise e => trivial
  | call f k ih => exact ⟨hp.1, fun r => ih r (hp.2 r)⟩

theorem reduces_answering (hp : p.Reduces (M i) (N i)) :
    (p.answering i).Reduces (Answering M i) (Silent N i) := by
  induction p with
  | ret a => exact .inl ⟨rfl, fun _ => trivial⟩
  | raise e => trivial
  | call f k ih =>
      rcases hp with ⟨hf, hk⟩ | ⟨hf, hk⟩
      · exact .inl ⟨hf, fun r => ih r (hk r)⟩
      · exact .inr ⟨hf, fun r => calls_answering (hk r)⟩

variable [DecidableEq ι]

theorem atomic_answering (hp : p.Atomic h I (M i) (N i)) :
    (p.answering i).Atomic (Answered.handle h) (fun x => I x.1) (Answering M i) (Silent N i) := by
  induction p with
  | ret a => cases hp
  | raise e => cases hp
  | call f k ih =>
      rcases hp with ⟨r, hread, hrest⟩ | ⟨hf, hk⟩
      · refine .inl ⟨r, fun x hx => ?_, ih r hrest⟩
        have hrun : (Answered.handle (α := α) h (.call f)).run x =
            (((h f).run x.1).1, ((h f).run x.1).2, x.2) := rfl
        rw [hrun, hread x.1 hx]
      · exact .inr ⟨hf, fun r => calls_answering (hk r)⟩

theorem keeps_answered {f : F} (hf : Eff.Keeps I (h f)) :
    Eff.Keeps (fun x => I x.1) (Answered.handle (ι := ι) (α := α) h (.call f)) :=
  fun x hx => hf x.1 hx

theorem commute_answered {f g : F} (hfg : Eff.Commute I (h f) (h g)) :
    Eff.Commute (fun x => I x.1) (Answered.handle (ι := ι) (α := α) h (.call f))
      (Answered.handle h (.call g)) := by
  intro x hx
  obtain ⟨hresult, hown, hstate⟩ := hfg x.1 hx
  exact ⟨hresult, hown, Prod.ext hstate rfl⟩

/-- The answers do not get in the way of anything. -/
theorem movers_answering
    {w : Pool (Answered F ι α) (Answered.Result V) (σ × (ι → Option α)) ε ι}
    {p : ι → Proc F V ε α} (hproc : ∀ i, w.proc i = (p i).answering i)
    (hkeeps : ∀ i f, M i f ∨ N i f → Eff.Keeps I (h f))
    (hown : ∀ i f, M i f ∨ N i f → ∀ j, Eff.Keeps (J j) (h f))
    (hcommute : ∀ i j f g, i ≠ j → (w.critical i && w.critical j) = false →
      M i f → M j g ∨ N j g →
        Eff.Commute (fun s => I s ∧ (w.critical i = true → J i s)) (h f) (h g))
    (hwithin : I w.shared.1) (hfree : w.holder = none)
    (hmutex : ∀ i, w.critical i = true → (p i).finished = false ∧ (p i).Reduces (M i) (N i))
    (hloose : ∀ i, w.critical i = false → (p i).Atomic h I (M i) (N i)) :
    Movers (Answered.handle h) (fun x => I x.1) (fun i x => J i x.1) (Answering M) (Silent N)
      w where
  keeps i f hf := by
    cases f with
    | call f => exact keeps_answered (hkeeps i f hf)
    | answer j a => exact fun x hx => hx
  keeps_own i f hf j := by
    cases f with
    | call f => exact keeps_answered (hown i f hf j)
    | answer j' a => exact fun x hx => hx
  commute i j f g hij hc hf hg := by
    cases f with
    | call f =>
        cases g with
        | call g => exact commute_answered (hcommute i j f g hij hc hf hg)
        | answer j b => exact fun _ _ => ⟨rfl, rfl, rfl⟩
    | answer i a =>
        cases g with
        | call g => exact fun _ _ => ⟨rfl, rfl, rfl⟩
        | answer j b =>
            obtain rfl := hf
            obtain rfl := hg.resolve_right id
            intro x _
            have htable : Function.update (Function.update x.2 i (some a)) j (some b) =
                Function.update (Function.update x.2 j (some b)) i (some a) :=
              Function.update_comm hij _ _ _
            exact ⟨rfl, rfl, Prod.ext rfl htable⟩
  within := hwithin
  free := hfree
  mutex i hc := by
    rw [hproc i]
    exact ⟨Proc.answering_finished (hmutex i hc).1, reduces_answering (hmutex i hc).2⟩
  loose i hc := by
    rw [hproc i]
    exact atomic_answering (hloose i hc)

/-- Who has but to answer changes nothing, and nobody else's answer. -/
theorem run_answer {p : Proc (Answered F ι α) (Answered.Result V) ε Unit}
    (hp : p.Calls (Answering (fun _ _ => False) i)) (x : σ × (ι → Option α)) :
    (((p.run (Answered.handle h)).run x).2).1 = x.1 ∧
      ∀ j, j ≠ i → (((p.run (Answered.handle h)).run x).2).2 j = x.2 j := by
  induction p generalizing x with
  | ret a => exact ⟨rfl, fun _ _ => rfl⟩
  | raise e => exact ⟨rfl, fun _ _ => rfl⟩
  | call f k ih =>
      cases f with
      | call f => exact absurd hp.1 id
      | answer i' a =>
          obtain rfl : i' = i := hp.1
          have hrun : ((Proc.call (.answer i' a) k).run (Answered.handle h)).run x =
              ((k ()).run (Answered.handle h)).run (x.1, Function.update x.2 i' (some a)) := rfl
          obtain ⟨hstate, htable⟩ := ih () (hp.2 ()) (x.1, Function.update x.2 i' (some a))
          rw [hrun]
          exact ⟨hstate, fun j hj => (htable j hj).trans (Function.update_of_ne hj _ _)⟩

theorem settle_answers {proc : ι → Proc (Answered F ι α) (Answered.Result V) ε Unit}
    {order : List ι} (hproc : ∀ i ∈ order, (proc i).Calls (Answering (fun _ _ => False) i))
    (x : σ × (ι → Option α)) :
    (settle (Answered.handle h) proc order x).1 = x.1 ∧
      ∀ i, (proc i).finished = true → (settle (Answered.handle h) proc order x).2 i = x.2 i := by
  induction order generalizing x with
  | nil => exact ⟨rfl, fun _ _ => rfl⟩
  | cons j order ih =>
      rw [List.forall_mem_cons] at hproc
      obtain ⟨hstate, htable⟩ := run_answer hproc.1 x
      obtain ⟨hstate', htable'⟩ := ih hproc.2 (((proc j).run (Answered.handle h)).run x).2
      refine ⟨hstate'.trans hstate, fun i hi => (htable' i hi).trans ?_⟩
      by_cases hij : i = j
      · subst hij
        rw [Proc.run_finished hi]
      · exact htable i hij

/-- **With the mutex free** the state is the one that they leave one after the other, and
who is through has the answer that he gets there. Without the mutex a process has nothing
to do after its call of `N` but to answer. -/
theorem Reduced.answered
    {w w' : Pool (Answered F ι α) (Answered.Result V) (σ × (ι → Option α)) ε ι} {order : List ι}
    (hr : Reduced (Answered.handle h) (fun x => I x.1) (fun i x => J i x.1) (Answering M)
      (Silent N) w w' order)
    (hloose : ∀ i, w.critical i = false → ∀ f, ¬ M i f) (hfree : w'.holder = none) :
    w'.shared.1 = (w.serial (Answered.handle h) order).1 ∧
      ∀ i, (w'.proc i).finished = true →
        w'.shared.2 i = (w.serial (Answered.handle h) order).2 i := by
  have hserial : settle (Answered.handle h) w'.proc order w'.shared =
      w.serial (Answered.handle h) order := hr.settled (by simp [hfree])
  have hanswer : ∀ i ∈ order, (w'.proc i).Calls (Answering (fun _ _ => False) i) := by
    intro i hi
    cases hr.stage i with
    | waiting _ hnot => exact absurd hi hnot
    | reading _ hnot => exact absurd hi hnot
    | before _ hnot => exact absurd hi hnot
    | after _ _ hh => simp [hfree] at hh
    | leaving hc _ _ hp =>
        refine hp.imp fun f hf => ?_
        cases f with
        | call f => exact hloose i hc f hf
        | answer j a => exact hf
    | through _ _ hdone => exact Proc.calls_finished hdone
  obtain ⟨hstate, htable⟩ := settle_answers hanswer w'.shared
  rw [← hserial]
  exact ⟨hstate.symm, fun i hi => (htable i hi).symm⟩

end Answered

end Pool

end Py
