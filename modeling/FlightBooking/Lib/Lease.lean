import Mathlib.Data.Set.Basic
import Mathlib.Order.Defs.LinearOrder

/-!
# Lease — exclusive claims that expire

A lease gives a holder a set of resources until an expiry. What a lease service
is for is `Exclusive`: two live leases that share a resource have one holder.

A service that answers quickly keeps, next to the leases it has granted, an
index from each resource to one lease on it, and decides a request from the
index alone. `Guards` is what the index must know for that to be enough, and
`Table.grant` / `Table.revoke` say when it still knows it afterwards: a grant to
the holder of every live index entry always keeps it, a revocation does exactly
if it does not clear the entry of a resource that another live lease covers.
-/

namespace Lease

variable {κ ρ η τ : Type*}

/-- The claim `id` of `holder` on `resources`, until `expiry`. -/
structure Claim (κ ρ η τ : Type*) where
  id : κ
  resources : Set ρ
  holder : η
  expiry : τ

/-- The claims granted and not revoked, and the index. -/
structure Table (κ ρ η τ : Type*) where
  granted : Set (Claim κ ρ η τ)
  owner : ρ → Option (Claim κ ρ η τ)

variable [LinearOrder τ]

/-- A claim lives strictly before its expiry. -/
def Claim.Live (c : Claim κ ρ η τ) (now : τ) : Prop := now < c.expiry

theorem Claim.Live.earlier {c : Claim κ ρ η τ} {now now' : τ} (h : c.Live now')
    (hle : now ≤ now') : c.Live now := lt_of_le_of_lt hle h

/-- Two live claims that share a resource have the same holder. -/
def Exclusive (now : τ) (cs : Set (Claim κ ρ η τ)) : Prop :=
  ∀ a ∈ cs, ∀ b ∈ cs, a.Live now → b.Live now →
    (a.resources ∩ b.resources).Nonempty → a.holder = b.holder

/-- Every resource of a live claim has an index entry of the same holder that
lives at least as long. -/
def Table.Guards (t : Table κ ρ η τ) (now : τ) : Prop :=
  ∀ c ∈ t.granted, c.Live now → ∀ x ∈ c.resources,
    ∃ g, t.owner x = some g ∧ c.expiry ≤ g.expiry ∧ g.holder = c.holder

/-- The index lets `holder` have `x`: whoever it names is dead or the same. -/
def Table.Free (t : Table κ ρ η τ) (now : τ) (holder : η) (x : ρ) : Prop :=
  ∀ g, t.owner x = some g → g.Live now → g.holder = holder

/-- A guarded table grants nothing twice. -/
theorem Table.Guards.exclusive {t : Table κ ρ η τ} {now : τ} (h : t.Guards now) :
    Exclusive now t.granted := by
  rintro a ha b hb hla hlb ⟨x, hxa, hxb⟩
  obtain ⟨g, hg, -, hgh⟩ := h a ha hla x hxa
  obtain ⟨g', hg', -, hgh'⟩ := h b hb hlb x hxb
  have he : g = g' := Option.some.inj (hg.symm.trans hg')
  rw [← hgh, ← hgh', he]

/-- Waiting does not hurt: an entry outlives the claim it stands for. -/
theorem Table.Guards.later {t : Table κ ρ η τ} {now now' : τ} (h : t.Guards now)
    (hle : now ≤ now') : t.Guards now' :=
  fun c hc hl x hx => h c hc (hl.earlier hle) x hx

/-- A live claim keeps every other holder off its resources. -/
theorem Table.Guards.not_free {t : Table κ ρ η τ} {now : τ} (h : t.Guards now)
    {c : Claim κ ρ η τ} (hc : c ∈ t.granted) (hl : c.Live now) {x : ρ} (hx : x ∈ c.resources)
    {holder : η} (hne : c.holder ≠ holder) : ¬ t.Free now holder x := by
  obtain ⟨g, hg, hexp, hgh⟩ := h c hc hl x hx
  intro hfree
  exact hne (hgh.symm.trans (hfree g hg (lt_of_lt_of_le hl hexp)))

section Operations

open Classical in
/-- Grant `c`: it is added, and the index names it on all its resources. -/
noncomputable def Table.grant (t : Table κ ρ η τ) (c : Claim κ ρ η τ) : Table κ ρ η τ where
  granted := insert c t.granted
  owner := fun x => if x ∈ c.resources then some c else t.owner x

open Classical in
/-- Revoke the claims `k`: they go, and so do the index entries that name them. -/
noncomputable def Table.revoke (t : Table κ ρ η τ) (k : κ) : Table κ ρ η τ where
  granted := {c ∈ t.granted | c.id ≠ k}
  owner := fun x => (t.owner x).filter (fun g => decide (g.id ≠ k))

/-- A grant that the index allows, and that outlives what was granted before,
keeps the table guarded. -/
theorem Table.Guards.grant {t : Table κ ρ η τ} {now : τ} (h : t.Guards now)
    {c : Claim κ ρ η τ} (hexp : ∀ a ∈ t.granted, a.expiry ≤ c.expiry)
    (hfree : ∀ x ∈ c.resources, t.Free now c.holder x) : (t.grant c).Guards now := by
  intro a ha hl x hx
  by_cases hxc : x ∈ c.resources
  · refine ⟨c, by simp [Table.grant, hxc], ?_⟩
    rcases ha with rfl | ha
    · exact ⟨le_refl _, rfl⟩
    · -- the old guard of `x` lives as long as `a`, so the index allowed `c` for its holder only
      obtain ⟨g, hg, hge, hgh⟩ := h a ha hl x hx
      exact ⟨hexp a ha, (hfree x hxc g hg (lt_of_lt_of_le hl hge)).symm.trans hgh⟩
  · rcases ha with rfl | ha
    · exact absurd hx hxc
    · obtain ⟨g, hg, hge, hgh⟩ := h a ha hl x hx
      exact ⟨g, by simpa [Table.grant, hxc] using hg, hge, hgh⟩

/-- The revocation of `k` uncovers nothing: no live claim other than `k` has a
resource whose index entry names `k`. -/
def Table.Covered (t : Table κ ρ η τ) (now : τ) (k : κ) : Prop :=
  ∀ c ∈ t.granted, c.id ≠ k → c.Live now → ∀ x ∈ c.resources,
    ∀ g, t.owner x = some g → g.id ≠ k

/-- A revocation keeps a guarded table guarded exactly if it uncovers nothing. -/
theorem Table.Guards.revoke_iff {t : Table κ ρ η τ} {now : τ} (h : t.Guards now) (k : κ) :
    (t.revoke k).Guards now ↔ t.Covered now k := by
  constructor
  · intro h' c hc hck hl x hx g hg
    obtain ⟨g', hg', -, -⟩ := h' c ⟨hc, hck⟩ hl x hx
    simp only [Table.revoke, Option.filter_eq_some_iff, decide_eq_true_eq] at hg'
    rw [Option.some.inj (hg.symm.trans hg'.1)]
    exact hg'.2
  · rintro hcov c ⟨hc, hck⟩ hl x hx
    obtain ⟨g, hg, hge, hgh⟩ := h c hc hl x hx
    refine ⟨g, ?_, hge, hgh⟩
    simp only [Table.revoke, Option.filter_eq_some_iff, decide_eq_true_eq]
    exact ⟨hg, hcov c hc hck hl x hx g hg⟩

end Operations

end Lease
