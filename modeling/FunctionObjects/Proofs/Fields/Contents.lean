import FunctionObjects.Proofs.Keyed.Entries
/-!
# Contents of tuples

What reading and writing a tuple does, on data, for tuples addressed by position and by name alike.
A position that does not exist and a name that cannot be hashed are refused.  Writes to different
references do not disturb each other, nor what is read of a third one.
-/

namespace FunctionObjects

open Datum

/-- What is in a tuple: values by position, or values by name. -/
inductive Contents (α : Type) where
  | slots (as : List α)
  | fields (es : List (Datum × α))

namespace Contents

variable {α : Type} {K : Datum → Prop} {c c' d e : Contents α} {ρ σ : Datum} {a b : α}
  {ps qs : List (Datum × α)}

/-- The position that a reference stands for. -/
def position? (n : Nat) : Datum → Option Nat
  | .atom (.int i) => if 0 ≤ i ∧ i < n then some i.toNat else none
  | _ => none

/-- The value under a reference; a name without a value has the one that stands for nothing. -/
def get (nothing : α) : Contents α → Datum → Option α
  | slots as, ρ => (position? as.length ρ).bind fun i => as[i]?
  | fields es, ρ => if ρ.hashable then some ((Keyed.value? es ρ).getD nothing) else none

/-- Writes a value under a reference. -/
def put : Contents α → Datum → α → Option (Contents α)
  | slots as, ρ, a => (position? as.length ρ).map fun i => slots (as.set i a)
  | fields es, ρ, a => if ρ.hashable then some (fields (Keyed.put es ρ a)) else none

/-- Writes values one after the other. -/
def putAll (c : Contents α) (ps : List (Datum × α)) : Option (Contents α) :=
  ps.foldlM (fun c p => c.put p.1 p.2) c

/-- The same values by position, or the same entries in some order. -/
inductive Alike : Contents α → Contents α → Prop
  | slots (as : List α) : Alike (slots as) (slots as)
  | fields {es fs : List (Datum × α)} (h : es.Perm fs) : Alike (fields es) (fields fs)

/-- The names in a tuple are keys. -/
def Within (K : Datum → Prop) : Contents α → Prop
  | slots _ => True
  | fields es => ∀ e ∈ es, K e.1

theorem Alike.refl (c : Contents α) : Alike c c := by
  cases c with
  | slots as => exact .slots as
  | fields es => exact .fields (.refl es)

theorem Alike.trans (h : Alike c d) (g : Alike d e) : Alike c e := by
  cases h with
  | slots => exact g
  | fields h =>
    cases g with
    | fields g => exact .fields (h.trans g)

theorem put_fields {es : List (Datum × α)} :
    (fields es).put ρ a = some c' ↔ ρ.hashable = true ∧ fields (Keyed.put es ρ a) = c' := by
  simp [put]

theorem within_put (h : c.put ρ a = some c') (hc : c.Within K) (hρ : ρ.hashable = true → K ρ) :
    c'.Within K := by
  cases c with
  | slots as =>
    obtain ⟨i, -, rfl⟩ := Option.map_eq_some_iff.mp h
    trivial
  | fields es =>
    obtain ⟨hhash, rfl⟩ := put_fields.mp h
    exact Keyed.forall_put hc (hρ hhash) a

/-- References for one position are equal. -/
theorem sameItem_of_position {n i : Nat} (h : position? n ρ = some i) (h' : position? n σ = some i) :
    ρ.sameItem σ = true := by
  have hint : ∀ {τ : Datum}, position? n τ = some i → τ = .atom (.int i) := by
    intro τ hτ
    unfold position? at hτ
    split at hτ
    · split at hτ
      · rename_i j hj
        obtain rfl := Option.some.inj hτ
        rw [Int.toNat_of_nonneg hj.1]
      · cases hτ
    · cases hτ
  rw [hint h, hint h']
  exact equalsItself_atom (a := .int i) rfl

variable (hK : AreKeys K) (hc : c.Within K)

include hK hc

/-- What is written under one reference is not read under another one. -/
theorem get_put (hρ : ρ.hashable = true → K ρ) (hσ : σ.hashable = true → K σ)
    (hapart : ρ.sameItem σ = false) (h : c.put ρ a = some c') (nothing : α) :
    c'.get nothing σ = c.get nothing σ := by
  cases c with
  | slots as =>
    obtain ⟨i, hi, rfl⟩ := Option.map_eq_some_iff.mp h
    rw [get, get, List.length_set]
    cases hj : position? as.length σ with
    | none => rfl
    | some j =>
      have hij : i ≠ j := by
        rintro rfl
        rw [sameItem_of_position hi hj] at hapart
        cases hapart
      simp [hij]
  | fields es =>
    obtain ⟨hhash, rfl⟩ := put_fields.mp h
    rw [get, get]
    split
    · rename_i hhash'
      rw [Keyed.value?_put hK hc (hρ hhash) (hσ hhash') hapart]
    · rfl

/-- Two writes to different references can be done in either order. -/
theorem put_put (hρ : ρ.hashable = true → K ρ) (hσ : σ.hashable = true → K σ)
    (hapart : ρ.sameItem σ = false) (h : c.put ρ a = some d) (h' : d.put σ b = some e) :
    ∃ d' e', c.put σ b = some d' ∧ d'.put ρ a = some e' ∧ Alike e e' := by
  cases c with
  | slots as =>
    obtain ⟨i, hi, rfl⟩ := Option.map_eq_some_iff.mp h
    obtain ⟨j, hj, rfl⟩ := Option.map_eq_some_iff.mp h'
    rw [List.length_set] at hj
    have hij : i ≠ j := by
      rintro rfl
      rw [sameItem_of_position hi hj] at hapart
      cases hapart
    refine ⟨slots (as.set j b), slots ((as.set j b).set i a), by simp [put, hj],
      by simp [put, hi], ?_⟩
    rw [List.set_comm _ _ hij]
    exact .slots _
  | fields es =>
    obtain ⟨hhash, rfl⟩ := put_fields.mp h
    obtain ⟨hhash', rfl⟩ := put_fields.mp h'
    exact ⟨_, _, if_pos hhash', if_pos hhash,
      .fields (Keyed.put_put_perm hK hc (hρ hhash) (hσ hhash') hapart a b)⟩

omit hK hc in
theorem put_alike (h : Alike c d) (hput : c.put ρ a = some c') :
    ∃ d', d.put ρ a = some d' ∧ Alike c' d' := by
  cases h with
  | slots => exact ⟨c', hput, .refl c'⟩
  | fields h =>
    obtain ⟨hhash, rfl⟩ := put_fields.mp hput
    exact ⟨_, if_pos hhash, .fields (Keyed.put_perm h ρ a)⟩

/-- Writes to a list of references leave what is under others. -/
theorem get_putAll (hps : ∀ p ∈ ps, (p.1.hashable = true → K p.1) ∧ p.1.sameItem σ = false)
    (hσ : σ.hashable = true → K σ) (h : c.putAll ps = some c') (nothing : α) :
    c'.get nothing σ = c.get nothing σ := by
  induction ps generalizing c with
  | nil =>
    obtain rfl := Option.some.inj h
    rfl
  | cons p ps ih =>
    obtain ⟨d, hd, hrest⟩ := Option.bind_eq_some_iff.mp h
    obtain ⟨hp, hpσ⟩ := hps p List.mem_cons_self
    rw [ih (within_put hd hc hp) (fun q hq => hps q (List.mem_cons_of_mem p hq)) hrest,
      get_put hK hc hp hσ hpσ hd]

omit hK hc in
theorem putAll_alike (h : Alike c d) (hputs : c.putAll ps = some c') :
    ∃ d', d.putAll ps = some d' ∧ Alike c' d' := by
  induction ps generalizing c d with
  | nil =>
    obtain rfl := Option.some.inj hputs
    exact ⟨d, rfl, h⟩
  | cons p ps ih =>
    obtain ⟨c₁, hc₁, hrest⟩ := Option.bind_eq_some_iff.mp hputs
    obtain ⟨d₁, hd₁, halike⟩ := put_alike h hc₁
    obtain ⟨d', hd', halike'⟩ := ih halike hrest
    exact ⟨d', Option.bind_eq_some_iff.mpr ⟨d₁, hd₁, hd'⟩, halike'⟩

/-- One more write can be done before others that are to different references. -/
theorem putAll_put (hps : ∀ p ∈ ps, (p.1.hashable = true → K p.1) ∧ p.1.sameItem σ = false)
    (hσ : σ.hashable = true → K σ) (h : c.putAll ps = some d) (h' : d.put σ b = some e) :
    ∃ d' e', c.put σ b = some d' ∧ d'.putAll ps = some e' ∧ Alike e e' := by
  induction ps generalizing c with
  | nil =>
    obtain rfl := Option.some.inj h
    exact ⟨e, e, h', rfl, .refl e⟩
  | cons p ps ih =>
    obtain ⟨c₁, hc₁, hrest⟩ := Option.bind_eq_some_iff.mp h
    obtain ⟨hp, hpσ⟩ := hps p List.mem_cons_self
    obtain ⟨d₁, e₁, hd₁, he₁, halike⟩ :=
      ih (within_put hc₁ hc hp) (fun q hq => hps q (List.mem_cons_of_mem p hq)) hrest
    obtain ⟨d₂, e₂, hd₂, he₂, halike'⟩ := put_put hK hc hp hσ hpσ hc₁ hd₁
    obtain ⟨e', he', halike''⟩ := putAll_alike halike' he₁
    exact ⟨d₂, e', hd₂, Option.bind_eq_some_iff.mpr ⟨e₂, he₂, he'⟩, halike.trans halike''⟩

/-- Writes to two lists of references that share none can be done in either order. -/
theorem putAll_putAll (hps : ∀ p ∈ ps, p.1.hashable = true → K p.1)
    (hqs : ∀ q ∈ qs, q.1.hashable = true → K q.1)
    (hapart : ∀ p ∈ ps, ∀ q ∈ qs, p.1.sameItem q.1 = false)
    (h : c.putAll ps = some d) (h' : d.putAll qs = some e) :
    ∃ d' e', c.putAll qs = some d' ∧ d'.putAll ps = some e' ∧ Alike e e' := by
  induction qs generalizing c d e with
  | nil =>
    obtain rfl := Option.some.inj h'
    exact ⟨c, d, rfl, h, .refl d⟩
  | cons q qs ih =>
    obtain ⟨d₁, hd₁, hrest⟩ := Option.bind_eq_some_iff.mp h'
    have hq := hqs q List.mem_cons_self
    obtain ⟨c₁, d₂, hc₁, hd₂, halike⟩ := putAll_put hK hc
      (fun p hp => ⟨hps p hp, hapart p hp q List.mem_cons_self⟩) hq h hd₁
    obtain ⟨e₁, he₁, halike'⟩ := putAll_alike halike hrest
    obtain ⟨d', e', hd', he', halike''⟩ := ih (within_put hc₁ hc hq)
      (fun r hr => hqs r (List.mem_cons_of_mem q hr))
      (fun p hp r hr => hapart p hp r (List.mem_cons_of_mem q hr)) hd₂ he₁
    exact ⟨d', e', Option.bind_eq_some_iff.mpr ⟨c₁, hc₁, hd'⟩, he', halike'.trans halike''⟩

end Contents

/-- A step on a tuple: it reads some references, hands the values on, and writes what comes back. -/
structure TupleStep (α : Type) where
  selection : List Datum
  /-- What comes back for the values that are read, if anything does. -/
  apply : List α → Option (List α)
  projection : List Datum

namespace TupleStep

variable {α : Type} {K : Datum → Prop} {nothing : α} {c d e : Contents α} {F G : TupleStep α}

/-- The values under some references. -/
def select (nothing : α) (c : Contents α) (σs : List Datum) : Option (List α) :=
  σs.mapM (c.get nothing)

/-- Writes values under as many references, at least one. -/
def project (c : Contents α) (ρs : List Datum) (bs : List α) : Option (Contents α) :=
  if ρs = [] ∨ bs.length ≠ ρs.length then none else c.putAll (ρs.zip bs)

/-- What a step makes of a tuple. -/
def run (nothing : α) (F : TupleStep α) (c : Contents α) : Option (Contents α) := do
  project c F.projection (← F.apply (← select nothing c F.selection))

/-- The references of a step are keys, as far as they are hashable. -/
def Within (K : Datum → Prop) (F : TupleStep α) : Prop :=
  ∀ ρ ∈ F.selection ++ F.projection, ρ.hashable = true → K ρ

theorem run_eq_some : run nothing F c = some d ↔ ∃ as bs, select nothing c F.selection = some as ∧
    F.apply as = some bs ∧ project c F.projection bs = some d := by
  simp only [run, Option.bind_eq_bind, Option.bind_eq_some_iff]
  exact ⟨fun ⟨as, has, bs, hbs, hd⟩ => ⟨as, bs, has, hbs, hd⟩,
    fun ⟨as, bs, has, hbs, hd⟩ => ⟨as, has, bs, hbs, hd⟩⟩

theorem project_eq_some {ρs : List Datum} {bs : List α} : project c ρs bs = some d ↔
    ρs ≠ [] ∧ bs.length = ρs.length ∧ c.putAll (ρs.zip bs) = some d := by
  rw [project]
  split
  · rename_i h
    refine ⟨nofun, fun ⟨hne, hlength, _⟩ => ?_⟩
    exact h.elim (absurd · hne) (absurd hlength ·)
  · rename_i h
    rw [not_or, not_not] at h
    exact ⟨fun hd => ⟨h.1, h.2, hd⟩, fun hd => hd.2.2⟩

/-- What is written elsewhere is not read. -/
theorem select_putAll (hK : Datum.AreKeys K) (hc : c.Within K) {ps : List (Datum × α)}
    {σs : List Datum} (hps : ∀ p ∈ ps, p.1.hashable = true → K p.1)
    (hσs : ∀ σ ∈ σs, σ.hashable = true → K σ)
    (hapart : ∀ p ∈ ps, ∀ σ ∈ σs, p.1.sameItem σ = false) (h : c.putAll ps = some d) :
    select nothing d σs = select nothing c σs := by
  induction σs with
  | nil => rfl
  | cons σ σs ih =>
    have hσ := List.mem_cons_self (a := σ) (l := σs)
    have hrest := ih (fun τ hτ => hσs τ (List.mem_cons_of_mem σ hτ))
      fun p hp τ hτ => hapart p hp τ (List.mem_cons_of_mem σ hτ)
    rw [select, select] at hrest
    rw [select, select, List.mapM_cons, List.mapM_cons, hrest, Contents.get_putAll hK hc
      (fun p hp => ⟨hps p hp, hapart p hp σ hσ⟩) (hσs σ hσ) h nothing]

/-- A step that writes elsewhere leaves what another one reads. -/
theorem select_run (hK : Datum.AreKeys K) (hc : c.Within K) (hF : F.Within K) (hG : G.Within K)
    (hapart : ∀ ρ ∈ F.projection, ∀ σ ∈ G.selection, ρ.sameItem σ = false)
    (h : run nothing F c = some d) : select nothing d G.selection = select nothing c G.selection := by
  obtain ⟨as, bs, -, -, hd⟩ := run_eq_some.mp h
  have hmem : ∀ p ∈ F.projection.zip bs, p.1 ∈ F.projection := fun p hp => (List.of_mem_zip hp).1
  exact select_putAll hK hc (fun p hp => hF _ (List.mem_append_right _ (hmem p hp)))
    (fun σ hσ => hG σ (List.mem_append_left _ hσ)) (fun p hp => hapart _ (hmem p hp))
    (project_eq_some.mp hd).2.2

/-- Steps of which neither writes what the other one reads or writes can be done in either order. -/
theorem run_run (hK : Datum.AreKeys K) (hc : c.Within K) (hF : F.Within K) (hG : G.Within K)
    (hFG : ∀ ρ ∈ F.projection, ∀ σ ∈ G.selection ++ G.projection, ρ.sameItem σ = false)
    (hGF : ∀ ρ ∈ G.projection, ∀ σ ∈ F.selection, ρ.sameItem σ = false)
    (h : run nothing F c = some d) (h' : run nothing G d = some e) :
    ∃ d' e', run nothing G c = some d' ∧ run nothing F d' = some e' ∧ Contents.Alike e e' := by
  have hread := select_run hK hc hF hG
    (fun ρ hρ σ hσ => hFG ρ hρ σ (List.mem_append_left _ hσ)) h
  obtain ⟨as, bs, has, hbs, hd⟩ := run_eq_some.mp h
  obtain ⟨as', bs', has', hbs', he⟩ := run_eq_some.mp h'
  obtain ⟨hne, hlength, hputs⟩ := project_eq_some.mp hd
  obtain ⟨hne', hlength', hputs'⟩ := project_eq_some.mp he
  have hmem : ∀ {ρs : List Datum} {cs : List α}, ∀ p ∈ ρs.zip cs, p.1 ∈ ρs :=
    fun p hp => (List.of_mem_zip hp).1
  obtain ⟨d', e', hd', he', halike⟩ := Contents.putAll_putAll hK hc
    (fun p hp => hF _ (List.mem_append_right _ (hmem p hp)))
    (fun q hq => hG _ (List.mem_append_right _ (hmem q hq)))
    (fun p hp q hq => hFG _ (hmem p hp) _ (List.mem_append_right _ (hmem q hq))) hputs hputs'
  -- each step reads in the other order what it reads in this one
  have hG' : run nothing G c = some d' := run_eq_some.mpr
    ⟨as', bs', hread.symm.trans has', hbs', project_eq_some.mpr ⟨hne', hlength', hd'⟩⟩
  have hread' := select_run hK hc hG hF hGF hG'
  exact ⟨d', e', hG', run_eq_some.mpr
    ⟨as, bs, hread'.trans has, hbs, project_eq_some.mpr ⟨hne, hlength, he'⟩⟩, halike⟩

end TupleStep

end FunctionObjects
