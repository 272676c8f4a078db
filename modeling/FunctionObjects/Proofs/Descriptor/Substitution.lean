import FunctionObjects.Proofs.Descriptor.Proper
/-!
# Substitution into descriptors

A substitution keeps descriptors as they are built, and it gives the same type for the same type.
Two substitutions one after the other are a single one that does to each variable what both do in
turn.  This holds up to being the same type only: unions are built anew each time, and members that
the first substitution makes equal are joined before the second one sees them.
-/

namespace FunctionObjects

/-- An environment that binds variables to arguments as they are built. -/
def TypeEnv.IsProper (env : TypeEnv) : Prop := ∀ v t, env.lookup v = some t → t.IsArgument

theorem TypeEnv.isProper_of_forall {env : TypeEnv} (h : ∀ e ∈ env, e.2.IsArgument) :
    env.IsProper := by
  intro v t hv
  obtain ⟨front, back, hsplit, -⟩ := List.lookup_eq_some_iff.mp hv
  exact h (v, t) (by simp [hsplit])

namespace Ty

variable {t u : Ty} {ts us : List Ty} {h : Head} {env env₁ env₂ : TypeEnv}

@[simp] theorem asArgument_asArgument (t : Ty) : t.asArgument.asArgument = t.asArgument := by
  cases t with
  | lit l => cases l <;> rfl
  | _ => rfl

theorem asArgument_same (hs : t.same u = true) : t.asArgument.same u.asArgument = true := by
  cases t with
  | lit l =>
    cases u <;> simp only [same, Bool.false_eq_true, beq_iff_eq] at hs
    subst hs
    exact same_refl _
  | app h ts =>
    obtain ⟨us, rfl, -⟩ := app_same hs
    exact hs
  | _ => cases u <;> first | exact hs | simp [same] at hs

theorem asArgument_substitute (t : Ty) :
    (t.asArgument.substitute env).asArgument = (t.substitute env).asArgument := by
  cases t with
  | lit l => cases l <;> rfl
  | _ => rfl

theorem Proper.asArgument (ht : t.Proper) : t.asArgument.IsArgument := by
  refine ⟨?_, asArgument_asArgument t⟩
  cases t with
  | lit l => cases l <;> exact trivial
  | none => exact trivial
  | _ => exact ht

theorem substituteAll_eq_map (env : TypeEnv) (ts : List Ty) :
    substituteAll env ts = ts.map (substitute env) := by
  induction ts with
  | nil => rfl
  | cons t ts ih => simp [substituteAll, ih]

theorem occurrencesAll_eq_flatMap (ts : List Ty) : occurrencesAll ts = ts.flatMap occurrences := by
  induction ts with
  | nil => rfl
  | cons t ts ih => simp [occurrencesAll, ih]

theorem allSame_map {f g : Ty → Ty} (hs : ∀ t ∈ ts, (f t).same (g t) = true) :
    allSame (ts.map f) (ts.map g) = true := by
  rw [Classes.allSame_iff_forall₂, List.forall₂_map_left_iff, List.forall₂_map_right_iff,
    List.forall₂_same]
  exact hs

theorem allSame_map_map {f : Ty → Ty} : ∀ {ts us : List Ty},
    (∀ t ∈ ts, ∀ u ∈ us, t.same u = true → (f t).same (f u) = true) → allSame ts us = true →
      allSame (ts.map f) (us.map f) = true
  | [], [], _, _ => rfl
  | t :: ts, u :: us, hf, hs => by
    simp only [allSame, List.map_cons, Bool.and_eq_true] at hs ⊢
    exact ⟨hf t List.mem_cons_self u List.mem_cons_self hs.1, allSame_map_map
      (fun t ht u hu => hf t (List.mem_cons_of_mem _ ht) u (List.mem_cons_of_mem _ hu)) hs.2⟩
  | [], _ :: _, _, hs | _ :: _, [], _, hs => by simp [allSame] at hs

/-- What becomes of an argument is up to what is parameterized. -/
theorem argument_cases (h : Head) :
    h.argument = id ∨ h.argument = asArgument ∨ h.argument = callableArgument := by
  cases h with
  | cls c =>
    by_cases hc : c.isPlainGeneric = true
    · exact .inl (funext fun t => by simp [Head.argument, hc])
    · exact .inr (.inl (funext fun t => by simp [Head.argument, hc]))
  | named a =>
    cases a with
    | callable => exact .inr (.inr rfl)
    | _ => exact .inr (.inl rfl)
  | literal => exact .inr (.inl rfl)

theorem argument_argument (h : Head) (t : Ty) : h.argument (h.argument t) = h.argument t := by
  rcases argument_cases h with hh | hh | hh <;> rw [hh]
  · rfl
  · exact asArgument_asArgument t
  · cases t with
    | params ts => simp [callableArgument]
    | lit l => cases l <;> rfl
    | _ => rfl

theorem argument_same (h : Head) (hs : t.same u = true) :
    (h.argument t).same (h.argument u) = true := by
  rcases argument_cases h with hh | hh | hh <;> rw [hh]
  · exact hs
  · exact asArgument_same hs
  · cases t with
    | params ts =>
      cases u <;> simp only [same, Bool.false_eq_true] at hs
      exact allSame_map_map (fun _ _ _ _ => asArgument_same) hs
    | app h ts =>
      obtain ⟨us, rfl, -⟩ := app_same hs
      exact hs
    | _ =>
      cases u with
      | params => simp [same] at hs
      | _ => exact asArgument_same hs

theorem argument_substitute (h : Head) (t : Ty) :
    h.argument ((h.argument t).substitute env) = h.argument (t.substitute env) := by
  rcases argument_cases h with hh | hh | hh <;> rw [hh]
  · rfl
  · exact asArgument_substitute t
  · cases t with
    | params ts => simp [callableArgument, substitute, substituteAll_eq_map, asArgument_substitute]
    | lit l => cases l <;> rfl
    | _ => rfl

theorem Proper.argument (h : Head) (ht : t.Proper) : (h.argument t).Proper := by
  rcases argument_cases h with hh | hh | hh <;> rw [hh]
  · exact ht
  · exact ht.asArgument.1
  · cases t with
    | params ts =>
      rw [callableArgument, Proper, properAll_iff, List.forall_mem_map]
      exact fun t hmem => (properAll_iff.mp ht t hmem).asArgument.1
    | _ => exact ht.asArgument.1

theorem app_same_app (hh : h ≠ .literal) : (Ty.app h ts).same (.app h us) = allSame ts us := by
  cases h with
  | literal => exact absurd rfl hh
  | _ => simp [same]

theorem occurrences_app (hh : h ≠ .literal) : (Ty.app h ts).occurrences = ts.flatMap occurrences := by
  cases h with
  | literal => exact absurd rfl hh
  | _ => simp [occurrences, occurrencesAll_eq_flatMap]

theorem substitute_app (hh : h ≠ .literal) :
    (Ty.app h ts).substitute env = .app h (ts.map fun t => h.argument (t.substitute env)) := by
  cases h with
  | literal => exact absurd rfl hh
  | _ => simp [substitute, applied_eq, substituteAll_eq_map]

/-- Whether no substitution changes a descriptor, whatever stands in it. -/
def isFixed : Ty → Bool
  | .var .. | .union .. | .params _ => false
  | .app h _ => h == .literal
  | _ => true

theorem substitute_of_isFixed (ht : t.isFixed = true) : t.substitute env = t := by
  cases t with
  | app h ts =>
    obtain rfl : h = .literal := by simpa [isFixed] using ht
    rfl
  | var | union | params => simp [isFixed] at ht
  | _ => rfl

theorem isFixed_of_same (hs : t.same u = true) (ht : t.isFixed = true) : u.isFixed = true := by
  cases t with
  | app h ts =>
    obtain ⟨us, rfl, -⟩ := app_same hs
    exact ht
  | var | union | params => simp [isFixed] at ht
  | _ => cases u <;> first | rfl | simp [same] at hs

/-- Induction over descriptors as they are built. -/
@[elab_as_elim]
theorem Proper.induction {motive : ∀ t : Ty, t.Proper → Prop}
    (var : ∀ v b, motive (.var v b) trivial)
    (fixed : ∀ t (ht : t.Proper), t.isFixed = true → motive t ht)
    (app : ∀ h ts (ht : (Ty.app h ts).Proper), h ≠ .literal →
      (∀ t ∈ ts, ∃ ht : t.Proper, motive t ht) → motive (.app h ts) ht)
    (union : ∀ bars ts (ht : (Ty.union bars ts).Proper),
      (∀ t ∈ ts, ∃ ht : t.Proper, motive t ht) → motive (.union bars ts) ht)
    (params : ∀ ts (ht : (Ty.params ts).Proper), (∀ t ∈ ts, ∃ ht : t.Proper, motive t ht) →
      motive (.params ts) ht) :
    ∀ (t : Ty) (ht : t.Proper), motive t ht
  | .var v b, _ => var v b
  | .app .literal _, ht => fixed _ ht rfl
  | .app (.cls c) ts, ht => app _ _ ht (by simp) fun t hmem =>
    ⟨_, Proper.induction var fixed app union params t (properAll_iff.mp ht.2 t hmem)⟩
  | .app (.named a) ts, ht => app _ _ ht (by simp) fun t hmem =>
    ⟨_, Proper.induction var fixed app union params t (properAll_iff.mp ht.2 t hmem)⟩
  | .union _ ts, ht => union _ _ ht fun t hmem =>
    ⟨_, Proper.induction var fixed app union params t (properAll_iff.mp ht.2.2.2 t hmem)⟩
  | .params ts, ht => params _ ht fun t hmem =>
    ⟨_, Proper.induction var fixed app union params t (properAll_iff.mp ht t hmem)⟩
  | .any, ht | .none, ht | .ellipsis, ht | .cls _, ht | .named _, ht | .form _, ht | .lit _, ht
  | .forward _, ht => fixed _ ht rfl

/-- What a variable becomes is an argument. -/
theorem isArgument_lookup (hd : env.IsProper) (v : TypeVar) (b : Option Ty) :
    ((env.lookup v).getD (.var v b)).IsArgument := by
  cases hv : env.lookup v with
  | none => exact ⟨trivial, rfl⟩
  | some t => exact hd v t hv

theorem isArgument_union_substitute {bars : Bool} (hts : ∀ t ∈ ts, (t.substitute env).Proper) :
    ((Ty.union bars ts).substitute env).IsArgument := by
  rw [substitute, substituteAll_eq_map, List.map_map]
  refine isArgument_unionOf fun t ht => ?_
  obtain ⟨u, hu, rfl⟩ := List.mem_map.mp ht
  exact (hts u hu).asArgument

/-- A substitution keeps descriptors as they are built. -/
theorem Proper.substitute (hd : env.IsProper) (ht : t.Proper) : (t.substitute env).Proper := by
  induction t, ht using Proper.induction with
  | var v b => exact (isArgument_lookup hd v b).1
  | fixed t ht hfixed => rwa [substitute_of_isFixed hfixed]
  | app h ts _ hh ih =>
    rw [substitute_app hh, proper_app hh, List.map_map, List.forall_mem_map]
    refine ⟨List.map_congr_left fun t _ => argument_argument _ _, fun t hmem => ?_⟩
    obtain ⟨-, ih⟩ := ih t hmem
    exact ih.argument h
  | union bars ts _ ih =>
    exact (isArgument_union_substitute fun t hmem => (ih t hmem).2).1
  | params ts _ ih =>
    rw [Ty.substitute, substituteAll_eq_map, Proper, properAll_iff, List.forall_mem_map]
    exact fun t hmem => (ih t hmem).2

theorem IsArgument.substitute (hd : env.IsProper) (ht : t.IsArgument) :
    (t.substitute env).IsArgument := by
  cases t with
  | var v b => exact isArgument_lookup hd v b
  | union bars ts =>
    exact isArgument_union_substitute fun t hmem => (ht.of_mem_members hmem).1.substitute hd
  | app h ts =>
    refine ⟨ht.1.substitute hd, ?_⟩
    by_cases hh : h = .literal
    · subst hh
      rfl
    · rw [substitute_app hh]
      rfl
  | params => exact ⟨ht.1.substitute hd, rfl⟩
  | _ => exact ht

/-- What a substitution makes of a union are the members of what it makes of each member. -/
theorem alike_substitute (hd : env.IsProper) (ht : t.Proper) :
    Alike (t.substitute env).members (t.members.flatMap fun m => (m.substitute env).members) := by
  cases htu : t.isUnion with
  | false =>
    rw [members_of_not_isUnion htu, List.flatMap_singleton]
    exact .refl _
  | true =>
    cases t <;> simp only [isUnion, Bool.false_eq_true] at htu
    rename_i bars ts
    have hts : ∀ t ∈ ts, (t.substitute env).IsArgument := fun t hmem =>
      IsArgument.substitute hd ⟨properAll_iff.mp ht.2.2.2 t hmem, (ht.1 t hmem).2⟩
    have hmap : (ts.map (substitute env)).map asArgument = ts.map (substitute env) := by
      rw [List.map_map]
      exact List.map_congr_left fun t hmem => (hts t hmem).2
    rw [substitute, substituteAll_eq_map, hmap, members, ← List.flatMap_map]
    refine alike_unionOf fun t hmem => ?_
    obtain ⟨u, hu, rfl⟩ := List.mem_map.mp hmem
    exact (hts u hu).1

/-- Alike lists stay alike if a substitution gives the same type for the same type. -/
theorem Alike.substitute (hd : env.IsProper) (hts : ∀ t ∈ ts, t.Proper) (hus : ∀ u ∈ us, u.Proper)
    (hsame : ∀ t ∈ ts, ∀ u ∈ us, t.same u = true → (t.substitute env).same (u.substitute env) = true)
    (h : Alike ts us) :
    Alike (ts.flatMap fun t => (t.substitute env).members)
      (us.flatMap fun u => (u.substitute env).members) := by
  have halike : ∀ t ∈ ts, ∀ u ∈ us, t.same u = true →
      Alike (t.substitute env).members (u.substitute env).members := fun t ht u hu hs =>
    (same_iff_alike ((hts t ht).substitute hd) ((hus u hu).substitute hd)).mp (hsame t ht u hu hs)
  refine Alike.flatMap (fun t ht => ?_) fun u hu => ?_
  · obtain ⟨u, hu, hs⟩ := h.1 t ht
    exact ⟨u, hu, halike t ht u hu hs⟩
  · obtain ⟨t, ht, hs⟩ := h.2 u hu
    exact ⟨t, ht, halike t ht u hu (same_symm (hus u hu) (hts t ht) hs)⟩

/-- A substitution gives the same type for the same type. -/
theorem substitute_same (hd : env.IsProper) (ht : t.Proper) (hu : u.Proper) (hs : t.same u = true) :
    (t.substitute env).same (u.substitute env) = true := by
  induction t, ht using Proper.induction generalizing u with
  | var v b =>
    obtain ⟨b', rfl⟩ := var_same hs
    simp only [Ty.substitute]
    cases env.lookup v with
    | none => exact hs
    | some t => exact same_refl t
  | fixed t ht hfixed =>
    rwa [substitute_of_isFixed hfixed, substitute_of_isFixed (isFixed_of_same hs hfixed)]
  | app h ts ht hh ih =>
    obtain ⟨us, rfl, hus⟩ := app_same hs
    rw [if_neg hh] at hus
    rw [proper_app hh] at hu
    rw [substitute_app hh, substitute_app hh, app_same_app hh]
    refine allSame_map_map (fun t hmem u hmem' hs => argument_same h ?_) hus
    exact (ih t hmem).2 (hu.2 u hmem') hs
  | union bars ts ht ih =>
    have hwithin := (same_iff_alike ht hu).mp hs
    refine (same_iff_alike (ht.substitute hd) (hu.substitute hd)).mpr ?_
    refine (alike_substitute hd ht).trans (.trans ?_ (alike_substitute hd hu).symm)
    refine hwithin.substitute hd (fun t => ht.of_mem_members) (fun u => hu.of_mem_members) ?_
    exact fun t hmem u hmem' hs => (ih t hmem).2 (hu.of_mem_members hmem') hs
  | params ts ht ih =>
    cases u <;> simp only [same, Bool.false_eq_true] at hs
    simp only [Ty.substitute, substituteAll_eq_map, same]
    exact allSame_map_map
      (fun t hmem u hmem' hs => (ih t hmem).2 (properAll_iff.mp hu u hmem') hs) hs

/-- Two substitutions in turn are a single one that does to every variable what both do in turn. -/
theorem substitute_substitute (h₁ : env₁.IsProper) (hd : env.IsProper) (h₂ : env₂.IsProper)
    (ht : t.Proper) (hvar : ∀ v b, .var v b ∈ t.occurrences →
      (((Ty.var v b).substitute env₁).substitute env).same ((Ty.var v b).substitute env₂) = true) :
    ((t.substitute env₁).substitute env).same (t.substitute env₂) = true := by
  induction t, ht using Proper.induction with
  | var v b => exact hvar v b (List.mem_singleton_self _)
  | fixed t ht hfixed =>
    rw [substitute_of_isFixed hfixed, substitute_of_isFixed hfixed, substitute_of_isFixed hfixed]
    exact same_refl t
  | app h ts ht hh ih =>
    rw [substitute_app hh, substitute_app hh, substitute_app hh, List.map_map, app_same_app hh]
    refine allSame_map fun t hmem => ?_
    rw [Function.comp_apply, argument_substitute]
    refine argument_same h ((ih t hmem).2 fun v b hv => hvar v b ?_)
    rw [occurrences_app hh]
    exact List.mem_flatMap.mpr ⟨t, hmem, hv⟩
  | union bars ts ht ih =>
    -- Members that `env₁` makes equal are joined before `env` sees them, so the lists of members agree
    -- as sets only.
    have ht₁ := ht.substitute h₁
    have hts₁ : ∀ t ∈ ts.flatMap fun t => (t.substitute env₁).members, t.Proper := fun t hmem => by
      obtain ⟨u, hu, htu⟩ := List.mem_flatMap.mp hmem
      exact ((ih u hu).1.substitute h₁).of_mem_members htu
    have hboth : ∀ t ∈ ts, Alike ((t.substitute env₁).members.flatMap fun m => (m.substitute env).members)
        (t.substitute env₂).members := fun t hmem => by
      obtain ⟨ht, ih⟩ := ih t hmem
      have hs := ih fun v b hv => hvar v b (by
        rw [occurrences, occurrencesAll_eq_flatMap]
        exact List.mem_flatMap.mpr ⟨t, hmem, hv⟩)
      have ht₁ := ht.substitute h₁
      exact (alike_substitute hd ht₁).symm.trans
        ((same_iff_alike (ht₁.substitute hd) (ht.substitute h₂)).mp hs)
    have hsplit := (alike_substitute h₁ ht).substitute hd (fun t => ht₁.of_mem_members) hts₁
      fun t hmem u hmem' => substitute_same hd (ht₁.of_mem_members hmem) (hts₁ u hmem')
    rw [List.flatMap_assoc] at hsplit
    refine (same_iff_alike (ht₁.substitute hd) (ht.substitute h₂)).mpr ?_
    refine (alike_substitute hd ht₁).trans (hsplit.trans (.trans ?_ (alike_substitute h₂ ht).symm))
    exact .flatMap (fun t hmem => ⟨t, hmem, hboth t hmem⟩) fun t hmem => ⟨t, hmem, hboth t hmem⟩
  | params ts ht ih =>
    simp only [Ty.substitute, substituteAll_eq_map, List.map_map, same]
    refine allSame_map fun t hmem => (ih t hmem).2 fun v b hv => hvar v b ?_
    rw [occurrences, occurrencesAll_eq_flatMap]
    exact List.mem_flatMap.mpr ⟨t, hmem, hv⟩

/-- Types that are apart are all kept. -/
theorem distinct_of_apart {done : List Ty} (hts : Apart ts)
    (hdone : ∀ t ∈ ts, ∀ u ∈ done, t.same u = false) : distinct done ts = done.reverse ++ ts := by
  induction ts generalizing done with
  | nil => simp [distinct]
  | cons t ts ih =>
    have hnot : within done t = false := by
      simpa [within] using hdone t List.mem_cons_self
    have hrest := List.pairwise_cons.mp hts
    rw [distinct, hnot, if_neg Bool.false_ne_true, ih hrest.2]
    · simp
    · intro u hu v hv
      rcases List.mem_cons.mp hv with rfl | hv
      · exact hrest.1 u hu
      · exact hdone u (.tail _ hu) v hv

theorem unionOf_members {bars : Bool} (ht : (Ty.union bars ts).Proper) :
    unionOf bars ts = .union bars ts := by
  have hflat : ts.flatMap members = ts := by
    rw [List.flatMap_congr (g := fun t => [t]) fun t hmem => members_of_not_isUnion (ht.1 t hmem).1]
    simp
  have hdistinct : distinct [] (ts.flatMap members) = ts := by
    rw [hflat, distinct_of_apart ht.2.1 (by simp), List.reverse_nil,
      List.nil_append]
  rcases unionOf_cases bars ts with ⟨t, hone, -⟩ | ⟨-, heq⟩
  · rw [hdistinct] at hone
    exact absurd (by rw [hone]; rfl) ht.2.2.1
  · rw [heq, hdistinct]

/-- Nothing is changed where nothing is bound. -/
theorem substitute_nil (ht : t.Proper) : t.substitute [] = t := by
  induction t, ht using Proper.induction with
  | var v b => rfl
  | fixed t ht hfixed => exact substitute_of_isFixed hfixed
  | app h ts ht hh ih =>
    rw [proper_app hh] at ht
    rw [substitute_app hh, List.map_congr_left (g := h.argument) fun t hmem => by rw [(ih t hmem).2],
      ht.1]
  | union bars ts ht ih =>
    have hmap : (ts.map (substitute [])).map asArgument = ts := by
      rw [List.map_map, List.map_congr_left (g := id) fun t hmem => ?_, List.map_id]
      rw [Function.comp_apply, (ih t hmem).2, (ht.1 t hmem).2, id]
    rw [substitute, substituteAll_eq_map, hmap, unionOf_members ht]
  | params ts ht ih =>
    rw [substitute, substituteAll_eq_map, List.map_congr_left (g := id) fun t hmem => (ih t hmem).2,
      List.map_id]

end Ty

end FunctionObjects
