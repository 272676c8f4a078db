import FunctionObjects.Class.Table
import FunctionObjects.Proofs.Descriptor.Equivalence
/-!
# Saying less about a type

A descriptor says less if parts of it no longer constrain anything, or if a parameterized class stands
without its arguments.  Saying less on either side never turns a fit into a misfit.  What fits because
both sides are the same type has to fit part by part once one of them says less.
-/

namespace FunctionObjects

/-- The class that a parameterized form has. -/
def Head.class? : Head → Option ClassName
  | .cls c => some c
  | .named a => some a.origin
  | .literal => none

/-- Whether a class is parameterized that answers subclass questions and is no sized scalar. -/
def Head.answers (k : Classes) (h : Head) : Bool :=
  match h.class? with
  | some c => k.sub c c && !k.sub c ⟨"numpy", "generic"⟩
  | none => false

theorem Head.exists_of_answers {k : Classes} {h : Head} (hh : h.answers k = true) :
    ∃ c, h.class? = some c ∧ k.sub c c = true ∧ k.sub c ⟨"numpy", "generic"⟩ = false := by
  unfold answers at hh
  split at hh
  · rename_i c hc
    exact ⟨c, hc, by simpa using hh⟩
  · cases hh

namespace Ty

/-- Whether the second descriptor says the same as the first or less, at any depth.  A union is built
anew, since members can become the same. -/
inductive Loosens : Ty → Ty → Prop
  | refl (t : Ty) : Loosens t t
  | any (t : Ty) : Loosens t .any
  | app (h : Head) {ts us : List Ty} : List.Forall₂ Loosens ts us → Loosens (.app h ts) (.app h us)
  | bare (c : ClassName) (ts : List Ty) : Loosens (.app (.cls c) ts) (.cls c)
  | bareAlias (a : Alias) (ts : List Ty) : Loosens (.app (.named a) ts) (.named a)
  | bareOrigin (a : Alias) (ts : List Ty) : Loosens (.app (.named a) ts) (.cls a.origin)
  | union (bars bars' : Bool) {ts us : List Ty} :
      List.Forall₂ Loosens ts us → Loosens (.union bars ts) (unionOf bars' us)

mutual

/-- A descriptor built from classes, nothing, no constraint, unions, and parameterized classes that
answer subclass questions and are no sized scalars. -/
def IsGradual (k : Classes) : Ty → Prop
  | .any | .none | .cls _ | .named _ => True
  | .app h ts => h.answers k = true ∧ AreGradual k ts
  | .union _ ts => AreGradual k ts
  | _ => False

def AreGradual (k : Classes) : List Ty → Prop
  | [] => True
  | t :: ts => IsGradual k t ∧ AreGradual k ts

end

variable {k : Classes} {t t' u : Ty} {ts us : List Ty}

theorem areGradual_iff : AreGradual k ts ↔ ∀ t ∈ ts, t.IsGradual k := by
  induction ts with
  | nil => simp [AreGradual]
  | cons t ts ih => simp [AreGradual, ih]

theorem IsGradual.of_mem_args (h : t.IsGradual k) (hu : u ∈ t.args) : u.IsGradual k := by
  cases t <;> simp only [args, List.not_mem_nil] at hu <;> simp only [IsGradual] at h
  · exact areGradual_iff.mp h.2 u hu
  · exact areGradual_iff.mp h u hu

theorem IsGradual.of_mem_members (h : t.IsGradual k) (hu : u ∈ t.members) : u.IsGradual k := by
  cases t with
  | union => exact h.of_mem_args hu
  | _ =>
    obtain rfl := List.mem_singleton.mp hu
    exact h

theorem IsGradual.isVar (h : t.IsGradual k) : t.isVar = false := by
  cases t <;> simp_all [IsGradual, Ty.isVar]

mutual

/-- There is no type variable in such a descriptor. -/
theorem IsGradual.uses : ∀ {t : Ty}, t.IsGradual k → t.Uses fun _ => Option.none
  | .app .., h => AreGradual.uses h.2
  | .union .., h => AreGradual.uses h
  | .any, _ | .none, _ | .cls _, _ | .named _, _ => trivial
  | .ellipsis, h | .form _, h | .var .., h | .params _, h | .lit _, h | .forward _, h => h.elim

theorem AreGradual.uses : ∀ {ts : List Ty}, AreGradual k ts → UsesAll (fun _ => Option.none) ts
  | [], _ => trivial
  | _ :: _, h => ⟨h.1.uses, AreGradual.uses h.2⟩

end

theorem isGradual_unionOf {bars : Bool} (h : ∀ u ∈ us, u.IsGradual k) :
    (unionOf bars us).IsGradual k := by
  have hmem : ∀ t ∈ distinct [] (us.flatMap members), t.IsGradual k := by
    intro t ht
    obtain ⟨u, hu, htu⟩ := mem_flatMap_of_mem_distinct ht
    exact (h u hu).of_mem_members htu
  rcases unionOf_cases bars us with ⟨t, ht, heq⟩ | ⟨-, heq⟩
  · rw [heq]
    exact hmem t (by simp [ht])
  · rw [heq]
    exact areGradual_iff.mpr hmem

theorem exists_of_mem_right {R : Ty → Ty → Prop} (h : List.Forall₂ R ts us) (hu : u ∈ us) :
    ∃ t ∈ ts, R t u := by
  induction h with
  | nil => simp at hu
  | cons hR _ ih =>
    rcases List.mem_cons.mp hu with rfl | hu
    · exact ⟨_, List.mem_cons_self, hR⟩
    · obtain ⟨t, ht, hR⟩ := ih hu
      exact ⟨t, List.mem_cons_of_mem _ ht, hR⟩

theorem exists_of_mem_left {R : Ty → Ty → Prop} (h : List.Forall₂ R ts us) (ht : t ∈ ts) :
    ∃ u ∈ us, R t u :=
  exists_of_mem_right h.flip ht

/-- What says less is built in the same way. -/
theorem Loosens.isGradual (hl : Loosens t t') (h : t.IsGradual k) : t'.IsGradual k := by
  induction hn : sizeOf t using Nat.strongRecOn generalizing t t' with
  | _ n ih =>
    subst hn
    have hparts : ∀ {us : List Ty}, List.Forall₂ Loosens t.args us → ∀ u ∈ us, u.IsGradual k := by
      intro us hus u hu
      obtain ⟨s, hs, hsu⟩ := exists_of_mem_right hus hu
      exact ih _ (sizeOf_lt_of_mem_args hs) hsu (h.of_mem_args hs) rfl
    cases hl with
    | refl => exact h
    | app hd hus => exact ⟨h.1, areGradual_iff.mpr (hparts hus)⟩
    | union bars bars' hus => exact isGradual_unionOf (hparts hus)
    | any | bare | bareAlias | bareOrigin => trivial

end Ty

namespace Classes

open Ty

variable {k : Classes} {c e c' e' u : Ty} {us : List Ty}

theorem assignable_unionOf_left {bars : Bool} (hus : ∀ u ∈ us, u.IsGradual k) (he : e.isVar = false)
    (h : ∀ u ∈ us, k.assignable u e = true) : k.assignable (unionOf bars us) e = true := by
  have hmem : ∀ t ∈ distinct [] (us.flatMap members), k.assignable t e = true := by
    intro t ht
    obtain ⟨u, hu, htu⟩ := mem_flatMap_of_mem_distinct ht
    exact (assignable_members_left (hus u hu).isVar he).mp (h u hu) t htu
  rcases unionOf_cases bars us with ⟨t, ht, heq⟩ | ⟨-, heq⟩
  · rw [heq]
    exact hmem t (by simp [ht])
  · rw [heq]
    exact (assignable_members_left rfl he).mpr hmem

/-- What fits one type fits a union that is built with it, even if the type itself is dropped for an
earlier one. -/
theorem assignable_unionOf_right {bars : Bool} (hc : c.IsGradual k) (hany : c.isAny = false)
    (hunion : c.isUnion = false) (hus : ∀ u ∈ us, u.IsGradual k) (hu : u ∈ us)
    (h : k.assignable c u = true) : k.assignable c (unionOf bars us) = true := by
  obtain ⟨m, hm, hfits⟩ := (assignable_members_right hc.isVar hany hunion).mp h
  obtain ⟨m', hm', hsame⟩ : ∃ m' ∈ distinct [] (us.flatMap members), m.same m' = true :=
    exists_mem_distinct (List.mem_flatMap.mpr ⟨u, hu, hm⟩)
  obtain ⟨u', hu', hmu'⟩ := mem_flatMap_of_mem_distinct hm'
  have hkept : k.assignable c m' = true :=
    assignable_of_same_right hc.uses ((hus u hu).of_mem_members hm).uses
      ((hus u' hu').of_mem_members hmu').uses hsame hfits
  rcases unionOf_cases bars us with ⟨t, ht, heq⟩ | ⟨-, heq⟩
  · rw [heq]
    obtain rfl : m' = t := by simpa [ht] using hm'
    exact hkept
  · rw [heq]
    exact (assignable_members_right hc.isVar hany hunion).mpr ⟨m', hm', hkept⟩

/-- What is left of a type that is no union where less is said about it. -/
structure StillPlain (k : Classes) (t t' : Ty) : Prop where
  isAny : t'.isAny = false
  isUnion : t'.isUnion = false
  isObject : t.isObject = true → t'.isObject = true
  origin : (k.canonical t').originClass? = (k.canonical t).originClass?
  args : t'.args = [] ∨ List.Forall₂ Loosens t.args t'.args
  /-- Less is said of a parameterized class only, which answers about itself. -/
  answers : t' = t ∨ ∃ a, (k.canonical t).originClass? = some a ∧ k.sub a a = true

theorem stillPlain (h : c.IsGradual k) (hl : Loosens c c') (hany : c.isAny = false)
    (hunion : c.isUnion = false) : c' = .any ∨ StillPlain k c c' := by
  cases hl with
  | refl =>
    exact .inr ⟨hany, hunion, id, rfl, .inr (List.forall₂_same.mpr fun t _ => .refl t), .inl rfl⟩
  | any => exact .inl rfl
  | union => simp [isUnion] at hunion
  | app hd hus =>
    obtain ⟨a, ha, hself, -⟩ := Head.exists_of_answers h.1
    refine .inr ⟨rfl, rfl, by simp [isObject], ?_, .inr hus, .inr ⟨a, ?_, hself⟩⟩
    · cases hd <;> rfl
    · cases hd <;> exact ha
  | bare d ts =>
    obtain ⟨a, ha, hself, hsized⟩ := Head.exists_of_answers h.1
    obtain rfl : d = a := by simpa [Head.class?] using ha
    refine .inr ⟨rfl, rfl, by simp [isObject], ?_, .inl rfl, .inr ⟨d, rfl, hself⟩⟩
    simp [canonical, unboxed, hsized, originClass?]
  | bareAlias a ts =>
    obtain ⟨b, hb, hself, -⟩ := Head.exists_of_answers h.1
    exact .inr ⟨rfl, rfl, by simp [isObject], rfl, .inl rfl, .inr ⟨b, hb, hself⟩⟩
  | bareOrigin a ts =>
    obtain ⟨b, hb, hself, hsized⟩ := Head.exists_of_answers h.1
    obtain rfl : a.origin = b := by simpa [Head.class?] using hb
    refine .inr ⟨rfl, rfl, by simp [isObject], ?_, .inl rfl, .inr ⟨_, rfl, hself⟩⟩
    simp [canonical, unboxed, hsized, originClass?]

/-- The arguments of two types without unions that fit, wherever they are compared. -/
theorem args_of_assignable (hc : c.IsGradual k) (he : e.IsGradual k)
    (htop : (c.isAny || e.isAny || e.isObject) = false) (hcu : c.isUnion = false)
    (heu : e.isUnion = false) (horigin : (k.canonical c).originClass?.isSome = true)
    (h : k.assignable c e = true) (hlen : c.args.length = e.args.length) :
    List.Forall₂ (fun a b => k.assignable a b = true) c.args e.args := by
  rcases (assignable_plain hc.isVar he.isVar htop hcu heu).mp h with hsame | ⟨-, hargs⟩
  · have hargs := args_of_same hsame horigin
    rw [args_canonical, args_canonical, allSame_iff_forall₂] at hargs
    refine (List.forall₂_iff_zip.mpr ⟨hlen, fun {a b} hab => ?_⟩)
    exact assignable_of_same k (hc.of_mem_args (List.of_mem_zip hab).1).uses
      (he.of_mem_args (List.of_mem_zip hab).2).uses ((List.forall₂_iff_zip.mp hargs).2 hab)
  · exact hargs hlen

/-- One step without unions, given the step for the arguments. -/
theorem plain_of_loosens (hc : c.IsGradual k) (he : e.IsGradual k)
    (htop : (c.isAny || e.isAny || e.isObject) = false) (hcu : c.isUnion = false)
    (heu : e.isUnion = false) (hcl : StillPlain k c c') (hel : StillPlain k e e')
    (hc' : c'.IsGradual k) (he' : e'.IsGradual k)
    (hstep : ∀ a ∈ c.args, ∀ b ∈ e.args, ∀ a' b', Loosens a a' → Loosens b b' →
      k.assignable a b = true → k.assignable a' b' = true)
    (h : k.assignable c e = true) : k.assignable c' e' = true := by
  by_cases hsame : c' = c ∧ e' = e
  · rwa [hsame.1, hsame.2]
  have hfit : k.originsFit (k.canonical c) (k.canonical e) = true := by
    rcases (assignable_plain hc.isVar he.isVar htop hcu heu).mp h with hcanon | ⟨hfit, -⟩
    · -- the same type: one of the two is parameterized, so that its class answers about itself
      have horigin := originClass?_of_same hcanon
      have hself : ∃ a, (k.canonical c).originClass? = some a ∧ k.sub a a = true := by
        rcases hcl.answers with hc | hc
        · exact horigin ▸ hel.answers.resolve_left fun he => hsame ⟨hc, he⟩
        · exact hc
      obtain ⟨a, ha, hself⟩ := hself
      simp [originsFit, ← horigin, ha, hself]
    · exact hfit
  have horigin := (origins_of_originsFit hfit).1
  cases htop' : c'.isAny || e'.isAny || e'.isObject with
  | true => exact assignable_of_isTop (by simp_all [hcl.isAny])
  | false =>
    refine (assignable_plain hc'.isVar he'.isVar htop' hcl.isUnion hel.isUnion).mpr (.inr ⟨?_, ?_⟩)
    · rwa [originsFit, hcl.origin, hel.origin]
    · intro hlen
      rcases hcl.args with hnil | hcargs
      · rw [hnil] at hlen ⊢
        rw [List.eq_nil_of_length_eq_zero hlen.symm]
        exact .nil
      rcases hel.args with hnil | heargs
      · rw [hnil] at hlen ⊢
        rw [List.eq_nil_of_length_eq_zero hlen]
        exact .nil
      have hargs := args_of_assignable hc he htop hcu heu horigin h
        (by rw [hcargs.length_eq, heargs.length_eq, hlen])
      -- from the less said argument on the left over the two original ones to the one on the right
      let Over (a' b : Ty) : Prop := ∃ a ∈ c.args, Loosens a a' ∧ k.assignable a b = true
      have hover : List.Forall₂ Over c'.args e.args :=
        forall₂_comp hcargs.flip hargs fun a' _ a ha b _ hl hab => ⟨a, ha, hl, hab⟩
      refine forall₂_comp hover heargs ?_
      rintro a' - b hb b' - ⟨a, ha, hal, hab⟩ hbl
      exact hstep a ha b hb a' b' hal hbl hab

/-- One step with a union on the left, given the step for its members. -/
theorem union_left_of_loosens (hc : c.IsGradual k) (he : e.isVar = false) (hcu : c.isUnion = true)
    (hl : Loosens c c') (h : ∀ m ∈ c.members, ∀ m', Loosens m m' → k.assignable m' e = true) :
    k.assignable c' e = true := by
  cases hl with
  | refl => exact (assignable_members_left hc.isVar he).mpr fun m hm => h m hm m (.refl m)
  | any => exact any_assignable e
  | union bars bars' hus =>
    refine assignable_unionOf_left ?_ he ?_
    · intro u hu
      obtain ⟨t, ht, htu⟩ := exists_of_mem_right hus hu
      exact htu.isGradual (hc.of_mem_members ht)
    · intro u hu
      obtain ⟨t, ht, htu⟩ := exists_of_mem_right hus hu
      exact h t ht u htu
  | app | bare | bareAlias | bareOrigin => simp [isUnion] at hcu

/-- One step with a union on the right, given the step for one of its members. -/
theorem union_right_of_loosens {m : Ty} (hc : c.IsGradual k) (hany : c.isAny = false)
    (hcu : c.isUnion = false) (he : e.IsGradual k) (heu : e.isUnion = true) (hl : Loosens e e')
    (hm : m ∈ e.members) (h : ∀ m', Loosens m m' → k.assignable c m' = true) :
    k.assignable c e' = true := by
  cases hl with
  | refl => exact (assignable_members_right hc.isVar hany hcu).mpr ⟨m, hm, h m (.refl m)⟩
  | any => exact assignable_any k c
  | union bars bars' hus =>
    obtain ⟨u, hu, hmu⟩ := exists_of_mem_left hus hm
    refine assignable_unionOf_right hc hany hcu ?_ hu (h u hmu)
    intro u hu
    obtain ⟨t, ht, htu⟩ := exists_of_mem_right hus hu
    exact htu.isGradual (he.of_mem_members ht)
  | app | bare | bareAlias | bareOrigin => simp [isUnion] at heu

/-- Where a type fits another one, it still does when less is said on either side. -/
theorem assignable_of_loosens (hc : c.IsGradual k) (he : e.IsGradual k) (hcl : Loosens c c')
    (hel : Loosens e e') (h : k.assignable c e = true) : k.assignable c' e' = true := by
  induction hn : sizeOf c + sizeOf e using Nat.strongRecOn generalizing c e c' e' with
  | _ n ih =>
    subst hn
    have hc' := hcl.isGradual hc
    have he' := hel.isGradual he
    cases hcu : c.isUnion with
    | true =>
      rw [assignable_members_left hc.isVar he.isVar] at h
      refine union_left_of_loosens hc he'.isVar hcu hcl fun m hm m' hl => ?_
      have hargs : m ∈ c.args := members_of_isUnion hcu ▸ hm
      have hsize := sizeOf_lt_of_mem_args hargs
      exact ih _ (by omega) (hc.of_mem_args hargs) he hl hel (h m hm) rfl
    | false =>
      cases hany : c.isAny with
      | true =>
        obtain rfl : c = .any := by cases c <;> simp_all [isAny]
        obtain rfl : c' = .any := by cases hcl <;> rfl
        exact any_assignable e'
      | false =>
        rcases stillPlain hc hcl hany hcu with rfl | hcp
        · exact any_assignable e'
        cases heu : e.isUnion with
        | true =>
          obtain ⟨m, hm, hfits⟩ := (assignable_members_right hc.isVar hany hcu).mp h
          refine union_right_of_loosens hc' hcp.isAny hcp.isUnion he heu hel hm fun m' hl => ?_
          have hargs : m ∈ e.args := members_of_isUnion heu ▸ hm
          have hsize := sizeOf_lt_of_mem_args hargs
          exact ih _ (by omega) hc (he.of_mem_args hargs) hcl hl hfits rfl
        | false =>
          cases heany : e.isAny with
          | true =>
            obtain rfl : e = .any := by cases e <;> simp_all [isAny]
            obtain rfl : e' = .any := by cases hel <;> rfl
            exact assignable_any k c'
          | false =>
            rcases stillPlain he hel heany heu with rfl | hep
            · exact assignable_any k c'
            cases hobject : e.isObject with
            | true => exact assignable_of_isTop (by simp [hep.isObject hobject])
            | false =>
              refine plain_of_loosens hc he (by simp [*]) hcu heu hcp hep hc' he' ?_ h
              intro a ha b hb a' b' hal hbl hab
              have hasize := sizeOf_lt_of_mem_args ha
              have hbsize := sizeOf_lt_of_mem_args hb
              exact ih _ (by omega) (hc.of_mem_args ha) (he.of_mem_args hb) hal hbl hab rfl

/-- Dictionaries, which have been declared to be mappings, lists, texts and numbers. -/
def containers : Hierarchy where
  table := [
    ⟨.object, [], false, []⟩, ⟨.core "dict", [], false, []⟩, ⟨.core "list", [], false, []⟩,
    ⟨.core "str", [], false, []⟩, ⟨.core "int", [], false, []⟩, ⟨.core "float", [], false, []⟩,
    ⟨Alias.mapping.origin, [], true, []⟩].foldl Hierarchy.addRow []
  virtual := [(.core "dict", Alias.mapping.origin)]

/-- Dictionaries of lists, or lists, still fit where nothing is said any more about the keys and the
items on one side and about the values on the other. -/
theorem dict_fits_mapping :
    let list (t : Ty) : Ty := .app (.cls (.core "list")) [t]
    let int := Ty.cls (.core "int")
    let str := Ty.cls (.core "str")
    let c := Ty.union true [.app (.cls (.core "dict")) [str, list int], list int]
    let e := Ty.union false [.app (.named .mapping) [str, .app (.named .list) [.cls (.core "float")]], list int]
    let c' := unionOf true [.app (.cls (.core "dict")) [.any, .cls (.core "list")], .cls (.core "list")]
    let e' := unionOf false [.app (.named .mapping) [str, .any], list int]
    containers.classes.assignable c e = true ∧ containers.classes.assignable c' e' = true := by
  intro list int str c e c' e'
  have hce : containers.classes.assignable c e = true := by decide +kernel
  have hdict : Head.answers containers.classes (.cls (.core "dict")) = true := by decide +kernel
  have hlist : Head.answers containers.classes (.cls (.core "list")) = true := by decide +kernel
  have hmapping : Head.answers containers.classes (.named .mapping) = true := by decide +kernel
  have halias : Head.answers containers.classes (.named .list) = true := by decide +kernel
  have hc : c.IsGradual containers.classes := by
    simp [c, list, int, str, IsGradual, AreGradual, hdict, hlist]
  have he : e.IsGradual containers.classes := by
    simp [e, list, int, str, IsGradual, AreGradual, hlist, hmapping, halias]
  have hc' : Loosens c c' :=
    .union true true (.cons (.app _ (.cons (.any _) (.cons (.bare _ _) .nil))) (.cons (.bare _ _) .nil))
  have he' : Loosens e e' :=
    .union false false (.cons (.app _ (.cons (.refl _) (.cons (.any _) .nil))) (.cons (.refl _) .nil))
  exact ⟨hce, assignable_of_loosens hc he hc' he' hce⟩

end Classes

end FunctionObjects
