import FunctionObjects.Proofs.Descriptor.Members
import FunctionObjects.Proofs.Signature.Spelling
/-!
# Chains of assignable classes

Between classes a value goes along by subclassing, by boxing or by widening a number.  Boxing only
renames a class, so it never stands in the way.  Subclassing and widening do not mix: widening asks
for one exact class on both sides, and so it carries neither a subclass of what it starts from nor a
class above what it leads to.  The main statement says that nothing else stops two steps from being
one.
-/

namespace FunctionObjects

namespace Ty

/-- Whether a type is a class below the root, or the value that stands for the class of nothing. -/
def isClass : Ty → Bool
  | .cls c => c != .object
  | .none => true
  | _ => false

/-- A class, or a union of classes. -/
def IsClasses (t : Ty) : Prop := ∀ m ∈ t.members, m.isClass = true

theorem shape_of_isClass {t : Ty} (h : t.isClass = true) :
    t.isVar = false ∧ t.isAny = false ∧ t.isUnion = false := by
  cases t <;> simp_all [isClass, isVar, isAny, isUnion]

theorem IsClasses.isVar {t : Ty} (h : t.IsClasses) : t.isVar = false := by
  cases t with
  | var => simpa [isClass] using h _ (List.mem_singleton_self _)
  | _ => rfl

end Ty

theorem widens_trans {a b c : ClassName} (hab : widens a b = true) (hbc : widens b c = true) :
    widens a c = true := by
  simp only [widens, Bool.or_eq_true, Bool.and_eq_true, beq_iff_eq] at hab hbc ⊢
  rcases hab with ⟨rfl, rfl⟩ | ⟨rfl, -⟩
  · exact .inr ⟨by simpa [ClassName.core] using hbc, .inl rfl⟩
  · simp [ClassName.core] at hbc

namespace Classes

open Ty

variable (k : Classes)

/-- The class that a class counts as where it is compared. -/
def kind (t : Ty) : ClassName := ((k.canonical t).originClass?).getD .object

/-- The classes that the members of a union count as. -/
def kinds (t : Ty) : List ClassName := t.members.map k.kind

/-- Whether a class counts as another one, is a subclass of it or widens to it. -/
def leadsTo (a b : ClassName) : Bool := a == b || k.sub a b || widens a b

/-- Of two steps that lead from `a` over `b` to `c`, one that widens stands alone: the other one stays
where it is, or else subclassing leads all the way by itself. -/
def WidensAlone (a b c : ClassName) : Prop :=
  (k.sub a b = true → widens b c = true → a = b ∨ k.sub a c = true) ∧
    (widens a b = true → k.sub b c = true → b = c ∨ k.sub a c = true)

variable {k} {a b c : ClassName} {A B C : Ty}

theorem leadsTo_trans (hsub : k.sub a b = true → k.sub b c = true → k.sub a c = true)
    (hwiden : k.WidensAlone a b c) (hab : k.leadsTo a b = true) (hbc : k.leadsTo b c = true) :
    k.leadsTo a c = true := by
  by_cases hsame : a = b ∨ b = c
  · rcases hsame with rfl | rfl
    · exact hbc
    · exact hab
  obtain ⟨hne, hne'⟩ := not_or.mp hsame
  simp only [leadsTo, Bool.or_eq_true, beq_iff_eq, hne, hne', false_or] at hab hbc ⊢
  rcases hab with hab | hab <;> rcases hbc with hbc | hbc
  · exact .inl (.inr (hsub hab hbc))
  · exact .inl (.inr ((hwiden.1 hab hbc).resolve_left hne))
  · exact .inl (.inr ((hwiden.2 hab hbc).resolve_left hne'))
  · exact .inr (widens_trans hab hbc)

/-- Classes are compared by what they count as. -/
theorem assignable_class {s t : Ty} (hs : s.isClass = true) (ht : t.isClass = true) :
    k.assignable s t = k.leadsTo (k.kind s) (k.kind t) := by
  rw [assignable_eq, Bool.eq_iff_iff]
  cases s <;> simp only [Ty.isClass, Bool.false_eq_true] at hs <;>
    cases t <;> simp only [Ty.isClass, Bool.false_eq_true] at ht <;>
    simp_all [Ty.finalize, Ty.isAny, Ty.isObject, Ty.isUnion, Ty.args, canonical, originsFit, kind,
      leadsTo, Ty.same, Ty.originClass?, Ty.noneType, Bool.or_assoc]

/-- Every member of one union fits some member of another one. -/
theorem assignable_classes (hA : A.IsClasses) (hB : B.IsClasses) :
    k.assignable A B = true ↔
      ∀ a ∈ A.members, ∃ b ∈ B.members, k.leadsTo (k.kind a) (k.kind b) = true := by
  have hsingle : ∀ a ∈ A.members, k.assignable a B = true ↔
      ∃ b ∈ B.members, k.leadsTo (k.kind a) (k.kind b) = true := by
    intro a ha
    obtain ⟨hvar, hany, hunion⟩ := shape_of_isClass (hA a ha)
    rw [assignable_members_right hvar hany hunion]
    refine exists_congr fun b => and_congr_right fun hb => ?_
    rw [assignable_class (hA a ha) (hB b hb)]
  rw [assignable_members_left hA.isVar hB.isVar]
  exact forall₂_congr hsingle

/-- Two steps between unions of classes are one step, as long as subclassing is transitive on the classes
that they count as and every widening stands alone.  A function that gives the first type can then
be followed by one that takes the last. -/
theorem assignable_trans (hA : A.IsClasses) (hB : B.IsClasses) (hC : C.IsClasses)
    (hsub : ∀ a ∈ k.kinds A, ∀ b ∈ k.kinds B, ∀ c ∈ k.kinds C,
      k.sub a b = true → k.sub b c = true → k.sub a c = true)
    (hwiden : ∀ a ∈ k.kinds A, ∀ b ∈ k.kinds B, ∀ c ∈ k.kinds C, k.WidensAlone a b c)
    (hAB : k.assignable A B = true) (hBC : k.assignable B C = true) :
    k.assignable A C = true ∧
      ∀ {w : World} {f g : Value}, w.classes = k → w.signature .output f = .ok (.single A) →
        w.signature .input g = .ok (.single C) → w.Composes f g := by
  rw [assignable_classes hA hB] at hAB
  rw [assignable_classes hB hC] at hBC
  have hAC : k.assignable A C = true := by
    rw [assignable_classes hA hC]
    intro a ha
    obtain ⟨b, hb, hab⟩ := hAB a ha
    obtain ⟨c, hc, hbc⟩ := hBC b hb
    have ha' := List.mem_map_of_mem (f := k.kind) ha
    have hb' := List.mem_map_of_mem (f := k.kind) hb
    have hc' := List.mem_map_of_mem (f := k.kind) hc
    exact ⟨c, hc, leadsTo_trans (hsub _ ha' _ hb' _ hc') (hwiden _ ha' _ hb' _ hc') hab hbc⟩
  refine ⟨hAC, ?_⟩
  rintro w f g rfl hf hg
  obtain ⟨r, hr, hvalid⟩ := World.composable_isValid hf hg
  exact ⟨r, hr, by simpa [Signature.accepts, Signature.fits, Signature.declared, Signature.type]
    using hvalid.trans hAC⟩

/-- Numbers of the core, sized numbers, and an interface that fractional numbers have been declared to
satisfy. -/
def gauges : Hierarchy where
  table := [
    ⟨.object, [], false, []⟩, ⟨.core "int", [], false, []⟩, ⟨.core "bool", [.core "int"], false, []⟩,
    ⟨.core "float", [], false, []⟩, ⟨.core "complex", [], false, []⟩, ⟨.core "str", [], false, []⟩,
    ⟨⟨"numpy", "generic"⟩, [], false, []⟩, ⟨⟨"numpy", "integer"⟩, [⟨"numpy", "generic"⟩], false, []⟩,
    ⟨⟨"numpy", "int64"⟩, [⟨"numpy", "integer"⟩], false, []⟩,
    ⟨⟨"decl", "Gauge"⟩, [], true, []⟩].foldl Hierarchy.addRow []
  virtual := [(.core "float", ⟨"decl", "Gauge"⟩)]

/-- From a sized number or a text over fractional ones to complex ones. -/
theorem int64_to_complex :
    let A := Ty.union true [.cls ⟨"numpy", "int64"⟩, .cls (.core "str")]
    let B := Ty.union true [.cls (.core "float"), .cls (.core "str")]
    let C := Ty.union true [.cls (.core "complex"), .cls (.core "str"), .cls .noneType]
    gauges.classes.assignable A B = true ∧ gauges.classes.assignable B C = true ∧
      gauges.classes.assignable A C = true := by
  intro A B C
  have hAB : gauges.classes.assignable A B = true := by decide +kernel
  have hBC : gauges.classes.assignable B C = true := by decide +kernel
  refine ⟨hAB, hBC, (assignable_trans (k := gauges.classes) ?_ ?_ ?_ ?_ ?_ hAB hBC).1⟩
  · simp [A, Ty.IsClasses, members, isClass, ClassName.core, ClassName.object]
  · simp [B, Ty.IsClasses, members, isClass, ClassName.core, ClassName.object]
  · simp [C, Ty.IsClasses, members, isClass, ClassName.core, ClassName.object, ClassName.noneType]
  · decide +kernel
  · unfold WidensAlone
    decide +kernel

/-- Widening does not go on by subclassing, on neither side: a whole number is accepted as a fractional
one but not where an interface is required that only fractional numbers satisfy, and a truth value
is a whole number but is not accepted as a fractional one. -/
theorem not_assignable_trans :
    let int := Ty.cls (.core "int")
    let float := Ty.cls (.core "float")
    let gauge := Ty.cls ⟨"decl", "Gauge"⟩
    let bool := Ty.cls (.core "bool")
    let k := gauges.classes
    (k.assignable int float = true ∧ k.assignable float gauge = true ∧ k.assignable int gauge = false) ∧
    (k.assignable bool int = true ∧ k.assignable int float = true ∧ k.assignable bool float = false) ∧
    ∀ a ∈ gauges.table.map (·.name), ∀ b ∈ gauges.table.map (·.name),
      ∀ c ∈ gauges.table.map (·.name), k.sub a b = true → k.sub b c = true → k.sub a c = true := by
  decide +kernel

end Classes

end FunctionObjects
