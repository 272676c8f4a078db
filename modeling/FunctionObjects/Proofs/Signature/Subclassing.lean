import FunctionObjects.Proofs.Descriptor.Widening
import FunctionObjects.Proofs.Signature.Agreeing
/-!
# Subclasses as candidates

Classes are compared as what they box.  Between classes that box nothing, and between classes that box the
same, a subclass always fits.  Boxing forgets the ancestors that sized scalars have among themselves: what
boxes a core class is compared as that class, and the abstract scalars above it, which box nothing, are
not above the core class.

A function that takes a class gets the output of one that gives a subclass as soon as the subclass fits,
unless it takes a class of tuples, whose positions are counted instead.
-/

namespace FunctionObjects

open Signature

namespace Classes

variable {k : Classes} {c e : ClassName}

/-- One class fits another one if the other one is the root, or by what both of them box. -/
theorem assignable_cls_iff : k.assignable (.cls c) (.cls e) = true ↔
    e = .object ∨ k.leadsTo (k.unboxed c) (k.unboxed e) = true := by
  rw [assignable_eq]
  simp [Ty.finalize, Ty.isAny, Ty.isObject, Ty.isUnion, Ty.args, canonical, originsFit,
    Ty.same, Ty.originClass?, leadsTo, or_assoc]

/-- Whoever takes a class of tuples opens it into as many positions for anything as it has. -/
theorem accepts_cls_of_arity? {n : Nat} (h : k.arity? e = some n) :
    (ofTy k (.cls e)).accepts k .input [.cls c] = true ↔ n = 1 ∨ k.arity? c = some n := by
  have hpositions : k.elements? (.cls e) = some (List.replicate n .any) := by simp [elements?, h]
  by_cases hone : n = 1
  · subst hone
    rw [ofTy_of_elements? hpositions]
    simp [ofTypes, ofTy, accepts, acceptsAll, expand, fits]
  have hlen : (List.replicate n Ty.any).length ≠ 1 := by simpa using hone
  cases hc : k.arity? c with
  | none =>
    have hnone : k.elements? (.cls c) = none := by simp [elements?, hc]
    simp [accepts_of_elements?_eq_none .input hpositions hlen hnone, hone]
  | some m =>
    have hsome : k.elements? (.cls c) = some (List.replicate m .any) := by simp [elements?, hc]
    have hall : ((List.replicate n Ty.any).zip (List.replicate m Ty.any)).all
        (fun p => (ofTy k p.1).accepts k .input [p.2]) = true := by
      rw [List.all_eq_true]
      intro p hp
      obtain ⟨hleft, hright⟩ := List.of_mem_zip (a := p.1) (b := p.2) hp
      rw [List.eq_of_mem_replicate hleft, List.eq_of_mem_replicate hright]
      simp [ofTy, accepts, fits]
    rw [accepts_of_elements? .input hpositions hlen hsome, hall]
    simp [hone]

end Classes

namespace World

variable {w : World} {c e : ClassName} {f g : Value}

/-- Of two functions between which a class stands, the second takes what the first gives if the one class
fits the other, or if both are classes of equally many positions. -/
theorem composes_cls_iff (hf : w.declaredTypes .output f = .ok [.cls c])
    (hg : w.declaredTypes .input g = .ok [.cls e]) :
    w.Composes f g ↔ match w.classes.arity? e with
      | none => w.classes.assignable (.cls c) (.cls e) = true
      | some n => n = 1 ∨ w.classes.arity? c = some n := by
  obtain ⟨r, hr, hvalid⟩ := composable_isValid (signature_of_type hf) (signature_of_type hg)
  have hcomposes : w.Composes f g ↔
      (ofTy w.classes (.cls e)).accepts w.classes .input [.cls c] = true := by
    have hdeclared : (ofTy w.classes (.cls c)).declared = [.cls c] := by
      rw [declared, Classes.ofTy_type rfl]
    rw [hdeclared] at hvalid
    simp [Composes, hr, hvalid]
  rw [hcomposes]
  cases he : w.classes.arity? e with
  | none =>
    have hsingle : ofTy w.classes (.cls e) = .single (.cls e) := by simp [ofTy, he]
    rw [hsingle]
    rfl
  | some n => exact Classes.accepts_cls_of_arity? he

/-- A subclass is accepted exactly if it is one as what the two classes box: that is always so where
neither of them boxes anything, and where they box the same.  A function that takes the class gets the
output of every function that gives the subclass on the same condition; a class of tuples of other
than one position takes what has as many positions. -/
theorem subclass_accepted_iff (hsub : w.classes.sub c e = true) :
    (w.classes.assignable (.cls c) (.cls e) = true ↔
      e = .object ∨ w.classes.leadsTo (w.classes.unboxed c) (w.classes.unboxed e) = true) ∧
    (w.classes.unboxed c = c → w.classes.unboxed e = e →
      w.classes.assignable (.cls c) (.cls e) = true) ∧
    (w.classes.unboxed c = w.classes.unboxed e → w.classes.assignable (.cls c) (.cls e) = true) ∧
    ∀ f g, w.declaredTypes .output f = .ok [.cls c] → w.declaredTypes .input g = .ok [.cls e] →
      (w.Composes f g ↔ match w.classes.arity? e with
        | none => w.classes.assignable (.cls c) (.cls e) = true
        | some n => n = 1 ∨ w.classes.arity? c = some n) := by
  refine ⟨Classes.assignable_cls_iff, fun hc he => ?_, fun hsame => ?_, fun f g => composes_cls_iff⟩
  · rw [Classes.assignable_cls_iff, hc, he]
    simp [Classes.leadsTo, hsub]
  · rw [Classes.assignable_cls_iff, hsame]
    simp [Classes.leadsTo]

/-- Sized numbers below their abstract classes, and steps that give and take them. -/
def weighing : World :=
  let np (name : String) : ClassName := ⟨"numpy", name⟩
  let step (name : String) (input output : Ty) : ClassName × List Ty :=
    (⟨"weighing", name⟩, [.app (.cls LibraryClass.function.className) [input, output]])
  let library (k : LibraryClass) : ClassName × List Ty := (k.className, k.bases)
  let rows : List (ClassName × List Ty) := [
    (.object, []), (.core "int", []), (.core "float", []), (ClassTable.generic, []),
    (np "generic", []), (np "number", [.cls (np "generic")]), (np "integer", [.cls (np "number")]),
    (np "int64", [.cls (np "integer")]),
    library .structural, library .signatureChecks, library .function,
    step "Weigh" Ty.object (.cls (np "int64")),
    step "Round" (.cls (np "integer")) (.cls (.core "int")),
    step "Scale" (.cls (np "number")) (.cls (.core "float"))]
  { heap := #[.object ⟨"weighing", "Weigh"⟩ none [], .object ⟨"weighing", "Round"⟩ none [],
      .object ⟨"weighing", "Scale"⟩ none []]
    hierarchy := ⟨rows.foldl (fun t r => (t.declare? r.1 r.2 false [] none).getD t) [], [], []⟩
    declarations := []
    sites := initialSites
    registry := ⟨[], []⟩
    trace := []
    log := []
    clock := .none }

theorem weighing_types :
    weighing.declaredTypes .output (.ref 0) = .ok [.cls ⟨"numpy", "int64"⟩] ∧
      weighing.declaredTypes .input (.ref 1) = .ok [.cls ⟨"numpy", "integer"⟩] ∧
      weighing.declaredTypes .input (.ref 2) = .ok [.cls ⟨"numpy", "number"⟩] :=
  ⟨rfl, rfl, rfl⟩

/-- What the table holds: what is weighed is a whole number and a number, boxes what every whole number boxes,
and is refused where a number is required. -/
theorem weighing_tables :
    let np (name : String) : ClassName := ⟨"numpy", name⟩
    (weighing.classes.sub (np "int64") (np "integer") = true ∧
      weighing.classes.unboxed (np "int64") = weighing.classes.unboxed (np "integer") ∧
      weighing.classes.arity? (np "integer") = none) ∧
    weighing.classes.sub (np "int64") (np "number") = true ∧
    weighing.classes.assignable (.cls (np "int64")) (.cls (np "number")) = false ∧
    weighing.classes.arity? (np "number") = none := by
  decide +kernel

/-- What is weighed can be rounded: both classes box the whole numbers. -/
theorem weighing_rounds :
    weighing.classes.sub ⟨"numpy", "int64"⟩ ⟨"numpy", "integer"⟩ = true ∧
      weighing.classes.assignable (.cls ⟨"numpy", "int64"⟩) (.cls ⟨"numpy", "integer"⟩) = true ∧
      weighing.Composes (.ref 0) (.ref 1) := by
  obtain ⟨hweigh, hround, -⟩ := weighing_types
  obtain ⟨⟨hsub, hsame, hsingle⟩, -⟩ := weighing_tables
  obtain ⟨-, -, hboxed, hcompose⟩ := subclass_accepted_iff hsub
  have hfits := hboxed hsame
  have hcomposes := hcompose _ _ hweigh hround
  rw [hsingle] at hcomposes
  exact ⟨hsub, hfits, hcomposes.mpr hfits⟩

/-- What is weighed is a number, yet it is refused where a number of any width is required. -/
theorem not_subclass_accepted :
    (¬ ∀ (w : World) (c e : ClassName), w.classes.sub c e = true →
      w.classes.assignable (.cls c) (.cls e) = true) ∧
    ¬ ∀ (w : World) (c e : ClassName) (f g : Value), w.classes.sub c e = true →
      w.declaredTypes .output f = .ok [.cls c] → w.declaredTypes .input g = .ok [.cls e] →
      w.Composes f g := by
  obtain ⟨hweigh, -, hscale⟩ := weighing_types
  obtain ⟨-, hsub, hrefused, hsingle⟩ := weighing_tables
  refine ⟨fun h => ?_, fun h => ?_⟩
  · exact Bool.false_ne_true (hrefused.symm.trans (h weighing _ _ hsub))
  · have hcomposes := (composes_cls_iff hweigh hscale).mp (h weighing _ _ _ _ hsub hweigh hscale)
    rw [hsingle] at hcomposes
    exact Bool.false_ne_true (hrefused.symm.trans hcomposes)

end World

end FunctionObjects
