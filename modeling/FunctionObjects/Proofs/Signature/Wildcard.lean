import FunctionObjects.Class.Declare
import FunctionObjects.Proofs.Signature.Reopening
/-!
# Sides that constrain nothing

An input that constrains nothing accepts every declared output.  An output that constrains nothing is
one candidate, and a tuple of other than one position counts its candidates before it looks at them:
nothing can be opened there, so such an input refuses what every single position accepts.
-/

namespace FunctionObjects

open Signature

namespace Signature

/-- Whether a side is a single position, all the way down. -/
def isSingle : Signature → Bool
  | single _ => true
  | tuple _ [s] => isSingle s
  | tuple _ _ => false

variable {k : Classes}

theorem takesWhole_any : ∀ s : Signature, s.takesWhole k .any = s.isSingle
  | .single e => by
    rw [takesWhole, isSingle, Classes.assignable_eq]
    simp [Ty.finalize, Ty.isAny]
  | .tuple _ [s] => by rw [takesWhole, isSingle, takesWhole_any s]
  | .tuple _ [] | .tuple _ (_ :: _ :: _) => by simp [takesWhole, isSingle]

/-- A candidate that constrains nothing fits exactly a single position. -/
theorem accepts_any (s : Signature) : s.accepts k .input [.any] = s.isSingle := by
  rw [Classes.accepts_eq_takesWhole (by simp [Classes.elements?]), takesWhole_any]

/-- A position for anything accepts whatever a side stands for. -/
theorem single_any_accepts (s : Signature) : (Signature.single .any).accepts k .input s.declared = true := by
  simp [declared, accepts, fits]

end Signature

namespace World

variable {w : World} {f g v : Value} {s : Side} {inp out : Signature}

/-- Whether a side of a value has one type, which constrains nothing: no annotation at all, or a type
variable that nothing is bound to and that has no bound. -/
def IsOpen (w : World) (s : Side) (v : Value) : Prop :=
  ∃ t, w.declaredTypes s v = .ok [t] ∧ t.finalize = .any

theorem IsOpen.signature (h : w.IsOpen s v) : w.signature s v = .ok (.single .any) := by
  obtain ⟨t, ht, hany⟩ := h
  have hsingle : ofTy w.classes t = .single .any := by
    cases t with
    | var x b =>
      cases b with
      | none => rfl
      | some b =>
        obtain rfl : b = .any := hany
        rfl
    | any => rfl
    | _ => simp [Ty.finalize] at hany
  rw [World.signature, ht]
  simp [signatureOf, ofList, hsingle, bind, Except.bind, pure, Except.pure]

/-- An input that constrains nothing follows every function.  An output that constrains nothing is
followed exactly by the inputs of a single position. -/
theorem composable_of_isOpen (hf : w.signature .output f = .ok out)
    (hg : w.signature .input g = .ok inp) :
    ∃ r, w.composable f g = .ok r ∧ (w.IsOpen .input g → r.isValid = true) ∧
      (w.IsOpen .output f → (r.isValid = true ↔ inp.isSingle = true)) := by
  obtain ⟨r, hr, hvalid⟩ := composable_isValid hf hg
  refine ⟨r, hr, fun hopen => ?_, fun hopen => ?_⟩
  · obtain rfl : .single .any = inp := Except.ok.inj (hopen.signature.symm.trans hg)
    rw [hvalid, single_any_accepts]
  · obtain rfl : .single .any = out := Except.ok.inj (hopen.signature.symm.trans hf)
    rw [hvalid, declared, type, accepts_any]

/-- Functions, chains and what passes a value on, with the bases that they have in the library. -/
def bases : Hierarchy where
  table := [LibraryClass.structural, .signatureChecks, .function, .functionComposite, .identity].foldl
    (fun t k => (t.declare? k.className k.bases false k.traits k.arity).getD t)
    ([⟨.object, [], false, []⟩, ⟨⟨"abc", "ABC"⟩, [], true, []⟩, ⟨ClassTable.generic, [], false, []⟩,
      ⟨.core "function", [], false, [(.call, true)]⟩].foldl Hierarchy.addRow [])
  virtual := []

/-- A function without annotations, an object that passes its input on, a chain without functions, a
function of one text, and one of two whole numbers. -/
def steps : World where
  heap := #[
    .routine ⟨"pass_on", [⟨"x", .standard, none, none⟩], none, .arg 0, none⟩,
    .object LibraryClass.identity.className none [],
    .object LibraryClass.functionComposite.className none [("functions", .ref 3)],
    .list [],
    .routine ⟨"shout", [⟨"x", .standard, none, some (.cls (.core "str"))⟩],
      some (.cls (.core "str")), .upper, none⟩,
    .routine ⟨"add", [⟨"x", .standard, none, some (.cls (.core "int"))⟩,
      ⟨"y", .standard, none, some (.cls (.core "int"))⟩], some (.cls (.core "int")), .add, none⟩]
  hierarchy := bases
  declarations := []
  sites := initialSites
  registry := ⟨[], []⟩
  trace := []
  log := []
  clock := .none

/-- A chain without functions follows a function of texts, and goes before it. -/
theorem empty_chain_composable :
    ∃ r r', steps.composable (.ref 4) (.ref 2) = .ok r ∧ r.isValid = true ∧
      steps.composable (.ref 2) (.ref 4) = .ok r' ∧ r'.isValid = true := by
  have hany : ∀ s, steps.IsOpen s (.ref 2) := fun s => ⟨.any, by cases s <;> rfl, rfl⟩
  have htext : ∀ s, steps.signature s (.ref 4) = .ok (.single (.cls (.core "str"))) := by
    intro s
    cases s <;> rfl
  obtain ⟨r, hr, hvalid, -⟩ := composable_of_isOpen (htext .output) (hany .input).signature
  obtain ⟨r', hr', -, hvalid'⟩ := composable_of_isOpen (hany .output).signature (htext .input)
  exact ⟨r, r', hr, hvalid (hany .input), hr', (hvalid' (hany .output)).mpr rfl⟩

/-- Neither a function without annotations nor what passes its input on nor a chain without functions
goes before a function of two values, although nothing is known against it. -/
theorem not_composable_of_isOpen :
    (steps.IsOpen .output (.ref 0) ∧ ¬ steps.Composes (.ref 0) (.ref 5)) ∧
      (steps.IsOpen .output (.ref 1) ∧ ¬ steps.Composes (.ref 1) (.ref 5)) ∧
      (steps.IsOpen .output (.ref 2) ∧ ¬ steps.Composes (.ref 2) (.ref 5)) := by
  have hrefused : ∀ i ∈ [0, 1, 2], ¬ steps.Composes (.ref i) (.ref 5) := by
    rintro i hi ⟨r, hr, hvalid⟩
    have hverdicts : ∀ i ∈ [0, 1, 2],
        (steps.composable (.ref i) (.ref 5)).toOption.map (·.isValid) = some false := by decide +kernel
    simpa [hr, Except.toOption, hvalid] using hverdicts i hi
  exact ⟨⟨⟨.any, rfl, rfl⟩, hrefused 0 (by simp)⟩, ⟨⟨.any, rfl, rfl⟩, hrefused 1 (by simp)⟩,
    ⟨⟨.any, rfl, rfl⟩, hrefused 2 (by simp)⟩⟩

end World

end FunctionObjects
