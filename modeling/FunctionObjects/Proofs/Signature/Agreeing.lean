import Mathlib.Data.List.Zip
import FunctionObjects.Proofs.Signature.Wrapping
/-!
# Producers and consumers

Whether the output of one function fits the input of another can be asked of either.  The consumer opens
its own positions and the producer opens those of its own, each against the type for which the other side
stands.  They agree where both are opened alongside.  Where only one side can be opened, the one that
opens it counts one candidate for several positions and refuses, and the other compares whole types.
-/

namespace FunctionObjects

open Signature

namespace Classes

variable {k : Classes} {t u : Ty} {ts us : List Ty}

/-- Whether two types are opened alongside: both are single positions, or both are tuples of other than
one position, with positions that are opened alongside if they are equally many. -/
inductive Aligned (k : Classes) : Ty → Ty → Prop
  | singles {t u a b : Ty} : ofTy k t = .single a → ofTy k u = .single b → a.isVar = false →
      b.isVar = false → Aligned k t u
  | tuples {t u : Ty} {ts us : List Ty} : k.elements? t = some ts → k.elements? u = some us →
      ts.length ≠ 1 → us.length ≠ 1 →
      (ts.length = us.length → ∀ p ∈ ts.zip us, Aligned k p.1 p.2) → Aligned k t u

/-- A single position holds what the type stands for. -/
theorem eq_finalize_of_ofTy_eq_single {a : Ty} (h : ofTy k t = .single a) (ha : a.isVar = false) :
    a = t.finalize := by
  cases hv : t.isVar with
  | false =>
    have htype := ofTy_type (k := k) hv
    rw [h] at htype
    rw [Ty.finalize_of_not_isVar hv]
    exact htype
  | true =>
    match t, h with
    | .var _ none, h => simpa [ofTy, Ty.finalize, eq_comm] using h
    | .var _ (some b), h =>
      have hb : b.isVar = false := by
        cases b with
        | var =>
          obtain rfl : _ = a := by simpa [ofTy, ofFinal] using h
          exact ha
        | _ => rfl
      have htype := ofTy_type (k := k) hb
      rw [ofTy, ofFinal_eq_ofTy hb] at h
      rw [h] at htype
      exact htype

theorem acceptsAll_ofTypes_eq_all (side : Side) (ts cs : List Ty) :
    acceptsAll k side (ofTypes k ts) cs =
      (ts.zip cs).all fun p => (ofTy k p.1).accepts k side [p.2] := by
  induction ts generalizing cs with
  | nil => simp [ofTypes, acceptsAll]
  | cons t ts ih =>
    cases cs with
    | nil => simp [ofTypes, acceptsAll]
    | cons c cs => simp [ofTypes, acceptsAll, ih]

/-- A tuple of other than one position looks at the elements of its candidate, if it has equally many. -/
theorem accepts_of_elements? (side : Side) (hts : k.elements? t = some ts) (hone : ts.length ≠ 1)
    (hus : k.elements? u = some us) :
    (ofTy k t).accepts k side [u] =
      (us.length == ts.length && (ts.zip us).all fun p => (ofTy k p.1).accepts k side [p.2]) := by
  rw [ofTy_of_elements? hts, accepts]
  simp [expand, hone, hus, acceptsAll_ofTypes_eq_all]

/-- A tuple of other than one position refuses what has no elements. -/
theorem accepts_of_elements?_eq_none (side : Side) (hts : k.elements? t = some ts)
    (hone : ts.length ≠ 1) (hu : k.elements? u = none) :
    (ofTy k t).accepts k side [u] = false := by
  rw [ofTy_of_elements? hts, accepts]
  simp [expand, hone, hu, Ne.symm hone]

/-- A type goes where another one is required, whichever of the two is opened. -/
theorem accepts_of_aligned (h : k.Aligned t u) :
    (ofTy k t).accepts k .output [u] = (ofTy k u).accepts k .input [t] := by
  induction h with
  | @singles t u a b ht hu ha hb =>
    obtain rfl := eq_finalize_of_ofTy_eq_single ht ha
    obtain rfl := eq_finalize_of_ofTy_eq_single hu hb
    have hfinal : t.finalize.finalize = t.finalize := Ty.finalize_of_not_isVar ha
    have hfinal' : u.finalize.finalize = u.finalize := Ty.finalize_of_not_isVar hb
    rw [ht, hu, accepts, accepts, fits, fits, assignable_eq, assignable_eq k t, hfinal, hfinal']
  | @tuples t u ts us ht hu htone huone _ ih =>
    rw [accepts_of_elements? .output ht htone hu, accepts_of_elements? .input hu huone ht]
    by_cases hlen : ts.length = us.length
    · have hpositions : ((ts.zip us).all fun p => (ofTy k p.1).accepts k .output [p.2]) =
          (us.zip ts).all fun p => (ofTy k p.1).accepts k .input [p.2] := by
        rw [← List.zip_swap us ts, List.all_map, Bool.eq_iff_iff, List.all_eq_true, List.all_eq_true]
        refine forall₂_congr fun p hp => ?_
        have hswap : p.swap ∈ ts.zip us := by
          rw [← List.zip_swap us ts]
          exact List.mem_map_of_mem hp
        rw [Function.comp_apply, ih hlen _ hswap]
        rfl
      rw [hpositions, hlen]
    · rw [beq_eq_false_iff_ne.mpr hlen, beq_eq_false_iff_ne.mpr (Ne.symm hlen), Bool.false_and,
        Bool.false_and]

end Classes

namespace World

variable {w : World} {f g : Value} {s : Side} {out inp : Signature}

/-- The signature of a side with one type. -/
theorem signature_of_type {t : Ty} (hf : w.declaredTypes s f = .ok [t]) :
    w.signature s f = .ok (ofTy w.classes t) := by
  rw [signature, hf]
  rfl

/-- The verdict of a side that describes its values, on the type that it stands for. -/
theorem check_isValid (hw : w.Regular) {sig : Signature} (hsig : w.signature s f = .ok sig)
    (hf : w.Describes s f) (t : Ty) :
    ∃ r, w.check s f [t] = .ok r ∧ r.isValid = (ofTy w.classes sig.type).accepts w.classes s [t] := by
  obtain ⟨ts, hts, rfl⟩ := exists_declaredTypes hsig
  obtain ⟨hne, hdescr⟩ := hf ts hts
  obtain ⟨reopened, hspelled, -, hsame⟩ := Classes.exists_reopened w.surroundings.joined
    hw.nothing hw.single hne hdescr
  refine ⟨_, by rw [check, hsig]; rfl, ?_⟩
  rw [← assignable_isValid, hsame, (hspelled.reportsAlike [t]).isValid]

theorem isVar_type (hs : w.signature s f = .ok out) (hf : w.Describes s f) :
    out.type.isVar = false := by
  obtain ⟨ts, hts, rfl⟩ := exists_declaredTypes hs
  exact Classes.isVar_ofList_type w.surroundings.joined (hf ts hts).2

/-- Asking the first function whether its output may go where the input of the second is required, and
asking the second whether its input takes the output of the first, which decides whether they compose,
give one verdict where the two types are opened alongside.  Where only one of them is a tuple, of
other than one position, the function that it belongs to refuses, whatever the types are, and the other
one goes by whether the whole types fit. -/
theorem checks_of_aligned (hw : w.Regular) (hf : w.signature .output f = .ok out)
    (hg : w.signature .input g = .ok inp) (hfd : w.Describes .output f) (hgd : w.Describes .input g) :
    ∃ p q, w.check .output f inp.declared = .ok p ∧ w.check .input g out.declared = .ok q ∧
      (w.Composes f g ↔ q.isValid = true) ∧
      (w.classes.Aligned out.type inp.type → p.isValid = q.isValid) ∧
      (∀ ts, w.classes.elements? out.type = some ts → ts.length ≠ 1 →
        w.classes.elements? inp.type = none →
          p.isValid = false ∧ q.isValid = w.classes.assignable out.type inp.type) ∧
      (∀ us, w.classes.elements? inp.type = some us → us.length ≠ 1 →
        w.classes.elements? out.type = none →
          q.isValid = false ∧ p.isValid = w.classes.assignable out.type inp.type) := by
  obtain ⟨p, hp, hpValid⟩ := check_isValid hw hf hfd inp.type
  obtain ⟨q, hq, hqValid⟩ := check_isValid hw hg hgd out.type
  obtain ⟨r, hr, hrValid⟩ := composable_isValid hf hg
  obtain rfl : inp.assignable w.classes .input out.declared = q := by
    rw [check, hg] at hq
    exact Except.ok.inj hq
  refine ⟨p, _, hp, hq, ?_, fun haligned => ?_, fun ts hts hone hel => ?_, fun us hus hone hel => ?_⟩
  · simp [Composes, hr, hrValid]
  · rw [hpValid, hqValid, Classes.accepts_of_aligned haligned]
  · have hsingle := Classes.ofTy_of_elements?_eq_none (isVar_type hg hgd) hel
    rw [hpValid, hqValid, Classes.accepts_of_elements?_eq_none .output hts hone hel, hsingle]
    exact ⟨rfl, rfl⟩
  · have hsingle := Classes.ofTy_of_elements?_eq_none (isVar_type hf hfd) hel
    rw [hpValid, hqValid, Classes.accepts_of_elements?_eq_none .input hus hone hel, hsingle]
    exact ⟨rfl, rfl⟩

/-- An object that divides, one that passes its input on, and a function of two values, with the classes
that they need. -/
def feeding : World :=
  let int : Ty := .cls (.core "int")
  let scale : ClassName := ⟨"feeding", "Scale"⟩
  let classes : List LibraryClass := [.structural, .signatureChecks, .tuple, .arrayTuple, .fixedTuple,
    .tuple2, .function, .functionComposite, .functionN, .function2, .negation, .identity, .divideBy]
  let rows : List (ClassName × List Ty × Option (Option Nat)) :=
    (.object, [], none) :: classes.map (fun k => (k.className, k.bases, k.arity)) ++
      [(scale, [.app (.cls LibraryClass.function2.className) [.cls (.core "float"), .any, int]], none)]
  { heap := #[
      .object LibraryClass.divideBy.className none [("by", .int 2)],
      .object LibraryClass.identity.className none [],
      .object scale none []]
    hierarchy := ⟨rows.foldl (fun t r => (t.declare? r.1 r.2.1 false [] r.2.2).getD t) [], [], []⟩
    declarations := []
    sites := initialSites
    registry := ⟨[], []⟩
    trace := []
    log := []
    clock := .none }

section

set_option maxRecDepth 4000

theorem regular_feeding : feeding.Regular := ⟨rfl, rfl, rfl, rfl⟩

/-- A type of pairs. -/
def pairOf (t u : Ty) : Ty := .app (.cls LibraryClass.tuple2.className) [t, u]

theorem types_feeding :
    feeding.declaredTypes .output (.ref 0) = .ok [pairOf (.cls (.core "int")) (.cls (.core "int"))] ∧
      (∀ s, feeding.declaredTypes s (.ref 1) = .ok [.any]) ∧
      feeding.declaredTypes .input (.ref 2) = .ok [pairOf (.cls (.core "float")) .any] :=
  ⟨rfl, fun s => by cases s <;> rfl, rfl⟩

theorem signatures_feeding :
    let int : Ty := .cls (.core "int")
    let float : Ty := .cls (.core "float")
    feeding.signature .output (.ref 0) = .ok (.tuple (pairOf int int) [.single int, .single int]) ∧
      (∀ s, feeding.signature s (.ref 1) = .ok (.single .any)) ∧
      feeding.signature .input (.ref 2) = .ok (.tuple (pairOf float .any) [.single float, .single .any]) :=
  ⟨rfl, fun s => by cases s <;> rfl, rfl⟩

theorem describes_feeding : feeding.Describes .output (.ref 0) ∧
    (∀ s, feeding.Describes s (.ref 1)) ∧ feeding.Describes .input (.ref 2) := by
  obtain ⟨hpair, hany, htakes⟩ := types_feeding
  refine ⟨fun ts hts => ?_, fun s ts hts => ?_, fun ts hts => ?_⟩
  · obtain rfl := Except.ok.inj (hpair.symm.trans hts)
    decide
  · obtain rfl := Except.ok.inj ((hany s).symm.trans hts)
    decide
  · obtain rfl := Except.ok.inj (htakes.symm.trans hts)
    decide

theorem aligned_feeding : feeding.classes.Aligned (pairOf (.cls (.core "int")) (.cls (.core "int")))
    (pairOf (.cls (.core "float")) .any) := by
  have hgiven : feeding.classes.elements? (pairOf (.cls (.core "int")) (.cls (.core "int"))) =
      some [.cls (.core "int"), .cls (.core "int")] := rfl
  have hasked : feeding.classes.elements? (pairOf (.cls (.core "float")) .any) =
      some [.cls (.core "float"), .any] := rfl
  refine .tuples hgiven hasked (by decide) (by decide) fun _ p hp => ?_
  simp only [List.zip_cons_cons, List.zip_nil_right, List.mem_cons, List.not_mem_nil, or_false] at hp
  rcases hp with rfl | rfl
  · exact .singles rfl rfl rfl rfl
  · exact .singles rfl rfl rfl rfl

end

/-- A pair of whole numbers goes where a fractional number and anything are required, whoever is asked. -/
theorem checks_feeding : ∃ p q,
    feeding.check .output (.ref 0) [pairOf (.cls (.core "float")) .any] = .ok p ∧
      feeding.check .input (.ref 2) [pairOf (.cls (.core "int")) (.cls (.core "int"))] = .ok q ∧
      p.isValid = q.isValid := by
  obtain ⟨hout, -, hinp⟩ := signatures_feeding
  obtain ⟨hfd, -, hgd⟩ := describes_feeding
  obtain ⟨p, q, hp, hq, -, hagree, -⟩ := checks_of_aligned regular_feeding hout hinp hfd hgd
  exact ⟨p, q, hp, hq, hagree aligned_feeding⟩

/-- What divides says that its pair may not go where anything is accepted, which accepts it; and what
takes two values refuses what may be anything, which says that it may go there. -/
theorem not_checks_agree :
    (¬ ∀ (w : World) (f g : Value) (out inp : Signature), w.Regular →
      w.signature .output f = .ok out → w.signature .input g = .ok inp → w.Describes .output f →
      w.Describes .input g → ∃ p q, w.check .output f inp.declared = .ok p ∧
        w.check .input g out.declared = .ok q ∧ (q.isValid = true → p.isValid = true)) ∧
    (¬ ∀ (w : World) (f g : Value) (out inp : Signature), w.Regular →
      w.signature .output f = .ok out → w.signature .input g = .ok inp → w.Describes .output f →
      w.Describes .input g → ∃ p q, w.check .output f inp.declared = .ok p ∧
        w.check .input g out.declared = .ok q ∧ (p.isValid = true → q.isValid = true)) := by
  obtain ⟨hout, hany, hinp⟩ := signatures_feeding
  obtain ⟨hfd, hopen, hgd⟩ := describes_feeding
  have hverdicts :
      [(Side.output, Value.ref 0, Ty.any), (.input, .ref 1, pairOf (.cls (.core "int")) (.cls (.core "int"))),
        (.output, .ref 1, pairOf (.cls (.core "float")) .any), (.input, .ref 2, .any)].map
        (fun (s, f, t) => (feeding.check s f [t]).toOption.map (·.isValid)) =
      [some false, some true, some true, some false] := by decide +kernel
  simp only [List.map_cons, List.map_nil, List.cons.injEq, and_true] at hverdicts
  obtain ⟨hpair, hpasses, hpassed, htakes⟩ := hverdicts
  refine ⟨fun h => ?_, fun h => ?_⟩
  · obtain ⟨p, q, hp, hq, himp⟩ := h feeding (.ref 0) (.ref 1) _ _ regular_feeding hout
      (hany .input) hfd (hopen .input)
    simp only [declared, type.eq_def] at hp hq
    simp only [hp, Except.toOption, Option.map_some, Option.some.injEq] at hpair
    simp only [hq, Except.toOption, Option.map_some, Option.some.injEq] at hpasses
    exact Bool.false_ne_true (hpair.symm.trans (himp hpasses))
  · obtain ⟨p, q, hp, hq, himp⟩ := h feeding (.ref 1) (.ref 2) _ _ regular_feeding (hany .output)
      hinp (hopen .output) hgd
    simp only [declared, type.eq_def] at hp hq
    simp only [hp, Except.toOption, Option.map_some, Option.some.injEq] at hpassed
    simp only [hq, Except.toOption, Option.map_some, Option.some.injEq] at htakes
    exact Bool.false_ne_true (htakes.symm.trans (himp hpassed))

end World

end FunctionObjects
