import FunctionObjects.Proofs.Chain.Grouping
import FunctionObjects.Proofs.Signature.Reporting
import FunctionObjects.Proofs.Validation.Merging
/-!
# Splitting the check of a chain

The check of a chain merges the verdicts on its neighbours one after the other.  A verdict is a log, and
merging logs is associative, so a chain can be cut anywhere: its check is that of the functions before the
cut, the verdict on the two functions at the cut, and the check of the functions behind it.
-/

namespace FunctionObjects

open Run ValidationResult

namespace Signature

variable {k : Classes} {side : Side} {r : ValidationResult}

theorem isLog_foldl_report (h : r.IsLog) (fs : List (List Nat × Failure)) :
    (fs.foldl (report side) r).IsLog := by
  induction fs generalizing r with
  | nil => exact h
  | cons f fs ih => exact ih (h.addError _)

/-- What a signature says about candidates is a log. -/
theorem isLog_assignable (s : Signature) (cs : List Ty) : (s.assignable k side cs).IsLog := by
  rw [assignable, collect_eq_foldl]
  exact isLog_foldl_report isLog_valid _

end Signature

namespace World

variable {w : World} {f g : Value} {fs gs : List Value} {q r : ValidationResult}

theorem isLog_composable (h : w.composable f g = .ok r) : r.IsLog := by
  cases hf : w.signature .output f with
  | error e => simp [composable, hf, bind, Except.bind] at h
  | ok out =>
    cases hg : (w.after .output f).signature .input g with
    | error e => simp [composable, hf, hg, bind, Except.bind] at h
    | ok inp =>
      rw [composable, hf, hg] at h
      obtain rfl := Except.ok.inj h
      exact isLog_valid.merge (Signature.isLog_assignable inp _) _

theorem validateChain_cons (f : Value) (gs : List Value) :
    w.validateChain (f :: gs) = validateChain.go w .valid f gs := by
  cases gs <;> rfl

theorem isLog_go (hr : r.IsLog) (h : validateChain.go w r f gs = .ok q) : q.IsLog := by
  induction gs generalizing r f with
  | nil =>
    obtain rfl := Except.ok.inj h
    exact hr
  | cons g gs ih =>
    rw [validateChain.go] at h
    cases hb : w.composable f g with
    | error e => simp [hb, bind, Except.bind] at h
    | ok b =>
      rw [hb] at h
      exact ih (hr.merge (isLog_composable hb) none) h

/-- A check that goes on from a log merges what it finds into the log. -/
theorem go_eq_merge (hr : r.IsLog) (f : Value) (gs : List Value) :
    validateChain.go w r f gs = (r.merge · none) <$> validateChain.go w .valid f gs := by
  induction gs generalizing r f with
  | nil => rfl
  | cons g gs ih =>
    rw [validateChain.go, validateChain.go]
    cases hb : w.composable f g with
    | error e => rfl
    | ok b =>
      have hlog := isLog_composable hb
      change validateChain.go w (r.merge b none) g gs =
        (r.merge · none) <$> validateChain.go w (valid.merge b none) g gs
      rw [valid_merge hlog, ih (hr.merge hlog none), ih hlog, ← LawfulFunctor.comp_map]
      exact congrArg (· <$> validateChain.go w .valid g gs)
        (funext fun c => merge_assoc hlog r c none)

/-- A check goes through the functions before a cut, over the cut, and through those behind it. -/
theorem go_append (r : ValidationResult) (f g : Value) (fs gs : List Value) :
    validateChain.go w r f (fs ++ g :: gs) = (do
      let a ← validateChain.go w r f fs
      let b ← w.composable ((f :: fs).getLast (List.cons_ne_nil f fs)) g
      validateChain.go w (a.merge b none) g gs) := by
  induction fs generalizing r f with
  | nil => rfl
  | cons f' fs ih =>
    rw [List.cons_append, validateChain.go, validateChain.go]
    cases hb : w.composable f f' with
    | error e => rfl
    | ok b => exact ih _ f'

/-- The check of a chain in terms of its parts. -/
theorem validateChain_append (hf : f ∈ fs.getLast?) (hg : g ∈ gs.head?) :
    w.validateChain (fs ++ gs) = (do
      let a ← w.validateChain fs
      let b ← w.composable f g
      let c ← w.validateChain gs
      return ((valid.merge a none).merge b none).merge c none) := by
  cases fs with
  | nil => cases hf
  | cons f' fs =>
    cases gs with
    | nil => cases hg
    | cons g' gs =>
      obtain rfl := Option.some.inj hg
      obtain rfl : (f' :: fs).getLast (List.cons_ne_nil f' fs) = f :=
        Option.some.inj ((List.getLast?_eq_some_getLast _).symm.trans hf)
      rw [List.cons_append, validateChain_cons, validateChain_cons, validateChain_cons, go_append]
      cases ha : validateChain.go w .valid f' fs with
      | error e => rfl
      | ok a =>
        have hlog := isLog_go isLog_valid ha
        cases hb : w.composable ((f' :: fs).getLast (List.cons_ne_nil f' fs)) g' with
        | error e => rfl
        | ok b =>
          change validateChain.go w (a.merge b none) g' gs = (do
            let c ← validateChain.go w .valid g' gs
            return ((valid.merge a none).merge b none).merge c none)
          rw [valid_merge hlog, go_eq_merge (hlog.merge (isLog_composable hb) none), map_eq_pure_bind]

end World

namespace Chain

variable {d : Dispatch} {w : World} {x y z f g : Value} {xs ys : List Value}

/-- The check of a chain of functions in two parts is what comes of merging, into the valid result, the check
of a chain of the first part, the verdict on the two functions where the parts meet, and the check of a chain
of the second part; it is valid exactly if these three are.  It fails where the first of them fails. -/
theorem validate_append (hz : w.IsChainOf z (xs ++ ys)) (hx : w.IsChainOf x xs) (hy : w.IsChainOf y ys)
    (hf : f ∈ xs.getLast?) (hg : g ∈ ys.head?) :
    (∀ a b c : ValidationResult, (validate d x).result w = (.ok (.atom (.result a)), w) →
      w.composable f g = .ok b → (validate d y).result w = (.ok (.atom (.result c)), w) →
      let r := ((valid.merge a none).merge b none).merge c none
      (validate d z).result w = (.ok (.atom (.result r)), w) ∧
        (r.isValid = true ↔ a.isValid = true ∧ b.isValid = true ∧ c.isValid = true)) ∧
    ∀ e, (validate d z).result w = (.error e, w) ↔
      (validate d x).result w = (.error e, w) ∨ ∃ a, (validate d x).result w = (.ok a, w) ∧
        (w.composable f g = .error e ∨ ∃ b, w.composable f g = .ok b ∧
          (validate d y).result w = (.error e, w)) := by
  rw [result_validate hz.result_itemsOf, result_validate hx.result_itemsOf,
    result_validate hy.result_itemsOf, World.validateChain_append hf hg]
  generalize w.validateChain xs = front
  generalize w.composable f g = seam
  generalize w.validateChain ys = back
  refine ⟨fun a b c ha hb hc => ?_, fun e => ?_⟩
  · have hok : ∀ {out : Except Fault ValidationResult} {r : ValidationResult},
        ((Value.atom ∘ Atom.result) <$> out, w) = (.ok (.atom (.result r)), w) → out = .ok r := by
      rintro (e | q) r h
      · cases h
      · cases h
        rfl
    obtain rfl := hok ha
    subst hb
    obtain rfl := hok hc
    refine ⟨rfl, ?_⟩
    simp [valid, and_assoc]
  · cases front <;> cases seam <;> cases back <;> simp [bind, Except.bind, pure, Except.pure]

/-- Two functions that do not compose, twice in a row: their messages come once. -/
theorem repeated_check :
    let w := grouped.withChain [.ref 0, .ref 1, .ref 0, .ref 1]
    (validate .standard (.ref grouped.heap.size)).result w =
      (.ok (.atom (.result ⟨false,
        ["Incompatible input type at position 0: expected str, got int",
          "Output of measure is not compatible with the input of raise"]⟩)), w) := by
  intro w
  let refusal : ValidationResult := ⟨false,
    ["Incompatible input type at position 0: expected str, got int",
      "Output of measure is not compatible with the input of raise"]⟩
  have hok : ∀ {out : Except Fault ValidationResult} {r : ValidationResult},
      out.toOption = some r → out = .ok r := by
    rintro (e | q) r h
    · cases h
    · cases h
      rfl
  have hverdicts : (w.validateChain [.ref 0, .ref 1]).toOption = some refusal ∧
      (w.composable (.ref 1) (.ref 0)).toOption = some .valid := by decide +kernel
  have hgrows := World.grows_withChain grouped [.ref 0, .ref 1, .ref 0, .ref 1]
  have hpair : w.IsChainOf (.ref 5) [.ref 0, .ref 1] :=
    isChainOf_of_cells (hgrows.heap rfl) (hgrows.heap rfl)
  have hwhole := World.isChainOf_withChain grouped [.ref 0, .ref 1, .ref 0, .ref 1]
  have hcheck : (validate .standard (.ref 5)).result w = (.ok (.atom (.result refusal)), w) := by
    rw [result_validate hpair.result_itemsOf, hok hverdicts.1]
    rfl
  have hrefusal : refusal.IsLog := ⟨by decide, by decide⟩
  have hmerged : ((valid.merge refusal none).merge valid none).merge refusal none = refusal := by
    rw [valid_merge hrefusal, merge_valid, merge_self]
  have hwhole' := (validate_append (d := .standard) hwhole hpair hpair rfl rfl).1 _ _ _ hcheck
    (hok hverdicts.2) hcheck
  rw [hmerged] at hwhole'
  exact hwhole'.1

end Chain

end FunctionObjects
