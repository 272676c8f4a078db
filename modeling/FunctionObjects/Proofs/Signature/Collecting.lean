import Mathlib.Data.List.Chain
import FunctionObjects.Proofs.Signature.SameType
import FunctionObjects.Signature.Recovery
/-!
# What a signature accepts

A type is opened into its elements, if it has any.  Collecting messages decides acceptance: a result stays
valid exactly if every position fits.  The messages themselves do not matter here.
-/

namespace FunctionObjects

namespace Classes

open Signature

variable {k : Classes} {t : Ty} {ts : List Ty}

@[simp] theorem ofTypes_length (k : Classes) (ts : List Ty) : (ofTypes k ts).length = ts.length := by
  induction ts with
  | nil => rfl
  | cons t ts ih => simp [ofTypes, ih]

theorem ofTypes_replicate_any (n : Nat) :
    ofTypes k (List.replicate n .any) = List.replicate n (.single .any) := by
  induction n with
  | zero => rfl
  | succ n ih => simp [List.replicate_succ, ofTypes, ofTy, ih]

theorem elements?_app {h : Head} {ts : List Ty} (hform : k.isTupleForm h ts = true) :
    k.elements? (.app h ts) = some ts := by
  simp [elements?, hform]

theorem ofTy_of_isTupleForm {h : Head} {ts : List Ty} (hform : k.isTupleForm h ts = true) :
    ofTy k (.app h ts) = .tuple (.app h ts) (ofTypes k ts) := by
  unfold ofTy
  rw [if_pos hform]

/-- What has elements is opened into them. -/
theorem ofTy_of_elements? (h : k.elements? t = some ts) : ofTy k t = .tuple t (ofTypes k ts) := by
  cases t with
  | cls c =>
    obtain ⟨n, hn, rfl⟩ := Option.map_eq_some_iff.mp h
    simp [ofTy, hn, open', ofTypes_replicate_any]
  | app hd us =>
    cases hform : k.isTupleForm hd us with
    | true =>
      obtain rfl : us = ts := by simpa [elements?, hform] using h
      exact ofTy_of_isTupleForm hform
    | false =>
      cases hd with
      | cls c =>
        obtain ⟨n, hn, rfl⟩ : ∃ n, k.arity? c = some n ∧ List.replicate n .any = ts := by
          simpa [elements?, hform] using h
        simp [ofTy, hform, hn, open', ofTypes_replicate_any]
      | _ => simp [elements?, hform] at h
  | _ => simp [elements?] at h

/-- What has no elements is a single position. -/
theorem ofTy_of_elements?_eq_none (hv : t.isVar = false) (h : k.elements? t = none) :
    ofTy k t = .single t := by
  cases t with
  | cls c =>
    have hn : k.arity? c = none := by simpa [elements?] using h
    simp [ofTy, hn]
  | app hd us =>
    cases hform : k.isTupleForm hd us with
    | true => simp [elements?, hform] at h
    | false =>
      cases hd with
      | cls c =>
        have hn : k.arity? c = none := by simpa [elements?, hform] using h
        simp [ofTy, hform, hn]
      | _ => simp [ofTy, hform]
  | var => simp [Ty.isVar] at hv
  | _ => rfl

theorem ofFinal_eq_ofTy {t : Ty} (h : t.isVar = false) : ofFinal k t = ofTy k t := by
  cases t with
  | var v b => simp [Ty.isVar] at h
  | _ => simp [ofFinal, ofTy]

theorem ofTy_type {t : Ty} (h : t.isVar = false) : (ofTy k t).type = t := by
  cases t with
  | var v b => simp [Ty.isVar] at h
  | cls c => cases hn : k.arity? c <;> simp [ofTy, hn, type, open']
  | app hd ts =>
    cases hform : k.isTupleForm hd ts with
    | true => simp [ofTy_of_isTupleForm hform, type]
    | false =>
      cases hd with
      | cls c => cases hn : k.arity? c <;> simp [ofTy, hform, hn, type, open']
      | _ => simp [ofTy, hform, type]
  | _ => rfl

/-- Other than one type is joined to a tuple type. -/
theorem ofList_of_length_ne_one (known : List (List Ty)) (hone : ts.length ≠ 1) :
    ofList k known ts = .tuple (joined known ts) (ofTypes k ts) := by
  match ts with
  | [] | _ :: _ :: _ => rfl
  | [_] => simp at hone

end Classes

namespace ValidationResult

@[simp] theorem addError_isValid (r : ValidationResult) (message : String) :
    (r.addError message).isValid = false := rfl

@[simp] theorem merge_isValid (r other : ValidationResult) (summary : Option String) :
    (r.merge other summary).isValid = (r.isValid && other.isValid) := by
  unfold merge
  split <;> simp_all

end ValidationResult

namespace Signature

mutual

/-- Whether candidates fit a signature. -/
def accepts (k : Classes) (side : Side) : Signature → List Ty → Bool
  | single t, cs =>
    match cs with
    | [c] => fits k side t c
    | _ => false
  | tuple _ parts, cs =>
    (expand k parts.length cs).length == parts.length &&
      acceptsAll k side parts (expand k parts.length cs)

/-- Whether candidates fit the positions of a tuple one after the other. -/
def acceptsAll (k : Classes) (side : Side) : List Signature → List Ty → Bool
  | s :: ss, c :: cs => accepts k side s [c] && acceptsAll k side ss cs
  | _, _ => true

end

variable (k : Classes) (side : Side)

mutual

theorem collect_isValid : ∀ (s : Signature) (path : List Nat) (cs : List Ty) (r : ValidationResult),
    (collect k side s path cs r).isValid = (r.isValid && s.accepts k side cs)
  | single t, path, cs, r => by
    simp only [collect, accepts]
    split
    · split <;> simp_all
    · simp
  | tuple t parts, path, cs, r => by
    simp only [collect, accepts]
    split
    · rename_i hlen
      rw [collectAll_isValid parts path 0 _ r, hlen]
      simp
    · rename_i hlen
      simp [hlen]

theorem collectAll_isValid : ∀ (ss : List Signature) (path : List Nat) (i : Nat) (cs : List Ty)
    (r : ValidationResult),
    (collectAll k side ss path i cs r).isValid = (r.isValid && acceptsAll k side ss cs)
  | s :: ss, path, i, c :: cs, r => by
    simp only [collectAll, acceptsAll]
    rw [collectAll_isValid ss, collect_isValid s, Bool.and_assoc]
  | [], _, _, _, r => by simp [collectAll, acceptsAll]
  | _ :: _, _, _, [], r => by simp [collectAll, acceptsAll]

end

@[simp] theorem assignable_isValid (s : Signature) (cs : List Ty) :
    (s.assignable k side cs).isValid = s.accepts k side cs := by
  simp [assignable, collect_isValid, ValidationResult.valid]

end Signature

namespace World

variable {w : World}

/-- The signature of a side is that of the types that are declared for it. -/
theorem signature_eq_ofList {f : Value} {side : Side} {ts : List Ty} {s : Signature}
    (hts : w.declaredTypes side f = .ok ts) (hs : w.signature side f = .ok s) :
    s = .ofList w.classes w.surroundings.joined ts := by
  have hlist : w.signatureOf ts = .ok s := by rwa [signature, hts] at hs
  rw [signatureOf] at hlist
  split at hlist
  · cases hlist
  · exact (Except.ok.inj hlist).symm

/-- What has a signature for a side states types for it, and the signature is theirs. -/
theorem exists_declaredTypes {f : Value} {side : Side} {s : Signature}
    (hs : w.signature side f = .ok s) :
    ∃ ts, w.declaredTypes side f = .ok ts ∧ s = .ofList w.classes w.surroundings.joined ts := by
  cases hts : w.declaredTypes side f with
  | error e => simp [signature, hts, bind, Except.bind] at hs
  | ok ts => exact ⟨ts, rfl, signature_eq_ofList hts hs⟩

/-- Whether two functions compose. -/
def Composes (w : World) (f g : Value) : Prop := ∃ r, w.composable f g = .ok r ∧ r.isValid = true

theorem go_isValid {r r' : ValidationResult} {f : Value} {gs : List Value}
    (h : validateChain.go w r f gs = .ok r') :
    r'.isValid = true ↔ r.isValid = true ∧ List.IsChain w.Composes (f :: gs) := by
  induction gs generalizing r f with
  | nil =>
    obtain rfl : r = r' := by simpa [validateChain.go, pure, Except.pure] using h
    simp
  | cons g gs ih =>
    rw [validateChain.go] at h
    cases hq : w.composable f g with
    | error e => simp [hq, bind, Except.bind] at h
    | ok q =>
      have hgo : validateChain.go w (r.merge q none) g gs = .ok r' := by rwa [hq] at h
      rw [ih hgo, List.isChain_cons_cons]
      simp [Composes, hq, and_assoc]

/-- A chain is valid exactly if every two consecutive functions compose. -/
theorem validateChain_isValid {fs : List Value} {r : ValidationResult}
    (h : w.validateChain fs = .ok r) : r.isValid = true ↔ List.IsChain w.Composes fs := by
  match fs with
  | [] | [_] =>
    obtain rfl : .valid = r := by simpa [validateChain, pure, Except.pure] using h
    simp [ValidationResult.valid]
  | f :: g :: rest =>
    rw [go_isValid h]
    simp [ValidationResult.valid]

/-- A chain whose consecutive functions have a verdict has one itself. -/
theorem validateChain_ok {fs : List Value}
    (h : List.IsChain (fun f g => ∃ q, w.composable f g = .ok q) fs) :
    ∃ r, w.validateChain fs = .ok r := by
  have go : ∀ (gs : List Value) (f : Value) (r : ValidationResult),
      List.IsChain (fun f g => ∃ q, w.composable f g = .ok q) (f :: gs) →
        ∃ r', validateChain.go w r f gs = .ok r' := by
    intro gs
    induction gs with
    | nil => exact fun f r _ => ⟨r, rfl⟩
    | cons g gs ih =>
      intro f r hc
      rw [List.isChain_cons_cons] at hc
      obtain ⟨⟨q, hq⟩, hrest⟩ := hc
      obtain ⟨r', hr'⟩ := ih g (r.merge q none) hrest
      exact ⟨r', by rw [validateChain.go, hq]; exact hr'⟩
  match fs with
  | [] | [_] => exact ⟨.valid, rfl⟩
  | f :: g :: rest => exact go (g :: rest) f .valid h

end World

end FunctionObjects
