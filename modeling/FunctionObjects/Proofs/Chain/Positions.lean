import FunctionObjects.Function.Unpacked
import FunctionObjects.Proofs.Signature.Collecting
import FunctionObjects.Proofs.Signature.Reopening
import FunctionObjects.Proofs.State.Running
/-!
# Tuples of a number of positions

A check opens two kinds of tuple types: the classes that fix their positions, and plain tuples with
their elements listed.  Only objects of the first kind say how many positions they have.  A check that
passes has compared as many types as there are positions, so that a type that is none of plain tuples has a
class that fixes that many.
-/

namespace FunctionObjects

namespace Ty

/-- Whether a type is one of plain tuples. -/
def isPlainTuple (t : Ty) : Bool := t.originClass? == some .tuple

end Ty

namespace Classes

variable (k : Classes) {t : Ty} {n : Nat}

/-- The number of positions that the class of a tuple type fixes. -/
def positions? (t : Ty) : Option Nat :=
  if t.isPlainTuple then none else t.originClass?.bind k.arity?

/-- A type that a check can open, whose class fixes so many positions if it is not a plain tuple. -/
def IsTupleOf (t : Ty) (n : Nat) : Prop := t.isPlainTuple = true ∨ k.positions? t = some n

/-- A tuple class is given no arguments, or one for each position. -/
def ArgumentsMatch (t : Ty) : Prop :=
  ∀ n, k.positions? t = some n → t.args = [] ∨ t.args.length = n

variable {k}

/-- A type that opens and is not one of plain tuples has a class that fixes its positions; without
arguments each of them takes anything. -/
theorem elements?_fixed {es : List Ty} (h : k.elements? t = some es)
    (hplain : t.isPlainTuple = false) :
    ∃ n, k.positions? t = some n ∧ es = if t.args = [] then List.replicate n .any else t.args := by
  cases t with
  | cls c =>
    obtain ⟨n, hn, rfl⟩ : ∃ n, k.arity? c = some n ∧ List.replicate n .any = es := by
      simpa [elements?] using h
    exact ⟨n, by simp [positions?, hplain, Ty.originClass?, hn], by simp [Ty.args]⟩
  | app head ts =>
    cases head with
    | cls c =>
      have hc : c ≠ .tuple := by simpa [Ty.isPlainTuple, Ty.originClass?] using hplain
      cases hn : k.arity? c with
      | none => simp [elements?, isTupleForm, hn, hc] at h
      | some n =>
        refine ⟨n, by simp [positions?, hplain, Ty.originClass?, hn], ?_⟩
        cases ts with
        | nil => simpa [elements?, isTupleForm, hn, Ty.args] using h.symm
        | cons t ts => simpa [elements?, isTupleForm, hn, Ty.args] using h.symm
    | named a =>
      have ha : a ≠ .tuple := by rintro rfl; simp [Ty.isPlainTuple, Ty.originClass?] at hplain; exact hplain rfl
      simp [elements?, isTupleForm, ha] at h
    | literal => simp [elements?, isTupleForm] at h
  | _ => simp [elements?] at h

/-- A type with matching arguments opens into as many positions as its objects have. -/
theorem elements?_isTupleOf {es : List Ty} (h : k.elements? t = some es)
    (hargs : k.ArgumentsMatch t) : k.IsTupleOf t es.length := by
  cases hplain : t.isPlainTuple with
  | true => exact .inl hplain
  | false =>
    obtain ⟨n, hn, rfl⟩ := elements?_fixed h hplain
    refine .inr ?_
    split
    · simpa using hn
    · rename_i hne
      rw [hn, (hargs n hn).resolve_left hne]

end Classes

open Signature

namespace Classes

variable {k : Classes} {s : Signature} {t : Ty}

/-- Wherever a signature has other than one position, a type that is none of plain tuples fixes its
positions.  They are as many if the type is given no arguments, or one for each of them. -/
def Supplies (k : Classes) (t : Ty) (s : Signature) : Prop :=
  s.classes.length ≠ 1 → t.isPlainTuple = false →
    ∃ n, k.positions? t = some n ∧ (k.ArgumentsMatch t → s.classes.length = n)

theorem supplies_of_elements? {es : List Ty} (h : k.elements? t = some es)
    (hlength : es.length = s.classes.length) : k.Supplies t s := by
  intro _ hplain
  obtain ⟨n, hn, -⟩ := elements?_fixed h hplain
  refine ⟨n, hn, fun hargs => ?_⟩
  rcases elements?_isTupleOf h hargs with htuple | hpositions
  · simp [htuple] at hplain
  · rw [hn, Option.some.injEq] at hpositions
    rw [hpositions, hlength]

/-- What a signature accepts supplies its positions. -/
theorem supplies_of_accepts (h : s.accepts k .input [t] = true) : k.Supplies t s := by
  intro hmany
  cases s with
  | single u => exact absurd rfl hmany
  | tuple u parts =>
    have hparts : parts.length ≠ 1 := by simpa [Signature.classes] using hmany
    have hexpand : (expand k parts.length [t]).length = parts.length := by
      simp only [accepts, Bool.and_eq_true, beq_iff_eq] at h
      exact h.1
    rw [expand, if_neg hparts] at hexpand
    cases hes : k.elements? t with
    | none => exact absurd (by simpa [hes] using hexpand.symm) hparts
    | some es =>
      refine supplies_of_elements? hes ?_ hmany
      simpa [hes, Signature.classes] using hexpand

theorem elements?_ofFinal {u : Ty} {parts : List Signature} (h : ofFinal k t = .tuple u parts) :
    ∃ es, k.elements? u = some es ∧ es.length = parts.length := by
  unfold ofFinal at h
  split at h
  · split at h
    · rename_i c n hn
      obtain ⟨rfl, rfl⟩ := Signature.tuple.inj h
      exact ⟨List.replicate n .any, by simp [elements?, hn], by simp⟩
    · cases h
  · split at h
    · rename_i hd ts hform
      obtain ⟨rfl, rfl⟩ := Signature.tuple.inj h
      exact ⟨ts, by simp [elements?, hform], by simp⟩
    · rename_i hd ts hform
      split at h
      · split at h
        · rename_i c n hn
          obtain ⟨rfl, rfl⟩ := Signature.tuple.inj h
          exact ⟨List.replicate n .any, by simp [elements?, hform, hn], by simp⟩
        · cases h
      · cases h
  · cases h

/-- A tuple signature of a single type is one of a type that opens. -/
theorem elements?_ofTy {u : Ty} {parts : List Signature} (h : ofTy k t = .tuple u parts) :
    ∃ es, k.elements? u = some es ∧ es.length = parts.length := by
  cases t with
  | var v b =>
    cases b with
    | none => cases h
    | some b => exact elements?_ofFinal h
  | _ =>
    rw [← ofFinal_eq_ofTy rfl] at h
    exact elements?_ofFinal h

/-- A stated side supplies its own positions. -/
theorem supplies_ofList (known : List (List Ty)) (ts : List Ty) :
    k.Supplies (ofList k known ts).type (ofList k known ts) := by
  match ts with
  | [t] =>
    cases hs : ofTy k t with
    | single u => exact fun hmany => absurd (by rw [ofList, hs]; rfl) hmany
    | tuple u parts =>
      obtain ⟨es, hes, hlength⟩ := elements?_ofTy hs
      rw [ofList, hs]
      exact supplies_of_elements? hes (by simpa [Signature.classes] using hlength)
  | [] | _ :: _ :: _ => exact fun _ hplain => by cases hplain

end Classes

end FunctionObjects
