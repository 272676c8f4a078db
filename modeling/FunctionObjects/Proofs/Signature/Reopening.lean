import FunctionObjects.Proofs.Signature.Spelling
import FunctionObjects.Proofs.Signature.SameType
/-!
# Feeding a type back to itself

A declared output is kept whole while a declared input is opened position by position.  The two
treatments of one type agree except where a tuple has a single position: such a tuple is compared as
a whole with the type of its only position.  The condition below says exactly which types come back.
-/

namespace FunctionObjects

open Ty Signature

namespace Signature

/-- Whether a type fits a signature without being opened: tuples of one position pass it on to that
position, other tuples refuse it. -/
def takesWhole (k : Classes) (c : Ty) : Signature → Bool
  | single e => k.assignable c e
  | tuple _ [s] => takesWhole k c s
  | tuple _ _ => false

end Signature

namespace Classes

mutual

/-- Whether a type `c` fits the positions into which `e`, the same type, is opened. -/
def reopens (k : Classes) : Ty → Ty → Bool
  | c, .var _ (some b) => (ofFinal k b).takesWhole k c
  | c, .app h [t] => !k.isTupleForm h [t] || (ofTy k t).takesWhole k c
  | c, .app h ts => !k.isTupleForm h ts || reopensAll k c.args ts
  | _, _ => true

def reopensAll (k : Classes) : List Ty → List Ty → Bool
  | c :: cs, e :: es => reopens k c e && reopensAll k cs es
  | _, _ => true

end

/-- Whether a type `c` fits an input that states the types `ts`, the same type when joined: a single
type once it is opened, or else a tuple that can be opened at all and whose types are not changed by
standing in it. -/
def reopensList (k : Classes) (c : Ty) : List Ty → Bool
  | [t] => k.reopens c t.finalize
  | ts =>
    !ts.isEmpty && !ts.any (·.same .ellipsis) && ts.all (fun t => k.assignable t.asArgument t) &&
      k.reopensAll c.args ts

variable {k : Classes} {β : TypeVar → Option Ty}

/-- Positions for anything accept anything. -/
theorem acceptsAll_any (n : Nat) (cs : List Ty) :
    acceptsAll k .input (List.replicate n (.single .any)) cs = true := by
  induction n generalizing cs with
  | zero => rfl
  | succ n ih =>
    cases cs with
    | nil => rfl
    | cons c cs => simp [List.replicate_succ, acceptsAll, accepts, fits, ih]

/-- A candidate that opens into at most one position is taken as a whole. -/
theorem accepts_eq_takesWhole {c : Ty} (hc : ∀ us, k.elements? c = some us → us.length = 1) :
    ∀ s : Signature, s.accepts k .input [c] = s.takesWhole k c
  | .single e => rfl
  | .tuple _ [s] => by simp [accepts, acceptsAll, takesWhole, expand, accepts_eq_takesWhole hc s]
  | .tuple _ [] => by
    have hlen : (expand k 0 [c]).length ≠ 0 := by
      cases hel : k.elements? c <;> simp [expand, hel]
      intro hnil
      simpa [hnil] using hc _ hel
    simp [accepts, takesWhole, hlen]
  | .tuple _ (s :: s' :: ss) => by
    have hlen : (expand k (s :: s' :: ss).length [c]).length = 1 := by
      cases hel : k.elements? c <;> simp [expand, hel]
      exact hc _ hel
    rw [accepts, hlen]
    simp [takesWhole]

theorem isTupleForm_congr {h : Head} {us ts : List Ty} (hs : allSame us ts = true) :
    k.isTupleForm h us = k.isTupleForm h ts := by
  have hlen : us.isEmpty = ts.isEmpty := by
    rw [Bool.eq_iff_iff, List.isEmpty_iff_length_eq_zero, List.isEmpty_iff_length_eq_zero,
      allSame_length hs]
  unfold isTupleForm
  rw [hlen, any_ellipsis_congr hs]

/-- A signature that is open for anything accepts the type that it stands for. -/
theorem accepts_open {c t : Ty} {n : Nat}
    (hc : k.elements? c = some (List.replicate n .any)) :
    (open' t n).accepts k .input [c] = true := by
  by_cases hn : n = 1
  · subst hn
    simp [open', accepts, expand, acceptsAll, fits]
  · simp [open', accepts, expand, hn, hc, acceptsAll_any]

/-- A tuple of several positions opens a candidate of the same form. -/
theorem accepts_tuple {t : Ty} {parts : List Signature} {h : Head} {us : List Ty}
    (hform : k.isTupleForm h us = true) (hlen : us.length = parts.length)
    (hmany : parts.length ≠ 1) :
    (Signature.tuple t parts).accepts k .input [.app h us] = acceptsAll k .input parts us := by
  simp [accepts, expand, hmany, elements?_app hform, hlen]

/-- The shape of a type that is the same as a parameterized one, literal forms apart. -/
theorem same_app {c : Ty} {h : Head} {ts : List Ty} (hh : h ≠ .literal)
    (hs : c.same (.app h ts) = true) : ∃ us, c = .app h us ∧ allSame us ts = true := by
  cases c with
  | app h' us =>
    cases h' <;> cases h <;> simp_all [same]
  | _ => simp [same] at hs

theorem ne_literal_of_isTupleForm {h : Head} {ts : List Ty} (hform : k.isTupleForm h ts = true) :
    h ≠ .literal := by
  rintro rfl
  simp [isTupleForm] at hform

theorem accepts_single {c e : Ty} (hc : c.Uses β) (he : e.Uses β) (hs : c.same e = true) :
    (Signature.single e).accepts k .input [c] = true := assignable_of_same k hc he hs

theorem reopens_app {c : Ty} {h : Head} {ts : List Ty} (hmany : ts.length ≠ 1) :
    k.reopens c (.app h ts) = (!k.isTupleForm h ts || k.reopensAll c.args ts) := by
  match ts with
  | [] | _ :: _ :: _ => rw [reopens]; simp
  | [_] => simp at hmany

/-- The signature of a parameterized form that does not give its positions. -/
theorem accepts_ofTy_app {c : Ty} {h : Head} {ts : List Ty} (hform : k.isTupleForm h ts = false)
    (hc : c.Uses β) (he : (Ty.app h ts).Uses β) (hs : c.same (.app h ts) = true) :
    (ofTy k (.app h ts)).accepts k .input [c] = true := by
  cases h with
  | cls d =>
    cases hn : k.arity? d with
    | none => simpa [ofTy, hform, hn] using accepts_single hc he hs
    | some n =>
      obtain ⟨us, rfl, hus⟩ := same_app (by simp) hs
      have hel : k.elements? (.app (.cls d) us) = some (List.replicate n .any) := by
        simp [elements?, isTupleForm_congr hus, hform, hn]
      simpa [ofTy, hform, hn] using accepts_open hel
  | named a => simpa [ofTy, hform] using accepts_single hc he hs
  | literal => simpa [ofTy, hform] using accepts_single hc he hs

theorem reopens_app_of_not_isTupleForm {c : Ty} {h : Head} {ts : List Ty}
    (hform : k.isTupleForm h ts = false) : k.reopens c (.app h ts) = true := by
  match ts with
  | [_] | [] | _ :: _ :: _ => simp [reopens, hform]

mutual

/-- A type is accepted by its own opened form exactly if it reopens. -/
theorem accepts_ofTy : ∀ {c e : Ty}, c.Uses β → e.Uses β → c.same e = true →
    (ofTy k e).accepts k .input [c] = k.reopens c e
  | c, .var v Option.none, _, _, _ => by simp [ofTy, accepts, fits, reopens]
  | c, .var v (some b), hc, he, hs => by
    obtain ⟨b', rfl⟩ := same_var hs
    rw [ofTy, reopens]
    exact accepts_eq_takesWhole (by simp [elements?]) _
  | c, .cls d, hc, he, hs => by
    obtain rfl := same_cls_iff.mp hs
    cases hn : k.arity? d with
    | none => simpa [ofTy, reopens, hn] using accepts_single hc he hs
    | some n => simpa [ofTy, reopens, hn] using accepts_open (by simp [elements?, hn])
  | c, .app h ts, hc, he, hs => by
    cases hform : k.isTupleForm h ts with
    | false =>
      rw [accepts_ofTy_app hform hc he hs, reopens_app_of_not_isTupleForm hform]
    | true =>
      obtain ⟨us, rfl, hus⟩ := same_app (ne_literal_of_isTupleForm hform) hs
      have husForm : k.isTupleForm h us = true := (isTupleForm_congr hus).trans hform
      by_cases hone : ts.length = 1
      · obtain ⟨t, rfl⟩ := List.length_eq_one_iff.mp hone
        have hlen : ∀ vs, k.elements? (.app h us) = some vs → vs.length = 1 := by
          rw [elements?_app husForm]
          rintro _ ⟨⟩
          simpa using allSame_length hus
        rw [ofTy_of_isTupleForm hform, accepts_eq_takesWhole hlen]
        simp [ofTypes, takesWhole, reopens, hform]
      · rw [ofTy_of_isTupleForm hform, reopens_app hone, hform,
          accepts_tuple husForm (by simp [allSame_length hus]) (by simpa using hone),
          acceptsAll_ofTypes hc he hus]
        simp [args]
  | c, .any, hc, he, hs | c, .none, hc, he, hs | c, .ellipsis, hc, he, hs
  | c, .named _, hc, he, hs | c, .form _, hc, he, hs | c, .union .., hc, he, hs
  | c, .params _, hc, he, hs | c, .lit _, hc, he, hs | c, .forward _, hc, he, hs => by
    rw [ofTy, reopens]
    · exact accepts_single hc he hs
    all_goals simp

/-- The same position by position. -/
theorem acceptsAll_ofTypes : ∀ {us ts : List Ty}, UsesAll β us → UsesAll β ts →
    allSame us ts = true → acceptsAll k .input (ofTypes k ts) us = k.reopensAll us ts
  | [], [], _, _, _ => rfl
  | u :: us, t :: ts, hu, ht, hs => by
    simp only [allSame, Bool.and_eq_true] at hs
    rw [ofTypes, acceptsAll, reopensAll, accepts_ofTy hu.1 ht.1 hs.1,
      acceptsAll_ofTypes hu.2 ht.2 hs.2]
  | [], _ :: _, _, _, hs | _ :: _, [], _, _, hs => by simp [allSame] at hs

end

theorem ofTy_finalize {t : Ty} (ht : t.Uses β) : ofTy k t = ofTy k t.finalize := by
  cases t with
  | var v b =>
    cases b with
    | none => simp [ofTy, Ty.finalize]
    | some b => exact ofFinal_eq_ofTy ht.2.1
  | _ => rfl

/-- A single stated type accepts itself exactly if it reopens. -/
theorem accepts_ofTy_type {c t : Ty} (hc : c.Uses β) (ht : t.Uses β)
    (hs : c.same (ofTy k t).type = true) :
    (ofTy k t).accepts k .input [c] = k.reopens c t.finalize := by
  rw [ofTy_finalize ht] at hs ⊢
  rw [ofTy_type ht.isVar_finalize] at hs
  exact accepts_ofTy hc ht.finalize hs

/-- What a type becomes inside a tuple is accepted where the type itself is stated. -/
theorem accepts_asArgument {u t : Ty} (hu : u.Uses β) (ht : t.Uses β)
    (hs : u.same t.asArgument = true) :
    (ofTy k t).accepts k .input [u] = (k.assignable t.asArgument t && k.reopens u t) := by
  by_cases hsame : t.asArgument = t
  · rw [hsame] at hs ⊢
    rw [accepts_ofTy hu ht hs, assignable_of_same k ht ht (same_refl t), Bool.true_and]
  · -- only the two descriptors that a tuple changes are left, and both are single types
    obtain rfl | ⟨s, rfl⟩ : t = .none ∨ ∃ s, t = .lit (.str s) := by
      cases t with
      | none => exact .inl rfl
      | lit l => cases l <;> simp_all [asArgument]
      | _ => exact absurd rfl hsame
    · obtain rfl := same_cls_iff.mp hs
      simp [ofTy, accepts, fits, reopens, asArgument, noneType]
    · obtain rfl := same_forward_iff.mp hs
      simp [ofTy, accepts, fits, reopens, asArgument]

/-- The positions of a joined side accept the joined types one by one. -/
theorem acceptsAll_asArgument {us ts : List Ty} (hu : UsesAll β us) (ht : UsesAll β ts)
    (hs : allSame us (ts.map asArgument) = true) :
    acceptsAll k .input (ofTypes k ts) us =
      (ts.all (fun t => k.assignable t.asArgument t) && k.reopensAll us ts) := by
  induction ts generalizing us with
  | nil => cases us <;> simp [allSame, ofTypes, acceptsAll, reopensAll] at hs ⊢
  | cons t ts ih =>
    cases us with
    | nil => simp [allSame] at hs
    | cons u us =>
      simp only [List.map_cons, allSame, Bool.and_eq_true] at hs
      rw [ofTypes, acceptsAll, accepts_asArgument hu.1 ht.1 hs.1, ih hu.2 ht.2 hs.2,
        List.all_cons, reopensAll]
      ac_rfl

theorem any_ellipsis_asArgument (ts : List Ty) :
    (ts.map asArgument).any (·.same .ellipsis) = ts.any (·.same .ellipsis) := by
  have hone : ∀ t : Ty, t.asArgument.same .ellipsis = t.same .ellipsis := by
    intro t
    rw [Bool.eq_iff_iff, same_ellipsis_iff, same_ellipsis_iff]
    cases t with
    | lit l => cases l <;> simp [asArgument]
    | _ => simp [asArgument, noneType]
  simp [List.any_map, Function.comp_def, hone]

/-- A side accepts the type that it stands for exactly if its stated types come back. -/
theorem accepts_ofList {known : List (List Ty)} {c : Ty} {ts : List Ty} (hc : c.Uses β)
    (hts : ∀ t ∈ ts, t.Uses β) (hs : c.same (ofList k known ts).type = true) :
    (ofList k known ts).accepts k .input [c] = k.reopensList c ts := by
  by_cases hone : ts.length = 1
  · obtain ⟨t, rfl⟩ := List.length_eq_one_iff.mp hone
    exact accepts_ofTy_type hc (hts t (by simp)) hs
  · have hlist : k.reopensList c ts = (!ts.isEmpty && !ts.any (·.same .ellipsis) &&
        ts.all (fun t => k.assignable t.asArgument t) && k.reopensAll c.args ts) := by
      match ts with
      | [] | _ :: _ :: _ => rfl
      | [_] => simp at hone
    rw [ofList_of_length_ne_one known hone] at hs ⊢
    have hown : c.same (.app (.named .tuple) (ts.map asArgument)) = true := by
      rw [← hs, type]
      exact same_respelled (.refl c) (joined_respelled known [] (respelledAll_refl ts))
    obtain ⟨us, rfl, hus⟩ := same_app (by simp) hown
    have hform : k.isTupleForm (.named .tuple) us =
        (!ts.isEmpty && !ts.any (·.same .ellipsis)) := by
      rw [isTupleForm_congr hus, ← any_ellipsis_asArgument ts]
      simp [isTupleForm]
    have hparts : (ofTypes k ts).length ≠ 1 := by simpa using hone
    rw [hlist, ← hform]
    cases hopen : k.isTupleForm (.named .tuple) us with
    | true =>
      have hlen : us.length = (ofTypes k ts).length := by simpa using allSame_length hus
      rw [accepts_tuple hopen hlen hparts, acceptsAll_asArgument hc (usesAll_iff.mpr hts) hus]
      simp [args]
    | false =>
      have hel : k.elements? (.app (.named .tuple) us) = Option.none := by
        simp [elements?, hopen]
      simp [accepts, expand, hel, Ne.symm hone]

end Classes

namespace World

variable {w : World} {β : TypeVar → Option Ty}

/-- Where the declared output of one function is the declared input of another, the two compose
exactly if that type comes back through the stated input types.  A function that gives what it takes
can then be chained with itself any number of times, and otherwise not even twice.  The promises are
that both sides can be read and that type variables have one bound each. -/
theorem composable_same_type_iff {f g : Value} {out inp : Signature} {ts : List Ty}
    (hf : w.signature .output f = .ok out) (hg : w.signature .input g = .ok inp)
    (hts : w.declaredTypes .input g = .ok ts)
    (hout : out.type.Uses β) (hinp : ∀ t ∈ ts, t.Uses β)
    (hsame : allSame out.declared inp.declared = true) :
    (∃ r, w.composable f g = .ok r ∧
      (r.isValid = true ↔ w.classes.reopensList out.type ts = true)) ∧
    (g = f → ∀ n, ∃ r, w.validateChain (List.replicate n f) = .ok r ∧
      (r.isValid = true ↔ n < 2 ∨ w.classes.reopensList out.type ts = true)) := by
  obtain rfl := signature_eq_ofList hts hg
  have hwhole : out.type.same (ofList w.classes w.surroundings.joined ts).type = true := by
    simpa [declared, allSame] using hsame
  obtain ⟨r, hr, hvalid⟩ := composable_isValid hf hg
  have hiff : r.isValid = true ↔ w.classes.reopensList out.type ts = true := by
    rw [hvalid, declared, Classes.accepts_ofList hout hinp hwhole]
  refine ⟨⟨r, hr, hiff⟩, ?_⟩
  rintro rfl n
  have hverdicts : List.IsChain (fun f g => ∃ q, w.composable f g = .ok q)
      (List.replicate n g) := List.isChain_replicate_of_rel n ⟨r, hr⟩
  obtain ⟨q, hq⟩ := validateChain_ok hverdicts
  refine ⟨q, hq, ?_⟩
  have hself : w.Composes g g ↔ r.isValid = true := by simp [Composes, hr]
  rw [validateChain_isValid hq, ← hiff, ← hself]
  obtain _ | _ | n := n
  · simp
  · simp
  · constructor
    · intro hchain
      rw [List.replicate_succ, List.replicate_succ, List.isChain_cons_cons] at hchain
      exact .inr hchain.1
    · rintro (hn | hself)
      · omega
      · exact List.isChain_replicate_of_rel _ hself

/-- A state that holds one plain function from a type to itself, and no library. -/
def echoing (t : Ty) : World where
  heap := #[.routine ⟨"echo", [⟨"x", .standard, none, some t⟩], some t, .arg 0, none⟩]
  hierarchy := ⟨[], [], []⟩
  declarations := []
  sites := []
  registry := ⟨[], []⟩
  trace := []
  log := []
  clock := .none

/-- Pairs of a number and a pair. -/
def nestedPair : Ty :=
  .app (.cls .tuple) [.cls (.core "int"), .app (.named .tuple) [.cls (.core "str"), .any]]

/-- A function on nested pairs follows itself, here four times. -/
theorem chain_nestedPair : ∃ r,
    (echoing nestedPair).validateChain (List.replicate 4 (.ref 0)) = .ok r ∧ r.isValid = true := by
  let whole := ofTy (echoing nestedPair).classes nestedPair
  have hout : (echoing nestedPair).signature .output (.ref 0) = .ok whole := rfl
  have hinp : (echoing nestedPair).signature .input (.ref 0) = .ok whole := rfl
  have hts : (echoing nestedPair).declaredTypes .input (.ref 0) = .ok [nestedPair] := rfl
  have huses : nestedPair.Uses fun _ => Option.none := by simp [nestedPair, Uses, UsesAll]
  obtain ⟨r, hr, hvalid⟩ := (composable_same_type_iff hout hinp hts huses (by simpa using huses)
    (by rfl)).2 rfl 4
  exact ⟨r, hr, hvalid.mpr (.inr (by decide +kernel))⟩

/-- A tuple of one number. -/
def singleton : Ty := .app (.cls .tuple) [.cls (.core "int")]

/-- A tuple of one position does not come back: it is compared with what it holds. -/
theorem not_composable_singleton : ¬ ∀ (w : World) (f g : Value) (out inp : Signature),
    w.signature .output f = .ok out → w.signature .input g = .ok inp →
      allSame out.declared inp.declared = true → w.Composes f g := by
  intro h
  obtain ⟨r, hr, hvalid⟩ := h (echoing singleton) (.ref 0) (.ref 0) _ _ rfl rfl (by rfl)
  have hrefused : ((echoing singleton).composable (.ref 0) (.ref 0)).toOption.map
      (·.isValid) = some false := by decide +kernel
  simp [hr, Except.toOption, hvalid] at hrefused

end World

end FunctionObjects
