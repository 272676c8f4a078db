import Mathlib.Logic.Relation
import FunctionObjects.Call.Method
import FunctionObjects.Proofs.Construction.Stock
import FunctionObjects.Proofs.Hierarchy.Library
import FunctionObjects.Proofs.Signature.Delegating
import FunctionObjects.Proofs.Signature.Reopening
import FunctionObjects.Proofs.Signature.Reporting
/-!
# Wrappers pass signatures on

A wrapper turns the signature of its function into one type and opens that type again.  For a single
stated type the same signature comes back.  Several stated types are joined to a tuple type, in which
the class of nothing stands in place of the value; candidates do not tell the two apart, nor do messages.
If the types have been joined before in another spelling, the tuple type has that spelling, and so have
the messages of the wrapper: the same positions fail for the same reasons, in other words.
-/

namespace FunctionObjects

open Signature

namespace Ty

/-- Whether a type says by itself what values it has.  The mark for any number of positions and a bare
text do not, and a type variable does unless its bound is a variable again. -/
def isDescriptor : Ty → Bool
  | .ellipsis => false
  | .lit (.str _) => false
  | .var _ (some b) => !b.isVar
  | _ => true

variable {t : Ty}

theorem isDescriptor_asArgument (h : t.isDescriptor = true) : t.asArgument = t ∨ t = .none := by
  cases t with
  | none => exact .inr rfl
  | lit l => cases l <;> simp_all [isDescriptor, asArgument]
  | _ => exact .inl rfl

theorem isDescriptor_respelled {t' : Ty} (h : t.Respelled t') : t'.isDescriptor = t.isDescriptor := by
  cases h with
  | bound _ hb => simp only [isDescriptor, hb.isVar]
  | _ => rfl

end Ty

/-! ### Messages in two spellings -/

namespace Signature

/-- Whether a position fails for the same reason, with the types of the position spelled differently. -/
inductive Failure.Respelled : Failure → Failure → Prop
  | type {own own' : Ty} (candidate : Ty) :
      own.Respelled own' → Failure.Respelled (.type own candidate) (.type own' candidate)
  | count {expected expected' : List Ty} (got : List Ty) : List.Forall₂ Ty.Respelled expected expected' →
      Failure.Respelled (.count expected got) (.count expected' got)

/-- Whether two results come to one verdict and report the same positions, for the same reasons, in the same
order, in messages that differ at most in how unions and literals are spelled. -/
structure ReportsAlike (side : Side) (r r' : ValidationResult) : Prop where
  isValid : r'.isValid = r.isValid
  failures : ∃ fs fs' : List (List Nat × Failure), r = fs.foldl (report side) .valid ∧
    r' = fs'.foldl (report side) .valid ∧
      List.Forall₂ (fun p p' => p'.1 = p.1 ∧ p.2.Respelled p'.2) fs fs'

variable {k : Classes} {side : Side} {r : ValidationResult}

mutual

/-- A signature in another spelling meets the same positions as failing. -/
theorem failures_respelled : ∀ {s s' : Signature}, Respelled s s' → ∀ (path : List Nat) (cs : List Ty),
    List.Forall₂ (fun p p' => p'.1 = p.1 ∧ p.2.Respelled p'.2) (failures k side s path cs)
      (failures k side s' path cs)
  | .single t, _, .single ht, path, [c] => by
    rw [failures, failures, fits_respelled ht (.refl c)]
    split
    · exact .nil
    · exact .cons ⟨rfl, .type c ht⟩ .nil
  | .single t, _, .single ht, path, [] => .cons ⟨rfl, .count [] (.cons ht .nil)⟩ .nil
  | .single t, _, .single ht, path, c :: c' :: cs =>
    .cons ⟨rfl, .count (c :: c' :: cs) (.cons ht .nil)⟩ .nil
  | .tuple t parts, _, .tuple ht hparts, path, cs => by
    rw [failures, failures, ← hparts.length_eq]
    split
    · exact failuresAll_respelled hparts path 0 _
    · refine .cons ⟨rfl, .count _ ?_⟩ .nil
      rw [List.forall₂_map_left_iff, List.forall₂_map_right_iff]
      exact hparts.imp fun _ _ h => h.type

theorem failuresAll_respelled : ∀ {ss ss' : List Signature}, List.Forall₂ Respelled ss ss' →
    ∀ (path : List Nat) (i : Nat) (cs : List Ty),
      List.Forall₂ (fun p p' => p'.1 = p.1 ∧ p.2.Respelled p'.2) (failuresAll k side ss path i cs)
        (failuresAll k side ss' path i cs)
  | [], _, .nil, _, _, _ => by
    rw [failuresAll]
    · exact .nil
    · simp
  | s :: ss, _, .cons hs hss, path, i, [] => by simp [failuresAll]
  | s :: ss, _, .cons hs hss, path, i, c :: cs =>
    List.rel_append (failures_respelled hs (path ++ [i]) [c]) (failuresAll_respelled hss path (i + 1) cs)

end

/-- A signature in another spelling reports alike. -/
theorem Respelled.reportsAlike {s s' : Signature} (h : Respelled s s') (cs : List Ty) :
    ReportsAlike side (s.assignable k side cs) (s'.assignable k side cs) where
  isValid := by rw [assignable_isValid, assignable_isValid, accepts_respelled h (Ty.respelledAll_refl cs)]
  failures := ⟨_, _, collect_eq_foldl s [] cs .valid, collect_eq_foldl s' [] cs .valid,
    failures_respelled h [] cs⟩

end Signature

namespace Classes

open Ty

variable {k : Classes} {t : Ty} {ts : List Ty}

theorem canonical_noneType (hk : k.unboxed .noneType = .noneType) :
    k.canonical .noneType = k.canonical .none := by
  simp only [canonical, Ty.noneType, hk]

/-- What fits the value that stands for the class of nothing fits the class. -/
theorem assignable_noneType_right (hk : k.unboxed .noneType = .noneType) (c : Ty) :
    k.assignable c .noneType = k.assignable c .none := by
  induction hn : sizeOf c using Nat.strongRecOn generalizing c with
  | _ n ih =>
    subst hn
    have hmembers : c.finalize.args.all (k.assignable · .noneType) =
        c.finalize.args.all (k.assignable · .none) := by
      rw [Bool.eq_iff_iff, List.all_eq_true, List.all_eq_true]
      refine forall₂_congr fun m hm => ?_
      have hlt : sizeOf m < sizeOf c :=
        Nat.lt_of_lt_of_le (sizeOf_lt_of_mem_args hm) (sizeOf_finalize_le c)
      rw [ih _ hlt m rfl]
    rw [assignable_eq, assignable_eq k c .none]
    have hshape : (Ty.noneType.finalize = .noneType ∧ Ty.none.finalize = .none) ∧
        (Ty.noneType.isObject = false ∧ Ty.none.isObject = false) := ⟨⟨rfl, rfl⟩, by decide, rfl⟩
    simp only [hshape, hmembers, canonical_noneType hk]
    rfl

/-- The class of nothing fits what the value that stands for it fits. -/
theorem assignable_noneType_left (hk : k.unboxed .noneType = .noneType) (e : Ty) :
    k.assignable .noneType e = k.assignable .none e := by
  induction hn : sizeOf e using Nat.strongRecOn generalizing e with
  | _ n ih =>
    subst hn
    have hmembers : e.finalize.args.any (k.assignable .noneType ·) =
        e.finalize.args.any (k.assignable .none ·) := by
      rw [Bool.eq_iff_iff, List.any_eq_true, List.any_eq_true]
      refine exists_congr fun m => and_congr_right fun hm => ?_
      have hlt : sizeOf m < sizeOf e :=
        Nat.lt_of_lt_of_le (sizeOf_lt_of_mem_args hm) (sizeOf_finalize_le e)
      rw [ih _ hlt m rfl]
    rw [assignable_eq, assignable_eq k .none e]
    have hshape : Ty.noneType.finalize = .noneType ∧ Ty.none.finalize = .none := ⟨rfl, rfl⟩
    simp only [hshape, hmembers, canonical_noneType hk]
    rfl

/-- Types with one name that fit alike collect the same messages. -/
theorem collect_single_congr {side : Side} {a b : Ty} (hfits : fits k side a = fits k side b)
    (hname : a.name = b.name) (path : List Nat) (cs : List Ty) (r : ValidationResult) :
    collect k side (.single a) path cs r = collect k side (.single b) path cs r := by
  have hlisted : listed [a] = listed [b] := by
    rw [listed, listed, List.map_singleton, List.map_singleton, hname]
  have hmessage : ∀ c, typeMessage side path a c = typeMessage side path b c := by
    intro c
    unfold typeMessage
    rw [hname]
  have hcount : countMessage [a] cs = countMessage [b] cs := by
    unfold countMessage
    rw [hlisted, List.length_singleton, List.length_singleton]
  unfold collect
  split
  · rw [hfits, hmessage]
  · rw [hcount]

/-- A type is opened inside a tuple as it is opened alone, but for the value that stands for the class of
nothing. -/
theorem ofTy_asArgument (hs : k.arity? .noneType = Option.none) (h : t.isDescriptor = true) :
    ofTy k t.asArgument = ofTy k t ∨
      ofTy k t.asArgument = .single .noneType ∧ ofTy k t = .single .none := by
  rcases isDescriptor_asArgument h with heq | rfl
  · exact .inl (by rw [heq])
  · exact .inr ⟨by simp [asArgument, Ty.noneType, ofTy, hs], rfl⟩

/-- What a tuple changes leaves no trace in a single position. -/
theorem collect_asArgument (hk : k.unboxed .noneType = .noneType)
    (hs : k.arity? .noneType = Option.none) (h : t.isDescriptor = true) (side : Side)
    (path : List Nat) (cs : List Ty) (r : ValidationResult) :
    collect k side (ofTy k t.asArgument) path cs r = collect k side (ofTy k t) path cs r := by
  rcases ofTy_asArgument hs h with heq | ⟨hclass, hvalue⟩
  · rw [heq]
  · have hfits : fits k side .noneType = fits k side .none := by
      funext c
      cases side with
      | input => exact assignable_noneType_right hk c
      | output => exact assignable_noneType_left hk c
    rw [hclass, hvalue]
    exact collect_single_congr hfits rfl path cs r

theorem name_type_asArgument (hs : k.arity? .noneType = Option.none) (h : t.isDescriptor = true) :
    (ofTy k t.asArgument).type.name = (ofTy k t).type.name := by
  rcases ofTy_asArgument hs h with heq | ⟨hclass, hvalue⟩
  · rw [heq]
  · rw [hclass, hvalue]
    rfl

/-- The same for all positions, one after the other. -/
theorem collectAll_asArgument (hk : k.unboxed .noneType = .noneType) (hs : k.arity? .noneType = Option.none)
    (h : ∀ t ∈ ts, t.isDescriptor = true) (side : Side) (path : List Nat) (i : Nat) (cs : List Ty)
    (r : ValidationResult) :
    collectAll k side (ofTypes k (ts.map asArgument)) path i cs r =
      collectAll k side (ofTypes k ts) path i cs r := by
  induction ts generalizing i cs r with
  | nil => rfl
  | cons t ts ih =>
    cases cs with
    | nil => simp only [List.map_cons, ofTypes, collectAll]
    | cons c cs =>
      simp only [List.map_cons, ofTypes, collectAll]
      rw [collect_asArgument hk hs (h t (by simp)), ih fun u hu => h u (by simp [hu])]

theorem countMessage_asArgument (hs : k.arity? .noneType = Option.none)
    (h : ∀ t ∈ ts, t.isDescriptor = true) (got : List Ty) :
    countMessage ((ofTypes k (ts.map asArgument)).map type) got =
      countMessage ((ofTypes k ts).map type) got := by
  have hnames : ((ofTypes k (ts.map asArgument)).map type).map Ty.name =
      ((ofTypes k ts).map type).map Ty.name := by
    induction ts with
    | nil => rfl
    | cons t ts ih =>
      simp only [List.map_cons, ofTypes]
      rw [name_type_asArgument hs (h t (by simp)), ih fun u hu => h u (by simp [hu])]
  have hlisted : listed ((ofTypes k (ts.map asArgument)).map type) = listed ((ofTypes k ts).map type) := by
    rw [listed, hnames, listed]
  unfold countMessage
  rw [hlisted, List.length_map, List.length_map, ofTypes_length, ofTypes_length, List.length_map]

theorem isVar_ofTy_type (h : t.isDescriptor = true) : (ofTy k t).type.isVar = false := by
  cases hv : t.isVar with
  | false => rw [ofTy_type hv, hv]
  | true =>
    match t, h with
    | .var _ Option.none, _ => rfl
    | .var _ (some b), h =>
      have hb : b.isVar = false := by simpa [isDescriptor] using h
      rw [ofTy, ofFinal_eq_ofTy hb, ofTy_type hb, hb]

/-- Opening a type once more changes nothing. -/
theorem ofTy_ofTy_type (h : t.isDescriptor = true) : ofTy k (ofTy k t).type = ofTy k t := by
  cases hv : t.isVar with
  | false => rw [ofTy_type hv]
  | true =>
    match t, h with
    | .var _ Option.none, _ => rfl
    | .var _ (some b), h =>
      have hb : b.isVar = false := by simpa [isDescriptor] using h
      rw [ofTy, ofFinal_eq_ofTy hb, ofTy_type hb]

/-- The type for which a side stands is no type variable. -/
theorem isVar_ofList_type (known : List (List Ty)) (h : ∀ t ∈ ts, t.isDescriptor = true) :
    (ofList k known ts).type.isVar = false := by
  by_cases hone : ts.length = 1
  · obtain ⟨t, rfl⟩ := List.length_eq_one_iff.mp hone
    exact isVar_ofTy_type (h t (by simp))
  · rw [ofList_of_length_ne_one known hone]
    rfl

/-- Types that are joined and opened again give the answers of the spelling in which they are joined. -/
theorem assignable_ofTy_joined {known : List (List Ty)} (hk : k.unboxed .noneType = .noneType)
    (hs : k.arity? .noneType = Option.none) (hne : ts ≠ []) (h : ∀ t ∈ ts, t.isDescriptor = true)
    (side : Side) (cs : List Ty) :
    (ofTy k (Signature.joined known ts)).assignable k side cs =
      (Signature.tuple (Signature.joined known ts) (ofTypes k (spelling known ts))).assignable k side cs := by
  have hspelled := respelled_spelling known ts
  have hdescr : ∀ t ∈ spelling known ts, t.isDescriptor = true := by
    intro t ht
    obtain ⟨u, hu, htu⟩ := exists_of_mem_left hspelled ht
    rw [← isDescriptor_respelled htu]
    exact h u hu
  have hsome : spelling known ts ≠ [] := by
    intro hnil
    rw [hnil, List.forall₂_nil_left_iff] at hspelled
    exact hne hspelled
  have hnoMark : ((spelling known ts).map asArgument).any (·.same .ellipsis) = false := by
    rw [any_ellipsis_asArgument, List.any_eq_false]
    intro t ht hmark
    obtain rfl := same_ellipsis_iff.mp hmark
    exact absurd (hdescr _ ht) (by decide)
  have hform : k.isTupleForm (.named .tuple) ((spelling known ts).map asArgument) = true := by
    simp [isTupleForm, hsome, -List.any_map, hnoMark]
  rw [Signature.joined, ofTy_of_isTupleForm hform, Signature.assignable, Signature.assignable, collect,
    collect]
  simp only [ofTypes_length, List.length_map, countMessage_asArgument hs hdescr,
    collectAll_asArgument hk hs hdescr]

/-- A side that is turned into one type and opened again gives the answers of its own signature, in some
spelling; and in its own spelling if that is the one in which its types are joined. -/
theorem exists_reopened (known : List (List Ty)) (hk : k.unboxed .noneType = .noneType)
    (hs : k.arity? .noneType = Option.none) (hne : ts ≠ []) (h : ∀ t ∈ ts, t.isDescriptor = true) :
    ∃ sig, Signature.Respelled (ofList k known ts) sig ∧
      (ts.length = 1 ∨ spelling known ts = ts → ofList k known ts = sig) ∧ ∀ side cs,
        (ofTy k (ofList k known ts).type).assignable k side cs = sig.assignable k side cs := by
  by_cases hone : ts.length = 1
  · obtain ⟨t, rfl⟩ := List.length_eq_one_iff.mp hone
    refine ⟨ofTy k t, ofTy_respelled (.refl t), fun _ => rfl, fun side cs => ?_⟩
    rw [ofList, ofTy_ofTy_type (h t (by simp))]
  · rw [ofList_of_length_ne_one known hone]
    refine ⟨.tuple (Signature.joined known ts) (ofTypes k (spelling known ts)), .tuple (.refl _) ?_, ?_,
      assignable_ofTy_joined hk hs hne h⟩
    · exact forall₂_ofTypes (respelledAll_symm (respelled_spelling known ts)) fun _ _ _ => ofTy_respelled
    · rintro (hlength | hspelling)
      · exact absurd hlength hone
      · rw [hspelling]

end Classes

namespace World

variable {w : World} {f u v : Value} {s : Side}

/-- Whether a value is a chain of some functions. -/
def IsChainOf (w : World) (v : Value) (fs : List Value) : Prop :=
  ∃ r o fields x, v = .ref r ∧
    w.heap[r]? = some (.object LibraryClass.functionComposite.className o fields) ∧
    fields.lookup "functions" = some x ∧ w.sequence? x = some fs

/-- Whether a value is the negation of a predicate. -/
def IsNegationOf (w : World) (v p : Value) : Prop :=
  ∃ r o fields, v = .ref r ∧ w.heap[r]? = some (.object LibraryClass.negation.className o fields) ∧
    fields.lookup "predicate" = some p

/-- A wrapper that has a side from its function: a chain that starts with it or ends with it, or its
negation. -/
inductive Wraps (w : World) : Side → Value → Value → Prop
  | first {f v : Value} {rest : List Value} : w.IsChainOf v (f :: rest) → w.Wraps .input f v
  | last {f v : Value} {front : List Value} : w.IsChainOf v (front ++ [f]) → w.Wraps .output f v
  | negated {f v : Value} : w.IsNegationOf v f → w.Wraps .input f v

theorem memberIn?_of_head? {c : ClassName} {cs : List ClassName} {name : String} {k : LibraryClass}
    {m : LibraryMember} (hcs : cs.head? = some c) (hc : LibraryClass.ofClassName? c = some k)
    (hm : k.member? name = some m) : ∃ rest, w.memberIn? name cs = some (.library k m, rest) := by
  cases cs with
  | nil => cases hcs
  | cons d ds =>
    obtain rfl := Option.some.inj hcs
    exact ⟨ds, by simp [memberIn?, ownMember?, hc, hm]⟩

/-- What a class of the library defines is found first for the class itself. -/
theorem member?_of_head? {k : LibraryClass} {name : String} {m : LibraryMember}
    (hk : (w.hierarchy.mro k.className).head? = some k.className) (hm : k.member? name = some m) :
    w.member? k.className name = some (.library k m) := by
  obtain ⟨rest, hrest⟩ := memberIn?_of_head? (w := w) hk (LibraryClass.ofClassName?_className k) hm
  rw [member?, hrest]
  rfl

theorem IsChainOf.functionsOf {fs : List Value} (h : w.IsChainOf v fs) : w.functionsOf v = fs := by
  obtain ⟨r, o, fields, x, rfl, hcell, hx, hfs⟩ := h
  simp [World.functionsOf, fieldOf, attributes, cell?, hcell, hx, hfs]

/-- A chain takes its input from its first function. -/
theorem IsChainOf.takenFrom?_input {rest : List Value} (hw : w.Regular)
    (h : w.IsChainOf v (f :: rest)) : w.takenFrom? .input v = some f := by
  have hfs := h.functionsOf
  obtain ⟨r, o, fields, x, rfl, hcell, -⟩ := h
  have hclass : w.classOf (.ref r) = LibraryClass.functionComposite.className := by
    simp [classOf, hcell]
  have hmember : w.member? LibraryClass.functionComposite.className "input_types" =
      some (.library .functionComposite (.property .compositeInput)) := member?_of_head? hw.chain rfl
  simp [takenFrom?, hclass, Side.attribute, Side.name, hmember, hfs]

/-- A chain takes its output from its last function. -/
theorem IsChainOf.takenFrom?_output {front : List Value} (hw : w.Regular)
    (h : w.IsChainOf v (front ++ [f])) : w.takenFrom? .output v = some f := by
  have hfs := h.functionsOf
  obtain ⟨r, o, fields, x, rfl, hcell, -⟩ := h
  have hclass : w.classOf (.ref r) = LibraryClass.functionComposite.className := by
    simp [classOf, hcell]
  have hmember : w.member? LibraryClass.functionComposite.className "output_types" =
      some (.library .functionComposite (.property .compositeOutput)) := member?_of_head? hw.chain rfl
  simp [takenFrom?, hclass, Side.attribute, Side.name, hmember, hfs]

theorem takenFrom?_of_wraps (hw : w.Regular) (h : w.Wraps s f v) (hf : f.isNone = false) :
    w.takenFrom? s v = some f := by
  cases h with
  | first h => exact h.takenFrom?_input hw
  | last h => exact h.takenFrom?_output hw
  | negated h =>
    obtain ⟨r, o, fields, rfl, hcell, hp⟩ := h
    have hclass : w.classOf (.ref r) = LibraryClass.negation.className := by simp [classOf, hcell]
    have hmember : w.member? LibraryClass.negation.className "input_types" =
        some (.library .negation (.property .negatedInput)) := member?_of_head? hw.negation rfl
    simp [takenFrom?, hclass, Side.attribute, Side.name, hmember, fieldOf, attributes, cell?, hcell,
      hp, hf]

theorem isNone_of_wraps (h : w.Wraps s f v) : v.isNone = false := by
  cases h with
  | first h | last h =>
    obtain ⟨r, o, fields, x, rfl, -⟩ := h
    rfl
  | negated h =>
    obtain ⟨r, o, fields, rfl, -⟩ := h
    rfl

/-- Whatever has types on a side is something. -/
theorem isNone_of_declaredTypes {ts : List Ty} (h : w.declaredTypes s f = .ok ts) :
    f.isNone = false := by
  cases hf : f.isNone with
  | false => rfl
  | true => simp [declaredTypes, typesWithin, recoveredTypes, hf, bind, Except.bind] at h

/-- Whether a function says what values a side has, if it has types there at all. -/
def Describes (w : World) (s : Side) (f : Value) : Prop :=
  ∀ ts, w.declaredTypes s f = .ok ts → ts ≠ [] ∧ ∀ t ∈ ts, t.isDescriptor = true

/-- Whether a value takes a side from a function. -/
def Takes (w : World) (s : Side) (f v : Value) : Prop := w.takenFrom? s v = some f

/-- However many wrappers there are, the signature is that of the type for which the innermost function
stands. -/
theorem signature_of_takes (h : Relation.TransGen (w.Takes s) f v) (hf : w.Describes s f) :
    w.signature s v = (fun t => ofTy w.classes t.type) <$> w.signature s f := by
  induction h with
  | single htakes => exact signature_of_takenFrom? htakes
  | tail _ htakes ih =>
    rw [signature_of_takenFrom? htakes, ih]
    cases hs : w.signature s f with
    | error e => rfl
    | ok t =>
      obtain ⟨ts, hts, rfl⟩ := exists_declaredTypes hs
      have hvar := Classes.isVar_ofList_type (k := w.classes) w.surroundings.joined (hf ts hts).2
      simp only [Functor.map, Except.map, Classes.ofTy_type hvar]

/-- The type for which a wrapper stands is that for which the innermost function stands. -/
theorem declared_of_takes (h : Relation.TransGen (w.Takes s) f v) (hf : w.Describes s f) :
    Signature.declared <$> w.signature s v = Signature.declared <$> w.signature s f := by
  rw [signature_of_takes h hf]
  cases hs : w.signature s f with
  | error e => rfl
  | ok t =>
    obtain ⟨ts, hts, rfl⟩ := exists_declaredTypes hs
    have hvar := Classes.isVar_ofList_type (k := w.classes) w.surroundings.joined (hf ts hts).2
    simp only [Functor.map, Except.map, declared, Classes.ofTy_type hvar]

/-- What has been joined before changes neither what is described nor what is taken. -/
theorem Describes.recalling (hf : w.Describes s f) (known : List (List Ty)) :
    (w.recalling known).Describes s f := by
  intro ts hts
  have hspelled := w.statesRespelled_recalling known s f
  rw [StatesRespelled, hts] at hspelled
  obtain ⟨us, hus, hall⟩ := hspelled.exists_left
  obtain ⟨hne, hdescr⟩ := hf us hus
  refine ⟨?_, fun t ht => ?_⟩
  · rintro rfl
    exact hne (List.forall₂_nil_right_iff.mp hall)
  · obtain ⟨u, hu, hut⟩ := Ty.exists_of_mem_right hall ht
    rw [Ty.isDescriptor_respelled hut]
    exact hdescr u hu

theorem takes_recalling (known : List (List Ty)) : (w.recalling known).Takes = w.Takes := by
  funext s f v
  rw [Takes, Takes, takenFrom?_recalling]

/-- A value that takes a side from a function, perhaps through others, reports alike, whatever has been
joined before it is asked. -/
theorem check_of_takes (hw : w.Regular) (h : Relation.TransGen (w.Takes s) f v)
    (hf : w.Describes s f) (known : List (List Ty)) (cs : List Ty) :
    ExceptRel (ReportsAlike s) (w.check s f cs) ((w.recalling known).check s v cs) := by
  have hspelled : ExceptRel Signature.Respelled (w.signature s f) ((w.recalling known).signature s f) :=
    (w.statesRespelled_recalling known s f).signature rfl
  rw [← takes_recalling known] at h
  rw [check, check, signature_of_takes h (hf.recalling known)]
  cases hs : (w.recalling known).signature s f with
  | error e =>
    rw [hs] at hspelled
    rw [hspelled.eq_error]
    exact .error e
  | ok t =>
    rw [hs] at hspelled
    obtain ⟨own, hown, hfirst⟩ := hspelled.exists_left
    obtain ⟨ts, hts, rfl⟩ := exists_declaredTypes hs
    obtain ⟨hne, hdescr⟩ := hf.recalling known ts hts
    obtain ⟨sig, hsig, -, hsame⟩ := Classes.exists_reopened known hw.nothing hw.single hne hdescr
    have hreports : ReportsAlike s _ _ := (hfirst.trans hsig).reportsAlike (k := w.classes) cs
    rw [← hsame] at hreports
    rw [hown]
    exact .ok hreports

/-- In the spelling in which the types of the function are joined, it gives the same result. -/
theorem check_eq_of_takes (hw : w.Regular) (h : Relation.TransGen (w.Takes s) f v)
    (hf : w.Describes s f) (hspelling : ∀ ts, w.declaredTypes s f = .ok ts →
      ts.length = 1 ∨ Ty.spelling w.surroundings.joined ts = ts) (cs : List Ty) :
    w.check s v cs = w.check s f cs := by
  rw [check, check, signature_of_takes h hf]
  cases hs : w.signature s f with
  | error e => rfl
  | ok t =>
    obtain ⟨ts, hts, rfl⟩ := exists_declaredTypes hs
    obtain ⟨hne, hdescr⟩ := hf ts hts
    obtain ⟨sig, -, hown, hsame⟩ := Classes.exists_reopened w.surroundings.joined hw.nothing
      hw.single hne hdescr
    obtain rfl := hown (hspelling ts hts)
    simp only [Functor.map, Except.map, bind, Except.bind, pure, Except.pure, hsame]

/-- Wrappers of something take the side from it. -/
theorem takes_of_wraps (hw : w.Regular) (h : Relation.TransGen (w.Wraps s) f v)
    (hf : f.isNone = false) : Relation.TransGen (w.Takes s) f v := by
  induction h with
  | single hwraps => exact .single (takenFrom?_of_wraps hw hwraps hf)
  | tail hinner hwraps ih =>
    refine ih.tail (takenFrom?_of_wraps hw hwraps ?_)
    cases hinner with
    | single h | tail _ h => exact isNone_of_wraps h

/-- A wrapper checks types as the function in it does, however deep the function is wrapped: a chain checks
its input as its first function and its output as its last one, and a negation its input as what it negates.
Whatever has been joined before the wrapper is asked, it comes to the same verdict and reports the same
positions, for the same reasons, in messages that differ at most in how unions and literals are spelled.
It gives the very same result if the function states a single type, or types that are joined as they are
spelled.  The function has to state some type for the side, and types that say by themselves what values
they have. -/
theorem check_of_wraps {ts : List Ty} (hw : w.Regular) (h : Relation.TransGen (w.Wraps s) f v)
    (hts : w.declaredTypes s f = .ok ts) (hne : ts ≠ [])
    (hdescr : ∀ t ∈ ts, t.isDescriptor = true) (cs : List Ty) :
    (∀ known, ExceptRel (ReportsAlike s) (w.check s f cs) ((w.recalling known).check s v cs)) ∧
      (ts.length = 1 ∨ Ty.spelling w.surroundings.joined ts = ts → w.check s v cs = w.check s f cs) := by
  have hall : ∀ us, w.declaredTypes s f = .ok us → us = ts := fun us hus =>
    Except.ok.inj (hus.symm.trans hts)
  have hf : w.Describes s f := by
    intro us hus
    obtain rfl := hall us hus
    exact ⟨hne, hdescr⟩
  have htakes := takes_of_wraps hw h (isNone_of_declaredTypes hts)
  refine ⟨fun known => check_of_takes hw htakes hf known cs, fun hspelling => ?_⟩
  refine check_eq_of_takes hw htakes hf (fun us hus => ?_) cs
  obtain rfl := hall us hus
  exact hspelling

/-- A function of nothing and a pair, a chain that starts with it, and the negation of the chain. -/
def wrapped : World where
  heap := #[
    .routine ⟨"choose", [⟨"x", .standard, none, some .none⟩,
      ⟨"y", .standard, none, some (.app (.cls .tuple) [.cls (.core "int"), .cls (.core "str")])⟩],
      some (.cls (.core "bool")), .arg 1, none⟩,
    .list [.ref 0, .atom (.builtin .len)],
    .object LibraryClass.functionComposite.className none [("functions", .ref 1)],
    .object LibraryClass.negation.className none [("predicate", .ref 2)]]
  hierarchy := ⟨[], [], []⟩
  declarations := []
  sites := []
  registry := ⟨[], []⟩
  trace := []
  log := []
  clock := .none

theorem wraps_wrapped : Relation.TransGen (wrapped.Wraps .input) (.ref 0) (.ref 3) := by
  have hchain : wrapped.Wraps .input (.ref 0) (.ref 2) :=
    .first ⟨2, none, _, .ref 1, rfl, rfl, rfl, rfl⟩
  have hnegation : wrapped.Wraps .input (.ref 2) (.ref 3) := .negated ⟨3, none, _, rfl, rfl, rfl⟩
  exact (Relation.TransGen.single hchain).tail hnegation

/-- Too few types are reported alike by the function and by the negated chain. -/
theorem check_wrapped : wrapped.check .input (.ref 3) [.cls (.core "int")] =
    wrapped.check .input (.ref 0) [.cls (.core "int")] := by
  have hw : wrapped.Regular := ⟨rfl, rfl, rfl, rfl⟩
  have hts : wrapped.declaredTypes .input (.ref 0) = .ok [.noneType,
    .app (.cls .tuple) [.cls (.core "int"), .cls (.core "str")]] := rfl
  exact (check_of_wraps hw wraps_wrapped hts (by simp) (by decide) _).2 (.inr rfl)

/-- A function of a number or a text, and of a number, in a chain, where a text or a number, and a number,
have been joined before. -/
def spelledBefore : World := { wrapped with
  heap := #[
    .routine ⟨"choose", [⟨"x", .standard, none, some (.union false [.cls (.core "int"), .cls (.core "str")])⟩,
      ⟨"y", .standard, none, some (.cls (.core "int"))⟩], some (.cls (.core "bool")), .arg 1, none⟩,
    .list [.ref 0],
    .object LibraryClass.functionComposite.className none [("functions", .ref 1)]]
  surroundings :=
    { joined := [[.union false [.cls (.core "str"), .cls (.core "int")], .cls (.core "int")]] } }

/-- A wrapper need not give the messages of its function: the one asks for a text or a number where the other
asks for a number or a text. -/
theorem not_check_eq_of_wraps : ¬ ∀ (w : World) (s : Side) (f v : Value) (ts cs : List Ty), w.Regular →
    Relation.TransGen (w.Wraps s) f v → w.declaredTypes s f = .ok ts → ts ≠ [] →
      (∀ t ∈ ts, t.isDescriptor = true) → w.check s v cs = w.check s f cs := by
  intro h
  have hchain : spelledBefore.Wraps .input (.ref 0) (.ref 2) :=
    .first ⟨2, none, _, .ref 1, rfl, rfl, rfl, rfl⟩
  have hsame := h spelledBefore .input (.ref 0) (.ref 2)
    [.union false [.cls (.core "int"), .cls (.core "str")], .cls (.core "int")]
    [.cls (.core "float"), .cls (.core "int")] ⟨rfl, rfl, rfl, rfl⟩ (.single hchain) rfl (by simp) (by decide)
  have hmessages : [Value.ref 2, .ref 0].map (fun f => (spelledBefore.check .input f
      [.cls (.core "float"), .cls (.core "int")]).toOption.map (·.errors)) =
      [some ["Incompatible input type at position 0: expected str | int, got float"],
        some ["Incompatible input type at position 0: expected int | str, got float"]] := by
    decide +kernel
  simp only [List.map_cons, List.map_nil, hsame, List.cons.injEq, and_true] at hmessages
  exact absurd (hmessages.1.symm.trans hmessages.2) (by decide)

end World

end FunctionObjects
