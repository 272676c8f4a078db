import FunctionObjects.Proofs.Chain.Unpacking
import FunctionObjects.Proofs.Signature.Elements
import FunctionObjects.Proofs.Signature.Spelling
/-!
# Tuples that are checked whole

What an object of several values takes can be asked with the types of the values, or with the type of the
tuple in which they are passed.  A signature opens the type of the tuple and goes on as with the types
themselves, with the same messages.  A check that an object adds to that of its signature looks at the
types as they were given, and finds nothing to compare where there is one.
-/

namespace FunctionObjects

open Run Signature

namespace Ty

/-- Whether a descriptor is a bare text, which becomes a name to be looked up once it is an argument. -/
def isText : Ty → Bool
  | .lit (.str _) => true
  | _ => false

variable {t : Ty}

theorem asArgument_of_not_isText (h : t.isText = false) : t.asArgument = t ∨ t = .none := by
  cases t with
  | none => exact .inr rfl
  | lit l => cases l <;> simp_all [isText, asArgument]
  | _ => exact .inl rfl

end Ty

namespace Classes

variable {k : Classes} {t : Ty} {ts : List Ty} {side : Side}

/-- An argument of a tuple type fits where the type itself fits. -/
theorem fits_asArgument (hk : k.unboxed .noneType = .noneType) (ht : t.isText = false) (own : Ty) :
    fits k side own t.asArgument = fits k side own t := by
  rcases Ty.asArgument_of_not_isText ht with heq | rfl
  · rw [heq]
  · cases side with
    | input => exact assignable_noneType_left hk own
    | output => exact assignable_noneType_right hk own

theorem elements?_asArgument (hs : k.arity? .noneType = none) (ht : t.isText = false) :
    k.elements? t.asArgument = k.elements? t := by
  rcases Ty.asArgument_of_not_isText ht with heq | rfl
  · rw [heq]
  · change (k.arity? .noneType).map _ = none
    rw [hs, Option.map_none]

theorem name_asArgument (ht : t.isText = false) : t.asArgument.name = t.name := by
  rcases Ty.asArgument_of_not_isText ht with heq | rfl
  · rw [heq]
  · rfl

/-- A tuple of other than one position counts an argument, or opens it, as it does the type itself. -/
theorem collect_tuple_argument (hs : k.arity? .noneType = none) (ht : t.isText = false)
    {parts : List Signature} (hone : parts.length ≠ 1) (u : Ty) (path : List Nat) (r : ValidationResult) :
    collect k side (.tuple u parts) path [t.asArgument] r = collect k side (.tuple u parts) path [t] r := by
  simp only [collect, expand, if_neg hone, elements?_asArgument hs ht]
  cases k.elements? t with
  | some us => rfl
  | none =>
    have hlisted : listed [t.asArgument] = listed [t] := by
      rw [listed, listed, List.map_singleton, List.map_singleton, name_asArgument ht]
    have hcount : countMessage (parts.map type) [t.asArgument] = countMessage (parts.map type) [t] := by
      unfold countMessage
      rw [hlisted, List.length_singleton, List.length_singleton]
    simp only [Option.getD_none, List.length_singleton, if_neg (Ne.symm hone), hcount]

/-- A signature of any depth collects the same messages for an argument of a tuple type as for the type
itself. -/
theorem collect_argument (hk : k.unboxed .noneType = .noneType) (hs : k.arity? .noneType = none)
    (ht : t.isText = false) : ∀ (s : Signature) (path : List Nat) (r : ValidationResult),
      collect k side s path [t.asArgument] r = collect k side s path [t] r
  | .single own, path, r => by
    have hmessage : typeMessage side path own t.asArgument = typeMessage side path own t := by
      unfold typeMessage
      rw [name_asArgument ht]
    simp only [collect, fits_asArgument hk ht, hmessage]
  | .tuple _ [part], path, r => by
    simp only [collect, expand, List.length_singleton, if_true, collectAll]
    exact collect_argument hk hs ht part _ r
  | .tuple u [], path, r => collect_tuple_argument hs ht (by simp) u path r
  | .tuple u (_ :: _ :: _), path, r => collect_tuple_argument hs ht (by simp) u path r
termination_by structural s => s

/-- The same for the positions of a tuple, one after the other. -/
theorem collectAll_arguments (hk : k.unboxed .noneType = .noneType) (hs : k.arity? .noneType = none)
    (hts : ∀ t ∈ ts, t.isText = false) (parts : List Signature) (path : List Nat) (i : Nat)
    (r : ValidationResult) :
    collectAll k side parts path i (ts.map Ty.asArgument) r = collectAll k side parts path i ts r := by
  induction parts generalizing ts i r with
  | nil => cases ts <;> rfl
  | cons part parts ih =>
    cases ts with
    | nil => rfl
    | cons t ts =>
      obtain ⟨ht, hts⟩ := List.forall_mem_cons.mp hts
      rw [List.map_cons, collectAll, collectAll, collect_argument hk hs ht, ih hts]

/-- A side of several positions finds the same with a whole tuple type as with the types themselves. -/
theorem assignable_whole (hk : k.unboxed .noneType = .noneType) (hs : k.arity? .noneType = none)
    {s : Signature} {whole : Ty} (helements : k.elements? whole = some (ts.map Ty.asArgument))
    (hlen : s.classes.length = ts.length) (hone : ts.length ≠ 1) (hts : ∀ t ∈ ts, t.isText = false) :
    s.assignable k side [whole] = s.assignable k side ts := by
  cases s with
  | single own => exact absurd hlen.symm hone
  | tuple u parts =>
    rw [classes, List.length_map] at hlen
    have hexpand : expand k parts.length ts = ts := by
      rcases ts with _ | ⟨t, _ | ⟨t', ts⟩⟩
      · rfl
      · simp at hone
      · rfl
    rw [Signature.assignable, Signature.assignable, collect, collect, hexpand]
    simp only [expand, hlen, if_neg hone, helements, Option.getD_some, List.length_map, if_true,
      collectAll_arguments hk hs hts]

end Classes

/-- Comparing two types changes a verdict only from valid to invalid, and only if they are not the same. -/
theorem Comparison.isValid_eq_sameTypes_iff (r : ValidationResult) (ts : List Ty) :
    r.isValid = (sameTypes r ts).isValid ↔
      (r.isValid = true → ∀ t u, ts = [t, u] → t.same u = true) := by
  rw [sameTypes_isValid]
  cases r.isValid with
  | false => simp
  | true =>
    -- A pair is compared, and any other list is left alone.
    rcases ts with _ | ⟨t, _ | ⟨u, _ | ⟨v, ts⟩⟩⟩ <;> simp

namespace World

variable {w : World} {f : Value} {side : Side} {s : Signature} {ts : List Ty} {n : Nat} {k : LibraryClass}

/-- The classes of tuples take as many arguments as they have positions. -/
theorem IsExtended.applied_fixedClass (hw : w.IsExtended) (hk : PositionalTuple.fixedClass? n = some k)
    (hlen : ts.length = n) : w.hierarchy.applied (.cls k.className) ts =
      .ok (.app (.cls k.className) (ts.map Ty.asArgument)) := by
  obtain ⟨hmem, -⟩ := PositionalTuple.arity_of_fixedClass? hk
  have hplain : k.className ≠ ClassTable.generic ∧ plainGenerics.contains k.className = false ∧
      sizedGenerics.contains k.className = false ∧ k.className ≠ ⟨"numpy", "complexfloating"⟩ := by
    clear hk
    revert k
    decide
  obtain ⟨hgeneric, hcore, hsized, hcomplex⟩ := hplain
  have hparams := (hw.isTupleClass hk).params
  have hne : (w.hierarchy.info k.className).params.isEmpty = false := by
    rw [List.isEmpty_eq_false_iff, ← List.length_pos_iff, hparams]
    cases n with
    | zero => cases hk
    | succ n => exact n.succ_pos
  simp only [Hierarchy.applied, Hierarchy.classForm, beq_eq_false_iff_ne.mpr hgeneric, hcore, hsized,
    beq_eq_false_iff_ne.mpr hcomplex, hne, hparams, hlen]
  rfl

/-- A whole tuple is checked as its values are. -/
theorem IsExtended.check_whole (hw : w.IsExtended) (hk : PositionalTuple.fixedClass? n = some k)
    (hsig : w.signature side f = .ok s) (hs : s.classes.length = n) (hlen : ts.length = n)
    (hone : n ≠ 1) (hts : ∀ t ∈ ts, t.isText = false) :
    w.check side f [.app (.cls k.className) (ts.map Ty.asArgument)] = w.check side f ts := by
  have hne : ts.isEmpty = false := by
    rw [List.isEmpty_eq_false_iff, ← List.length_pos_iff, hlen]
    cases n with
    | zero => cases hk
    | succ n => exact n.succ_pos
  have hform : w.classes.isTupleForm (.cls k.className) (ts.map Ty.asArgument) = true := by
    simp [Classes.isTupleForm, (hw.isTupleClass hk).arity, hne]
  simp only [check, hsig, bind, Except.bind, Classes.assignable_whole hw.regular.nothing hw.regular.single
    (Classes.elements?_app hform) (hs.trans hlen.symm) (hlen ▸ hone) hts]

theorem tyOf_ofTy (t : Ty) : w.tyOf (Value.ofTy t) = t := by
  cases t with
  | lit l => cases l <;> rfl
  | _ => rfl

theorem typesOf_map_ofTy (ts : List Ty) : w.typesOf (ts.map Value.ofTy) = ts := by
  simp [typesOf, Function.comp_def, tyOf_ofTy]

/-- Two classes of the library check what an object takes. -/
theorem checker_cases (h : k.member? "is_input_valid" = some .method) :
    k = .signatureChecks ∨ k = .isXLessThanY := by
  cases k <;> revert h <;> decide

section

variable {r : Ref} {c : ClassName} {o : Option Ty} {as : List (String × Value)} {q : ValidationResult}

/-- What a class of the library that checks types makes of what a signature finds. -/
def checkedBy (k : LibraryClass) (q : ValidationResult) (ts : List Ty) : ValidationResult :=
  if k = .isXLessThanY then Comparison.sameTypes q ts else q

theorem result_is_input_valid (hcell : w.heap[r]? = some (.object c o as))
    (hmember : w.member? c "is_input_valid" = some (.library k .method))
    (has : as.lookup "is_input_valid" = none) (hcheck : w.check .input (.ref r) ts = .ok q) (m : Nat) :
    ((Dispatch.ofDepth (m + 1)).method (.ref r) "is_input_valid" (ts.map Value.ofTy)).result w =
      (.ok (.atom (.result (checkedBy k q ts))), w) := by
  rw [Dispatch.result_method_object m hcell hmember has]
  rcases checker_cases (libraryMember_of_member? hmember) with rfl | rfl
  · change (Method.check .input (.ref r) (ts.map Value.ofTy)).result w = _
    rw [Method.check, result_bind_ok _ (result_get w), typesOf_map_ofTy, hcheck]
    rfl
  · change (Method.checkPair (.ref r) (ts.map Value.ofTy)).result w = _
    have hobject : w.isObjectOf .isXLessThanY (.ref r) = true := by
      have hclass : w.classOf (.ref r) = c := by simp [World.classOf, hcell]
      rw [isObjectOf, isSubclass, hclass]
      exact List.contains_iff_mem.mpr (member?_library hmember).1
    rw [Method.checkPair, result_bind_ok _ (result_get w), hobject, typesOf_map_ofTy]
    dsimp only
    rw [hcheck]
    rfl

/-- Asked with a whole tuple type an object answers as its signature does, and asked with the types of the
values it adds what its class adds. -/
theorem IsExtended.results_whole {n : Nat} {j : LibraryClass} (hw : w.IsExtended)
    (hcell : w.heap[r]? = some (.object c o as))
    (hmember : w.member? c "is_input_valid" = some (.library k .method))
    (has : as.lookup "is_input_valid" = none) (hsig : w.signature .input (.ref r) = .ok s)
    (hs : s.classes.length = n) (hj : PositionalTuple.fixedClass? n = some j) (hone : n ≠ 1)
    (hlen : ts.length = n) (hts : ∀ t ∈ ts, t.isText = false) (m : Nat) :
    let p := s.assignable w.classes .input ts
    let ask (us : List Ty) :=
      ((Dispatch.ofDepth (m + 1)).method (.ref r) "is_input_valid" (us.map Value.ofTy)).result w
    ask [.app (.cls j.className) (ts.map Ty.asArgument)] = (.ok (.atom (.result p)), w) ∧
      ask ts = (.ok (.atom (.result (checkedBy k p ts))), w) := by
  intro p ask
  have hvalues : w.check .input (.ref r) ts = .ok p := by
    rw [check, hsig]
    rfl
  have hwhole : w.check .input (.ref r) [.app (.cls j.className) (ts.map Ty.asArgument)] = .ok p := by
    rw [hw.check_whole hj hsig hs hlen hone hts, hvalues]
  have hsingle (t : Ty) : checkedBy k p [t] = p := by
    unfold checkedBy
    split <;> rfl
  refine ⟨?_, result_is_input_valid hcell hmember has hvalues m⟩
  rw [← hsingle]
  exact result_is_input_valid hcell hmember has hwhole m

/-- What an object of two to five values finds of a whole tuple it finds of the types of the values, with the
same messages, unless it also compares two types.  So both are valid or neither is, exactly if the two types
that are compared are the same wherever the whole tuple is valid. -/
theorem valid_whole_iff {n : Nat} {j : LibraryClass} (hw : w.IsExtended)
    (hcell : w.heap[r]? = some (.object c o as))
    (hmember : w.member? c "is_input_valid" = some (.library k .method))
    (has : as.lookup "is_input_valid" = none) (hsig : w.signature .input (.ref r) = .ok s)
    (hs : s.classes.length = n) (hj : PositionalTuple.fixedClass? n = some j) (hone : n ≠ 1)
    (hlen : ts.length = n) (hts : ∀ t ∈ ts, t.isText = false) (m : Nat) :
    let ask (us : List Ty) :=
      ((Dispatch.ofDepth (m + 1)).method (.ref r) "is_input_valid" (us.map Value.ofTy)).result w
    ∃ whole p q, w.hierarchy.applied (.cls j.className) ts = .ok whole ∧
      ask [whole] = (.ok (.atom (.result p)), w) ∧ ask ts = (.ok (.atom (.result q)), w) ∧
      q = checkedBy k p ts ∧
      (p.isValid = q.isValid ↔
        (k = .isXLessThanY → p.isValid = true → ∀ t u, ts = [t, u] → t.same u = true)) := by
  intro ask
  obtain ⟨hwhole, hvalues⟩ := hw.results_whole hcell hmember has hsig hs hj hone hlen hts m
  refine ⟨_, _, _, hw.applied_fixedClass hj hlen, hwhole, hvalues, rfl, ?_⟩
  unfold checkedBy
  split
  · rename_i hpair
    rw [Comparison.isValid_eq_sameTypes_iff]
    exact ⟨fun h _ => h, fun h => h hpair⟩
  · rename_i hother
    exact iff_of_true rfl fun hpair => absurd hpair hother

end

/-- Whether one value of two is less than the other one. -/
def ordering : World := { initial with heap := #[.object LibraryClass.isXLessThanY.className none []] }

section

set_option maxRecDepth 20000

/-- What it is declared to take, and that its own class is asked first. -/
theorem ordering_tables :
    (ordering.declaredTypes .input (.ref 0),
        (ordering.hierarchy.mro LibraryClass.isXLessThanY.className).head?) =
      (.ok [pairOf .any .any], some LibraryClass.isXLessThanY.className) := by
  rfl

end

theorem ordering_isExtended : ordering.IsExtended := isExtended_initial

theorem ordering_signature : ordering.signature .input (.ref 0) =
    .ok (.tuple (pairOf .any .any) [.single .any, .single .any]) := by
  obtain ⟨htypes, -⟩ := Prod.mk.inj ordering_tables
  have hform : ordering.classes.isTupleForm (.cls LibraryClass.tuple2.className) [.any, .any] = true := by
    simp [Classes.isTupleForm, (ordering_isExtended.isTupleClass (n := 2) (k := .tuple2) rfl).arity]
  rw [signature_of_type htypes, pairOf, Classes.ofTy_of_isTupleForm hform]
  rfl

theorem ordering_member : ordering.member? LibraryClass.isXLessThanY.className "is_input_valid" =
    some (.library .isXLessThanY .method) :=
  member?_of_head? (Prod.mk.inj ordering_tables).2 rfl

/-- Numbers can be compared, asked with a pair of numbers as well as with the numbers. -/
theorem ordering_numbers :
    let int : Ty := .cls (.core "int")
    let ask (us : List Ty) :=
      ((Dispatch.ofDepth 1).method (.ref 0) "is_input_valid" (us.map Value.ofTy)).result ordering
    ∃ whole p q, ordering.hierarchy.applied (.cls LibraryClass.tuple2.className) [int, int] = .ok whole ∧
      ask [whole] = (.ok (.atom (.result p)), ordering) ∧
      ask [int, int] = (.ok (.atom (.result q)), ordering) ∧ p.isValid = q.isValid := by
  intro int ask
  have hts : ∀ t ∈ [int, int], t.isText = false := by simp [int, Ty.isText]
  obtain ⟨whole, p, q, hwhole, hp, hq, -, hiff⟩ := valid_whole_iff (n := 2) (r := 0) ordering_isExtended rfl
    ordering_member rfl ordering_signature rfl rfl (by decide) rfl hts 0
  refine ⟨whole, p, q, hwhole, hp, hq, hiff.mpr fun _ _ t u htu => ?_⟩
  obtain ⟨rfl, hu⟩ := List.cons.inj htu
  obtain rfl := List.head_eq_of_cons_eq hu
  decide

/-- A number and a text cannot be compared, but a pair of the two passes. -/
theorem not_valid_whole :
    ¬ ∀ (w : World) (r : Ref) (c : ClassName) (o : Option Ty) (as : List (String × Value))
      (k j : LibraryClass) (s : Signature) (ts : List Ty) (n m : Nat) (whole : Ty)
      (p q : ValidationResult), w.IsExtended →
      w.heap[r]? = some (.object c o as) →
      w.member? c "is_input_valid" = some (.library k .method) → as.lookup "is_input_valid" = none →
      w.signature .input (.ref r) = .ok s → s.classes.length = n →
      PositionalTuple.fixedClass? n = some j → n ≠ 1 → ts.length = n →
      (∀ t ∈ ts, t.isText = false) →
      w.hierarchy.applied (.cls j.className) ts = .ok whole →
      ((Dispatch.ofDepth (m + 1)).method (.ref r) "is_input_valid" [Value.ofTy whole]).result w =
        (.ok (.atom (.result p)), w) →
      ((Dispatch.ofDepth (m + 1)).method (.ref r) "is_input_valid" (ts.map Value.ofTy)).result w =
        (.ok (.atom (.result q)), w) →
      p.isValid = q.isValid := by
  intro h
  let ts : List Ty := [.cls (.core "int"), .cls (.core "str")]
  have hts : ∀ t ∈ ts, t.isText = false := by simp [ts, Ty.isText]
  obtain ⟨hwhole, hvalues⟩ := ordering_isExtended.results_whole (n := 2) (j := .tuple2) (r := 0) rfl
    ordering_member rfl ordering_signature rfl rfl (by decide) rfl hts 0
  have halike := h ordering 0 _ _ _ _ .tuple2 _ ts 2 0 _ _ _ ordering_isExtended rfl ordering_member rfl
    ordering_signature rfl rfl (by decide) rfl hts (ordering_isExtended.applied_fixedClass rfl rfl) hwhole
    hvalues
  rw [checkedBy, if_pos rfl, Comparison.isValid_eq_sameTypes_iff, assignable_isValid] at halike
  have hsame := halike (by simp [accepts, expand, acceptsAll, fits, ts]) _ _ rfl
  exact absurd hsame (by decide)

end World

end FunctionObjects
