import FunctionObjects.Proofs.Hierarchy.Founding
import FunctionObjects.Proofs.Hierarchy.Library
import FunctionObjects.Proofs.Signature.Agreeing
import FunctionObjects.Tuple.Positional
/-!
# Positions of classes of tuples

A class that derives from a class of tuples binds the types of the positions somewhere on the way up, and
the arguments that are written behind it can be more, fewer or in another order.  A signature does not
follow the bases for this: it takes the arguments as they are written for the positions, and where none
are written it has positions for anything.
-/

namespace FunctionObjects

open Signature Relation

namespace Ty

/-- A class with the arguments that are written behind it, if any are. -/
def written (c : ClassName) (args : List Ty) : Ty := if args.isEmpty then .cls c else .app (.cls c) args

@[simp] theorem originClass?_written (c : ClassName) (args : List Ty) :
    (written c args).originClass? = some c := by
  cases args <;> rfl

@[simp] theorem args_written (c : ClassName) (args : List Ty) : (written c args).args = args := by
  cases args <;> rfl

end Ty

namespace Hierarchy

variable {h : Hierarchy} {target c : ClassName} {n : Nat} {env : TypeEnv} {ts : List Ty}

/-- What is bound are as many types as the target has parameters. -/
theorem length_of_walk (hwalk : h.walk target n c env = some ts) :
    ts.length = (h.info target).params.length := by
  induction n generalizing c env with
  | zero => cases hwalk
  | succ n ih =>
    rw [walk_succ] at hwalk
    split at hwalk
    · rw [← Option.some.inj hwalk, List.length_map]
    · obtain ⟨b, -, hb⟩ := List.exists_of_findSome?_eq_some hwalk
      exact ih hb

theorem resolveAlias_written (h : Hierarchy) (target c : ClassName) (args : List Ty) :
    h.resolveAlias target (.written c args) =
      h.walk target (h.table.length + 1) c (Ty.bind (h.info c).params args) := by
  simp [resolveAlias]

/-- A class that derives from a target binds its parameters, whatever is written behind the class. -/
theorem exists_resolveAlias (hf : h.Founded) (hway : ReflTransGen (h.Leads target) c target)
    (args : List Ty) : ∃ bound, h.resolveAlias target (.written c args) = some bound ∧
      bound.length = (h.info target).params.length := by
  have hrank : h.rank c < h.table.length + 1 := Nat.lt_succ_of_le (h.rank_le c)
  have hsome : (h.walk target (h.table.length + 1) c (Ty.bind (h.info c).params args)).isSome = true :=
    walk_isSome hf hway hrank
  obtain ⟨bound, hbound⟩ := Option.isSome_iff_exists.mp hsome
  exact ⟨bound, (resolveAlias_written h target c args).trans hbound, length_of_walk hbound⟩

end Hierarchy

namespace Classes

variable {k : Classes} {c : ClassName} {b : Ty} {args bound : List Ty}

theorem ofTypes_eq_map (ts : List Ty) : ofTypes k ts = ts.map (ofTy k) := by
  induction ts with
  | nil => rfl
  | cons t ts ih => simp [ofTypes, ih]

/-- A position is for anything if its type is unconstrained, or a variable without a bound. -/
theorem ofTy_eq_single_any_iff : ofTy k b = .single .any ↔ b.finalize = .any := by
  have hshape : ∀ {t : Ty}, t.isVar = false → (ofTy k t = .single .any ↔ t = .any) := by
    intro t ht
    constructor
    · intro h
      rw [← ofTy_type (k := k) ht, h]
      rfl
    · rintro rfl
      rfl
  cases hv : b.isVar with
  | false => rw [Ty.finalize_of_not_isVar hv, hshape hv]
  | true =>
    cases b <;> simp only [Ty.isVar, Bool.false_eq_true] at hv
    rename_i v bound
    cases bound with
    | none => simp [ofTy, Ty.finalize]
    | some b =>
      change ofFinal k b = .single .any ↔ b = .any
      cases hb : b.isVar with
      | false => rw [ofFinal_eq_ofTy hb, hshape hb]
      | true => cases b <;> simp_all [Ty.isVar, ofFinal]

/-- Where nothing is written behind a class, its positions are those for anything. -/
theorem ofTy_cls_eq_iff : ofTy k (.cls c) = .tuple (.cls c) (bound.map (ofTy k)) ↔
    k.arity? c = some bound.length ∧ ∀ b ∈ bound, b.finalize = .any := by
  cases hc : k.arity? c with
  | none => simp [ofTy, hc]
  | some n =>
    have hall : List.replicate n (Signature.single .any) = bound.map (ofTy k) ↔
        n = bound.length ∧ ∀ b ∈ bound, b.finalize = .any := by
      rw [eq_comm, List.eq_replicate_iff, List.length_map, List.forall_mem_map, eq_comm]
      exact and_congr_right fun _ => forall₂_congr fun b _ => ofTy_eq_single_any_iff
    simp [ofTy, hc, open', hall]

/-- What is written behind a class are the types of its positions. -/
theorem ofTy_app_eq_iff (hargs : args ≠ []) :
    ofTy k (.app (.cls c) args) = .tuple (.app (.cls c) args) (bound.map (ofTy k)) ↔
      k.isTupleForm (.cls c) args = true ∧ args.map (ofTy k) = bound.map (ofTy k) := by
  cases hform : k.isTupleForm (.cls c) args with
  | true => simp [ofTy_of_isTupleForm hform, ofTypes_eq_map]
  | false =>
    have hc : k.arity? c = none := by
      cases hc : k.arity? c with
      | none => rfl
      | some n => simp [isTupleForm, hc, hargs] at hform
    simp [ofTy, hform, hc]

end Classes

namespace World

variable {w : World} {target c : ClassName} {n : Nat} {s : Side} {f : Value} {t : Ty} {args : List Ty}

/-- A class of tuples that fixes the number of its positions and has a parameter for each of them. -/
structure IsTupleClass (w : World) (target : ClassName) (n : Nat) : Prop where
  arity : w.classes.arity? target = some n
  params : (w.hierarchy.info target).params.length = n

/-- A function that is declared over a class that derives from a class of tuples, with or without
arguments behind it, has positions of the types that this binds exactly in two cases.  Where arguments
are written, they have to be those types, as many and in the same order; where none are written, nothing
may be known of any of the positions. -/
theorem tuple_positions_iff (hf : w.hierarchy.Founded) (htarget : w.IsTupleClass target n)
    (hway : ReflTransGen (w.hierarchy.Leads target) c target)
    (hdecl : w.declaredTypes s f = .ok [.written c args]) :
    ∃ bound, w.hierarchy.resolveAlias target (.written c args) = some bound ∧ bound.length = n ∧
      (w.signature s f = .ok (.tuple (.written c args) (bound.map (ofTy w.classes))) ↔
        if args = [] then w.classes.arity? c = some n ∧ ∀ b ∈ bound, b.finalize = .any
        else w.classes.isTupleForm (.cls c) args = true ∧
          args.map (ofTy w.classes) = bound.map (ofTy w.classes)) := by
  obtain ⟨bound, hbound, hlen⟩ := Hierarchy.exists_resolveAlias hf hway args
  rw [htarget.params] at hlen
  refine ⟨bound, hbound, hlen, ?_⟩
  rw [signature_of_type hdecl, Except.ok.injEq]
  split
  · rename_i hnil
    subst hnil
    rw [← hlen]
    exact Classes.ofTy_cls_eq_iff
  · rename_i hargs
    have happ : Ty.written c args = .app (.cls c) args := by simp [Ty.written, hargs]
    rw [happ]
    exact Classes.ofTy_app_eq_iff hargs

/-- The classes of one to five positions have a parameter for each, whatever callers have declared. -/
theorem IsExtended.isTupleClass {k : LibraryClass} (hw : w.IsExtended)
    (hk : PositionalTuple.fixedClass? n = some k) : w.IsTupleClass k.className n := by
  obtain ⟨hmem, harity⟩ := PositionalTuple.arity_of_fixedClass? hk
  obtain ⟨-, -, -, -, -, hentries, -⟩ := initial_entries
  obtain ⟨i, hfind, hi⟩ := (Option.any_eq_true _ _).mp (hentries k hmem)
  simp only [Bool.and_eq_true, beq_iff_eq, harity, Option.some.injEq] at hi
  obtain ⟨⟨⟨hhead, hfixed⟩, hown⟩, hparams⟩ := hi
  have hinfo : w.hierarchy.info k.className = i := by
    rw [Hierarchy.info, ClassTable.find?_of_prefix hw hfind, Option.getD_some]
  have hmro : w.hierarchy.mro k.className = i.mro := by
    rw [Hierarchy.mro, ClassTable.mro, ClassTable.find?_of_prefix hw hfind]
  refine ⟨?_, by rw [hinfo, hparams]⟩
  obtain ⟨rest, hrest⟩ := List.head?_eq_some_iff.mp hhead
  change w.hierarchy.tupleArity? k.className = some n
  rw [Hierarchy.tupleArity?, hmro, hfixed, if_pos rfl, Hierarchy.arity?, hmro, hrest,
    List.findSome?_cons, hinfo, hown]
  rfl

/-- Two classes of pairs, one that hands its parameters on and one that swaps them, with functions that take
them. -/
def pairing : World :=
  let T : Ty := .var ⟨"pairing", "T"⟩ Option.none
  let U : Ty := .var ⟨"pairing", "U"⟩ Option.none
  let generic (ts : List Ty) : Ty := .app (.cls ClassTable.generic) ts
  let core (name : String) : Ty := .cls (.core name)
  let library (k : LibraryClass) : ClassName × List Ty × Option (Option Nat) :=
    (k.className, k.bases, k.arity)
  let below (name : String) (bases : List Ty) : ClassName × List Ty × Option (Option Nat) :=
    (⟨"pairing", name⟩, bases, none)
  let rows : List (ClassName × List Ty × Option (Option Nat)) := [
    (.object, [], none), (ClassTable.generic, [], none), (⟨"abc", "ABC"⟩, [], none),
    (.core "int", [], none), (.core "str", [], none),
    library .tuple, library .arrayTuple, library .fixedTuple, library .tuple2,
    below "Both" [pairOf T U], below "Swap" [pairOf U T, generic [T, U]]]
  let takes (name : String) : Cell :=
    let type : Ty := .written ⟨"pairing", name⟩ [core "int", core "str"]
    .routine ⟨"take", [⟨"x", .standard, none, some type⟩], none, .arg 0, none⟩
  { heap := #[takes "Both", takes "Swap"]
    hierarchy := ⟨rows.foldl (fun t r => (t.declare? r.1 r.2.1 false [] r.2.2).getD t) [], [], []⟩
    declarations := []
    sites := []
    registry := ⟨[], []⟩
    trace := []
    log := []
    clock := .none }

/-- What the table holds: every class behind its bases, pairs with two positions, and the way from the two
classes of pairs to them. -/
theorem pairing_tables : pairing.hierarchy.table.isOrdered = true ∧
    (pairing.classes.arity? LibraryClass.tuple2.className = some 2 ∧
      (pairing.hierarchy.info LibraryClass.tuple2.className).params.length = 2) ∧
    (∀ name ∈ ["Both", "Swap"],
      LibraryClass.tuple2.className ∈ (pairing.hierarchy.leading LibraryClass.tuple2.className
        ⟨"pairing", name⟩).map (·.2)) ∧
    pairing.classes.isTupleForm (.cls ⟨"pairing", "Both"⟩) [.cls (.core "int"), .cls (.core "str")] =
      true := by
  decide +kernel

theorem pairing_founded : pairing.hierarchy.Founded :=
  Hierarchy.founded_of_isOrdered pairing_tables.1

theorem pairing_isTupleClass : pairing.IsTupleClass LibraryClass.tuple2.className 2 :=
  ⟨pairing_tables.2.1.1, pairing_tables.2.1.2⟩

theorem pairing_leads : ∀ name ∈ ["Both", "Swap"],
    ReflTransGen (pairing.hierarchy.Leads LibraryClass.tuple2.className) ⟨"pairing", name⟩
      LibraryClass.tuple2.className := by
  obtain ⟨-, -, hlead, -⟩ := pairing_tables
  intro name hname
  obtain ⟨⟨b, e⟩, hb, rfl⟩ := List.mem_map.mp (hlead name hname)
  exact .single ⟨by simp [LibraryClass.className], b, hb⟩

section

set_option maxRecDepth 4000

theorem pairing_types :
    let core (name : String) : Ty := .cls (.core name)
    let takes (r : Ref) (name : String) : Prop := pairing.declaredTypes .input (.ref r) =
      .ok [.written ⟨"pairing", name⟩ [core "int", core "str"]]
    takes 0 "Both" ∧ takes 1 "Swap" :=
  ⟨rfl, rfl⟩

theorem pairing_binds :
    let core (name : String) : Ty := .cls (.core name)
    let binds (name : String) (bound : List Ty) : Prop :=
      pairing.hierarchy.resolveAlias LibraryClass.tuple2.className
        (.written ⟨"pairing", name⟩ [core "int", core "str"]) = some bound
    binds "Both" [core "int", core "str"] ∧ binds "Swap" [core "str", core "int"] :=
  ⟨rfl, rfl⟩

end

/-- A class that hands its parameters on has the positions that are written behind it. -/
theorem pairing_both :
    let int : Ty := .cls (.core "int")
    let str : Ty := .cls (.core "str")
    let both : Ty := .written ⟨"pairing", "Both"⟩ [int, str]
    pairing.hierarchy.resolveAlias LibraryClass.tuple2.className both = some [int, str] ∧
      pairing.signature .input (.ref 0) = .ok (.tuple both [.single int, .single str]) := by
  intro int str both
  obtain ⟨bound, hbound, -, hiff⟩ := tuple_positions_iff pairing_founded pairing_isTupleClass
    (pairing_leads "Both" (by simp)) pairing_types.1
  obtain rfl : [int, str] = bound := Option.some.inj (pairing_binds.1.symm.trans hbound)
  obtain ⟨-, -, -, hform⟩ := pairing_tables
  exact ⟨hbound, hiff.mpr (by rw [if_neg (by simp)]; exact ⟨hform, rfl⟩)⟩

/-- A class of pairs that swaps its parameters has the positions that are written behind it, and not those
that it binds. -/
theorem not_tuple_positions :
    ¬ ∀ (w : World) (target c : ClassName) (n : Nat) (args bound : List Ty) (f : Value),
      w.hierarchy.Founded → w.IsTupleClass target n →
      ReflTransGen (w.hierarchy.Leads target) c target →
      w.declaredTypes .input f = .ok [.written c args] →
      w.hierarchy.resolveAlias target (.written c args) = some bound →
      w.signature .input f = .ok (.tuple (.written c args) (bound.map (ofTy w.classes))) := by
  intro h
  have hswap := h pairing _ _ 2 _ [.cls (.core "str"), .cls (.core "int")] (.ref 1) pairing_founded
    pairing_isTupleClass (pairing_leads "Swap" (by simp)) pairing_types.2 pairing_binds.2
  rw [signature_of_type pairing_types.2, Except.ok.injEq] at hswap
  obtain ⟨-, hpositions⟩ := (Classes.ofTy_app_eq_iff (List.cons_ne_nil _ _)).mp hswap
  have hfirst := congrArg Signature.type (List.head_eq_of_cons_eq hpositions)
  rw [Classes.ofTy_type rfl, Classes.ofTy_type rfl] at hfirst
  simp [ClassName.core] at hfirst

end World

end FunctionObjects
