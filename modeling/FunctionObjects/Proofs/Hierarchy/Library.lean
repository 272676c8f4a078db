import FunctionObjects.Class.Declare
import FunctionObjects.Proofs.State.Running
import FunctionObjects.Signature.Recovery
import FunctionObjects.Tuple.Positional
/-!
# What declarations leave alone

Classes are added behind those that are there, so whatever is looked up for a class of the core or of
the library stays what it was at the start.
-/

namespace FunctionObjects

namespace ClassTable

variable {t t' : ClassTable} {c : ClassName} {i : ClassInfo}

/-- The first entry of a class stays the first one. -/
theorem find?_of_prefix (h : t <+: t') (hfind : t.find? c = some i) : t'.find? c = some i := by
  obtain ⟨more, rfl⟩ := h
  rw [find?] at hfind ⊢
  rw [List.find?_append, hfind, Option.some_or]

theorem prefix_declare? {bases : List Ty} {abstract : Bool} {traits : List (Trait × Bool)}
    {arity : Option (Option Nat)} (h : t.declare? c bases abstract traits arity = some t') :
    t <+: t' := by
  obtain ⟨mro, -, heq⟩ := Option.bind_eq_some_iff.mp h
  obtain rfl := Option.some.inj heq
  exact List.prefix_append _ _

end ClassTable

namespace Hierarchy

theorem prefix_addRow (t : ClassTable) (r : CoreClasses.Row) : t <+: addRow t r := by
  unfold addRow
  cases h : t.declare? r.name (r.bases.map .cls) r.abstract r.traits none with
  | none => exact List.prefix_refl _
  | some t' => exact ClassTable.prefix_declare? h

/-- Interfaces that are brought along come behind all other classes. -/
theorem prefix_bring (h : Hierarchy) (ps : List Protocol) :
    h.table <+: (ps.foldl bring h).table := by
  induction ps generalizing h with
  | nil => exact List.prefix_refl _
  | cons p ps ih => exact (prefix_addRow h.table _).trans (ih (h.bring p))

end Hierarchy

/-- The class that goes with a number of positions fixes it. -/
theorem PositionalTuple.arity_of_fixedClass? {n : Nat} {k : LibraryClass} (hk : fixedClass? n = some k) :
    k ∈ [LibraryClass.tuple1, .tuple2, .tuple3, .tuple4, .tuple5] ∧ k.arity = some (some n) := by
  rcases n with _ | _ | _ | _ | _ | _ | n <;> simp [fixedClass?] at hk <;>
    subst hk <;> exact ⟨by decide, rfl⟩

namespace World

/-- The classes of the core and of the library come first, whatever callers have declared since. -/
def IsExtended (w : World) : Prop := Hierarchy.initial.table <+: w.hierarchy.table

theorem isExtended_starting (s : Surroundings) (ps : List Protocol) : (starting s ps).IsExtended :=
  Hierarchy.prefix_bring .initial ps

theorem isExtended_initial : initial.IsExtended := isExtended_starting _ _

/-- What is looked up for wrappers of functions and for the class of nothing: a wrapper's own class is
asked first, and the class of nothing counts as itself. -/
structure Regular (w : World) : Prop where
  chain : (w.hierarchy.mro LibraryClass.functionComposite.className).head? =
    some LibraryClass.functionComposite.className
  negation : (w.hierarchy.mro LibraryClass.negation.className).head? =
    some LibraryClass.negation.className
  nothing : w.classes.unboxed .noneType = .noneType
  single : w.classes.arity? .noneType = none

/-- The entries of the start that are looked up. -/
theorem initial_entries :
    (Hierarchy.initial.table.find? LibraryClass.functionComposite.className).map (·.mro.head?) =
      some (some LibraryClass.functionComposite.className) ∧
    (Hierarchy.initial.table.find? LibraryClass.negation.className).map (·.mro.head?) =
      some (some LibraryClass.negation.className) ∧
    (Hierarchy.initial.table.find? .noneType).map (·.mro) = some [.noneType, .object] ∧
    (Hierarchy.initial.table.find? ⟨"numpy", "generic"⟩).map (·.abstract) = some false ∧
    (∀ b ∈ ClassName.object :: boxes.map (·.2),
      (Hierarchy.initial.table.find? b).map (·.mro.contains ⟨"numpy", "generic"⟩) = some false) ∧
    (∀ k ∈ [LibraryClass.tuple1, .tuple2, .tuple3, .tuple4, .tuple5],
      (Hierarchy.initial.table.find? k.className).any (fun i => i.mro.head? == some k.className &&
        i.mro.contains LibraryClass.fixedTuple.className && i.arity == k.arity &&
        k.arity == some (some i.params.length)) = true) ∧
    (∀ e ∈ [("str_", "str"), ("int8", "int"), ("uint64", "int")],
      initial.classes.unboxed ⟨"numpy", e.1⟩ = .core e.2) ∧
    initial.classes.sub (.core "dict") (.core "dict") = true ∧
    initial.classes.sub (.core "dict") ⟨"numpy", "generic"⟩ = false ∧
    (Hierarchy.initial.table.find? .tuple).map (·.mro) = some [.tuple, .object] ∧
    (Hierarchy.initial.table.find? .tuple).map (·.abstract) = some false ∧
    (Hierarchy.initial.table.find? (.core "int")).map (·.mro) = some [.core "int", .object] := by
  decide +kernel

/-- What is no tuple class of the library at the start never becomes one. -/
theorem IsExtended.arity?_of_initial {w : World} (h : w.IsExtended) {c : ClassName}
    {mro : List ClassName} (hc : (Hierarchy.initial.table.find? c).map (·.mro) = some mro)
    (hplain : mro.contains LibraryClass.fixedTuple.className = false) : w.classes.arity? c = none := by
  obtain ⟨info, hfind, rfl⟩ := Option.map_eq_some_iff.mp hc
  have hmro : w.hierarchy.mro c = info.mro := by
    rw [Hierarchy.mro, ClassTable.mro, ClassTable.find?_of_prefix h hfind]
  change w.hierarchy.tupleArity? c = none
  rw [Hierarchy.tupleArity?, hmro, hplain]
  rfl

/-- Which ancestors a class of the start has is settled, where no declaration can add to them. -/
theorem IsExtended.sub_of_initial {w : World} (h : w.IsExtended) {c d : ClassName}
    {mro : List ClassName} (hc : (Hierarchy.initial.table.find? c).map (·.mro) = some mro)
    (hd : (Hierarchy.initial.table.find? d).map (·.abstract) = some false)
    (hroot : (d == .object) = false) : w.classes.sub c d = mro.contains d := by
  obtain ⟨ci, hfindC, rfl⟩ := Option.map_eq_some_iff.mp hc
  obtain ⟨di, hfindD, hconcrete⟩ := Option.map_eq_some_iff.mp hd
  have hmro : w.hierarchy.mro c = ci.mro := by
    rw [Hierarchy.mro, ClassTable.mro, ClassTable.find?_of_prefix h hfindC]
  have hinfo : (w.hierarchy.info d).abstract = false := by
    rw [Hierarchy.info, ClassTable.find?_of_prefix h hfindD]
    exact hconcrete
  change (w.hierarchy.sub? c d).getD false = _
  have hanswers : w.hierarchy.answers d = true := by rw [Hierarchy.answers, hinfo]; rfl
  rw [Hierarchy.sub?, if_pos hanswers, Option.getD_some, Hierarchy.sub, hroot, hmro, hinfo]
  simp

theorem IsExtended.regular {w : World} (h : w.IsExtended) : w.Regular := by
  obtain ⟨hchain, hnegation, hnothing, hgeneric, -⟩ := initial_entries
  obtain ⟨chain, hfindChain, hheadChain⟩ := Option.map_eq_some_iff.mp hchain
  obtain ⟨negation, hfindNegation, hheadNegation⟩ := Option.map_eq_some_iff.mp hnegation
  have hsub : w.classes.sub .noneType ⟨"numpy", "generic"⟩ = false :=
    (h.sub_of_initial hnothing hgeneric (by decide)).trans (by decide)
  refine ⟨?_, ?_, ?_, ?_⟩
  · rw [Hierarchy.mro, ClassTable.mro, ClassTable.find?_of_prefix h hfindChain]
    exact hheadChain
  · rw [Hierarchy.mro, ClassTable.mro, ClassTable.find?_of_prefix h hfindNegation]
    exact hheadNegation
  · rw [Classes.unboxed, hsub]
    rfl
  · exact h.arity?_of_initial hnothing (by decide)

end World

namespace Run

variable {w w' : World}

/-- A caller who declares a class adds it behind the others. -/
theorem isExtended_declareClass {decl : Declaration} {bases : List Ty} {arity : Option Nat}
    (hw : w.IsExtended) (h : (declareClass decl bases arity).result w = (.ok (), w')) :
    w'.IsExtended := by
  simp only [declareClass] at h
  rw [result_bind_ok _ (result_get w)] at h
  split at h
  · cases h
  · split at h
    · rename_i table htable
      obtain rfl := (Prod.mk.inj h).2
      exact hw.trans (ClassTable.prefix_declare? htable)
    · cases h

/-- A class that is made to count as a subclass of another one changes no entry. -/
theorem isExtended_declareVirtual {c base : ClassName} (hw : w.IsExtended)
    (h : (declareVirtual c base).result w = (.ok (), w')) : w'.IsExtended := by
  simp only [declareVirtual] at h
  rw [result_bind_ok _ (result_get w)] at h
  split at h
  · cases h
  · split at h
    · obtain rfl := (Prod.mk.inj h).2
      exact hw
    · split at h
      · cases h
      · obtain rfl := (Prod.mk.inj h).2
        exact hw

end Run

end FunctionObjects
