import FunctionObjects.Proofs.Construction.Stock
import FunctionObjects.Proofs.Hierarchy.Founding
/-!
# The classes on offer at the start

No class is declared at the start, so that the order of search leads to classes of the library only.  All
registered classes are on offer, and every class stands behind its bases.
-/

namespace FunctionObjects

namespace LibraryClass

/-- The class that brings the constructor, if a class of the library does. -/
def constructs? (c : ClassName) : Option LibraryClass :=
  (ofClassName? c).filter fun k => k.parameters?.isSome

/-- What a class of the library defines under a name. -/
def defines? (name : String) (c : ClassName) : Option (LibraryClass × LibraryMember) :=
  (ofClassName? c).bind fun k => (k.member? name).map fun m => (k, m)

end LibraryClass

namespace World

open LibraryClass

variable {w : World}

theorem ownConstructor?_of_undeclared (h : w.declarations = []) :
    w.ownConstructor? = fun c => (constructs? c).map fun k => .library k (k.parameters?.getD []) := by
  funext c
  simp only [ownConstructor?, constructs?, declaration?, h, List.find?_nil, Option.bind_none]
  cases ofClassName? c with
  | none => rfl
  | some k => cases hp : k.parameters? <;> simp [hp]

theorem findConstructor?_of_undeclared (h : w.declarations = []) (c : ClassName) :
    w.findConstructor? c = ((w.hierarchy.mro c).findSome? constructs?).map fun k =>
      .library k (k.parameters?.getD []) := by
  rw [findConstructor?, ownConstructor?_of_undeclared h]
  induction w.hierarchy.mro c with
  | nil => rfl
  | cons d ds ih =>
    cases hd : constructs? d <;> simp_all

theorem ownMember?_of_undeclared (h : w.declarations = []) {name : String} (hn : name ≠ "arity")
    (c : ClassName) : w.ownMember? c name = (defines? name c).map fun m => .library m.1 m.2 := by
  simp only [ownMember?, ownMember?.arity?, defines?, declaration?, h, List.find?_nil]
  cases ofClassName? c with
  | none => rfl
  | some k => cases hm : k.member? name <;> simp [hm, hn]

theorem member?_of_undeclared (h : w.declarations = []) {name : String} (hn : name ≠ "arity")
    (c : ClassName) : w.member? c name =
      ((w.hierarchy.mro c).findSome? (defines? name)).map fun m => .library m.1 m.2 := by
  rw [member?]
  induction w.hierarchy.mro c with
  | nil => rfl
  | cons d ds ih =>
    rw [memberIn?, ownMember?_of_undeclared h hn]
    cases hd : defines? name d <;> simp_all

/-- Which class answers for a method of an aggregating class, and which one for a method of a class that
works on tuples. -/
def answering : List (LibraryClass × String × LibraryClass) :=
  [(binaryOperatorMap, "__call__", binaryOperator),
    (binaryOperatorMap, "apply", binaryOperatorMap), (binaryOperatorMap, "_apply", binaryOperatorMap),
    (.sum, "__call__", binaryOperator), (.sum, "apply", binaryOperator),
    (.sum, "_apply", numericAggregateFunction), (.sum, "_aggregate", .sum),
    (tupleAdaptedFunction, "__call__", function), (tupleAdaptedFunction, "apply", adaptedFunction),
    (tupleAdaptedFunction, "adapt_input", inputAdapted),
    (tupleAdaptedFunction, "adapt_output", outputAdapted),
    (tupleInputAdapter, "__call__", function), (tupleInputAdapter, "apply", tupleInputAdapter),
    (tupleOutputAdapter, "__call__", tupleOutputAdapter),
    (arrayTuple, "get", arrayTuple), (arrayTuple, "put", arrayTuple),
    (arrayTuple, "values", arrayTuple),
    (mapTuple, "get", mapTuple), (mapTuple, "put", mapTuple),
    (identity, "__call__", function), (identity, "apply", identity),
    (collectionConcat, "__call__", binaryOperator), (collectionConcat, "apply", binaryOperator),
    (collectionConcat, "_apply", collectionConcat), (tuple2, "values", arrayTuple)]

/-- Which class answers for a method of a class whose objects keep functions to call. -/
def answeringAround : List (LibraryClass × String × LibraryClass) :=
  [(negation, "__call__", predicate), (negation, "test", negation),
    (conjunction, "__call__", predicate), (conjunction, "test", conjunction),
    (disjunction, "__call__", predicate), (disjunction, "test", disjunction),
    (iterableFilter, "__call__", function), (iterableFilter, "apply", iterableFilter),
    (functionComposite, "__call__", function), (functionComposite, "apply", functionComposite),
    (adaptedBinaryOperator, "__call__", binaryOperator),
    (adaptedBinaryOperator, "apply", adaptedBinaryOperator),
    (adaptedBinaryOperator, "adapt_input", inputAdapted),
    (adaptedBinaryOperator, "adapt_output", outputAdapted)]

/-- Which class answers for a method of a class that reads or writes moments or reads tables. -/
def answeringTexts : List (LibraryClass × String × LibraryClass) :=
  [(parseTime, "__call__", function), (parseTime, "apply", parseTime),
    (toDateString, "__call__", function), (toDateString, "apply", toDateString),
    (csvToMaps, "__call__", function), (csvToMaps, "apply", csvToMaps),
    (csvToMaps, "_parse", csvOptions), (csvLinesToMaps, "__call__", function),
    (csvLinesToMaps, "apply", csvLinesToMaps), (csvLinesToMaps, "_parse", csvOptions)]

/-- What the table holds at the start: the order of search and the registry for every registered class,
where methods are found, and what whole numbers are. -/
theorem initial_tables : initial.hierarchy.table.isOrdered = true ∧ (∀ k ∈ Registry.shipped,
    initial.isAbstract k.className = false ∧
    (initial.hierarchy.mro k.className).findSome? constructs? = k.owner? ∧
    (∀ p ∈ k.params, p.name ≠ "arity" ∧
      (initial.hierarchy.mro k.className).findSome? (defines? p.name) =
        (k.properties.lookup p.name).map fun q => (k, .property q)) ∧
    initial.isStructural k.className = true ∧
    k.className.name ≠ "" ∧
    initial.registry.names.lookup k.className = some k.className.name ∧
    initial.registry.classes.lookup k.className.name = some k.className) ∧
    (∀ e ∈ answering ++ (answeringAround ++ answeringTexts), e.2.1 ≠ "arity" ∧
      (initial.hierarchy.mro e.1.className).findSome? (defines? e.2.1) = some (e.2.2, .method)) ∧
    initial.hierarchy.sub (.core "int") (.core "bool") = false ∧
    initial.hierarchy.sub (.core "int") ⟨"numbers", "Number"⟩ = true := by
  decide +kernel

/-- A method that the order of search leads to at the start is found wherever the classes are the same. -/
theorem SameClasses.method_of_found {w : World} (h : initial.SameClasses w) {k l : LibraryClass}
    {name : String} (hfound : name ≠ "arity" ∧
      (initial.hierarchy.mro k.className).findSome? (defines? name) = some (l, .method)) :
    w.member? k.className name = some (.library l .method) := by
  rw [h.member?, member?_of_undeclared rfl hfound.1, hfound.2]
  rfl

/-- At the start the methods of these classes are those of the classes that answer for them. -/
theorem methods_of_sameClasses {w : World} (h : initial.SameClasses w) : ∀ e ∈ answering,
    w.member? e.1.className e.2.1 = some (.library e.2.2 .method) :=
  fun e he => h.method_of_found (initial_tables.2.2.1 e (List.mem_append_left _ he))

theorem methods_around {w : World} (h : initial.SameClasses w) : ∀ e ∈ answeringAround,
    w.member? e.1.className e.2.1 = some (.library e.2.2 .method) :=
  fun e he => h.method_of_found
    (initial_tables.2.2.1 e (List.mem_append_right _ (List.mem_append_left _ he)))

theorem methods_texts {w : World} (h : initial.SameClasses w) : ∀ e ∈ answeringTexts,
    w.member? e.1.className e.2.1 = some (.library e.2.2 .method) :=
  fun e he => h.method_of_found
    (initial_tables.2.2.1 e (List.mem_append_right _ (List.mem_append_right _ he)))

/-- At the start every class stands behind its bases. -/
theorem initial_founded : initial.hierarchy.Founded :=
  Hierarchy.founded_of_isOrdered initial_tables.1

/-- The library is on offer at the start. -/
theorem initial_stocked : initial.Stocked := by
  intro k hk
  obtain ⟨habstract, howner, hmembers, hstructural, hname, hnames, hclasses⟩ := initial_tables.2.1 k hk
  refine ⟨habstract, ?_, ?_, hstructural, ⟨_, hname, hnames, hclasses⟩⟩
  · rw [findConstructor?_of_undeclared rfl, howner]
    cases ho : k.owner? <;> simp [params, source, ho]
  · intro p hp
    obtain ⟨harity, hsearch⟩ := hmembers p hp
    rw [member?_of_undeclared rfl harity, hsearch, Option.map_map]
    rfl

/-- Where there are no cells yet, as at the start, any may be added. -/
theorem grows_of_no_cells (h : w.heap = #[]) (cells : Heap) : w.Grows { w with heap := cells } :=
  ⟨fun hr => by simp [h] at hr, rfl, rfl, rfl, rfl⟩

end World

end FunctionObjects
