import FunctionObjects.Value.World
/-!
# The registry of function classes

A name stands for one class for good, and a class can have several names, of which the latest one is
written.  Without a name a class is registered under its own.
-/

namespace FunctionObjects

namespace Registry

/-- Puts an entry in the place of the one with its key, or at the end. -/
def assign {α β : Type} [BEq α] (k : α) (v : β) : List (α × β) → List (α × β)
  | [] => [(k, v)]
  | (l, w) :: rest => if l == k then (k, v) :: rest else (l, w) :: assign k v rest

def empty : Registry := ⟨[], []⟩

/-- The name under which a class is registered if one is asked for, or none. -/
def nameFor (c : ClassName) : Option String → String
  | some "" => c.name
  | some name => name
  | none => c.name

/-- Registers a class. -/
def register (r : Registry) (c : ClassName) (name : Option String) : Except Fault Registry :=
  let name := nameFor c name
  let taken := (r.classes.lookup name).filter (· != c)
  match taken with
  | some owner => throw (.nameTaken name (owner.module ++ "." ++ owner.name))
  | none => return ⟨assign name c r.classes, assign c name r.names⟩

/-- The class of a name. -/
def classNamed (r : Registry) (name : String) : Except Fault ClassName :=
  (r.classes.lookup name).elim (throw (.unknownFunction name)) pure

/-- The name of a class. -/
def nameOf (r : Registry) (c : ClassName) : Except Fault String :=
  (r.names.lookup c).elim (throw (.notRegistered c.name)) pure

def isRegistered (r : Registry) (c : ClassName) : Bool := (r.names.lookup c).isSome

/-- All names, in order. -/
def sortedNames (r : Registry) : List String :=
  (r.classes.map (·.1)).mergeSort fun a b => a ≤ b

/-- The library classes that are registered from the start. -/
def shipped : List LibraryClass := [
  .adaptedFunction, .adaptedPredicate, .adaptedBinaryOperator, .binaryOperatorMap,
  .functionComposite, .tupleAdaptedFunction, .tupleAdaptedPredicate, .tupleInputAdapter,
  .tupleOutputAdapter, .stringConcat, .collectionConcat, .sum, .product, .greatest, .least,
  .identity, .cast, .toLong, .dictionaryLookup, .toArray, .toDateString, .parseTime, .csvToMaps,
  .csvLinesToMaps, .nthItem, .firstValid, .isEmpty, .iterableConcat, .iterableFilter, .divideBy,
  .multiplyBy, .stringRegexReplace, .concat, .ageOff, .isMoreThan, .isLessThan, .isEqual,
  .isXLessThanY, .negation, .conjunction, .disjunction, .isA, .areIn, .regex, .multiRegex]

/-- The registry as it is at the start. -/
def initial : Registry :=
  shipped.foldl (fun r k => (r.register k.className none).toOption.getD r) empty

end Registry

namespace Run

/-- Registers a class. -/
def register (c : ClassName) (name : Option String) : Run Unit := do
  let w ← get
  match w.registry.register c name with
  | .ok r => set { w with registry := r }
  | .error f => throw f

end Run

end FunctionObjects
