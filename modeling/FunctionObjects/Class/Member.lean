import FunctionObjects.Value.World
/-!
# Members of classes

What an object can be asked for by name: methods of the library, methods that a caller declares,
properties that are computed, and constants of the class.  The first class in the order of search
that defines a name decides.
-/

namespace FunctionObjects

/-- The values that library classes compute when they are asked for them. -/
inductive Property where
  | compositeInput | compositeOutput | negatedInput | controlInput | castOutput
  | inputKind | outputKind | selection | foldProjection | ageDays | ageHours | typeName | size
deriving DecidableEq, Repr

/-- What a library class defines under a name. -/
inductive LibraryMember where
  | method
  /-- A method that subclasses have to define; it gives nothing. -/
  | required
  | property (p : Property)
  /-- The types of a side, which no class states unless it says so. -/
  | unstated
deriving DecidableEq, Repr

/-- What a class defines under a name. -/
inductive Member where
  | library (k : LibraryClass) (m : LibraryMember)
  | routine (r : Routine)
  | stated (s : Stated)
  | arity (n : Nat)

namespace LibraryClass

/-- The names that a class defines as methods. -/
def methods : LibraryClass → List String
  | .tuple => ["__iter__", "__len__"]
  | .arrayTuple => ["get", "put", "values", "__getitem__", "__eq__", "__lt__", "__repr__"]
  | .mapTuple => ["get", "put", "values", "fields", "__getitem__", "__eq__", "__repr__"]
  | .structural => ["__eq__", "__hash__", "__repr__"]
  | .signatureChecks => ["is_input_valid", "is_output_valid"]
  | .function => ["__call__"]
  | .predicate => ["__call__"]
  | .binaryOperator => ["apply", "__call__"]
  | .binaryOperatorMap => ["apply", "_apply"]
  | .functionComposite => ["apply", "validate"]
  | .inputAdapted => ["adapt_input"]
  | .outputAdapted => ["adapt_output"]
  | .adaptedFunction => ["apply"]
  | .adaptedPredicate => ["test"]
  | .adaptedBinaryOperator => ["apply", "_apply"]
  | .functionN => ["__call__", "delegate_apply"]
  | .predicateN => ["__call__", "delegate_test"]
  | .tupleInputAdapter => ["apply"]
  | .tupleOutputAdapter => ["__call__"]
  | .identity => ["apply"]
  | .cast => ["apply"]
  | .toLong => ["apply"]
  | .dictionaryLookup => ["apply"]
  | .toArray => ["apply"]
  | .toDateString => ["apply"]
  | .parseTime => ["apply"]
  | .csvOptions => ["_parse"]
  | .csvToMaps => ["apply"]
  | .csvLinesToMaps => ["apply"]
  | .nthItem => ["apply"]
  | .firstValid => ["apply"]
  | .isEmpty => ["apply"]
  | .iterableConcat => ["apply"]
  | .iterableFilter => ["apply"]
  | .divideBy => ["apply"]
  | .multiplyBy => ["apply"]
  | .stringRegexReplace => ["apply"]
  | .concat => ["apply"]
  | .ageOff => ["test"]
  | .isMoreThan => ["test"]
  | .isLessThan => ["test"]
  | .isEqual => ["test"]
  | .isXLessThanY => ["test", "is_input_valid"]
  | .negation => ["test"]
  | .conjunction => ["test"]
  | .disjunction => ["test"]
  | .isA => ["test"]
  | .areIn => ["test"]
  | .regex => ["test"]
  | .multiRegex => ["test"]
  | .stringConcat => ["_apply"]
  | .collectionConcat => ["_apply"]
  | .numericAggregateFunction => ["_apply"]
  | .sum => ["_aggregate"]
  | .product => ["_aggregate"]
  | .greatest => ["_aggregate"]
  | .least => ["_aggregate"]
  | _ => []

/-- The names that subclasses of a class have to define. -/
def required : LibraryClass → List String
  | .tuple => ["get", "put", "values"]
  | .function => ["apply"]
  | .predicate => ["test"]
  | .binaryOperator => ["_apply"]
  | .function2 => ["apply"]
  | .function3 => ["apply"]
  | .function4 => ["apply"]
  | .function5 => ["apply"]
  | .predicate2 => ["test"]
  | .predicate3 => ["test"]
  | .predicate4 => ["test"]
  | .predicate5 => ["test"]
  | .numericAggregateFunction => ["_aggregate"]
  | _ => []

def properties : LibraryClass → List (String × Property)
  | .arrayTuple => [("arity", .size)]
  | .functionComposite => [("input_types", .compositeInput), ("output_types", .compositeOutput)]
  | .negation => [("input_types", .negatedInput)]
  | .controlComparison => [("input_types", .controlInput)]
  | .cast => [("output_types", .castOutput)]
  | .inputAdapted => [("input_adapter_kind", .inputKind)]
  | .outputAdapted => [("output_adapter_kind", .outputKind)]
  | .tupleAdaptedFunction => [("selection", .selection), ("projection", .foldProjection)]
  | .tupleAdaptedPredicate => [("selection", .selection)]
  | .ageOff => [("age_off_days", .ageDays), ("age_off_hours", .ageHours)]
  | .isA => [("type_name", .typeName)]
  | _ => []

/-- What a class defines under a name. -/
def member? (k : LibraryClass) (name : String) : Option LibraryMember :=
  if (k.methods.contains name) then some .method
  else if (k.required.contains name) then some .required
  else if k == .signatureChecks && (name == "input_types" || name == "output_types") then
    some .unstated
  else (k.properties.lookup name).map .property

end LibraryClass

namespace World

variable (w : World)

/-- What a class itself defines under a name. -/
def ownMember? (c : ClassName) (name : String) : Option Member :=
  match LibraryClass.ofClassName? c with
  | some k =>
    match k.member? name with
    | some m => some (.library k m)
    | none => arity?
  | none =>
    match w.declaration? c with
    | some d =>
      match d.methods.lookup name with
      | some r => some (.routine r)
      | none =>
        if name == "input_types" && d.inputTypes.isSome then d.inputTypes.map .stated
        else if name == "output_types" && d.outputTypes.isSome then d.outputTypes.map .stated
        else arity?
    | none => none
where
  arity? : Option Member :=
    if name == "arity" then
      match (w.hierarchy.info c).arity with
      | some (some n) => some (.arity n)
      | _ => none
    else none

/-- What the first of some classes that defines a name defines under it, with what comes after that
class. -/
def memberIn? (name : String) : List ClassName → Option (Member × List ClassName)
  | [] => none
  | c :: cs =>
    match w.ownMember? c name with
    | some m => some (m, cs)
    | none => memberIn? name cs

/-- What a class has under a name. -/
def member? (c : ClassName) (name : String) : Option Member :=
  (w.memberIn? name (w.hierarchy.mro c)).map (·.1)

/-- All names that some class requires to be defined. -/
def requiredNames : List String := ["apply", "test", "_apply", "_aggregate", "get", "put", "values"]

/-- Whether a class leaves a method undefined that it is required to define. -/
def isAbstract (c : ClassName) : Bool :=
  (w.hierarchy.info c).abstract &&
    requiredNames.any fun name =>
      match w.member? c name with
      | some (.library _ .required) => true
      | _ => false

/-- The attributes that are set on an object. -/
def attributes (v : Value) : List (String × Value) :=
  match v with
  | .ref r =>
    match w.cell? r with
    | some (.object _ _ as) => as
    | _ => []
  | _ => []

/-- The parameterized form through which an object was made. -/
def originAlias? (v : Value) : Option Ty :=
  match v with
  | .ref r =>
    match w.cell? r with
    | some (.object _ a _) => a
    | some (.slots _ a _) => a
    | some (.fields _ a _) => a
    | _ => none
  | _ => none

end World

end FunctionObjects
