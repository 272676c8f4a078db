import FunctionObjects.Call.Construction
import FunctionObjects.Call.Routine
import FunctionObjects.Function.Base
import FunctionObjects.Function.Chain
import FunctionObjects.Function.Conversion
import FunctionObjects.Function.Fields
import FunctionObjects.Function.Items
import FunctionObjects.Function.Unpacked
import FunctionObjects.Operator.ByKey
import FunctionObjects.Operator.Aggregation
import FunctionObjects.Predicate.Comparison
import FunctionObjects.Predicate.Logical
import FunctionObjects.Tuple.Named
/-!
# Methods

What happens when a method is called.  An attribute of the object comes first, then the first class
in its order of search that defines the name.
-/

namespace FunctionObjects

/-- The value that says that a class does not compare itself with another one. -/
def Value.undecided : Value := .atom (.other (.core "NotImplementedType"))

namespace World

/-- Whether a value is an object of a class. -/
def isObjectOf (w : World) (k : LibraryClass) (v : Value) : Bool :=
  w.isSubclass (w.classOf v) k.className

/-- The types that some values stand for. -/
def typesOf (w : World) (vs : List Value) : List Ty := vs.map w.tyOf

/-- Checks types against a side of a function. -/
def check (w : World) (s : Side) (f : Value) (ts : List Ty) : Except Fault ValidationResult := do
  return (← w.signature s f).assignable w.classes s ts

end World

namespace Method

variable (d : Dispatch)

/-- Checks types against a side of an object. -/
def check (s : Side) (self : Value) (ts : List Value) : Run Value := do
  let w ← get
  return .atom (.result (← Run.lift (w.check s self (w.typesOf ts))))

/-- Whether an object stands in a relation to another one of the same kind. -/
def compareWith (k : LibraryClass) (outcome : Value → Value → Run Bool) (self x : Value) :
    Run Value := do
  if (← get).isObjectOf k x then return .bool (← outcome self x) else return .undecided

/-- An iterator over the values of a tuple. -/
def iterator (self : Value) : Run Value := do
  Run.alloc (.iterator (.core "list_iterator") (← d.items self))

/-- Methods of tuples. -/
def ofTuple (k : LibraryClass) (name : String) (self : Value) (args : List Value) :
    Option (Run Value) :=
  match k, name, args with
  | .tuple, "__iter__", [] => some (iterator d self)
  | .tuple, "__len__", [] => some (do return .int (← d.length self))
  | .arrayTuple, "get", [r] => some (PositionalTuple.get self r)
  | .arrayTuple, "put", [r, v] => some (PositionalTuple.put self r v)
  | .arrayTuple, "values", [] => some (PositionalTuple.values self)
  | .arrayTuple, "__getitem__", [r] => some (d.method self "get" [r])
  | .arrayTuple, "__eq__", [x] => some (compareWith k Run.same self x)
  | .arrayTuple, "__lt__", [x] => some (compareWith k (Run.holds .lt) self x)
  | .mapTuple, "get", [r] => some (NamedTuple.get self r)
  | .mapTuple, "put", [r, v] => some (NamedTuple.put self r v)
  | .mapTuple, "values", [] => some (NamedTuple.values self)
  | .mapTuple, "fields", [] => some (NamedTuple.names self)
  | .mapTuple, "__getitem__", [r] => some (d.method self "get" [r])
  | .mapTuple, "__eq__", [x] => some (compareWith k Run.same self x)
  | _, "__repr__", [] => some (do return .str (← Run.shown self))
  | _, _, _ => none

/-- Methods of the bases of functions and of what adapts and chains them. -/
def ofBase (k : LibraryClass) (name : String) (self : Value) (args : List Value) :
    Option (Run Value) :=
  match k, name, args with
  | .structural, "__eq__", [x] => some (do return .bool (← Run.same self x))
  | .structural, "__repr__", [] => some (do return .str (← Run.shown self))
  | .signatureChecks, "is_input_valid", ts => some (check .input self ts)
  | .signatureChecks, "is_output_valid", ts => some (check .output self ts)
  | .function, "__call__", [x] => some (callFunction d self x)
  | .predicate, "__call__", [x] => some (callPredicate d self x)
  | .binaryOperator, "__call__", [s, x] => some (callOperator d self s x)
  | .binaryOperator, "apply", [s, x] => some (applyOperator d self s x)
  | .binaryOperatorMap, "apply", [s, x] => some (ByKey.apply d self s x)
  | .binaryOperatorMap, "_apply", [s, x] => some (ByKey.combine d self s x)
  | .functionComposite, "apply", [x] => some (Chain.apply d self x)
  | .functionComposite, "validate", [] => some (Chain.validate d self)
  | .inputAdapted, "adapt_input", [x] => some (Adapted.adaptInput d self x)
  | .outputAdapted, "adapt_output", [y] => some (Adapted.adaptOutput d self y .none)
  | .outputAdapted, "adapt_output", [y, s] => some (Adapted.adaptOutput d self y s)
  | .adaptedFunction, "apply", [x] => some (Adapted.applyFunction d self x)
  | .adaptedPredicate, "test", [x] => some (Adapted.testPredicate d self x)
  | .adaptedBinaryOperator, "apply", [s, x] => some (Adapted.applyOperator d self s x)
  | .adaptedBinaryOperator, "_apply", [s, x] => some (d.method self "apply" [s, x])
  | .functionN, "__call__", [x] => some (Unpacked.callFunction d self x)
  | .functionN, "delegate_apply", [x] => some (Unpacked.delegateApply d self x)
  | .predicateN, "__call__", [x] => some (Unpacked.callPredicate d self x)
  | .predicateN, "delegate_test", [x] => some (Unpacked.delegateTest d self x)
  | .tupleInputAdapter, "apply", [x] => some (Fields.select d self x)
  | .tupleOutputAdapter, "__call__", [s, y] => some (Fields.project d self s y)
  | _, _, _ => none

/-- Methods of functions. -/
def ofFunction (k : LibraryClass) (name : String) (self : Value) (args : List Value) :
    Option (Run Value) :=
  match k, name, args with
  | .identity, "apply", [x] => some (pure x)
  | .cast, "apply", [x] => some (Conversion.cast d self x)
  | .toLong, "apply", [x] => some (Conversion.toLong d x)
  | .dictionaryLookup, "apply", [x] => some (Conversion.lookUp d self x)
  | .toArray, "apply", [x] => some (Conversion.toArray d x)
  | .toDateString, "apply", [x] => some (Dates.toText self x)
  | .parseTime, "apply", [x] => some (Dates.parse self x)
  | .csvOptions, "_parse", [x] => some (Tables.parse d self x)
  | .csvToMaps, "apply", [x] => some (Tables.apply d self x)
  | .csvLinesToMaps, "apply", [x] => some (Tables.applyLines d self x)
  | .nthItem, "apply", [x] => some (Items.nth d self x)
  | .firstValid, "apply", [x] => some (Items.firstValid d self x)
  | .isEmpty, "apply", [x] => some (Items.isEmpty d x)
  | .iterableConcat, "apply", [x] => some (Items.concat d x)
  | .iterableFilter, "apply", [x] => some (Items.filter d self x)
  | .divideBy, "apply", [x] => some (Numbers.divide self x)
  | .multiplyBy, "apply", [x] => some (Numbers.multiply self x)
  | .stringRegexReplace, "apply", [x] => some (Texts.replace self x)
  | .concat, "apply", [x, y] => some (Texts.concat self x y)
  | _, _, _ => none

/-- Checks types against the input of an object that takes two values of one type. -/
def checkPair (self : Value) (ts : List Value) : Run Value := do
  let w ← get
  if !w.isObjectOf .isXLessThanY self then throw .wrongType
  let types := w.typesOf ts
  return .atom (.result (Comparison.sameTypes (← Run.lift (w.check .input self types)) types))

/-- Methods of predicates. -/
def ofPredicate (k : LibraryClass) (name : String) (self : Value) (args : List Value) :
    Option (Run Value) :=
  match k, name, args with
  | .ageOff, "test", [x] => some (Age.test self x)
  | .isMoreThan, "test", [x] => some (Comparison.test d .gt .ge self x)
  | .isLessThan, "test", [x] => some (Comparison.test d .lt .le self x)
  | .isEqual, "test", [x] => some (Comparison.isEqual self x)
  | .isXLessThanY, "test", [x, y] => some (Comparison.ordered .lt x y)
  | .isXLessThanY, "is_input_valid", ts => some (checkPair self ts)
  | .negation, "test", [x] => some (Logical.negation d self x)
  | .conjunction, "test", [x] => some (Logical.conjunction d self x)
  | .disjunction, "test", [x] => some (Logical.disjunction d self x)
  | .isA, "test", [x] => some (Membership.isA self x)
  | .areIn, "test", [x] => some (Membership.areIn d self x)
  | .regex, "test", [x] => some (Matching.test self x)
  | .multiRegex, "test", [x] => some (Matching.testAny d self x)
  | _, _, _ => none

/-- Methods of operators. -/
def ofOperator (k : LibraryClass) (name : String) (self : Value) (args : List Value) :
    Option (Run Value) :=
  match k, name, args with
  | .stringConcat, "_apply", [s, x] => some (Concatenation.joinTexts self s x)
  | .collectionConcat, "_apply", [s, x] => some (Concatenation.extend d s x)
  | .numericAggregateFunction, "_apply", [s, x] => some (Aggregation.apply d self s x)
  | .sum, "_aggregate", [x, y] => some (Run.add x y)
  | .product, "_aggregate", [x, y] => some (Run.mul x y)
  | .greatest, "_aggregate", [x, y] => some (Aggregation.greatest x y)
  | .least, "_aggregate", [x, y] => some (Aggregation.least x y)
  | _, _, _ => none

/-- Calls a method that a library class defines. -/
def ofLibrary (k : LibraryClass) (name : String) (self : Value) (args : List Value) : Run Value :=
  (ofTuple d k name self args <|> ofBase d k name self args <|> ofFunction d k name self args <|>
    ofPredicate d k name self args <|> ofOperator d k name self args).getD (throw .wrongType)

/-- How many arguments a method takes that subclasses have to define. -/
def requiredCount (k : LibraryClass) (name : String) : Nat :=
  match name with
  | "values" => 0
  | "put" => 2
  | "_apply" => 2
  | "_aggregate" => 2
  | _ => (k.arity.bind id).getD 1

/-- Calls what the first of some classes that defines a name defines under it. -/
def inClasses (self : Value) (name : String) (args : List Value) : List ClassName → Run Value
  | [] => throw .noAttribute
  | c :: cs => do
    match (← get).ownMember? c name with
    | none => inClasses self name args cs
    | some (.routine r) => r.run d (inClasses self name args cs) args
    | some (.library k .method) => ofLibrary d k name self args
    | some (.library k .required) =>
      if args.length = requiredCount k name then return .none else throw .wrongType
    | some _ => throw .wrongType

/-- Methods of values of the language core. -/
def ofPlain (v : Value) (name : String) (args : List Value) : Run Value := do
  match v with
  | .atom a =>
    match name, args with
    | "upper", [] =>
      match a.text?, a.bytes? with
      | some s, _ => return .str (Text.upper s)
      | _, some bs =>
        return .atom (.bytes (bs.map fun b => if 97 ≤ b ∧ b ≤ 122 then b - 32 else b))
      | _, _ => throw .noAttribute
    | "upper", _ =>
      if a.text?.isSome || a.bytes?.isSome then throw .wrongType else throw .noAttribute
    | "__repr__", [] => return .str (← Run.shown v)
    | _, _ => throw .noAttribute
  | .ref r =>
    match ← Run.cell? r, name, args with
    | some (.dict es), "get", [k] => return (← Run.lookup? es k).getD .none
    | some (.dict es), "get", [k, other] => return (← Run.lookup? es k).getD other
    | some (.dict _), "get", _ => throw .wrongType
    | some (.bytearray bs), "upper", [] =>
      Run.alloc (.bytearray (bs.map fun b => if 97 ≤ b ∧ b ≤ 122 then b - 32 else b))
    | _, "__repr__", [] => return .str (← Run.shown v)
    | _, _, _ => throw .noAttribute
  | _ =>
    if name == "__repr__" && args.isEmpty then return .str (← Run.shown v)
    else throw .noAttribute

/-- Whether a value has methods of a class of the library or of a caller. -/
def isObject (w : World) (v : Value) : Bool :=
  match v with
  | .ref r =>
    match w.cell? r with
    | some (.object ..) => true
    | some (.slots ..) => true
    | some (.fields ..) => true
    | _ => false
  | _ => false

/-- Calls a method of a class on the object that comes first among the arguments. -/
def ofType (t : Ty) (name : String) (args : List Value) : Run Value := do
  let w ← get
  match t.originClass?.filter fun c => (w.member? c name).isSome, args with
  | some c, self :: args => inClasses d self name args (w.hierarchy.mro c)
  | some _, [] => throw .wrongType
  | none, _ => throw .noAttribute

/-- Calls a method. -/
def call (self : Value) (name : String) (args : List Value) : Run Value := do
  let w ← get
  if let .atom (.type t) := self then return ← ofType d t name args
  if !isObject w self then return ← ofPlain self name args
  let c := w.classOf self
  match w.member? c name with
  | some (.library _ (.property _)) => throw .wrongType
  | _ =>
    match (w.attributes self).lookup name with
    | some f => d.call f args
    | none => inClasses d self name args (w.hierarchy.mro c)

end Method

end FunctionObjects
