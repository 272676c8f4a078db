import FunctionObjects.Class.Core
/-!
# The classes of the library

Tuples, function objects and their adapters, each with its bases as they are declared.
-/

namespace FunctionObjects

/-- The classes that the library itself provides. -/
inductive LibraryClass where
  | tuple | arrayTuple | fixedTuple | tuple1 | tuple2 | tuple3 | tuple4 | tuple5 | mapTuple
  | structural | signatureChecks | function | predicate | binaryOperator | binaryOperatorMap
  | functionComposite | predicateComposite | adapterKind | inputAdapted | outputAdapted | adapted
  | adaptedFunction | adaptedPredicate | adaptedBinaryOperator | functionN | function2 | function3
  | function4 | function5 | predicateN | predicate2 | predicate3 | predicate4 | predicate5
  | tupleInputAdapter | tupleOutputAdapter | tupleAdaptedFunction | tupleAdaptedPredicate
  | identity | cast | toLong | dictionaryLookup | toArray | toDateString | parseTime | csvOptions
  | csvToMaps | csvLinesToMaps | nthItem | firstValid | isEmpty | iterableConcat | iterableFilter
  | divideBy | multiplyBy | stringRegexReplace | concat | ageOff | controlComparison | isMoreThan
  | isLessThan | isEqual | isXLessThanY | negation | conjunction | disjunction | isA | areIn
  | regex | multiRegex | stringConcat | collectionConcat | numericAggregateFunction | sum
  | product | greatest | least
deriving DecidableEq, Repr, Inhabited

namespace LibraryClass

def all : List LibraryClass := [
  .tuple, .arrayTuple, .fixedTuple, .tuple1, .tuple2, .tuple3, .tuple4, .tuple5, .mapTuple,
  .structural, .signatureChecks, .function, .predicate, .binaryOperator, .binaryOperatorMap,
  .functionComposite, .predicateComposite, .adapterKind, .inputAdapted, .outputAdapted, .adapted,
  .adaptedFunction, .adaptedPredicate, .adaptedBinaryOperator, .functionN, .function2,
  .function3, .function4, .function5, .predicateN, .predicate2, .predicate3, .predicate4,
  .predicate5, .tupleInputAdapter, .tupleOutputAdapter, .tupleAdaptedFunction,
  .tupleAdaptedPredicate, .identity, .cast, .toLong, .dictionaryLookup, .toArray, .toDateString,
  .parseTime, .csvOptions, .csvToMaps, .csvLinesToMaps, .nthItem, .firstValid, .isEmpty,
  .iterableConcat, .iterableFilter, .divideBy, .multiplyBy, .stringRegexReplace, .concat,
  .ageOff, .controlComparison, .isMoreThan, .isLessThan, .isEqual, .isXLessThanY, .negation,
  .conjunction, .disjunction, .isA, .areIn, .regex, .multiRegex, .stringConcat,
  .collectionConcat, .numericAggregateFunction, .sum, .product, .greatest, .least]

/-- The name that a class has in messages and in written types. -/
def className : LibraryClass → ClassName
  | .tuple => ⟨"fnweave.core.types.tuples", "Tuple"⟩
  | .arrayTuple => ⟨"fnweave.core.types.tuples", "ArrayTuple"⟩
  | .fixedTuple => ⟨"fnweave.core.types.tuples", "FixedTuple"⟩
  | .tuple1 => ⟨"fnweave.core.types.tuples", "Tuple1"⟩
  | .tuple2 => ⟨"fnweave.core.types.tuples", "Tuple2"⟩
  | .tuple3 => ⟨"fnweave.core.types.tuples", "Tuple3"⟩
  | .tuple4 => ⟨"fnweave.core.types.tuples", "Tuple4"⟩
  | .tuple5 => ⟨"fnweave.core.types.tuples", "Tuple5"⟩
  | .mapTuple => ⟨"fnweave.core.types.tuples", "MapTuple"⟩
  | .structural => ⟨"fnweave.core.functions.base", "Structural"⟩
  | .signatureChecks => ⟨"fnweave.core.functions.base", "_SignatureChecks"⟩
  | .function => ⟨"fnweave.core.functions.base", "Function"⟩
  | .predicate => ⟨"fnweave.core.functions.base", "Predicate"⟩
  | .binaryOperator => ⟨"fnweave.core.functions.base", "BinaryOperator"⟩
  | .binaryOperatorMap => ⟨"fnweave.core.functions.binary_operator_map", "BinaryOperatorMap"⟩
  | .functionComposite => ⟨"fnweave.core.functions.composite", "FunctionComposite"⟩
  | .predicateComposite => ⟨"fnweave.core.functions.composite", "PredicateComposite"⟩
  | .adapterKind => ⟨"fnweave.core.adapted.input_adapted", "AdapterKind"⟩
  | .inputAdapted => ⟨"fnweave.core.adapted.input_adapted", "InputAdapted"⟩
  | .outputAdapted => ⟨"fnweave.core.adapted.output_adapted", "OutputAdapted"⟩
  | .adapted => ⟨"fnweave.core.adapted.adapted", "Adapted"⟩
  | .adaptedFunction => ⟨"fnweave.core.adapted.adapted", "AdaptedFunction"⟩
  | .adaptedPredicate => ⟨"fnweave.core.adapted.adapted", "AdaptedPredicate"⟩
  | .adaptedBinaryOperator => ⟨"fnweave.core.adapted.adapted", "AdaptedBinaryOperator"⟩
  | .functionN => ⟨"fnweave.core.nary.function_n", "FunctionN"⟩
  | .function2 => ⟨"fnweave.core.nary.function_n", "Function2"⟩
  | .function3 => ⟨"fnweave.core.nary.function_n", "Function3"⟩
  | .function4 => ⟨"fnweave.core.nary.function_n", "Function4"⟩
  | .function5 => ⟨"fnweave.core.nary.function_n", "Function5"⟩
  | .predicateN => ⟨"fnweave.core.nary.predicate_n", "PredicateN"⟩
  | .predicate2 => ⟨"fnweave.core.nary.predicate_n", "Predicate2"⟩
  | .predicate3 => ⟨"fnweave.core.nary.predicate_n", "Predicate3"⟩
  | .predicate4 => ⟨"fnweave.core.nary.predicate_n", "Predicate4"⟩
  | .predicate5 => ⟨"fnweave.core.nary.predicate_n", "Predicate5"⟩
  | .tupleInputAdapter => ⟨"fnweave.core.nary.tuple_adapted", "TupleInputAdapter"⟩
  | .tupleOutputAdapter => ⟨"fnweave.core.nary.tuple_adapted", "TupleOutputAdapter"⟩
  | .tupleAdaptedFunction => ⟨"fnweave.core.nary.tuple_adapted", "TupleAdaptedFunction"⟩
  | .tupleAdaptedPredicate => ⟨"fnweave.core.nary.tuple_adapted", "TupleAdaptedPredicate"⟩
  | .identity => ⟨"fnweave.impl.function.basic", "Identity"⟩
  | .cast => ⟨"fnweave.impl.function.basic", "Cast"⟩
  | .toLong => ⟨"fnweave.impl.function.basic", "ToLong"⟩
  | .dictionaryLookup => ⟨"fnweave.impl.function.basic", "DictionaryLookup"⟩
  | .toArray => ⟨"fnweave.impl.function.basic", "ToArray"⟩
  | .toDateString => ⟨"fnweave.impl.function.dates", "ToDateString"⟩
  | .parseTime => ⟨"fnweave.impl.function.dates", "ParseTime"⟩
  | .csvOptions => ⟨"fnweave.impl.function.delimited", "_CsvOptions"⟩
  | .csvToMaps => ⟨"fnweave.impl.function.delimited", "CsvToMaps"⟩
  | .csvLinesToMaps => ⟨"fnweave.impl.function.delimited", "CsvLinesToMaps"⟩
  | .nthItem => ⟨"fnweave.impl.function.iterable", "NthItem"⟩
  | .firstValid => ⟨"fnweave.impl.function.iterable", "FirstValid"⟩
  | .isEmpty => ⟨"fnweave.impl.function.iterable", "IsEmpty"⟩
  | .iterableConcat => ⟨"fnweave.impl.function.iterable", "IterableConcat"⟩
  | .iterableFilter => ⟨"fnweave.impl.function.iterable", "IterableFilter"⟩
  | .divideBy => ⟨"fnweave.impl.function.numeric", "DivideBy"⟩
  | .multiplyBy => ⟨"fnweave.impl.function.numeric", "MultiplyBy"⟩
  | .stringRegexReplace => ⟨"fnweave.impl.function.text", "StringRegexReplace"⟩
  | .concat => ⟨"fnweave.impl.function.text", "Concat"⟩
  | .ageOff => ⟨"fnweave.impl.predicate.age_off", "AgeOff"⟩
  | .controlComparison => ⟨"fnweave.impl.predicate.comparison", "_ControlValueComparison"⟩
  | .isMoreThan => ⟨"fnweave.impl.predicate.comparison", "IsMoreThan"⟩
  | .isLessThan => ⟨"fnweave.impl.predicate.comparison", "IsLessThan"⟩
  | .isEqual => ⟨"fnweave.impl.predicate.comparison", "IsEqual"⟩
  | .isXLessThanY => ⟨"fnweave.impl.predicate.comparison", "IsXLessThanY"⟩
  | .negation => ⟨"fnweave.impl.predicate.logical", "Not"⟩
  | .conjunction => ⟨"fnweave.impl.predicate.logical", "And"⟩
  | .disjunction => ⟨"fnweave.impl.predicate.logical", "Or"⟩
  | .isA => ⟨"fnweave.impl.predicate.membership", "IsA"⟩
  | .areIn => ⟨"fnweave.impl.predicate.membership", "AreIn"⟩
  | .regex => ⟨"fnweave.impl.predicate.regex", "Regex"⟩
  | .multiRegex => ⟨"fnweave.impl.predicate.regex", "MultiRegex"⟩
  | .stringConcat => ⟨"fnweave.impl.binaryoperator.concat", "StringConcat"⟩
  | .collectionConcat => ⟨"fnweave.impl.binaryoperator.concat", "CollectionConcat"⟩
  | .numericAggregateFunction => ⟨"fnweave.impl.binaryoperator.numeric", "NumericAggregateFunction"⟩
  | .sum => ⟨"fnweave.impl.binaryoperator.numeric", "Sum"⟩
  | .product => ⟨"fnweave.impl.binaryoperator.numeric", "Product"⟩
  | .greatest => ⟨"fnweave.impl.binaryoperator.numeric", "Max"⟩
  | .least => ⟨"fnweave.impl.binaryoperator.numeric", "Min"⟩

def ofClassName? (c : ClassName) : Option LibraryClass := all.find? fun k => k.className == c

def lib (k : LibraryClass) : Ty := .cls k.className
def int : Ty := .cls (.core "int")
def str : Ty := .cls (.core "str")
def bool : Ty := .cls (.core "bool")
/-- The base of classes that can have virtual subclasses. -/
def root : Ty := .cls ⟨"abc", "ABC"⟩
def v (scope name : String) : Ty := .var ⟨scope, name⟩ none
def app (k : LibraryClass) (ts : List Ty) : Ty := .app (.cls k.className) ts
def interface (a : Alias) (ts : List Ty) : Ty := .app (.named a) ts
def generic (vs : List Ty) : Ty := .app (.cls ClassTable.generic) vs

/-- The bases of a class, with the arguments that it gives to them. -/
def bases : LibraryClass → List Ty
  | .tuple => [root, (generic [(v "tuples" "R")])]
  | .arrayTuple => [(app .tuple [int])]
  | .fixedTuple => [lib .arrayTuple]
  | .tuple1 => [lib .fixedTuple, (generic [(v "tuples" "T")])]
  | .tuple2 => [lib .fixedTuple, (generic [(v "tuples" "T"), (v "tuples" "U")])]
  | .tuple3 => [lib .fixedTuple, (generic [(v "tuples" "T"), (v "tuples" "U"), (v "tuples" "V")])]
  | .tuple4 => [
      lib .fixedTuple,
      (generic [(v "tuples" "T"), (v "tuples" "U"), (v "tuples" "V"), (v "tuples" "W")])]
  | .tuple5 => [
      lib .fixedTuple,
      (generic [(v "tuples" "T"), (v "tuples" "U"), (v "tuples" "V"), (v "tuples" "W"), (v "tuples" "X")])]
  | .mapTuple => [(app .tuple [str])]
  | .structural => []
  | .signatureChecks => []
  | .function => [
      lib .structural,
      lib .signatureChecks,
      root,
      (generic [(v "base" "I"), (v "base" "O")])]
  | .predicate => [lib .structural, lib .signatureChecks, root, (generic [(v "base" "I")])]
  | .binaryOperator => [lib .structural, lib .signatureChecks, root, (generic [(v "base" "T")])]
  | .binaryOperatorMap => [(app .binaryOperator [(interface .dict [.any, .any])])]
  | .functionComposite => [(app .function [.any, .any])]
  | .predicateComposite => [(app .predicate [.any])]
  | .adapterKind => [.cls ⟨"enum", "Enum"⟩]
  | .inputAdapted => [
      lib .structural,
      (generic [(v "input_adapted" "I"), (v "input_adapted" "AI")])]
  | .outputAdapted => [
      lib .structural,
      (generic [(v "output_adapted" "FO"), (v "output_adapted" "O"), (v "output_adapted" "IO")])]
  | .adapted => [
      (app .inputAdapted [(v "adapted" "I"), (v "adapted" "FI")]),
      (app .outputAdapted [(v "adapted" "FO"), (v "adapted" "O"), (v "adapted" "IO")])]
  | .adaptedFunction => [
      (app .adapted [(v "adapted" "I"), (v "adapted" "FI"), (v "adapted" "FO"), (v "adapted" "O"), (v "adapted" "I")]),
      (app .function [(v "adapted" "I"), (v "adapted" "O")])]
  | .adaptedPredicate => [
      (app .inputAdapted [(v "adapted" "I"), (v "adapted" "PI")]),
      (app .predicate [(v "adapted" "I")])]
  | .adaptedBinaryOperator => [
      (app .adapted [(v "adapted" "T"), (v "adapted" "OT"), (v "adapted" "OT"), (v "adapted" "T"), (v "adapted" "T")]),
      (app .binaryOperator [(v "adapted" "T")])]
  | .functionN => [
      (app .function [(.var ⟨"function_n", "TP"⟩ (some (lib .arrayTuple))), (v "function_n" "R")])]
  | .function2 => [
      (app .functionN [(app .tuple2 [(v "function_n" "T"), (v "function_n" "U")]), (v "function_n" "R")])]
  | .function3 => [
      (app .functionN [(app .tuple3 [(v "function_n" "T"), (v "function_n" "U"), (v "function_n" "V")]), (v "function_n" "R")])]
  | .function4 => [
      (app .functionN [(app .tuple4 [(v "function_n" "T"), (v "function_n" "U"), (v "function_n" "V"), (v "function_n" "W")]), (v "function_n" "R")])]
  | .function5 => [
      (app .functionN [(app .tuple5 [(v "function_n" "T"), (v "function_n" "U"), (v "function_n" "V"), (v "function_n" "W"), (v "function_n" "X")]), (v "function_n" "R")])]
  | .predicateN => [(app .predicate [(.var ⟨"predicate_n", "TP"⟩ (some (lib .arrayTuple)))])]
  | .predicate2 => [
      (app .predicateN [(app .tuple2 [(v "predicate_n" "T"), (v "predicate_n" "U")])])]
  | .predicate3 => [
      (app .predicateN [(app .tuple3 [(v "predicate_n" "T"), (v "predicate_n" "U"), (v "predicate_n" "V")])])]
  | .predicate4 => [
      (app .predicateN [(app .tuple4 [(v "predicate_n" "T"), (v "predicate_n" "U"), (v "predicate_n" "V"), (v "predicate_n" "W")])])]
  | .predicate5 => [
      (app .predicateN [(app .tuple5 [(v "predicate_n" "T"), (v "predicate_n" "U"), (v "predicate_n" "V"), (v "predicate_n" "W"), (v "predicate_n" "X")])])]
  | .tupleInputAdapter => [(app .function [lib .tuple, .any])]
  | .tupleOutputAdapter => [lib .structural]
  | .tupleAdaptedFunction => [(app .adaptedFunction [lib .tuple, .any, .any, lib .tuple])]
  | .tupleAdaptedPredicate => [(app .adaptedPredicate [lib .tuple, .any])]
  | .identity => [(app .function [(v "basic" "T"), (v "basic" "T")])]
  | .cast => [(app .function [.any, .any])]
  | .toLong => [(app .function [.any, int])]
  | .dictionaryLookup => [(app .function [(v "basic" "K"), (v "basic" "V")])]
  | .toArray => [(app .function [.any, (interface .list [.any])])]
  | .toDateString => [(app .function [.cls ⟨"datetime", "datetime"⟩, str])]
  | .parseTime => [(app .function [str, int])]
  | .csvOptions => []
  | .csvToMaps => [
      lib .csvOptions,
      (app .function [str, (interface .list [(interface .dict [str, .any])])])]
  | .csvLinesToMaps => [
      lib .csvOptions,
      (app .function [(interface .iterable [str]), (interface .list [(interface .dict [str, .any])])])]
  | .nthItem => [(app .function [(interface .iterable [.any]), .any])]
  | .firstValid => [(app .function [(interface .iterable [.any]), .any])]
  | .isEmpty => [(app .function [(interface .iterable [.any]), bool])]
  | .iterableConcat => [
      (app .function [(interface .iterable [(interface .iterable [.any])]), (interface .list [.any])])]
  | .iterableFilter => [(app .function [(interface .iterable [.any]), (interface .iterable [.any])])]
  | .divideBy => [(app .function [int, (app .tuple2 [int, int])])]
  | .multiplyBy => [(app .function [int, int])]
  | .stringRegexReplace => [(app .function [str, str])]
  | .concat => [(app .function2 [.any, .any, str])]
  | .ageOff => [(app .predicate [int])]
  | .controlComparison => [(app .predicate [.any])]
  | .isMoreThan => [lib .controlComparison]
  | .isLessThan => [lib .controlComparison]
  | .isEqual => [lib .controlComparison]
  | .isXLessThanY => [(app .predicate2 [.any, .any])]
  | .negation => [(app .predicate [.any])]
  | .conjunction => [lib .predicateComposite]
  | .disjunction => [lib .predicateComposite]
  | .isA => [(app .predicate [.any])]
  | .areIn => [(app .predicate [(interface .collection [.any])])]
  | .regex => [(app .predicate [str])]
  | .multiRegex => [(app .predicate [str])]
  | .stringConcat => [(app .binaryOperator [str])]
  | .collectionConcat => [(app .binaryOperator [(interface .collection [.any])])]
  | .numericAggregateFunction => [(app .binaryOperator [.cls ⟨"numbers", "Number"⟩])]
  | .sum => [lib .numericAggregateFunction]
  | .product => [lib .numericAggregateFunction]
  | .greatest => [lib .numericAggregateFunction]
  | .least => [lib .numericAggregateFunction]

/-- What a class defines that interfaces ask for. -/
def traits : LibraryClass → List (Trait × Bool)
  | .tuple => [(.iter, true), (.len, true)]
  | .arrayTuple => [(.hash, false)]
  | .mapTuple => [(.hash, false)]
  | .structural => [(.hash, true)]
  | .function => [(.call, true)]
  | .predicate => [(.call, true)]
  | .binaryOperator => [(.call, true)]
  | .tupleOutputAdapter => [(.call, true)]
  | _ => []

/-- The number of positions that a class fixes; tuples of any size compute theirs. -/
def arity : LibraryClass → Option (Option Nat)
  | .arrayTuple => some none
  | .tuple1 => some (some 1)
  | .tuple2 => some (some 2)
  | .tuple3 => some (some 3)
  | .tuple4 => some (some 4)
  | .tuple5 => some (some 5)
  | .function2 => some (some 2)
  | .function3 => some (some 3)
  | .function4 => some (some 4)
  | .function5 => some (some 5)
  | .predicate2 => some (some 2)
  | .predicate3 => some (some 3)
  | .predicate4 => some (some 4)
  | .predicate5 => some (some 5)
  | _ => none

end LibraryClass

end FunctionObjects
