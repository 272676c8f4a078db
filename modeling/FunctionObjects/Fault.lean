import FunctionObjects.ValidationResult
import FunctionObjects.Text.Quoted
/-!
# Faults

Why an operation has no result.  The first groups are refusals of the library itself, the last one
is made of the failures of plain operations on values.  The wording of every refusal is in
`Fault.message`.
-/

namespace FunctionObjects

/-- A step on the way to the place of a problem in a configuration. -/
inductive Place where
  | field (name : String)
  | index (i : Int)
deriving DecidableEq, Repr

/-- What is wrong with one part of a configuration. -/
inductive Problem where
  | missing
  | notText
  /-- Bytes that stand for no text. -/
  | notEncoded
  | emptyText
  /-- Not an object; the name of the model that it should make up, if the text is not JSON. -/
  | notModel (model : Option String)
  | notList
  | noFunctions
  | unreadableBool
  | notBool
  | badKey
  | notJson
deriving DecidableEq, Repr

structure Detail where
  problem : Problem
  place : List Place
deriving DecidableEq, Repr

/-- What was found where a tuple was expected. -/
inductive Found where
  | count (n : Int)
  | instance' (typeName : String)
deriving DecidableEq, Repr

def Found.text : Found → String
  | .count n => toString n
  | .instance' t => "a " ++ t ++ " input"

/-- What a function that is not set was to be. -/
inductive Role where
  | function | predicate | operator
deriving DecidableEq, Repr

def Role.text : Role → String
  | .function => "function"
  | .predicate => "predicate"
  | .operator => "binary operator"

inductive Fault where
  -- wrong configurations
  | arity (component : String) (expected : Int) (actual : Found)
  | unknownFunction (name : String)
  | invalidPipeline (pipeline : String) (result : ValidationResult)
  | bothSlots (component : String)
  | innerMissing (component : String) (role : Role)
  | projectionMissing
  | pipelineConfig (details : List Detail)
  -- arguments that a function refuses
  | dictionaryMissing (component : String)
  | unknownTimeUnit (unit : String) (known : List String)
  | unknownTimeZone (zone : String)
  | unreadableTime (text : String)
  | delimiterLength (shown : String)
  | quoteLength (shown : String)
  | negativeFirstRow (shown : String)
  | unreadableTable
  | headerTooShort (values columns : Nat)
  | nullInput
  | nullIterables
  | noItem (shown : String)
  | regexMissing
  | badExpression (shown : String)
  | unloadableClass (name : String)
  | divisorZero
  | notANumber (component typeName : String)
  | notACollection (typeName : String)
  -- writing and reading function objects
  | notRegistered (typeName : String)
  | notWritable (typeName : String)
  | hiddenProperty (component property : String)
  | badSpec (details : List Detail)
  | unknownProperties (component : String) (names : List String)
  | badJson
  | notAnObject (typeName : String)
  | badTypeName (shown : String)
  | unknownCoreType (name : String)
  | unloadableType (name : String)
  -- signatures
  | nullFunction
  | notFunctionLike (typeName : String)
  | outputAmbiguous (component : String)
  -- the registry
  | nameTaken (name owner : String)
  -- plain operations
  | tupleIndexType (typeName : String)
  | tupleIndexRange (index : Int) (arity : Nat)
  | raised (message : String)
  | wrongType
  | wrongValue
  | noAttribute
  | noKey
  | noIndex
  | overflow
  | zeroDivision
  | malformedExpression
  | tooDeep
  | decimalOperation
  /-- A class that would be its own ancestor. -/
  | inheritanceCycle
deriving DecidableEq, Repr

/-- The family of a fault. -/
inductive FaultKind where
  | tupleArity | unknownFunction | pipelineValidation | configuration | validation | serde
  | signature | registry | type | value | attribute | key | index | overflow | zeroDivision
  | expression | depth | decimal | cycle
deriving DecidableEq, Repr

namespace Fault

def kind : Fault → FaultKind
  | arity .. => .tupleArity
  | unknownFunction _ => .unknownFunction
  | invalidPipeline .. => .pipelineValidation
  | bothSlots _ => .configuration
  | innerMissing .. => .configuration
  | projectionMissing => .configuration
  | pipelineConfig _ => .configuration
  | dictionaryMissing _ => .validation
  | unknownTimeUnit .. => .validation
  | unknownTimeZone _ => .validation
  | unreadableTime _ => .validation
  | delimiterLength _ => .validation
  | quoteLength _ => .validation
  | negativeFirstRow _ => .validation
  | unreadableTable => .validation
  | headerTooShort .. => .validation
  | nullInput => .validation
  | nullIterables => .validation
  | noItem _ => .validation
  | regexMissing => .validation
  | badExpression _ => .validation
  | unloadableClass _ => .validation
  | divisorZero => .validation
  | notANumber .. => .validation
  | notACollection _ => .validation
  | notRegistered _ => .serde
  | notWritable _ => .serde
  | hiddenProperty .. => .serde
  | badSpec _ => .serde
  | unknownProperties .. => .serde
  | badJson => .serde
  | notAnObject _ => .serde
  | badTypeName _ => .serde
  | unknownCoreType _ => .serde
  | unloadableType _ => .serde
  | nullFunction => .signature
  | notFunctionLike _ => .signature
  | outputAmbiguous _ => .signature
  | nameTaken .. => .registry
  | tupleIndexType _ => .type
  | tupleIndexRange .. => .index
  | raised _ => .value
  | wrongType => .type
  | wrongValue => .value
  | noAttribute => .attribute
  | noKey => .key
  | noIndex => .index
  | overflow => .overflow
  | zeroDivision => .zeroDivision
  | malformedExpression => .expression
  | tooDeep => .depth
  | decimalOperation => .decimal
  | inheritanceCycle => .cycle

/-- The wording of a refusal; plain failures have none. -/
def message : Fault → Option String
  | arity c n a => some (c ++ " expects a tuple of " ++ toString n ++ " values, got " ++ a.text)
  | unknownFunction n => some ("Unknown function: " ++ n)
  | invalidPipeline n r => some ("Pipeline '" ++ n ++ "' is invalid. " ++ r.errorString)
  | bothSlots c => some (c ++ ": output_adapter and output_fold cannot both be set")
  | innerMissing c r => some (c ++ ": inner " ++ r.text ++ " is not set")
  | projectionMissing => some "TupleOutputAdapter: projection is required"
  | pipelineConfig _ => some "Invalid pipeline configuration"
  | dictionaryMissing c => some ("The " ++ c ++ " function has not been provided with a dictionary")
  | unknownTimeUnit u known =>
    some ("Unknown time unit: " ++ u ++ ". Expected one of " ++ String.intercalate ", " known)
  | unknownTimeZone z => some ("Unknown time zone: " ++ z)
  | unreadableTime t => some ("Unable to parse time: " ++ t)
  | delimiterLength s => some ("delimiter must be a single character, got " ++ s)
  | quoteLength s => some ("quote_char must be a single character, got " ++ s)
  | negativeFirstRow s => some ("first_row cannot be negative, got " ++ s)
  | unreadableTable => some "Unable to parse csv"
  | headerTooShort n m =>
    some ("Row has " ++ toString n ++ " values but the header only names " ++ toString m ++ " columns")
  | nullInput => some "Input cannot be null"
  | nullIterables => some "iterables are required"
  | noItem s => some ("Input has no item at position " ++ s)
  | regexMissing => some "StringRegexReplace requires a regex"
  | badExpression s => some ("Invalid regular expression " ++ s)
  | unloadableClass n => some ("Could not load class for given type: " ++ n)
  | divisorZero => some "DivideBy cannot divide by zero"
  | notANumber c t => some (c ++ " can only aggregate numbers, got " ++ t)
  | notACollection t => some ("Cannot concatenate into a " ++ t)
  | notRegistered t => some (t ++ " is not a registered function class")
  | notWritable t => some ("Cannot serialize value of type " ++ t)
  | hiddenProperty c p => some (c ++ " does not expose constructor property '" ++ p ++ "'")
  | badSpec _ => some "Invalid function specification"
  | unknownProperties c ns => some (c ++ " has no properties named " ++ String.intercalate ", " ns)
  | badJson => some "Invalid JSON"
  | notAnObject t => some ("Expected a JSON object, got " ++ t)
  | badTypeName s => some ("Invalid type name: " ++ s)
  | unknownCoreType n => some ("Unknown builtin type: " ++ n)
  | unloadableType n => some ("Could not load type: " ++ n)
  | nullFunction => some "Cannot compute a signature for a null function reference"
  | notFunctionLike t => some (t ++ " is not function-like")
  | outputAmbiguous c =>
    some (c ++ ": exactly one of output_position and output_type is required")
  | nameTaken n o => some ("Function name '" ++ n ++ "' is already registered to " ++ o)
  | tupleIndexType t => some ("Tuple index must be an int, got " ++ t)
  | tupleIndexRange i n =>
    some ("Index " ++ toString i ++ " out of range for tuple of arity " ++ toString n)
  | raised m => some m
  | _ => none

/-- The problems of a configuration that a fault reports. -/
def details : Fault → List Detail
  | pipelineConfig ds => ds
  | badSpec ds => ds
  | _ => []

end Fault

end FunctionObjects
