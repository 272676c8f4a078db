import FunctionObjects.Call.Binding
import FunctionObjects.Function.Adapted
import FunctionObjects.Function.Dates
import FunctionObjects.Function.Plain
import FunctionObjects.Function.Tables
import FunctionObjects.Predicate.Age
import FunctionObjects.Predicate.Expressions
import FunctionObjects.Predicate.Membership
import FunctionObjects.Tuple.Positional
import FunctionObjects.Value.Conversion
/-!
# Making objects

The constructor of a class is the first one in its order of search.  It names the parameters and
says what is set under which name; a class without any takes no arguments.  Classes that leave a
required method undefined have no objects.
-/

namespace FunctionObjects

/-- A parameter that stands for nothing unless it is given. -/
def Param.optional (name : String) : Param := ⟨name, .standard, some .none, none⟩

/-- A parameter with a default. -/
def Param.preset (name : String) (v : Value) : Param := ⟨name, .standard, some v, none⟩

namespace LibraryClass

/-- The slots of an output that is adapted. -/
def outputSlots : List Param := [.optional "output_adapter", .optional "output_fold"]

/-- The slots of an adapted object. -/
def slots : List Param := .optional "input_adapter" :: outputSlots

/-- The parameters of the constructor that a class defines itself. -/
def parameters? : LibraryClass → Option (List Param)
  | .arrayTuple => some [⟨"values", .rest, none, none⟩]
  | .fixedTuple => some [⟨"values", .rest, none, none⟩]
  | .mapTuple => some [.optional "values", ⟨"fields", .keywords, none, none⟩]
  | .binaryOperatorMap => some [.optional "binary_operator"]
  | .functionComposite => some [.optional "functions"]
  | .predicateComposite => some [.optional "predicates"]
  | .inputAdapted => some [.optional "input_adapter"]
  | .outputAdapted => some outputSlots
  | .adapted => some slots
  | .adaptedFunction => some (.optional "function" :: slots)
  | .adaptedPredicate => some [.optional "predicate", .optional "input_adapter"]
  | .adaptedBinaryOperator => some (.optional "binary_operator" :: slots)
  | .tupleInputAdapter => some [.optional "selection"]
  | .tupleOutputAdapter => some [.optional "projection"]
  | .tupleAdaptedFunction =>
    some [.optional "selection", .optional "function", .optional "projection"]
  | .tupleAdaptedPredicate => some [.optional "selection", .optional "predicate"]
  | .cast => some [.optional "output_class"]
  | .dictionaryLookup => some [.optional "dictionary"]
  | .toDateString => some [.optional "format"]
  | .parseTime =>
    some [.optional "format", .optional "time_zone", .preset "time_unit" (.str "MILLISECOND")]
  | .csvOptions =>
    some [.optional "header", .preset "first_row" (.int 0), .preset "delimiter" (.str ","),
      .preset "quoted" (.bool false), .preset "quote_char" (.str "\"")]
  | .nthItem => some [.preset "selection" (.int 0)]
  | .firstValid => some [.optional "predicate"]
  | .iterableFilter => some [.optional "predicate"]
  | .divideBy => some [.preset "by" (.int 1)]
  | .multiplyBy => some [.preset "by" (.int 1)]
  | .stringRegexReplace => some [.optional "regex", .preset "replacement" (.str "")]
  | .concat => some [.preset "separator" (.str ",")]
  | .ageOff => some [.preset "age_off_time" (.int Age.standard)]
  | .controlComparison => some [.optional "value"]
  | .isMoreThan => some [.optional "value", .preset "or_equal_to" (.bool false)]
  | .isLessThan => some [.optional "value", .preset "or_equal_to" (.bool false)]
  | .negation => some [.optional "predicate"]
  | .isA => some [.optional "type_"]
  | .areIn => some [.optional "values"]
  | .regex => some [.optional "value"]
  | .multiRegex => some [.optional "patterns"]
  | .stringConcat => some [.preset "separator" (.str ",")]
  | _ => none

end LibraryClass

/-- Where the constructor of a class comes from. -/
inductive Constructor where
  | library (k : LibraryClass) (params : List Param)
  /-- Stores each parameter under its own name, some hidden ones excepted. -/
  | declared (params : List Param) (hidden : List String)
deriving Repr

namespace Constructor

def params : Constructor → List Param
  | library _ ps => ps
  | declared ps _ => ps

end Constructor

namespace World

/-- The constructor that a class itself defines. -/
def ownConstructor? (w : World) (c : ClassName) : Option Constructor :=
  match LibraryClass.ofClassName? c with
  | some k => k.parameters?.map (.library k)
  | none => (w.declaration? c).bind fun d => d.init.map fun ps => .declared ps d.hidden

/-- The constructor of a class, found in its order of search. -/
def findConstructor? (w : World) (c : ClassName) : Option Constructor :=
  (w.hierarchy.mro c).findSome? w.ownConstructor?

/-- The parameters of a class that stand for one value each. -/
def properties (w : World) (c : ClassName) : List Param :=
  ((w.findConstructor? c).map (·.params.filter Param.isNamed)).getD []

end World

namespace Construction

variable (d : Dispatch)

/-- An adapter that selects values of a tuple. -/
def selector (references : Value) : Run Value := do
  let refs ← d.listOf references
  Run.alloc (.object LibraryClass.tupleInputAdapter.className none [("selection", refs)])

/-- An adapter that writes into a tuple. -/
def projector (references : Value) : Run Value := do
  let refs ← d.listOf references
  Run.alloc (.object LibraryClass.tupleOutputAdapter.className none [("projection", refs)])

/-- Stores the parameters of a constructor under their own names. -/
def storeAll (self : Value) (b : Binding) (hidden : List String) : Run Unit :=
  b.values.forM fun (p, v) =>
    if hidden.contains p.name then pure () else Run.setField self p.name v

/-- Sets up a new object of a library class. -/
def setUp (k : LibraryClass) (self : Value) (b : Binding) : Run Unit := do
  let v := b.value
  let slots := Adapted.setSlots self (v "input_adapter") (v "output_adapter") (v "output_fold")
  match k with
  | .functionComposite => Run.setField self "functions" (← d.listOf (v "functions"))
  | .predicateComposite => Run.setField self "predicates" (← d.listOf (v "predicates"))
  | .outputAdapted => Adapted.setOutput self (v "output_adapter") (v "output_fold")
  | .adapted => slots
  | .adaptedFunction => do slots; Run.setField self "function" (v "function")
  | .adaptedPredicate => do
    Adapted.setInput self (v "input_adapter")
    Run.setField self "predicate" (v "predicate")
  | .adaptedBinaryOperator => do slots; Run.setField self "binary_operator" (v "binary_operator")
  | .tupleInputAdapter => Run.setField self "selection" (← d.listOf (v "selection"))
  | .tupleOutputAdapter => Run.setField self "projection" (← d.listOf (v "projection"))
  | .tupleAdaptedFunction => do
    let input ← selector d (v "selection")
    let fold ← projector d (v "projection")
    Adapted.setSlots self input .none fold
    Run.setField self "function" (v "function")
  | .tupleAdaptedPredicate => do
    Adapted.setInput self (← selector d (v "selection"))
    Run.setField self "predicate" (v "predicate")
  | .parseTime => Dates.setUpReader self (v "format") (v "time_zone") (v "time_unit")
  | .csvOptions =>
    Tables.setUp d self (v "header") (v "first_row") (v "delimiter") (v "quoted") (v "quote_char")
  | .divideBy => Numbers.setDivisor self (v "by")
  | .stringRegexReplace => Texts.setUp self (v "regex") (v "replacement")
  | .isA => Membership.setType self (v "type_")
  | .areIn => Run.setField self "values" (← d.listOf (v "values"))
  | .regex => Matching.setExpression self (v "value")
  | .multiRegex => Matching.setExpressions d self (v "patterns")
  | _ => storeAll self b []

/-- The entries of a new tuple addressed by name. -/
def fieldEntries (b : Binding) : Run (List (Value × Value)) := do
  let values := b.value "values"
  let es ← if ← d.truth values then d.entriesOf values else pure []
  Run.insertAll es (b.extra.map fun (name, v) => (.str name, v))

/-- The number of positions that a class of fixed tuples has. -/
def fixedArity (c : ClassName) : Run Nat := do
  match (← get).member? c "arity" with
  | some (.arity n) => return n
  | _ => throw .noAttribute

/-- A new object of a class, with what its constructor makes of some arguments. -/
def object (c : ClassName) (args : Arguments) : Run Value := do
  let w ← get
  if w.isAbstract c then throw .wrongType
  match w.findConstructor? c with
  | some constructor =>
    let b ← Run.lift (Binding.of constructor.params args)
    match constructor with
    | .declared _ hidden =>
      let self ← Run.alloc (.object c none [])
      storeAll self b hidden
      return self
    | .library .arrayTuple _ => Run.alloc (.slots c none b.rest)
    | .library .fixedTuple _ =>
      let n ← fixedArity c
      if b.rest.length = n then Run.alloc (.slots c none b.rest)
      else throw (.arity c.name n (.count b.rest.length))
    | .library .mapTuple _ => Run.alloc (.fields c none (← fieldEntries d b))
    | .library k _ =>
      let self ← Run.alloc (.object c none [])
      setUp d k self b
      return self
  | none =>
    if args.positional.isEmpty && args.named.isEmpty then Run.alloc (.object c none [])
    else throw .wrongType

/-- The way in which a value passes through an adapter, found by its value. -/
def adapterKind (args : Arguments) : Run Value := do
  match args.positional, args.named with
  | [v], [] =>
    match v with
    | .atom (.kind k) => return .atom (.kind k)
    | .atom a =>
      let name ← Run.require .wrongValue a.text?
      let kinds : List AdapterKind := [.identity, .map, .fold]
      let k ← Run.require .wrongValue (kinds.find? fun k => k.name.toLower == name)
      return .atom (.kind k)
    | _ => throw .wrongValue
  | _, _ => throw .wrongType

/-- A dictionary of entries and of names. -/
def dictionary (args : Arguments) : Run Value := do
  let es ← match args.positional with
    | [] => pure []
    | [v] => d.entriesOf v
    | _ => throw .wrongType
  Run.alloc (.dict (← Run.insertAll es (args.named.map fun (name, v) => (.str name, v))))

/-- A new object of a failure, which takes anything by position. -/
def failure (c : ClassName) (args : Arguments) : Run Value := do
  if args.named.isEmpty then Run.alloc (.object c none []) else throw .wrongType

/-- Whether a class comes from the library or from a caller. -/
def isOwn (w : World) (c : ClassName) : Bool :=
  (LibraryClass.ofClassName? c).isSome || (w.declaration? c).isSome

/-- What a class makes of some arguments. -/
def make (c : ClassName) (args : Arguments) : Run Value := do
  let w ← get
  if c == LibraryClass.adapterKind.className then adapterKind args
  else if isOwn w c then object d c args
  else if w.isSubclass c (.core "BaseException") then failure c args
  else
    match CoreClass.ofClassName? c with
    | some .dict => dictionary d args
    | some k => if args.named.isEmpty then d.make k args.positional else throw .wrongType
    | none =>
      let plain := [ClassTable.generic, ⟨"typing", "Protocol"⟩, ⟨"numbers", "Number"⟩]
      if plain.contains c && args.positional.isEmpty && args.named.isEmpty then
        Run.alloc (.object c none [])
      else throw .wrongType

/-- Notes on an object through which parameterized form it was made. -/
def mark (t : Ty) (v : Value) : Run Unit := do
  match v with
  | .ref r =>
    match ← Run.cell? r with
    | some (.object c _ as) => Run.write r (.object c (some t) as)
    | some (.slots c _ vs) => Run.write r (.slots c (some t) vs)
    | some (.fields c _ es) => Run.write r (.fields c (some t) es)
    | _ => pure ()
  | _ => pure ()

/-- What a type makes of some arguments; forms that stand for core containers make nothing. -/
def ofType (t : Ty) (args : Arguments) : Run Value := do
  match t with
  | .cls c => make d c args
  | .app (.cls c) _ =>
    let v ← make d c args
    mark t v
    return v
  | _ => throw .wrongType

end Construction

end FunctionObjects
