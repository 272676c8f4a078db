import FunctionObjects.Call.Construction
/-!
# What constructors make of their arguments

The attributes that the constructor of a library class leaves on a new object, as a function from what
its parameters hold to what its attributes hold, or nothing if it refuses them.  Some attributes are
the parameters themselves, others are lists of their items, compiled expressions, loaded classes or
adapters.
-/

namespace FunctionObjects

namespace Datum

/-- The value that stands for nothing, read. -/
def none : Datum := .atom .none

def isNone : Datum → Bool
  | .atom .none => true
  | _ => false

/-- The items of a datum that can be gone through without asking an object. -/
def items? : Datum → Option (List Datum)
  | .atom a =>
    match a.text?, a.bytes? with
    | some s, _ => some (s.toList.map fun c => .atom (.str (String.singleton c)))
    | Option.none, some bs => some (bs.map fun b => .atom (.int (b : Nat)))
    | Option.none, Option.none => Option.none
  | .tuple ts => some ts
  | .frozenset ts => some ts
  | .list ts => some ts
  | .dict es => some (es.map (·.1))
  | .set ts => some ts
  | .bytearray bs => some (bs.map fun b => .atom (.int (b : Nat)))
  | .keys ts => some ts
  | _ => Option.none

/-- Whether a datum counts as true. -/
def truth : Datum → Bool
  | .atom a => a.truth
  | t => (t.items?.map List.length).all (· != 0)

/-- The list that is made of a datum; one that counts as false stands for no items. -/
def listed? (t : Datum) : Option Datum :=
  if t.truth then t.items?.map .list else some (.list [])

/-- The expression that a datum is or that its text makes. -/
def compiled? : Datum → Option Datum
  | .atom (.pattern p) => some (.atom (.pattern p))
  | .atom a =>
    match a.text?, a.bytes? with
    | some s, _ => (Pattern.read s false 0).toOption.map fun p => .atom (.pattern p)
    | _, some bs =>
      (Pattern.read (String.ofList (bs.map Char.ofNat)) true 0).toOption.map fun p =>
        .atom (.pattern p)
    | _, _ => Option.none
  | _ => Option.none

/-- The same for an expression that may be missing. -/
def optionallyCompiled? (t : Datum) : Option Datum := if t.isNone then some t else t.compiled?

/-- An expression that is compiled only if it is given as a text. -/
def textCompiled? : Datum → Option Datum
  | .atom a => if a.text?.isSome then (Datum.atom a).compiled? else some (.atom a)
  | t => some t

/-- The expressions of a list. -/
def allCompiled? (t : Datum) : Option Datum :=
  (if t.truth then t.items? else some []).bind fun ts => (ts.mapM compiled?).map .list

/-- The class that a datum is or names. -/
def loaded? : Datum → Option Datum
  | .atom a =>
    match a.text? with
    | some name => (typeNamed name).toOption.map fun t => .atom (.type t)
    | Option.none => some (.atom a)
  | t => some t

/-- The unit of time that a text names. -/
def unit? : Datum → Option Datum
  | .atom a => do
    let name := Text.upper (← a.text?)
    if (Dates.units.lookup name).isSome then some (.atom (.str name)) else Option.none
  | _ => Option.none

/-- Whether a datum is nothing or names a time zone. -/
def isZone (zones : Time.Zones) : Datum → Bool
  | .atom .none => true
  | .atom a => (a.text?.bind zones).isSome
  | _ => false

/-- Whether a datum has a single item. -/
def isSingle (t : Datum) : Bool := t.items?.map List.length == some 1

/-- Whether a datum is a number that is not below zero. -/
def isNatural : Datum → Bool
  | .atom a => match a.rel .lt (.int 0) with
    | .ok negative => !negative
    | .error _ => false
  | _ => false

end Datum

namespace LibraryClass

/-- The class that defines the constructor of a registered class. -/
def owner? : LibraryClass → Option LibraryClass
  | .csvToMaps => some .csvOptions
  | .csvLinesToMaps => some .csvOptions
  | .conjunction => some .predicateComposite
  | .disjunction => some .predicateComposite
  | .isEqual => some .controlComparison
  | k => if k.parameters?.isSome then some k else none

/-- The class that defines the constructor, or the class itself if there is none. -/
def source (k : LibraryClass) : LibraryClass := k.owner?.getD k

/-- The parameters of the constructor of a class. -/
def params (k : LibraryClass) : List Param := k.source.parameters?.getD []

/-- An adapter of tuples with its references. -/
def adapter (k : LibraryClass) (name : String) (references : Datum) : Datum :=
  .object k.className [(name, references)]

/-- The slots of an adapted output, which exclude each other. -/
def outputs? (output fold : Datum) : Option (List (String × Datum)) :=
  if !output.isNone && !fold.isNone then none
  else some [("output_adapter", output), ("output_fold", fold)]

/-- The slots of an adapted object. -/
def adapted? (input output fold : Datum) : Option (List (String × Datum)) := do
  return ("input_adapter", input) :: (← outputs? output fold)

/-- The slots that the parameters of an adapted object give. -/
def slotsOf? (arg : String → Datum) : Option (List (String × Datum)) :=
  adapted? (arg "input_adapter") (arg "output_adapter") (arg "output_fold")

/-- The attributes that a constructor leaves where there are some time zones, given what its parameters
hold. -/
def attributesOf? (zones : Time.Zones) (owner : LibraryClass) (arg : String → Datum) : Option (List (String × Datum)) :=
  match owner with
  | .functionComposite => do return [("functions", ← (arg "functions").listed?)]
  | .predicateComposite => do return [("predicates", ← (arg "predicates").listed?)]
  | .outputAdapted => outputs? (arg "output_adapter") (arg "output_fold")
  | .adapted => slotsOf? arg
  | .adaptedFunction => do return (← slotsOf? arg) ++ [("function", arg "function")]
  | .adaptedPredicate =>
    some [("input_adapter", arg "input_adapter"), ("predicate", arg "predicate")]
  | .adaptedBinaryOperator => do
    return (← slotsOf? arg) ++ [("binary_operator", arg "binary_operator")]
  | .tupleInputAdapter => do return [("selection", ← (arg "selection").listed?)]
  | .tupleOutputAdapter => do return [("projection", ← (arg "projection").listed?)]
  | .tupleAdaptedFunction => do
    let selection ← (arg "selection").listed?
    let projection ← (arg "projection").listed?
    return [("input_adapter", adapter .tupleInputAdapter "selection" selection),
      ("output_adapter", .none),
      ("output_fold", adapter .tupleOutputAdapter "projection" projection),
      ("function", arg "function")]
  | .tupleAdaptedPredicate => do
    let selection ← (arg "selection").listed?
    return [("input_adapter", adapter .tupleInputAdapter "selection" selection),
      ("predicate", arg "predicate")]
  | .parseTime => do
    let unit ← (arg "time_unit").unit?
    if (arg "time_zone").isZone zones then
      return [("format", arg "format"), ("time_zone", arg "time_zone"), ("time_unit", unit)]
    else none
  | .csvOptions => do
    let header ← (arg "header").listed?
    if (arg "delimiter").isSingle && (arg "quote_char").isSingle &&
        (arg "first_row").isNatural then
      return [("header", header), ("first_row", arg "first_row"), ("delimiter", arg "delimiter"),
        ("quoted", arg "quoted"), ("quote_char", arg "quote_char")]
    else none
  | .divideBy =>
    if (arg "by").same (.atom (.int 0)) then none else some [("by", arg "by")]
  | .stringRegexReplace => do
    return [("regex", ← (arg "regex").textCompiled?), ("replacement", arg "replacement")]
  | .isA => do return [("type_", ← (arg "type_").loaded?)]
  | .areIn => do return [("values", ← (arg "values").listed?)]
  | .regex => do return [("value", ← (arg "value").optionallyCompiled?)]
  | .multiRegex => do return [("patterns", ← (arg "patterns").allCompiled?)]
  | k => some ((k.parameters?.getD []).map fun p => (p.name, arg p.name))

/-- The parameters of which the constructor makes a list; nothing stands for a list of no items. -/
def listed : LibraryClass → List String
  | .functionComposite => ["functions"]
  | .predicateComposite => ["predicates"]
  | .tupleInputAdapter => ["selection"]
  | .tupleOutputAdapter => ["projection"]
  | .tupleAdaptedFunction => ["selection", "projection"]
  | .tupleAdaptedPredicate => ["selection"]
  | .csvOptions => ["header"]
  | .areIn => ["values"]
  | .multiRegex => ["patterns"]
  | _ => []

/-- The parameters whose items the constructor goes through or counts. -/
def walked : LibraryClass → List String
  | .csvOptions => ["header", "delimiter", "quote_char"]
  | k => k.listed

/-- The names of the attributes that a constructor sets, in order. -/
def attributeNames : LibraryClass → List String
  | .adaptedFunction => ["input_adapter", "output_adapter", "output_fold", "function"]
  | .adaptedPredicate => ["input_adapter", "predicate"]
  | .adaptedBinaryOperator => ["input_adapter", "output_adapter", "output_fold", "binary_operator"]
  | .tupleAdaptedFunction => ["input_adapter", "output_adapter", "output_fold", "function"]
  | .tupleAdaptedPredicate => ["input_adapter", "predicate"]
  | k => (k.parameters?.getD []).map Param.name

/-- Attributes that have these names if there are any. -/
def Named (names : List String) (out : Option (List (String × Datum))) : Prop :=
  ∀ as, out = some as → as.map (·.1) = names

namespace Named

variable {names : List String} {out : Option (List (String × Datum))}

theorem some {as : List (String × Datum)} (h : as.map (·.1) = names) : Named names (some as) := by
  rintro _ ⟨⟩
  exact h

theorem none : Named names none := by
  intro as h
  simp at h

theorem bind {α : Type} {x : Option α} {f : α → Option (List (String × Datum))}
    (h : ∀ a, x = Option.some a → Named names (f a)) : Named names (x >>= f) := by
  intro as has
  obtain ⟨a, hx, ha⟩ := Option.bind_eq_some_iff.mp has
  exact h a hx as ha

theorem ite {p : Prop} [Decidable p] {out' : Option (List (String × Datum))}
    (h : Named names out) (h' : Named names out') : Named names (if p then out else out') := by
  split
  · exact h
  · exact h'

end Named

theorem named_slots (arg : String → Datum) :
    Named ["input_adapter", "output_adapter", "output_fold"] (slotsOf? arg) := by
  refine .bind fun slots hslots => .some ?_
  have hnames : Named ["output_adapter", "output_fold"]
      (outputs? (arg "output_adapter") (arg "output_fold")) := .ite .none (.some rfl)
  rw [List.map_cons, hnames slots hslots]

theorem named_attributesOf {zones : Time.Zones} (owner : LibraryClass) (arg : String → Datum) :
    Named owner.attributeNames (attributesOf? zones owner arg) := by
  cases owner with
  | functionComposite => exact .bind fun _ _ => .some rfl
  | predicateComposite => exact .bind fun _ _ => .some rfl
  | tupleInputAdapter => exact .bind fun _ _ => .some rfl
  | tupleOutputAdapter => exact .bind fun _ _ => .some rfl
  | areIn => exact .bind fun _ _ => .some rfl
  | isA => exact .bind fun _ _ => .some rfl
  | regex => exact .bind fun _ _ => .some rfl
  | multiRegex => exact .bind fun _ _ => .some rfl
  | stringRegexReplace => exact .bind fun _ _ => .some rfl
  | tupleAdaptedFunction => exact .bind fun _ _ => .bind fun _ _ => .some rfl
  | tupleAdaptedPredicate => exact .bind fun _ _ => .some rfl
  | parseTime => exact .bind fun _ _ => .ite (.some rfl) .none
  | csvOptions => exact .bind fun _ _ => .ite (.some rfl) .none
  | divideBy => exact .ite .none (.some rfl)
  | outputAdapted => exact .ite .none (.some rfl)
  | adapted => exact named_slots arg
  | adaptedFunction =>
    refine .bind fun slots hslots => .some ?_
    rw [List.map_append, named_slots arg slots hslots]
    rfl
  | adaptedBinaryOperator =>
    refine .bind fun slots hslots => .some ?_
    rw [List.map_append, named_slots arg slots hslots]
    rfl
  | adaptedPredicate => exact .some rfl
  | _ => exact .some rfl

/-- The attributes of a new object of a class. -/
def attributes? (zones : Time.Zones) (k : LibraryClass) (arg : String → Datum) :
    Option (List (String × Datum)) :=
  k.source.attributesOf? zones arg

end LibraryClass

end FunctionObjects
