import FunctionObjects.Document.Spec
import FunctionObjects.Value.Conversion
/-!
# Pipeline configurations

A configuration names a pipeline, lists the specifications of its steps, and says whether steps that
do not fit are refused.  Numbers and words that stand for truth values are accepted as such.  All
problems are found at once, in the order of the fields.
-/

namespace FunctionObjects

structure PipelineConfig where
  name : String
  steps : List (Spec Document)
  failOnIncompatible : Bool

namespace PipelineConfig

/-- How the configuration was given: as a text or as a value. -/
inductive Source where
  | text | value
deriving DecidableEq, Repr

/-- What is wrong with something that is no dictionary. -/
def Source.notModel (s : Source) (model : String) : Problem :=
  match s with
  | .text => .notModel none
  | .value => .notModel (some model)

/-- Words that stand for a truth value, in small letters. -/
def words : List (String × Bool) := [
  ("0", false), ("off", false), ("f", false), ("false", false), ("n", false), ("no", false),
  ("1", true), ("on", true), ("t", true), ("true", true), ("y", true), ("yes", true)]

/-- The truth value that a whole number stands for. -/
def ofWhole (n : Int) : Except Problem Bool :=
  if n = 0 then return false else if n = 1 then return true else throw .unreadableBool

/-- The truth value that a number stands for. -/
def ofNumber (a : Atom) : Except Problem Bool :=
  match a.toFloating with
  | .ok x =>
    match x.ratio? with
    | some (n, 1) => ofWhole n
    | _ => throw .notBool
  | .error _ => throw .notBool

/-- The truth value that a value stands for. -/
def truth (doc : Document) : Except Problem Bool :=
  match doc with
  | .leaf (.atom a) =>
    match a with
    | .bool b => return b
    | .none => throw .notBool
    | .int n => if Numeral.Scalar.fits true 64 n then ofWhole n else ofNumber a
    | a =>
      if a.text?.isSome || a.bytes?.isSome then
        match Spec.asText? (.atom a) with
        | .ok s => (words.lookup s.toLower).elim (throw .unreadableBool) pure
        | .error p => throw p
      else ofNumber a
  | _ => throw .notBool

/-- The steps that a value lists; texts and dictionaries list none. -/
def items? (d : Dispatch) (doc : Document) : Run (Option (List Document)) := do
  match doc with
  | .list ds => return some ds
  | .dict _ => return none
  | .leaf (.atom _) => return none
  | .leaf v =>
    if (← Run.classOf v) == .core "bytearray" then return none
    let vs ← tryCatch (some <$> d.items v) fun _ => return none
    let w ← get
    return vs.map fun vs => vs.map (Document.ofValue w)

/-- Puts a place in front of those of some problems. -/
def inside (places : List Place) (ds : List Detail) : List Detail :=
  ds.map fun d => { d with place := places ++ d.place }

/-- The specification of a step, or what is wrong with it. -/
def step (w : World) (source : Source) (doc : Document) : Except (List Detail) (Spec Document) :=
  match doc with
  | .dict es => Spec.ofEntries w id es
  | _ => throw [⟨source.notModel "FunctionSpec", []⟩]

/-- The specifications of steps, counted from a number on, or all that is wrong with them. -/
def stepsFrom (w : World) (source : Source) (i : Nat) :
    List Document → Except (List Detail) (List (Spec Document))
  | [] => return []
  | doc :: ds =>
    let first := (step w source doc).mapError (inside [.field "functions", .index i])
    match first, stepsFrom w source (i + 1) ds with
    | .ok s, .ok ss => return s :: ss
    | .ok _, .error ps => throw ps
    | .error p, .ok _ => throw p
    | .error p, .error ps => throw (p ++ ps)

/-- The steps of a configuration, of which there must be one if any are listed. -/
def stepsOf (d : Dispatch) (source : Source) (doc : Document) :
    Run (Except (List Detail) (List (Spec Document))) := do
  match ← items? d doc with
  | none => return .error [⟨.notList, [.field "functions"]⟩]
  | some ds =>
    let w ← get
    match stepsFrom w source 0 ds with
    | .ok [] => return .error [⟨.noFunctions, [.field "functions"]⟩]
    | r => return r

/-- What is wrong with a field. -/
def problemsOf {α : Type} : Except (List Detail) α → List Detail
  | .ok _ => []
  | .error ps => ps

/-- The configuration that the entries of a dictionary make up. -/
def ofEntries (d : Dispatch) (source : Source) (entries : List (Value × Document)) :
    Run PipelineConfig := do
  let field (n : String) : Option Document := Document.lookup? entries n
  let place (n : String) (p : Problem) : List Detail := [⟨p, [.field n]⟩]
  let name : Except (List Detail) String := match field "name" with
    | some doc => (Spec.nonemptyText doc).mapError (place "name")
    | none => .ok "pipeline"
  let steps ← match field "functions" with
    | some doc => stepsOf d source doc
    | none => pure (.ok [])
  let strict : Except (List Detail) Bool := match field "fail_on_incompatible" with
    | some doc => (truth doc).mapError (place "fail_on_incompatible")
    | none => .ok true
  match name, steps, strict with
  | .ok n, .ok ss, .ok b => return ⟨n, ss, b⟩
  | n, ss, b => throw (.pipelineConfig (problemsOf n ++ problemsOf ss ++ problemsOf b))

/-- The configuration that a document makes up. -/
def ofDocument (d : Dispatch) (source : Source) (doc : Document) : Run PipelineConfig := do
  match doc with
  | .dict es => ofEntries d source es
  | _ => throw (.pipelineConfig [⟨source.notModel "PipelineConfig", []⟩])

/-- The configuration that is written in a text. -/
def ofText (d : Dispatch) (s : String) : Run PipelineConfig := do
  match Text.Json.parse? s with
  | some j => ofDocument d .text (.ofJson j)
  | none => throw (.pipelineConfig [⟨.notJson, []⟩])

/-- The configuration that a value gives: a text, or a dictionary. -/
def ofValue (d : Dispatch) (v : Value) : Run PipelineConfig := do
  match Document.textOf? v with
  | some s => ofText d s
  | none => ofDocument d .value (Document.ofValue (← get) v)

end PipelineConfig

end FunctionObjects
