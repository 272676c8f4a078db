import FunctionObjects.Call.Binding
import FunctionObjects.Value.Operators
/-!
# Running functions of callers

A function binds its arguments, is recorded if it carries a label, and runs the code of its body.  Code
looks at cells and makes requests until it gives a value or fails.
-/

namespace FunctionObjects

/-- Records a call. -/
def Run.record (label : String) (args : List Value) : Run Unit :=
  modify fun w => { w with trace := w.trace ++ [⟨label, args, w.heap⟩] }

namespace Code

variable (d : Dispatch)

/-- What a request gives; `inherited` is the same method of the next class. -/
def perform (inherited : Run Value) : Request → Run Value
  | .call f args => d.call f args
  | .method v name args => d.method v name args
  | .inherited => inherited
  | .add x y => Run.add x y
  | .mul x y => Run.mul x y
  | .less x y => Run.relation .lt x y
  | .truth v => return .bool (← d.truth v)
  | .text v => return .str (← Run.plain v)
  | .make c => do Run.alloc (← Run.require .wrongType (Cell.ofFilling? c))
  | .store r c => do
    let cell ← Run.require .wrongType (← Run.cell? r)
    Run.write r (← Run.require .wrongType (cell.filled? c))
    return .none

/-- Runs code, one request after another. -/
def run (inherited : Run Value) : Code → Run Value
  | give v => return v
  | fail f => throw f
  | look r next => do run inherited (next ((← Run.cell? r).bind Cell.filling?))
  | ask q next => do
    let answer ← tryCatch (Except.ok <$> perform d inherited q) fun f => return .error f
    run inherited (next answer)
  | define name params returns body next => do
    run inherited (next (← Run.alloc (.routine ⟨name, params, returns, ⟨body⟩, none⟩)))

/-- Asks for something and goes on with what is given; without it, the code fails. -/
def andThen (q : Request) (next : Value → Code) : Code :=
  ask q fun
    | .ok v => next v
    | .error f => fail f

/-- Goes on with the argument at a position. -/
def argument (args : List Value) (i : Nat) (next : Value → Code) : Code :=
  args[i]?.elim (fail .noIndex) next

/-- Goes on with the texts of values. -/
def texts : List Value → (List String → Code) → Code
  | [], next => next []
  | v :: vs, next => andThen (.text v) fun
    | .atom (.str s) => texts vs fun ts => next (s :: ts)
    | _ => fail .wrongType

end Code

/-! ## Bodies that callers often write -/

namespace Body

open Code

def const (v : Value) : Body := ⟨fun _ => give v⟩

/-- Fails with a message. -/
def fail (message : String) : Body := ⟨fun _ => .fail (.raised message)⟩

/-- Calls the same method of the next class. -/
def inherited : Body := ⟨fun _ => andThen .inherited give⟩

/-- The argument at a position. -/
def arg (i : Nat) : Body := ⟨fun args => argument args i give⟩

def allTuple : Body := ⟨fun args => give (.tuple args)⟩

def allList : Body := ⟨fun args => andThen (.make (.items args)) give⟩

/-- A request that is about the first argument. -/
def onFirst (q : Value → Request) : Body := ⟨fun args => argument args 0 fun x => andThen (q x) give⟩

/-- A request that is about the first two arguments. -/
def onPair (q : Value → Value → Request) : Body :=
  ⟨fun args => argument args 0 fun x => argument args 1 fun y => andThen (q x y) give⟩

def add : Body := onPair .add

def mul : Body := onPair .mul

def less : Body := onPair .less

def increment : Body := onFirst (.add · (.int 1))

def double : Body := onFirst (.mul · (.int 2))

def upper : Body := onFirst (.method · "upper" [])

/-- Reads the first position of its first argument. -/
def getFirst : Body := onFirst (.method · "get" [.int 0])

/-- What is made of the sum and the product of the first two arguments. -/
def sumProductInto (next : List Value → Code) : Body :=
  ⟨fun args => argument args 0 fun x => argument args 1 fun y =>
    andThen (.add x y) fun s => andThen (.mul x y) fun p => next [s, p]⟩

def sumProduct : Body := sumProductInto fun vs => give (.tuple vs)

def sumProductList : Body := sumProductInto fun vs => andThen (.make (.items vs)) give

/-- Whether the first pair and the second pair of arguments ascend. -/
def pairsAscend : Body := ⟨fun args =>
  argument args 0 fun x => argument args 1 fun y => andThen (.less x y) fun first =>
    andThen (.truth first) fun
      | .atom (.bool true) =>
        argument args 2 fun z => argument args 3 fun u => andThen (.less z u) give
      | _ => give first⟩

/-- The texts of the arguments, with colons between them. -/
def join : Body := ⟨fun args => texts args fun ts => give (.str (String.intercalate ":" ts))⟩

end Body

/-- Runs a function: its arguments are bound, its call is recorded if it carries a label, and its code
runs; `inherited` is the same method of the next class. -/
def Routine.run (d : Dispatch) (r : Routine) (inherited : Run Value) (args : List Value) : Run Value := do
  let b ← Run.lift (Binding.of r.params (.ofList args))
  if let some label := r.label then Run.record label b.positional
  (r.body.code b.positional).run d inherited

end FunctionObjects
