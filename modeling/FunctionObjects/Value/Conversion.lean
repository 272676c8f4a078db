import FunctionObjects.Value.Operators
/-!
# Conversion to core classes

What a core class makes of its arguments when it is called: numbers out of numbers and texts,
containers out of whatever can be iterated.
-/

namespace FunctionObjects

open FunctionObjects.Numeral

/-- The whole part of a fractional number. -/
def truncated (x : Floating) : Except Fault Int :=
  match x with
  | .nan _ => throw .wrongValue
  | .infinite _ => throw .overflow
  | x => return x.truncate?.getD 0

/-- The characters that bytes stand for, one each. -/
def byteChars (bs : List Nat) : List Char := bs.map Char.ofNat

namespace Atom

/-- The whole number that an atom is turned into. -/
def toInt (a : Atom) : Except Fault Int :=
  match a.text?, a.bytes? with
  | some s, _ => (Literal.int? s.toList).elim (throw .wrongValue) pure
  | _, some bs => (Literal.int? (byteChars bs)).elim (throw .wrongValue) pure
  | _, _ =>
    match a with
    | .bool b => return if b then 1 else 0
    | .int n => return n
    | .float x => truncated x
    | .scalar (.int _ _ n) => return n
    | .scalar (.float _ x) => truncated x
    | .scalar (.bool b) => return if b then 1 else 0
    | .scalar (.complex _ re _) => truncated re
    | .decimal (.nan _) => throw .wrongValue
    | .decimal (.infinite _) => throw .overflow
    | .decimal d => return (d.ratio?.map fun (n, m) => Int.tdiv n m).getD 0
    | .fraction n d => return Int.tdiv n d
    | _ => throw .wrongType

/-- The double that an atom is turned into. -/
def toFloating (a : Atom) : Except Fault Floating :=
  match a.text?, a.bytes? with
  | some s, _ => (Literal.float? 0 s.toList).elim (throw .wrongValue) pure
  | _, some bs => (Literal.float? 0 (byteChars bs)).elim (throw .wrongValue) pure
  | _, _ =>
    match a with
    | .bool b => Quantity.double (if b then 1 else 0) 1
    | .int n => Quantity.double n 1
    | .float x => return x
    | .scalar (.int _ _ n) => Quantity.double n 1
    | .scalar (.float _ x) => return x
    | .scalar (.bool b) => Quantity.double (if b then 1 else 0) 1
    | .scalar (.complex _ re _) => return re
    | .decimal (.nan k) => return .nan k
    | .decimal (.infinite s) => return .infinite s
    | .decimal (.finite s 0 _) => return .finite s 0 0
    | .decimal d => (d.ratio?).elim (throw .wrongValue) fun (n, m) => Quantity.double n m
    | .fraction n d => Quantity.double n d
    | _ => throw .wrongType

/-- The complex number that an atom is turned into. -/
def toComplex (a : Atom) : Except Fault (Floating × Floating) :=
  match a.text? with
  | some s => (Literal.complex? 0 s.toList).elim (throw .wrongValue) pure
  | Option.none =>
    match a with
    | .complex re im => return (re, im)
    | .scalar (.complex _ re im) => return (re, im)
    | .bytes _ => throw .wrongType
    | a => return (← a.toFloating, .zero)

/-- The decimal that an atom is turned into. -/
def toDecimal (a : Atom) : Except Fault Decimal :=
  match a.text? with
  | some s => (Decimal.ofText? 0 s.toList).elim (throw .decimalOperation) pure
  | Option.none =>
    match a with
    | .bool b => return .ofInt (if b then 1 else 0)
    | .int n => return .ofInt n
    | .float x => return .ofFloating x
    | .scalar (.float 64 x) => return .ofFloating x
    | .decimal d => return d
    | _ => throw .wrongType

/-- A fraction read from a text: a quotient, or a number with a point. -/
def fractionOfText (s : String) : Except Fault Atom :=
  let cs := Text.strip s.toList
  let (front, back) := cs.span (· != '/')
  match back with
  | '/' :: back =>
    match Literal.int? front, Literal.int? back with
    | some n, some d =>
      if d < 0 || front.getLast?.any Text.isBlank || back.head?.any Text.isBlank then throw .wrongValue
      else if d = 0 then throw .zeroDivision
      else return Quantity.lowest n d.toNat
    | _, _ => throw .wrongValue
  | _ =>
    match Decimal.ofText? 0 cs with
    | some (.finite t n e) =>
      match (Decimal.finite t n e).ratio? with
      | some (n, d) => return Quantity.lowest n d
      | Option.none => throw .wrongValue
    | _ => throw .wrongValue

/-- The fraction that an atom is turned into. -/
def toFraction (a : Atom) : Except Fault Atom :=
  match a.text? with
  | some s => fractionOfText s
  | Option.none =>
    match a with
    | .bool b => return .fraction (if b then 1 else 0) 1
    | .int n => return .fraction n 1
    | .scalar (.int _ _ n) => return .fraction n 1
    | .fraction n d => return .fraction n d
    | .float x => exact x
    | .scalar (.float 64 x) => exact x
    | .decimal (.nan _) => throw .wrongValue
    | .decimal (.infinite _) => throw .overflow
    | .decimal d => d.ratio?.elim (throw .wrongValue) fun (n, m) => return Quantity.lowest n m
    | _ => throw .wrongType
where
  exact (x : Floating) : Except Fault Atom :=
    match x with
    | .nan _ => throw .wrongValue
    | .infinite _ => throw .overflow
    | x => x.ratio?.elim (throw .wrongValue) fun (n, m) => return Quantity.lowest n m

/-- The kind of scalar that a class of scalars has. -/
def kindNamed? (name : String) : Option ScalarKind :=
  match name with
  | "bool" => some .bool
  | "int8" => some (.int true 8)
  | "int16" => some (.int true 16)
  | "int32" => some (.int true 32)
  | "int64" => some (.int true 64)
  | "uint8" => some (.int false 8)
  | "uint16" => some (.int false 16)
  | "uint32" => some (.int false 32)
  | "uint64" => some (.int false 64)
  | "float16" => some (.float 16)
  | "float32" => some (.float 32)
  | "float64" => some (.float 64)
  | _ => Option.none

/-- A sized scalar made of an atom. -/
def toScalar (name : String) (a : Atom) : Except Fault Scalar :=
  match name with
  | "str_" => return .str a.plain
  | "bytes_" => a.bytes?.elim (throw .wrongType) fun bs => return .bytes bs
  | "complex64" => do
    let (re, im) ← a.toComplex
    return .complex 64 (re.convert .single) (im.convert .single)
  | "complex128" => do
    let (re, im) ← a.toComplex
    return .complex 128 re im
  | name =>
    match kindNamed? name with
    | some .bool => return .bool a.truth
    | some (.int s b) => do
      match a with
      | .scalar (.int _ _ n) => return .int s b (Scalar.wrap s b n)
      | .scalar (.float _ x) => return .int s b (Scalar.wrap s b (← truncated x))
      | .float x => return .int s b (Scalar.wrap s b (← truncated x))
      | a =>
        let n ← a.toInt
        if Scalar.fits s b n then return .int s b n else throw .overflow
    | some (.float b) => do
      match a with
      | .none => return .float b (.nan 0)
      | .int n => return .float b (.ofInt (Scalar.formatOf b) n)
      | a => return .float b ((← a.toFloating).convert (Scalar.formatOf b))
    | Option.none => throw .wrongType

end Atom

/-- The core classes that make values when they are called. -/
inductive CoreClass where
  | int | float | complex | bool | str | bytes | bytearray | list | tuple | set | frozenset | dict
  | object | type | nothing | decimal | fraction
  | scalar (name : String)
deriving DecidableEq, Repr

namespace CoreClass

def ofClassName? (c : ClassName) : Option CoreClass :=
  if c.isCore then
    [("int", int), ("float", float), ("complex", complex), ("bool", bool), ("str", str),
      ("bytes", bytes), ("bytearray", bytearray), ("list", list), ("tuple", tuple), ("set", set),
      ("frozenset", frozenset), ("dict", dict), ("object", object), ("type", type),
      ("NoneType", nothing)].lookup c.name
  else if c == ⟨"decimal", "Decimal"⟩ then some decimal
  else if c == ⟨"fractions", "Fraction"⟩ then some fraction
  else if c == ⟨"collections", "OrderedDict"⟩ then some dict
  else if c.module == "numpy" then some (scalar c.name)
  else none

end CoreClass

namespace Run

/-- The atom that a value is; an array of bytes counts as its bytes. -/
def atomOrBytes (v : Value) : Run Atom := do
  match v with
  | .atom a => return a
  | .ref r =>
    match ← cell? r with
    | some (.bytearray bs) => return .bytes bs
    | _ => throw .wrongType
  | _ => throw .wrongType

end Run

namespace Dispatch

variable (d : Dispatch)

/-- Bytes made of a value: so many zeros, the bytes themselves, or the numbers that are given. -/
def bytesOf (v : Value) : Run (List Nat) := do
  match v with
  | .atom a =>
    match a.index?, a.bytes?, a.text? with
    | some n, _, _ =>
      if n < 0 then throw .wrongValue
      else if n ≥ repetitionLimit then throw .overflow
      else return List.replicate n.toNat 0
    | _, some bs, _ => return bs
    | _, _, some _ => throw .wrongType
    | _, _, _ => throw .wrongType
  | .ref r =>
    match ← Run.cell? r with
    | some (.bytearray bs) => return bs
    | _ => numbers v
  | v => numbers v
where
  numbers (v : Value) : Run (List Nat) := do
    (← d.items v).mapM fun i =>
      match i with
      | .atom a =>
        match a.index? with
        | some n => if 0 ≤ n ∧ n < 256 then return n.toNat else throw .wrongValue
        | none => throw .wrongType
      | _ => throw .wrongType

/-- The two parts of an item that is to become an entry. -/
def entryOf (v : Value) : Run (Value × Value) := do
  match ← d.items v with
  | [k, v] => return (k, v)
  | _ => throw .wrongValue

/-- The entries of a dictionary, or of the pairs that a value holds. -/
def entriesOf (v : Value) : Run (List (Value × Value)) := do
  match v with
  | .ref r =>
    match ← Run.cell? r with
    | some (.dict es) => return es
    | _ => pairs v
  | v => pairs v
where
  pairs (v : Value) : Run (List (Value × Value)) := do
    (← d.items v).foldlM (fun es i => do
      let (k, v) ← d.entryOf i
      Run.insert es k v) []

/-- A decimal digit given as a number. -/
def digit? : Value → Option Nat
  | .atom (.int n) => if 0 ≤ n ∧ n < 10 then some n.toNat else none
  | .atom (.bool b) => some (if b then 1 else 0)
  | _ => none

/-- The decimal with a sign, digits and an exponent, where a letter stands for what is not finite. -/
def decimalOfParts (w : World) (sign ds e : Value) : Option Decimal := do
  let negative := (← digit? sign) = 1
  if (← digit? sign) > 1 then none
  let ds ← (← w.sequence? ds).mapM digit?
  match e with
  | .atom (.str "F") => return .infinite negative
  | .atom (.str "n") => return .nan 0
  | .atom (.str "N") => return .nan 0
  | .atom e => return .finite negative (ds.foldl (fun n d => 10 * n + d) 0) (← e.index?)
  | _ => none

/-- The decimal that a value is turned into. -/
def decimalOf (v : Value) : Run Decimal := do
  let w ← get
  match w.sequence? v with
  | some [sign, ds, e] => Run.require .wrongValue (decimalOfParts w sign ds e)
  | some _ => throw .wrongValue
  | none => Run.lift (← Run.atom v).toDecimal

/-- What a core class makes of one argument. -/
def convert (c : CoreClass) (v : Value) : Run Value := do
  match c with
  | .int => return .int (← Run.lift (← Run.atomOrBytes v).toInt)
  | .float => return .float (← Run.lift (← Run.atomOrBytes v).toFloating)
  | .complex =>
    let (re, im) ← Run.lift (← Run.atom v).toComplex
    return .atom (.complex re im)
  | .bool => return .bool (← d.truth v)
  | .str => return .str (← Run.plain v)
  | .bytes => return .atom (.bytes (← d.bytesOf v))
  | .bytearray => Run.alloc (.bytearray (← d.bytesOf v))
  | .list => Run.newList (← d.items v)
  | .tuple =>
    match v with
    | .tuple vs => return .tuple vs
    | v => return .tuple (← d.items v)
  | .set => Run.alloc (.set (← Run.addMembers [] (← d.items v)))
  | .frozenset =>
    match v with
    | .frozenset vs => return .frozenset vs
    | v => return .frozenset (← Run.addMembers [] (← d.items v))
  | .dict => Run.alloc (.dict (← d.entriesOf v))
  | .type => return .cls (← Run.classOf v)
  | .decimal => return .atom (.decimal (← decimalOf v))
  | .fraction => return .atom (← Run.lift (← Run.atom v).toFraction)
  | .scalar "bool" => return .atom (.scalar (.bool (← d.truth v)))
  | .scalar "str_" => return .atom (.scalar (.str (← Run.plain v)))
  | .scalar name => return .atom (.scalar (← Run.lift ((← Run.atom v).toScalar name)))
  | .object => throw .wrongType
  | .nothing => throw .wrongType

/-- What a core class makes of no argument. -/
def blank (c : CoreClass) : Run Value := do
  match c with
  | .int => return .int 0
  | .float => return .float .zero
  | .complex => return .atom (.complex .zero .zero)
  | .bool => return .bool false
  | .str => return .str ""
  | .bytes => return .atom (.bytes [])
  | .bytearray => Run.alloc (.bytearray [])
  | .list => Run.newList []
  | .tuple => return .tuple []
  | .set => Run.alloc (.set [])
  | .frozenset => return .frozenset []
  | .dict => Run.alloc (.dict [])
  | .object => Run.alloc (.object .object none [])
  | .nothing => return .none
  | .decimal => return .atom (.decimal (.finite false 0 0))
  | .fraction => return .atom (.fraction 0 1)
  | .scalar "str_" => return .atom (.scalar (.str ""))
  | .scalar "bytes_" => return .atom (.scalar (.bytes []))
  | .scalar name => return .atom (.scalar (← Run.lift ((Atom.int 0).toScalar name)))
  | .type => throw .wrongType

/-- What a core class makes of its arguments. -/
def make (c : CoreClass) (args : List Value) : Run Value :=
  match args with
  | [] => blank c
  | [v] => d.convert c v
  | _ => throw .wrongType

end Dispatch

end FunctionObjects
