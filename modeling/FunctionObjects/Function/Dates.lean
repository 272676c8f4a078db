import FunctionObjects.Function.Base
import FunctionObjects.Time.Format
import FunctionObjects.Time.Iso
import FunctionObjects.Time.Scan
import FunctionObjects.Time.Zone
import FunctionObjects.Text.CaseMap
/-!
# Moments and their texts

A moment that is read without an offset stands in the zone that is set, or in universal time.  It is
counted from the first day of 1970 in whole units, of which a part counts as one already begun.
-/

namespace FunctionObjects.Dates

open FunctionObjects.Time

/-- The units in which moments are counted, with their lengths in microseconds. -/
def units : List (String × Int) := [
  ("DAY", 86400000000), ("HOUR", 3600000000), ("MINUTE", 60000000), ("SECOND", 1000000),
  ("MILLISECOND", 1000), ("MICROSECOND", 1)]

/-- A day, as the moment at which it starts. -/
def midnight (date : Date) : Moment := ⟨date, 0, 0, 0, 0, none⟩

/-- The text of a moment in a format, or in the standard form. -/
def toText (self x : Value) : Run Value := do
  if x.isNone then return .none
  let format ← Run.optional self "format"
  match x, format with
  | .atom (.moment t), none => return .str (t.text "T")
  | .atom (.date t), none => return .str t.text
  | .atom (.moment t), some (.atom f) => return .str (t.format (← Run.require .wrongType f.text?))
  | .atom (.date t), some (.atom f) =>
    return .str ((midnight t).format (← Run.require .wrongType f.text?))
  | .atom (.moment _), some _ => throw .wrongType
  | .atom (.date _), some _ => throw .wrongType
  | _, _ => throw .noAttribute

/-- The name of a unit that is known, in capitals. -/
def unitName (v : Value) : Run String := do
  match v with
  | .atom a =>
    let name := Text.upper (← Run.require .noAttribute a.text?)
    if (units.lookup name).isSome then return name
    else throw (.unknownTimeUnit name (units.map (·.1)))
  | _ => throw .noAttribute

/-- The zone of a name. -/
def zone (v : Value) : Run Zone := do
  match v with
  | .atom a =>
    let name ← Run.require .wrongType a.text?
    Run.require (.unknownTimeZone name) ((← get).zones name)
  | _ => throw .wrongType

/-- Reads a moment in a format, or in the standard form. -/
def read (format : Option String) (text : String) : Except Fault Moment :=
  match format with
  | none => (Iso.moment? text.toList).elim (throw (.unreadableTime text)) pure
  | some f =>
    match Scan.moment? f.toList text.toList with
    | .ok t => return t
    | .error .mismatch => throw (.unreadableTime text)
    | .error .expression => throw .malformedExpression

/-- The microseconds from the first day of 1970 to a moment; a zone fixes a missing offset. -/
def instant (z : Option Zone) (t : Moment) : Int :=
  match t.offset with
  | some o => t.sinceEpoch o
  | none => t.sinceEpoch ((z.map (·.offsetAt t)).getD 0)

/-- The count of whole units. -/
def count (micros length : Int) : Int := micros.fdiv length

/-- Sets up a reader of moments. -/
def setUpReader (self format timeZone unit : Value) : Run Unit := do
  let name ← unitName unit
  if !timeZone.isNone then let _ ← zone timeZone
  Run.setField self "format" format
  Run.setField self "time_zone" timeZone
  Run.setField self "time_unit" (.str name)

/-- Reads a moment and counts it. -/
def parse (self x : Value) : Run Value := do
  if x.isNone then return .none
  let text ← Run.require .wrongType (← textOf x)
  let format ← (← Run.optional self "format").mapM fun f => do
    Run.require .wrongType (← textOf f)
  let t ← Run.lift (read format text)
  let z ← if t.offset.isSome then pure none
    else (← Run.optional self "time_zone").mapM zone
  let unit ← textOf (← Run.field self "time_unit")
  let length ← Run.require .noKey (unit.bind fun u => units.lookup u)
  return .int (count (instant z t) length)
where
  textOf (v : Value) : Run (Option String) :=
    match v with
    | .atom a => return a.text?
    | _ => return none

end FunctionObjects.Dates
