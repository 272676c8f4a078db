import FunctionObjects.Text.Quoted
/-!
# Validation results

A log of distinct error messages, in the order in which they first came.  A result is valid until
it gets its first message.
-/

namespace FunctionObjects

structure ValidationResult where
  isValid : Bool
  errors : List String
deriving DecidableEq, Repr, Inhabited

namespace ValidationResult

/-- The valid result. -/
def valid : ValidationResult := ⟨true, []⟩

/-- Puts a message at the end unless it is there already. -/
def record (errors : List String) (message : String) : List String :=
  if errors.contains message then errors else errors ++ [message]

def addError (r : ValidationResult) (message : String) : ValidationResult :=
  ⟨false, record r.errors message⟩

def ofMessage (message : String) : ValidationResult := valid.addError message

/-- Merges another result in; a summary is added only if the other one is invalid. -/
def merge (r other : ValidationResult) (summary : Option String) : ValidationResult :=
  if other.isValid then r
  else
    let errors := other.errors.foldl record r.errors
    ⟨false, match summary with
      | some m => record errors m
      | none => errors⟩

def banner : String := "Validation errors: "

def errorString (r : ValidationResult) : String := String.intercalate "\n" (banner :: r.errors)

def show' (r : ValidationResult) : String :=
  "ValidationResult(is_valid=" ++ (if r.isValid then "True" else "False") ++ ", errors=[" ++
    String.intercalate ", " (r.errors.map Text.quoted) ++ "])"

end ValidationResult

end FunctionObjects
