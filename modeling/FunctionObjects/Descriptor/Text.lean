import FunctionObjects.Descriptor.Basic
import FunctionObjects.Text.Quoted
/-!
# The text of descriptors

Two texts: the short name that messages use, and the full form that a value shows.  In the short
name a parameterized form has the name of its class, and both spellings of a union look alike.
-/

namespace FunctionObjects

/-- The text of a constant. -/
def Literal.text : Literal → String
  | .bool b => if b then "True" else "False"
  | .int n => toString n
  | .str s => Text.quoted s
  | .object s => s

namespace Ty

/-- A class as it stands among parameters. -/
def classText (c : ClassName) : String := c.qualified

mutual

/-- The full form. -/
def shown : Ty → String
  | .any => "typing.Any"
  | .none => "None"
  | .ellipsis => "Ellipsis"
  | .cls c => "<class '" ++ c.qualified ++ "'>"
  | .named a => "typing." ++ a.name
  | .form n => "typing." ++ n
  | .var v _ => "~" ++ v.name
  | .app (.named .tuple) [] => "typing.Tuple[()]"
  | .app (.named a) ts => "typing." ++ a.name ++ "[" ++ String.intercalate ", " (shownArgs ts) ++ "]"
  | .app .literal ts => "typing.Literal[" ++ String.intercalate ", " (shownArgs ts) ++ "]"
  | .app (.cls c) [] => classText c ++ "[()]"
  | .app (.cls c) ts => classText c ++ "[" ++ String.intercalate ", " (shownArgs ts) ++ "]"
  | .union true ts => String.intercalate " | " (shownMembers ts)
  | .union false [t, .cls ⟨"builtins", "NoneType"⟩] => "typing.Optional[" ++ shownArg t ++ "]"
  | .union false [.cls ⟨"builtins", "NoneType"⟩, t] => "typing.Optional[" ++ shownArg t ++ "]"
  | .union false ts => "typing.Union[" ++ String.intercalate ", " (shownArgs ts) ++ "]"
  | .params ts => "[" ++ String.intercalate ", " (shownAll ts) ++ "]"
  | .lit l => l.text
  | .forward s => "ForwardRef(" ++ Text.quoted s ++ ")"

/-- The form that a parameter has. -/
def shownArg : Ty → String
  | .cls c => classText c
  | .ellipsis => "..."
  | .params ts => "[" ++ String.intercalate ", " (shownArgs ts) ++ "]"
  | t => shown t

def shownArgs : List Ty → List String
  | [] => []
  | t :: ts => shownArg t :: shownArgs ts

/-- The members of a union joined by bars. -/
def shownMembers : List Ty → List String
  | [] => []
  | .cls c :: ts => (if c == .noneType then "None" else classText c) :: shownMembers ts
  | t :: ts => shown t :: shownMembers ts

def shownAll : List Ty → List String
  | [] => []
  | t :: ts => shown t :: shownAll ts

end

/-- The full form without the word that marks forms. -/
def unmarked (t : Ty) : String := t.shown.replace "typing." ""

/-- What a form is called whose parameters are given. -/
def headName : Head → String
  | .cls c => c.name
  | .named a => a.origin.name
  | .literal => "Literal"

mutual

/-- The short name. -/
def name : Ty → String
  | .any => "Any"
  | .none => "None"
  | .ellipsis => "..."
  | .cls c => if c == .noneType then "None" else c.name
  | .app h [] => (Ty.app h []).unmarked
  | .app h (t :: ts) => headName h ++ "[" ++ String.intercalate ", " (name t :: names ts) ++ "]"
  | .union _ ts => String.intercalate " | " (names ts)
  | .named a => (Ty.named a).unmarked
  | .form n => (Ty.form n).unmarked
  | .var v b => (Ty.var v b).unmarked
  | .params ts => (Ty.params ts).unmarked
  | .lit l => (Ty.lit l).unmarked
  | .forward s => (Ty.forward s).unmarked

def names : List Ty → List String
  | [] => []
  | t :: ts => name t :: names ts

end

end Ty

end FunctionObjects
