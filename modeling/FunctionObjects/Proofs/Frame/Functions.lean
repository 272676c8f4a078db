import FunctionObjects.Function.Adapted
import FunctionObjects.Function.Chain
import FunctionObjects.Function.Conversion
import FunctionObjects.Function.Dates
import FunctionObjects.Function.Fields
import FunctionObjects.Function.Items
import FunctionObjects.Function.Plain
import FunctionObjects.Function.Tables
import FunctionObjects.Function.Unpacked
import FunctionObjects.Proofs.Frame.Values
import FunctionObjects.Tuple.Named
/-!
# Functions and tuples keep classes

Tuples are written in place, and what sets up an object sets its attributes; functions change nothing
but what they call changes.
-/

namespace FunctionObjects

variable {w : World} {d : Dispatch}

@[grind ←] theorem frames_callFunction (hd : d.Framing) (self x : Value) :
    Frames w (callFunction d self x) := by unfold callFunction; grind

@[grind ←] theorem frames_callPredicate (hd : d.Framing) (self x : Value) :
    Frames w (callPredicate d self x) := by unfold callPredicate; grind

@[grind ←] theorem frames_callOperator (hd : d.Framing) (self state x : Value) :
    Frames w (callOperator d self state x) := by unfold callOperator; grind

@[grind ←] theorem frames_applyOperator (hd : d.Framing) (self state x : Value) :
    Frames w (applyOperator d self state x) := by unfold applyOperator; grind

namespace Adapted

@[grind ←] theorem frames_outputKind (self : Value) : Frames w (outputKind self) := by
  unfold outputKind; grind

@[grind ←] theorem frames_adaptInput (hd : d.Framing) (self x : Value) :
    Frames w (adaptInput d self x) := by unfold adaptInput; grind

@[grind ←] theorem frames_adaptOutput (hd : d.Framing) (self output state : Value) :
    Frames w (adaptOutput d self output state) := by unfold adaptOutput; grind

@[grind ←] theorem frames_inner (self : Value) (name : String) (role : Role) :
    Frames w (inner self name role) := by unfold inner; grind

@[grind ←] theorem frames_applyFunction (hd : d.Framing) (self x : Value) :
    Frames w (applyFunction d self x) := by unfold applyFunction; grind

@[grind ←] theorem frames_testPredicate (hd : d.Framing) (self x : Value) :
    Frames w (testPredicate d self x) := by unfold testPredicate; grind

@[grind ←] theorem frames_applyOperator (hd : d.Framing) (self state x : Value) :
    Frames w (applyOperator d self state x) := by unfold applyOperator; grind

@[grind ←] theorem frames_checkSlots (self adapter fold : Value) :
    Frames w (checkSlots self adapter fold) := by unfold checkSlots; grind

@[grind ←] theorem frames_setInput (self adapter : Value) : Frames w (setInput self adapter) := by
  unfold setInput; grind

@[grind ←] theorem frames_setOutput (self adapter fold : Value) :
    Frames w (setOutput self adapter fold) := by unfold setOutput; grind

@[grind ←] theorem frames_setSlots (self input adapter fold : Value) :
    Frames w (setSlots self input adapter fold) := by unfold setSlots; grind

end Adapted

namespace Dates

@[grind ←] theorem frames_toText (self x : Value) : Frames w (toText self x) := by
  unfold toText; grind

@[grind ←] theorem frames_unitName (v : Value) : Frames w (unitName v) := by unfold unitName; grind

@[grind ←] theorem frames_zone (v : Value) : Frames w (zone v) := by unfold zone; grind

@[grind ←] theorem frames_setUpReader (self format timeZone unit : Value) :
    Frames w (setUpReader self format timeZone unit) := by unfold setUpReader; grind

@[grind ←] theorem frames_textOf (v : Value) : Frames w (parse.textOf v) := by
  unfold parse.textOf; grind

@[grind ←] theorem frames_parse (self x : Value) : Frames w (parse self x) := by
  unfold parse
  split
  · exact .pure _
  · refine .bind (by grind) fun o => .bind (by grind) fun text => ?_
    refine .bind (by grind) fun o => .bind (by grind) fun format => .bind (by grind) fun t => ?_
    grind

end Dates

namespace PositionalTuple

@[grind ←] theorem frames_ofValues (vs : List Value) : Frames w (ofValues vs) := by
  unfold ofValues; grind

/-- What follows a look at the contents starts in a state with them. -/
@[grind ←] theorem contents_bind {β : Type} {self : Value}
    {f : Ref × ClassName × Option Ty × List Value → Run β}
    (hf : ∀ u r c a vs, u.heap[r]? = some (.slots c a vs) → Frames u (f (r, c, a, vs))) :
    Frames w (contents self >>= f) := by
  unfold contents
  split
  · rw [bind_assoc]
    refine .cell?_bind fun u _ => ?_
    split
    · rename_i hcell
      rw [pure_bind]
      exact hf u _ _ _ _ hcell
    · exact .throw_bind _ _
  · exact .throw_bind _ _

@[grind ←] theorem frames_index (count : Nat) (v : Value) : Frames w (index count v) := by
  unfold index; grind

@[grind ←] theorem frames_get (self i : Value) : Frames w (get self i) := by unfold get; grind

/-- Another value at a position leaves a tuple of its class. -/
@[grind ←] theorem frames_put (self i v : Value) : Frames w (put self i v) := by
  unfold put
  refine contents_bind fun u r c a vs hcell => ?_
  exact .bind (by grind) fun n => .bind (.write hcell rfl) fun _ => .pure _

@[grind ←] theorem frames_values (self : Value) : Frames w (values self) := by unfold values; grind

end PositionalTuple

namespace NamedTuple

/-- What follows a look at the contents starts in a state with them. -/
@[grind ←] theorem contents_bind {β : Type} {self : Value}
    {f : Ref × ClassName × Option Ty × List (Value × Value) → Run β}
    (hf : ∀ u r c a vs, u.heap[r]? = some (.fields c a vs) → Frames u (f (r, c, a, vs))) :
    Frames w (contents self >>= f) := by
  unfold contents
  split
  · rw [bind_assoc]
    refine .cell?_bind fun u _ => ?_
    split
    · rename_i hcell
      rw [pure_bind]
      exact hf u _ _ _ _ hcell
    · exact .throw_bind _ _
  · exact .throw_bind _ _

@[grind ←] theorem frames_get (self k : Value) : Frames w (get self k) := by unfold get; grind

@[grind ←] theorem frames_put (self k v : Value) : Frames w (put self k v) := by
  unfold put
  refine contents_bind fun u r c a es hcell => ?_
  exact .bind (by grind) fun es => .bind (.write hcell rfl) fun _ => .pure _

@[grind ←] theorem frames_values (self : Value) : Frames w (values self) := by unfold values; grind

@[grind ←] theorem frames_names (self : Value) : Frames w (names self) := by unfold names; grind

end NamedTuple

namespace Numbers

@[grind ←] theorem frames_setDivisor (self by' : Value) : Frames w (setDivisor self by') := by
  unfold setDivisor; grind

@[grind ←] theorem frames_divide (self x : Value) : Frames w (divide self x) := by
  unfold divide; grind

@[grind ←] theorem frames_multiply (self x : Value) : Frames w (multiply self x) := by
  unfold multiply; grind

end Numbers

namespace Conversion

@[grind ←] theorem frames_cast (hd : d.Framing) (self x : Value) : Frames w (cast d self x) := by
  unfold cast; grind

@[grind ←] theorem frames_toLong (hd : d.Framing) (x : Value) : Frames w (toLong d x) := by
  unfold toLong; grind

@[grind ←] theorem frames_getFrom (hd : d.Framing) (v key : Value) :
    Frames w (getFrom d v key) := by unfold getFrom; grind

@[grind ←] theorem frames_lookUp (hd : d.Framing) (self x : Value) :
    Frames w (lookUp d self x) := by unfold lookUp; grind

@[grind ←] theorem frames_toArray (hd : d.Framing) (x : Value) : Frames w (toArray d x) := by
  unfold toArray; grind

end Conversion

namespace Fields

@[grind ←] theorem frames_selected (hd : d.Framing) (x : Value) (selection : List Value) :
    Frames w (selected d x selection) := by unfold selected; grind

@[grind ←] theorem frames_select (hd : d.Framing) (self x : Value) :
    Frames w (select d self x) := by unfold select; grind

@[grind ←] theorem frames_store (hd : d.Framing) (state : Value) (pairs : List (Value × Value)) :
    Frames w (store d state pairs) := by unfold store; grind

@[grind ←] theorem frames_project (hd : d.Framing) (self state output : Value) :
    Frames w (project d self state output) := by unfold project; grind

end Fields

namespace Items

@[grind ←] theorem frames_position (v : Value) : Frames w (position v) := by unfold position; grind

@[grind ←] theorem frames_nth (hd : d.Framing) (self x : Value) : Frames w (nth d self x) := by
  unfold nth
  split
  · exact .throw_bind _ _
  · refine .bind (by grind) fun selection => .bind (by grind) fun n => .bind (by grind) fun c => ?_
    grind

@[grind ←] theorem frames_firstValid (hd : d.Framing) (self x : Value) :
    Frames w (firstValid d self x) := by
  unfold firstValid
  split
  · exact .pure _
  · refine .bind (by grind) fun o => ?_
    grind

@[grind ←] theorem frames_isEmpty (hd : d.Framing) (x : Value) : Frames w (isEmpty d x) := by
  unfold isEmpty; grind

@[grind ←] theorem frames_concat (hd : d.Framing) (x : Value) : Frames w (concat d x) := by
  unfold concat; grind

@[grind ←] theorem frames_filter (hd : d.Framing) (self x : Value) :
    Frames w (filter d self x) := by unfold filter; grind

end Items

namespace Unpacked

@[grind ←] theorem frames_arity (self : Value) : Frames w (arity self) := by unfold arity; grind

@[grind ←] theorem frames_isPositional (v : Value) : Frames w (isPositional v) := by
  unfold isPositional; grind

@[grind ←] theorem frames_unpack (hd : d.Framing) (self x : Value) :
    Frames w (unpack d self x) := by unfold unpack; grind

@[grind ←] theorem frames_repack (self result : Value) : Frames w (repack self result) := by
  unfold repack; grind

@[grind ←] theorem frames_delegateApply (hd : d.Framing) (self x : Value) :
    Frames w (delegateApply d self x) := by unfold delegateApply; grind

@[grind ←] theorem frames_delegateTest (hd : d.Framing) (self x : Value) :
    Frames w (delegateTest d self x) := by unfold delegateTest; grind

@[grind ←] theorem frames_callFunction (hd : d.Framing) (self x : Value) :
    Frames w (callFunction d self x) := by unfold callFunction; grind

@[grind ←] theorem frames_callPredicate (hd : d.Framing) (self x : Value) :
    Frames w (callPredicate d self x) := by unfold callPredicate; grind

end Unpacked

namespace Tables

@[grind ←] theorem frames_setUp (hd : d.Framing) (self header firstRow delimiter quoted quote : Value) :
    Frames w (setUp d self header firstRow delimiter quoted quote) := by
  unfold setUp
  refine .bind (by grind) fun n => ?_
  split
  · grind
  refine .bind (by grind) fun n => ?_
  split
  · grind
  refine .bind (by grind) fun b => ?_
  split <;> grind

@[grind ←] theorem frames_byteChar (v : Value) : Frames w (byteChar v) := by unfold byteChar; grind

@[grind ←] theorem frames_rowCount (v : Value) : Frames w (rowCount v) := by unfold rowCount; grind

@[grind ←] theorem frames_entries (header : List Value) (cells : List String) :
    Frames w (entries header cells) := by unfold entries; grind

@[grind ←] theorem frames_layoutOf (hd : d.Framing) (self : Value) : Frames w (layoutOf d self) := by
  unfold layoutOf; grind

@[grind ←] theorem frames_parseWith (hd : d.Framing) (read : Reader) (self : Value) (text : String) :
    Frames w (parseWith d read self text) := by
  unfold parseWith
  split
  · grind
  refine .bind (by grind) fun l => .bind (by grind) fun v => .bind (by grind) fun skip => ?_
  grind

@[grind ←] theorem frames_parseText (hd : d.Framing) (self : Value) (text : String) :
    Frames w (parseText d self text) := frames_parseWith hd _ self text

@[grind ←] theorem frames_parse (hd : d.Framing) (self x : Value) : Frames w (parse d self x) := by
  unfold parse; grind

@[grind ←] theorem frames_apply (hd : d.Framing) (self x : Value) : Frames w (apply d self x) := by
  unfold apply; grind

@[grind ←] theorem frames_applyLines (hd : d.Framing) (self x : Value) :
    Frames w (applyLines d self x) := by unfold applyLines; grind

end Tables

namespace Run

@[grind ←] theorem frames_pattern (v : Value) : Frames w (pattern v) := by unfold pattern; grind

@[grind ←] theorem frames_program (p : Pattern) : Frames w (program p) := by unfold program; grind

@[grind ←] theorem frames_subject (p : Pattern) (v : Value) : Frames w (subject p v) := by
  unfold subject; grind

@[grind ←] theorem frames_matchesWhole (p v : Value) : Frames w (matchesWhole p v) := by
  unfold matchesWhole; grind

end Run

namespace Texts

@[grind ←] theorem frames_setUp (self regex replacement : Value) :
    Frames w (setUp self regex replacement) := by unfold setUp; grind

@[grind ←] theorem frames_replace (self x : Value) : Frames w (replace self x) := by
  unfold replace
  split
  · exact .pure _
  refine .bind (by grind) fun o => ?_
  split
  · exact .throw _
  · refine .bind (by grind) fun v => .bind (by grind) fun replacement => ?_
    grind
  · exact .throw _

@[grind ←] theorem frames_concat (self x y : Value) : Frames w (concat self x y) := by
  unfold concat
  split
  · exact .pure _
  · refine .bind (by grind) fun v => ?_
    grind

end Texts

namespace Chain

@[grind ←] theorem frames_through (hd : d.Framing) (x : Value) (fs : List Value) :
    Frames w (through d x fs) := by unfold through; grind

@[grind ←] theorem frames_apply (hd : d.Framing) (self x : Value) : Frames w (apply d self x) := by
  unfold apply; grind

@[grind ←] theorem frames_validate (hd : d.Framing) (self : Value) :
    Frames w (validate d self) := by unfold validate; grind

end Chain

end FunctionObjects
