import FunctionObjects.Function.Attribute
import FunctionObjects.Proofs.State.Keeping
import FunctionObjects.Value.Conversion
/-!
# Operations on values keep classes

Walks advance iterators in place, and attributes are set on objects in place; all else that these
operations store goes into new cells.
-/

namespace FunctionObjects

variable {w : World} {d : Dispatch}

namespace Run

@[grind ←] theorem frames_classOf (v : Value) : Frames w (classOf v) := by unfold classOf; grind

@[grind ←] theorem frames_typeName (v : Value) : Frames w (typeName v) := by unfold typeName; grind

@[grind ←] theorem frames_atom (v : Value) : Frames w (atom v) := by unfold atom; grind

@[grind ←] theorem frames_plain (v : Value) : Frames w (plain v) := by unfold plain; grind

@[grind ←] theorem frames_shown (v : Value) : Frames w (shown v) := by unfold shown; grind

@[grind ←] theorem frames_same (x y : Value) : Frames w (same x y) := by unfold same; grind

@[grind ←] theorem frames_equal (x y : Value) : Frames w (equal x y) := by unfold equal; grind

@[grind ←] theorem frames_holds (r : Rel) (x y : Value) : Frames w (holds r x y) := by
  unfold holds; grind

@[grind ←] theorem frames_relation (r : Rel) (x y : Value) : Frames w (relation r x y) := by
  unfold relation; grind

@[grind ←] theorem frames_add (x y : Value) : Frames w (add x y) := by unfold add; grind

@[grind ←] theorem frames_repetition (x : Value) (n : Int) : Frames w (repetition x n) := by
  unfold repetition; grind

@[grind ←] theorem frames_mul (x y : Value) : Frames w (mul x y) := by unfold mul; grind

@[grind ←] theorem frames_sub (x y : Value) : Frames w (sub x y) := by unfold sub; grind

@[grind ←] theorem frames_divMod (x y : Value) : Frames w (divMod x y) := by unfold divMod; grind

@[grind ←] theorem frames_key (v : Value) : Frames w (key v) := by unfold key; grind

@[grind ←] theorem frames_lookup? (entries : List (Value × Value)) (k : Value) :
    Frames w (lookup? entries k) := by unfold lookup?; grind

@[grind ←] theorem frames_insert (entries : List (Value × Value)) (k v : Value) :
    Frames w (insert entries k v) := by unfold insert; grind

@[grind ←] theorem frames_insertAll (entries more : List (Value × Value)) :
    Frames w (insertAll entries more) := by unfold insertAll; grind

@[grind ←] theorem frames_addMember (members : List Value) (v : Value) :
    Frames w (addMember members v) := by unfold addMember; grind

@[grind ←] theorem frames_addMembers (members more : List Value) :
    Frames w (addMembers members more) := by unfold addMembers; grind

@[grind ←] theorem frames_contains (items : List Value) (v : Value) :
    Frames w (contains items v) := by unfold contains; grind

@[grind ←] theorem frames_atomOrBytes (v : Value) : Frames w (atomOrBytes v) := by
  unfold atomOrBytes; grind

@[grind ←] theorem frames_field? (self : Value) (name : String) : Frames w (field? self name) := by
  unfold field?; grind

@[grind ←] theorem frames_field (self : Value) (name : String) : Frames w (field self name) := by
  unfold field; grind

@[grind ←] theorem frames_optional (self : Value) (name : String) :
    Frames w (optional self name) := by unfold optional; grind

/-- Another attribute leaves an object what it is. -/
@[grind ←] theorem frames_setField (self : Value) (name : String) (v : Value) :
    Frames w (setField self name v) := by
  unfold setField
  split
  · refine .cell?_bind fun u _ => ?_
    split
    · rename_i hcell
      exact .write hcell rfl
    · exact .throw _
  · exact .throw _

@[grind ←] theorem frames_orUnordered {m : Run Bool} (h : Frames w m) : Frames w (orUnordered m) :=
  h.tryCatch fun e => by grind

end Run

namespace Cursor

/-- An iterator that moves on stays one of its class. -/
@[grind ←] theorem frames_next (c : Cursor) : Frames w c.next := by
  unfold next
  split
  · exact .pure _
  · exact .pure _
  · refine .cell?_bind fun u _ => ?_
    split
    · rename_i hcell
      exact .bind (.write hcell rfl) fun _ => .pure _
    · exact .pure _

@[grind ←] theorem frames_drain (c : Cursor) : Frames w c.drain := by
  unfold drain
  split
  · exact .pure _
  · refine .cell?_bind fun u _ => ?_
    split
    · rename_i hcell
      exact .bind (.write hcell rfl) fun _ => .pure _
    · exact .pure _

@[grind ←] theorem frames_skip (n : Nat) (c : Cursor) : Frames w (skip n c) := by
  induction n generalizing c with
  | zero => exact .pure c
  | succ n ih => unfold skip; grind

@[grind ←] theorem frames_search {α : Type} {step : Value → Run (Option α)}
    (hstep : ∀ u v, Frames u (step v)) (c : Cursor) : Frames w (search step c) := by
  have hfind : ∀ (n : Nat) (u : World) (c : Cursor), Frames u (findSome step n c) := by
    intro n
    induction n with
    | zero => exact fun _ _ => .pure none
    | succ n ih => intro u c; unfold findSome; grind
  unfold search
  grind

@[grind ←] theorem frames_filter {test : Value → Run Bool} (htest : ∀ u v, Frames u (test v))
    (c : Cursor) : Frames w (filter test c) := by
  have hfilter : ∀ (n : Nat) (u : World) (c : Cursor), Frames u (filterFrom test n c) := by
    intro n
    induction n with
    | zero => exact fun _ _ => .pure []
    | succ n ih => intro u c; unfold filterFrom; grind
  unfold filter
  grind

@[grind ←] theorem frames_flatMap {step : Value → Run (List Value)}
    (hstep : ∀ u v, Frames u (step v)) (c : Cursor) : Frames w (flatMap step c) := by
  have hmap : ∀ (n : Nat) (u : World) (c : Cursor), Frames u (flatMapFrom step n c) := by
    intro n
    induction n with
    | zero => exact fun _ _ => .pure []
    | succ n ih => intro u c; unfold flatMapFrom; grind
  unfold flatMap
  grind

end Cursor

namespace Dispatch

variable (hd : d.Framing)

include hd

@[grind ←] theorem frames_cursor (v : Value) : Frames w (d.cursor v) := by unfold cursor; grind

@[grind ←] theorem frames_items (v : Value) : Frames w (d.items v) := by unfold items; grind

@[grind ←] theorem frames_length (v : Value) : Frames w (d.length v) := by unfold length; grind

@[grind ←] theorem frames_truth (v : Value) : Frames w (d.truth v) := by unfold truth; grind

@[grind ←] theorem frames_numbers (v : Value) : Frames w (bytesOf.numbers d v) := by
  unfold bytesOf.numbers; grind

@[grind ←] theorem frames_bytesOf (v : Value) : Frames w (d.bytesOf v) := by unfold bytesOf; grind

@[grind ←] theorem frames_entryOf (v : Value) : Frames w (d.entryOf v) := by unfold entryOf; grind

@[grind ←] theorem frames_pairs (v : Value) : Frames w (entriesOf.pairs d v) := by
  unfold entriesOf.pairs; grind

@[grind ←] theorem frames_entriesOf (v : Value) : Frames w (d.entriesOf v) := by
  unfold entriesOf; grind

omit hd in
@[grind ←] theorem frames_decimalOf (v : Value) : Frames w (decimalOf v) := by
  unfold decimalOf; grind

@[grind ←] theorem frames_convert (c : CoreClass) (v : Value) : Frames w (d.convert c v) := by
  unfold convert; grind

omit hd in
@[grind ←] theorem frames_blank (c : CoreClass) : Frames w (blank c) := by unfold blank; grind

@[grind ←] theorem frames_make (c : CoreClass) (args : List Value) : Frames w (d.make c args) := by
  unfold make; grind

@[grind ←] theorem frames_listOf (v : Value) : Frames w (d.listOf v) := by unfold listOf; grind

@[grind ←] theorem frames_itemsOf (self : Value) (name : String) :
    Frames w (d.itemsOf self name) := by unfold itemsOf; grind

@[grind ←] theorem frames_accepts (f x : Value) : Frames w (d.accepts f x) := by
  unfold accepts; grind

end Dispatch

end FunctionObjects
