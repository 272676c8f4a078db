import FunctionObjects.Call.Builtins
import FunctionObjects.Call.Construction
import FunctionObjects.Proofs.Frame.Predicates
/-!
# Making values keeps classes

Functions of the core read what they are given and make new cells, and so do constructors; what a
constructor sets, it sets on the object that it has just made.
-/

namespace FunctionObjects

variable {w : World} {d : Dispatch}

namespace Sorting

variable {less : Value → Value → Run Bool} (hless : ∀ u x y, Frames u (less x y))

include hless

@[grind ←] theorem frames_place (x : Value) (sorted : List Value) (n lo hi : Nat) :
    Frames w (place less x sorted n lo hi) := by
  induction n generalizing lo hi with
  | zero => exact .pure lo
  | succ n ih => unfold place; grind

@[grind ←] theorem frames_run (descending : Bool) (previous : Value) (vs : List Value) :
    Frames w (run less descending previous vs) := by
  induction vs generalizing previous with
  | nil => exact .pure _
  | cons v vs ih => unfold run; grind

@[grind ←] theorem frames_sort (vs : List Value) : Frames w (sort less vs) := by
  unfold sort
  split
  · refine .bind (hless w _ _) fun b => .bind (by grind) fun p => ?_
    exact .foldlM (fun sorted v => by grind) _ _
  · exact .pure _

end Sorting

namespace Builtin

@[grind ←] theorem frames_quantity (v : Value) : Frames w (quantity v) := by unfold quantity; grind

@[grind ←] theorem frames_extreme (r : Rel) (vs : List Value) : Frames w (extreme r vs) := by
  unfold extreme; grind

@[grind ←] theorem frames_extremeOf (hd : d.Framing) (r : Rel) (args : List Value) :
    Frames w (extremeOf d r args) := by unfold extremeOf; grind

@[grind ←] theorem frames_total (hd : d.Framing) (items start : Value) :
    Frames w (total d items start) := by unfold total; grind

@[grind ←] theorem frames_reversal (hd : d.Framing) (v : Value) : Frames w (reversal d v) := by
  unfold reversal; grind

@[grind ←] theorem frames_codeOf (v : Value) : Frames w (codeOf v) := by unfold codeOf; grind

@[grind ←] theorem frames_characterOf (v : Value) : Frames w (characterOf v) := by
  unfold characterOf; grind

@[grind ←] theorem frames_roundTo (v : Value) (places : Int) : Frames w (roundTo v places) := by
  unfold roundTo; grind

@[grind ←] theorem frames_settle (hd : d.Framing) (outcome : Bool) (v : Value) :
    Frames w (settle d outcome v) := by unfold settle; grind

@[grind ←] theorem frames_powerOf (x y : Value) : Frames w (powerOf x y) := by unfold powerOf; grind

@[grind ←] theorem frames_powerMod (x y z : Value) : Frames w (powerMod x y z) := by
  unfold powerMod; grind

@[grind ←] theorem frames_run (hd : d.Framing) (b : Builtin) (args : List Value) :
    Frames w (run d b args) := by unfold run; grind

end Builtin

namespace Construction

@[grind ←] theorem frames_selector (hd : d.Framing) (references : Value) :
    Frames w (selector d references) := by unfold selector; grind

@[grind ←] theorem frames_projector (hd : d.Framing) (references : Value) :
    Frames w (projector d references) := by unfold projector; grind

@[grind ←] theorem frames_storeAll (self : Value) (b : Binding) (hidden : List String) :
    Frames w (storeAll self b hidden) := by unfold storeAll; grind

@[grind ←] theorem frames_setUp (hd : d.Framing) (k : LibraryClass) (self : Value) (b : Binding) :
    Frames w (setUp d k self b) := by unfold setUp; grind

@[grind ←] theorem frames_fieldEntries (hd : d.Framing) (b : Binding) :
    Frames w (fieldEntries d b) := by unfold fieldEntries; grind

@[grind ←] theorem frames_fixedArity (c : ClassName) : Frames w (fixedArity c) := by
  unfold fixedArity; grind

@[grind ←] theorem frames_object (hd : d.Framing) (c : ClassName) (args : Arguments) :
    Frames w (object d c args) := by
  unfold object
  refine .get_bind fun u _ => ?_
  dsimp only
  split
  · exact .throw_bind _ _
  split
  · refine .bind (.lift _) fun b => ?_
    split <;> grind
  · grind

@[grind ←] theorem frames_adapterKind (args : Arguments) : Frames w (adapterKind args) := by
  unfold adapterKind; grind

@[grind ←] theorem frames_dictionary (hd : d.Framing) (args : Arguments) :
    Frames w (dictionary d args) := by unfold dictionary; grind

@[grind ←] theorem frames_failure (c : ClassName) (args : Arguments) :
    Frames w (failure c args) := by unfold failure; grind

@[grind ←] theorem frames_make (hd : d.Framing) (c : ClassName) (args : Arguments) :
    Frames w (make d c args) := by unfold make; grind

/-- A mark on an object leaves it of its class. -/
@[grind ←] theorem frames_mark (t : Ty) (v : Value) : Frames w (mark t v) := by
  unfold mark
  split
  · refine .cell?_bind fun u _ => ?_
    split
    case h_4 => exact .pure _
    all_goals
      rename_i hcell
      exact .write hcell rfl
  · exact .pure _

@[grind ←] theorem frames_ofType (hd : d.Framing) (t : Ty) (args : Arguments) :
    Frames w (ofType d t args) := by unfold ofType; grind

end Construction

end FunctionObjects
