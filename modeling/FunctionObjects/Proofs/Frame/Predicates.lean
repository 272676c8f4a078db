import FunctionObjects.Operator.ByKey
import FunctionObjects.Operator.Aggregation
import FunctionObjects.Predicate.Age
import FunctionObjects.Predicate.Comparison
import FunctionObjects.Predicate.Expressions
import FunctionObjects.Predicate.Logical
import FunctionObjects.Predicate.Membership
import FunctionObjects.Proofs.Frame.Functions
/-!
# Predicates and operators keep classes

Operators may store in the state that comes in: a dictionary takes entries in, and a collection takes
items in.
-/

namespace FunctionObjects

variable {w : World} {d : Dispatch}

namespace Age

@[grind ←] theorem frames_test (self x : Value) : Frames w (test self x) := by unfold test; grind

end Age

namespace Comparison

@[grind ←] theorem frames_ordered (r : Rel) (x y : Value) : Frames w (ordered r x y) := by
  unfold ordered; grind

@[grind ←] theorem frames_test (hd : d.Framing) (strict orEqual : Rel) (self x : Value) :
    Frames w (test d strict orEqual self x) := by unfold test; grind

@[grind ←] theorem frames_isEqual (self x : Value) : Frames w (isEqual self x) := by
  unfold isEqual; grind

end Comparison

namespace Matching

@[grind ←] theorem frames_compile (v : Value) : Frames w (compile v) := by unfold compile; grind

@[grind ←] theorem frames_setExpression (self v : Value) : Frames w (setExpression self v) := by
  unfold setExpression; grind

@[grind ←] theorem frames_setExpressions (hd : d.Framing) (self v : Value) :
    Frames w (setExpressions d self v) := by unfold setExpressions; grind

@[grind ←] theorem frames_test (self x : Value) : Frames w (test self x) := by unfold test; grind

@[grind ←] theorem frames_go (x : Value) (vs : List Value) : Frames w (testAny.go x vs) := by
  induction vs with
  | nil => exact .pure _
  | cons p ps ih => unfold testAny.go; grind

@[grind ←] theorem frames_testAny (hd : d.Framing) (self x : Value) :
    Frames w (testAny d self x) := by unfold testAny; grind

end Matching

namespace Logical

@[grind ←] theorem frames_all (hd : d.Framing) (x : Value) (vs : List Value) :
    Frames w (all d x vs) := by
  induction vs with
  | nil => exact .pure _
  | cons f fs ih => unfold all; grind

@[grind ←] theorem frames_any (hd : d.Framing) (x : Value) (vs : List Value) :
    Frames w (any d x vs) := by
  induction vs with
  | nil => exact .pure _
  | cons f fs ih => unfold any; grind

@[grind ←] theorem frames_conjunction (hd : d.Framing) (self x : Value) :
    Frames w (conjunction d self x) := by unfold conjunction; grind

@[grind ←] theorem frames_disjunction (hd : d.Framing) (self x : Value) :
    Frames w (disjunction d self x) := by unfold disjunction; grind

@[grind ←] theorem frames_negation (hd : d.Framing) (self x : Value) :
    Frames w (negation d self x) := by unfold negation; grind

end Logical

namespace Membership

@[grind ←] theorem frames_setType (self t : Value) : Frames w (setType self t) := by
  unfold setType
  split
  · split
    · refine .get_bind fun u _ => ?_
      split <;> grind
    · grind
  · grind

@[grind ←] theorem frames_isA (self x : Value) : Frames w (isA self x) := by unfold isA; grind

@[grind ←] theorem frames_areIn (hd : d.Framing) (self x : Value) : Frames w (areIn d self x) := by
  unfold areIn
  refine .bind (by grind) fun b => ?_
  split
  · exact .pure _
  refine .bind (by grind) fun values => .bind (by grind) fun b => ?_
  split
  · exact .pure _
  refine .bind (by grind) fun values => ?_
  grind

end Membership

namespace ByKey

@[grind ←] theorem frames_entries (v : Value) : Frames w (entries v) := by unfold entries; grind

@[grind ←] theorem frames_current (hd : d.Framing) (state k : Value) :
    Frames w (current d state k) := by unfold current; grind

/-- Another entry leaves a dictionary. -/
@[grind ←] theorem frames_store (state k v : Value) : Frames w (store state k v) := by
  unfold store
  split
  · refine .cell?_bind fun u _ => ?_
    split
    · rename_i hcell
      exact .bind (by grind) fun es => .write hcell rfl
    · exact .throw _
  · exact .throw _

@[grind ←] theorem frames_step (hd : d.Framing) (f state : Value) (e : Value × Value) :
    Frames w (step d f state e) := by unfold step; grind

@[grind ←] theorem frames_combine (hd : d.Framing) (self state x : Value) :
    Frames w (combine d self state x) := by unfold combine; grind

@[grind ←] theorem frames_apply (hd : d.Framing) (self state x : Value) :
    Frames w (apply d self state x) := by unfold apply; grind

end ByKey

namespace Concatenation

@[grind ←] theorem frames_joinTexts (self state x : Value) : Frames w (joinTexts self state x) := by
  unfold joinTexts; grind

/-- A collection that grows stays of its kind. -/
@[grind ←] theorem frames_extend (hd : d.Framing) (state x : Value) :
    Frames w (extend d state x) := by
  unfold extend
  split
  · refine .cell?_bind fun u _ => ?_
    split
    · rename_i hcell
      refine .bind (by grind) fun vs => .bind (by grind) fun more => .bind (by grind) fun ms => ?_
      exact .bind (.write hcell rfl) fun _ => .pure _
    · rename_i hcell
      exact .bind (by grind) fun more => .bind (.write hcell rfl) fun _ => .pure _
    · rename_i hcell
      exact .bind (by grind) fun more => .bind (.write hcell rfl) fun _ => .pure _
    · grind
  · grind

end Concatenation

namespace Aggregation

@[grind ←] theorem frames_requireNumber (self v : Value) : Frames w (requireNumber self v) := by
  unfold requireNumber; grind

@[grind ←] theorem frames_apply (hd : d.Framing) (self state x : Value) :
    Frames w (apply d self state x) := by unfold apply; grind

@[grind ←] theorem frames_greatest (x y : Value) : Frames w (greatest x y) := by
  unfold greatest; grind

@[grind ←] theorem frames_least (x y : Value) : Frames w (least x y) := by unfold least; grind

end Aggregation

end FunctionObjects
