import FunctionObjects.Call.Evaluate
import FunctionObjects.Proofs.Frame.Making
/-!
# Calls keep classes

A call runs code of callers, methods of the library and constructors.  Apart from the calls inside it, each
of them makes new cells and gives a cell other contents of the kind that it has.  By induction on how deep
calls go, none of them declares a class or turns an object into one of another class.
-/

namespace FunctionObjects

variable {w : World} {d : Dispatch}

namespace Run

/-- The record of calls is no part of what is kept. -/
@[grind ←] theorem frames_record (label : String) (args : List Value) :
    Frames w (record label args) := fun _ _ => ⟨rfl, fun hc => ⟨_, hc, rfl⟩⟩

end Run

theorem Cell.kind_of_filled? {c c' : Cell} {x : Filling} (h : c.filled? x = some c') :
    c'.kind = c.kind := by
  unfold filled? at h
  split at h <;> cases h <;> rfl

namespace Code

variable (hd : d.Framing) {inherited : Run Value} (hinherited : Frames w inherited)

/-- What is stored in a cell is of the kind that the cell has. -/
theorem frames_store (r : Ref) (c : Filling) : Frames w (perform d inherited (.store r c)) := by
  unfold perform
  refine .cell?_bind fun u _ => ?_
  cases hcell : u.heap[r]? with
  | none => exact .throw_bind _ _
  | some cell =>
    show Frames u (Run.require .wrongType (cell.filled? c) >>= _)
    cases hfilled : cell.filled? c with
    | none => exact .throw_bind _ _
    | some cell' =>
      show Frames u (Run.write r cell' >>= fun _ => pure Value.none)
      exact .bind (.write hcell (Cell.kind_of_filled? hfilled)) fun _ => .pure _

include hd hinherited

theorem frames_perform (q : Request) : Frames w (perform d inherited q) := by
  cases q with
  | inherited => exact hinherited
  | store r c => exact frames_store r c
  | _ => unfold perform; grind

/-- By induction on code: whatever it is given, what it does next keeps the classes. -/
theorem frames_run (c : Code) : Frames w (run d inherited c) := by
  induction c generalizing w with
  | give v => exact .pure v
  | fail f => exact .throw f
  | look r next ih => exact .cell?_bind fun u hu => ih _ (hinherited.later hu)
  | ask q next ih =>
    exact .bind (.tryCatch (frames_perform hd hinherited q).map fun f => .pure _) fun answer =>
      ih answer hinherited
  | define name params returns body next _ ih => exact .bind (.alloc _) fun v => ih v hinherited

end Code

@[grind ←] theorem Routine.frames_run (hd : d.Framing) {inherited : Run Value}
    (hinherited : Frames w inherited) (r : Routine) (args : List Value) :
    Frames w (run d r inherited args) := by
  unfold run
  refine .bind (.lift _) fun b => ?_
  split
  · exact (Run.frames_record _ _).bind fun _ => Code.frames_run hd hinherited _
  · exact Code.frames_run hd hinherited _

namespace Method

@[grind ←] theorem frames_check (s : Side) (self : Value) (ts : List Value) :
    Frames w (check s self ts) := by unfold check; grind

@[grind ←] theorem frames_compareWith (k : LibraryClass) {outcome : Value → Value → Run Bool}
    (houtcome : ∀ u x y, Frames u (outcome x y)) (self x : Value) :
    Frames w (compareWith k outcome self x) := by unfold compareWith; grind

@[grind ←] theorem frames_checkPair (self : Value) (ts : List Value) :
    Frames w (checkPair self ts) := by unfold checkPair; grind

@[grind ←] theorem frames_ofPlain (v : Value) (name : String) (args : List Value) :
    Frames w (ofPlain v name args) := by unfold ofPlain; grind

variable (hd : d.Framing) {k : LibraryClass} {name : String} {self : Value} {args : List Value}
  {m : Run Value}

include hd

@[grind ←] theorem frames_iterator (self : Value) : Frames w (iterator d self) := by
  unfold iterator; grind

theorem frames_ofTuple (h : ofTuple d k name self args = some m) : Frames w m := by
  unfold ofTuple at h
  split at h <;> grind

theorem frames_ofBase (h : ofBase d k name self args = some m) : Frames w m := by
  unfold ofBase at h
  split at h <;> grind

theorem frames_ofFunction (h : ofFunction d k name self args = some m) : Frames w m := by
  unfold ofFunction at h
  split at h <;> grind

theorem frames_ofPredicate (h : ofPredicate d k name self args = some m) : Frames w m := by
  unfold ofPredicate at h
  split at h <;> grind

theorem frames_ofOperator (h : ofOperator d k name self args = some m) : Frames w m := by
  unfold ofOperator at h
  split at h <;> grind

@[grind ←] theorem frames_ofLibrary (k : LibraryClass) (name : String) (self : Value)
    (args : List Value) : Frames w (ofLibrary d k name self args) := by
  unfold ofLibrary
  cases hm : (ofTuple d k name self args <|> ofBase d k name self args <|>
    ofFunction d k name self args <|> ofPredicate d k name self args <|>
    ofOperator d k name self args) with
  | none => exact .throw _
  | some m =>
    simp only [Option.orElse_eq_orElse, Option.orElse_eq_or, Option.or_eq_some_iff] at hm
    rcases hm with h | ⟨-, h | ⟨-, h | ⟨-, h | ⟨-, h⟩⟩⟩⟩
    · exact frames_ofTuple hd h
    · exact frames_ofBase hd h
    · exact frames_ofFunction hd h
    · exact frames_ofPredicate hd h
    · exact frames_ofOperator hd h

/-- A method that is inherited is one of the classes that are still to be searched. -/
@[grind ←] theorem frames_inClasses (self : Value) (name : String) (args : List Value)
    (cs : List ClassName) : Frames w (inClasses d self name args cs) := by
  induction cs generalizing w with
  | nil => exact .throw _
  | cons c cs ih =>
    unfold inClasses
    refine .get_bind fun u _ => ?_
    have hinherited : Frames u (inClasses d self name args cs) := ih
    split <;> grind

@[grind ←] theorem frames_ofType (t : Ty) (name : String) (args : List Value) :
    Frames w (ofType d t name args) := by unfold ofType; grind

@[grind ←] theorem frames_call (self : Value) (name : String) (args : List Value) :
    Frames w (call d self name args) := by unfold call; grind

end Method

@[grind ←] theorem frames_callValue (hd : d.Framing) (f : Value) (args : List Value) :
    Frames w (callValue d f args) := by unfold callValue; grind

namespace Dispatch

/-- Calls of any depth keep the classes. -/
theorem framing_ofDepth (n : Nat) : (ofDepth n).Framing := by
  induction n with
  | zero => exact ⟨fun _ _ _ => .throw _, fun _ _ _ _ => .throw _⟩
  | succ n ih =>
    exact ⟨fun _ f args => frames_callValue ih f args,
      fun _ self name args => Method.frames_call ih self name args⟩

theorem framing_standard : standard.Framing := framing_ofDepth depthLimit

end Dispatch

/-- Whatever is called, and whether it succeeds or fails: the classes, what they declare, and what has
been registered are the same afterwards, and every cell is of the kind that it was. -/
theorem World.keeps_call (w : World) (f : Value) (args : List Value) :
    w.Keeps ((Dispatch.standard.call f args).result w).2 :=
  Dispatch.framing_standard.call w f args w (.refl w)

end FunctionObjects
