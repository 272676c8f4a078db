import FunctionObjects.Function.Attribute
/-!
# Running operations

What an operation gives in a state, one equation for each way to build operations.  A failure keeps
the state that it was reached in.
-/

namespace FunctionObjects.Run

variable {α β : Type} {w w' : World}

/-- What an operation gives in a state, and the state after it. -/
def result (m : Run α) (w : World) : Except Fault α × World := m.run w

@[simp] theorem result_pure (a : α) (w : World) : (pure a : Run α).result w = (.ok a, w) := rfl

@[simp] theorem result_throw (f : Fault) (w : World) :
    (throw f : Run α).result w = (.error f, w) := rfl

@[simp] theorem result_get (w : World) : (get : Run World).result w = (.ok w, w) := rfl

@[simp] theorem result_set (v w : World) : (set v : Run PUnit).result w = (.ok ⟨⟩, v) := rfl

theorem result_bind (m : Run α) (f : α → Run β) (w : World) :
    (m >>= f).result w = match m.result w with
      | (.ok a, w') => (f a).result w'
      | (.error e, w') => (.error e, w') := by
  simp only [result, bind, ExceptT.bind, ExceptT.run, ExceptT.mk, StateT.bind]
  cases m w with
  | mk r w' => cases r <;> rfl

theorem result_bind_ok {m : Run α} {a : α} (f : α → Run β) (h : m.result w = (.ok a, w')) :
    (m >>= f).result w = (f a).result w' := by
  rw [result_bind, h]

theorem result_bind_error {m : Run α} {e : Fault} (f : α → Run β)
    (h : m.result w = (.error e, w')) : (m >>= f).result w = (.error e, w') := by
  rw [result_bind, h]

/-- What follows depends on an operation by its result only. -/
theorem result_bind_congr {m m' : Run α} {v : World} (f : α → Run β)
    (h : m.result w = m'.result v) : (m >>= f).result w = (m' >>= f).result v := by
  rw [result_bind, result_bind, h]

/-- A sequence succeeds only if both parts do. -/
theorem result_bind_eq_ok {m : Run α} {f : α → Run β} {b : β} :
    (m >>= f).result w = (.ok b, w') ↔
      ∃ a v, m.result w = (.ok a, v) ∧ (f a).result v = (.ok b, w') := by
  rw [result_bind]
  generalize m.result w = out
  obtain ⟨r, v⟩ := out
  cases r with
  | error e => simp
  | ok a =>
    constructor
    · exact fun h => ⟨a, v, rfl, h⟩
    · rintro ⟨_, _, ⟨⟩, h⟩
      exact h

theorem result_map (g : α → β) (m : Run α) (w : World) :
    (g <$> m).result w = match m.result w with
      | (.ok a, w') => (.ok (g a), w')
      | (.error e, w') => (.error e, w') := by
  simp only [map_eq_pure_bind, result_bind]
  generalize m.result w = out
  obtain ⟨r, v⟩ := out
  cases r <;> rfl

theorem result_tryCatch (m : Run α) (h : Fault → Run α) (w : World) :
    (tryCatch m h).result w = match m.result w with
      | (.ok a, w') => (.ok a, w')
      | (.error e, w') => (h e).result w' := by
  simp only [result, tryCatch, tryCatchThe, MonadExceptOf.tryCatch, ExceptT.tryCatch, ExceptT.run,
    ExceptT.mk, bind, StateT.bind]
  cases m w with
  | mk r w' => cases r <;> rfl

@[simp] theorem result_lift_ok (a : α) (w : World) : (lift (.ok a)).result w = (.ok a, w) := rfl

@[simp] theorem result_lift_error (f : Fault) (w : World) :
    (lift (.error f) : Run α).result w = (.error f, w) := rfl

@[simp] theorem result_require_some (f : Fault) (a : α) (w : World) :
    (require f (some a)).result w = (.ok a, w) := rfl

@[simp] theorem result_require_none (f : Fault) (w : World) :
    (require f none : Run α).result w = (.error f, w) := rfl

@[simp] theorem result_cell? (r : Ref) (w : World) :
    (cell? r).result w = (.ok w.heap[r]?, w) := rfl

@[simp] theorem result_datum (v : Value) (w : World) :
    (datum v).result w = (.ok (w.read v), w) := rfl

@[simp] theorem result_alloc (c : Cell) (w : World) :
    (alloc c).result w = (.ok (.ref w.heap.size), { w with heap := w.heap.push c }) := rfl

@[simp] theorem result_newList (vs : List Value) (w : World) :
    (newList vs).result w = (.ok (.ref w.heap.size), { w with heap := w.heap.push (.list vs) }) :=
  rfl

@[simp] theorem result_same (x y : Value) (w : World) :
    (same x y).result w = (.ok ((w.read x).same (w.read y)), w) := rfl

@[simp] theorem result_plain (v : Value) (w : World) :
    (plain v).result w = (.ok (w.read v).plain, w) := rfl

@[simp] theorem result_shown (v : Value) (w : World) :
    (shown v).result w = (.ok (w.read v).shown, w) := rfl

@[simp] theorem result_classOf (v : Value) (w : World) :
    (classOf v).result w = (.ok (w.classOf v), w) := rfl

@[simp] theorem result_write (r : Ref) (c : Cell) (w : World) :
    (write r c).result w = (.ok (), { w with heap := w.heap.setIfInBounds r c }) := rfl

theorem result_setField {r : Ref} {c : ClassName} {o : Option Ty} {fields : List (String × Value)}
    (h : w.heap[r]? = some (.object c o fields)) (name : String) (v : Value) :
    (setField (.ref r) name v).result w =
      (.ok (), { w with heap := w.heap.setIfInBounds r (.object c o (assign fields name v)) }) := by
  simp [setField, result_bind, h]

/-- What is set on an object under a name. -/
theorem result_field {r : Ref} {c : ClassName} {o : Option Ty} {fields : List (String × Value)}
    (h : w.heap[r]? = some (.object c o fields)) {name : String} {v : Value}
    (hv : fields.lookup name = some v) : (Run.field (.ref r) name).result w = (.ok v, w) := by
  simp [Run.field, field?, result_bind, World.attributes, World.cell?, h, hv]

theorem result_optional {r : Ref} {c : ClassName} {o : Option Ty} {fields : List (String × Value)}
    (h : w.heap[r]? = some (.object c o fields)) {name : String} {v : Value}
    (hv : fields.lookup name = some v) :
    (Run.optional (.ref r) name).result w = (.ok (if v.isNone then none else some v), w) := by
  rw [Run.optional, result_bind_ok _ (result_field h hv)]
  rfl

theorem result_optional_set {r : Ref} {c : ClassName} {o : Option Ty} {fields : List (String × Value)}
    (h : w.heap[r]? = some (.object c o fields)) {name : String} {v : Value}
    (hv : fields.lookup name = some v) (hset : v.isNone = false) :
    (Run.optional (.ref r) name).result w = (.ok (some v), w) := by
  rw [result_optional h hv, hset]
  rfl

end FunctionObjects.Run
