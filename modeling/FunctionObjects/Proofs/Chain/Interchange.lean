import FunctionObjects.Proofs.Signature.Alike
/-!
# Chains of interchangeable functions

The check of a chain looks at nothing but the signatures of its functions and the names that messages give
them.  Functions that agree in both can be put in the place of each other, also in another state, and the
check says the same, message by message.
-/

namespace FunctionObjects.World

variable {w v : World} {x x' y y' : Value} {fs gs : List Value} {c : ClassName}
  {as : List (String × Datum)}

theorem grows_recalling (w : World) (known : List (List Ty)) : w.Grows (w.recalling known) :=
  ⟨id, rfl, rfl, rfl, rfl⟩

theorem SameTypes.recalling (h : w.SameTypes v) (known : List (List Ty)) :
    (w.recalling known).SameTypes (v.recalling known) where
  hierarchy := h.hierarchy
  declarations := h.declarations
  sites := h.sites
  surroundings := by
    rw [World.recalling, World.recalling, h.surroundings]

/-- Functions of which the same types are read, whatever has been joined before, and that messages call the
same. -/
structure Interchangeable (w v : World) (x y : Value) : Prop where
  types : ∀ known s, (v.recalling known).declaredTypes s y = (w.recalling known).declaredTypes s x
  joins : ∀ s, v.joins? s y = w.joins? s x
  describe : v.describe y = w.describe x

theorem Interchangeable.signature_recalling (h : w.Interchangeable v x y) (hs : w.SameTypes v)
    (known : List (List Ty)) (s : Side) :
    (v.recalling known).signature s y = (w.recalling known).signature s x := by
  simp only [World.signature, h.types, (hs.recalling known).signatureOf]

theorem Interchangeable.signature (h : w.Interchangeable v x y) (hs : w.SameTypes v) (s : Side) :
    v.signature s y = w.signature s x := by
  have hv : v.recalling w.surroundings.joined = v := by rw [← hs.surroundings]; rfl
  have hsame := h.signature_recalling hs w.surroundings.joined s
  rwa [hv] at hsame

/-- After reading of one function, the same is read of another one. -/
theorem Interchangeable.signature_after (h : w.Interchangeable v x y) (h' : w.Interchangeable v x' y')
    (hs : w.SameTypes v) (s s' : Side) :
    (v.after s y).signature s' y' = (w.after s x).signature s' x' := by
  rw [World.after, World.after, h.joins, hs.surroundings]
  cases w.joins? s x with
  | none => exact h'.signature hs s'
  | some ts => exact h'.signature_recalling hs _ s'

/-- Types are checked alike against interchangeable functions. -/
theorem Interchangeable.check (h : w.Interchangeable v x y) (hs : w.SameTypes v) (s : Side)
    (ts : List Ty) : v.check s y ts = w.check s x ts := by
  simp only [World.check, h.signature hs, hs.classes]

theorem composable_of_interchangeable (hs : w.SameTypes v) (h : w.Interchangeable v x y)
    (h' : w.Interchangeable v x' y') : v.composable y y' = w.composable x x' := by
  simp only [composable, h.signature hs, h.signature_after h' hs, h.describe, h'.describe, hs.classes]

theorem go_of_interchangeable (hs : w.SameTypes v) (r : ValidationResult)
    (h : w.Interchangeable v x y) (hrest : List.Forall₂ (w.Interchangeable v) fs gs) :
    validateChain.go v r y gs = validateChain.go w r x fs := by
  induction hrest generalizing r x y with
  | nil => rfl
  | cons hnext _ ih => simp only [validateChain.go, composable_of_interchangeable hs h hnext, ih _ hnext]

/-- The check says the same of interchangeable functions one by one. -/
theorem validateChain_of_interchangeable (hs : w.SameTypes v)
    (h : List.Forall₂ (w.Interchangeable v) fs gs) : v.validateChain gs = w.validateChain fs := by
  cases h with
  | nil => rfl
  | cons hfirst hrest =>
    cases hrest with
    | nil => rfl
    | cons hnext hrest => exact go_of_interchangeable hs .valid hfirst (.cons hnext hrest)

/-- Messages call an object by its class. -/
theorem describe_of_holds (h : w.Holds (.object c as) x) : w.describe x = c.name := by
  obtain ⟨r, o, fields, rfl, hr, -, -⟩ := h
  simp [World.describe, cell?, hr, World.classOf]

/-- Function objects that hold the same kept data and were made directly are interchangeable. -/
theorem interchangeable_of_kept (hs : w.SameTypes v) (hw : w.Stocked)
    (hkept : Kept (fun _ => False) (.object c as)) (hmade : Made w (.object c as))
    (hx : w.Holds (.object c as) x) (hy : v.Holds (.object c as) y) (hxDirect : w.Direct x)
    (hyDirect : v.Direct y) : w.Interchangeable v x y where
  types known s := by
    have hg := grows_recalling w known
    have hg' := grows_recalling v known
    exact ((readAlike_of_kept (hs.recalling known) (hg.stocked hw) hkept (hmade.later hg)).1 x y
      (hg.holds hx) (hg'.holds hy) (hxDirect.later hg) (hyDirect.later hg') s).1
  joins s := ((readAlike_of_kept hs hw hkept hmade).1 x y hx hy hxDirect hyDirect s).2
  describe := by rw [describe_of_holds hx, describe_of_holds hy]

end FunctionObjects.World
