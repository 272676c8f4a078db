import FunctionObjects.Proofs.Chain.Positions
import FunctionObjects.Proofs.Chain.Typing
import FunctionObjects.Proofs.Frame.Calls
/-!
# Handing values through chains

The calls that a chain makes, one for each function until one fails.  In a chain that has been
validated every call gets a value of the type with which it is handed over, as long as every function
gives what it declares; and the validation still stands where the call is made, since calls keep the
classes.
-/

namespace FunctionObjects

open Run

namespace Chain

/-- A call that a chain makes: the function that gave its input, if it is not the first one, and the
function, its input and the state. -/
structure Call where
  giver : Option Value
  step : Value
  input : Value
  state : World

variable (d : Dispatch)

/-- What a call gives. -/
def Call.result (c : Call) : Except Fault Value × World := (d.call c.step [c.input]).result c.state

/-- The calls that are made to hand a value through functions. -/
def calls : Option Value → Value → List Value → World → List Call
  | _, _, [], _ => []
  | giver, x, f :: fs, w =>
    ⟨giver, f, x, w⟩ ::
      match (d.call f [x]).result w with
      | (.ok y, u) => calls (some f) y fs u
      | (.error _, _) => []

variable {d}

/-- A chain fails only where one of its calls fails. -/
theorem error_of_through {giver : Option Value} {x : Value} {fs : List Value} {w u : World}
    {e : Fault} (h : (through d x fs).result w = (.error e, u)) :
    ∃ c ∈ calls d giver x fs w, c.result d = (.error e, u) := by
  induction fs generalizing giver x w with
  | nil => cases h
  | cons f fs ih =>
    rw [through, List.foldlM_cons, result_bind] at h
    rw [calls]
    generalize hout : (d.call f [x]).result w = out at h ⊢
    obtain ⟨r, v⟩ := out
    cases r with
    | error e' =>
      exact ⟨_, List.mem_cons_self, hout.trans h⟩
    | ok y =>
      obtain ⟨c, hc, hresult⟩ := @ih (some f) y v h
      exact ⟨c, List.mem_cons_of_mem _ hc, hresult⟩

end Chain

namespace World

variable {w : World}

/-- The type with which a value is handed to a function: the output that its giver declares, or the
input that the function itself declares. -/
def handed (w : World) (giver : Option Value) (f : Value) : Except Fault Ty :=
  match giver with
  | none => Signature.type <$> w.signature .input f
  | some g => Signature.type <$> w.signature .output g

/-- A value of the type that a function declares for one of its sides, as far as it declares one. -/
def Declares (w : World) (s : Side) (f x : Value) (u : World) : Prop :=
  ∀ sig, w.signature s f = .ok sig → u.IsOf sig.type x

end World

open Chain

/-- Along the calls of a chain that composes: the classes are those of the start, the function goes
together with the one before, and the input is of the type with which it is handed over. -/
theorem Chain.calls_sound {d : Dispatch} (hd : d.Framing) {w u : World} {giver : Option Value}
    {x : Value} {fs : List Value} (hu : w.Keeps u)
    (hchain : List.IsChain w.Composes (giver.toList ++ fs))
    (hx : ∀ f ∈ fs.head?, ∃ t, w.handed giver f = .ok t ∧ u.IsOf t x)
    (hgives : ∀ c ∈ calls d giver x fs u, ∀ y v, c.result d = (.ok y, v) →
      w.Declares .output c.step y v) :
    ∀ c ∈ calls d giver x fs u, w.Keeps c.state ∧ (∀ g, c.giver = some g → w.Composes g c.step) ∧
      ∃ t, w.handed c.giver c.step = .ok t ∧ c.state.IsOf t c.input := by
  induction fs generalizing giver x u with
  | nil => simp [calls]
  | cons f fs ih =>
    rw [calls] at hgives ⊢
    intro c hc
    rcases List.mem_cons.mp hc with rfl | hc
    · refine ⟨hu, ?_, hx f rfl⟩
      rintro g rfl
      exact (List.isChain_cons_cons.mp hchain).1
    · have hcall := hd.call w f [x] u hu
      have hfirst := hgives ⟨giver, f, x, u⟩ List.mem_cons_self
      simp only [Call.result] at hfirst
      generalize hout : (d.call f [x]).result u = out at *
      obtain ⟨r, v⟩ := out
      cases r with
      | error e => cases hc
      | ok y =>
        have hrest : List.IsChain w.Composes ((some f).toList ++ fs) := by
          cases giver with
          | none => exact hchain
          | some g => exact (List.isChain_cons_cons.mp hchain).2
        refine ih (hu.trans hcall) hrest ?_ (fun c hc => hgives c (List.mem_cons_of_mem _ hc)) c hc
        -- the next function composes with this one, so this one declares an output
        intro g hg
        cases fs with
        | nil => cases hg
        | cons g' fs =>
          obtain ⟨r, hr, -⟩ := (List.isChain_cons_cons.mp hrest).1
          cases hsig : w.signature .output f with
          | error e => simp [World.composable, hsig, bind, Except.bind] at hr
          | ok sig =>
            refine ⟨sig.type, by simp [World.handed, hsig], hfirst y v rfl sig hsig⟩

namespace World

variable {w u : World} {giver : Option Value} {f x : Value} {t : Ty} {s : Signature} {n : Nat}

/-- Wherever a type is handed over, the function declares an input. -/
theorem exists_input (hcomposes : ∀ g, giver = some g → w.Composes g f)
    (ht : w.handed giver f = .ok t) : ∃ s, w.signature .input f = .ok s := by
  cases hs : w.signature .input f with
  | ok s => exact ⟨s, rfl⟩
  | error e =>
    cases giver with
    | none => simp [handed, hs] at ht
    | some g =>
      obtain ⟨r, hr, -⟩ := hcomposes g rfl
      obtain ⟨_, s, -, hinput⟩ := exists_signatures hr
      exact absurd (hinput.symm.trans hs) (by simp)

/-- A type that is handed to a function has been checked against the input that it declares, or it is
that input. -/
theorem supplies_handed (hcomposes : ∀ g, giver = some g → w.Composes g f)
    (ht : w.handed giver f = .ok t) (hs : w.signature .input f = .ok s) : w.classes.Supplies t s := by
  cases giver with
  | none =>
    obtain rfl : s.type = t := by simpa [handed, hs] using ht
    obtain ⟨ts, -, hlist⟩ := exists_declaredTypes hs
    rw [hlist]
    exact Classes.supplies_ofList _ ts
  | some g =>
    cases hout : w.signature .output g with
    | error e => simp [handed, hout] at ht
    | ok out =>
      obtain rfl : out.type = t := by simpa [handed, hout] using ht
      obtain ⟨r, hr, hvalid⟩ := hcomposes g rfl
      obtain ⟨r', hr', hiff⟩ := composable_isValid hout hs
      obtain rfl : r = r' := Except.ok.inj (hr.symm.trans hr')
      exact Classes.supplies_of_accepts (hiff ▸ hvalid)

end World

end FunctionObjects
