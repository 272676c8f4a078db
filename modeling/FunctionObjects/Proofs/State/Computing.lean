import FunctionObjects.Proofs.State.Holding
import FunctionObjects.Proofs.State.Running
import Mathlib.Data.List.Forall2
/-!
# Operations that compute

An operation computes what a partial function on data says: it fails where there is no outcome, and
otherwise gives a value that stands in a relation to it.  Two operations succeed alike if from their states
they give the same and end in the same state, unless both fail.  And an operation gives something from a
state on if in every state that has grown from there it succeeds, adds cells at most, and what it gives is as
stated in the state after it.
-/

namespace FunctionObjects

open Run

variable {α β γ δ : Type} {u : World}

/-- In a state, an operation fails if there is no outcome, and succeeds with what is stated of it and of
the state after it otherwise. -/
def Computes (u : World) (m : Run β) (o : Option γ) (R : γ → β → World → Prop) : Prop :=
  match o with
  | none => ∃ e v, m.result u = (.error e, v)
  | some t => ∃ b v, m.result u = (.ok b, v) ∧ R t b v

namespace Computes

variable {m : Run β} {o : Option γ} {R : γ → β → World → Prop} {S : δ → α → World → Prop}

theorem pure {t : γ} {b : β} (h : R t b u) : Computes u (Pure.pure b) (some t) R := ⟨b, u, rfl, h⟩

theorem bind {f : β → Run α} {g : γ → Option δ} (h : Computes u m o R)
    (hf : ∀ t b v, o = some t → R t b v → Computes v (f b) (g t) S) :
    Computes u (m >>= f) (o >>= g) S := by
  cases o with
  | none =>
    obtain ⟨e, v, hm⟩ := h
    exact ⟨e, v, result_bind_error f hm⟩
  | some t =>
    obtain ⟨b, v, hm, hb⟩ := h
    have hrest := hf t b v rfl hb
    change Computes u (m >>= f) (g t) S
    unfold Computes at hrest ⊢
    rw [result_bind_ok f hm]
    exact hrest

/-- A last step that cannot fail. -/
theorem map {f : β → Run α} {g : γ → δ} (h : Computes u m o R)
    (hf : ∀ t b v, R t b v → Computes v (f b) (some (g t)) S) :
    Computes u (m >>= f) (o.map g) S := by
  rw [Option.map_eq_bind]
  exact h.bind fun t b v _ hb => hf t b v hb

/-- A last step that gives something else for what was computed. -/
theorem bind_pure {f : β → α} {S : γ → α → World → Prop} (h : Computes u m o R)
    (hf : ∀ t b v, R t b v → S t (f b) v) : Computes u (do return f (← m)) o S := by
  rw [← Option.map_id' (x := o)]
  exact h.map fun t b v hb => .pure (hf t b v hb)

theorem imp {R' : γ → β → World → Prop} (h : Computes u m o R)
    (himp : ∀ t b v, R t b v → R' t b v) : Computes u m o R' := by
  cases o with
  | none => exact h
  | some t =>
    obtain ⟨b, v, hm, hb⟩ := h
    exact ⟨b, v, hm, himp t b v hb⟩

/-- What an operation computes is told by what it gives. -/
theorem of_result {u' : World} {m' : Run β} (hm : m.result u = m'.result u')
    (h : Computes u' m' o R) : Computes u m o R := by
  unfold Computes at h ⊢
  rwa [hm]

/-- Only success has an outcome. -/
theorem exists_of_ok (h : Computes u m o R) {b : β} {v : World} (hm : m.result u = (.ok b, v)) :
    ∃ t, o = some t ∧ R t b v := by
  cases o with
  | none =>
    obtain ⟨e, v', hm'⟩ := h
    cases hm.symm.trans hm'
  | some t =>
    obtain ⟨b', v', hm', hb⟩ := h
    cases hm.symm.trans hm'
    exact ⟨t, rfl, hb⟩

theorem eq_none (h : Computes u m o R) {e : Fault} {v : World} (hm : m.result u = (.error e, v)) :
    o = none := by
  cases o with
  | none => rfl
  | some t =>
    obtain ⟨b, v', hm', -⟩ := h
    cases hm.symm.trans hm'

/-- An operation for each member of a list that leaves the state as it is. -/
theorem mapM {f : β → Run δ} {g : γ → Option α} {T : α → δ → Prop} {xs : List β} {ts : List γ}
    (h : List.Forall₂ (fun t x => Computes u (f x) (g t) fun a b v => v = u ∧ T a b) ts xs) :
    Computes u (xs.mapM f) (ts.mapM g) fun as bs v =>
      v = u ∧ bs.length = xs.length ∧ List.Forall₂ T as bs := by
  induction h with
  | nil => exact .pure ⟨rfl, rfl, .nil⟩
  | cons hx _ ih =>
    rw [List.mapM_cons, List.mapM_cons]
    refine hx.bind fun a b v _ ⟨hv, hb⟩ => ?_
    rw [hv]
    refine ih.bind fun as bs v' _ ⟨hv', hlength, hbs⟩ => ?_
    rw [hv']
    exact .pure ⟨rfl, by rw [List.length_cons, List.length_cons, hlength], .cons hb hbs⟩

end Computes

/-- An operation in one state and another operation in another state either both fail, or give the same and
end in the same state. -/
def SucceedAlike (w : World) (m : Run β) (v : World) (m' : Run β) : Prop :=
  ∀ b u, m.result w = (.ok b, u) ↔ m'.result v = (.ok b, u)

namespace SucceedAlike

variable {w v w₀ v₀ : World} {m m' n n' : Run β}

theorem of_result (h : m.result w = m'.result v) : SucceedAlike w m v m' := fun _ _ => by rw [h]

theorem congr (h : n.result w₀ = m.result w) (h' : n'.result v₀ = m'.result v)
    (halike : SucceedAlike w m v m') : SucceedAlike w₀ n v₀ n' := by
  intro b u
  rw [h, h']
  exact halike b u

theorem bind (h : SucceedAlike w m v m') (f : β → Run α) :
    SucceedAlike w (m >>= f) v (m' >>= f) := by
  intro a u
  simp only [result_bind_eq_ok, h _ _]

/-- One member of a list is exchanged, and those before it are so that they give what they gave. -/
theorem mapM {f : γ → Run β} {as as' cs : List γ} {a a' : γ} {bs : List β}
    (has : (as.mapM f).result w = (.ok bs, w₀)) (has' : (as'.mapM f).result v = (.ok bs, v))
    (h : SucceedAlike w₀ (f a) v (f a')) :
    SucceedAlike w ((as ++ a :: cs).mapM f) v ((as' ++ a' :: cs).mapM f) := by
  rw [List.mapM_append, List.mapM_append, List.mapM_cons, List.mapM_cons]
  exact .congr (result_bind_ok _ has) (result_bind_ok _ has') ((h.bind _).bind _)

end SucceedAlike

section

open World

variable {w : World}

/-- From a state on, an operation succeeds with what is stated. -/
def Gives (w : World) (m : Run α) (R : World → α → Prop) : Prop :=
  ∀ u, w.Grows u → ∃ a v, m.result u = (.ok a, v) ∧ u.Grows v ∧ R v a

namespace Gives

variable {m : Run α} {R : World → α → Prop} {S : World → β → Prop}

theorem pure {a : α} (h : ∀ u, w.Grows u → R u a) : Gives w (Pure.pure a) R :=
  fun u hg => ⟨a, u, rfl, .refl u, h u hg⟩

theorem of_result {a : α} (hm : ∀ u, w.Grows u → m.result u = (.ok a, u))
    (h : ∀ u, w.Grows u → R u a) : Gives w m R := fun u hg => ⟨a, u, hm u hg, .refl u, h u hg⟩

theorem bind {f : α → Run β} (h : Gives w m R)
    (hf : ∀ u a, w.Grows u → R u a → Gives u (f a) S) : Gives w (m >>= f) S := by
  intro u hg
  obtain ⟨a, v, hres, hv, ha⟩ := h u hg
  obtain ⟨b, v', hres', hv', hb⟩ := hf v a (hg.trans hv) ha v (.refl v)
  exact ⟨b, v', by rw [result_bind_ok f hres, hres'], hv.trans hv', hb⟩

theorem get_bind {f : World → Run β} (h : ∀ u, w.Grows u → Gives u (f u) S) :
    Gives w (do f (← get)) S := by
  intro u hg
  obtain ⟨b, v, hres, hv, hb⟩ := h u hg u (.refl u)
  exact ⟨b, v, by rw [result_bind_ok f (result_get u), hres], hv, hb⟩

theorem alloc {c : Cell} {S : World → Value → Prop}
    (h : ∀ u r, w.Grows u → u.heap[r]? = some c → S u (.ref r)) : Gives w (Run.alloc c) S := by
  intro u hg
  exact ⟨_, _, result_alloc c u, Grows.push u c, h _ _ (hg.trans (Grows.push u c)) (by simp)⟩

/-- An operation for each member of a list. -/
theorem mapM {γ : Type} {f : α → Run β} {T : World → γ → β → Prop} {xs : List α} {ts : List γ}
    (hlater : ∀ {u v t b}, u.Grows v → T u t b → T v t b)
    (h : List.Forall₂ (fun x t => Gives w (f x) fun u => T u t) xs ts) :
    Gives w (xs.mapM f) fun u bs => List.Forall₂ (T u) ts bs := by
  induction h with
  | nil => exact .pure fun _ _ => .nil
  | cons hx _ ih =>
    rw [List.mapM_cons]
    refine hx.bind fun u b hu hb => ?_
    refine bind (fun u' hg => ih u' (hu.trans hg)) fun v bs hv hbs => ?_
    exact .pure fun v' hv' => .cons (hlater (hv.trans hv') hb) (hbs.imp fun _ _ hT => hlater hv' hT)

end Gives

end

end FunctionObjects
