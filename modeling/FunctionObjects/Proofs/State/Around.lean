import FunctionObjects.Proofs.Construction.Stock
import FunctionObjects.Proofs.State.Holding
import FunctionObjects.Proofs.State.Keeping
/-!
# Around a cell

An operation that updates a dictionary or a tuple in place changes one cell again and again.  What
happens around it is told by what values stand for, as long as that does not depend on the cell.
-/

namespace FunctionObjects

namespace World

variable {w u v : World} {r : Ref} {t : Datum} {x : Value}

/-- A later state with everything around cell `r` unchanged: cells may be added, and cell `r` may
have other contents. -/
structure Around (r : Ref) (w w' : World) : Prop where
  cell : ∀ {l : Ref} {c : Cell}, l ≠ r → w.heap[l]? = some c → w'.heap[l]? = some c
  kept : ∀ {c : Cell}, w.heap[r]? = some c → ∃ c', w'.heap[r]? = some c' ∧ c'.kind = c.kind
  hierarchy : w'.hierarchy = w.hierarchy
  declarations : w'.declarations = w.declarations
  registry : w'.registry = w.registry
  zones : w'.zones = w.zones

/-- No cell goes away. -/
theorem Grows.size_le (h : w.Grows u) : w.heap.size ≤ u.heap.size := by
  by_contra hlt
  have hcell := h.heap (Array.getElem?_eq_getElem (Nat.lt_of_not_le hlt))
  exact absurd (lt_size_of_getElem? hcell) (Nat.lt_irrefl _)

namespace Around

theorem trans (h : Around r w u) (g : Around r u v) : Around r w v where
  cell hl hc := g.cell hl (h.cell hl hc)
  kept hc := by
    obtain ⟨c', hc', hkind⟩ := h.kept hc
    obtain ⟨c'', hc'', hkind'⟩ := g.kept hc'
    exact ⟨c'', hc'', hkind'.trans hkind⟩
  hierarchy := g.hierarchy.trans h.hierarchy
  declarations := g.declarations.trans h.declarations
  registry := g.registry.trans h.registry
  zones := g.zones.trans h.zones

theorem of_grows (h : w.Grows u) : Around r w u :=
  ⟨fun _ hc => h.heap hc, fun hc => ⟨_, h.heap hc, rfl⟩, h.hierarchy, h.declarations, h.registry,
    h.zones⟩

theorem refl (r : Ref) (w : World) : Around r w w := .of_grows (.refl w)

/-- A cell that was not there yet makes no difference to what was there. -/
theorem grows_of_fresh (h : Around r u v) (hg : w.Grows u) (hr : w.heap.size ≤ r) : w.Grows v where
  heap hc :=
    h.cell (Nat.ne_of_lt (Nat.lt_of_lt_of_le (lt_size_of_getElem? hc) hr)) (hg.heap hc)
  hierarchy := h.hierarchy.trans hg.hierarchy
  declarations := h.declarations.trans hg.declarations
  registry := h.registry.trans hg.registry
  zones := h.zones.trans hg.zones

theorem grows (h : Around r w u) (hr : w.heap.size ≤ r) : w.Grows u :=
  h.grows_of_fresh (.refl w) hr

/-- Other contents for the cell. -/
theorem set {c c' : Cell} (hc : w.heap[r]? = some c) (hkind : c'.kind = c.kind) :
    Around r w { w with heap := w.heap.setIfInBounds r c' } where
  cell hl hd := by rwa [Array.getElem?_setIfInBounds_ne (Ne.symm hl)]
  kept hd := by
    obtain rfl := Option.some.inj (hc.symm.trans hd)
    exact ⟨c', by simp [lt_size_of_getElem? hc], hkind⟩
  hierarchy := rfl
  declarations := rfl
  registry := rfl
  zones := rfl

theorem sameClasses (h : Around r w u) : w.SameClasses u := ⟨h.hierarchy, h.declarations⟩

end Around

/-- A value that holds a datum whatever cell `r` has come to hold. -/
def HoldsAround (w : World) (r : Ref) (t : Datum) (x : Value) : Prop :=
  ∀ u, Around r w u → u.Holds t x

namespace HoldsAround

theorem holds (h : w.HoldsAround r t x) : w.Holds t x := h w (.refl r w)

theorem later (h : w.HoldsAround r t x) (hu : Around r w u) : u.HoldsAround r t x :=
  fun v hv => h v (hu.trans hv)

theorem atom (r : Ref) (a : Atom) : w.HoldsAround r (.atom a) (.atom a) := fun _ _ => rfl

end HoldsAround

end World

/-- A way to say what keys hold and what values stand for that does not depend on cell `r`. -/
structure Meaning (r : Ref) (α : Type) where
  key : World → Datum → Value → Prop
  stands : World → α → Value → Prop
  /-- What stands for nothing. -/
  nothing : α
  none : ∀ w, stands w nothing .none
  holds : ∀ {w : World} {k : Datum} {x : Value}, key w k x → w.Holds k x
  key_later : ∀ {w u : World} {k : Datum} {x : Value}, World.Around r w u → key w k x → key u k x
  later : ∀ {w u : World} {a : α} {x : Value}, World.Around r w u → stands w a x → stands u a x

/-- Values stand for what they hold. -/
def Meaning.data (r : Ref) : Meaning r Datum where
  key w := w.HoldsAround r
  stands w := w.HoldsAround r
  nothing := .atom .none
  none _ := .atom r .none
  holds h := h.holds
  key_later hu h := h.later hu
  later hu h := h.later hu

/-- Values stand for themselves. -/
def Meaning.itself (r : Ref) : Meaning r Value where
  key w := w.HoldsAround r
  stands _ x y := x = y
  nothing := .none
  none _ := rfl
  holds h := h.holds
  key_later hu h := h.later hu
  later _ h := h

end FunctionObjects
