import FunctionObjects.Pipeline.Basic
import FunctionObjects.Proofs.Signature.Wrapping
/-!
# Building pipelines

What a pipeline becomes once the functions of its steps are there: a chain of them, checked before it is
handed out.  Only an invalid chain is refused, and only if the configuration asks for that.
-/

namespace FunctionObjects

open Run World LibraryClass

variable {w u : World} {d : Dispatch} {l : Ref} {fs : List Value}

namespace Dispatch

theorem result_items_list (hl : w.heap[l]? = some (.list fs)) :
    (d.items (.ref l)).result w = (.ok fs, w) := by
  have htuple : w.isTupleObject (.ref l) = false := by simp [isTupleObject, World.cell?, hl]
  have hcursor : w.plainCursor? (.ref l) = some (.held fs) := by
    simp [World.plainCursor?, World.cell?, hl]
  simp [items, cursor, result_bind, htuple, hcursor, Cursor.drain]

/-- A list is copied, also if it is empty. -/
theorem result_listOf_list (hl : w.heap[l]? = some (.list fs)) :
    (d.listOf (.ref l)).result w =
      (.ok (.ref w.heap.size), { w with heap := w.heap.push (.list fs) }) := by
  have htuple : w.isTupleObject (.ref l) = false := by simp [isTupleObject, World.cell?, hl]
  have hlength : w.plainLength? (.ref l) = some fs.length := by
    simp [World.plainLength?, World.plainCursor?, World.cell?, hl]
  have htruth : (d.truth (.ref l)).result w = (.ok (fs.length != 0), w) := by
    simp [truth, result_bind, htuple, hlength]
  rw [listOf, result_bind_ok _ htruth]
  cases fs with
  | nil => rfl
  | cons f fs =>
    have hnonempty : ((f :: fs).length != 0) = true := rfl
    rw [if_pos hnonempty, result_bind_ok _ (result_items_list hl), result_newList]

end Dispatch

namespace World.IsChainOf

variable {v : Value}

/-- The functions of a chain are read without changing anything. -/
theorem result_itemsOf (h : w.IsChainOf v fs) : (d.itemsOf v "functions").result w = (.ok fs, w) := by
  obtain ⟨r, o, fields, x, rfl, hcell, hx, hfs⟩ := h
  rw [Dispatch.itemsOf, result_bind_ok _ (result_field hcell hx)]
  cases x with
  | tuple vs =>
    obtain rfl := Option.some.inj hfs
    rfl
  | ref l =>
    refine Dispatch.result_items_list ?_
    cases hl : w.heap[l]? with
    | none => simp [sequence?, World.cell?, hl] at hfs
    | some c => cases c <;> simp_all [sequence?, World.cell?]
  | _ => simp [sequence?] at hfs

end World.IsChainOf

namespace World

/-- The state after a chain of some functions has been made directly: an object with a list of them. -/
def withChain (w : World) (fs : List Value) : World :=
  { w with heap := w.heap ++ #[
      .object functionComposite.className none [("functions", .ref (w.heap.size + 1))], .list fs] }

theorem grows_withChain (w : World) (fs : List Value) : w.Grows (w.withChain fs) := by
  refine ⟨fun {r c} hc => ?_, rfl, rfl, rfl, rfl⟩
  rw [withChain, Array.getElem?_append_left (lt_size_of_getElem? hc)]
  exact hc

/-- The object and its list. -/
theorem cells_withChain (w : World) (fs : List Value) :
    (w.withChain fs).heap[w.heap.size]? =
        some (.object functionComposite.className none [("functions", .ref (w.heap.size + 1))]) ∧
      (w.withChain fs).heap[w.heap.size + 1]? = some (.list fs) := by
  constructor
  · rw [withChain, Array.getElem?_append_right (Nat.le_refl _), Nat.sub_self]
    rfl
  · rw [withChain, Array.getElem?_append_right (Nat.le_add_right _ 1), Nat.add_sub_cancel_left]
    rfl

theorem isChainOf_withChain (w : World) (fs : List Value) :
    (w.withChain fs).IsChainOf (.ref w.heap.size) fs := by
  obtain ⟨hobject, hlist⟩ := cells_withChain w fs
  exact ⟨_, none, _, .ref (w.heap.size + 1), rfl, hobject, rfl, by simp [sequence?, World.cell?, hlist]⟩

end World

namespace Construction

/-- Making a chain of the functions in a list. -/
theorem result_chain (ho : w.Offers functionComposite) (hl : w.heap[l]? = some (.list fs)) :
    (object d functionComposite.className (.ofList [.ref l])).result w =
      (.ok (.ref w.heap.size), w.withChain fs) := by
  let started : World := { w with heap := w.heap.push (.object functionComposite.className none []) }
  let listed : World := { started with heap := started.heap.push (.list fs) }
  let b : Binding := ⟨[(.optional "functions", .ref l)], [], []⟩
  have hlist : (d.listOf (.ref l)).result started = (.ok (.ref (w.heap.size + 1)), listed) := by
    rw [Dispatch.result_listOf_list ((Grows.push w _).heap hl)]
    simp [started, listed]
  have hobject : listed.heap[w.heap.size]? =
      some (.object functionComposite.className none []) :=
    (Grows.push started _).heap (by simp [started])
  have hheap : ∀ c : Cell, listed.heap.setIfInBounds w.heap.size c = w.heap ++ #[c, .list fs] := by
    intro c
    have hpush : listed.heap =
        w.heap ++ #[.object functionComposite.className none [], .list fs] := rfl
    rw [hpush, Array.setIfInBounds_append_right (Nat.le_refl _), Nat.sub_self]
    rfl
  have hset : (setField (.ref w.heap.size) "functions" (.ref (w.heap.size + 1))).result listed =
      (.ok (), w.withChain fs) := by
    rw [result_setField hobject, hheap]
    rfl
  have hconstructor : w.findConstructor? functionComposite.className =
      some (.library functionComposite [.optional "functions"]) := ho.constructor
  have hbinding : Binding.of [.optional "functions"] (.ofList [.ref l]) = .ok b := rfl
  have hvalue : b.value "functions" = .ref l := rfl
  have hfirst : { w with heap := w.heap.push (.object functionComposite.className none []) } =
      started := rfl
  simp only [object, result_bind, result_get, ho.concrete, hconstructor, Bool.false_eq_true, if_false,
    Constructor.params, hbinding, result_lift_ok, result_alloc, setUp, hvalue, hfirst, hlist, hset,
    result_pure]

end Construction

namespace Pipeline

variable {c : PipelineConfig}

/-- A step that gives properties of its class only makes an object of the class from them. -/
theorem result_step {s : Spec Document} {k : ClassName}
    (hk : w.registry.classNamed s.className = .ok k)
    (hknown : (s.properties.map (·.1)).filter
      (!((w.properties k).map (·.name)).contains ·) = []) :
    (step d s).result w = (show Run Value from do
      let named ← s.properties.mapM fun (n, doc) => do return (n, ← Reading.value d doc)
      Construction.make d k ⟨[], named⟩).result w := by
  have hstrangers : Reading.unknown w k (s.map (Reading.value d)) = [] := by
    have hnames : (s.map (Reading.value d)).properties.map (·.1) = s.properties.map (·.1) := by
      simp [Spec.map]
    rw [Reading.unknown, hnames, hknown]
    exact List.mergeSort_nil
  have hname : (s.map (Reading.value d)).className = s.className := rfl
  rw [step, Reading.ofSpec, result_bind_ok _ (result_get w), hname, hk,
    result_bind_ok _ (result_lift_ok k w), hstrangers]
  simp only [List.isEmpty_nil, Bool.not_true, Bool.false_eq_true, if_false, Spec.map, List.mapM_map]
  rfl

/-- The state after the chain of a pipeline has been made: the functions of the steps are listed first. -/
def withPipeline (w : World) (fs : List Value) : World :=
  { w with heap := w.heap.push (.list fs) }.withChain fs

theorem grows_withPipeline (w : World) (fs : List Value) : w.Grows (withPipeline w fs) :=
  (Grows.push w _).trans (grows_withChain _ fs)

/-- The chain of a pipeline. -/
theorem isChainOf_withPipeline (w : World) (fs : List Value) :
    (withPipeline w fs).IsChainOf (.ref (w.heap.size + 1)) fs := by
  have hchain := isChainOf_withChain { w with heap := w.heap.push (.list fs) } fs
  rwa [Array.size_push] at hchain

/-- What building gives once the functions of the steps are there: the chain of them is made and checked.
A check that fails ends the building; a chain that does not pass is refused, or handed out with a report,
as the configuration says. -/
theorem result_build (hsteps : (c.steps.mapM (step d)).result u = (.ok fs, w))
    (ho : w.Offers functionComposite) :
    (∀ e, (withPipeline w fs).validateChain fs = .error e →
      (build d c).result u = (.error e, withPipeline w fs)) ∧
    ∀ q, (withPipeline w fs).validateChain fs = .ok q →
      (q.isValid = true → (build d c).result u = (.ok (.ref (w.heap.size + 1)), withPipeline w fs)) ∧
      (q.isValid = false → c.failOnIncompatible = true →
        (build d c).result u = (.error (.invalidPipeline c.name q), withPipeline w fs)) ∧
      (q.isValid = false → c.failOnIncompatible = false → ∃ log,
        (build d c).result u =
          (.ok (.ref (w.heap.size + 1)), { withPipeline w fs with log := log })) := by
  let listed : World := { w with heap := w.heap.push (.list fs) }
  have hoListed : listed.Offers functionComposite :=
    (Grows.push w _).sameClasses.offers ho ho.registered
  have hlist : listed.heap[w.heap.size]? = some (.list fs) := Array.getElem?_push_size
  have hsize : listed.heap.size = w.heap.size + 1 := Array.size_push _
  have hchain : (Construction.object d functionComposite.className (.ofList [.ref w.heap.size])).result
      listed = (.ok (.ref (w.heap.size + 1)), withPipeline w fs) := by
    rw [Construction.result_chain hoListed hlist, hsize]
    rfl
  have hfunctions := (isChainOf_withPipeline w fs).result_itemsOf (d := d)
  have hbuild : (build d c).result u = (show Run Value from do
      let q ← lift ((withPipeline w fs).validateChain fs)
      if !q.isValid then
        if c.failOnIncompatible then throw (.invalidPipeline c.name q)
        Run.log [⟨.warning, logger, "Pipeline '" ++ c.name ++ "' has incompatible steps"⟩]
        Run.log (q.records .warning)
      return .ref (w.heap.size + 1)).result (withPipeline w fs) := by
    rw [build, result_bind_ok _ hsteps, result_bind_ok _ (result_newList fs w),
      result_bind_ok _ hchain, result_bind_ok _ (result_get _), result_bind_ok _ hfunctions]
  generalize withPipeline w fs = v at hbuild ⊢
  refine ⟨fun e he => ?_, fun q hq => ⟨?_, ?_, ?_⟩⟩
  · rw [hbuild, he]
    rfl
  · intro hvalid
    rw [hbuild, hq, result_bind_ok _ (result_lift_ok q v), hvalid]
    rfl
  · intro hinvalid hfail
    rw [hbuild, hq, result_bind_ok _ (result_lift_ok q v), hinvalid, hfail]
    rfl
  · intro hinvalid hfail
    rw [hbuild, hq, result_bind_ok _ (result_lift_ok q v), hinvalid, hfail]
    exact ⟨_, rfl⟩

end Pipeline

end FunctionObjects
