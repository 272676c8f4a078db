import FunctionObjects.Document.Writing
import FunctionObjects.Proofs.State.Initial
/-!
# Names of classes

Whatever is registered, a class is found under the name that it is written under, and every name
stands for a class with a name.  A name is never given to another class, so that a document names the
same class for good.
-/

namespace FunctionObjects

namespace Registry

variable {r r' : Registry} {c d : ClassName} {name : Option String} {n : String}

theorem classNamed_eq_ok : r.classNamed n = .ok c ↔ r.classes.lookup n = some c := by
  unfold classNamed
  cases r.classes.lookup n with
  | none => simp [throw, throwThe, MonadExceptOf.throw]
  | some d => simp [pure, Except.pure]

theorem nameOf_eq_ok : r.nameOf c = .ok n ↔ r.names.lookup c = some n := by
  unfold nameOf
  cases r.names.lookup c with
  | none => simp [throw, throwThe, MonadExceptOf.throw]
  | some m => simp [pure, Except.pure]

theorem isRegistered_iff : r.isRegistered c = true ↔ ∃ n, r.names.lookup c = some n :=
  Option.isSome_iff_exists

/-- A class is registered under a name that no other class has. -/
theorem register_eq_ok : r.register c name = .ok r' ↔
    (∀ d, r.classes.lookup (nameFor c name) = some d → d = c) ∧
      r' = ⟨assign (nameFor c name) c r.classes, assign c (nameFor c name) r.names⟩ := by
  simp only [register]
  cases r.classes.lookup (nameFor c name) with
  | none => simp [pure, Except.pure, eq_comm]
  | some d =>
    by_cases hd : d = c
    · simp [hd, Option.filter, pure, Except.pure, eq_comm]
    · simp [hd, Option.filter, throw, throwThe, MonadExceptOf.throw]

/-- The two tables fit together. -/
structure Consistent (r : Registry) : Prop where
  /-- A class is found under the name that it has. -/
  found : ∀ c n, r.names.lookup c = some n → r.classes.lookup n = some c
  /-- The class of a name has a name. -/
  named : ∀ n c, r.classes.lookup n = some c → ∃ m, r.names.lookup c = some m

/-- Every name of the first registry stands for the same class in the second one. -/
def Extends (r r' : Registry) : Prop :=
  ∀ n c, r.classes.lookup n = some c → r'.classes.lookup n = some c

theorem Extends.refl (r : Registry) : r.Extends r := fun _ _ h => h

theorem Extends.trans {r'' : Registry} (h : r.Extends r') (h' : r'.Extends r'') :
    r.Extends r'' := fun n c hn => h' n c (h n c hn)

theorem extends_register (h : r.register c name = .ok r') : r.Extends r' := by
  obtain ⟨hfree, rfl⟩ := register_eq_ok.mp h
  intro n d hn
  rw [lookup_assign]
  split
  · rename_i heq
    rw [hfree d (heq ▸ hn)]
  · exact hn

theorem consistent_empty : empty.Consistent where
  found c n h := by simp [empty] at h
  named n c h := by simp [empty] at h

/-- The tables fit together after a registration: the name is either new or stood for the class
before, so that no other class loses the name that it has. -/
theorem Consistent.register (hr : r.Consistent) (h : r.register c name = .ok r') :
    r'.Consistent := by
  have hfree := (register_eq_ok.mp h).1
  obtain rfl := (register_eq_ok.mp h).2
  constructor
  · intro d n hn
    rw [lookup_assign] at hn
    split at hn
    · rename_i hd
      obtain rfl := Option.some.inj hn
      rw [lookup_assign, if_pos rfl, hd]
    · rename_i hd
      have hold : r.classes.lookup n = some d := hr.found d n hn
      have hne : n ≠ nameFor c name := by
        rintro rfl
        exact hd (hfree d hold)
      rw [lookup_assign, if_neg hne]
      exact hold
  · intro n d hn
    by_cases hd : d = c
    · exact ⟨nameFor c name, by rw [lookup_assign, if_pos hd]⟩
    · rw [lookup_assign] at hn
      split at hn
      · exact absurd (Option.some.inj hn).symm hd
      · rw [lookup_assign, if_neg hd]
        exact hr.named n d hn

theorem consistent_initial : initial.Consistent := by
  have hfold : ∀ (ks : List LibraryClass) (r : Registry), r.Consistent →
      (ks.foldl (fun r k => (r.register k.className none).toOption.getD r) r).Consistent := by
    intro ks
    induction ks with
    | nil => exact fun r hr => hr
    | cons k ks ih =>
      intro r hr
      refine ih _ ?_
      show ((r.register k.className none).toOption.getD r).Consistent
      cases hk : r.register k.className none with
      | error f => exact hr
      | ok r' => exact hr.register hk
  exact hfold shipped empty consistent_empty

end Registry

/-- A call that registers a class. -/
inductive Registration
  /-- The class is handed to the registry, maybe with a name. -/
  | direct (c : ClassName) (name : Option String)
  /-- The class is decorated as it is. -/
  | decorated (c : ClassName)
  /-- The class is decorated by what the decorator gives for a name. -/
  | decoratedAs (name : Option String) (c : ClassName)
deriving Repr, DecidableEq

namespace Registration

def run : Registration → Run Unit
  | direct c name => Run.register c name
  | decorated c => Run.register c none
  | decoratedAs name c => Run.register c name

end Registration

namespace World

open Registry

variable {w v : World}

/-- The state after some classes were registered, or refused. -/
def registering (w : World) (calls : List Registration) : World :=
  calls.foldl (fun v call => (call.run.result v).2) w

theorem result_register_eq (c : ClassName) (name : Option String) (w : World) :
    (Run.register c name).result w = match w.registry.register c name with
      | .ok r => (.ok (), { w with registry := r })
      | .error f => (.error f, w) := by
  simp only [Run.register, Run.result_bind, Run.result_get]
  cases w.registry.register c name <;> rfl

theorem registration_cases (call : Registration) (w : World) :
    (∃ f, call.run.result w = (.error f, w)) ∨
      ∃ c name r, w.registry.register c name = .ok r ∧
        call.run.result w = (.ok (), { w with registry := r }) := by
  have hcases : ∀ c name, (∃ f, (Run.register c name).result w = (.error f, w)) ∨
      ∃ r, w.registry.register c name = .ok r ∧
        (Run.register c name).result w = (.ok (), { w with registry := r }) := by
    intro c name
    rw [result_register_eq]
    cases w.registry.register c name with
    | error f => exact .inl ⟨f, rfl⟩
    | ok r => exact .inr ⟨r, rfl, rfl⟩
  cases call with
  | direct c name => exact (hcases c name).imp_right fun h => ⟨c, name, h⟩
  | decorated c => exact (hcases c none).imp_right fun h => ⟨c, none, h⟩
  | decoratedAs name c => exact (hcases c name).imp_right fun h => ⟨c, name, h⟩

/-- A call leaves the tables fitting together and takes no name away from its class. -/
theorem consistent_step (hw : w.registry.Consistent) (call : Registration) :
    (call.run.result w).2.registry.Consistent ∧
      w.registry.Extends (call.run.result w).2.registry := by
  obtain ⟨f, hf⟩ | ⟨c, name, r, hr, hok⟩ := registration_cases call w
  · rw [hf]
    exact ⟨hw, .refl _⟩
  · rw [hok]
    exact ⟨hw.register hr, extends_register hr⟩

/-- So does any number of calls. -/
theorem consistent_registering (hw : w.registry.Consistent) (calls : List Registration) :
    (w.registering calls).registry.Consistent ∧
      w.registry.Extends (w.registering calls).registry := by
  induction calls generalizing w with
  | nil => exact ⟨hw, .refl _⟩
  | cons call calls ih =>
    obtain ⟨hstep, hext⟩ := consistent_step hw call
    obtain ⟨hrest, hext'⟩ := ih hstep
    exact ⟨hrest, hext.trans hext'⟩

end World

namespace Document

variable {α : Type}

/-- What is put under one name is not found under another. -/
theorem lookup?_put_of_ne {k name : String} (h : k ≠ name) (doc : Document)
    (es : List (Value × Document)) : lookup? (put k doc es) name = lookup? es name := by
  induction es with
  | nil =>
    have hk : (some k == some name) = false := by simpa using h
    simp [put, lookup?, textOf?, Value.str, Atom.text?, hk]
  | cons e es ih =>
    obtain ⟨l, other⟩ := e
    by_cases hl : textOf? l = some k
    · simp [put, lookup?, hl, h]
    · by_cases hname : textOf? l = some name
      · simp [put, lookup?, hname, Ne.symm h]
      · simp only [lookup?] at ih
        simpa [put, lookup?, hl, hname] using ih

end Document

namespace Writing

open Run

variable {w v : World} {cell : Ref → Run Document}

theorem lookup?_parameters {self : Value} {c : ClassName} {ps : List Param}
    {start es : List (Value × Document)} (hps : ∀ p ∈ ps, p.name ≠ classKey)
    (h : (parameters cell self c ps start).result w = (.ok es, v)) :
    Document.lookup? es classKey = Document.lookup? start classKey := by
  induction ps generalizing start w with
  | nil =>
    simp only [parameters, List.foldlM_nil, result_pure, Prod.mk.injEq, Except.ok.injEq] at h
    rw [h.1]
  | cons p ps ih =>
    have hp : p.name ≠ classKey := hps p (.head _)
    have hrest : ∀ q ∈ ps, q.name ≠ classKey := fun q hq => hps q (.tail _ hq)
    rw [parameters, List.foldlM_cons, result_bind_eq_ok] at h
    obtain ⟨written, u, hone, hes⟩ := h
    rw [ih hrest hes]
    rw [result_bind_eq_ok] at hone
    obtain ⟨x?, u', -, hput⟩ := hone
    cases x? with
    | none => simp at hput
    | some x =>
      simp only [result_bind, result_get] at hput
      split at hput
      · simp only [result_pure, Prod.mk.injEq, Except.ok.injEq] at hput
        rw [hput.1]
      · rw [result_bind_eq_ok] at hput
        obtain ⟨doc, u'', -, hdoc⟩ := hput
        simp only [result_pure, Prod.mk.injEq, Except.ok.injEq] at hdoc
        rw [← hdoc.1, Document.lookup?_put_of_ne hp]

/-- A function object is written under the name of its class. -/
theorem class_of_function {self : Value} {doc : Document}
    (hps : ∀ p ∈ w.properties (w.classOf self), p.name ≠ classKey)
    (h : (function self).result w = (.ok doc, v)) :
    ∃ es n, doc = .dict es ∧ Document.lookup? es classKey = some (.str n) ∧
      w.registry.nameOf (w.classOf self) = .ok n := by
  simp only [function, functionWith, result_bind, result_get] at h
  cases hname : w.registry.nameOf (w.classOf self) with
  | error f => simp [hname] at h
  | ok n =>
    simp only [hname, result_lift_ok] at h
    split at h
    · rename_i es u hes
      simp only [result_pure, Prod.mk.injEq, Except.ok.injEq] at h
      exact ⟨es, n, h.1.symm, lookup?_parameters hps hes, rfl⟩
    · simp at h

end Writing

namespace World

open Registry

/-- Whatever classes are registered, a registered class is found under its name and every name stands
for a registered class.  A name stands for its class for good, also in a document that was written
before, and a refused call changes nothing. -/
theorem registry_consistent {w : World} (hw : w.registry = .initial) (calls : List Registration) :
    let v := w.registering calls
    (∀ c, v.registry.isRegistered c = true →
      ∃ n, v.registry.nameOf c = .ok n ∧ v.registry.classNamed n = .ok c) ∧
    (∀ n c, v.registry.classNamed n = .ok c → v.registry.isRegistered c = true) ∧
    (∀ n c more, v.registry.classNamed n = .ok c →
      (v.registering more).registry.classNamed n = .ok c) ∧
    (∀ self doc u more, (∀ p ∈ v.properties (v.classOf self), p.name ≠ classKey) →
      (Writing.function self).result v = (.ok doc, u) →
      ∃ es n, doc = .dict es ∧ Document.lookup? es classKey = some (.str n) ∧
        (v.registering more).registry.classNamed n = .ok (v.classOf self)) ∧
    ∀ call f u, (Registration.run call).result v = (.error f, u) → u = v := by
  intro v
  have hv : v.registry.Consistent :=
    (consistent_registering (hw ▸ consistent_initial) calls).1
  have hkept : ∀ n c more, v.registry.classNamed n = .ok c →
      (v.registering more).registry.classNamed n = .ok c := by
    intro n c more hn
    rw [classNamed_eq_ok] at hn ⊢
    exact (consistent_registering hv more).2 n c hn
  refine ⟨?_, ?_, hkept, ?_, ?_⟩
  · intro c hc
    obtain ⟨n, hn⟩ := isRegistered_iff.mp hc
    exact ⟨n, nameOf_eq_ok.mpr hn, classNamed_eq_ok.mpr (hv.found c n hn)⟩
  · intro n c hn
    exact isRegistered_iff.mpr (hv.named n c (classNamed_eq_ok.mp hn))
  · intro self doc u more hps hdoc
    obtain ⟨es, n, rfl, hes, hn⟩ := Writing.class_of_function hps hdoc
    have hfound := hv.found _ n (nameOf_eq_ok.mp hn)
    exact ⟨es, n, rfl, hes, hkept n _ more (classNamed_eq_ok.mpr hfound)⟩
  · intro call f u herror
    obtain ⟨g, hg⟩ | ⟨c, name, r, -, hok⟩ := registration_cases call v
    · rw [hg, Prod.mk.injEq] at herror
      exact herror.2.symm
    · simp [hok] at herror

theorem initial_registry : initial.registry = .initial := by simp only [initial, starting]

/-- The identity under a second name, which is then refused to another class. -/
theorem renamed_identity_found : initial.registry = .initial ∧
    let calls : List Registration := [.direct LibraryClass.identity.className (some "Same"),
      .decoratedAs (some "Same") LibraryClass.cast.className]
    (∃ n, (initial.registering calls).registry.nameOf LibraryClass.identity.className = .ok n ∧
      (initial.registering calls).registry.classNamed n = .ok LibraryClass.identity.className) ∧
    (initial.registering calls).registry.classNamed "Identity" =
      .ok LibraryClass.identity.className := by
  refine ⟨initial_registry, ?_⟩
  intro calls
  have hmem : LibraryClass.identity ∈ Registry.shipped := by decide
  have hold : initial.registry.classNamed "Identity" = .ok LibraryClass.identity.className :=
    classNamed_eq_ok.mpr (initial_tables.2.1 _ hmem).2.2.2.2.2.2
  have hnew : (initial.registering calls).registry.classNamed "Identity" =
      .ok LibraryClass.identity.className :=
    (registry_consistent initial_registry []).2.2.1 _ _ calls hold
  have hregistered := (registry_consistent initial_registry calls).2.1 _ _ hnew
  exact ⟨(registry_consistent initial_registry calls).1 _ hregistered, hnew⟩

end World

end FunctionObjects
