import FunctionObjects.Call.Evaluate
import FunctionObjects.Proofs.Chain.Interchange
import FunctionObjects.Proofs.Document.RoundTrip
import FunctionObjects.Proofs.Frame.Calls
import FunctionObjects.Proofs.Frame.Reading
/-!
# Signatures of what is read back

A document carries the class of a function object and its properties, and not the parameterized form through
which the object was made.  So an object that is read back checks types as the written one does without its
form: in the same way if that one, and all functions from which it takes a side, were made by calling their
classes, and else only if the forms say nothing that the classes do not.
-/

namespace FunctionObjects

open Run World LibraryClass

variable {d : Dispatch} {w v : World} {k : LibraryClass} {c : ClassName} {t : Datum} {f g x y : Value}
  {as : List (String × Datum)}

/-- A cell as it is without the parameterized form through which it was made. -/
def Cell.bare : Cell → Cell
  | .object c _ as => .object c none as
  | .slots c _ vs => .slots c none vs
  | .fields c _ es => .fields c none es
  | c => c

@[simp] theorem Cell.handle?_bare (structural : ClassName → Bool) (c : Cell) :
    c.bare.handle? structural = c.handle? structural := by
  cases c <;> rfl

namespace World

/-- A state as it is if everything in it was made by calling classes. -/
def bare (w : World) : World := { w with heap := w.heap.map Cell.bare }

theorem heap_bare {r : Ref} {c : Cell} (h : w.heap[r]? = some c) : w.bare.heap[r]? = some c.bare := by
  simp [bare, h]

theorem SameTypes.refl (w : World) : w.SameTypes w := ⟨⟨rfl, rfl⟩, rfl, rfl⟩

theorem SameTypes.bare (h : w.SameTypes v) : w.SameTypes v.bare :=
  ⟨⟨h.hierarchy, h.declarations⟩, h.sites, h.surroundings⟩

mutual

/-- What is held does not depend on forms. -/
theorem holds_bare : ∀ {t : Datum} {x : Value}, w.Holds t x → w.bare.Holds t x
  | .atom _, _, hx => hx
  | .tuple _, _, ⟨vs, hv, hs⟩ => ⟨vs, hv, holdsAll_bare hs⟩
  | .frozenset _, _, ⟨vs, hv, hs⟩ => ⟨vs, hv, holdsAll_bare hs⟩
  | .list _, _, ⟨r, vs, hv, hr, hs⟩ => ⟨r, vs, hv, heap_bare hr, holdsAll_bare hs⟩
  | .dict _, _, ⟨r, vs, hv, hr, hs⟩ => ⟨r, vs, hv, heap_bare hr, holdsEntries_bare hs⟩
  | .set _, _, ⟨r, vs, hv, hr, hs⟩ => ⟨r, vs, hv, heap_bare hr, holdsAll_bare hs⟩
  | .bytearray _, _, ⟨r, hv, hr⟩ => ⟨r, hv, heap_bare hr⟩
  | .slots _ _, _, ⟨r, _, vs, hv, hr, hs⟩ => ⟨r, none, vs, hv, heap_bare hr, holdsAll_bare hs⟩
  | .fields _ _, _, ⟨r, _, vs, hv, hr, hs⟩ => ⟨r, none, vs, hv, heap_bare hr, holdsEntries_bare hs⟩
  | .object _ _, _, ⟨r, _, vs, hv, hr, hc, hs⟩ =>
    ⟨r, none, vs, hv, heap_bare hr, hc, holdsFields_bare hs⟩
  | .keys _, _, ⟨r, vs, hv, hr, hs⟩ => ⟨r, vs, hv, heap_bare hr, holdsAll_bare hs⟩
  | .handle .., _, ⟨hv, c, hr, hc⟩ => ⟨hv, c.bare, heap_bare hr, (c.handle?_bare _).trans hc⟩

theorem holdsAll_bare :
    ∀ {ts : List Datum} {vs : List Value}, w.HoldsAll ts vs → w.bare.HoldsAll ts vs
  | [], [], _ => trivial
  | _ :: _, _ :: _, hs => ⟨holds_bare hs.1, holdsAll_bare hs.2⟩

theorem holdsEntries_bare : ∀ {ts : List (Datum × Datum)} {vs : List (Value × Value)},
    w.HoldsEntries ts vs → w.bare.HoldsEntries ts vs
  | [], [], _ => trivial
  | (_, _) :: _, (_, _) :: _, hs => ⟨holds_bare hs.1, holds_bare hs.2.1, holdsEntries_bare hs.2.2⟩

theorem holdsFields_bare : ∀ {ts : List (String × Datum)} {vs : List (String × Value)},
    w.HoldsFields ts vs → w.bare.HoldsFields ts vs
  | [], [], _ => trivial
  | (_, _) :: _, (_, _) :: _, hs => ⟨hs.1, holds_bare hs.2.1, holdsFields_bare hs.2.2⟩

end

theorem HoldsAll.exists_of_mem {ts : List Datum} {vs : List Value} (h : w.HoldsAll ts vs) (hx : x ∈ vs) :
    ∃ t ∈ ts, w.Holds t x := by
  rw [holdsAll_iff] at h
  induction h with
  | nil => cases hx
  | cons hfirst _ ih =>
    rcases List.mem_cons.mp hx with rfl | hx
    · exact ⟨_, List.mem_cons_self, hfirst⟩
    · obtain ⟨t, ht, hholds⟩ := ih hx
      exact ⟨t, List.mem_cons_of_mem _ ht, hholds⟩

theorem HoldsEntries.keys {ts : List (Datum × Datum)} {vs : List (Value × Value)}
    (h : w.HoldsEntries ts vs) : w.HoldsAll (ts.map (·.1)) (vs.map (·.1)) := by
  rw [holdsEntries_iff] at h
  rw [holdsAll_iff, List.forall₂_map_left_iff, List.forall₂_map_right_iff]
  exact h.imp fun _ _ he => he.1

/-- Without forms, what holds kept data was made directly.  The induction is on the data, down to the
functions that an object holds. -/
theorem direct_bare (hw : w.Stocked) (hkept : Kept (fun _ => False) t) (hmade : Made w t)
    (hx : w.Holds t x) : w.bare.Direct x := by
  induction hkept generalizing x with
  | odd hfalse => exact hfalse.elim
  | @atom a _ =>
    obtain rfl : x = .atom a := hx
    exact .atom a
  | @list ts _ ih =>
    cases hmade with
    | list hmades =>
      obtain ⟨r, vs, rfl, hr, hvs⟩ := hx
      refine .list (heap_bare hr) fun y hy => ?_
      obtain ⟨u, hu, hholds⟩ := hvs.exists_of_mem hy
      exact ih u hu (hmades u hu) hholds
  | @dict ts _ _ _ _ _ =>
    obtain ⟨r, es, rfl, hr, hes⟩ := hx
    refine .dict (heap_bare hr) fun y hy => ?_
    obtain ⟨u, hu, hholds⟩ := hes.keys.exists_of_mem hy
    obtain ⟨e, -, rfl⟩ := List.mem_map.mp (List.map_map ▸ hu)
    obtain rfl : y = .str e.1 := hholds
    exact .atom (.str e.1)
  | @function k as hk _ _ _ _ ih =>
    obtain ⟨r, o, fields, rfl, hr, -, hfields⟩ := hx
    obtain ⟨⟨arg, has⟩, hmades⟩ := hmade.of_function hw hk
    refine .object (heap_bare hr) fun name hname y hy => ?_
    have hvisible : name.startsWith "__" = false := by
      rcases List.mem_pair.mp hname with rfl | rfl <;> simp
    rw [← Writing.lookup_visible hvisible] at hy
    obtain ⟨u, z, hu, hz, hholds⟩ | ⟨-, hnone⟩ := lookup_holdsFields hfields name
    · obtain rfl : y = z := Option.some.inj (hy.symm.trans hz)
      obtain ⟨p, hp, hproperty, hplain⟩ := exists_param_of_partner hk has hname hu
      exact ih p hp u hproperty hplain (hmades _ (Binding.mem_of_lookup hu)) hholds
    · rw [hnone] at hy
      cases hy

/-- Objects that hold the same kept data and were made directly check types alike. -/
theorem check_of_kept (hs : w.SameTypes v) (hw : w.Stocked) (hkept : Kept (fun _ => False) (.object c as))
    (hmade : Made w (.object c as)) (hx : w.Holds (.object c as) x) (hy : v.Holds (.object c as) y)
    (hxDirect : w.Direct x) (hyDirect : v.Direct y) (s : Side) (ts : List Ty) :
    v.check s y ts = w.check s x ts :=
  (interchangeable_of_kept hs hw hkept hmade hx hy hxDirect hyDirect).check hs s ts

end World

namespace Writing

/-- What is read back of a function object of kept data holds the same, was made directly and is equal. -/
theorem exists_restored (hw : w.Stocked) (hk : k ∈ Registry.shipped) (hbuilt : Built d w f)
    (hread : w.read f = .object k.className as) (hkept : Kept (fun _ => False) (w.read f)) :
    ∃ doc, (function f).result w = (.ok doc, w) ∧ ∀ u, w.Grows u → ∃ g v,
      (Reading.function d doc).result u = (.ok g, v) ∧ u.Grows v ∧
      (Run.same g f).result v = (.ok true, v) ∧ v.Holds (.object k.className as) f ∧
      v.Holds (.object k.className as) g ∧ v.Direct g := by
  obtain ⟨doc, hdoc, hself, hreads⟩ := exists_document_of_kept hw hk hbuilt hread hkept
  obtain ⟨t, hholds, -⟩ := hbuilt.holds
  obtain rfl : t = .object k.className as := by rw [← read_of_holds hholds, hread]
  rw [hread] at hself hreads
  refine ⟨doc, hdoc, fun u hu => ?_⟩
  obtain ⟨g, v, hres, hv, hg, hdirect⟩ := hreads u hu
  have hf := (hu.trans hv).holds hholds
  exact ⟨g, v, hres, hv, result_same_of_holds hself hg hf, hf, hg, hdirect⟩

/-- A function object of kept data is written, and from then on read back as an equal one that checks types
as the written one does without forms.  That is as the written one does if it was made directly. -/
theorem signature_restored (hw : w.Stocked) (hk : k ∈ Registry.shipped) (hbuilt : Built d w f)
    (hread : w.read f = .object k.className as) (hkept : Kept (fun _ => False) (w.read f)) :
    ∃ doc, (function f).result w = (.ok doc, w) ∧ ∀ u, w.Grows u → ∃ g v,
      (Reading.function d doc).result u = (.ok g, v) ∧ u.Grows v ∧
      (Run.same g f).result v = (.ok true, v) ∧
      (∀ s ts, v.check s g ts = v.bare.check s f ts) ∧
      (w.Direct f → ∀ s ts, v.check s g ts = v.check s f ts) := by
  obtain ⟨-, hmade, -⟩ := writes_returning hw hk (fun _ h => h.elim) hbuilt hread hkept
  obtain ⟨doc, hdoc, hrestored⟩ := exists_restored hw hk hbuilt hread hkept
  rw [hread] at hkept
  refine ⟨doc, hdoc, fun u hu => ?_⟩
  obtain ⟨g, v, hres, hv, hsame, hf, hg, hgDirect⟩ := hrestored u hu
  have hgrows := hu.trans hv
  have hstocked := hgrows.stocked hw
  have hmade := hmade.later hgrows
  have hcheck := fun {u : World} (hs : v.SameTypes u) (hfu : u.Holds (.object k.className as) f)
    (hdirect : u.Direct f) s ts => (check_of_kept hs hstocked hkept hmade hg hfu hgDirect hdirect s ts).symm
  refine ⟨g, v, hres, hv, hsame, ?_, fun hdirect => ?_⟩
  · exact hcheck (SameTypes.refl v).bare (holds_bare hf) (direct_bare hstocked hkept hmade hf)
  · exact hcheck (.refl v) hf (hdirect.later hgrows)

end Writing

/-! ## A function that is adapted through a form -/

/-- The form of adapted functions from whole numbers to whole numbers, with texts in between. -/
def countingForm : Ty := .app (.cls adaptedFunction.className)
  [.cls (.core "int"), .cls (.core "str"), .cls (.core "str"), .cls (.core "int")]

namespace Adapting

/-- What is set on an adaption of the first object that has no adapters. -/
def fields : List (String × Value) :=
  [("input_adapter", .none), ("output_adapter", .none), ("output_fold", .none), ("function", .ref 0)]

theorem visible_fields : visible fields = fields := by
  simp [visible, fields]

/-- What that holds if the first object passes values on. -/
def attributes : List (String × Datum) :=
  [("input_adapter", .none), ("output_adapter", .none), ("output_fold", .none),
    ("function", .object identity.className [])]

/-- A function that passes values on and an adaption of it, made through a form or directly. -/
def adapting (form : Option Ty) : World := { World.initial with
  heap := #[.object identity.className none [], .object adaptedFunction.className form fields] }

variable (form : Option Ty)

theorem stocked : (adapting form).Stocked := (grows_of_no_cells rfl _).stocked initial_stocked

theorem holdsFields : (adapting form).HoldsFields attributes (visible fields) := by
  have hstructural := (stocked form _ (by decide : identity ∈ Registry.shipped)).structural
  rw [visible_fields]
  exact ⟨rfl, rfl, rfl, rfl, rfl, rfl, rfl, ⟨0, none, [], rfl, rfl, hstructural, trivial⟩, trivial⟩

theorem holds : (adapting form).Holds (.object adaptedFunction.className attributes) (.ref 1) := by
  have hstructural := (stocked form _ (by decide : adaptedFunction ∈ Registry.shipped)).structural
  exact ⟨1, form, fields, rfl, rfl, hstructural, holdsFields form⟩

theorem built : Built .standard (adapting form) (.ref 1) := by
  have hidentity : identity ∈ Registry.shipped := by decide
  have hadapted : adaptedFunction ∈ Registry.shipped := by decide
  have hnothing : attributes? (adapting form).zones identity (fun _ => .none) = some [] := rfl
  have hfunction : Built .standard (adapting form) (.ref 0) :=
    .object hidentity rfl (stocked form _ hidentity).structural hnothing trivial (by simp [visible])
  have hattributes : attributes? (adapting form).zones adaptedFunction (fun n => (attributes.lookup n).getD .none) =
      some attributes := rfl
  refine .object hadapted rfl (stocked form _ hadapted).structural hattributes (holdsFields form) ?_
  rw [visible_fields]
  simpa [fields] using ⟨Built.atom .none, hfunction⟩

theorem kept : Kept (fun _ => False) (.object adaptedFunction.className attributes) := by
  have hidentity : Kept (fun _ => False) (.object identity.className []) := by
    have hparams : identity.params = [] := rfl
    exact .function (by decide) (by simp [hparams]) (by simp [hparams]) (by simp [hparams])
      (by simp [hparams])
  have hparams : adaptedFunction.params = [.optional "function", .optional "input_adapter",
      .optional "output_adapter", .optional "output_fold"] := rfl
  have hdefault : ∀ p ∈ adaptedFunction.params, p.default = some .none := by
    simp [hparams, Param.optional]
  have hproperty : ∀ p ∈ adaptedFunction.params, ∀ t,
      adaptedFunction.property? attributes p.name = some t →
        t = .object identity.className [] ∨ t = .none := by
    have hvalue : ∀ p ∈ adaptedFunction.params,
        adaptedFunction.property? attributes p.name = some (.object identity.className []) ∨
          adaptedFunction.property? attributes p.name = some .none := by
      rw [hparams]
      simp only [List.forall_mem_cons]
      exact ⟨.inl rfl, .inr rfl, .inr rfl, .inr rfl, by simp⟩
    intro p hp t ht
    rcases hvalue p hp with h | h
    · exact .inl (Option.some.inj (ht.symm.trans h))
    · exact .inr (Option.some.inj (ht.symm.trans h))
  refine .function (by decide) (fun p hp _ => hdefault p hp) ?_ ?_ ?_
  · intro p hp hlist
    rcases hproperty p hp _ hlist with h | h <;> cases h
  · intro p hp hdict
    rcases hproperty p hp _ hdict with h | h <;> cases h
  · intro p hp t ht _
    rcases hproperty p hp t ht with rfl | rfl
    · exact hidentity
    · exact .atom rfl

/-- With the form, texts are no input of the adaption; without it, they are.  It takes no side from what it
adapts. -/
theorem verdicts :
    ((adapting (some countingForm)).check .input (.ref 1) [.cls (.core "str")]).toOption.map (·.isValid) =
      some false ∧
    ((adapting none).check .input (.ref 1) [.cls (.core "str")]).toOption.map (·.isValid) = some true ∧
    ((adapting (some countingForm)).takenFrom? .input (.ref 1)).isNone = true ∧
    ((adapting (some countingForm)).takenFrom? .output (.ref 1)).isNone = true := by
  decide +kernel

/-- The adaption that was made through the form checks types as before as long as nothing is changed. -/
theorem check_later (hg : (adapting (some countingForm)).Grows v)
    (hs : (adapting (some countingForm)).SameTypes v) (s : Side) (ts : List Ty) :
    v.check s (.ref 1) ts = (adapting (some countingForm)).check s (.ref 1) ts := by
  have hholds := holds (some countingForm)
  have hlater := hg.holds hholds
  have hform : ∀ {u : World} {c : ClassName} {form : Option Ty} {as : List (String × Value)},
      u.heap[1]? = some (.object c form as) → u.originAlias? (.ref 1) = form := by
    intro u c form as hcell
    simp [originAlias?, World.cell?, hcell]
  have htaken : ∀ s, (adapting (some countingForm)).takenFrom? s (.ref 1) = none := by
    rintro (_ | _)
    · exact Option.isNone_iff_eq_none.mp verdicts.2.2.1
    · exact Option.isNone_iff_eq_none.mp verdicts.2.2.2
  have hsame := (hform (hg.heap rfl)).trans (hform (u := adapting (some countingForm)) rfl).symm
  have htypes := declaredTypes_of_same_form hs hholds hlater hsame (htaken s)
  simp only [World.check, World.signature, htypes, hs.signatureOf, hs.classes]

theorem direct : (adapting none).Direct (.ref 1) :=
  have hnone : fields.lookup "functions" = none ∧ fields.lookup "predicate" = none := by decide
  .object rfl (by simp [hnone])

end Adapting

open Adapting

/-- An adaption that was made directly is read back with its signatures. -/
theorem adaption_restored : ∃ doc,
    (Writing.function (.ref 1)).result (adapting none) = (.ok doc, adapting none) ∧ ∃ g v,
      (Reading.function .standard doc).result (adapting none) = (.ok g, v) ∧
      (Run.same g (.ref 1)).result v = (.ok true, v) ∧
      ∀ s ts, v.check s g ts = v.check s (.ref 1) ts := by
  have hread := read_of_holds (holds none)
  obtain ⟨doc, hdoc, hrestored⟩ := Writing.signature_restored (stocked none) (by decide) (built none)
    hread (hread ▸ kept)
  obtain ⟨g, v, hres, -, hsame, -, hchecks⟩ := hrestored _ (.refl _)
  exact ⟨doc, hdoc, g, v, hres, hsame, hchecks direct⟩

/-- What is read back may be equal and check types otherwise: an adaption that was made through a form is
read back as one that takes anything. -/
theorem not_signature_restored : ¬ ∀ (w u v : World) (f g : Value) (doc : Document), w.Stocked →
    Built .standard w f → (Writing.function f).result w = (.ok doc, u) →
    (Reading.function .standard doc).result u = (.ok g, v) → (Run.same g f).result v = (.ok true, v) →
    ∀ s ts, v.check s g ts = v.check s f ts := by
  intro h
  have hw := stocked (some countingForm)
  have hbuilt := built (some countingForm)
  have hadapted : adaptedFunction ∈ Registry.shipped := by decide
  have hread := read_of_holds (holds (some countingForm))
  obtain ⟨-, hmade, -⟩ :=
    Writing.writes_returning hw hadapted (fun _ h => h.elim) hbuilt hread (hread ▸ kept)
  obtain ⟨doc, hdoc, hrestored⟩ := Writing.exists_restored hw hadapted hbuilt hread (hread ▸ kept)
  obtain ⟨g, v, hres, hgrows, hsame, -, hg, hdirect⟩ := hrestored _ (.refl _)
  obtain ⟨hsites, hfound⟩ :
      v.sites = World.initial.sites ∧ v.surroundings = World.initial.surroundings := by
    have hkeeps :=
      Reading.frames_function Dispatch.framing_standard doc (adapting (some countingForm)) (.refl _)
    rw [hres] at hkeeps
    exact ⟨(congrArg World.sites hkeeps.rest :), (congrArg World.surroundings hkeeps.rest :)⟩
  -- what is read back checks as the adaption without the form does, and that one as it did before
  have hbare : (adapting none).check .input (.ref 1) [.cls (.core "str")] =
      v.check .input g [.cls (.core "str")] := by
    have hs : v.SameTypes (adapting none) :=
      ⟨⟨hgrows.hierarchy.symm, hgrows.declarations.symm⟩, hsites.symm, hfound.symm⟩
    exact check_of_kept hs (hgrows.stocked hw) kept (hmade.later hgrows) hg (holds none) hdirect direct _ _
  have hformed : v.check .input (.ref 1) [.cls (.core "str")] =
      (adapting (some countingForm)).check .input (.ref 1) [.cls (.core "str")] :=
    check_later hgrows ⟨hgrows.sameClasses, hsites, hfound⟩ _ _
  have hequal := h _ _ v _ g doc hw hbuilt hdoc hres hsame .input [.cls (.core "str")]
  obtain ⟨hrefused, hvalid, -⟩ := verdicts
  rw [hbare, hequal, hformed, hrefused] at hvalid
  cases hvalid

end FunctionObjects
