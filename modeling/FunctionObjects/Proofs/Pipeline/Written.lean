import FunctionObjects.Proofs.Chain.Interchange
import FunctionObjects.Proofs.Document.RoundTrip
import FunctionObjects.Proofs.Frame.Calls
import FunctionObjects.Proofs.Frame.Reading
import FunctionObjects.Proofs.Pipeline.Loading
/-!
# Pipelines of written functions

A pipeline that is configured with what functions are written as is what the functions make up when they
are put into a chain directly: it is equal to that chain, or is refused with the verdict of that chain.
-/

namespace FunctionObjects

open Run World LibraryClass

variable {d : Dispatch} {w u v : World} {f g x : Value} {fs gs : List Value} {doc : Document}
  {docs : List Document} {b : Bool}

/-- Function objects of the library that were made directly out of kept data. -/
structure World.IsKeptFunction (w : World) (f : Value) : Prop where
  shipped : ∃ k ∈ Registry.shipped, ∃ as, w.read f = .object k.className as
  built : Built .standard w f
  kept : Kept (fun _ => False) (w.read f)
  direct : w.Direct f

/-- A value in a later state that stands for a function: both hold the same, which is equal to itself, and
both were made directly. -/
structure World.StandsFor (w u : World) (f g : Value) : Prop where
  holds : w.Holds (w.read f) f ∧ u.Holds (w.read f) g
  direct : w.Direct f ∧ u.Direct g
  equalsItself : (w.read f).EqualsItself

namespace World

theorem StandsFor.later (h : w.StandsFor u f g) (hg : u.Grows v) : w.StandsFor v f g where
  holds := ⟨h.holds.1, hg.holds h.holds.2⟩
  direct := ⟨h.direct.1, h.direct.2.later hg⟩
  equalsItself := h.equalsItself

theorem holdsAll_of_standsFor (h : List.Forall₂ (w.StandsFor u) fs gs) :
    w.HoldsAll (fs.map w.read) fs ∧ u.HoldsAll (fs.map w.read) gs ∧
      ∀ t ∈ fs.map w.read, t.EqualsItself := by
  induction h with
  | nil => exact ⟨trivial, trivial, by simp⟩
  | cons hf _ ih =>
    exact ⟨⟨hf.holds.1, ih.1⟩, ⟨hf.holds.2, ih.2.1⟩, List.forall_mem_cons.mpr ⟨hf.equalsItself, ih.2.2⟩⟩

namespace IsKeptFunction

/-- A function is interchangeable with what stands for it. -/
theorem interchangeable (hf : w.IsKeptFunction f) (hw : w.Stocked) (hs : w.SameTypes u)
    (h : w.StandsFor u f g) : w.Interchangeable u f g := by
  obtain ⟨k, -, as, hread⟩ := hf.shipped
  obtain ⟨t, hholds, hmade⟩ := hf.built.holds
  obtain rfl : t = .object k.className as := by rw [← read_of_holds hholds, hread]
  have hkept := hf.kept
  rw [hread] at hkept
  obtain ⟨hx, hy⟩ := h.holds
  rw [hread] at hx hy
  exact interchangeable_of_kept hs hw hkept hmade hx hy h.direct.1 h.direct.2

/-- What a function is written as is read as something that stands for it. -/
theorem exists_document (hf : w.IsKeptFunction f) (hw : w.Stocked) :
    ∃ doc, (Writing.function f).result w = (.ok doc, w) ∧
      Gives w (Reading.function .standard doc) fun u g => w.StandsFor u f g := by
  obtain ⟨k, hk, as, hread⟩ := hf.shipped
  obtain ⟨t, hholds, -⟩ := hf.built.holds
  obtain rfl : t = w.read f := (read_of_holds hholds).symm
  obtain ⟨doc, hdoc, hself, hreads⟩ := Writing.exists_document_of_kept hw hk hf.built hread hf.kept
  refine ⟨doc, hdoc, fun u hu => ?_⟩
  obtain ⟨g, v, hres, hv, hg, hdirect⟩ := hreads u hu
  exact ⟨g, v, hres, hv, ⟨hholds, hg⟩, ⟨hf.direct, hdirect⟩, hself⟩

/-- A function stands for itself, also later. -/
theorem standsFor_self (hf : w.IsKeptFunction f) (hw : w.Stocked) (hg : w.Grows v) :
    w.StandsFor v f f := by
  obtain ⟨doc, -, hread⟩ := hf.exists_document hw
  obtain ⟨g, u, -, -, h⟩ := hread w (.refl w)
  exact ⟨⟨h.holds.1, hg.holds h.holds.1⟩, ⟨h.direct.1, h.direct.1.later hg⟩, h.equalsItself⟩

end IsKeptFunction

/-- What functions are written as is read as functions that stand for them. -/
theorem exists_documents (hw : w.Stocked) (hfs : ∀ f ∈ fs, w.IsKeptFunction f) :
    ∃ docs, (fs.mapM Writing.function).result w = (.ok docs, w) ∧ docs.length = fs.length ∧
      Gives w (docs.mapM (Reading.function .standard)) fun u gs =>
        List.Forall₂ (w.StandsFor u) fs gs := by
  suffices h : ∃ docs, (fs.mapM Writing.function).result w = (.ok docs, w) ∧
      List.Forall₂ (fun doc f => Gives w (Reading.function .standard doc) fun u => w.StandsFor u f)
        docs fs by
    obtain ⟨docs, hdocs, hread⟩ := h
    exact ⟨docs, hdocs, hread.length_eq, Gives.mapM (fun hg h => h.later hg) hread⟩
  induction fs with
  | nil => exact ⟨[], rfl, .nil⟩
  | cons f fs ih =>
    obtain ⟨doc, hdoc, hread⟩ := (hfs f List.mem_cons_self).exists_document hw
    obtain ⟨docs, hdocs, hreads⟩ := ih fun g hg => hfs g (List.mem_cons_of_mem f hg)
    refine ⟨doc :: docs, ?_, .cons hread hreads⟩
    rw [List.mapM_cons, result_bind_ok _ hdoc, result_bind_ok _ hdocs]
    rfl

/-- The check says the same of functions and of what stands for them. -/
theorem validateChain_of_standsFor (hw : w.Stocked) (hfs : ∀ f ∈ fs, w.IsKeptFunction f)
    (hs : w.SameTypes u) (h : List.Forall₂ (w.StandsFor u) fs gs) :
    u.validateChain gs = w.validateChain fs := by
  refine validateChain_of_interchangeable hs ?_
  induction h with
  | nil => exact .nil
  | cons hfirst _ ih =>
    exact .cons ((hfs _ List.mem_cons_self).interchangeable hw hs hfirst)
      (ih fun f hf => hfs f (List.mem_cons_of_mem _ hf))

/-- A chain that is made directly holds what its functions hold. -/
theorem holds_withChain {ts : List Datum} (ho : w.Offers functionComposite) (h : w.HoldsAll ts fs) :
    (w.withChain fs).Holds (.object functionComposite.className [("functions", .list ts)])
      (.ref w.heap.size) := by
  obtain ⟨hobject, hlist⟩ := cells_withChain w fs
  refine ⟨_, none, _, rfl, hobject, ho.structural, ?_⟩
  have hname : "functions".startsWith "__" = false := by simp
  have hvisible : visible [("functions", Value.ref (w.heap.size + 1))] =
      [("functions", .ref (w.heap.size + 1))] := by simp [visible, hname]
  rw [hvisible]
  exact ⟨rfl, ⟨_, _, rfl, hlist, (grows_withChain w fs).holdsAll h⟩, trivial⟩

end World

/-- Calling the class of chains with a list of functions. -/
theorem Construction.result_make_chain {l : Ref} (ho : w.Offers functionComposite)
    (hl : w.heap[l]? = some (.list fs)) :
    (make d functionComposite.className (.ofList [.ref l])).result w =
      (.ok (.ref w.heap.size), w.withChain fs) := by
  have hown : isOwn w functionComposite.className = true := by simp [isOwn, ofClassName?_className]
  simp only [make, result_bind_ok _ (result_get w), not_adapterKind (k := functionComposite) (by decide),
    hown, Bool.false_eq_true, if_false, if_true]
  exact result_chain ho hl

namespace Pipeline

/-- A pipeline holds what its functions hold. -/
theorem holds_withPipeline {ts : List Datum} (ho : w.Offers functionComposite) (h : w.HoldsAll ts fs) :
    (withPipeline w fs).Holds (.object functionComposite.className [("functions", .list ts)])
      (.ref (w.heap.size + 1)) := by
  have hg : w.Grows { w with heap := w.heap.push (.list fs) } := Grows.push w _
  have hchain := holds_withChain (hg.sameClasses.offers ho ho.registered) (hg.holdsAll h)
  rwa [Array.size_push] at hchain

/-- Loading gives a chain of functions that stand for those that were written, unless the check of these
refuses them. -/
theorem load_of_documents (hw : w.Stocked) (hfs : ∀ f ∈ fs, w.IsKeptFunction f)
    (hread : Gives w (docs.mapM (Reading.function .standard)) fun u gs =>
      List.Forall₂ (w.StandsFor u) fs gs)
    (hne : docs ≠ []) (hu : w.Grows u) (hsites : u.sites = w.sites)
    (hfound : u.surroundings = w.surroundings)
    (hx : Document.ofValue u x = configuration docs b) :
    (∀ e, w.validateChain fs = .error e → ∃ v, (load .standard x).result u = (.error e, v)) ∧
    ∀ q, w.validateChain fs = .ok q →
      (q.isValid = true ∨ b = false → ∃ p v, (load .standard x).result u = (.ok p, v) ∧ u.Grows v ∧
        v.Holds (.object functionComposite.className [("functions", .list (fs.map w.read))]) p) ∧
      (q.isValid = false → b = true → ∃ v,
        (load .standard x).result u = (.error (.invalidPipeline "pipeline" q), v)) := by
  obtain ⟨gs, v, hgs, hv, hstands⟩ := hread u hu
  have hgrows : w.Grows (withPipeline v gs) := (hu.trans hv).trans (grows_withPipeline v gs)
  have hsame : w.SameTypes (withPipeline v gs) := by
    have hkeeps := Frames.mapM (w := u) (f := Reading.function .standard)
      (fun doc => Reading.frames_function Dispatch.framing_standard doc) docs u (.refl u)
    rw [hgs] at hkeeps
    exact ⟨hgrows.sameClasses, (congrArg World.sites hkeeps.rest).trans hsites,
      (congrArg World.surroundings hkeeps.rest).trans hfound⟩
  have ho : v.Offers functionComposite := (hu.trans hv).stocked hw _ (by decide)
  have hverdict : (withPipeline v gs).validateChain gs = w.validateChain fs :=
    validateChain_of_standsFor hw hfs hsame (hstands.imp fun _ _ h => h.later (grows_withPipeline v gs))
  have hholds := holds_withPipeline ho (holdsAll_of_standsFor hstands).2.1
  obtain ⟨herror, hok⟩ := result_load hx hne hgs ho
  rw [hverdict] at herror hok
  refine ⟨fun e he => ⟨_, herror e he⟩, fun q hq => ⟨fun hpass => ?_, fun hinvalid hb => ?_⟩⟩
  · obtain ⟨hvalid, -, hunchecked⟩ := hok q hq
    have hgrowsOut : u.Grows (withPipeline v gs) := hv.trans (grows_withPipeline v gs)
    cases hq' : q.isValid with
    | true => exact ⟨_, _, hvalid hq', hgrowsOut, hholds⟩
    | false =>
      have hb : b = false := hpass.resolve_left (by simp [hq'])
      obtain ⟨log, hlog⟩ := hunchecked hq' hb
      have hlogged : (withPipeline v gs).Grows { withPipeline v gs with log := log } :=
        ⟨fun h => h, rfl, rfl, rfl, rfl⟩
      exact ⟨_, _, hlog, hgrowsOut.trans hlogged, hlogged.holds hholds⟩
  · exact ⟨_, (hok q hq).2.1 hinvalid hb⟩

/-- The check of a chain that is made directly. -/
theorem result_validate_withChain (hw : w.Stocked) (hfs : ∀ f ∈ fs, w.IsKeptFunction f) :
    (Chain.validate .standard (.ref w.heap.size)).result (w.withChain fs) =
      ((w.validateChain fs).map fun q => .atom (.result q), w.withChain fs) := by
  have hgrows := grows_withChain w fs
  have hstands : List.Forall₂ (w.StandsFor (w.withChain fs)) fs fs :=
    List.forall₂_same.mpr fun f hf => (hfs f hf).standsFor_self hw hgrows
  rw [Chain.validate, result_bind_ok _ (isChainOf_withChain w fs).result_itemsOf,
    result_bind_ok _ (result_get _), validateChain_of_standsFor hw hfs ⟨hgrows.sameClasses, rfl, rfl⟩ hstands]
  cases w.validateChain fs <;> rfl

/-- Pipelines of written functions are what the functions make up directly.  A chain of them can be made, its
check has an outcome, and loading their documents in any later state, with the same surroundings, follows
that: it gives a chain equal to the direct one, or refuses with its verdict, or fails as its check does. -/
theorem load_written (hw : w.Stocked) {l : Ref} (hl : w.heap[l]? = some (.list fs)) (hne : fs ≠ [])
    (hfs : ∀ f ∈ fs, w.IsKeptFunction f) :
    ∃ docs c w', ∃ out : Except Fault ValidationResult,
      (fs.mapM Writing.function).result w = (.ok docs, w) ∧
      (Construction.make .standard functionComposite.className (.ofList [.ref l])).result w =
        (.ok c, w') ∧
      (Chain.validate .standard c).result w' = (out.map fun q => .atom (.result q), w') ∧
      ∀ u x b, w'.Grows u → u.sites = w'.sites → u.surroundings = w'.surroundings →
        Document.ofValue u x = configuration docs b →
        (∀ e, out = .error e → ∃ v, (load .standard x).result u = (.error e, v)) ∧
        ∀ q, out = .ok q →
          (q.isValid = true ∨ b = false → ∃ p v, (load .standard x).result u = (.ok p, v) ∧
            v.classOf p = functionComposite.className ∧ (Run.same p c).result v = (.ok true, v)) ∧
          (q.isValid = false → b = true → ∃ v,
            (load .standard x).result u = (.error (.invalidPipeline "pipeline" q), v)) := by
  have ho := hw functionComposite (by decide)
  obtain ⟨docs, hdocs, hlength, hread⟩ := exists_documents hw hfs
  have hdocsNe : docs ≠ [] := by
    rintro rfl
    exact hne (List.length_eq_zero_iff.mp hlength.symm)
  obtain ⟨hholds, -, hself⟩ := holdsAll_of_standsFor
    (List.forall₂_same.mpr fun f hf => (hfs f hf).standsFor_self hw (.refl w))
  refine ⟨docs, _, _, w.validateChain fs, hdocs, Construction.result_make_chain ho hl,
    result_validate_withChain hw hfs, ?_⟩
  intro u x b hu hsites hfound hx
  obtain ⟨herror, hok⟩ :=
    load_of_documents hw hfs hread hdocsNe ((grows_withChain w fs).trans hu) hsites hfound hx
  refine ⟨herror, fun q hq => ⟨fun hpass => ?_, (hok q hq).2⟩⟩
  obtain ⟨p, v, hload, hv, hp⟩ := (hok q hq).1 hpass
  have hc := (hu.trans hv).holds (holds_withChain ho hholds)
  refine ⟨p, v, hload, classOf_of_holds hp, ?_⟩
  have hequal : (Datum.object functionComposite.className [("functions", .list (fs.map w.read))]).same
      (.object functionComposite.className [("functions", .list (fs.map w.read))]) = true :=
    Datum.same_object (by simpa using Datum.equalsItself_list hself)
  rw [result_same, read_of_holds hp, read_of_holds hc, hequal]

/-- A function that passes a value on and one that negates a number, with the configuration of a pipeline of
the first one twice and of one of both, which is not to be checked. -/
def configured : World := { World.initial with
  heap := #[
    .object identity.className none [], .object negation.className none [("predicate", .int 5)],
    .list [.ref 0, .ref 0], .list [.ref 0, .ref 1],
    .dict [(.str "class", .str "Identity")],
    .dict [(.str "class", .str "Not"), (.str "predicate", .int 5)],
    .list [.ref 4, .ref 4], .list [.ref 4, .ref 5],
    .dict [(.str "functions", .ref 6), (.str "fail_on_incompatible", .bool true)],
    .dict [(.str "functions", .ref 7), (.str "fail_on_incompatible", .bool false)]] }

theorem grows_configured : World.initial.Grows configured := grows_of_no_cells rfl _

theorem stocked_configured : configured.Stocked := grows_configured.stocked initial_stocked

/-- Classes are registered under their own names. -/
theorem names_configured {k : LibraryClass} (hk : k ∈ Registry.shipped) :
    configured.registry.names.lookup k.className = some k.className.name := by
  rw [grows_configured.registry]
  exact (initial_tables.2.1 k hk).2.2.2.2.2.1

def identityDocument : Document := .ofNamed [(classKey, .str "Identity")]

def negationDocument : Document := .ofNamed [(classKey, .str "Not"), ("predicate", .leaf (.int 5))]

/-- An object that passes values on can be put into a document. -/
theorem identity_configured : configured.IsKeptFunction (.ref 0) ∧
    (Writing.function (.ref 0)).result configured = (.ok identityDocument, configured) := by
  have hk : identity ∈ Registry.shipped := by decide
  have ho := stocked_configured _ hk
  have hholds : configured.Holds (.object identity.className []) (.ref 0) :=
    ⟨0, none, [], rfl, rfl, ho.structural, trivial⟩
  have hread := read_of_holds hholds
  refine ⟨⟨⟨identity, hk, [], hread⟩, ?_, ?_, .object rfl (by simp)⟩, ?_⟩
  · have has : attributes? configured.zones identity (fun _ => .none) = some [] := rfl
    exact .object hk rfl ho.structural has trivial (by simp [visible])
  · rw [hread]
    have hparams : identity.params = [] := rfl
    exact .function hk (by simp [hparams]) (by simp [hparams]) (by simp [hparams]) (by simp [hparams])
  · exact Writing.result_function_of_no_params hk ho rfl (names_configured hk) hholds

/-- So can a negation of a number. -/
theorem negation_configured : configured.IsKeptFunction (.ref 1) ∧
    (Writing.function (.ref 1)).result configured = (.ok negationDocument, configured) := by
  have hk : negation ∈ Registry.shipped := by decide
  have ho := stocked_configured _ hk
  have hname : "predicate".startsWith "__" = false := by simp
  have hvisible : visible [("predicate", Value.int 5)] = [("predicate", .int 5)] := by
    simp [visible, hname]
  have hfields : configured.HoldsFields [("predicate", .atom (.int 5))]
      (visible [("predicate", Value.int 5)]) := by
    rw [hvisible]
    exact ⟨rfl, rfl, trivial⟩
  have hholds : configured.Holds (.object negation.className [("predicate", .atom (.int 5))]) (.ref 1) :=
    ⟨1, none, _, rfl, rfl, ho.structural, hfields⟩
  have hread := read_of_holds hholds
  refine ⟨⟨⟨negation, hk, _, hread⟩, ?_, ?_, .object rfl ?_⟩, ?_⟩
  · have has : attributes? configured.zones negation (fun _ => .atom (.int 5)) =
        some [("predicate", .atom (.int 5))] := rfl
    refine .object hk rfl ho.structural has hfields ?_
    rw [hvisible]
    intro v hv
    obtain rfl : v = .int 5 := by simpa using hv
    exact .atom (.int 5)
  · rw [hread]
    exact Writing.kept_of_param (p := .optional "predicate") (t := .atom (.int 5)) hk rfl rfl rfl
      (by simp) (.atom rfl)
  · intro name _ v hv
    obtain ⟨-, rfl⟩ := Prod.mk.inj (List.mem_singleton.mp (Binding.mem_of_lookup hv))
    exact .atom (.int 5)
  · have hkept : ∀ x, configured.Holds (.atom (.int 5)) x →
        (x.isNone || (Param.optional "predicate").default.any (Writing.isDefault configured x)) = false := by
      rintro x rfl
      rfl
    have hwritten : ∀ x, configured.Holds (.atom (.int 5)) x →
        (Writing.value (Writing.cell (configured.heap.size + 1)) x).result configured =
          (.ok (.leaf (.int 5)), configured) := by
      rintro x rfl
      rfl
    exact Writing.result_function_of_param hk ho rfl (names_configured hk) hholds rfl hkept hwritten

/-- Values can be passed on twice, but nothing is the negation of a number. -/
theorem verdicts_configured :
    (∃ q, configured.validateChain [.ref 0, .ref 0] = .ok q ∧ q.isValid = true) ∧
      configured.validateChain [.ref 0, .ref 1] = .error (.notFunctionLike "int") := by
  have hvalid : ∀ r : Except Fault ValidationResult, r.toOption.map (·.isValid) = some true →
      ∃ q, r = .ok q ∧ q.isValid = true := by
    rintro (e | q) h
    · cases h
    · exact ⟨q, rfl, Option.some.inj h⟩
  have herror : ∀ r : Except Fault ValidationResult,
      (match r with | .error (.notFunctionLike c) => c == "int" | _ => false) = true →
        r = .error (.notFunctionLike "int") := by
    intro r h
    split at h
    · rw [eq_of_beq h]
    · cases h
  have hverdicts : (configured.validateChain [.ref 0, .ref 0]).toOption.map (·.isValid) = some true ∧
      (match configured.validateChain [.ref 0, .ref 1] with
        | .error (.notFunctionLike c) => c == "int"
        | _ => false) = true := by
    decide +kernel
  exact ⟨hvalid _ hverdicts.1, herror _ hverdicts.2⟩

/-- An operation gives one thing only. -/
theorem result_unique {α : Type} {m : Run α} {a a' : α} {v' : World} (h : m.result w = (.ok a, v))
    (h' : m.result w = (.ok a', v')) : a = a' ∧ v = v' := by
  rw [h] at h'
  simpa using h'

/-- Two functions are written one after the other. -/
theorem result_write_two {doc' : Document} (hf : (Writing.function f).result w = (.ok doc, w))
    (hg : (Writing.function g).result w = (.ok doc', w)) :
    ([f, g].mapM Writing.function).result w = (.ok [doc, doc'], w) := by
  simp only [List.mapM_cons, List.mapM_nil, result_bind, hf, hg, result_pure]

/-- A pipeline of a function that passes values on, twice, is the chain of it, twice. -/
theorem load_identities : ∃ docs c w' x p v,
    ([Value.ref 0, .ref 0].mapM Writing.function).result configured = (.ok docs, configured) ∧
    (Construction.make .standard functionComposite.className (.ofList [.ref 2])).result configured =
      (.ok c, w') ∧
    Document.ofValue w' x = configuration docs true ∧ (load .standard x).result w' = (.ok p, v) ∧
    v.classOf p = functionComposite.className ∧ (Run.same p c).result v = (.ok true, v) := by
  obtain ⟨hkept, hdoc⟩ := identity_configured
  have hlist : configured.heap[2]? = some (.list [.ref 0, .ref 0]) := rfl
  have hkepts : ∀ f ∈ [Value.ref 0, .ref 0], configured.IsKeptFunction f := by simpa using hkept
  obtain ⟨q, hq, hvalid⟩ := verdicts_configured.1
  obtain ⟨docs, c, w', out, hdocs, hmake, hcheck, hload⟩ :=
    load_written stocked_configured hlist (by simp) hkepts
  obtain ⟨rfl, -⟩ := result_unique hdocs (result_write_two hdoc hdoc)
  obtain ⟨rfl, rfl⟩ := result_unique hmake
    (Construction.result_make_chain (stocked_configured functionComposite (by decide)) hlist)
  have hx : Document.ofValue (configured.withChain [.ref 0, .ref 0]) (.ref 8) =
      configuration [identityDocument, identityDocument] true := rfl
  have hout : out = .ok q := by
    have hverdict := result_validate_withChain stocked_configured hkepts
    rw [hq, hcheck] at hverdict
    have hsame : ∀ r : Except Fault ValidationResult,
        r.map (fun q => Value.atom (.result q)) = .ok (.atom (.result q)) → r = .ok q := by
      rintro (e | r) h
      · cases h
      · cases h
        rfl
    exact hsame out (congrArg Prod.fst hverdict)
  obtain ⟨p, v, hp, hclass, hsame⟩ := ((hload _ _ true (.refl _) rfl rfl hx).2 q hout).1 (.inl hvalid)
  exact ⟨_, _, _, _, p, v, hdocs, hmake, hx, hp, hclass, hsame⟩

/-- A pipeline is checked also if the configuration does not ask for that, and the check may fail. -/
theorem not_load_unchecked : ¬ ∀ (w : World) (l : Ref) (fs : List Value) (docs : List Document)
    (c : Value) (w' u : World) (x : Value), w.Stocked → w.heap[l]? = some (.list fs) → fs ≠ [] →
    (∀ f ∈ fs, w.IsKeptFunction f) → (fs.mapM Writing.function).result w = (.ok docs, w) →
    (Construction.make .standard functionComposite.className (.ofList [.ref l])).result w = (.ok c, w') →
    w'.Grows u → u.sites = w'.sites → u.surroundings = w'.surroundings →
    Document.ofValue u x = configuration docs false →
    ∃ p v, (load .standard x).result u = (.ok p, v) ∧ v.classOf p = functionComposite.className ∧
      (Run.same p c).result v = (.ok true, v) := by
  intro h
  have ho := stocked_configured functionComposite (by decide)
  have hlist : configured.heap[3]? = some (.list [.ref 0, .ref 1]) := rfl
  obtain ⟨hidentity, hidentityDoc⟩ := identity_configured
  obtain ⟨hnegation, hnegationDoc⟩ := negation_configured
  have hkept : ∀ f ∈ [Value.ref 0, .ref 1], configured.IsKeptFunction f := by
    simpa using ⟨hidentity, hnegation⟩
  have hdocs := result_write_two hidentityDoc hnegationDoc
  have hgrows := grows_withChain configured [.ref 0, .ref 1]
  have hx : Document.ofValue (configured.withChain [.ref 0, .ref 1]) (.ref 9) =
      configuration [identityDocument, negationDocument] false := rfl
  obtain ⟨p, v, hload, -⟩ := h configured 3 _ _ _ _ _ (.ref 9) stocked_configured hlist (by simp) hkept
    hdocs (Construction.result_make_chain ho hlist) (.refl _) rfl rfl hx
  obtain ⟨docs, hdocs', -, hread⟩ := exists_documents stocked_configured hkept
  obtain ⟨rfl, -⟩ := result_unique hdocs' hdocs
  obtain ⟨v', herror⟩ := (load_of_documents stocked_configured hkept hread (by simp) hgrows rfl rfl hx).1 _
    verdicts_configured.2
  rw [hload] at herror
  cases herror

end Pipeline

end FunctionObjects
