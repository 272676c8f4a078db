import FunctionObjects.Proofs.Chain.Soundness
import FunctionObjects.Proofs.Pipeline.Building
import FunctionObjects.Proofs.Signature.Wildcard
/-!
# Grouping the functions of a chain

Consecutive functions of a chain can be put into a chain of their own, which stands in their place, and
so on inside.  A check compares neighbours of one chain only, and a chain inside has the input of its
first function and the output of its last one.  So the functions pass the check without groups exactly
if they pass it with groups and every group passes its own check.
-/

namespace FunctionObjects

open Run Chain

/-- A function of a chain, or a group of them: a chain that stands in their place. -/
inductive Step where
  | one (f : Value)
  | chain (v : Value) (steps : List Step)

namespace Step

/-- The function that stands in the chain. -/
def value : Step → Value
  | one f => f
  | chain v _ => v

mutual

/-- The functions that run one after the other. -/
def flat : Step → List Value
  | one f => [f]
  | chain _ ss => flatAll ss

def flatAll : List Step → List Value
  | [] => []
  | s :: ss => flat s ++ flatAll ss

end

mutual

/-- Whether something holds of every group, however deep inside. -/
def Every (P : Value → List Step → Prop) : Step → Prop
  | one _ => True
  | chain v ss => P v ss ∧ EveryAll P ss

def EveryAll (P : Value → List Step → Prop) : List Step → Prop
  | [] => True
  | s :: ss => Every P s ∧ EveryAll P ss

end

variable {P : Value → List Step → Prop} {ss : List Step}

theorem flatAll_eq (ss : List Step) : flatAll ss = (ss.map flat).flatten := by
  induction ss with
  | nil => rfl
  | cons s ss ih => rw [flatAll, List.map_cons, List.flatten_cons, ih]

theorem everyAll_iff : EveryAll P ss ↔ ∀ s ∈ ss, Every P s := by
  induction ss with
  | nil => simp [EveryAll]
  | cons s ss ih => simp [EveryAll, ih]

/-- Induction over groups: what holds of all members of a group holds of the group. -/
@[elab_as_elim]
theorem induct {motive : Step → Prop} (one : ∀ f, motive (.one f))
    (chain : ∀ v ss, (∀ s ∈ ss, motive s) → motive (.chain v ss)) : ∀ s, motive s
  | .one f => one f
  | .chain v ss => chain v ss fun s _ => induct one chain s

end Step

namespace World

variable {w : World} {ss : List Step} {s : Step} {u v f : Value} {side : Side}

/-- A group with at least one function in it, and the chain that stands for it. -/
def IsGroup (w : World) (v : Value) (ss : List Step) : Prop :=
  ss ≠ [] ∧ w.IsChainOf v (ss.map Step.value)

/-- Whether the first function of a group says what values it takes, and the last one what values it
gives. -/
def EndsDescribed (w : World) (ss : List Step) : Prop :=
  (∀ f ∈ (Step.flatAll ss).head?, w.Describes .input f) ∧
    ∀ f ∈ (Step.flatAll ss).getLast?, w.Describes .output f

/-- Whether a group passes its own check. -/
def Passes (w : World) (v : Value) (ss : List Step) : Prop :=
  Validated .standard w v (ss.map Step.value)

theorem flat_ne_nil (hs : s.Every w.IsGroup) : s.flat ≠ [] := by
  induction s using Step.induct with
  | one f => simp [Step.flat]
  | chain v ss ih =>
    obtain ⟨⟨hne, -⟩, hss⟩ := hs
    rw [Step.everyAll_iff] at hss
    obtain ⟨s, ss, rfl⟩ := List.exists_cons_of_ne_nil hne
    have hfirst := ih s (by simp) (hss s (by simp))
    simp [Step.flat, Step.flatAll, hfirst]

/-- A step has its input from the function that runs first in it. -/
theorem takes_head (hw : w.Regular) (hs : s.Every w.IsGroup) (hf : f ∈ s.flat.head?) :
    Relation.ReflTransGen (w.Takes .input) f s.value := by
  induction s using Step.induct with
  | one g =>
    obtain rfl : g = f := by simpa [Step.flat] using hf
    exact .refl
  | chain v ss ih =>
    obtain ⟨⟨hne, hchain⟩, hss⟩ := hs
    rw [Step.everyAll_iff] at hss
    obtain ⟨s, ss, rfl⟩ := List.exists_cons_of_ne_nil hne
    have hfirst := hss s (by simp)
    have hhead : f ∈ s.flat.head? := by
      rwa [Step.flat, Step.flatAll, List.head?_append_of_ne_nil _ (flat_ne_nil hfirst)] at hf
    exact (ih s (by simp) hfirst hhead).tail (hchain.takenFrom?_input hw)

/-- A step has its output from the function that runs last in it. -/
theorem takes_last (hw : w.Regular) (hs : s.Every w.IsGroup) (hf : f ∈ s.flat.getLast?) :
    Relation.ReflTransGen (w.Takes .output) f s.value := by
  induction s using Step.induct with
  | one g =>
    obtain rfl : g = f := by simpa [Step.flat] using hf
    exact .refl
  | chain v ss ih =>
    obtain ⟨⟨hne, hchain⟩, hss⟩ := hs
    rw [Step.everyAll_iff] at hss
    obtain ⟨front, s, rfl⟩ := (List.eq_nil_or_concat' ss).resolve_left hne
    have hlast := hss s (by simp)
    have hend : f ∈ s.flat.getLast? := by
      rw [Step.flat, Step.flatAll_eq, List.map_append, List.flatten_append] at hf
      simpa [List.getLast?_append_of_ne_nil _ (flat_ne_nil hlast)] using hf
    rw [List.map_append] at hchain
    exact (ih s (by simp) hlast hend).tail (hchain.takenFrom?_output hw)

/-- Whether two functions compose, in terms of what is checked. -/
theorem composes_iff {g : Value} : w.Composes f g ↔
    ∃ ts r, Signature.declared <$> w.signature .output f = .ok ts ∧ w.check .input g ts = .ok r ∧
      r.isValid = true := by
  have hmeet : ∀ {out inp}, w.signature .output f = .ok out → w.signature .input g = .ok inp →
      (w.Composes f g ↔ inp.accepts w.classes .input out.declared = true) := by
    intro out inp hf hg
    obtain ⟨r, hr, hvalid⟩ := composable_isValid hf hg
    simp [Composes, hr, hvalid]
  constructor
  · rintro ⟨r, hr, hvalid⟩
    obtain ⟨out, inp, hf, hg⟩ := exists_signatures hr
    refine ⟨out.declared, inp.assignable w.classes .input out.declared, by rw [hf]; rfl,
      by rw [check, hg]; rfl, ?_⟩
    rw [Signature.assignable_isValid]
    exact (hmeet hf hg).mp ⟨r, hr, hvalid⟩
  · rintro ⟨ts, r, hout, hcheck, hvalid⟩
    cases hf : w.signature .output f with
    | error e => simp [hf, Functor.map, Except.map] at hout
    | ok out =>
      cases hg : w.signature .input g with
      | error e => simp [check, hg, bind, Except.bind] at hcheck
      | ok inp =>
        obtain rfl : out.declared = ts := by simpa [hf, Functor.map, Except.map] using hout
        obtain rfl : inp.assignable w.classes .input out.declared = r := by
          rw [check, hg] at hcheck
          exact Except.ok.inj hcheck
        rw [Signature.assignable_isValid] at hvalid
        exact (hmeet hf hg).mpr hvalid

theorem declared_eq_of_ends (h : Relation.ReflTransGen (w.Takes side) f v)
    (hf : v ≠ f → w.Describes side f) :
    Signature.declared <$> w.signature side v = Signature.declared <$> w.signature side f := by
  rcases Relation.reflTransGen_iff_eq_or_transGen.mp h with rfl | htrans
  · rfl
  · by_cases heq : v = f
    · rw [heq]
    · exact declared_of_takes htrans (hf heq)

theorem sameVerdict_of_ends (hw : w.Regular) (h : Relation.ReflTransGen (w.Takes side) f v)
    (hf : v ≠ f → w.Describes side f) (cs : List Ty) :
    SameVerdict (w.check side f cs) (w.check side v cs) := by
  have hself : SameVerdict (w.check side f cs) (w.check side f cs) := .refl _
  rcases Relation.reflTransGen_iff_eq_or_transGen.mp h with rfl | htrans
  · exact hself
  · by_cases heq : v = f
    · rw [heq]
      exact hself
    · exact (check_of_takes hw htrans (hf heq) w.surroundings.joined cs).imp fun _ _ h => h.isValid

/-- Two steps compose exactly if the last function of the first one and the first function of the second
one do. -/
theorem composes_value_iff {t : Step} (hw : w.Regular) (hs : s.Every w.IsGroup)
    (ht : t.Every w.IsGroup) (hsEnds : s.Every fun _ => w.EndsDescribed)
    (htEnds : t.Every fun _ => w.EndsDescribed) :
    w.Composes s.value t.value ↔
      ∀ f ∈ s.flat.getLast?, ∀ g ∈ t.flat.head?, w.Composes f g := by
  obtain ⟨f, hf⟩ : ∃ f, s.flat.getLast? = some f := ⟨_, List.getLast?_eq_some_getLast (flat_ne_nil hs)⟩
  obtain ⟨g, hg⟩ : ∃ g, t.flat.head? = some g := ⟨_, List.head?_eq_some_head (flat_ne_nil ht)⟩
  have hout : Signature.declared <$> w.signature .output s.value =
      Signature.declared <$> w.signature .output f := by
    refine declared_eq_of_ends (takes_last hw hs hf) fun hne => ?_
    cases s with
    | one f' => simp_all [Step.flat, Step.value]
    | chain v ss => exact hsEnds.1.2 f hf
  have hinp : ∀ cs, (∃ r, w.check .input t.value cs = .ok r ∧ r.isValid = true) ↔
      ∃ r, w.check .input g cs = .ok r ∧ r.isValid = true := by
    intro cs
    have hsame : SameVerdict (w.check .input g cs) (w.check .input t.value cs) := by
      refine sameVerdict_of_ends hw (takes_head hw ht hg) (fun hne => ?_) cs
      cases t with
      | one g' => simp_all [Step.flat, Step.value]
      | chain v ss => exact htEnds.1.1 g hg
    exact hsame.exists_valid_iff
  have hsides : w.Composes s.value t.value ↔ w.Composes f g := by
    rw [composes_iff, composes_iff, hout]
    refine exists_congr fun cs => ?_
    rw [exists_and_left, exists_and_left, hinp cs]
  simp [hf, hg, hsides]

/-- Neighbours without groups are neighbours in one of the groups, or the ends of neighbouring steps. -/
theorem isChain_flatAll_iff (hw : w.Regular) (hss : ∀ s ∈ ss, s.Every w.IsGroup)
    (hends : ∀ s ∈ ss, s.Every fun _ => w.EndsDescribed) :
    List.IsChain w.Composes (Step.flatAll ss) ↔
      (∀ s ∈ ss, List.IsChain w.Composes s.flat) ∧
        List.IsChain w.Composes (ss.map Step.value) := by
  have hnonempty : ¬ [] ∈ ss.map Step.flat := by
    intro hmem
    obtain ⟨s, hs, hnil⟩ := List.mem_map.mp hmem
    exact flat_ne_nil (hss s hs) hnil
  have hsteps : List.IsChain w.Composes (ss.map Step.value) ↔
      List.IsChain (fun fs gs => ∀ f ∈ fs.getLast?, ∀ g ∈ gs.head?, w.Composes f g)
        (ss.map Step.flat) := by
    rw [List.isChain_map, List.isChain_map]
    refine List.IsChain.iff_of_mem_imp fun s t hs ht => ?_
    exact composes_value_iff hw (hss s hs) (hss t ht) (hends s hs) (hends t ht)
  rw [Step.flatAll_eq, List.isChain_flatten hnonempty, hsteps, List.forall_mem_map]

/-- A chain passes its check exactly if every two neighbours compose. -/
theorem IsChainOf.validated_iff {fs : List Value} (h : w.IsChainOf v fs) :
    Validated .standard w v fs ↔ List.IsChain w.Composes fs := by
  refine ⟨Validated.composes, fun hcomposes => ?_⟩
  obtain ⟨r, hr⟩ := validateChain_ok (hcomposes.imp fun f g ⟨q, hq, _⟩ => ⟨q, hq⟩)
  have hvalid := (validateChain_isValid hr).mpr hcomposes
  refine .of_isValid h.result_itemsOf ?_
  simp [hr, Except.toOption, hvalid]

/-- The functions of a step are neighbours that compose exactly if all groups in it pass their
checks. -/
theorem isChain_flat_iff (hw : w.Regular) (hs : s.Every w.IsGroup)
    (hends : s.Every fun _ => w.EndsDescribed) :
    List.IsChain w.Composes s.flat ↔ s.Every w.Passes := by
  induction s using Step.induct with
  | one f => simp [Step.flat, Step.Every]
  | chain v ss ih =>
    obtain ⟨⟨-, hchain⟩, hss⟩ := hs
    obtain ⟨-, hendsAll⟩ := hends
    rw [Step.everyAll_iff] at hss hendsAll
    have hmembers : (∀ s ∈ ss, List.IsChain w.Composes s.flat) ↔ ∀ s ∈ ss, s.Every w.Passes :=
      forall₂_congr fun s hmem => ih s hmem (hss s hmem) (hendsAll s hmem)
    rw [Step.flat, isChain_flatAll_iff hw hss hendsAll, hmembers, Step.Every, Passes,
      hchain.validated_iff, Step.everyAll_iff, and_comm]

/-- The functions of a chain pass the check without groups exactly if they pass it with groups and every
group inside passes its own. -/
theorem isChain_flatAll_iff_passes (hw : w.Regular) (hss : Step.EveryAll w.IsGroup ss)
    (hends : Step.EveryAll (fun _ => w.EndsDescribed) ss) :
    List.IsChain w.Composes (Step.flatAll ss) ↔
      List.IsChain w.Composes (ss.map Step.value) ∧ Step.EveryAll w.Passes ss := by
  rw [Step.everyAll_iff] at hss hends ⊢
  rw [isChain_flatAll_iff hw hss hends, and_comm]
  refine and_congr_right fun _ => forall₂_congr fun s hs => ?_
  exact isChain_flat_iff hw (hss s hs) (hends s hs)

end World

namespace Chain

variable {w : World} {ss : List Step} {u v : Value}

/-- Functions pass the check of a chain exactly if they pass it in groups and every group passes its own
check, however deep inside.  So a pipeline that refuses what does not fit only has neighbours that
compose as soon as all groups among its steps pass their checks. -/
theorem validated_ungrouped_iff (hw : w.Regular) (hss : Step.EveryAll w.IsGroup ss)
    (hends : Step.EveryAll (fun _ => w.EndsDescribed) ss) :
    (w.IsChainOf v (ss.map Step.value) → w.IsChainOf u (Step.flatAll ss) →
      (Validated .standard w u (Step.flatAll ss) ↔
        Validated .standard w v (ss.map Step.value) ∧ Step.EveryAll w.Passes ss)) ∧
    ∀ (c : PipelineConfig) (before made : World), c.failOnIncompatible = true →
      (c.steps.mapM (Pipeline.step .standard)).result before = (.ok (ss.map Step.value), made) →
      made.Offers .functionComposite →
      (Pipeline.build .standard c).result before = (.ok v, w) →
      Step.EveryAll w.Passes ss → List.IsChain w.Composes (Step.flatAll ss) := by
  refine ⟨fun hv hu => ?_, fun c before made hfail hsteps ho hbuild hpasses => ?_⟩
  · rw [hu.validated_iff, hv.validated_iff]
    exact World.isChain_flatAll_iff_passes hw hss hends
  · rw [World.isChain_flatAll_iff_passes hw hss hends, and_iff_left hpasses]
    obtain ⟨herror, hverdict⟩ := Pipeline.result_build hsteps ho
    cases hq : (Pipeline.withPipeline made (ss.map Step.value)).validateChain (ss.map Step.value) with
    | error e => cases (herror e hq).symm.trans hbuild
    | ok q =>
      obtain ⟨hvalid, hinvalid, -⟩ := hverdict q hq
      cases hqValid : q.isValid with
      | false => cases (hinvalid hqValid hfail).symm.trans hbuild
      | true =>
        obtain rfl := (Prod.mk.inj ((hvalid hqValid).symm.trans hbuild)).2
        exact (World.validateChain_isValid hq).mp hqValid

/-- A direct object of the library class of chains, with the cell of its list. -/
def chainCell (r : Ref) : Cell :=
  .object LibraryClass.functionComposite.className none [("functions", .ref r)]

/-- Functions that measure a text and raise it, what passes a value on, an object that takes nothing, and
chains of them: one inside another, one without functions, and one of what takes nothing. -/
def grouped : World :=
  let str : Ty := .cls (.core "str")
  let text : Param := ⟨"x", .standard, none, some str⟩
  let bare : ClassName := ⟨"grouping", "Bare"⟩
  { World.steps with
    heap := #[
      .routine ⟨"measure", [text], some (.cls (.core "int")), .arg 0, none⟩,
      .routine ⟨"raise", [text], some str, .upper, none⟩,
      .routine ⟨"pass_on", [⟨"x", .standard, none, none⟩], none, .arg 0, none⟩,
      .object bare none [],
      .list [.ref 0, .ref 1], chainCell 4,
      .list [.ref 5], chainCell 6,
      .list [], chainCell 8,
      .list [.ref 0, .ref 9, .ref 1], chainCell 10,
      .list [.ref 3], chainCell 12,
      .list [.ref 2, .ref 13], chainCell 14,
      .list [.ref 2, .ref 3], chainCell 16,
      .list [.ref 1, .ref 0], chainCell 18,
      .list [.ref 1, .ref 19], chainCell 20,
      .list [.ref 21], chainCell 22,
      .list [.ref 1, .ref 1, .ref 0], chainCell 24]
    declarations := [⟨bare, [("__call__", ⟨"__call__", [], none, .allList, none⟩)], none, [],
      some ⟨false, []⟩, none⟩] }

theorem isChainOf_of_cells {r l : Ref} {fs : List Value} (hr : w.heap[r]? = some (chainCell l))
    (hl : w.heap[l]? = some (.list fs)) : w.IsChainOf (.ref r) fs :=
  ⟨r, none, _, .ref l, rfl, hr, rfl, by simp [World.sequence?, World.cell?, hl]⟩

theorem regular_grouped : grouped.Regular := ⟨rfl, rfl, rfl, rfl⟩

theorem not_validated {d : Dispatch} {fs : List Value}
    (h : (w.validateChain fs).toOption.map (·.isValid) = some false) : ¬ Validated d w v fs := by
  intro hv
  obtain ⟨r, hr, hvalid⟩ := hv.passes
  rw [result_validate hv.functions] at hr
  cases hq : w.validateChain fs with
  | error e => simp [hq, Except.toOption] at h
  | ok q =>
    obtain rfl : q = r := by simpa [hq] using hr
    simp [hq, Except.toOption, hvalid] at h

/-- An object that passes a value on, with the classes that a pipeline of such objects needs. -/
def before : World := { World.steps with
  heap := #[.object LibraryClass.identity.className none []]
  registry :=
    let classes := [LibraryClass.functionComposite.className, LibraryClass.identity.className]
    ⟨classes.map fun c => (c.name, c), classes.map fun c => (c, c.name)⟩ }

/-- A step that is a chain of that object twice, and one that is a new such object. -/
def chainSpec : Spec Document :=
  ⟨"FunctionComposite", [("functions", .list [.leaf (.ref 0), .leaf (.ref 0)])]⟩

def passing : PipelineConfig := ⟨"passing", [chainSpec, ⟨"Identity", []⟩], true⟩

/-- The state after the steps have been made. -/
def made : World := { before with
  heap := before.heap ++ #[.list [.ref 0, .ref 0], chainCell 3, .list [.ref 0, .ref 0],
    .object LibraryClass.identity.className none []] }

theorem result_passing :
    (passing.steps.mapM (Pipeline.step .standard)).result before = (.ok [.ref 2, .ref 4], made) := by
  let between : World := { before with
    heap := before.heap ++ #[.list [.ref 0, .ref 0], chainCell 3, .list [.ref 0, .ref 0]] }
  have hchain : (Pipeline.step .standard chainSpec).result before = (.ok (.ref 2), between) := by
    rw [Pipeline.result_step (k := LibraryClass.functionComposite.className) rfl rfl]
    rfl
  have hidentity : (Pipeline.step .standard ⟨"Identity", []⟩).result between = (.ok (.ref 4), made) := by
    rw [Pipeline.result_step (k := LibraryClass.identity.className) rfl rfl]
    rfl
  simp only [passing, List.mapM_cons, List.mapM_nil, result_bind, hchain, hidentity, result_pure]

theorem offers_made : made.Offers .functionComposite := by
  have hparams : LibraryClass.functionComposite.params = [.optional "functions"] := rfl
  refine ⟨rfl, rfl, fun p hp => ?_, rfl, "FunctionComposite", by decide, rfl, rfl⟩
  rw [hparams, List.mem_singleton] at hp
  rw [hp]
  rfl

/-- Functions in a chain in a chain in a chain pass the check also without groups, and no neighbours in a
pipeline with a group fail to compose. -/
theorem grouped_validated_ungrouped :
    Validated .standard grouped (.ref 25) [.ref 1, .ref 1, .ref 0] ∧
      ∃ p w, (Pipeline.build .standard passing).result before = (.ok p, w) ∧
        List.IsChain w.Composes [.ref 0, .ref 0, .ref 4] := by
  refine ⟨?_, ?_⟩
  · let inside : List Step := [.one (.ref 1), .one (.ref 0)]
    let around : List Step := [.one (.ref 1), .chain (.ref 19) inside]
    have hends : grouped.EndsDescribed inside ∧ grouped.EndsDescribed around := by
      refine ⟨⟨?_, ?_⟩, ?_, ?_⟩ <;> rintro f ⟨⟩ ts hts <;> obtain rfl := Except.ok.inj hts <;> decide
    have hinside : grouped.IsChainOf (.ref 19) [.ref 1, .ref 0] := isChainOf_of_cells rfl rfl
    have haround : grouped.IsChainOf (.ref 21) [.ref 1, .ref 19] := isChainOf_of_cells rfl rfl
    have hchain : grouped.IsChainOf (.ref 23) [.ref 21] := isChainOf_of_cells rfl rfl
    have hverdicts : [[Value.ref 1, .ref 0], [.ref 1, .ref 19], [.ref 21]].all
        (fun fs => (grouped.validateChain fs).toOption.map (·.isValid) == some true) = true := by
      decide +kernel
    simp only [List.all_cons, List.all_nil, Bool.and_true, Bool.and_eq_true, beq_iff_eq] at hverdicts
    obtain ⟨hvalidInside, hvalidAround, hvalid⟩ := hverdicts
    have hgroups : Step.EveryAll grouped.IsGroup [.chain (.ref 21) around] :=
      ⟨⟨⟨by simp [around], haround⟩, trivial, ⟨⟨by simp [inside], hinside⟩, trivial, trivial,
        trivial⟩, trivial⟩, trivial⟩
    have hdescribed : Step.EveryAll (fun _ => grouped.EndsDescribed) [.chain (.ref 21) around] :=
      ⟨⟨hends.2, trivial, ⟨hends.1, trivial, trivial, trivial⟩, trivial⟩, trivial⟩
    refine ((validated_ungrouped_iff regular_grouped hgroups hdescribed).1
      hchain (isChainOf_of_cells rfl rfl)).mpr ⟨.of_isValid hchain.result_itemsOf hvalid, ?_⟩
    · exact ⟨⟨.of_isValid haround.result_itemsOf hvalidAround, trivial,
        ⟨.of_isValid hinside.result_itemsOf hvalidInside, trivial, trivial, trivial⟩, trivial⟩, trivial⟩
  · let built : World := Pipeline.withPipeline made [.ref 2, .ref 4]
    let inside : List Step := [.one (.ref 0), .one (.ref 0)]
    have hends : built.EndsDescribed inside := by
      constructor <;> rintro f ⟨⟩ ts hts <;> obtain rfl := Except.ok.inj hts <;> decide
    have hinside : built.IsChainOf (.ref 2) [.ref 0, .ref 0] := isChainOf_of_cells rfl rfl
    have hverdicts : [[Value.ref 0, .ref 0], [.ref 2, .ref 4]].all
        (fun fs => (built.validateChain fs).toOption.map (·.isValid) == some true) = true := by
      decide +kernel
    simp only [List.all_cons, List.all_nil, Bool.and_true, Bool.and_eq_true, beq_iff_eq] at hverdicts
    obtain ⟨hvalidInside, hvalid⟩ := hverdicts
    obtain ⟨q, hq, hqValid⟩ : ∃ q, built.validateChain [.ref 2, .ref 4] = .ok q ∧ q.isValid = true := by
      cases hq : built.validateChain [.ref 2, .ref 4] with
      | error e => simp [hq, Except.toOption] at hvalid
      | ok q => exact ⟨q, rfl, by simpa [hq, Except.toOption] using hvalid⟩
    have hbuild := ((Pipeline.result_build result_passing offers_made).2 q hq).1 hqValid
    refine ⟨_, built, hbuild, ?_⟩
    have hgroups : Step.EveryAll built.IsGroup [.chain (.ref 2) inside, .one (.ref 4)] :=
      ⟨⟨⟨by simp [inside], hinside⟩, trivial, trivial, trivial⟩, trivial, trivial⟩
    have hdescribed : Step.EveryAll (fun _ => built.EndsDescribed)
        [.chain (.ref 2) inside, .one (.ref 4)] :=
      ⟨⟨hends, trivial, trivial, trivial⟩, trivial, trivial⟩
    refine (validated_ungrouped_iff (u := .ref 0) ⟨rfl, rfl, rfl, rfl⟩ hgroups hdescribed).2 passing before
      made rfl result_passing offers_made hbuild ?_
    · exact ⟨⟨.of_isValid hinside.result_itemsOf hvalidInside, trivial, trivial, trivial⟩, trivial,
        trivial⟩

/-- The neighbours in a group are not looked at; a chain without functions fits between any two; and a
function that takes nothing takes anything inside a group. -/
theorem not_validated_ungrouped :
    (¬ ∀ (w : World) (u v : Value) (ss : List Step), w.Regular → Step.EveryAll w.IsGroup ss →
      Step.EveryAll (fun _ => w.EndsDescribed) ss →
      w.IsChainOf v (ss.map Step.value) → w.IsChainOf u (Step.flatAll ss) →
      (Validated .standard w u (Step.flatAll ss) ↔ Validated .standard w v (ss.map Step.value))) ∧
    (¬ ∀ (w : World) (u v : Value) (ss : List Step), w.Regular →
      Step.EveryAll (fun v ss => w.IsChainOf v (ss.map Step.value)) ss →
      Step.EveryAll (fun _ => w.EndsDescribed) ss →
      w.IsChainOf v (ss.map Step.value) → w.IsChainOf u (Step.flatAll ss) →
      (Validated .standard w u (Step.flatAll ss) ↔
        Validated .standard w v (ss.map Step.value) ∧ Step.EveryAll w.Passes ss)) ∧
    (¬ ∀ (w : World) (u v : Value) (ss : List Step), w.Regular → Step.EveryAll w.IsGroup ss →
      w.IsChainOf v (ss.map Step.value) → w.IsChainOf u (Step.flatAll ss) →
      (Validated .standard w u (Step.flatAll ss) ↔
        Validated .standard w v (ss.map Step.value) ∧ Step.EveryAll w.Passes ss)) := by
  have hverdicts : [[Value.ref 5], [.ref 0, .ref 9, .ref 1], [], [.ref 2, .ref 13], [.ref 3]].all
      (fun fs => (grouped.validateChain fs).toOption.map (·.isValid) == some true) = true ∧
    [[Value.ref 0, .ref 1], [.ref 2, .ref 3]].all
      (fun fs => (grouped.validateChain fs).toOption.map (·.isValid) == some false) = true := by
    decide +kernel
  simp only [List.all_cons, List.all_nil, Bool.and_true, Bool.and_eq_true, beq_iff_eq] at hverdicts
  obtain ⟨⟨hhidden, hbetween, hempty, hinside, halone⟩, hflat, hbare⟩ := hverdicts
  have hpair : grouped.IsChainOf (.ref 5) [.ref 0, .ref 1] := isChainOf_of_cells rfl rfl
  refine ⟨fun h => ?_, fun h => ?_, fun h => ?_⟩
  · have hends : grouped.EndsDescribed [.one (.ref 0), .one (.ref 1)] := by
      constructor <;> rintro f ⟨⟩ ts hts <;> obtain rfl := Except.ok.inj hts <;> decide
    have hchain : grouped.IsChainOf (.ref 7) [.ref 5] := isChainOf_of_cells rfl rfl
    have hiff := h grouped (.ref 5) (.ref 7) [.chain (.ref 5) [.one (.ref 0), .one (.ref 1)]]
      regular_grouped ⟨⟨⟨by simp, hpair⟩, trivial, trivial, trivial⟩, trivial⟩
      ⟨⟨hends, trivial, trivial, trivial⟩, trivial⟩ hchain hpair
    exact not_validated hflat (hiff.mpr (.of_isValid hchain.result_itemsOf hhidden))
  · have hnone : grouped.IsChainOf (.ref 9) [] := isChainOf_of_cells rfl rfl
    have hends : grouped.EndsDescribed [] := by constructor <;> rintro f ⟨⟩
    have hchain : grouped.IsChainOf (.ref 11) [.ref 0, .ref 9, .ref 1] := isChainOf_of_cells rfl rfl
    have hiff := h grouped (.ref 5) (.ref 11) [.one (.ref 0), .chain (.ref 9) [], .one (.ref 1)]
      regular_grouped ⟨trivial, ⟨hnone, trivial⟩, trivial, trivial⟩
      ⟨trivial, ⟨hends, trivial⟩, trivial, trivial⟩ hchain hpair
    exact not_validated hflat (hiff.mpr ⟨.of_isValid hchain.result_itemsOf hbetween,
      trivial, ⟨.of_isValid hnone.result_itemsOf hempty, trivial⟩, trivial, trivial⟩)
  · have hone : grouped.IsChainOf (.ref 13) [.ref 3] := isChainOf_of_cells rfl rfl
    have hchain : grouped.IsChainOf (.ref 15) [.ref 2, .ref 13] := isChainOf_of_cells rfl rfl
    have hiff := h grouped (.ref 17) (.ref 15) [.one (.ref 2), .chain (.ref 13) [.one (.ref 3)]]
      regular_grouped ⟨trivial, ⟨⟨by simp, hone⟩, trivial, trivial⟩, trivial⟩ hchain
      (isChainOf_of_cells rfl rfl)
    exact not_validated hbare (hiff.mpr ⟨.of_isValid hchain.result_itemsOf hinside,
      trivial, ⟨.of_isValid hone.result_itemsOf halone, trivial, trivial⟩, trivial⟩)

end Chain

end FunctionObjects
