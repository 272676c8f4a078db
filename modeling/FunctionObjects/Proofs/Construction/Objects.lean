import FunctionObjects.Proofs.Construction.Arguments
import FunctionObjects.Proofs.Construction.Compiling
import FunctionObjects.Proofs.Construction.Stock
/-!
# New objects

A call of a library class binds its arguments, checks and replaces them, and leaves an object with
the attributes that its constructor calls for.  A refused argument leaves an error.
-/

namespace FunctionObjects

open Run World LibraryClass

variable {w v : World} {r : Ref} {c : ClassName}

theorem World.Stocked.equipped (hw : w.Stocked) : Construction.Equipped w where
  input := (hw .tupleInputAdapter (by decide)).structural
  output := (hw .tupleOutputAdapter (by decide)).structural

namespace Construction

variable (d : Dispatch) {b : Binding} {arg : String → Datum}

/-- Every constructor leaves the attributes that are stated for it, or fails. -/
theorem makes_setUp (owner : LibraryClass) (h : Making w r c [] v) (he : Equipped w)
    (hb : Given w owner b arg) :
    Makes w r c (setUp d owner (.ref r) b) v (attributesOf? w.zones owner arg) := by
  have hready : ∀ name, Ready w r v (arg name) (b.value name) := fun name => .of_holds (hb.holds name)
  cases owner with
  | functionComposite => exact makes_listed d h _ (hb.holds _) (hb.steady _ (by decide))
  | predicateComposite => exact makes_listed d h _ (hb.holds _) (hb.steady _ (by decide))
  | tupleInputAdapter => exact makes_listed d h _ (hb.holds _) (hb.steady _ (by decide))
  | tupleOutputAdapter => exact makes_listed d h _ (hb.holds _) (hb.steady _ (by decide))
  | areIn => exact makes_listed d h _ (hb.holds _) (hb.steady _ (by decide))
  | outputAdapted =>
    obtain ⟨slots, v', hslots, hres, hm⟩ | ⟨hslots, e, v', hres⟩ :=
      h.setOutput (by simp) (by simp) (hready "output_adapter") (hready "output_fold")
    · exact .inl ⟨slots, v', hslots, hres, hm⟩
    · exact .inr ⟨hslots, e, v', hres⟩
  | adapted =>
    obtain ⟨slots, v', hslots, hres, hm⟩ | ⟨hslots, e, v', hres⟩ :=
      h.setSlots (hready "input_adapter") (hready "output_adapter") (hready "output_fold")
    · exact .inl ⟨slots, v', hslots, hres, hm⟩
    · exact .inr ⟨hslots, e, v', hres⟩
  | adaptedFunction =>
    exact makes_adapted h _ (hready _) (hready _) (hready _) (hb.holds _) (by decide)
  | adaptedBinaryOperator =>
    exact makes_adapted h _ (hready _) (hready _) (hready _) (hb.holds _) (by decide)
  | adaptedPredicate =>
    exact .setField_bind h _ (by simp) (hready _) fun v' hm _ =>
      .setField hm _ (by simp) (.of_holds (hb.holds _))
  | tupleAdaptedFunction => exact makes_tupleAdaptedFunction d h he hb
  | tupleAdaptedPredicate => exact makes_tupleAdaptedPredicate d h he hb
  | parseTime => exact makes_parseTime d h hb
  | csvOptions => exact makes_csvOptions d h hb
  | divideBy => exact makes_divideBy d h hb
  | stringRegexReplace => exact makes_stringRegexReplace d h hb
  | isA => exact makes_isA d h hb
  | regex => exact makes_regex d h hb
  | multiRegex => exact makes_multiRegex d h hb
  | _ => exact makes_parameters d h hb rfl (by decide)

theorem params_isPreset : ∀ k ∈ Registry.shipped, ∀ p ∈ k.params, p.isPreset = true := by
  decide

theorem attributeNames_visible : ∀ k ∈ LibraryClass.all, ∀ n ∈ k.source.attributeNames,
    n.startsWith "__" = false := by
  decide +kernel

theorem not_adapterKind {k : LibraryClass} (hk : k ∈ Registry.shipped) :
    (k.className == LibraryClass.adapterKind.className) = false := by
  rw [beq_eq_false_iff_ne]
  intro h
  rw [className_injective h] at hk
  exact absurd hk (by decide)

/-- Classes whose objects are not tuples. -/
theorem source_not_tuple : ∀ k ∈ Registry.shipped,
    k.source ≠ .arrayTuple ∧ k.source ≠ .fixedTuple ∧ k.source ≠ .mapTuple := by
  decide

theorem params_of_no_owner {k : LibraryClass} (h : k.owner? = none) : k.params = [] := by
  have hparameters : k.parameters? = none := by
    unfold owner? at h
    split at h <;> simp_all
  simp [params, source, h, hparameters]

theorem attributes_of_no_owner {k : LibraryClass} (h : k.owner? = none) :
    attributes? w.zones k arg = some [] := by
  cases k <;> first | rfl | simp [owner?, parameters?] at h

/-- A class on offer binds its arguments and sets up a new object. -/
theorem result_make {k : LibraryClass} (hk : k ∈ Registry.shipped) (ho : w.Offers k)
    (args : Arguments) : (make d k.className args).result w = match Binding.of k.params args with
      | .error e => (.error e, w)
      | .ok b =>
        (do
          let self ← Run.alloc (.object k.className none [])
          if k.owner?.isSome then setUp d k.source self b
          return self).result w := by
  have hown : isOwn w k.className = true := by simp [isOwn, ofClassName?_className]
  simp only [make, result_bind, result_get, not_adapterKind hk, hown, object, ho.concrete,
    ho.constructor, Bool.false_eq_true, if_false, if_true]
  cases howner : k.owner? with
  | none =>
    rw [params_of_no_owner howner]
    obtain ⟨positional, named⟩ := args
    cases positional with
    | nil => cases named <;> rfl
    | cons v vs => rfl
  | some owner =>
    have hsource : k.source = owner := by simp [source, howner]
    obtain ⟨harray, hfixed, hmap⟩ := source_not_tuple k hk
    rw [hsource] at harray hfixed hmap ⊢
    simp only [Option.map_some, Constructor.params]
    cases hb : Binding.of k.params args with
    | error e => simp [result_bind]
    | ok b => simp [result_bind]

/-- What a class on offer makes of arguments that can be bound. -/
theorem result_make_of_given {k : LibraryClass} (hk : k ∈ Registry.shipped) (ho : w.Offers k)
    (he : Equipped w) {args : Arguments} (hargs : Binding.of k.params args = .ok b)
    (hb : Given w k.source b arg) :
    (∃ as v', attributes? w.zones k arg = some as ∧
      (make d k.className args).result w = (.ok (.ref w.heap.size), v') ∧
      Making w w.heap.size k.className as v') ∨
    (attributes? w.zones k arg = none ∧ ∃ e v', (make d k.className args).result w = (.error e, v')) := by
  have hstart := Making.start w k.className
  rw [result_make d hk ho, hargs]
  simp only [result_bind, result_alloc]
  cases howner : k.owner? with
  | none =>
    exact .inl ⟨[], _, attributes_of_no_owner howner, rfl, hstart⟩
  | some owner =>
    obtain ⟨as, v', has, hres, hm⟩ | ⟨has, e, v', hres⟩ := makes_setUp d k.source hstart he hb
    · exact .inl ⟨as, v', has, by simp [result_map, hres], hm⟩
    · exact .inr ⟨has, e, v', by simp [result_map, hres]⟩

/-- An object that has been made holds its attributes. -/
theorem holds_of_making {k : LibraryClass} {as : List (String × Datum)} (ho : w.Offers k)
    (has : attributes? w.zones k arg = some as) (hm : Making w r k.className as v) :
    v.Holds (.object k.className as) (.ref r) := by
  obtain ⟨fields, hcell, hready⟩ := hm.cell
  have hvisible : visible fields = fields := by
    rw [visible, List.filter_eq_self]
    intro e he
    have hname : e.1 ∈ k.source.attributeNames := by
      rw [← named_attributesOf _ _ _ has, ← hready.names]
      exact List.mem_map.mpr ⟨e, he, rfl⟩
    simp [attributeNames_visible k (mem_all k) _ hname]
  refine ⟨r, none, fields, rfl, hcell, ?_, ?_⟩
  · rw [hm.grows.isStructural]
    exact ho.structural
  · rw [hvisible]
    exact hready.holds hm.grows (.refl r v)

end Construction

end FunctionObjects
