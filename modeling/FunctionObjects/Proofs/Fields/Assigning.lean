import FunctionObjects.Proofs.Fields.Commuting
/-!
# Assigning to fields at once

An adapted function writes its output into a tuple as one assignment: what it writes has been computed from
what the tuple had before, whichever of the references it writes it has read.  References that are different
and belong to the tuple then have their items, and everything else in the tuple is as it was.
-/

namespace FunctionObjects

open Run World

namespace Contents

variable {α : Type} {K : Datum → Prop} {nothing : α} {t t' : Contents α} {ρ : Datum} {σs : List Datum}
  {a : α} {ps : List (Datum × α)}

/-- Whether a value can be written under a reference: at a position that the tuple has, or under any name
that can be hashed. -/
def takes : Contents α → Datum → Bool
  | slots as, ρ => (position? as.length ρ).isSome
  | fields _, ρ => ρ.hashable

/-- The references that have values, in their order. -/
def references : Contents α → List Datum
  | slots as => (List.range as.length).map fun i => .atom (.int i)
  | fields es => es.map (·.1)

/-- Those of some references that can be written and have no value yet. -/
def missing : Contents α → List Datum → List Datum
  | slots _, _ => []
  | fields es, ρs => ρs.filter fun ρ => !es.any fun e => e.1.sameItem ρ

/-- What becomes of a tuple when values are assigned to some of its references: these have the values, all
others have what they had, and references that are new come last. -/
structure Assigned (K : Datum → Prop) (nothing : α) (t : Contents α) (ps : List (Datum × α))
    (t' : Contents α) : Prop where
  owner : t'.owner = t.owner
  assigned : ∀ p ∈ ps, t'.get nothing p.1 = some p.2
  others : ∀ σ : Datum, (σ.hashable = true → K σ) → (∀ p ∈ ps, p.1.sameItem σ = false) →
    t'.get nothing σ = t.get nothing σ
  references : t'.references = t.references ++ t.missing (ps.map (·.1))

theorem put_isSome (t : Contents α) (ρ : Datum) (a : α) : (t.put ρ a).isSome = t.takes ρ := by
  cases t with
  | slots as => simp [put, takes]
  | fields es =>
    rw [put, takes]
    split <;> simp_all

theorem owner_put (h : t.put ρ a = some t') : t'.owner = t.owner := by
  cases t with
  | slots as =>
    obtain ⟨i, -, rfl⟩ := Option.map_eq_some_iff.mp h
    rfl
  | fields es =>
    obtain ⟨-, rfl⟩ := put_fields.mp h
    rfl

/-- Writing makes no other references writable. -/
theorem takes_put (h : t.put ρ a = some t') (σ : Datum) : t'.takes σ = t.takes σ := by
  cases t with
  | slots as =>
    obtain ⟨i, -, rfl⟩ := Option.map_eq_some_iff.mp h
    rw [takes, takes, List.length_set]
  | fields es =>
    obtain ⟨-, rfl⟩ := put_fields.mp h
    rfl

theorem references_put (h : t.put ρ a = some t') : t'.references = t.references ++ t.missing [ρ] := by
  cases t with
  | slots as =>
    obtain ⟨i, -, rfl⟩ := Option.map_eq_some_iff.mp h
    simp [references, missing]
  | fields es =>
    obtain ⟨-, rfl⟩ := put_fields.mp h
    rw [references, Keyed.keys_put]
    split
    · rename_i hany
      simp [references, missing, hany]
    · rename_i hany
      simp only [references, missing, List.filter_cons, hany, List.filter_nil, Bool.not_false, if_true]

/-- Writing adds no reference but the one that is written. -/
theorem missing_put (h : t.put ρ a = some t') (hσs : ∀ σ ∈ σs, ρ.sameItem σ = false) :
    t'.missing σs = t.missing σs := by
  cases t with
  | slots as =>
    obtain ⟨i, -, rfl⟩ := Option.map_eq_some_iff.mp h
    rfl
  | fields es =>
    obtain ⟨-, rfl⟩ := put_fields.mp h
    refine List.filter_congr fun σ hσ => ?_
    have hkeys (es : List (Datum × α)) :
        (es.any fun e => e.1.sameItem σ) = (es.map (·.1)).any (·.sameItem σ) := by
      rw [List.any_map]
      rfl
    rw [hkeys, hkeys, Keyed.keys_put]
    split <;> simp [hσs σ hσ]

/-- Values can be written under references that can be written. -/
theorem exists_putAll (h : ∀ p ∈ ps, t.takes p.1 = true) : ∃ t', t.putAll ps = some t' := by
  induction ps generalizing t with
  | nil => exact ⟨t, rfl⟩
  | cons p ps ih =>
    rw [List.forall_mem_cons, ← put_isSome t p.1 p.2] at h
    obtain ⟨t₁, ht₁⟩ := Option.isSome_iff_exists.mp h.1
    obtain ⟨t', ht'⟩ := ih (t := t₁) fun q hq => (takes_put ht₁ q.1).trans (h.2 q hq)
    exact ⟨t', Option.bind_eq_some_iff.mpr ⟨t₁, ht₁, ht'⟩⟩

theorem owner_putAll (h : t.putAll ps = some t') : t'.owner = t.owner := by
  induction ps generalizing t with
  | nil =>
    obtain rfl := Option.some.inj h
    rfl
  | cons p ps ih =>
    obtain ⟨t₁, ht₁, hrest⟩ := Option.bind_eq_some_iff.mp h
    exact (ih hrest).trans (owner_put ht₁)

theorem references_putAll (hdistinct : ps.Pairwise fun p q => p.1.sameItem q.1 = false)
    (h : t.putAll ps = some t') : t'.references = t.references ++ t.missing (ps.map (·.1)) := by
  induction ps generalizing t with
  | nil =>
    obtain rfl := Option.some.inj h
    cases t <;> simp [missing]
  | cons p ps ih =>
    obtain ⟨t₁, ht₁, hrest⟩ := Option.bind_eq_some_iff.mp h
    rw [List.pairwise_cons] at hdistinct
    have hlater : t₁.missing (ps.map (·.1)) = t.missing (ps.map (·.1)) :=
      missing_put ht₁ (List.forall_mem_map.mpr hdistinct.1)
    have hsplit : t.missing (p.1 :: ps.map (·.1)) = t.missing [p.1] ++ t.missing (ps.map (·.1)) := by
      cases t with
      | slots as => rfl
      | fields es => simp only [missing, ← List.filter_append, List.singleton_append]
    rw [ih hdistinct.2 hrest, references_put ht₁, hlater, List.append_assoc, List.map_cons, hsplit]

variable (hK : Datum.AreKeys K) (hc : t.Within K)

include hK hc

/-- A reference that has been written has the value. -/
theorem get_put_self (hρ : ρ.hashable = true → K ρ) (h : t.put ρ a = some t') (nothing : α) :
    t'.get nothing ρ = some a := by
  cases t with
  | slots as =>
    obtain ⟨i, hi, rfl⟩ := Option.map_eq_some_iff.mp h
    have hlt : i < as.length := by
      unfold position? at hi
      split at hi
      · split at hi
        · rename_i hrange
          obtain rfl := Option.some.inj hi
          omega
        · cases hi
      · cases hi
    rw [get, List.length_set, hi]
    simp [hlt]
  | fields es =>
    obtain ⟨hhash, rfl⟩ := put_fields.mp h
    rw [get, if_pos hhash, Keyed.value?_put_self hK hc (hρ hhash) (hρ hhash) (hK.refl (hρ hhash))]
    rfl

/-- Different references that are written one after the other all have their values in the end. -/
theorem get_of_putAll (hps : ∀ p ∈ ps, K p.1)
    (hdistinct : ps.Pairwise fun p q => p.1.sameItem q.1 = false) (h : t.putAll ps = some t')
    (nothing : α) : ∀ p ∈ ps, t'.get nothing p.1 = some p.2 := by
  induction ps generalizing t with
  | nil => nofun
  | cons p ps ih =>
    obtain ⟨t₁, ht₁, hrest⟩ := Option.bind_eq_some_iff.mp h
    rw [List.pairwise_cons] at hdistinct
    rw [List.forall_mem_cons] at hps ⊢
    have hc₁ := within_put ht₁ hc fun _ => hps.1
    have hapart : ∀ q ∈ ps, (q.1.hashable = true → K q.1) ∧ q.1.sameItem p.1 = false := fun q hq =>
      ⟨fun _ => hps.2 q hq, (hK.comm (hps.2 q hq) hps.1).trans (hdistinct.1 q hq)⟩
    refine ⟨?_, ih hc₁ hps.2 hdistinct.2 hrest⟩
    rw [get_putAll hK hc₁ hapart (fun _ => hps.1) hrest, get_put_self hK hc (fun _ => hps.1) ht₁]

/-- Writing values under different references is an assignment. -/
theorem assigned_of_putAll (hps : ∀ p ∈ ps, K p.1)
    (hdistinct : ps.Pairwise fun p q => p.1.sameItem q.1 = false) (h : t.putAll ps = some t')
    (nothing : α) : t.Assigned K nothing ps t' where
  owner := owner_putAll h
  assigned := get_of_putAll hK hc hps hdistinct h nothing
  others _ hσ hapart := get_putAll hK hc (fun p hp => ⟨fun _ => hps p hp, hapart p hp⟩) hσ h nothing
  references := references_putAll hdistinct h

end Contents

namespace Fields

variable {r : Ref} {K : Datum → Prop} {c : ClassName} {w v u : World} {F f y : Value}
  {rs qs xs ys : List Value} {t : Contents Value} {σs ρs : List Datum} {n : Nat}

/-- A call gives the tuple itself and assigns the items of the output to the references of the projection.
The output is that of the function for the values selected before the call, and the function, like what
reads the items of its output, leaves the tuple and the adapter as they are. -/
theorem call_assigns (hK : Datum.AreKeys K) (ht : (Meaning.itself r).IsTuple K c w t)
    (hF : w.AdaptsTuple F rs f qs) (hrs : List.Forall₂ ((Meaning.itself r).key w) σs rs)
    (hσs : ∀ σ ∈ σs, K σ) (hselect : TupleStep.select .none t σs = some xs)
    (hρs : ∀ ρ ∈ ρs, K ρ ∧ t.takes ρ = true) (hne : ρs ≠ [])
    (hdistinct : ρs.Pairwise fun ρ σ => ρ.sameItem σ = false)
    (hcall : (handOn (.ofDepth (n + 4)) f xs).result w = (.ok y, v))
    (hFv : v.AdaptsTuple F rs f qs)
    (hitems : (unpack (.ofDepth (n + 2)) qs.length y).result v = (.ok ys, u))
    (hu : (Meaning.itself r).IsTuple K c u t) (hqs : List.Forall₂ ((Meaning.itself r).key u) ρs qs)
    (hcount : ys.length = ρs.length) :
    ∃ w' t', ((Dispatch.ofDepth (n + 6)).call F [.ref r]).result w = (.ok (.ref r), w') ∧
      (Meaning.itself r).IsTuple K c w' t' ∧ t.Assigned K .none (ρs.zip ys) t' := by
  -- what is selected is what the tuple has
  have hreads := computes_select hK ht (fun σ hσ _ => hσs σ hσ) hrs n
  change Computes w _ (TupleStep.select .none t σs) _ at hreads
  rw [hselect] at hreads
  obtain ⟨xs', w₁, hget, rfl, hlength, hxs⟩ := hreads
  obtain rfl : xs = xs' := List.forall₂_eq_eq_eq ▸ hxs
  have hhand : (do
      (Dispatch.ofDepth (n + 4)).call f [← selected (.ofDepth (n + 1)) (.ref r) rs]).result w₁ =
        (.ok y, v) :=
    (result_bind_congr _ (result_selected hget hlength)).trans hcall
  -- the items of the output are written
  obtain ⟨g, hprojects, houtput⟩ := result_output hFv (.ref r) y (n + 2)
  have hqs' : qs ≠ [] := by
    rintro rfl
    exact hne (List.forall₂_nil_right_iff.mp hqs)
  have hfst : (ρs.zip ys).map (·.1) = ρs := List.map_fst_zip hcount.ge
  have hmem : ∀ p ∈ ρs.zip ys, p.1 ∈ ρs := fun p hp => (List.of_mem_zip hp).1
  have htakes : ∀ p ∈ ρs.zip ys, t.takes p.1 = true := fun p hp => (hρs p.1 (hmem p hp)).2
  obtain ⟨t', hputs⟩ := Contents.exists_putAll htakes
  have hproject : TupleStep.project t ρs ys = some t' :=
    TupleStep.project_eq_some.mpr ⟨hne, hcount, hputs⟩
  have hwrites := computes_write hK hu (fun ρ hρ _ => (hρs ρ hρ).1) hne hqs
    (List.forall₂_same.mpr fun y (_ : y ∈ ys) => (rfl : y = y)) g (n + 1)
  rw [hproject] at hwrites
  obtain ⟨_, w', hwrite, rfl, -, ht'⟩ := hwrites
  refine ⟨w', t', ?_, ht', ?_⟩
  · refine (result_call hF rfl n).trans ((result_bind_ok _ hhand).trans (houtput.trans ?_))
    exact (result_call_project hprojects hqs' y (n + 2)).trans ((result_bind_ok _ hitems).trans hwrite)
  · refine Contents.assigned_of_putAll hK ht.within (fun p hp => (hρs p.1 (hmem p hp)).1) ?_ hputs .none
    rw [← hfst] at hdistinct
    exact List.pairwise_map.mp hdistinct

end Fields

/-- A tuple of some values, and a function for it that hands on what it has under some references to
others. -/
def handing (vs rs qs : List Value) : World := { World.initial with
  heap := #[.slots LibraryClass.arrayTuple.className none vs,
    .object LibraryClass.identity.className none [],
    .list rs, .object LibraryClass.tupleInputAdapter.className none [("selection", .ref 2)],
    .list qs, .object LibraryClass.tupleOutputAdapter.className none [("projection", .ref 4)],
    .object LibraryClass.tupleAdaptedFunction.className none [("input_adapter", .ref 3),
      ("output_adapter", .none), ("output_fold", .ref 5), ("function", .ref 1)]] }

namespace Handing

variable {vs rs qs : List Value}

theorem projects (vs rs qs : List Value) : (handing vs rs qs).Projects (.ref 5) qs := by
  have hmethods := methods_of_sameClasses (w := handing vs rs qs) ⟨rfl, rfl⟩
    (.tupleOutputAdapter, "__call__", .tupleOutputAdapter) (by simp [answering])
  exact ⟨_, _, 4, ⟨5, none, rfl, rfl⟩, rfl, rfl, hmethods⟩

theorem adaptsTuple (vs rs qs : List Value) : (handing vs rs qs).AdaptsTuple (.ref 6) rs (.ref 1) qs := by
  have hmethods := methods_of_sameClasses (w := handing vs rs qs) ⟨rfl, rfl⟩
  simp only [answering, List.forall_mem_cons] at hmethods
  obtain ⟨-, -, -, -, -, -, -, hcall, happly, hinput, houtput, hselect, hselects, -⟩ := hmethods
  exact ⟨_, _, .ref 3, .ref 5, ⟨6, none, rfl, rfl⟩,
    ⟨_, _, 2, ⟨3, none, rfl, rfl⟩, rfl, rfl, rfl, hselect, hselects⟩, projects vs rs qs,
    rfl, rfl, rfl, rfl, rfl, rfl, rfl, hcall, happly, hinput, houtput⟩

theorem isTuple (vs rs qs : List Value) : (Meaning.itself 0).IsTuple Datum.IsPlainKey
    LibraryClass.arrayTuple.className (handing vs rs qs) (.slots vs) := by
  have hmethods := methods_of_sameClasses (w := handing vs rs qs) ⟨rfl, rfl⟩
  simp only [answering, List.forall_mem_cons] at hmethods
  obtain ⟨-, -, -, -, -, -, -, -, -, -, -, -, -, -, hget, hput, -⟩ := hmethods
  exact ⟨hget, hput, none, vs, rfl, List.forall₂_same.mpr fun _ _ => rfl⟩

/-- Positions are keys. -/
theorem plain_positions (is : List Int) : ∀ ρ ∈ positions is, Datum.IsPlainKey ρ := by
  intro ρ hρ
  obtain ⟨i, -, rfl⟩ := List.mem_map.mp hρ
  exact ⟨.int i, rfl, rfl⟩

/-- Two values are handed on in a pair. -/
theorem result_handOn_pair {u : World} {l : Ref} {o : Option Ty} (hclasses : World.initial.SameClasses u)
    (hcell : u.heap[l]? = some (.object LibraryClass.identity.className o [])) (x y : Value) (n : Nat) :
    (Fields.handOn (.ofDepth (n + 2)) (.ref l) [x, y]).result u = (.ok (.ref u.heap.size),
      { u with heap := u.heap.push (.slots LibraryClass.tuple2.className none [x, y]) }) := by
  have hpack : (Fields.pack [x, y]).result u = _ :=
    result_alloc (.slots LibraryClass.tuple2.className none [x, y]) u
  have hlater := (Grows.push u (.slots LibraryClass.tuple2.className none [x, y])).heap hcell
  refine (result_bind_ok _ hpack).trans ?_
  exact Stepping.result_call_identity (u := { u with heap := u.heap.push _ })
    ⟨hclasses.hierarchy, hclasses.declarations⟩ hlater _ n

end Handing

/-- Two numbers of a tuple change places. -/
theorem swap_call_assigns :
    let w := handing [.int 10, .int 20, .int 30] [.int 0, .int 1] [.int 1, .int 0]
    ∃ w' t', (Dispatch.standard.call (.ref 6) [.ref 0]).result w = (.ok (.ref 0), w') ∧
      (Meaning.itself 0).IsTuple Datum.IsPlainKey LibraryClass.arrayTuple.className w' t' ∧
      (Contents.slots [.int 10, .int 20, .int 30]).Assigned Datum.IsPlainKey .none
        ((positions [1, 0]).zip [.int 10, .int 20]) t' := by
  intro w
  have ht := Handing.isTuple [.int 10, .int 20, .int 30] [.int 0, .int 1] [.int 1, .int 0]
  have hF := Handing.adaptsTuple [.int 10, .int 20, .int 30] [.int 0, .int 1] [.int 1, .int 0]
  -- the pair that the function is handed, and the list of its items
  let pair : Cell := .slots LibraryClass.tuple2.className none [.int 10, .int 20]
  let v : World := { w with heap := w.heap.push pair }
  have hv : w.Grows v := Grows.push w pair
  have hu := Grows.push v (.list [.int 10, .int 20])
  have hpair : v.heap[w.heap.size]? = some pair := Array.getElem?_push_size
  have hvalues := methods_of_sameClasses (w := v) ⟨rfl, rfl⟩ (.tuple2, "values", .arrayTuple)
    (by simp [answering])
  have htakes : ∀ ρ ∈ positions [1, 0],
      (Contents.slots [Value.int 10, Value.int 20, Value.int 30]).takes ρ = true := by
    simp [positions, Contents.takes, Contents.position?]
  have hhand (n : Nat) :=
    Handing.result_handOn_pair (u := w) (l := 1) (o := none) ⟨rfl, rfl⟩ rfl (.int 10) (.int 20) (n + 2)
  have hitems (n : Nat) := Dispatch.result_items_slots (n + 1) hpair hvalues
  have hcalls (n : Nat) := Fields.call_assigns (n := n) Datum.areKeys_plain ht hF
    (Stepping.key_positions w [0, 1]) (Handing.plain_positions _) rfl
    (fun ρ hρ => ⟨Handing.plain_positions _ ρ hρ, htakes ρ hρ⟩)
    (by decide) (by decide) (hhand n) (hF.later ht (.of_grows hv)) (hitems n)
    (ht.grows (hv.trans hu)) (Stepping.key_positions _ [1, 0]) rfl
  exact hcalls 994

end FunctionObjects
