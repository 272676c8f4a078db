import FunctionObjects.Proofs.Descriptor.Substitution
/-!
# Substitutions one after the other

Environments compose: the bindings of the first, with the second one substituted into them, come
before those of the second.  What a substitution makes of a descriptor is up to the variables that
occur in it, so it does no harm to bind only the collected parameters, all at once, and this is how a
parameterized form is given its arguments anew.
-/

namespace FunctionObjects

/-- The bindings of the first environment, into which the second one is substituted, and then those of
the second. -/
def TypeEnv.andThen (s₁ s₂ : TypeEnv) : TypeEnv :=
  s₁.map (fun (v, t) => (v, t.substitute s₂)) ++ s₂

theorem TypeEnv.lookup_andThen (s₁ s₂ : TypeEnv) (v : TypeVar) :
    (s₁.andThen s₂).lookup v = ((s₁.lookup v).map (Ty.substitute s₂)).or (s₂.lookup v) := by
  unfold TypeEnv.andThen
  induction s₁ with
  | nil => simp
  | cons e s₁ ih =>
    rw [List.map_cons, List.cons_append, List.lookup_cons, List.lookup_cons]
    cases v == e.1 with
    | true => rfl
    | false => exact ih

theorem TypeEnv.IsProper.andThen {s₁ s₂ : TypeEnv} (h₁ : s₁.IsProper) (h₂ : s₂.IsProper) :
    (s₁.andThen s₂).IsProper := by
  intro v t hv
  rw [TypeEnv.lookup_andThen] at hv
  cases hv₁ : s₁.lookup v with
  | none => exact h₂ v t (by simpa [hv₁] using hv)
  | some u =>
    obtain rfl : u.substitute s₂ = t := by simpa [hv₁] using hv
    exact (h₁ v u hv₁).substitute h₂

namespace Ty

variable {t : Ty} {ts : List Ty} {s s' s₁ s₂ : TypeEnv}

/-- A variable becomes what the second substitution makes of what the first one binds it to. -/
theorem substitute_andThen_var (s₁ s₂ : TypeEnv) (v : TypeVar) (b : Option Ty) :
    (Ty.var v b).substitute (s₁.andThen s₂) = ((s₁.lookup v).getD (.var v b)).substitute s₂ := by
  rw [substitute, TypeEnv.lookup_andThen]
  cases s₁.lookup v with
  | none => rfl
  | some t => rfl

mutual

/-- Only the variables that occur in a descriptor matter. -/
theorem substitute_congr : ∀ {t : Ty}, (∀ v b, .var v b ∈ t.occurrences →
    (Ty.var v b).substitute s = (Ty.var v b).substitute s') → t.substitute s = t.substitute s'
  | .var v b, h => h v b (List.mem_singleton_self _)
  | .app .literal _, _ => rfl
  | .app (.cls _) _, h | .app (.named _) _, h | .union .., h | .params _, h => by
    simp only [substitute, substituteAll_congr h]
  | .any, _ | .none, _ | .ellipsis, _ | .cls _, _ | .named _, _ | .form _, _ | .lit _, _
  | .forward _, _ => rfl

theorem substituteAll_congr : ∀ {ts : List Ty}, (∀ v b, .var v b ∈ occurrencesAll ts →
    (Ty.var v b).substitute s = (Ty.var v b).substitute s') → substituteAll s ts = substituteAll s' ts
  | [], _ => rfl
  | _ :: _, h => by
    rw [substituteAll, substituteAll, substitute_congr fun v b hv => h v b (List.mem_append_left _ hv),
      substituteAll_congr fun v b hv => h v b (List.mem_append_right _ hv)]

end

/-- A parameter of a list is bound to what a function makes of it. -/
theorem lookup_bind_map {ps : List Ty} {f : Ty → Ty} {v : TypeVar} {b : Option Ty}
    (hv : .var v b ∈ ps) : ∃ b', .var v b' ∈ ps ∧ (bind ps (ps.map f)).lookup v = some (f (.var v b')) := by
  induction ps with
  | nil => cases hv
  | cons p ps ih =>
    by_cases hp : ∃ b', p = .var v b'
    · obtain ⟨b', rfl⟩ := hp
      exact ⟨b', List.mem_cons_self, by simp [bind]⟩
    · have hskip : (bind (p :: ps) ((p :: ps).map f)).lookup v = (bind ps (ps.map f)).lookup v := by
        cases p with
        | var w b' =>
          have hvw : v ≠ w := fun h => hp ⟨b', by rw [h]⟩
          simp [bind, List.lookup_cons, beq_false_of_ne hvw]
        | _ => rfl
      obtain ⟨b', hmem, hlookup⟩ := ih <| (List.mem_cons.mp hv).resolve_left fun h => hp ⟨b, h.symm⟩
      exact ⟨b', List.mem_cons_of_mem _ hmem, hskip.trans hlookup⟩

/-- A substitution is the same as to bind just the parameters of a descriptor, each to what becomes of
it, provided that the variables of one name have one bound. -/
theorem substitute_bind_parameters (s : TypeEnv)
    (hone : ∀ v b b', .var v b ∈ t.occurrences → .var v b' ∈ t.occurrences → b = b') :
    t.substitute (bind t.parameters (t.parameters.map (substitute s))) = t.substitute s := by
  refine substitute_congr fun v b hv => ?_
  obtain ⟨p, hp, hsame⟩ : ∃ p ∈ t.parameters, (Ty.var v b).same p = true := exists_mem_distinct hv
  obtain ⟨b', rfl⟩ := var_same hsame
  obtain ⟨c, hc, hlookup⟩ := lookup_bind_map (f := substitute s) hp
  have hoccurs := (mem_of_mem_distinct hc).resolve_left (by simp)
  rw [hone v b c hv hoccurs, substitute, hlookup, Option.getD_some]

/-- Two substitutions in turn are a single one, by the environment that sends every variable to what
the second makes of what the first binds it to, up to the order of unions and to members that become
equal; and what a substitution gives depends only on what it binds the variables to that occur in the
descriptor.  Variables are bound to descriptors as they stand among arguments: there the value that
stands for the class of nothing is that class. -/
theorem substitute_composes (h₁ : s₁.IsProper) (h₂ : s₂.IsProper) (ht : t.Proper) :
    ((t.substitute s₁).substitute s₂).same (t.substitute (s₁.andThen s₂)) = true ∧
      (∀ v b, ((s₁.andThen s₂).lookup v).getD (.var v b) =
        ((s₁.lookup v).getD (.var v b)).substitute s₂) ∧
      ∀ s, (∀ v b, .var v b ∈ t.occurrences →
        (s.lookup v).getD (.var v b) = (s₁.lookup v).getD (.var v b)) →
          t.substitute s = t.substitute s₁ := by
  refine ⟨?_, substitute_andThen_var s₁ s₂, fun s hagree => substitute_congr hagree⟩
  refine substitute_substitute h₁ h₂ (h₁.andThen h₂) ht fun v b _ => ?_
  rw [substitute_andThen_var]
  exact same_refl _

/-- Either of two variables, or a list of the first. -/
def eitherOrList : Ty :=
  .union false [.var ⟨"", "A"⟩ Option.none, .var ⟨"", "B"⟩ Option.none,
    .app (.named .list) [.var ⟨"", "A"⟩ Option.none]]

/-- Two variables that become one. -/
def bothToOne : TypeEnv :=
  [(⟨"", "A"⟩, .var ⟨"", "C"⟩ Option.none), (⟨"", "B"⟩, .var ⟨"", "C"⟩ Option.none)]

/-- A variable that becomes a union. -/
def oneToUnion : TypeEnv :=
  [(⟨"", "C"⟩, .union true [.cls (.core "int"), .cls (.core "str")])]

/-- Members that the first substitution joins, and a union that the second one puts into a union. -/
theorem substitute_composes_joining :
    bothToOne.IsProper ∧ oneToUnion.IsProper ∧ eitherOrList.Proper ∧
      (eitherOrList.substitute bothToOne).members.length = 2 ∧
      ((eitherOrList.substitute bothToOne).substitute oneToUnion).same
        (eitherOrList.substitute (bothToOne.andThen oneToUnion)) = true ∧
      eitherOrList.substitute ((⟨"", "C"⟩, .any) :: bothToOne) = eitherOrList.substitute bothToOne := by
  have h₁ : bothToOne.IsProper := by
    refine TypeEnv.isProper_of_forall fun e he => ?_
    rcases List.mem_pair.mp he with rfl | rfl <;> exact ⟨trivial, rfl⟩
  have h₂ : oneToUnion.IsProper := by
    refine TypeEnv.isProper_of_forall fun e he => ?_
    obtain rfl := List.mem_singleton.mp he
    exact ⟨by simp [Proper, ProperAll, Apart, same, isUnion, asArgument, ClassName.core], rfl⟩
  have ht : eitherOrList.Proper := by
    simp [eitherOrList, Proper, ProperAll, Apart, same, isUnion, asArgument, Head.argument]
  obtain ⟨hsame, -, hagree⟩ := substitute_composes h₁ h₂ ht
  refine ⟨h₁, h₂, ht, rfl, hsame, hagree _ fun v b hv => ?_⟩
  have hne : v ≠ ⟨"", "C"⟩ := by
    rintro rfl
    simp [eitherOrList, occurrences, occurrencesAll] at hv
  rw [List.lookup_cons, beq_false_of_ne hne]

end Ty

end FunctionObjects
