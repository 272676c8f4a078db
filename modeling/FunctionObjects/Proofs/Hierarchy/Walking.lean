import Mathlib.Logic.Relation
import FunctionObjects.Signature.Resolution
import FunctionObjects.Proofs.Descriptor.Substitution
/-!
# The walk along the bases

From a class the walk follows the bases that lead to a target, and each class on the way binds its
parameters to descriptors over those of the class before.  Two walks from one class only differ in
what its parameters are bound to: if a substitution takes one environment to the other, it takes what
one walk finds to what the other one finds.

Every class stands behind its bases in the table, so the bound on the length of the walk is never met.
-/

namespace FunctionObjects

namespace Ty

variable {t : Ty} {ps as : List Ty} {v : TypeVar} {b : Option Ty}

/-- A descriptor whose variables are all among some parameters. -/
def Over (ps : List Ty) (t : Ty) : Prop := ∀ v b, .var v b ∈ t.occurrences → ∃ b', .var v b' ∈ ps

/-- Parameters are bound to arguments position by position. -/
theorem lookup_bind (hps : ∀ p ∈ ps, p.isVar = true) (hlen : as.length = ps.length)
    (hv : .var v b ∈ ps) : ∃ a ∈ as, ∀ f : Ty → Ty, (bind ps (as.map f)).lookup v = some (f a) := by
  induction ps generalizing as with
  | nil => cases hv
  | cons p ps ih =>
    obtain ⟨a, as, rfl⟩ := List.exists_cons_of_length_eq_add_one hlen
    have hp := hps p List.mem_cons_self
    cases p <;> simp only [isVar, Bool.false_eq_true] at hp
    rename_i v' b'
    by_cases hvv' : v = v'
    · subst hvv'
      exact ⟨a, List.mem_cons_self, fun f => by simp [bind]⟩
    · have hv : .var v b ∈ ps := by simpa [hvv'] using hv
      obtain ⟨a', ha', hlookup⟩ := ih (fun p hp => hps p (List.mem_cons_of_mem _ hp))
        (Nat.succ.inj hlen) hv
      refine ⟨a', List.mem_cons_of_mem _ ha', fun f => ?_⟩
      have hcons : bind (.var v' b' :: ps) ((a :: as).map f) = (v', f a) :: bind ps (as.map f) := rfl
      rw [hcons, List.lookup_cons, beq_false_of_ne hvv', hlookup f]

theorem isProper_bind (has : ∀ a ∈ as, a.IsArgument) : (bind ps as).IsProper := by
  refine TypeEnv.isProper_of_forall fun e he => ?_
  obtain ⟨⟨p, a⟩, hpa, heq⟩ := List.mem_filterMap.mp he
  have ha := has a (List.of_mem_zip hpa).2
  cases p <;> simp only [reduceCtorEq, Option.some.injEq] at heq
  exact heq ▸ ha

end Ty

namespace Hierarchy

open Ty Relation

variable {h : Hierarchy} {target c d e : ClassName} {n m : Nat} {env env' σ : TypeEnv}

/-- The bases through which a class leads to a target, each with the class behind it. -/
def leading (h : Hierarchy) (target c : ClassName) : List (Ty × ClassName) :=
  (h.ownBases c).filterMap fun b =>
    b.originClass?.bind fun e => if h.sub e target then some (b, e) else none

theorem walk_succ (h : Hierarchy) (target : ClassName) (n : Nat) (c : ClassName) (env : TypeEnv) :
    h.walk target (n + 1) c env =
      if c = target then some ((h.info target).params.map (substitute env))
      else (h.leading target c).findSome? fun (b, e) =>
        h.walk target n e (bind (h.info e).params (b.args.map (substitute env))) := by
  simp only [walk, leading, beq_iff_eq]
  refine ite_congr rfl (fun _ => rfl) fun _ => ?_
  rw [← List.head?_filterMap, ← List.head?_filterMap, List.filterMap_filterMap]
  congr 2
  funext b
  cases b.originClass? with
  | none => rfl
  | some e => by_cases hsub : h.sub e target = true <;> simp [hsub]

/-- One step of the walk. -/
def Leads (h : Hierarchy) (target c e : ClassName) : Prop :=
  c ≠ target ∧ ∃ b, (b, e) ∈ h.leading target c

/-- The walk stays among some classes that lead to no others. -/
theorem mem_of_leads {cs : List ClassName}
    (hcs : ∀ c ∈ cs, ∀ b e, (b, e) ∈ h.leading target c → e ∈ cs) (hc : c ∈ cs)
    (hway : ReflTransGen (h.Leads target) c d) : d ∈ cs := by
  induction hway with
  | refl => exact hc
  | tail _ hstep ih =>
    obtain ⟨-, b, hb⟩ := hstep
    exact hcs _ ih b _ hb

/-- The place of a class in the table; an unknown class is behind all others. -/
def rank (h : Hierarchy) (c : ClassName) : Nat := h.table.findIdx (·.name == c)

/-- Every class stands behind its bases. -/
def Founded (h : Hierarchy) : Prop :=
  ∀ c, ∀ b ∈ h.ownBases c, ∀ e, b.originClass? = some e → h.rank e < h.rank c

theorem rank_le (h : Hierarchy) (c : ClassName) : h.rank c ≤ h.table.length := List.findIdx_le_length

theorem Founded.leads (hf : h.Founded) {b : Ty} (hb : (b, e) ∈ h.leading target c) :
    h.rank e < h.rank c := by
  obtain ⟨b', hb', heq⟩ := List.mem_filterMap.mp hb
  obtain ⟨e', he', heq⟩ := Option.bind_eq_some_iff.mp heq
  split at heq
  · simp only [Option.some.injEq, Prod.mk.injEq] at heq
    exact hf c b' hb' e (heq.2 ▸ he')
  · cases heq

/-- A longer walk finds nothing else once there are as many steps as classes below. -/
theorem walk_stable (hf : h.Founded) (hn : h.rank c < n) (hm : h.rank c < m) :
    h.walk target n c env = h.walk target m c env := by
  induction n generalizing m c env with
  | zero => omega
  | succ n ih =>
    obtain ⟨m, rfl⟩ : ∃ k, m = k + 1 := ⟨m - 1, by omega⟩
    rw [walk_succ, walk_succ]
    refine ite_congr rfl (fun _ => rfl) fun _ => ?_
    rw [← List.head?_filterMap, ← List.head?_filterMap]
    refine congrArg List.head? (List.filterMap_congr fun (b, e) hb => ?_)
    have hlt := hf.leads hb
    exact ih (by omega) (by omega)

/-- A walk arrives if there is a way. -/
theorem walk_isSome (hf : h.Founded) (hway : ReflTransGen (h.Leads target) c target)
    (hn : h.rank c < n) : (h.walk target n c env).isSome = true := by
  induction hway using ReflTransGen.head_induction_on generalizing n env with
  | refl =>
    obtain ⟨n, rfl⟩ : ∃ k, n = k + 1 := ⟨n - 1, by omega⟩
    simp [walk_succ]
  | head hstep _ ih =>
    obtain ⟨n, rfl⟩ : ∃ k, n = k + 1 := ⟨n - 1, by omega⟩
    obtain ⟨hne, b, hb⟩ := hstep
    have hlt := hf.leads hb
    rw [walk_succ, if_neg hne, List.findSome?_isSome_iff]
    exact ⟨_, hb, ih (by omega)⟩

/-- A class whose bases towards a target are given arguments for all their parameters, over the
parameters of the class. -/
structure Subscripts (h : Hierarchy) (target c : ClassName) : Prop where
  vars : ∀ p ∈ (h.info c).params, p.isVar = true
  length : ∀ b e, (b, e) ∈ h.leading target c → b.args.length = (h.info e).params.length
  args : ∀ b e, (b, e) ∈ h.leading target c →
    ∀ t ∈ b.args, t.IsArgument ∧ t.Over (h.info c).params

/-- A substitution takes what one environment makes of some parameters to what another one does. -/
def Takes (σ env env' : TypeEnv) (ps : List Ty) : Prop :=
  ∀ v b, .var v b ∈ ps → ∀ b',
    (((Ty.var v b').substitute env).substitute σ).same ((Ty.var v b').substitute env') = true

/-- Searches that find related things everywhere find related things. -/
theorem findSome?_rel {α β : Type} {R : β → β → Prop} {f g : α → Option β} : ∀ {as : List α},
    (∀ a ∈ as, (f a).Rel R (g a)) → (as.findSome? f).Rel R (as.findSome? g)
  | [], _ => .none
  | a :: as, hrel => by
    have hhead := hrel a List.mem_cons_self
    rw [List.findSome?_cons, List.findSome?_cons]
    generalize hfa : f a = x at hhead
    generalize hga : g a = y at hhead
    cases hhead with
    | some hr => exact .some hr
    | none => exact findSome?_rel fun a ha => hrel a (List.mem_cons_of_mem _ ha)

/-- What one base binds is taken along by a substitution that takes along the environments. -/
theorem Subscripts.takes (hc : h.Subscripts target c) (he : h.Subscripts target e) {b : Ty}
    (hb : (b, e) ∈ h.leading target c) (hσ : σ.IsProper) (henv : env.IsProper) (henv' : env'.IsProper)
    (htakes : Takes σ env env' (h.info c).params) :
    Takes σ (bind (h.info e).params (b.args.map (substitute env)))
      (bind (h.info e).params (b.args.map (substitute env'))) (h.info e).params := by
  intro v bound hv bound'
  obtain ⟨t, ht, hlookup⟩ := lookup_bind he.vars (hc.length b e hb) hv
  obtain ⟨harg, hover⟩ := hc.args b e hb t ht
  simp only [substitute, hlookup, Option.getD_some]
  refine substitute_substitute henv hσ henv' harg.1 fun w bw hw => ?_
  obtain ⟨bw', hw'⟩ := hover w bw hw
  exact htakes w bw' hw' bw

theorem Subscripts.isProper (hc : h.Subscripts target c) {b : Ty} (hb : (b, e) ∈ h.leading target c)
    (henv : env.IsProper) : (bind (h.info e).params (b.args.map (substitute env))).IsProper := by
  refine isProper_bind fun a ha => ?_
  obtain ⟨t, ht, rfl⟩ := List.mem_map.mp ha
  exact (hc.args b e hb t ht).1.substitute henv

/-- What two walks find is taken along as well. -/
theorem walk_substitute (hσ : σ.IsProper)
    (hsub : ∀ d, ReflTransGen (h.Leads target) c d → h.Subscripts target d)
    (henv : env.IsProper) (henv' : env'.IsProper) (htakes : Takes σ env env' (h.info c).params) :
    (h.walk target n c env).Rel (fun ts us => allSame (ts.map (substitute σ)) us = true)
      (h.walk target n c env') := by
  induction n generalizing c env env' with
  | zero => exact .none
  | succ n ih =>
    have hc := hsub c .refl
    rw [walk_succ, walk_succ]
    split
    · rename_i heq
      subst heq
      refine .some ?_
      rw [List.map_map]
      refine allSame_map fun p hp => ?_
      have hvar := hc.vars p hp
      cases p <;> simp only [isVar, Bool.false_eq_true] at hvar
      exact htakes _ _ hp _
    · rename_i hne
      refine findSome?_rel fun p hb => ?_
      obtain ⟨b, e⟩ := p
      have hsub' : ∀ d, ReflTransGen (h.Leads target) e d → h.Subscripts target d :=
        fun d hway => hsub d (.head ⟨hne, b, hb⟩ hway)
      exact ih hsub' (hc.isProper hb henv) (hc.isProper hb henv')
        (hc.takes (hsub' e .refl) hb hσ henv henv' htakes)

end Hierarchy

end FunctionObjects
