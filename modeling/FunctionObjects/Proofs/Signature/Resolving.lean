import FunctionObjects.Call.Evaluate
import FunctionObjects.Proofs.Hierarchy.Founding
import FunctionObjects.Signature.Recovery
/-!
# Resolving type arguments

What a generic class binds to the parameters of a target, and what it binds once its own parameters
are given arguments: by an object that is made through the parameterized form, or by a class that is
declared below it.  Both are the same, and the substitution of the arguments into what the class by
itself binds.
-/

namespace FunctionObjects

open Ty Relation Run

namespace Hierarchy

variable {h : Hierarchy} {target c d e : ClassName} {args : List Ty} {form : Ty} {n : Nat}

/-- A class with a form as its first base towards a target, or with nothing there but such a class. -/
inductive Extends (h : Hierarchy) (target : ClassName) (form : Ty) : ClassName → Prop
  | direct {d e : ClassName} : (h.leading target d).head? = some (form, e) → Extends h target form d
  | plain {d e : ClassName} : (h.leading target d).head? = some (.cls e, e) →
      Extends h target form e → Extends h target form d

theorem originClass?_of_leading {b : Ty} (hb : (b, e) ∈ h.leading target c) :
    b.originClass? = some e := by
  obtain ⟨b', -, heq⟩ := List.mem_filterMap.mp hb
  obtain ⟨e', he', heq⟩ := Option.bind_eq_some_iff.mp heq
  split at heq
  · simp only [Option.some.injEq, Prod.mk.injEq] at heq
    rw [← heq.1, ← heq.2, he']
  · cases heq

theorem Founded.rank_le_of_leads (hf : h.Founded) (hway : ReflTransGen (h.Leads target) c d) :
    h.rank d ≤ h.rank c := by
  induction hway with
  | refl => exact Nat.le_refl _
  | tail _ hstep ih =>
    obtain ⟨-, b, hb⟩ := hstep
    have hlt := hf.leads hb
    omega

theorem Extends.rank_lt (hd : h.Extends target (.app (.cls c) args) d) (hf : h.Founded) :
    h.rank c < h.rank d := by
  induction hd with
  | direct hhead =>
    have hb := List.mem_of_mem_head? hhead
    obtain rfl := Option.some.inj (originClass?_of_leading hb)
    exact hf.leads hb
  | plain hhead _ ih =>
    have hlt := hf.leads (List.mem_of_mem_head? hhead)
    omega

/-- A walk goes on from the first base that leads to the target, if it arrives from there. -/
theorem walk_of_head? {b : Ty} (env : TypeEnv) (hne : c ≠ target)
    (hb : (h.leading target c).head? = some (b, e))
    (hsome : (h.walk target n e (bind (h.info e).params (b.args.map (substitute env)))).isSome) :
    h.walk target (n + 1) c env =
      h.walk target n e (bind (h.info e).params (b.args.map (substitute env))) := by
  obtain ⟨rest, hrest⟩ := List.head?_eq_some_iff.mp hb
  obtain ⟨ts, hts⟩ := Option.isSome_iff_exists.mp hsome
  rw [walk_succ, if_neg hne, hrest, List.findSome?_cons]
  simp only [hts]

/-- A class below a parameterized form finds what the form binds. -/
theorem walk_of_extends (hf : h.Founded) (hway : ReflTransGen (h.Leads target) c target)
    (hargs : ∀ t ∈ args, t.IsArgument) (hd : h.Extends target (.app (.cls c) args) d)
    (hn : h.rank d < n) :
    h.walk target n d [] =
      h.walk target (h.table.length + 1) c (bind (h.info c).params args) := by
  have htarget := hf.rank_le_of_leads hway
  have hrank := h.rank_le c
  induction hd generalizing n with
  | @direct d e hhead =>
    have hb := List.mem_of_mem_head? hhead
    obtain rfl := Option.some.inj (originClass?_of_leading hb)
    have hlt := hf.leads hb
    have hne : d ≠ target := by
      rintro rfl
      omega
    obtain ⟨n, rfl⟩ : ∃ k, n = k + 1 := ⟨n - 1, by omega⟩
    rw [walk_of_head? [] hne hhead (walk_isSome hf hway (by omega)),
      walk_stable hf (m := h.table.length + 1) (by omega) (by omega)]
    have hsame : args.map (substitute []) = args :=
      (List.map_congr_left fun t ht => substitute_nil (hargs t ht).1).trans (List.map_id _)
    rw [Ty.args, hsame]
  | @plain d e hhead hd ih =>
    have hlt := hf.leads (List.mem_of_mem_head? hhead)
    have hbelow := hd.rank_lt hf
    have hne : d ≠ target := by
      rintro rfl
      omega
    obtain ⟨n, rfl⟩ : ∃ k, n = k + 1 := ⟨n - 1, by omega⟩
    have hrest := ih (n := n) (by omega)
    have hnil : Ty.bind (h.info e).params ((Ty.cls e).args.map (substitute [])) = [] := by
      simp [Ty.args, Ty.bind]
    have hstep := walk_of_head? (n := n) [] hne hhead
    rw [hnil, hrest] at hstep
    exact hstep (walk_isSome hf hway (by omega))

end Hierarchy

namespace World

variable {w w' : World} {target c d : ClassName} {args : List Ty} {v : Value}

/-- An object that a form makes carries the form, if it carries any. -/
theorem originAlias?_ofType {disp : Dispatch} {as : Arguments}
    (h : (Construction.ofType disp (.app (.cls c) args) as).result w = (.ok v, w')) :
    w'.originAlias? v = Option.none ∨ w'.originAlias? v = some (.app (.cls c) args) := by
  obtain ⟨v', u, -, h⟩ := result_bind_eq_ok.mp h
  obtain ⟨⟨⟩, u', hmark, h⟩ := result_bind_eq_ok.mp h
  obtain ⟨rfl, rfl⟩ : v' = v ∧ u' = w' := by simpa using h
  cases v' with
  | ref r =>
    simp only [Construction.mark] at hmark
    rw [result_bind_ok _ (result_cell? r u)] at hmark
    -- Of the cells only objects of the three layouts take a mark.
    cases hcell : u.heap[r]? with
    | none =>
      rw [hcell, result_pure] at hmark
      obtain rfl : u = u' := (Prod.mk.inj hmark).2
      simp [originAlias?, World.cell?, hcell]
    | some cell =>
      obtain ⟨hr, -⟩ := Array.getElem?_eq_some_iff.mp hcell
      cases cell with
      | object | slots | fields =>
        rw [hcell, result_write] at hmark
        obtain rfl := (Prod.mk.inj hmark).2
        simp [originAlias?, World.cell?, hr]
      | _ =>
        rw [hcell, result_pure] at hmark
        obtain rfl : u = u' := (Prod.mk.inj hmark).2
        simp [originAlias?, World.cell?, hcell]
  | _ => exact .inl rfl

theorem resolve_cls (htarget : w.hierarchy.answers target = true) :
    w.resolve v (.cls target) = .ok (w.typeArguments? v target) := by
  simp [resolve, htarget, pure, Except.pure]

theorem typeArguments?_of_originAlias? {t : Ty} (hv : w.originAlias? v = some t) :
    w.typeArguments? v target = w.hierarchy.resolveAlias target t := by
  cases v with
  | ref r => simp [typeArguments?, hv]
  | _ => cases hv

/-- An object that is made through a parameterized form binds what a class declared below the form does,
and both bind what the bare class does with its parameters replaced by the arguments. -/
theorem resolve_form (hf : w.hierarchy.Founded) (htarget : w.hierarchy.answers target = true)
    (hway : ReflTransGen (w.hierarchy.Leads target) c target)
    (hsub : ∀ e, ReflTransGen (w.hierarchy.Leads target) c e → w.hierarchy.Subscripts target e)
    (hargs : ∀ t ∈ args, t.IsArgument) (hv : w.originAlias? v = some (.app (.cls c) args))
    (hd : w.hierarchy.Extends target (.app (.cls c) args) d) :
    ∃ bare bound, w.resolve (.atom (.type (.cls c))) (.cls target) = .ok (some bare) ∧
      w.resolve v (.cls target) = .ok (some bound) ∧
      w.resolve (.atom (.type (.cls d))) (.cls target) = .ok (some bound) ∧
      allSame (bare.map (substitute (Ty.bind (w.hierarchy.info c).params args))) bound = true := by
  have hrank (e : ClassName) : w.hierarchy.rank e < w.hierarchy.table.length + 1 :=
    Nat.lt_succ_of_le (w.hierarchy.rank_le e)
  have hproper : (Ty.bind (w.hierarchy.info c).params args).IsProper := isProper_bind hargs
  have hempty : TypeEnv.IsProper [] := fun v t hv => by cases hv
  have hrel := Hierarchy.walk_substitute (n := w.hierarchy.table.length + 1) hproper hsub hempty hproper
    fun v b _ b' => same_refl _
  have harrives (env : TypeEnv) :
      ∃ ts, w.hierarchy.walk target (w.hierarchy.table.length + 1) c env = some ts :=
    Option.isSome_iff_exists.mp (Hierarchy.walk_isSome hf hway (hrank c))
  obtain ⟨bare, hbare⟩ := harrives []
  obtain ⟨bound, hbound⟩ := harrives (Ty.bind (w.hierarchy.info c).params args)
  have hbelow := (Hierarchy.walk_of_extends hf hway hargs hd (hrank d)).trans hbound
  rw [hbare, hbound, Option.rel_some_some] at hrel
  refine ⟨bare, bound, ?_, ?_, ?_, hrel⟩
  · rw [resolve_cls htarget]
    exact congrArg _ hbare
  · rw [resolve_cls htarget, typeArguments?_of_originAlias? hv]
    exact congrArg _ hbound
  · rw [resolve_cls htarget]
    exact congrArg _ hbelow

/-- Classes whose parameters are swapped, used again under a container and dropped on the way to a step
from one type to another, and two classes below a form of the last one. -/
def relayed : List (ClassName × List Ty) :=
  let param (s : String) : Ty := .var ⟨"relay", s⟩ Option.none
  let generic (ts : List Ty) : Ty := .app (.cls ClassTable.generic) ts
  let form (s : String) (ts : List Ty) : Ty := .app (.cls ⟨"relay", s⟩) ts
  let optional (t : Ty) : Ty := .union false [t, .noneType]
  let T := param "T"
  let U := param "U"
  [(.object, []), (ClassTable.generic, []), (.core "int", []), (.core "str", []), (.core "bytes", []),
    (⟨"relay", "Pair"⟩, [generic [T, U]]),
    (⟨"relay", "Step"⟩, [generic [param "I", param "O"]]),
    (⟨"relay", "Swap"⟩, [form "Step" [form "Pair" [U, T], optional T]]),
    (⟨"relay", "Echo"⟩, [form "Swap" [.app (.named .list) [U], T], generic [T, U, param "V"]]),
    (⟨"relay", "Fixed"⟩, [form "Echo" [optional (.cls (.core "str")), .cls (.core "int"),
      .cls (.core "bytes")]]),
    (⟨"relay", "Last"⟩, [.cls ⟨"relay", "Fixed"⟩])]

def relay : World where
  heap := #[]
  hierarchy :=
    ⟨relayed.foldl (fun t (c, bases) => (t.declare? c bases false [] Option.none).getD t) [], [], []⟩
  declarations := [⟨⟨"relay", "Echo"⟩, [], Option.none, [], Option.none, Option.none⟩]
  sites := []
  registry := ⟨[], []⟩
  trace := []
  log := []
  clock := .none

theorem relay_leading :
    relay.hierarchy.leading ⟨"relay", "Step"⟩ ⟨"relay", "Echo"⟩ =
      [(.app (.cls ⟨"relay", "Swap"⟩) [.app (.named .list) [.var ⟨"relay", "U"⟩ Option.none],
        .var ⟨"relay", "T"⟩ Option.none], ⟨"relay", "Swap"⟩)] ∧
    relay.hierarchy.leading ⟨"relay", "Step"⟩ ⟨"relay", "Swap"⟩ =
      [(.app (.cls ⟨"relay", "Step"⟩) [.app (.cls ⟨"relay", "Pair"⟩) [.var ⟨"relay", "U"⟩ Option.none,
        .var ⟨"relay", "T"⟩ Option.none], .union false [.var ⟨"relay", "T"⟩ Option.none, .noneType]],
        ⟨"relay", "Step"⟩)] ∧
    relay.hierarchy.leading ⟨"relay", "Step"⟩ ⟨"relay", "Step"⟩ = [] := ⟨rfl, rfl, rfl⟩

theorem relay_params :
    (relay.hierarchy.info ⟨"relay", "Echo"⟩).params = [.var ⟨"relay", "T"⟩ Option.none,
      .var ⟨"relay", "U"⟩ Option.none, .var ⟨"relay", "V"⟩ Option.none] ∧
    (relay.hierarchy.info ⟨"relay", "Swap"⟩).params = [.var ⟨"relay", "U"⟩ Option.none,
      .var ⟨"relay", "T"⟩ Option.none] := ⟨rfl, rfl⟩

theorem relay_subscripts {e : ClassName}
    (hway : ReflTransGen (relay.hierarchy.Leads ⟨"relay", "Step"⟩) ⟨"relay", "Echo"⟩ e) :
    relay.hierarchy.Subscripts ⟨"relay", "Step"⟩ e := by
  obtain ⟨hecho, hswap, hstep⟩ := relay_leading
  have hmem : e ∈ [⟨"relay", "Echo"⟩, ⟨"relay", "Swap"⟩, ⟨"relay", "Step"⟩] := by
    refine Hierarchy.mem_of_leads ?_ List.mem_cons_self hway
    simp [hecho, hswap, hstep]
  simp only [List.mem_cons, List.not_mem_nil, or_false] at hmem
  rcases hmem with rfl | rfl | rfl
  · refine ⟨by decide, ?_, ?_⟩
    · simp [hecho, Ty.args, relay_params]
    · simp [hecho, relay_params, Ty.args, IsArgument, Proper, ProperAll, Over, occurrences,
        occurrencesAll, Head.argument, Ty.asArgument]
  · refine ⟨by decide, ?_, ?_⟩
    · simp only [hswap, List.mem_singleton, Prod.mk.injEq]
      rintro b e ⟨rfl, rfl⟩
      rfl
    · simp [hswap, relay_params, Ty.args, IsArgument, Proper, ProperAll, Over, occurrences,
        occurrencesAll, Head.argument, Ty.asArgument, Apart, isUnion, Ty.noneType]
      exact ⟨fun v b hv => ⟨b, hv⟩, rfl⟩
  · exact ⟨by decide, by simp [hstep], by simp [hstep]⟩

/-- An object of a form of `Echo`, and `Last`, two classes below that form. -/
theorem relay_form :
    let args := [Ty.union false [.cls (.core "str"), .noneType], .cls (.core "int"),
      .cls (.core "bytes")]
    let form := Ty.app (.cls ⟨"relay", "Echo"⟩) args
    let step : Ty := .cls ⟨"relay", "Step"⟩
    let w := { relay with heap := #[.object ⟨"relay", "Echo"⟩ (some form) []] }
    (Construction.ofType .standard form (.ofList [])).result relay = (.ok (.ref 0), w) ∧
    ∃ bare bound, w.resolve (.atom (.type (.cls ⟨"relay", "Echo"⟩))) step = .ok (some bare) ∧
      w.resolve (.ref 0) step = .ok (some bound) ∧
      w.resolve (.atom (.type (.cls ⟨"relay", "Last"⟩))) step = .ok (some bound) ∧
      allSame (bare.map (substitute (Ty.bind (w.hierarchy.info ⟨"relay", "Echo"⟩).params args)))
        bound = true := by
  intro args form step w
  obtain ⟨hecho, hswap, -⟩ := relay_leading
  have hf : w.hierarchy.Founded := Hierarchy.founded_of_isOrdered (by decide +kernel)
  have hargs : ∀ t ∈ args, t.IsArgument := by
    simp [args, IsArgument, Proper, ProperAll, Apart, isUnion, Ty.asArgument, Ty.noneType]
    rfl
  have hway : ReflTransGen (w.hierarchy.Leads ⟨"relay", "Step"⟩) ⟨"relay", "Echo"⟩ ⟨"relay", "Step"⟩ :=
    .head ⟨by decide, _, by rw [hecho]; exact List.mem_cons_self⟩
      (.head ⟨by decide, _, by rw [hswap]; exact List.mem_cons_self⟩ .refl)
  have hlast : w.hierarchy.Extends ⟨"relay", "Step"⟩ form ⟨"relay", "Last"⟩ :=
    .plain (e := ⟨"relay", "Fixed"⟩) rfl (.direct (e := ⟨"relay", "Echo"⟩) rfl)
  exact ⟨rfl, resolve_form hf rfl hway (fun _ => relay_subscripts) hargs rfl hlast⟩

end World

end FunctionObjects
