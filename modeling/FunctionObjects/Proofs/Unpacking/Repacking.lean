import FunctionObjects.Proofs.Signature.Elements
import FunctionObjects.Proofs.Unpacking.Exact
/-!
# Packing a plain tuple again

A function of several values that is declared to give a tuple of a class that fixes the number of its
values may give a plain tuple instead, which is packed again.  The class into which it is packed goes
by the number of values that there are; that the declared class has as many values, or is that class,
is not looked at.
-/

namespace FunctionObjects

open Run Signature

/-- The class into which so many values are packed. -/
def packedClass (n : Nat) : LibraryClass := (PositionalTuple.fixedClass? n).getD .arrayTuple

namespace Classes

variable {k : Classes} {t : Ty} {C : ClassName} {n : Nat}

/-- A type is opened as what it stands for. -/
theorem ofTy_of_finalize (h : t.finalize.isVar = false) : ofTy k t = ofTy k t.finalize := by
  cases t with
  | var v b =>
    cases b with
    | none => simp [ofTy, Ty.finalize]
    | some b => exact ofFinal_eq_ofTy h
  | _ => rfl

/-- A class of a fixed number of values has that many positions, or those that are written behind it. -/
theorem exists_elements?_written (h : k.arity? C = some n) (args : List Ty) :
    ∃ ts, k.elements? (.written C args) = some ts := by
  cases args with
  | nil => exact ⟨List.replicate n .any, by simp [Ty.written, elements?, h]⟩
  | cons a as => exact ⟨a :: as, elements?_app (by simp [isTupleForm, h])⟩

theorem isVar_written (C : ClassName) (args : List Ty) : (Ty.written C args).isVar = false := by
  cases args <;> rfl

end Classes

namespace World

variable {w u : World} {C : ClassName} {f : Value} {n : Nat} {ys : List Value}

/-- Whether the output of a function is declared to be a tuple of a class that fixes its values to be
`n`. -/
structure DeclaresTuple (w : World) (f : Value) (C : ClassName) (n : Nat) : Prop where
  type : ∃ t args, w.declaredTypes .output f = .ok [t] ∧ t.finalize = .written C args
  arity : w.classes.arity? C = some n

theorem mem_mro_of_arity? (h : w.classes.arity? C = some n) :
    LibraryClass.fixedTuple.className ∈ w.hierarchy.mro C := by
  have hn : w.hierarchy.tupleArity? C = some n := h
  rw [Hierarchy.tupleArity?] at hn
  split at hn
  · simp_all
  · cases hn

theorem DeclaresTuple.declaresTuple (h : w.DeclaresTuple f C n) :
    Unpacked.declaresTuple w f = .ok true := by
  obtain ⟨t, args, ht, hfin⟩ := h.type
  obtain ⟨ts, hts⟩ := Classes.exists_elements?_written h.arity args
  have hvar : t.finalize.isVar = false := by rw [hfin, Classes.isVar_written]
  have hsig : w.signature .output f = .ok (.tuple (.written C args) (ofTypes w.classes ts)) := by
    rw [signature_of_type ht, Classes.ofTy_of_finalize hvar, hfin, Classes.ofTy_of_elements? hts]
  rw [Unpacked.declaresTuple, hsig]
  simp [bind, Except.bind, pure, Except.pure, isSubclass, mem_mro_of_arity? h.arity]

/-- Plain tuples are packed into the class that goes with the number of their values. -/
theorem DeclaresTuple.result_repack (h : w.DeclaresTuple f C n) (ys : List Value) :
    (Unpacked.repack f (.tuple ys)).result w = (.ok (.ref w.heap.size),
      { w with heap := w.heap.push (.slots (packedClass ys.length).className none ys) }) := by
  rw [Unpacked.repack, result_bind_ok _ (result_get w), h.declaresTuple]
  rfl

/-- None of the ancestors of classes of tuples fixes a number of values. -/
theorem IsExtended.arity?_untupled (hw : w.IsExtended)
    (hC : C ∈ [LibraryClass.arrayTuple.className, LibraryClass.tuple.className, ⟨"abc", "ABC"⟩,
      ClassTable.generic, .object]) : w.classes.arity? C = none := by
  obtain ⟨-, huntupled, -⟩ := initial_orders
  obtain ⟨i, hfind, hi⟩ := (Option.any_eq_true _ _).mp (huntupled C hC)
  exact hw.arity?_of_initial (Option.map_eq_some_iff.mpr ⟨i, hfind, rfl⟩) (by simpa using hi)

theorem IsExtended.arity?_fixedTuple (hw : w.IsExtended) :
    w.classes.arity? LibraryClass.fixedTuple.className = none := by
  obtain ⟨⟨harray, hfixed, -⟩, -⟩ := initial_orders
  obtain ⟨hmro, hown⟩ := hw.mro_of_initial hfixed
  obtain ⟨-, hcomputed⟩ := hw.mro_of_initial harray
  change w.hierarchy.tupleArity? _ = none
  simp [Hierarchy.tupleArity?, Hierarchy.arity?, hmro, hown, hcomputed]

/-- A class into which values are packed comes before its ancestors, and none of these fixes a number of
values. -/
theorem IsExtended.mro_packedClass (hw : w.IsExtended) (m : Nat) :
    ∃ rest, w.hierarchy.mro (packedClass m).className = (packedClass m).className :: rest ∧
      ∀ c ∈ rest, w.classes.arity? c = none := by
  cases hk : PositionalTuple.fixedClass? m with
  | none =>
    have hpacked : packedClass m = .arrayTuple := by rw [packedClass, hk, Option.getD_none]
    rw [hpacked, (hw.mro_of_initial initial_orders.1.1).1]
    refine ⟨_, rfl, fun c hc => hw.arity?_untupled ?_⟩
    exact List.mem_cons_of_mem _ hc
  | some k =>
    have hpacked : packedClass m = k := by rw [packedClass, hk, Option.getD_some]
    obtain ⟨hfixed, -⟩ := PositionalTuple.arity_of_fixedClass? hk
    rw [hpacked, (hw.mro_of_initial (initial_orders.1.2.2 k hfixed)).1]
    refine ⟨_, rfl, fun c hc => ?_⟩
    rcases List.mem_cons.mp hc with rfl | hc
    · exact hw.arity?_fixedTuple
    · exact hw.arity?_untupled hc

/-- Values that are packed are of a class that fixes their number only if it is the one that goes with
it. -/
theorem isSubclass_packedClass_iff (hw : w.IsExtended) (hn : w.classes.arity? C = some n) (m : Nat) :
    w.isSubclass (packedClass m).className C = true ↔ C = (packedClass m).className := by
  obtain ⟨rest, hmro, hrest⟩ := hw.mro_packedClass m
  rw [isSubclass, hmro, List.contains_iff_mem, List.mem_cons, or_iff_left]
  intro hmem
  rw [hrest C hmem] at hn
  cases hn

/-- The outcome of a call whose plain tuple of values is packed again as its type is declared: into a tuple
of the declared class if they are as many as it has, and else not at all. -/
def RepackedAs (C : ClassName) (n : Nat) (ys : List Value) (out : Except Fault Value × World) : Prop :=
  if ys.length = n then
    ∃ r c o, out.1 = .ok (.ref r) ∧ out.2.heap[r]? = some (.slots c o ys) ∧ out.2.isSubclass c C = true
  else ∃ name expected given, out.1 = .error (.arity name expected given)

/-- Values that have been packed are packed as declared only if the declared class is the one that goes
with their number. -/
theorem repackedAs_iff (hw : w.IsExtended) (hn : w.classes.arity? C = some n) :
    RepackedAs C n ys (.ok (.ref w.heap.size),
        { w with heap := w.heap.push (.slots (packedClass ys.length).className none ys) }) ↔
      ys.length = n ∧ C = (packedClass ys.length).className := by
  rw [RepackedAs]
  split
  · rename_i hlen
    rw [← isSubclass_packedClass_iff hw hn]
    constructor
    · rintro ⟨r, c, o, hr, hcell, hsub⟩
      obtain rfl := Value.ref.inj (Except.ok.inj hr)
      obtain ⟨rfl, -⟩ := Cell.slots.inj ((Option.some.inj (Array.getElem?_push_size.symm.trans hcell)))
      exact ⟨hlen, hsub⟩
    · rintro ⟨-, hsub⟩
      exact ⟨_, _, none, rfl, Array.getElem?_push_size, hsub⟩
  · rename_i hlen
    simp [hlen]

section

variable {u v : World} {d c : ClassName} {r g : Ref} {size : Option Nat} {o : Option Ty} {xs : List Value}
  {k m : Nat}

/-- What the method gives is packed once it has been called. -/
theorem IsNary.result_call_packed (hf : u.IsNary .function g d n) (hclass : u.SizedClass c size)
    (hcell : u.heap[r]? = some (.slots c o xs)) (hsize : ∀ n ∈ size, xs.length = n)
    (hlen : xs.length = n)
    (hbody : ((Dispatch.ofDepth (m + 1)).method (.ref g) "apply" xs).result
      { u with heap := u.heap.push (.list xs) } = (.ok (.tuple ys), v))
    (hdecl : v.DeclaresTuple (.ref g) C k) :
    ((Dispatch.ofDepth (m + 3)).call (.ref g) [.ref r]).result u = (.ok (.ref v.heap.size),
      { v with heap := v.heap.push (.slots (packedClass ys.length).className none ys) }) := by
  rw [hf.result_call_sized hclass hcell hsize m, if_pos hlen]
  exact (result_bind_ok _ hbody).trans (hdecl.result_repack ys)

/-- A function of several values that is declared to give a tuple of a class of `k` values, whose method
gives a plain tuple, gives a tuple of the class that goes with the number of values that there are.  That
is as declared exactly if there are `k` of them and the declared class is that class. -/
theorem call_repacked (hf : u.IsNary .function g d n) (hclass : u.SizedClass c size)
    (hcell : u.heap[r]? = some (.slots c o xs)) (hsize : ∀ n ∈ size, xs.length = n)
    (hlen : xs.length = n)
    (hbody : ((Dispatch.ofDepth (m + 1)).method (.ref g) "apply" xs).result
      { u with heap := u.heap.push (.list xs) } = (.ok (.tuple ys), v))
    (hv : v.IsExtended) (hdecl : v.DeclaresTuple (.ref g) C k) :
    ((Dispatch.ofDepth (m + 3)).call (.ref g) [.ref r]).result u = (.ok (.ref v.heap.size),
        { v with heap := v.heap.push (.slots (packedClass ys.length).className none ys) }) ∧
      (RepackedAs C k ys (((Dispatch.ofDepth (m + 3)).call (.ref g) [.ref r]).result u) ↔
        ys.length = k ∧ C = (packedClass ys.length).className) := by
  have hcall := hf.result_call_packed hclass hcell hsize hlen hbody hdecl
  refine ⟨hcall, ?_⟩
  rw [hcall]
  exact repackedAs_iff hv hdecl.arity

end

/-- What is declared to give a pair of numbers for two numbers. -/
def promised : ClassName := ⟨"promising", "Keep"⟩

/-- Behind the classes of the library there is one of functions of two numbers that promise a pair. -/
def promisingHierarchy : Hierarchy :=
  let int : Ty := .cls (.core "int")
  let bases : List Ty := [.app (.cls LibraryClass.function2.className) [int, int, pairOf int int]]
  { Hierarchy.initial with
    table := (Hierarchy.initial.table.declare? promised bases false [] none).getD Hierarchy.initial.table }

/-- The method of the class gives the same plain tuple for any two numbers. -/
def promisedDeclaration (ys : List Value) : Declaration :=
  let number (name : String) : Param := ⟨name, .standard, none, none⟩
  let method : Routine := ⟨"apply", [number "n", number "m"], none, .const (.tuple ys), none⟩
  ⟨promised, [("apply", method)], none, [], none, none⟩

/-- A function that promises a pair, and a pair of numbers. -/
def promising (ys : List Value) : World := { initial with
  heap := #[.object promised none [], .slots LibraryClass.tuple2.className none [.int 1, .int 2]]
  hierarchy := promisingHierarchy
  declarations := [promisedDeclaration ys] }

section

set_option maxRecDepth 20000

/-- Where the class is searched, what number of values it defines itself, and what it binds to the
parameters of functions. -/
theorem promisingHierarchy_finds :
    let int : Ty := .cls (.core "int")
    (promisingHierarchy.mro promised, (promisingHierarchy.info promised).arity,
        promisingHierarchy.resolveClass LibraryClass.function.className promised) =
      (promised :: ([LibraryClass.function2, .functionN, .function, .structural,
        .signatureChecks].map LibraryClass.className ++ [⟨"abc", "ABC"⟩, ClassTable.generic, .object]),
        none, some [pairOf int int, pairOf int int]) := by
  rfl

end

/-- A state in which the function that promises a pair is in cell 0. -/
structure Promises (u : World) (ys : List Value) : Prop where
  hierarchy : u.hierarchy = promisingHierarchy
  declarations : u.declarations = [promisedDeclaration ys]
  sites : u.sites = initialSites
  cell : u.heap[0]? = some (.object promised none [])

theorem promises_promising (ys : List Value) : (promising ys).Promises ys := ⟨rfl, rfl, rfl, rfl⟩

namespace Promises

variable (hu : u.Promises ys)

include hu

theorem isExtended : u.IsExtended := by
  rw [IsExtended, hu.hierarchy]
  unfold promisingHierarchy
  generalize Hierarchy.initial.table = t
  dsimp only
  cases hdecl : t.declare? promised _ false [] none with
  | none => rw [Option.getD_none]
  | some t' =>
    rw [Option.getD_some]
    exact ClassTable.prefix_declare? hdecl

theorem classOf : u.classOf (.ref 0) = promised := by simp [World.classOf, hu.cell]

theorem push (c : Cell) : ({ u with heap := u.heap.push c }).Promises ys where
  hierarchy := hu.hierarchy
  declarations := hu.declarations
  sites := hu.sites
  cell := by
    obtain ⟨hlt, hcell⟩ := Array.getElem?_eq_some_iff.mp hu.cell
    rw [Array.getElem?_push_lt hlt, hcell]

theorem mro : u.hierarchy.mro promised = promised :: ([LibraryClass.function2, .functionN, .function,
    .structural, .signatureChecks].map LibraryClass.className ++
      [⟨"abc", "ABC"⟩, ClassTable.generic, .object]) := by
  obtain ⟨hmro, -⟩ := Prod.mk.inj promisingHierarchy_finds
  rw [hu.hierarchy, hmro]

theorem declaration? : u.declaration? promised = some (promisedDeclaration ys) := by
  rw [World.declaration?, hu.declarations]
  rfl

/-- All but its method the class has from the classes behind it. -/
theorem ownMember? {name : String} (hname : name ≠ "apply") : u.ownMember? promised name = none := by
  have hnew : LibraryClass.ofClassName? promised = none := by decide
  obtain ⟨-, hrest⟩ := Prod.mk.inj promisingHierarchy_finds
  have harity : (u.hierarchy.info promised).arity = none := by
    rw [hu.hierarchy, (Prod.mk.inj hrest).1]
  have hmethods : (promisedDeclaration ys).methods.lookup name = none := by
    simp [promisedDeclaration, List.lookup_cons, beq_eq_false_iff_ne.mpr hname]
  rw [World.ownMember?, hnew]
  simp only [hu.declaration?, hmethods]
  simp [promisedDeclaration, ownMember?.arity?, harity]

theorem member? {name : String} {m : Member} (hname : name ∉ ["apply", "arity"])
    (hm : [LibraryClass.function2, .functionN, .function, .structural, .signatureChecks].findSome?
      (fun k => (k.member? name).map (Member.library k)) = some m) :
    u.member? promised name = some m := by
  simp only [List.mem_cons, List.not_mem_nil, or_false, not_or] at hname
  rw [World.member?, hu.mro, World.memberIn?, hu.ownMember? hname.1]
  exact memberIn?_of_order hname.2 hm _

theorem isNary : u.IsNary .function 0 promised 2 where
  call := hu.member? (by decide) rfl
  delegate := hu.member? (by decide) rfl
  arity := by
    rw [World.member?, hu.mro, World.memberIn?, hu.ownMember? (by decide), List.map_cons,
      List.cons_append, World.memberIn?, hu.isExtended.ownMember?_function2]
    rfl
  cell := ⟨none, [], hu.cell, rfl, rfl⟩

theorem attributes : u.attributes (.ref 0) = [] := by simp [World.attributes, World.cell?, hu.cell]

/-- The promise is found at the class of functions, since neither the object nor its class states types. -/
theorem siteTypes? : u.siteTypes? .output (.ref 0) =
    .ok (some [pairOf (.cls (.core "int")) (.cls (.core "int"))]) := by
  have hfunction : u.hierarchy.sub promised LibraryClass.function.className = true := by
    have hmem : (u.hierarchy.mro promised).contains LibraryClass.function.className = true := by
      rw [hu.mro]
      decide
    simp only [Hierarchy.sub, hmem, Bool.or_true, Bool.true_or]
  have harguments : u.typeArguments? (.ref 0) LibraryClass.function.className =
      some [pairOf (.cls (.core "int")) (.cls (.core "int")),
        pairOf (.cls (.core "int")) (.cls (.core "int"))] := by
    obtain ⟨-, hrest⟩ := Prod.mk.inj promisingHierarchy_finds
    have horigin : u.originAlias? (.ref 0) = none := by simp [originAlias?, World.cell?, hu.cell]
    simp only [typeArguments?, horigin, hu.classOf, hu.hierarchy, (Prod.mk.inj hrest).2]
  have hsite : u.siteClass (.ref 0) = promised := hu.classOf
  simp only [World.siteTypes?, hu.sites, initialSites, List.findSome?_cons, hsite, hfunction, if_true,
    harguments, Option.map_some]
  rfl

theorem declaredTypes : u.declaredTypes .output (.ref 0) =
    .ok [pairOf (.cls (.core "int")) (.cls (.core "int"))] := by
  have hname : Side.output.attribute = "output_types" := by decide
  have hunstated : u.member? promised "output_types" = some (.library .signatureChecks .unstated) :=
    hu.member? (by decide) rfl
  have hstated (inner : Side → Value → Except Fault (List Ty)) :
      u.statedTypes? inner .output (.ref 0) = .ok none := by
    simp only [statedTypes?, hu.classOf, hname, hunstated, hu.attributes]
    rfl
  rw [World.declaredTypes, typesWithin, recoveredTypes, hstated, hu.siteTypes?]
  rfl

theorem declaresTuple : u.DeclaresTuple (.ref 0) LibraryClass.tuple2.className 2 where
  type := ⟨_, [.cls (.core "int"), .cls (.core "int")], hu.declaredTypes, rfl⟩
  arity := (hu.isExtended.isTupleClass (n := 2) rfl).arity

/-- Its method gives the plain tuple. -/
theorem result_apply (m : Nat) (x y : Value) :
    ((Dispatch.ofDepth (m + 1)).method (.ref 0) "apply" [x, y]).result u = (.ok (.tuple ys), u) := by
  have hobject : Method.isObject u (.ref 0) = true := by simp [Method.isObject, World.cell?, hu.cell]
  have hown : u.ownMember? promised "apply" =
      ((promisedDeclaration ys).methods.lookup "apply").map .routine := by
    have hnew : LibraryClass.ofClassName? promised = none := by decide
    simp only [World.ownMember?, hnew, hu.declaration?]
    rfl
  change (Method.call (Dispatch.ofDepth m) (.ref 0) "apply" [x, y]).result u = _
  rw [Method.call, result_bind_ok _ (result_get u)]
  simp only [hobject, hu.classOf, hu.attributes, hu.mro, World.member?, World.memberIn?, hown,
    promisedDeclaration, List.lookup_cons, Method.inClasses, Bool.not_true]
  refine (result_bind_ok _ (result_get u)).trans ?_
  simp only [hown]
  rfl

end Promises

/-- Two values are packed into the pair that is promised. -/
theorem promised_repacked : RepackedAs LibraryClass.tuple2.className 2 [.int 3, .int 4]
    (((Dispatch.ofDepth 3).call (.ref 0) [.ref 1]).result (promising [.int 3, .int 4])) := by
  have hu := promises_promising [.int 3, .int 4]
  have hcell : (promising [.int 3, .int 4]).heap[1]? =
      some (.slots LibraryClass.tuple2.className none [.int 1, .int 2]) := rfl
  obtain ⟨-, hiff⟩ := call_repacked (m := 0) hu.isNary (hu.isExtended.sizedClass_fixed (n := 2) rfl) hcell
    (by simp) rfl ((hu.push _).result_apply 0 _ _) (hu.push _).isExtended (hu.push _).declaresTuple
  exact hiff.mpr ⟨rfl, rfl⟩

/-- Three values are packed as well, into a tuple of three, where a pair is promised. -/
theorem not_repacked :
    ¬ ∀ (u v : World) (g r : Ref) (d c C : ClassName) (size : Option Nat) (o : Option Ty) (n k m : Nat)
      (xs ys : List Value), u.IsNary .function g d n → u.SizedClass c size →
      u.heap[r]? = some (.slots c o xs) → (∀ n ∈ size, xs.length = n) → xs.length = n →
      ((Dispatch.ofDepth (m + 1)).method (.ref g) "apply" xs).result
        { u with heap := u.heap.push (.list xs) } = (.ok (.tuple ys), v) →
      v.IsExtended → v.DeclaresTuple (.ref g) C k →
      RepackedAs C k ys (((Dispatch.ofDepth (m + 3)).call (.ref g) [.ref r]).result u) := by
  intro h
  have hu := promises_promising [.int 3, .int 4, .int 5]
  have hcell : (promising [.int 3, .int 4, .int 5]).heap[1]? =
      some (.slots LibraryClass.tuple2.className none [.int 1, .int 2]) := rfl
  have hclass := hu.isExtended.sizedClass_fixed (n := 2) (k := .tuple2) rfl
  have hbody := (hu.push (.list [.int 1, .int 2])).result_apply 0 (.int 1) (.int 2)
  have hdecl := (hu.push (.list [.int 1, .int 2])).declaresTuple
  have hrepacked := h _ _ 0 1 _ _ _ _ _ 2 2 0 _ _ hu.isNary hclass hcell (by simp) rfl hbody
    (hu.push _).isExtended hdecl
  rw [hu.isNary.result_call_packed hclass hcell (by simp) rfl hbody hdecl,
    repackedAs_iff (hu.push _).isExtended hdecl.arity] at hrepacked
  exact absurd hrepacked.1 (by decide)

end World

end FunctionObjects
