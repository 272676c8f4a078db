import FunctionObjects.Proofs.Document.Kept
import FunctionObjects.Proofs.Document.Properties
import FunctionObjects.Proofs.Signature.Delegating
import FunctionObjects.Proofs.State.Holding
/-!
# Signatures of equal data

Types are read of what a function holds and of its class, and of nothing else.  Function objects that hold
the same kept data, and were all made directly, have the same signatures, also in different states, as long
as classes, declarations and declaration sites are the same.
-/

namespace FunctionObjects

open World LibraryClass

namespace Datum

/-- The items of a list or a tuple. -/
def sequence? : Datum → Option (List Datum)
  | .list ts => some ts
  | .tuple ts => some ts
  | _ => Option.none

/-- What an object holds of which it may take a side: the items of its functions, and its predicate. -/
def partners (as : List (String × Datum)) : List Datum :=
  ((as.lookup "functions").bind sequence?).getD [] ++ (as.lookup "predicate").toList

end Datum

namespace World

/-- States in which the same types are read of the same data. -/
structure SameTypes (w v : World) : Prop extends w.SameClasses v where
  sites : v.sites = w.sites
  surroundings : v.surroundings = w.surroundings

variable {w v : World} {t : Datum} {x y : Value} {c : ClassName} {as : List (String × Datum)}
  {s : Side}

theorem SameTypes.signatureOf (h : w.SameTypes v) (ts : List Ty) : v.signatureOf ts = w.signatureOf ts := by
  simp only [World.signatureOf, World.classes, h.hierarchy, h.surroundings]

theorem SameTypes.classes (h : w.SameTypes v) : v.classes = w.classes := by
  rw [World.classes, World.classes, h.hierarchy]

/-- The class of what holds a datum. -/
def classOfDatum (w : World) : Datum → ClassName
  | .atom a => w.classOfAtom a
  | .tuple _ => .core "tuple"
  | .frozenset _ => .core "frozenset"
  | .list _ => .core "list"
  | .dict _ => .core "dict"
  | .set _ => .core "set"
  | .bytearray _ => .core "bytearray"
  | .slots c _ => c
  | .fields c _ => c
  | .object c _ => c
  | .keys _ => .core "dict_keys"
  | .handle _ c _ => c

theorem classOf_of_holds_datum (h : w.Holds t x) : w.classOf x = w.classOfDatum t := by
  cases t with
  | atom a => obtain rfl : x = .atom a := h; rfl
  | tuple ts => obtain ⟨_, rfl, -⟩ := h; rfl
  | frozenset ts => obtain ⟨_, rfl, -⟩ := h; rfl
  | list ts => obtain ⟨_, _, rfl, hr, -⟩ := h; simp [World.classOf, classOfDatum, hr]
  | dict es => obtain ⟨_, _, rfl, hr, -⟩ := h; simp [World.classOf, classOfDatum, hr]
  | set ts => obtain ⟨_, _, rfl, hr, -⟩ := h; simp [World.classOf, classOfDatum, hr]
  | bytearray bs => obtain ⟨_, rfl, hr⟩ := h; simp [World.classOf, classOfDatum, hr]
  | slots c ts => obtain ⟨_, _, _, rfl, hr, -⟩ := h; simp [World.classOf, classOfDatum, hr]
  | fields c es => obtain ⟨_, _, _, rfl, hr, -⟩ := h; simp [World.classOf, classOfDatum, hr]
  | object c as => obtain ⟨_, _, _, rfl, hr, -⟩ := h; simp [World.classOf, classOfDatum, hr]
  | keys ts => obtain ⟨_, _, rfl, hr, -⟩ := h; simp [World.classOf, classOfDatum, hr]
  | handle r c s =>
    obtain ⟨rfl, cell, hr, hc⟩ := h
    cases cell with
    | object d o as =>
      simp only [Cell.handle?] at hc
      split at hc
      · cases hc
      · obtain ⟨rfl, -⟩ := Prod.mk.inj (Option.some.inj hc)
        simp [World.classOf, classOfDatum, hr]
    | routine f | iterator d vs =>
      obtain ⟨rfl, -⟩ := Prod.mk.inj (Option.some.inj hc)
      simp [World.classOf, classOfDatum, hr]
    | _ => simp [Cell.handle?] at hc

theorem SameTypes.classOfAtom (h : w.SameTypes v) (a : Atom) : v.classOfAtom a = w.classOfAtom a := by
  have htype : ∀ t, v.classOfTy t = w.classOfTy t := by
    intro t
    simp only [classOfTy, metaclass, h.hierarchy]
  cases a <;> simp only [World.classOfAtom, htype]

/-- Values that hold the same are of one class. -/
theorem classOf_of_same_holds (h : w.SameTypes v) (hx : w.Holds t x) (hy : v.Holds t y) :
    v.classOf y = w.classOf x := by
  rw [classOf_of_holds_datum hx, classOf_of_holds_datum hy]
  cases t with
  | atom a => exact h.classOfAtom a
  | _ => rfl

/-- The type for which a value stands is that for which what it holds does. -/
theorem tyOf_of_same_holds (hx : w.Holds t x) (hy : v.Holds t y) : v.tyOf y = w.tyOf x := by
  obtain ⟨a, rfl, rfl⟩ | ⟨ht, hxAtom⟩ := hx.atom_or
  · obtain rfl : y = .atom a := hy
    cases a <;> rfl
  · obtain ⟨a, rfl, -⟩ | ⟨-, hyAtom⟩ := hy.atom_or
    · exact absurd rfl (ht a)
    · have hobject : ∀ {u : World} {z : Value}, u.Holds t z → (∀ a, z ≠ .atom a) →
          u.tyOf z = .lit (.object t.shown) := by
        intro u z hz hatom
        rw [← read_of_holds hz]
        cases z with
        | atom a => exact absurd rfl (hatom a)
        | _ => rfl
      rw [hobject hx hxAtom, hobject hy hyAtom]

/-- A list or a tuple has the items of what it holds. -/
theorem sequence?_of_holds (h : w.Holds t x) :
    Option.Rel w.HoldsAll t.sequence? (w.sequence? x) := by
  cases t with
  | atom a => obtain rfl : x = .atom a := h; exact .none
  | tuple ts => obtain ⟨vs, rfl, hvs⟩ := h; exact .some hvs
  | frozenset ts => obtain ⟨vs, rfl, -⟩ := h; exact .none
  | list ts =>
    obtain ⟨r, vs, rfl, hr, hvs⟩ := h
    have hs : w.sequence? (.ref r) = some vs := by simp [World.sequence?, cell?, hr]
    rw [hs]
    exact .some hvs
  | handle r c s =>
    obtain ⟨rfl, cell, hr, hc⟩ := h
    have hs : w.sequence? (.ref r) = none := by
      cases cell with
      | list vs => simp [Cell.handle?] at hc
      | _ => simp [World.sequence?, cell?, hr]
    rw [hs]
    exact .none
  | _ =>
    have hs : w.sequence? x = none := by
      cases x with
      | ref r =>
        cases hr : w.heap[r]? with
        | none => simp [World.sequence?, cell?, hr]
        | some cell =>
          cases cell with
          | list vs => simp [Holds, hr] at h
          | _ => simp [World.sequence?, cell?, hr]
      | tuple vs => simp [Holds] at h
      | _ => rfl
    rw [hs]
    exact .none

/-- What is set on objects of one datum under a name holds the same, if anything is set there. -/
theorem lookup_of_same_holds (hx : w.Holds (.object c as) x) (hy : v.Holds (.object c as) y)
    {name : String} (hname : name.startsWith "__" = false) :
    (∃ u a b, as.lookup name = some u ∧ (w.attributes x).lookup name = some a ∧
      (v.attributes y).lookup name = some b ∧ w.Holds u a ∧ v.Holds u b) ∨
    (as.lookup name = none ∧ (w.attributes x).lookup name = none ∧ (v.attributes y).lookup name = none) := by
  obtain ⟨r, o, fields, rfl, hr, -, hfields⟩ := hx
  obtain ⟨r', o', fields', rfl, hr', -, hfields'⟩ := hy
  have hattributes : w.attributes (.ref r) = fields := by simp [attributes, cell?, hr]
  have hattributes' : v.attributes (.ref r') = fields' := by simp [attributes, cell?, hr']
  have hvisible : (visible fields).lookup name = fields.lookup name := Writing.lookup_visible hname
  have hvisible' : (visible fields').lookup name = fields'.lookup name := Writing.lookup_visible hname
  rw [hattributes, hattributes', ← hvisible, ← hvisible']
  obtain ⟨u, a, hu, ha, hholds⟩ | ⟨hnone, ha⟩ := lookup_holdsFields hfields name
  · obtain ⟨u', b, hu', hb, hholds'⟩ | ⟨hnone, -⟩ := lookup_holdsFields hfields' name
    · obtain rfl : u = u' := Option.some.inj (hu.symm.trans hu')
      exact .inl ⟨u, a, b, hu, ha, hb, hholds, hholds'⟩
    · cases hu.symm.trans hnone
  · obtain ⟨u', b, hu', -⟩ | ⟨-, hb⟩ := lookup_holdsFields hfields' name
    · cases hnone.symm.trans hu'
    · exact .inr ⟨hnone, ha, hb⟩

/-- The same with the value that stands for nothing where nothing is set. -/
theorem fieldOf_of_same_holds (hx : w.Holds (.object c as) x) (hy : v.Holds (.object c as) y)
    {name : String} (hname : name.startsWith "__" = false) :
    w.Holds ((as.lookup name).getD .none) (w.fieldOf x name) ∧
      v.Holds ((as.lookup name).getD .none) (v.fieldOf y name) := by
  obtain ⟨u, a, b, hu, ha, hb, hholds, hholds'⟩ | ⟨hnone, ha, hb⟩ := lookup_of_same_holds hx hy hname
  · simpa [fieldOf, hu, ha, hb] using ⟨hholds, hholds'⟩
  · simp only [fieldOf, hnone, ha, hb, Option.getD_none]
    exact ⟨rfl, rfl⟩

theorem forall₂_of_holdsAll {ts : List Datum} {xs ys : List Value} (hx : w.HoldsAll ts xs)
    (hy : v.HoldsAll ts ys) :
    List.Forall₂ (fun a b => ∃ u ∈ ts, w.Holds u a ∧ v.Holds u b) xs ys := by
  induction ts generalizing xs ys with
  | nil => cases xs <;> cases ys <;> simp_all [HoldsAll]
  | cons t ts ih =>
    cases xs with
    | nil => exact absurd hx (by simp [HoldsAll])
    | cons x xs =>
      cases ys with
      | nil => exact absurd hy (by simp [HoldsAll])
      | cons y ys =>
        refine .cons ⟨t, List.mem_cons_self, hx.1, hy.1⟩ ((ih hx.2 hy.2).imp ?_)
        rintro a b ⟨u, hu, h⟩
        exact ⟨u, List.mem_cons_of_mem t hu, h⟩

/-- Lists and tuples of one datum have items that hold the same one by one. -/
theorem sequence?_of_same_holds (hx : w.Holds t x) (hy : v.Holds t y) :
    Option.Rel (List.Forall₂ fun a b => ∃ u ∈ t.sequence?.getD [], w.Holds u a ∧ v.Holds u b)
      (w.sequence? x) (v.sequence? y) := by
  have hseq := sequence?_of_holds hx
  have hseq' := sequence?_of_holds hy
  generalize w.sequence? x = xs at hseq ⊢
  generalize v.sequence? y = ys at hseq' ⊢
  cases hts : t.sequence? with
  | none =>
    rw [hts] at hseq hseq'
    cases hseq
    cases hseq'
    exact .none
  | some ts =>
    rw [hts] at hseq hseq'
    cases hseq with | some hxs =>
    cases hseq' with | some hys => exact .some (forall₂_of_holdsAll hxs hys)

/-- The functions that objects of one datum hold as chains hold the same one by one. -/
theorem functionsOf_of_same_holds (hx : w.Holds (.object c as) x) (hy : v.Holds (.object c as) y) :
    List.Forall₂ (fun a b => ∃ u ∈ Datum.partners as, w.Holds u a ∧ v.Holds u b) (w.functionsOf x)
      (v.functionsOf y) := by
  have hname : "functions".startsWith "__" = false := by simp
  obtain ⟨hfield, hfield'⟩ := fieldOf_of_same_holds hx hy hname
  have hitems : ∀ u ∈ ((as.lookup "functions").getD .none).sequence?.getD [],
      u ∈ Datum.partners as := by
    intro u hu
    cases hl : as.lookup "functions" with
    | none => simp [hl, Datum.none, Datum.sequence?] at hu
    | some t => exact List.mem_append_left _ (by simpa [hl] using hu)
  have hseq := sequence?_of_same_holds hfield hfield'
  rw [functionsOf, functionsOf]
  generalize w.sequence? (w.fieldOf x "functions") = xs at hseq ⊢
  generalize v.sequence? (v.fieldOf y "functions") = ys at hseq ⊢
  cases hseq with
  | none => exact .nil
  | some hall =>
    refine hall.imp ?_
    rintro a b ⟨u, hu, h⟩
    exact ⟨u, hitems u hu, h⟩

theorem rel_head? {R : Value → Value → Prop} {xs ys : List Value} (h : List.Forall₂ R xs ys) :
    Option.Rel R xs.head? ys.head? := by
  cases h with
  | nil => exact .none
  | cons h _ => exact .some h

theorem rel_getLast? {R : Value → Value → Prop} {xs ys : List Value} (h : List.Forall₂ R xs ys) :
    Option.Rel R xs.getLast? ys.getLast? := by
  rw [List.getLast?_eq_head?_reverse, List.getLast?_eq_head?_reverse]
  exact rel_head? (List.rel_reverse h)

/-- Objects of one datum take a side from functions that hold the same, if they take it from any. -/
theorem takenFrom?_of_same_holds (h : w.SameTypes v) (hx : w.Holds (.object c as) x)
    (hy : v.Holds (.object c as) y) (s : Side) :
    Option.Rel (fun a b => ∃ u ∈ Datum.partners as, w.Holds u a ∧ v.Holds u b) (w.takenFrom? s x)
      (v.takenFrom? s y) := by
  have hclass := classOf_of_same_holds h hx hy
  have hfunctions := functionsOf_of_same_holds hx hy
  have hmember : v.member? (v.classOf y) s.attribute = w.member? (w.classOf x) s.attribute := by
    rw [hclass, h.member?]
  have hpredicate : Option.Rel (fun a b => ∃ u ∈ Datum.partners as, w.Holds u a ∧ v.Holds u b)
      (if (w.fieldOf x "predicate").isNone then none else some (w.fieldOf x "predicate"))
      (if (v.fieldOf y "predicate").isNone then none else some (v.fieldOf y "predicate")) := by
    have hname : "predicate".startsWith "__" = false := by simp
    obtain ⟨hfield, hfield'⟩ := fieldOf_of_same_holds hx hy hname
    rw [hfield.isNone_eq, hfield'.isNone_eq]
    split
    · exact .none
    · rename_i hsome
      refine .some ⟨_, List.mem_append_right _ ?_, hfield, hfield'⟩
      cases hl : as.lookup "predicate" with
      | none => simp [hl, Datum.none, Datum.isNone] at hsome
      | some u => simp
  obtain ⟨r, -, -, rfl, -⟩ := hx
  obtain ⟨r', -, -, rfl, -⟩ := hy
  simp only [takenFrom?, hmember]
  split
  · exact rel_head? hfunctions
  · exact rel_getLast? hfunctions
  · exact hpredicate
  · exact .none

/-! ## Types that are not taken from other functions -/

/-- Cells of which the same types are read: of one class, made through the same parameterized form if any, no
plain functions, and with attributes that hold the same. -/
structure Alike (w v : World) (r l : Ref) : Prop where
  classOf : v.classOf (.ref l) = w.classOf (.ref r)
  form : v.originAlias? (.ref l) = w.originAlias? (.ref r)
  noRoutine : ∀ f, w.cell? r ≠ some (.routine f) ∧ v.cell? l ≠ some (.routine f)
  fields : ∀ name, name.startsWith "__" = false →
    Option.Rel (fun a b => ∃ u, w.Holds u a ∧ v.Holds u b) ((w.attributes (.ref r)).lookup name)
      ((v.attributes (.ref l)).lookup name)

namespace Alike

variable {r l : Ref} {inner inner' : Side → Value → Except Fault (List Ty)}

theorem siteTypes? (ha : Alike w v r l) (h : w.SameTypes v) (s : Side) :
    v.siteTypes? s (.ref l) = w.siteTypes? s (.ref r) := by
  have harguments : ∀ target, v.typeArguments? (.ref l) target = w.typeArguments? (.ref r) target := by
    intro target
    simp only [typeArguments?, ha.form, ha.classOf, h.hierarchy]
  simp only [World.siteTypes?, siteClass, h.sites, h.hierarchy, ha.classOf, harguments]
  rfl

theorem callableTypes? (ha : Alike w v r l) (h : w.SameTypes v) (s : Side) :
    v.callableTypes? s (.ref l) = w.callableTypes? s (.ref r) := by
  simp only [World.callableTypes?, ha.classOf, h.member?]
  split
  · rename_i f hf
    exact absurd hf (ha.noRoutine f).2
  · -- what the class is called by decides, on both sides alike
    split
    all_goals
      split
      · rename_i f hf
        exact absurd hf (ha.noRoutine f).1
      · rfl

/-- What is set under a name, or the value that stands for nothing, is of one class and type. -/
theorem fieldOf (ha : Alike w v r l) (h : w.SameTypes v) {name : String}
    (hname : name.startsWith "__" = false) :
    (v.fieldOf (.ref l) name).isNone = (w.fieldOf (.ref r) name).isNone ∧
      v.classOf (v.fieldOf (.ref l) name) = w.classOf (w.fieldOf (.ref r) name) ∧
      v.tyOf (v.fieldOf (.ref l) name) = w.tyOf (w.fieldOf (.ref r) name) := by
  have hfields := ha.fields name hname
  simp only [World.fieldOf]
  generalize (w.attributes (.ref r)).lookup name = a at hfields ⊢
  generalize (v.attributes (.ref l)).lookup name = b at hfields ⊢
  cases hfields with
  | none => exact ⟨rfl, rfl, rfl⟩
  | some hu =>
    obtain ⟨u, hu, hu'⟩ := hu
    simp only [Option.getD_some]
    exact ⟨by rw [hu.isNone_eq, hu'.isNone_eq], classOf_of_same_holds h hu hu',
      tyOf_of_same_holds hu hu'⟩

theorem statedTypes? (ha : Alike w v r l) (h : w.SameTypes v) {s : Side}
    (hr : w.takenFrom? s (.ref r) = none) (hl : v.takenFrom? s (.ref l) = none)
    (inner inner' : Side → Value → Except Fault (List Ty)) :
    v.statedTypes? inner' s (.ref l) = w.statedTypes? inner s (.ref r) := by
  have hmember : v.member? (v.classOf (.ref l)) s.attribute =
      w.member? (w.classOf (.ref r)) s.attribute := by
    rw [ha.classOf, h.member?]
  simp only [takenFrom?, hmember] at hr hl
  simp only [World.statedTypes?, hmember]
  split
  · rename_i k p hp
    simp only [hp, functionsOf, World.fieldOf] at hr hl
    cases p with
    | compositeInput | compositeOutput => simp only [propertyTypes?, hr, hl]
    | negatedInput =>
      have hnothing : ∀ x : Value, (if x.isNone then none else some x) = none → x.isNone = true := by
        intro x hx
        by_contra hsome
        simp [hsome] at hx
      simp only [propertyTypes?, hnothing _ hr, hnothing _ hl, if_true]
    | controlInput =>
      have hname : "value".startsWith "__" = false := by simp
      obtain ⟨hnone, hclass, -⟩ := ha.fieldOf h hname
      simp only [World.fieldOf] at hnone hclass
      simp only [propertyTypes?, hnone, hclass]
    | castOutput =>
      have hname : "output_class".startsWith "__" = false := by simp
      obtain ⟨hnone, -, hty⟩ := ha.fieldOf h hname
      simp only [World.fieldOf] at hnone hty
      simp only [propertyTypes?, hnone, hty]
    | _ => rfl
  · have hname : s.attribute.startsWith "__" = false := by cases s <;> simp [Side.attribute, Side.name]
    have hfields := ha.fields s.attribute hname
    generalize (w.attributes (.ref r)).lookup s.attribute = a at hfields ⊢
    generalize (v.attributes (.ref l)).lookup s.attribute = b at hfields ⊢
    cases hfields with
    | none => rfl
    | some hu =>
      obtain ⟨u, hu, hu'⟩ := hu
      have hseq := sequence?_of_same_holds hu hu'
      have htypes : ∀ {xs ys : List Value}, (List.Forall₂ fun a b =>
          ∃ t ∈ u.sequence?.getD [], w.Holds t a ∧ v.Holds t b) xs ys →
          ys.map v.tyOf = xs.map w.tyOf := by
        intro xs ys hall
        induction hall with
        | nil => rfl
        | cons hab _ ih =>
          obtain ⟨t, -, ha, hb⟩ := hab
          rw [List.map_cons, List.map_cons, tyOf_of_same_holds ha hb, ih]
      rename_i a b
      simp only
      generalize w.sequence? a = xs at hseq ⊢
      generalize v.sequence? b = ys at hseq ⊢
      cases hseq with
      | none => rfl
      | some hall => simp only [Option.map_some, htypes hall]

/-- The types on a side that is not taken from another function. -/
theorem recoveredTypes (ha : Alike w v r l) (h : w.SameTypes v) {s : Side}
    (hr : w.takenFrom? s (.ref r) = none) (hl : v.takenFrom? s (.ref l) = none) :
    v.recoveredTypes inner' s (.ref l) = w.recoveredTypes inner s (.ref r) := by
  simp only [World.recoveredTypes, ha.statedTypes? h hr hl inner inner',
    ha.siteTypes? h, ha.callableTypes? h, ha.classOf]
  rfl

end Alike

/-- Nothing but classes, declarations and sites is looked up for the types of an atom. -/
theorem recoveredTypes_atom (h : w.SameTypes v) (s : Side) (a : Atom)
    (inner inner' : Side → Value → Except Fault (List Ty)) :
    v.recoveredTypes inner' s (.atom a) = w.recoveredTypes inner s (.atom a) := by
  have hsites : v.siteTypes? s (.atom a) = w.siteTypes? s (.atom a) := by
    have harguments : ∀ target, v.typeArguments? (.atom a) target = w.typeArguments? (.atom a) target := by
      intro target
      cases a with
      | type t => cases t <;> simp only [typeArguments?, originAlias?, World.classOf, h.classOfAtom, h.hierarchy]
      | _ => simp only [typeArguments?, originAlias?, World.classOf, h.classOfAtom, h.hierarchy]
    have hclass : v.siteClass (.atom a) = w.siteClass (.atom a) := by
      cases a with
      | type t => cases t <;> simp only [siteClass, World.classOf, h.classOfAtom]
      | _ => simp only [siteClass, World.classOf, h.classOfAtom]
    simp only [siteTypes?, hclass, h.sites, h.hierarchy, harguments]
  have hstated : v.statedTypes? inner' s (.atom a) = w.statedTypes? inner s (.atom a) := by
    cases a <;> simp only [statedTypes?, h.member?]
  have hcalled : v.callableTypes? s (.atom a) = w.callableTypes? s (.atom a) := by
    have hconstructor : ∀ c, v.constructor? c = w.constructor? c := by
      intro c
      simp only [constructor?, World.declaration?, h.hierarchy, h.declarations]
    cases a with
    | type t => cases t <;> simp only [callableTypes?, constructorTypes, hconstructor]
    | _ => rfl
  simp only [recoveredTypes, hstated, hsites, hcalled, World.classOf, h.classOfAtom]

theorem Direct.originAlias? (h : w.Direct x) : w.originAlias? x = none := by
  cases h with
  | atom a => rfl
  | list hr | dict hr | object hr => simp [World.originAlias?, cell?, hr]

/-- What a value that was made directly takes a side from was made directly. -/
theorem Direct.takenFrom {f : Value} (h : w.Direct x) (ht : w.takenFrom? s x = some f) :
    w.Direct f := by
  have hfield : ∀ name ∈ ["functions", "predicate"], w.Direct (w.fieldOf x name) := by
    intro name hname
    cases h with
    | atom a => exact .atom .none
    | list hr | dict hr =>
      simp only [fieldOf, attributes, cell?, hr]
      exact .atom .none
    | @object r c fields hr h =>
      simp only [fieldOf, attributes, cell?, hr]
      cases hl : fields.lookup name with
      | none => exact .atom .none
      | some v => exact h name hname v hl
  have hitems : ∀ g ∈ w.functionsOf x, w.Direct g := by
    intro g hg
    have hlist := hfield "functions" (by simp)
    rw [functionsOf] at hg
    generalize w.fieldOf x "functions" = y at hlist hg
    cases hlist with
    | atom a => simp [World.sequence?] at hg
    | @list r vs hr h =>
      have hitem : g ∈ vs := by simpa [World.sequence?, cell?, hr] using hg
      exact h g hitem
    | dict hr | object hr => simp [World.sequence?, cell?, hr] at hg
  obtain ⟨r, rfl, -⟩ := exists_ref_of_takenFrom? ht
  simp only [takenFrom?] at ht
  split at ht
  · exact hitems f (List.mem_of_mem_head? ht)
  · exact hitems f (List.mem_of_getLast? ht)
  · split at ht
    · cases ht
    · obtain rfl := Option.some.inj ht
      exact hfield "predicate" (by simp)
  · cases ht

/-- What has no attributes takes no side from anything. -/
theorem takenFrom?_of_attributes (h : w.attributes x = []) (s : Side) : w.takenFrom? s x = none := by
  cases hf : w.takenFrom? s x with
  | none => rfl
  | some f =>
    obtain ⟨r, rfl, -⟩ := exists_ref_of_takenFrom? hf
    simp only [takenFrom?, functionsOf, fieldOf, h, List.lookup_nil, Option.getD_none] at hf
    split at hf <;> simp [Value.none, World.sequence?, Value.isNone] at hf

/-- Where the types on the sides of a datum are read alike, and the same types are joined for that. -/
def ReadAlike (w v : World) (t : Datum) : Prop :=
  ∀ x y, w.Holds t x → v.Holds t y → w.Direct x → v.Direct y →
    ∀ s, v.declaredTypes s y = w.declaredTypes s x ∧ v.joins? s y = w.joins? s x

/-- What is taken from no other function is joined alike if it is read alike. -/
theorem joins?_of_declaredTypes (ht : w.takenFrom? s x = none) (ht' : v.takenFrom? s y = none)
    (h : v.declaredTypes s y = w.declaredTypes s x) : v.joins? s y = w.joins? s x := by
  rw [joins?, joins?, sourceWithin_of_takenFrom?_none ht, sourceWithin_of_takenFrom?_none ht', h]

theorem readAlike_atom (h : w.SameTypes v) (a : Atom) : ReadAlike w v (.atom a) := by
  rintro _ _ rfl rfl - - s
  have htypes : v.declaredTypes s (.atom a) = w.declaredTypes s (.atom a) :=
    recoveredTypes_atom h s a _ _
  exact ⟨htypes, joins?_of_declaredTypes rfl rfl htypes⟩

/-- Cells of lists and of dictionaries. -/
def IsCollection (w : World) (r : Ref) : Prop :=
  (∃ vs, w.heap[r]? = some (.list vs)) ∨ ∃ es, w.heap[r]? = some (.dict es)

theorem readAlike_of_isCollection (h : w.SameTypes v)
    (ht : ∀ (u : World) x, u.Holds t x → ∃ r, x = .ref r ∧ u.IsCollection r) : ReadAlike w v t := by
  intro x y hx hy _ _ s
  have hclass := classOf_of_same_holds h hx hy
  obtain ⟨r, rfl, hr⟩ := ht w x hx
  obtain ⟨l, rfl, hl⟩ := ht v y hy
  have hplain : ∀ {u : World} {n : Ref}, u.IsCollection n → u.attributes (.ref n) = [] ∧
      u.originAlias? (.ref n) = none ∧ ∀ f, u.cell? n ≠ some (.routine f) := by
    rintro u n (⟨vs, hn⟩ | ⟨es, hn⟩) <;> simp [attributes, originAlias?, cell?, hn]
  obtain ⟨hempty, hbare, hnoRoutine⟩ := hplain hr
  obtain ⟨hempty', hbare', hnoRoutine'⟩ := hplain hl
  have halike : Alike w v r l := by
    refine ⟨hclass, hbare'.trans hbare.symm, fun f => ⟨hnoRoutine f, hnoRoutine' f⟩, fun name _ => ?_⟩
    rw [hempty, hempty']
    exact .none
  have hx := takenFrom?_of_attributes hempty s
  have hy := takenFrom?_of_attributes hempty' s
  have htypes : v.declaredTypes s (.ref l) = w.declaredTypes s (.ref r) := halike.recoveredTypes h hx hy
  exact ⟨htypes, joins?_of_declaredTypes hx hy htypes⟩

/-- Objects that hold the same and were made through the same form, and a side of theirs that is not taken
from another function. -/
theorem declaredTypes_of_same_form (h : w.SameTypes v) (hx : w.Holds (.object c as) x)
    (hy : v.Holds (.object c as) y) (hform : v.originAlias? y = w.originAlias? x)
    (ht : w.takenFrom? s x = none) : v.declaredTypes s y = w.declaredTypes s x := by
  have hclass := classOf_of_same_holds h hx hy
  have htaken := takenFrom?_of_same_holds h hx hy s
  have hnone : v.takenFrom? s y = none := by
    rw [ht] at htaken
    cases hg : v.takenFrom? s y with
    | none => rfl
    | some g => rw [hg] at htaken; cases htaken
  have hattributes {name : String} (hname : name.startsWith "__" = false) :=
    lookup_of_same_holds hx hy hname
  obtain ⟨r, o, fields, rfl, hr, -⟩ := hx
  obtain ⟨l, o', fields', rfl, hl, -⟩ := hy
  have halike : Alike w v r l := by
    refine ⟨hclass, hform, fun f => by simp [cell?, hr, hl], fun name hname => ?_⟩
    obtain ⟨u, a, b, -, ha, hb, hu, hu'⟩ | ⟨-, ha, hb⟩ := hattributes hname
    · rw [ha, hb]
      exact .some ⟨u, hu, hu'⟩
    · rw [ha, hb]
      exact .none
  exact halike.recoveredTypes h ht hnone

/-- Objects are read alike if all functions of which they may take a side are. -/
theorem readAlike_object (h : w.SameTypes v) (hpartners : ∀ t ∈ Datum.partners as, ReadAlike w v t) :
    ReadAlike w v (.object c as) := by
  intro x y hx hy hxDirect hyDirect s
  have htaken := takenFrom?_of_same_holds h hx hy s
  cases hf : w.takenFrom? s x with
  | none =>
    cases hg : v.takenFrom? s y with
    | none =>
      have htypes := declaredTypes_of_same_form h hx hy
        (hyDirect.originAlias?.trans hxDirect.originAlias?.symm) hf
      exact ⟨htypes, joins?_of_declaredTypes hf hg htypes⟩
    | some g => rw [hf, hg] at htaken; cases htaken
  | some f =>
    cases hg : v.takenFrom? s y with
    | none => rw [hf, hg] at htaken; cases htaken
    | some g =>
      rw [hf, hg, Option.rel_some_some] at htaken
      obtain ⟨u, hu, huf, hug⟩ := htaken
      obtain ⟨htypes, hjoins⟩ :=
        hpartners u hu f g huf hug (hxDirect.takenFrom hf) (hyDirect.takenFrom hg) s
      refine ⟨?_, by rw [joins?_of_takenFrom? hf, joins?_of_takenFrom? hg, hjoins]⟩
      rw [declaredTypes_of_takenFrom? hf, declaredTypes_of_takenFrom? hg, signature, signature, htypes]
      simp only [h.signatureOf]

/-- The names under which functions are held are those of parameters that are kept as they are. -/
theorem partners_are_parameters : ∀ k ∈ Registry.shipped, ∀ name ∈ ["functions", "predicate"],
    name ∈ k.source.attributeNames → (∃ p ∈ k.params, p.name = name) ∧
      k.properties.lookup name = none ∧ (k.source, name) ∉ Recompiled.places := by
  decide

/-- What is held as a chain or as the negation of something is the value of a parameter, and is kept as it
is. -/
theorem exists_param_of_partner {k : LibraryClass} (hk : k ∈ Registry.shipped) {arg : String → Datum}
    (has : attributes? w.zones k arg = some as) {name : String} (hname : name ∈ ["functions", "predicate"])
    (ht : as.lookup name = some t) : ∃ p ∈ k.params, k.property? as p.name = some t ∧
      ¬ ∃ u, Recompiled k.source p.name t u := by
  have hattribute : name ∈ k.source.attributeNames := by
    rw [← named_attributesOf _ _ _ has]
    exact List.mem_map.mpr ⟨_, Binding.mem_of_lookup ht, rfl⟩
  obtain ⟨⟨p, hp, rfl⟩, hplain, hplace⟩ := partners_are_parameters k hk name hname hattribute
  refine ⟨p, hp, by rw [property?, hplain]; exact ht, ?_⟩
  rintro ⟨u, hu⟩
  exact hplace hu.place

/-- Values that hold the same kept data and were made directly have the same types. -/
theorem readAlike_of_kept (h : w.SameTypes v) (hw : w.Stocked) (hkept : Kept (fun _ => False) t)
    (hmade : Made w t) : ReadAlike w v t ∧ ∀ u ∈ t.sequence?.getD [], ReadAlike w v u := by
  induction hkept with
  | odd hfalse => exact hfalse.elim
  | atom _ => exact ⟨readAlike_atom h _, by simp [Datum.sequence?]⟩
  | @list ts _ ih =>
    cases hmade with
    | list hmades =>
      refine ⟨readAlike_of_isCollection h ?_, fun u hu => (ih u hu (hmades u hu)).1⟩
      rintro u x ⟨r, vs, rfl, hr, -⟩
      exact ⟨r, rfl, .inl ⟨vs, hr⟩⟩
  | dict =>
    refine ⟨readAlike_of_isCollection h ?_, by simp [Datum.sequence?]⟩
    rintro u x ⟨r, es, rfl, hr, -⟩
    exact ⟨r, rfl, .inr ⟨es, hr⟩⟩
  | @function k as hk _ _ _ _ ih =>
    refine ⟨readAlike_object h fun u hu => ?_, by simp [Datum.sequence?]⟩
    obtain ⟨⟨arg, has⟩, hmades⟩ := hmade.of_function hw hk
    have hfield : ∀ name ∈ ["functions", "predicate"], ∀ t, as.lookup name = some t →
        ReadAlike w v t ∧ ∀ u ∈ t.sequence?.getD [], ReadAlike w v u := by
      intro name hname t ht
      obtain ⟨p, hp, hproperty, hplain⟩ := exists_param_of_partner hk has hname ht
      exact ih p hp t hproperty hplain (hmades _ (Binding.mem_of_lookup ht))
    rcases List.mem_append.mp hu with hu | hu
    · cases hl : as.lookup "functions" with
      | none => simp [hl] at hu
      | some t => exact (hfield "functions" (by simp) t hl).2 u (by simpa [hl] using hu)
    · exact (hfield "predicate" (by simp) u (by simpa using hu)).1

end World

end FunctionObjects
