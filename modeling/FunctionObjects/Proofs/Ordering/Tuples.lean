import FunctionObjects.Proofs.Ordering.Total
import FunctionObjects.Proofs.State.Initial
/-!
# Positional tuples are totally ordered

A positional tuple has equality and "less than" of its own, and the other comparisons come from these two,
also where a tuple of a subclass is asked first.  If what stands at each position is totally ordered, so are
the tuples, and every comparison says what the first difference says.
-/

namespace FunctionObjects

open Run

/-- What a relation says when it is known which of two things comes first, or that they are equal. -/
def Rel.Among (r : Rel) (less same greater : Prop) : Prop :=
  match r with
  | .lt => less
  | .le => less ∨ same
  | .gt => greater
  | .ge => greater ∨ same

namespace Datum

variable {sub : ClassName → ClassName → Bool} {x y : Datum} {xs ys zs : List Datum} {c d : ClassName}
  {r : Rel} {less same : Bool}

/-- Members of collections are equal as they are elsewhere if they are equal to themselves. -/
theorem sameItem_iff (hx : x.IsSame x) : x.sameItem y = true ↔ x.IsSame y := by
  refine ⟨fun h => ?_, sameItem_of_same⟩
  obtain rfl | h := eq_or_same_of_sameItem h
  · exact hx
  · exact h

/-! ## Lists -/

section

variable {S : Nat → Datum → Prop} (h : ∀ i, Ordered sub (S i)) (hxs : Fits S xs)

include h hxs

theorem sameAll_iff_isSame : sameAll xs ys = true ↔ List.Forall₂ IsSame xs ys := by
  rw [sameAll_iff]
  induction xs generalizing S ys with
  | nil => cases ys <;> simp
  | cons x xs ih =>
    cases ys with
    | nil => simp
    | cons y ys =>
      obtain ⟨hx, hxs⟩ := fits_cons.mp hxs
      rw [List.forall₂_cons, List.forall₂_cons, sameItem_iff ((h 0).orders.refl hx),
        ih (fun i => h (i + 1)) hxs]

/-- "Less than" on lists says which of them comes first. -/
theorem relAll_lt (hys : Fits S ys) : ∃ b, relAll sub .lt xs ys = .ok b ∧
    (b = true ↔ Before (IsLess sub) IsSame xs ys) := by
  induction xs generalizing S ys with
  | nil => cases ys <;> exact ⟨_, by rw [relAll]; rfl, by simp [Rel.accepts, Before.nil_iff]⟩
  | cons x xs ih =>
    cases ys with
    | nil => exact ⟨_, by rw [relAll]; rfl, by simp [Rel.accepts, Before.not_nil]⟩
    | cons y ys =>
      obtain ⟨hx, hxs⟩ := fits_cons.mp hxs
      obtain ⟨hy, hys⟩ := fits_cons.mp hys
      have hitem := sameItem_iff (y := y) ((h 0).orders.refl hx)
      rw [relAll, Before.cons_iff]
      by_cases hsame : IsSame x y
      · have hless : ¬IsLess sub x y := fun hless => ((h 0).orders.not_same hx hy hless).1 hsame
        simpa [hitem.mpr hsame, hsame, hless] using ih (fun i => h (i + 1)) hxs hys
      · obtain ⟨b, hb⟩ := (h 0).answers hx hy
        exact ⟨b, by rw [if_neg (mt hitem.mp hsame), hb], by simp [IsLess, hb, hsame]⟩

end

/-! ## Tuples -/

theorem derive_iff {p q g : Prop} (hless : less = true ↔ p) (hsame : same = true ↔ q)
    (h : OneOf p q g) : derive r less same = true ↔ r.Among p q g := by
  rw [OneOf, ← hless, ← hsame] at h
  cases r <;> cases less <;> cases same <;> simp_all [derive, Rel.Among]

theorem among_swap {p q g : Prop} : r.swap.Among g q p ↔ r.Among p q g := by
  cases r <;> exact Iff.rfl

/-- Comparing two tuples says what the first difference says, whichever of them is asked. -/
theorem rel_slots {S : Nat → Datum → Prop} (h : ∀ i, Ordered sub (S i)) (hxs : Fits S xs)
    (hys : Fits S ys) (c d : ClassName) (r : Rel) : ∃ b, rel sub r (.slots c xs) (.slots d ys) = .ok b ∧
      (b = true ↔ r.Among (Before (IsLess sub) IsSame xs ys) (List.Forall₂ IsSame xs ys)
        (Before (IsLess sub) IsSame ys xs)) := by
  have hlists := OrdersOn.lists fun i => (h i).orders
  rw [rel]
  split
  · obtain ⟨b, hb, hless⟩ := relAll_lt h hys hxs
    refine ⟨_, by rw [hb]; rfl, ?_⟩
    rw [derive_iff hless (sameAll_iff_isSame h hys) (hlists.oneOf hys hxs), among_swap]
    have hsymm : List.Forall₂ IsSame ys xs ↔ List.Forall₂ IsSame xs ys :=
      ⟨hlists.symm hys hxs, hlists.symm hxs hys⟩
    rw [hsymm]
  · obtain ⟨b, hb, hless⟩ := relAll_lt h hxs hys
    refine ⟨_, by rw [hb]; rfl, ?_⟩
    exact derive_iff hless (sameAll_iff_isSame h hxs) (hlists.oneOf hxs hys)

theorem isLess_slots {S : Nat → Datum → Prop} (h : ∀ i, Ordered sub (S i)) (hxs : Fits S xs)
    (hys : Fits S ys) (c d : ClassName) :
    IsLess sub (.slots c xs) (.slots d ys) ↔ Before (IsLess sub) IsSame xs ys := by
  obtain ⟨b, hb, hiff⟩ := rel_slots h hxs hys c d .lt
  rw [IsLess, hb, Except.ok.injEq]
  exact hiff

/-- Tuples are ordered, of whatever classes and lengths, if what may stand at each position is. -/
theorem Ordered.slots {S : Nat → Datum → Prop} (h : ∀ i, Ordered sub (S i)) :
    Ordered sub fun t => ∃ c xs, t = .slots c xs ∧ Fits S xs := by
  have hlists := OrdersOn.lists fun i => (h i).orders
  have hsame : ∀ {xs : List Datum}, Fits S xs → ∀ c d ys,
      (IsSame (.slots c xs) (.slots d ys) ↔ List.Forall₂ IsSame xs ys) :=
    fun hxs c d ys => sameAll_iff_isSame h hxs
  constructor
  · rintro _ _ ⟨c, xs, rfl, hxs⟩ ⟨d, ys, rfl, hys⟩
    obtain ⟨b, hb, -⟩ := rel_slots h hxs hys c d .lt
    exact ⟨b, hb⟩
  constructor
  · rintro _ ⟨c, xs, rfl, hxs⟩
    exact (hsame hxs _ _ _).mpr (hlists.refl hxs)
  · rintro _ _ ⟨c, xs, rfl, hxs⟩ ⟨d, ys, rfl, hys⟩ hxy
    exact (hsame hys _ _ _).mpr (hlists.symm hxs hys ((hsame hxs _ _ _).mp hxy))
  · rintro _ _ _ ⟨c, xs, rfl, hxs⟩ ⟨d, ys, rfl, hys⟩ ⟨e, zs, rfl, hzs⟩ hxy hyz
    exact (hsame hxs _ _ _).mpr
      (hlists.trans hxs hys hzs ((hsame hxs _ _ _).mp hxy) ((hsame hys _ _ _).mp hyz))
  · rintro _ _ ⟨c, xs, rfl, hxs⟩ ⟨d, ys, rfl, hys⟩
    rw [isLess_slots h hxs hys, hsame hxs, isLess_slots h hys hxs]
    exact hlists.oneOf hxs hys
  · rintro _ _ _ ⟨c, xs, rfl, hxs⟩ ⟨d, ys, rfl, hys⟩ ⟨e, zs, rfl, hzs⟩ hxy hyz
    exact (isLess_slots h hxs hzs _ _).mpr (hlists.less_trans hxs hys hzs
      ((isLess_slots h hxs hys _ _).mp hxy) ((isLess_slots h hys hzs _ _).mp hyz))

end Datum

/-- Kinds of data: those of some set, and tuples with data of certain kinds at their positions. -/
inductive Kind where
  | plain (S : Datum → Prop)
  | tuples (position : Nat → Kind)

namespace Kind

/-- Whether a datum is of a kind. -/
def Has : Kind → Datum → Prop
  | plain S, t => S t
  | tuples position, t => ∃ c xs, t = .slots c xs ∧ Fits (fun i => (position i).Has) xs

/-- Whether the sets that a kind is made of are ordered. -/
def Ordered (sub : ClassName → ClassName → Bool) : Kind → Prop
  | plain S => Datum.Ordered sub S
  | tuples position => ∀ i, (position i).Ordered sub

/-- However deep tuples are nested, they are ordered if what they hold in the end is. -/
theorem Ordered.has {sub : ClassName → ClassName → Bool} {k : Kind} (h : k.Ordered sub) :
    Datum.Ordered sub k.Has := by
  induction k with
  | plain S => exact h
  | tuples position ih => exact .slots fun i => ih i (h i)

end Kind

/-! ## Comparisons -/

namespace Run

variable {w : World} {a b e : Value} {c d f : ClassName} {xs ys zs : List Datum}

/-- An operation tells whether something is the case, and leaves the state as it is. -/
def Tells (m : Run Value) (w : World) (p : Prop) : Prop :=
  ∃ b : Bool, m.result w = (.ok (.bool b), w) ∧ (b = true ↔ p)

/-- Tuples are compared without sized numbers. -/
theorem not_comparesSized (ha : w.read a = .slots c xs) (hb : w.read b = .slots d ys) :
    a.comparesSized b = false := by
  have href : ∀ {v : Value} {c : ClassName} {xs : List Datum}, w.read v = .slots c xs →
      ∃ r, v = .ref r := by
    intro v c xs hv
    cases v with
    | ref r => exact ⟨r, rfl⟩
    | _ => simp [World.read, Heap.read, Value.datum] at hv
  obtain ⟨r, rfl⟩ := href ha
  obtain ⟨s, rfl⟩ := href hb
  rfl

theorem Tells.true_iff {m : Run Value} {p : Prop} (h : m.Tells w p) :
    m.result w = (.ok (.bool true), w) ↔ p := by
  obtain ⟨b, hb, hbp⟩ := h
  rw [hb, ← hbp]
  constructor
  · intro heq
    cases b with
    | true => rfl
    | false => cases heq
  · rintro rfl
    rfl

theorem Tells.eq_of_iff {m m' : Run Value} {p p' : Prop} (h : m.Tells w p) (h' : m'.Tells w p')
    (hiff : p ↔ p') : m.result w = m'.result w := by
  obtain ⟨b, hb, hbp⟩ := h
  obtain ⟨b', hb', hbp'⟩ := h'
  rw [hb, hb', Bool.eq_iff_iff.mpr (hbp.trans (hiff.trans hbp'.symm))]

section

variable {position : Nat → Kind} (h : ∀ i, (position i).Ordered w.isSubclass)
  (ha : w.read a = .slots c xs) (hb : w.read b = .slots d ys)
  (hxs : Fits (fun i => (position i).Has) xs)

include h ha hb hxs

theorem tells_relation (hys : Fits (fun i => (position i).Has) ys) (r : Rel) :
    (relation r a b).Tells w (r.Among (Before (Datum.IsLess w.isSubclass) Datum.IsSame xs ys)
      (List.Forall₂ Datum.IsSame xs ys) (Before (Datum.IsLess w.isSubclass) Datum.IsSame ys xs)) := by
  obtain ⟨b', hrel, hiff⟩ := Datum.rel_slots (fun i => (h i).has) hxs hys c d r
  refine ⟨b', ?_, hiff⟩
  have hholds : (holds r a b).result w = (.ok b', w) := by
    rw [holds, result_bind_ok _ (result_get w), ha, hb, hrel]
    rfl
  rw [relation, not_comparesSized ha hb, result_bind_ok _ hholds]
  rfl

theorem result_same_slots : ∃ b', (Run.same a b).result w = (.ok b', w) ∧
    (b' = true ↔ List.Forall₂ Datum.IsSame xs ys) := by
  refine ⟨_, result_same _ _ _, ?_⟩
  rw [ha, hb]
  exact Datum.sameAll_iff_isSame (fun i => (h i).has) hxs

theorem tells_equal : (equal a b).Tells w (List.Forall₂ Datum.IsSame xs ys) := by
  obtain ⟨b', hb', hiff⟩ := result_same_slots h ha hb hxs
  refine ⟨b', ?_, hiff⟩
  rw [equal, not_comparesSized ha hb, result_bind_ok _ hb']
  rfl

theorem tells_unequal : (unequal a b).Tells w (¬List.Forall₂ Datum.IsSame xs ys) := by
  obtain ⟨b', hb', hiff⟩ := result_same_slots h ha hb hxs
  refine ⟨!b', ?_, by rw [← hiff, Bool.not_eq_true']; simp⟩
  rw [unequal, not_comparesSized ha hb, result_bind_ok _ hb']
  rfl

end

/-- Positional tuples are totally ordered, of whatever classes and lengths, if what stands at each position
is, which may be tuples again.  Every comparison says what the first difference says, whichever tuple is
asked. -/
theorem tuples_totally_ordered {position : Nat → Kind} (h : ∀ i, (position i).Ordered w.isSubclass)
    (ha : w.read a = .slots c xs) (hb : w.read b = .slots d ys) (he : w.read e = .slots f zs)
    (hxs : Fits (fun i => (position i).Has) xs) (hys : Fits (fun i => (position i).Has) ys)
    (hzs : Fits (fun i => (position i).Has) zs) :
    let less := Before (Datum.IsLess w.isSubclass) Datum.IsSame
    let same := List.Forall₂ Datum.IsSame
    OneOf (less xs ys) (same xs ys) (less ys xs) ∧
    (relation .lt a b).Tells w (less xs ys) ∧ (relation .gt a b).Tells w (less ys xs) ∧
    (relation .le a b).Tells w (less xs ys ∨ same xs ys) ∧
    (relation .ge a b).Tells w (less ys xs ∨ same xs ys) ∧
    (equal a b).Tells w (same xs ys) ∧ (unequal a b).Tells w (¬same xs ys) ∧
    (relation .ge a b).result w = (relation .le b a).result w ∧
    (equal a b).result w = (equal b a).result w ∧
    ((relation .lt a b).result w = (.ok (.bool true), w) →
      (relation .lt b e).result w = (.ok (.bool true), w) →
      (relation .lt a e).result w = (.ok (.bool true), w)) := by
  intro less same
  have hlists := OrdersOn.lists fun i => (h i).has.orders
  have htells := fun r => tells_relation (r := r) h ha hb hxs hys
  have hequal := tells_equal h ha hb hxs
  have hsymm : same ys xs ↔ same xs ys := ⟨hlists.symm hys hxs, hlists.symm hxs hys⟩
  refine ⟨hlists.oneOf hxs hys, htells .lt, htells .gt, htells .le, htells .ge, hequal, ?_, ?_, ?_, ?_⟩
  · exact tells_unequal h ha hb hxs
  · exact (htells .ge).eq_of_iff (tells_relation h hb ha hys hxs .le)
      (or_congr_right hsymm.symm)
  · exact hequal.eq_of_iff (tells_equal h hb ha hys) hsymm.symm
  · rw [(htells .lt).true_iff, (tells_relation h hb he hys hzs .lt).true_iff,
      (tells_relation h ha he hxs hzs .lt).true_iff]
    exact hlists.less_trans hxs hys hzs

/-- Tuples of different classes and lengths, which hold a number and a tuple of texts. -/
def nested : World := { World.initial with
  heap := #[.slots LibraryClass.tuple1.className none [.str "a"],
    .slots LibraryClass.arrayTuple.className none [.int 1, .ref 0],
    .slots LibraryClass.arrayTuple.className none [.str "a", .str "b"],
    .slots LibraryClass.tuple2.className none [.bool true, .ref 2],
    .slots LibraryClass.tuple2.className none [.str "b", .str "a"],
    .slots LibraryClass.tuple3.className none [.int 1, .ref 4, .int 0]] }

/-- Numbers stand first and last in these tuples, and tuples of texts between them. -/
def nestedKind (i : Nat) : Kind :=
  if i = 1 then .tuples fun _ => .plain Datum.IsWord else .plain Datum.IsNumber

/-- Texts as they are held. -/
def words (ss : List String) : List Datum := ss.map fun s => .atom (.str s)

theorem fits_words (ss : List String) : Fits (fun _ => Datum.IsWord) (words ss) := by
  intro i t ht
  obtain ⟨s, -, rfl⟩ := List.mem_map.mp (List.mem_of_getElem? ht)
  exact ⟨_, _, rfl, rfl⟩

theorem ordered_nestedKind (sub : ClassName → ClassName → Bool) (i : Nat) :
    (nestedKind i).Ordered sub := by
  unfold nestedKind
  split
  · exact fun _ => Datum.ordered_texts
  · exact Datum.ordered_numbers

theorem fits_nestedKind {g : Atom} {n : Int} (hg : g.real? = some (.ofInt n)) (c : ClassName)
    (ss : List String) (ns : List Int) : Fits (fun i => (nestedKind i).Has)
      (.atom g :: .slots c (words ss) :: ns.map fun n => .atom (.int n)) := by
  refine fits_cons.mpr ⟨⟨g, _, rfl, hg, Nat.one_pos, nofun⟩, fits_cons.mpr ⟨⟨c, _, rfl, fits_words ss⟩,
    fun i t ht => ?_⟩⟩
  obtain ⟨m, -, rfl⟩ := List.mem_map.mp (List.mem_of_getElem? ht)
  exact ⟨_, _, rfl, rfl, Nat.one_pos, nofun⟩

/-- The number is the same in all three tuples, so that they are ordered by the texts inside. -/
theorem nested_ordered :
    (relation .lt (.ref 1) (.ref 3)).result nested = (.ok (.bool true), nested) ∧
    (relation .le (.ref 1) (.ref 3)).result nested = (.ok (.bool true), nested) ∧
    (unequal (.ref 1) (.ref 3)).result nested = (.ok (.bool true), nested) ∧
    (relation .lt (.ref 1) (.ref 5)).result nested = (.ok (.bool true), nested) := by
  have hwords : ∀ (ss ts : List String) {c d : ClassName},
      Before (Datum.IsLess nested.isSubclass) Datum.IsSame (words ss) (words ts) →
        Datum.IsLess nested.isSubclass (.slots c (words ss)) (.slots d (words ts)) := fun ss ts c d =>
    (Datum.isLess_slots (fun _ => Datum.ordered_texts) (fits_words ss) (fits_words ts) c d).mpr
  have hnumber : Datum.IsSame (.atom (.int 1)) (.atom (.bool true)) := rfl
  have hletter : Datum.IsSame (.atom (.str "a")) (.atom (.str "a")) := rfl
  have hletters : Datum.IsLess nested.isSubclass (.atom (.str "a")) (.atom (.str "b")) := by
    rw [Datum.IsLess, Datum.rel]
    decide
  have hone : nested.read (.ref 1) = .slots _ [.atom (.int 1),
      .slots LibraryClass.tuple1.className (words ["a"])] := rfl
  have htwo : nested.read (.ref 3) = .slots _ [.atom (.bool true),
      .slots LibraryClass.arrayTuple.className (words ["a", "b"])] := rfl
  have hthree : nested.read (.ref 5) = .slots _ [.atom (.int 1),
      .slots LibraryClass.tuple2.className (words ["b", "a"]), .atom (.int 0)] := rfl
  have hordered := ordered_nestedKind nested.isSubclass
  have hfirst := tuples_totally_ordered hordered hone htwo hthree (fits_nestedKind rfl _ ["a"] [])
    (fits_nestedKind rfl _ ["a", "b"] []) (fits_nestedKind rfl _ ["b", "a"] [0])
  have hlater := tuples_totally_ordered hordered htwo hthree hone (fits_nestedKind rfl _ ["a", "b"] [])
    (fits_nestedKind rfl _ ["b", "a"] [0]) (fits_nestedKind rfl _ ["a"] [])
  obtain ⟨hfirst, hlt, -, hle, -, -, hne, -, -, htrans⟩ := hfirst
  have hless := hlt.true_iff.mpr (.same hnumber (.less (hwords ["a"] ["a", "b"] (.same hletter .ended))))
  have hbefore := hlt.true_iff.mp hless
  refine ⟨hless, hle.true_iff.mpr (.inl hbefore), ?_, htrans hless ?_⟩
  · obtain ⟨-, hdiffer, -⟩ | ⟨hnot, -⟩ | ⟨hnot, -⟩ := hfirst
    · exact hne.true_iff.mpr hdiffer
    · exact absurd hbefore hnot
    · exact absurd hbefore hnot
  · exact hlater.2.1.true_iff.mpr (.same hnumber (.less (hwords ["a", "b"] ["b", "a"] (.less hletters))))

end Run

end FunctionObjects
