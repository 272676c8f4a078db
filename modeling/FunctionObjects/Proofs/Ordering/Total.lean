import Mathlib.Algebra.Order.Field.Rat
import Mathlib.Data.List.Forall2
import Mathlib.Data.List.Lex
import Mathlib.Order.WithBot
import FunctionObjects.Proofs.Equality.Freezing
/-!
# Total orders

An order need not be one of equal things: all that counts is that some relation behaves as equality does.
Lists whose items stand, position by position, in such an order are ordered by their first difference.
Numbers of all kinds are ordered by their values unless they are not a number, and texts by the code points
of their characters.
-/

namespace FunctionObjects

variable {α : Type} {less same : α → α → Prop}

/-- Exactly one of three things is the case. -/
def OneOf (p q r : Prop) : Prop := (p ∧ ¬q ∧ ¬r) ∨ (¬p ∧ q ∧ ¬r) ∨ (¬p ∧ ¬q ∧ r)

/-- Among some things, `less` is a total order with `same` as its equality. -/
structure OrdersOn (less same : α → α → Prop) (S : α → Prop) : Prop where
  refl : ∀ {x}, S x → same x x
  symm : ∀ {x y}, S x → S y → same x y → same y x
  trans : ∀ {x y z}, S x → S y → S z → same x y → same y z → same x z
  oneOf : ∀ {x y}, S x → S y → OneOf (less x y) (same x y) (less y x)
  less_trans : ∀ {x y z}, S x → S y → S z → less x y → less y z → less x z

namespace OrdersOn

variable {S : α → Prop} {x y z : α} (h : OrdersOn less same S)

include h

theorem not_same (hx : S x) (hy : S y) (hless : less x y) : ¬same x y ∧ ¬less y x := by
  obtain h' | h' | h' := h.oneOf hx hy
  · exact h'.2
  · exact absurd hless h'.1
  · exact absurd hless h'.1

/-- What is equal to something less is less. -/
theorem same_less (hx : S x) (hy : S y) (hz : S z) (hsame : same x y) (hless : less y z) :
    less x z := by
  obtain h' | h' | h' := h.oneOf hx hz
  · exact h'.1
  · exact absurd (h.trans hy hx hz (h.symm hx hy hsame) h'.2.1) (h.not_same hy hz hless).1
  · exact absurd (h.symm hx hy hsame) (h.not_same hy hx (h.less_trans hy hz hx hless h'.2.2)).1

/-- What something equal is less than is greater. -/
theorem less_same (hx : S x) (hy : S y) (hz : S z) (hless : less x y) (hsame : same y z) :
    less x z := by
  obtain h' | h' | h' := h.oneOf hx hz
  · exact h'.1
  · exact absurd (h.trans hx hz hy h'.2.1 (h.symm hy hz hsame)) (h.not_same hx hy hless).1
  · exact absurd (h.symm hy hz hsame) (h.not_same hz hy (h.less_trans hz hx hy h'.2.2 hless)).1

end OrdersOn

/-- Whether a list comes before another one: at the first position at which they differ, the first list has
ended or holds less. -/
inductive Before (less same : α → α → Prop) : List α → List α → Prop where
  | ended {y : α} {ys : List α} : Before less same [] (y :: ys)
  | less {x y : α} {xs ys : List α} : less x y → Before less same (x :: xs) (y :: ys)
  | same {x y : α} {xs ys : List α} : same x y → Before less same xs ys →
      Before less same (x :: xs) (y :: ys)

/-- Whether a list holds at each position what may stand there. -/
def Fits (S : Nat → α → Prop) (xs : List α) : Prop := ∀ i x, xs[i]? = some x → S i x

namespace Before

variable {S : Nat → α → Prop} {x y : α} {xs ys zs : List α}

theorem nil_iff : Before less same [] ys ↔ ys ≠ [] := by
  constructor
  · rintro ⟨⟩
    exact nofun
  · intro h
    cases ys with
    | nil => exact absurd rfl h
    | cons => exact .ended

theorem not_nil : ¬Before less same xs [] := nofun

theorem cons_iff : Before less same (x :: xs) (y :: ys) ↔
    less x y ∨ same x y ∧ Before less same xs ys := by
  constructor
  · rintro (_ | h | ⟨h, h'⟩)
    · exact .inl h
    · exact .inr ⟨h, h'⟩
  · rintro (h | ⟨h, h'⟩)
    · exact .less h
    · exact .same h h'

end Before

theorem fits_cons {S : Nat → α → Prop} {x : α} {xs : List α} :
    Fits S (x :: xs) ↔ S 0 x ∧ Fits (fun i => S (i + 1)) xs := by
  constructor
  · exact fun h => ⟨h 0 x rfl, fun i y hy => h (i + 1) y hy⟩
  · rintro ⟨hx, hxs⟩ (_ | i) y hy
    · exact Option.some.inj hy ▸ hx
    · exact hxs i y hy

section Lists

variable {S : Nat → α → Prop} {xs ys zs : List α} (h : ∀ i, OrdersOn less same (S i))

include h

/-- One of two lists comes before the other one unless they are the same at each position. -/
theorem oneOf_lists (hxs : Fits S xs) (hys : Fits S ys) :
    OneOf (Before less same xs ys) (List.Forall₂ same xs ys) (Before less same ys xs) := by
  induction xs generalizing S ys with
  | nil => cases ys <;> simp [OneOf, Before.nil_iff, Before.not_nil]
  | cons x xs ih =>
    cases ys with
    | nil => simp [OneOf, Before.nil_iff, Before.not_nil]
    | cons y ys =>
      obtain ⟨hx, hxs⟩ := fits_cons.mp hxs
      obtain ⟨hy, hys⟩ := fits_cons.mp hys
      have hrest := ih (fun i => h (i + 1)) hxs hys
      have hsymm : same y x ↔ same x y := ⟨(h 0).symm hy hx, (h 0).symm hx hy⟩
      simp only [OneOf, Before.cons_iff, List.forall₂_cons, hsymm] at hrest ⊢
      -- The rest of the lists counts only where the first items are the same.
      obtain ⟨hless, hsame, hmore⟩ | ⟨hless, hsame, hmore⟩ | ⟨hless, hsame, hmore⟩ := (h 0).oneOf hx hy
      · simp [hless, hsame, hmore]
      · simpa [hless, hsame, hmore] using hrest
      · simp [hless, hsame, hmore]

theorem before_trans (hxs : Fits S xs) (hys : Fits S ys) (hzs : Fits S zs)
    (hxy : Before less same xs ys) (hyz : Before less same ys zs) : Before less same xs zs := by
  induction hxy generalizing S zs with
  | ended =>
    cases hyz with
    | less | same => exact .ended
  | less hxy =>
    obtain ⟨hx, -⟩ := fits_cons.mp hxs
    obtain ⟨hy, -⟩ := fits_cons.mp hys
    cases hyz with
    | less hyz => exact .less ((h 0).less_trans hx hy (fits_cons.mp hzs).1 hxy hyz)
    | same hyz => exact .less ((h 0).less_same hx hy (fits_cons.mp hzs).1 hxy hyz)
  | same hxy _ ih =>
    obtain ⟨hx, hxs⟩ := fits_cons.mp hxs
    obtain ⟨hy, hys⟩ := fits_cons.mp hys
    cases hyz with
    | less hyz => exact .less ((h 0).same_less hx hy (fits_cons.mp hzs).1 hxy hyz)
    | same hyz hrest =>
      obtain ⟨hz, hzs⟩ := fits_cons.mp hzs
      exact .same ((h 0).trans hx hy hz hxy hyz) (ih (fun i => h (i + 1)) hxs hys hzs hrest)

/-- Lists are ordered by their first difference if what may stand at each position is ordered. -/
theorem OrdersOn.lists : OrdersOn (Before less same) (List.Forall₂ same) (Fits S) where
  refl := by
    intro xs hxs
    induction xs generalizing S with
    | nil => exact .nil
    | cons x xs ih =>
      obtain ⟨hx, hxs⟩ := fits_cons.mp hxs
      exact .cons ((h 0).refl hx) (ih (fun i => h (i + 1)) hxs)
  symm := by
    intro xs ys hxs hys hsame
    induction hsame generalizing S with
    | nil => exact .nil
    | cons hxy _ ih =>
      obtain ⟨hx, hxs⟩ := fits_cons.mp hxs
      obtain ⟨hy, hys⟩ := fits_cons.mp hys
      exact .cons ((h 0).symm hx hy hxy) (ih (fun i => h (i + 1)) hxs hys)
  trans := by
    intro xs ys zs hxs hys hzs hxy hyz
    induction hxy generalizing S zs with
    | nil => exact hyz
    | cons hxy _ ih =>
      cases hyz with
      | cons hyz hrest =>
        obtain ⟨hx, hxs⟩ := fits_cons.mp hxs
        obtain ⟨hy, hys⟩ := fits_cons.mp hys
        obtain ⟨hz, hzs⟩ := fits_cons.mp hzs
        exact .cons ((h 0).trans hx hy hz hxy hyz) (ih (fun i => h (i + 1)) hxs hys hzs hrest)
  oneOf := oneOf_lists h
  less_trans := before_trans h

end Lists

/-! ## Numbers and texts -/

namespace OrdersOn

variable {β : Type} {S : α → Prop}

/-- What is told by places in a linear order is totally ordered. -/
theorem of_places [LinearOrder β] (place : α → β)
    (hless : ∀ {x y}, S x → S y → (less x y ↔ place x < place y))
    (hsame : ∀ {x y}, S x → S y → (same x y ↔ place x = place y)) : OrdersOn less same S where
  refl hx := (hsame hx hx).mpr rfl
  symm hx hy h := (hsame hy hx).mpr ((hsame hx hy).mp h).symm
  trans hx hy hz h h' := (hsame hx hz).mpr (((hsame hx hy).mp h).trans ((hsame hy hz).mp h'))
  oneOf {x y} hx hy := by
    rw [OneOf, hless hx hy, hsame hx hy, hless hy hx]
    obtain h | h | h := lt_trichotomy (place x) (place y)
    · exact .inl ⟨h, h.ne, h.asymm⟩
    · exact .inr (.inl ⟨h.not_lt, h, h.not_gt⟩)
    · exact .inr (.inr ⟨h.asymm, h.ne', h⟩)
  less_trans hx hy hz h h' := (hless hx hz).mpr (((hless hx hy).mp h).trans ((hless hy hz).mp h'))

end OrdersOn

namespace Magnitude

/-- The place of a number among the quotients, with an infinite one below and above them. -/
def place : Magnitude → WithBot (WithTop ℚ)
  | .ratio n d => ((n / d : ℚ) : WithTop ℚ)
  | .infinite true => ⊥
  | .infinite false => (⊤ : WithTop ℚ)
  | .nan => ⊥

/-- Whether there is a number, with a denominator if it is a quotient. -/
def IsNumber (m : Magnitude) : Prop := m.Sound ∧ m ≠ .nan

theorem place_ratio_lt {m n : Int} {d e : Nat} (hd : 0 < d) (he : 0 < e) (h : m * e < n * d) :
    (ratio m d).place < (ratio n e).place := by
  refine WithBot.coe_lt_coe.mpr (WithTop.coe_lt_coe.mpr ?_)
  rw [div_lt_div_iff₀ (by exact_mod_cast hd) (by exact_mod_cast he)]
  exact_mod_cast h

theorem place_ratio_eq {m n : Int} {d e : Nat} (hd : 0 < d) (he : 0 < e) (h : m * e = n * d) :
    (ratio m d).place = (ratio n e).place := by
  have hquotient : (m / d : ℚ) = n / e := by
    rw [div_eq_div_iff (by exact_mod_cast hd.ne') (by exact_mod_cast he.ne')]
    exact_mod_cast h
  rw [place, place, hquotient]

/-- Numbers are compared by their places. -/
theorem compare?_eq {a b : Magnitude} (ha : a.IsNumber) (hb : b.IsNumber) :
    a.compare? b = some (compare a.place b.place) := by
  have hlow : ∀ x : WithTop ℚ, compare (⊥ : WithBot (WithTop ℚ)) x = .lt := fun x =>
    compare_lt_iff_lt.mpr (WithBot.bot_lt_coe x)
  have hhigh : ∀ x : WithTop ℚ, compare (x : WithBot (WithTop ℚ)) ⊥ = .gt := fun x =>
    compare_gt_iff_gt.mpr (WithBot.bot_lt_coe x)
  have htop : ∀ x : ℚ, ((x : WithTop ℚ) : WithBot (WithTop ℚ)) < (⊤ : WithTop ℚ) := fun x =>
    WithBot.coe_lt_coe.mpr (WithTop.coe_lt_top x)
  have hequal : ∀ x : WithBot (WithTop ℚ), compare x x = .eq := fun x => compare_eq_iff_eq.mpr rfl
  obtain ⟨ha, hnan⟩ := ha
  obtain ⟨hb, hnan'⟩ := hb
  cases a with
  | nan => exact absurd rfl hnan
  | infinite s =>
    cases b with
    | nan => exact absurd rfl hnan'
    | infinite t =>
      cases s <;> cases t
      · exact congrArg some (hequal _).symm
      · exact congrArg some (hhigh _).symm
      · exact congrArg some (hlow _).symm
      · exact congrArg some (hequal _).symm
    | ratio n e =>
      cases s
      · exact congrArg some (compare_gt_iff_gt.mpr (htop _)).symm
      · exact congrArg some (hlow _).symm
  | ratio m d =>
    cases b with
    | nan => exact absurd rfl hnan'
    | infinite t =>
      cases t
      · exact congrArg some (compare_lt_iff_lt.mpr (htop _)).symm
      · exact congrArg some (hhigh _).symm
    | ratio n e =>
      rw [compare?]
      obtain h | h | h := lt_trichotomy (m * e) (n * d)
      · rw [compare_lt_iff_lt.mpr h, compare_lt_iff_lt.mpr (place_ratio_lt ha hb h)]
      · rw [compare_eq_iff_eq.mpr h, compare_eq_iff_eq.mpr (place_ratio_eq ha hb h)]
      · rw [compare_gt_iff_gt.mpr h, compare_gt_iff_gt.mpr (place_ratio_lt hb ha h)]

theorem same_iff_place {a b : Magnitude} (ha : a.IsNumber) (hb : b.IsNumber) :
    a.same b = true ↔ a.place = b.place := by
  rw [same, compare?_eq ha hb, beq_iff_eq, Option.some.injEq, compare_eq_iff_eq]

end Magnitude

theorem Atom.number?_of_real? {a : Atom} {m : Magnitude} (h : a.real? = some m) :
    a.number? = some (m, .ofInt 0) := by
  unfold number?
  split
  · cases h
  · cases h
  · rw [h]
    rfl

/-- Code points are compared as lists of numbers are. -/
theorem compare_codes {cs ds : List Nat} : compare cs ds = .lt ↔ cs < ds := by
  induction cs generalizing ds with
  | nil => cases ds <;> simp
  | cons c cs ih =>
    cases ds with
    | nil => simp
    | cons d ds =>
      rw [List.compare_cons_cons, List.cons_lt_cons_iff, ← ih]
      obtain h | rfl | h := lt_trichotomy c d
      · simp [compare_lt_iff_lt.mpr h, h]
      · simp
      · simp [compare_gt_iff_gt.mpr h, h.asymm, h.ne']

namespace Datum

variable {sub : ClassName → ClassName → Bool}

/-- Whether a datum is less than another one. -/
def IsLess (sub : ClassName → ClassName → Bool) (x y : Datum) : Prop := rel sub .lt x y = .ok true

/-- Whether two data are equal. -/
def IsSame (x y : Datum) : Prop := x.same y = true

/-- Among some data "less than" has an answer, and with equality it is a total order. -/
structure Ordered (sub : ClassName → ClassName → Bool) (S : Datum → Prop) : Prop where
  answers : ∀ {x y}, S x → S y → ∃ b, rel sub .lt x y = .ok b
  orders : OrdersOn (IsLess sub) IsSame S

/-- Whether a datum is a number that has a place among the others. -/
def IsNumber (t : Datum) : Prop := ∃ a m, t = .atom a ∧ a.real? = some m ∧ m.IsNumber

/-- Whether a datum is a text. -/
def IsWord (t : Datum) : Prop := ∃ a s, t = .atom a ∧ a.text? = some s

/-- The place of a number among the others. -/
def place (t : Datum) : WithBot (WithTop ℚ) :=
  match t with
  | .atom a => (a.real?.getD .nan).place
  | _ => ⊥

/-- The code points of a text. -/
def codes (t : Datum) : List Nat :=
  match t with
  | .atom a => (a.text?.getD "").toList.map Char.toNat
  | _ => []

/-- Numbers of all kinds are totally ordered. -/
theorem ordered_numbers : Ordered sub IsNumber := by
  have hrel : ∀ {a b : Atom} {m n : Magnitude}, a.real? = some m → b.real? = some n → m.IsNumber →
      n.IsNumber → rel sub .lt (.atom a) (.atom b) = .ok (compare m.place n.place == .lt) := by
    intro a b m n ha hb hm hn
    simp only [rel, Atom.rel, ha, hb, Magnitude.compare?_eq hm hn]
    rfl
  constructor
  · rintro _ _ ⟨a, m, rfl, ha, hm⟩ ⟨b, n, rfl, hb, hn⟩
    exact ⟨_, hrel ha hb hm hn⟩
  refine .of_places place ?_ ?_
  · rintro _ _ ⟨a, m, rfl, ha, hm⟩ ⟨b, n, rfl, hb, hn⟩
    simp only [IsLess, hrel ha hb hm hn, place, ha, hb, Option.getD_some, Except.ok.injEq, beq_iff_eq,
      compare_lt_iff_lt]
  · rintro _ _ ⟨a, m, rfl, ha, hm⟩ ⟨b, n, rfl, hb, hn⟩
    have hzero : (Magnitude.ofInt 0).same (.ofInt 0) = true := rfl
    rw [IsSame, same, Atom.same_of_number (Atom.number?_of_real? ha) (Atom.number?_of_real? hb), hzero,
      Bool.and_true, Magnitude.same_iff_place hm hn]
    simp only [place, ha, hb, Option.getD_some]

/-- Texts are totally ordered. -/
theorem ordered_texts : Ordered sub IsWord := by
  have hreal : ∀ {a : Atom} {s : String}, a.text? = some s → a.real? = Option.none := by
    intro a s ha
    cases hm : a.real? with
    | none => rfl
    | some m => cases (Atom.number?_of_text? ha).symm.trans (Atom.number?_of_real? hm)
  have hrel : ∀ {a b : Atom} {s t : String}, a.text? = some s → b.text? = some t →
      rel sub .lt (.atom a) (.atom b) = .ok (compareText s t == .lt) := by
    intro a b s t ha hb
    simp only [rel, Atom.rel, hreal ha, ha, hb]
    rfl
  constructor
  · rintro _ _ ⟨a, s, rfl, ha⟩ ⟨b, t, rfl, hb⟩
    exact ⟨_, hrel ha hb⟩
  refine .of_places codes ?_ ?_
  · rintro _ _ ⟨a, s, rfl, ha⟩ ⟨b, t, rfl, hb⟩
    simp only [IsLess, hrel ha hb, codes, ha, hb, Option.getD_some, Except.ok.injEq, beq_iff_eq,
      compareText_eq, compare_codes]
  · rintro _ _ ⟨a, s, rfl, ha⟩ ⟨b, t, rfl, hb⟩
    have hcodes : s.toList.map Char.toNat = t.toList.map Char.toNat ↔ s = t := by
      rw [(List.map_injective_iff.mpr fun _ _ => Char.toNat_inj.mp).eq_iff, String.toList_inj]
    rw [IsSame, same, Atom.same.eq_def, Atom.number?_of_text? ha, Atom.number?_of_text? hb, ha, hb]
    simp only [codes, ha, hb, Option.getD_some, hcodes, beq_iff_eq]

end Datum

end FunctionObjects
