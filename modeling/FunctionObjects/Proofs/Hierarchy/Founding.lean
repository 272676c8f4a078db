import FunctionObjects.Class.Declare
import FunctionObjects.Proofs.Hierarchy.Walking
import FunctionObjects.Proofs.State.Running
/-!
# Tables that are built class by class

The root comes first, and a class is declared with bases that are there already.  So every class stands
behind its bases in the table, after every declaration if it did before.
-/

namespace FunctionObjects

namespace ClassTable

variable {t t' : ClassTable} {seen more : List ClassName} {bases : List Ty}

/-- Whether the classes behind some bases are among some classes. -/
def basesAmong (seen : List ClassName) (bases : List Ty) : Bool :=
  bases.all fun b => b.originClass?.all seen.contains

/-- Whether the bases of every class stand before it, if some classes stand before all of them. -/
def basesFirst : List ClassName → ClassTable → Bool
  | _, [] => true
  | seen, i :: t => basesAmong seen i.bases && basesFirst (i.name :: seen) t

/-- Whether the root is the first class and every other one stands behind its bases. -/
def isOrdered : ClassTable → Bool
  | [] => false
  | i :: t => i.name == .object && i.bases.isEmpty && basesFirst [i.name] t

theorem basesAmong_iff :
    basesAmong seen bases = true ↔ ∀ b ∈ bases, ∀ e, b.originClass? = some e → e ∈ seen := by
  simp [basesAmong, Option.all_eq_true]

theorem basesFirst_concat {i : ClassInfo} (ht : basesFirst seen t = true)
    (hi : basesAmong (seen ++ t.map (·.name)) i.bases = true) : basesFirst seen (t ++ [i]) = true := by
  induction t generalizing seen with
  | nil => simpa [basesFirst] using hi
  | cons j t ih =>
    simp only [basesFirst, List.cons_append, Bool.and_eq_true] at ht ⊢
    refine ⟨ht.1, ih ht.2 ?_⟩
    rw [basesAmong_iff] at hi ⊢
    exact fun b hb e he => by simpa [or_left_comm] using hi b hb e he

/-- A class that is declared with known bases stands behind them. -/
theorem isOrdered_declare? {name : ClassName} {abstract : Bool} {traits : List (Trait × Bool)}
    {arity : Option (Option Nat)} (ht : t.isOrdered = true)
    (hbases : basesAmong (t.map (·.name)) bases = true)
    (h : t.declare? name bases abstract traits arity = some t') : t'.isOrdered = true := by
  obtain ⟨mro, -, heq⟩ := Option.bind_eq_some_iff.mp h
  obtain rfl := Option.some.inj heq
  cases t with
  | nil => cases ht
  | cons i t =>
    simp only [isOrdered, List.cons_append, Bool.and_eq_true] at ht ⊢
    exact ⟨ht.1, basesFirst_concat ht.2 (by simpa using hbases)⟩

end ClassTable

/-- A caller who declares a class with known bases leaves an ordered table. -/
theorem Run.isOrdered_declareClass {w w' : World} {decl : Declaration} {bases : List Ty}
    {arity : Option Nat} (ht : w.hierarchy.table.isOrdered = true)
    (hbases : ClassTable.basesAmong (w.hierarchy.table.map (·.name)) bases = true)
    (h : (declareClass decl bases arity).result w = (.ok (), w')) :
    w'.hierarchy.table.isOrdered = true := by
  simp only [declareClass] at h
  rw [result_bind_ok _ (result_get w)] at h
  split at h
  · cases h
  · split at h
    · rename_i table htable
      obtain rfl := (Prod.mk.inj h).2
      exact ClassTable.isOrdered_declare? ht hbases htable
    · cases h

namespace Hierarchy

variable {h : Hierarchy}

theorem rank_le_of_append {front back : ClassTable} {i : ClassInfo} (ht : h.table = front ++ i :: back) :
    h.rank i.name ≤ front.length := by
  by_contra hlt
  have hnot := List.not_of_lt_findIdx (Nat.lt_of_not_le hlt)
  simp [ht] at hnot

theorem info_eq (h : Hierarchy) (c : ClassName) :
    h.info c = (h.table[h.rank c]?).getD ⟨c, [], [c, .object], [], false, [], none⟩ := by
  rw [info, ClassTable.find?, List.find?_eq_getElem?_findIdx]
  rfl

/-- Behind some classes, a class stands behind its bases if they come first. -/
theorem rank_lt_of_basesFirst {front back : ClassTable} {seen : List ClassName}
    (ht : h.table = front ++ back) (hseen : ∀ c ∈ seen, h.rank c < front.length)
    (hback : ClassTable.basesFirst seen back = true) {c : ClassName} {i : ClassInfo}
    (hi : h.table[h.rank c]? = some i) (hc : front.length ≤ h.rank c) :
    ∀ b ∈ i.bases, ∀ e, b.originClass? = some e → h.rank e < h.rank c := by
  induction back generalizing front seen with
  | nil =>
    have hlt := (List.getElem?_eq_some_iff.mp hi).1
    simp only [ht, List.append_nil] at hlt
    omega
  | cons j back ih =>
    simp only [ClassTable.basesFirst, Bool.and_eq_true] at hback
    rcases Nat.eq_or_lt_of_le hc with heq | hlt
    · obtain rfl : j = i := by simpa [ht, ← heq] using hi
      intro b hb e he
      have hlt := hseen e (ClassTable.basesAmong_iff.mp hback.1 b hb e he)
      omega
    · have hlen : (front ++ [j]).length = front.length + 1 := by simp
      have hmore : h.table = (front ++ [j]) ++ back := by simp [ht]
      refine ih hmore (fun e he => ?_) hback.2 (by omega)
      rcases List.mem_cons.mp he with rfl | he
      · have hj := rank_le_of_append ht
        omega
      · have hlt := hseen e he
        omega

theorem founded_of_isOrdered (ht : h.table.isOrdered = true) : h.Founded := by
  intro c b hb e he
  match htable : h.table, ht with
  | o :: t, ht =>
    simp only [ClassTable.isOrdered, Bool.and_eq_true, beq_iff_eq, List.isEmpty_iff] at ht
    obtain ⟨⟨hname, hbases⟩, hrest⟩ := ht
    have hroot : h.rank .object = 0 := by simp [rank, htable, List.findIdx_cons, hname]
    rw [ownBases] at hb
    split at hb
    · rename_i hbare
      obtain ⟨-, hne⟩ : (h.info c).bases.isEmpty = true ∧ c ≠ .object := by simpa using hbare
      obtain rfl : ClassName.object = e := by
        obtain rfl := List.mem_singleton.mp hb
        exact Option.some.inj he
      simp [rank, htable, List.findIdx_cons, hname, beq_false_of_ne hne.symm]
    · rw [info_eq] at hb
      cases hi : h.table[h.rank c]? with
      | none => simp [hi] at hb
      | some i =>
        rw [hi, Option.getD_some] at hb
        have hpos : 1 ≤ h.rank c := by
          by_contra hzero
          obtain rfl : o = i := by simpa [htable, show h.rank c = 0 by omega] using hi
          simp [hbases] at hb
        have hfront : h.table = [o] ++ t := htable
        have hseen : ∀ c ∈ [o.name], h.rank c < [o].length := by simp [hname, hroot]
        exact rank_lt_of_basesFirst hfront hseen hrest hi hpos b hb e he

end Hierarchy

end FunctionObjects
