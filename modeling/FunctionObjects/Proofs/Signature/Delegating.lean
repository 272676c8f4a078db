import Mathlib.Data.Fintype.Pigeonhole
import FunctionObjects.Signature.Recovery
/-!
# Sides taken from other functions

A chain takes its input from its first function and its output from its last one, and a negation takes
its input from what it negates.  Such a side is read off the signature of the other function.  Reading
looks through as many wrappers as there are cells.  That is enough: wrappers that come to an end are
different cells, and wrappers that hold each other in turn have no types however far one looks.
-/

namespace FunctionObjects

namespace LibraryClass

/-- The sides that are taken from other functions are computed for the side that they are named
after. -/
theorem side_of_property {k : LibraryClass} {s : Side} {p : Property}
    (h : k.member? s.attribute = some (.property p)) :
    (p = .compositeInput → s = .input) ∧ (p = .compositeOutput → s = .output) ∧
      (p = .negatedInput → s = .input) := by
  have hinput : k.member? "input_types" ≠ some (.property .compositeOutput) := by
    cases k <;> decide
  have houtput : k.member? "output_types" ≠ some (.property .compositeInput) ∧
      k.member? "output_types" ≠ some (.property .negatedInput) := by
    cases k <;> decide
  cases s with
  | input =>
    refine ⟨fun _ => rfl, ?_, fun _ => rfl⟩
    rintro rfl
    exact absurd h hinput
  | output =>
    refine ⟨?_, fun _ => rfl, ?_⟩
    · rintro rfl
      exact absurd h houtput.1
    · rintro rfl
      exact absurd h houtput.2

end LibraryClass

namespace World

variable {w : World} {s : Side} {v f : Value}

theorem ownMember?_library {c : ClassName} {name : String} {k : LibraryClass} {m : LibraryMember}
    (h : w.ownMember? c name = some (.library k m)) : k.className = c ∧ k.member? name = some m := by
  have harity : ownMember?.arity? w c name ≠ some (.library k m) := by
    unfold ownMember?.arity?
    split
    · split <;> simp
    · simp
  unfold ownMember? at h
  split at h
  · rename_i j hj
    split at h
    · cases h
      exact ⟨beq_iff_eq.mp (List.find?_some (p := fun j : LibraryClass => j.className == c) hj), ‹_›⟩
    · exact absurd h harity
  · split at h
    · split at h
      · cases h
      · split at h
        · simp at h
        · split at h
          · simp at h
          · exact absurd h harity
    · cases h

/-- What is defined by a class of the library is what that class defines, and whoever has it derives from
that class. -/
theorem member?_library {c : ClassName} {name : String} {k : LibraryClass} {m : LibraryMember}
    (h : w.member? c name = some (.library k m)) :
    k.className ∈ w.hierarchy.mro c ∧ k.member? name = some m := by
  unfold member? at h
  generalize w.hierarchy.mro c = cs at h
  induction cs with
  | nil => simp [memberIn?] at h
  | cons c cs ih =>
    rw [memberIn?] at h
    cases hown : w.ownMember? c name with
    | none =>
      obtain ⟨hmem, hk⟩ := ih (by simpa [hown] using h)
      exact ⟨List.mem_cons_of_mem _ hmem, hk⟩
    | some found =>
      obtain rfl : found = .library k m := by simpa [hown] using h
      obtain ⟨rfl, hk⟩ := ownMember?_library hown
      exact ⟨List.mem_cons_self, hk⟩

/-- What a library class has under a name is what the library defines there. -/
theorem libraryMember_of_member? {c : ClassName} {name : String} {k : LibraryClass}
    {m : LibraryMember} (h : w.member? c name = some (.library k m)) : k.member? name = some m :=
  (member?_library h).2

/-- Whoever takes a side from another function has something set. -/
theorem exists_ref_of_takenFrom? (h : w.takenFrom? s v = some f) :
    ∃ r, v = .ref r ∧ r < w.heap.size := by
  cases v with
  | ref r =>
    refine ⟨r, rfl, ?_⟩
    by_contra hout
    have hcell : w.heap[r]? = none := by simpa using hout
    have hempty : ∀ name, w.fieldOf (.ref r) name = .none := fun name => by
      simp [fieldOf, attributes, cell?, hcell]
    have hnone : w.functionsOf (.ref r) = [] := by
      simp [functionsOf, hempty, Value.none, sequence?]
    have hnothing : (w.fieldOf (.ref r) "predicate").isNone = true := by rw [hempty]; rfl
    simp only [takenFrom?, hnone, hnothing] at h
    split at h <;> simp at h
  | _ => simp [takenFrom?] at h

section

variable (inner inner' : Side → Value → Except Fault (List Ty))

/-- A side that is taken from another function is whatever is read there. -/
theorem recoveredTypes_of_takenFrom? (h : w.takenFrom? s v = some f) :
    w.recoveredTypes inner s v = inner s f := by
  obtain ⟨r, rfl, -⟩ := exists_ref_of_takenFrom? h
  have hnone : (Value.ref r).isNone = false := rfl
  suffices hstated : w.statedTypes? inner s (.ref r) = some <$> inner s f by
    rw [recoveredTypes, hnone, hstated]
    cases inner s f <;> rfl
  simp only [takenFrom?] at h
  simp only [statedTypes?]
  split at h <;> rename_i hmember
  · obtain rfl := (LibraryClass.side_of_property (libraryMember_of_member? hmember)).1 rfl
    simp only [functionsOf, fieldOf] at h
    simp only [hmember, propertyTypes?, h]
  · obtain rfl := (LibraryClass.side_of_property (libraryMember_of_member? hmember)).2.1 rfl
    simp only [functionsOf, fieldOf] at h
    simp only [hmember, propertyTypes?, h]
  · obtain rfl := (LibraryClass.side_of_property (libraryMember_of_member? hmember)).2.2 rfl
    split at h
    · cases h
    · rename_i hsome
      obtain rfl := Option.some.inj h
      simp only [fieldOf] at hsome ⊢
      simp only [hmember, propertyTypes?, hsome]
      rfl
  · cases h

/-- Any other side does not depend on how types are read of other values. -/
theorem recoveredTypes_congr (h : w.takenFrom? s v = none) :
    w.recoveredTypes inner s v = w.recoveredTypes inner' s v := by
  suffices hstated : w.statedTypes? inner s v = w.statedTypes? inner' s v by
    rw [recoveredTypes, hstated]
    rfl
  cases v with
  | ref r =>
    simp only [takenFrom?] at h
    simp only [statedTypes?]
    split
    · rename_i k p hmember
      simp only [hmember, functionsOf, fieldOf] at h
      cases p with
      | compositeInput | compositeOutput => simp only [propertyTypes?, h]
      | negatedInput =>
        have hnothing : (((w.attributes (.ref r)).lookup "predicate").getD .none).isNone = true := by
          by_contra hsome
          simp [hsome] at h
        simp only [propertyTypes?, hnothing, if_true]
      | _ => rfl
    · rfl
  | _ => rfl

end

/-- The types on a side that is taken from another function, looking through one wrapper more. -/
theorem typesWithin_of_takenFrom? (h : w.takenFrom? s v = some f) (n : Nat) :
    w.typesWithin (n + 1) s v = (do return (← w.signatureOf (← w.typesWithin n s f)).declared) := by
  rw [typesWithin, recoveredTypes_of_takenFrom? _ h]

/-- The function that is reached by so many steps to a function from which the side is taken. -/
def takenWithin? (w : World) (s : Side) : Nat → Value → Option Value
  | 0, v => some v
  | n + 1, v => (w.takenFrom? s v).bind (w.takenWithin? s n)

/-- Where the wrappers come to an end, looking further changes nothing. -/
theorem typesWithin_of_takenWithin?_none {n : Nat} (h : w.takenWithin? s n v = none) :
    w.typesWithin (n + 1) s v = w.typesWithin n s v := by
  induction n generalizing v with
  | zero => simp [takenWithin?] at h
  | succ n ih =>
    cases hf : w.takenFrom? s v with
    | none =>
      rw [typesWithin, typesWithin]
      exact recoveredTypes_congr _ _ hf
    | some f =>
      have hend : w.takenWithin? s n f = none := by simpa [takenWithin?, hf] using h
      rw [typesWithin_of_takenFrom? hf, typesWithin_of_takenFrom? hf, ih hend]

/-- Where the wrappers never come to an end, nothing is ever read. -/
theorem typesWithin_of_takenWithin?_some (h : ∀ n, (w.takenWithin? s n v).isSome) (n : Nat) :
    w.typesWithin n s v = .error .tooDeep := by
  induction n generalizing v with
  | zero => rfl
  | succ n ih =>
    cases hf : w.takenFrom? s v with
    | none => simpa [takenWithin?, hf] using h 1
    | some f =>
      have hmore : ∀ n, (w.takenWithin? s n f).isSome := fun n => by
        simpa [takenWithin?, hf] using h (n + 1)
      rw [typesWithin_of_takenFrom? hf, ih hmore]
      rfl

theorem takenWithin?_add {m n : Nat} :
    w.takenWithin? s (m + n) v = (w.takenWithin? s m v).bind (w.takenWithin? s n) := by
  induction m generalizing v with
  | zero => simp [takenWithin?]
  | succ m ih =>
    have hadd : m + 1 + n = (m + n) + 1 := by omega
    rw [hadd, takenWithin?, takenWithin?, Option.bind_assoc]
    congr 1
    funext f
    exact ih

theorem isSome_takenWithin?_of_le {m n : Nat} (hmn : m ≤ n) (h : (w.takenWithin? s n v).isSome) :
    (w.takenWithin? s m v).isSome := by
  obtain ⟨k, rfl⟩ := Nat.exists_eq_add_of_le hmn
  rw [takenWithin?_add] at h
  cases hm : w.takenWithin? s m v with
  | none => simp [hm] at h
  | some f => rfl

/-- Wrappers that come back to one of them never come to an end. -/
theorem isSome_takenWithin?_of_cycle {i k : Nat} (hk : 0 < k)
    (hcycle : w.takenWithin? s (i + k) v = w.takenWithin? s i v) (hi : (w.takenWithin? s i v).isSome)
    (n : Nat) : (w.takenWithin? s n v).isSome := by
  have hround : ∀ m, w.takenWithin? s (i + m * k) v = w.takenWithin? s i v := by
    intro m
    induction m with
    | zero => simp
    | succ m ih =>
      have hmul : i + (m + 1) * k = (i + m * k) + k := by rw [Nat.succ_mul]; omega
      rw [hmul, takenWithin?_add, ih, ← takenWithin?_add, hcycle]
  have hle : n ≤ i + n * k := Nat.le_trans (Nat.le_mul_of_pos_right n hk) (Nat.le_add_left _ _)
  exact isSome_takenWithin?_of_le hle (by rw [hround n]; exact hi)

/-- More wrappers in a row than there are cells hold each other in turn. -/
theorem isSome_takenWithin?_of_size (h : (w.takenWithin? s (w.heap.size + 1) v).isSome) (n : Nat) :
    (w.takenWithin? s n v).isSome := by
  have hcell : ∀ i : Fin (w.heap.size + 1), ∃ r : Fin w.heap.size,
      w.takenWithin? s i v = some (.ref r) := by
    intro i
    have hnext := isSome_takenWithin?_of_le (Nat.succ_le_of_lt i.isLt) h
    rw [← Nat.add_one, takenWithin?_add] at hnext
    cases hi : w.takenWithin? s i v with
    | none => simp [hi] at hnext
    | some f =>
      obtain ⟨g, hg⟩ : ∃ g, w.takenFrom? s f = some g := by
        rw [← Option.isSome_iff_exists]
        simpa [hi, takenWithin?, Option.bind_fun_some] using hnext
      obtain ⟨r, rfl, hr⟩ := exists_ref_of_takenFrom? hg
      exact ⟨⟨r, hr⟩, rfl⟩
  choose cell hwithin using hcell
  obtain ⟨i, j, hne, hsame⟩ := Fintype.exists_ne_map_eq_of_card_lt cell (by simp)
  have hback : ∀ a b : Fin (w.heap.size + 1), a < b → cell a = cell b →
      (w.takenWithin? s n v).isSome := by
    intro a b hlt hab
    have hsum : (a : Nat) + (b - a) = b := by omega
    have hstart : (w.takenWithin? s a v).isSome := by rw [hwithin a]; rfl
    refine isSome_takenWithin?_of_cycle (Nat.sub_pos_of_lt hlt) ?_ hstart n
    rw [hsum, hwithin a, hwithin b, hab]
  rcases lt_or_gt_of_ne hne with hlt | hgt
  · exact hback i j hlt hsame
  · exact hback j i hgt hsame.symm

/-- The types on a side that is taken from another function are those that its signature there stands
for; where there is no signature, there are no types. -/
theorem declaredTypes_of_takenFrom? (h : w.takenFrom? s v = some f) :
    w.declaredTypes s v = Signature.declared <$> w.signature s f := by
  have henough : w.typesWithin w.heap.size s f = w.typesWithin (w.heap.size + 1) s f := by
    cases hend : w.takenWithin? s w.heap.size f with
    | none => exact (typesWithin_of_takenWithin?_none hend).symm
    | some g =>
      have hmore : ∀ n, (w.takenWithin? s n f).isSome := fun n => by
        have hall := isSome_takenWithin?_of_size (w := w) (s := s) (v := v)
          (by simp [takenWithin?, h, hend]) (n + 1)
        simpa [takenWithin?, h] using hall
      rw [typesWithin_of_takenWithin?_some hmore, typesWithin_of_takenWithin?_some hmore]
  rw [declaredTypes, typesWithin_of_takenFrom? h, henough, signature, declaredTypes]
  cases w.typesWithin (w.heap.size + 1) s f with
  | error e => rfl
  | ok ts => cases hs : w.signatureOf ts <;> simp [hs, bind, Except.bind, pure, Except.pure]

theorem takenWithin?_eq_some {n : Nat} (h : (w.takenWithin? s n v).isSome) :
    w.takenWithin? s n v = some (w.sourceWithin s n v) := by
  induction n generalizing v with
  | zero => rfl
  | succ n ih =>
    cases hf : w.takenFrom? s v with
    | none => simp [takenWithin?, hf] at h
    | some f =>
      have hinner : (w.takenWithin? s n f).isSome := by simpa [takenWithin?, hf] using h
      simpa [takenWithin?, sourceWithin, hf] using ih hinner

/-- Where the wrappers have come to an end, the function in them has been found. -/
theorem sourceWithin_succ {n : Nat} (h : w.takenWithin? s (n + 1) v = none) :
    w.sourceWithin s (n + 1) v = w.sourceWithin s n v := by
  induction n generalizing v with
  | zero =>
    have hf : w.takenFrom? s v = none := by
      cases hf : w.takenFrom? s v with
      | none => rfl
      | some f => simp [takenWithin?, hf] at h
    simp [sourceWithin, hf]
  | succ n ih =>
    cases hf : w.takenFrom? s v with
    | none => simp [sourceWithin, hf]
    | some f =>
      have hend : w.takenWithin? s (n + 1) f = none := by simpa [takenWithin?, hf] using h
      rw [sourceWithin, sourceWithin, hf]
      exact ih hend

/-- A value that takes a side from no other one is what its types are read of. -/
theorem sourceWithin_of_takenFrom?_none (h : w.takenFrom? s v = none) (n : Nat) :
    w.sourceWithin s n v = v := by
  cases n with
  | zero => rfl
  | succ n => simp [sourceWithin, h]

/-- Where the wrappers never come to an end, nothing is joined. -/
theorem joins?_of_takenWithin?_some (h : ∀ n, (w.takenWithin? s n v).isSome) : w.joins? s v = none := by
  have hsource : ∀ n, (w.takenWithin? s n (w.sourceWithin s w.heap.size v)).isSome := fun n => by
    have hmore := h (w.heap.size + n)
    rwa [takenWithin?_add, takenWithin?_eq_some (h _)] at hmore
  rw [joins?, declaredTypes, typesWithin_of_takenWithin?_some hsource]

/-- A side that is taken from another function is read by joining the same types. -/
theorem joins?_of_takenFrom? (h : w.takenFrom? s v = some f) : w.joins? s v = w.joins? s f := by
  obtain ⟨r, -, hr⟩ := exists_ref_of_takenFrom? h
  obtain ⟨n, hn⟩ := Nat.exists_eq_succ_of_ne_zero (Nat.ne_zero_of_lt hr)
  cases hend : w.takenWithin? s w.heap.size f with
  | none =>
    have hsource : w.sourceWithin s w.heap.size v = w.sourceWithin s w.heap.size f := by
      rw [hn] at hend ⊢
      rw [sourceWithin_succ hend, sourceWithin, h]
    rw [joins?, joins?, hsource]
  | some g =>
    have hall := isSome_takenWithin?_of_size (w := w) (s := s) (v := v)
      (by simp [takenWithin?, h, hend])
    have hinner : ∀ n, (w.takenWithin? s n f).isSome := fun n => by
      simpa [takenWithin?, h] using hall (n + 1)
    rw [joins?_of_takenWithin?_some hall, joins?_of_takenWithin?_some hinner]

/-- The signature of a side that is taken from another function is that of the type for which the
signature there stands. -/
theorem signature_of_takenFrom? (h : w.takenFrom? s v = some f) :
    w.signature s v = (fun t => Signature.ofTy w.classes t.type) <$> w.signature s f := by
  rw [signature, declaredTypes_of_takenFrom? h]
  cases w.signature s f <;> rfl

end World

end FunctionObjects
