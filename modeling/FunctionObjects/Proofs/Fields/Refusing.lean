import FunctionObjects.Proofs.Fields.Assigning
/-!
# What a refused output leaves in a tuple

An output with too few or too many items is refused before anything is written.  A reference that the
tuple does not have is only found when its turn has come, and nothing takes back what was written under the
references before it.
-/

namespace FunctionObjects

open Run World

/-- What is written of an output under some references, or of the fault that there was instead: the items
up to the first reference that cannot be written, if there are as many items as references. -/
def Contents.written {α : Type} (t : Contents α) (ρs : List Datum) :
    Except Fault (List α) → List (Datum × α)
  | .error _ => []
  | .ok as => if as.length = ρs.length then (ρs.zip as).takeWhile fun p => t.takes p.1 else []

namespace Fields

variable {α : Type} {r : Ref} {M : Meaning r α} {K : Datum → Prop} {c : ClassName} {w u v : World}
  {t : Contents α} {ρ : Datum} {a : α} {x y g : Value} {ps : List (Datum × α)} {qs : List Value}
  {pairs : List (Value × Value)}

/-- A position that a tuple does not have is refused. -/
theorem result_index_refused {count : Nat} (hx : u.Holds ρ x) (h : Contents.position? count ρ = none) :
    ∃ e, (PositionalTuple.index count x).result u = (.error e, u) := by
  obtain ⟨a, rfl, rfl⟩ | ⟨hρ, hx'⟩ := hx.atom_or
  · cases a with
    | int i =>
      have hrange : ¬ (0 ≤ i ∧ i < count) := fun hrange => by simp [Contents.position?, hrange] at h
      exact ⟨_, by rw [PositionalTuple.index, if_neg hrange]; rfl⟩
    | _ => exact ⟨_, rfl⟩
  · cases x with
    | atom a => exact absurd rfl (hx' a)
    | _ => exact ⟨_, rfl⟩

/-- A write under a reference that cannot be written changes nothing. -/
theorem result_put_refused (ht : M.IsTuple K c u t) (hx : M.key u ρ x) (h : t.takes ρ = false)
    (y : Value) (n : Nat) :
    ∃ e, ((Dispatch.ofDepth (n + 1)).method (.ref r) "put" [x, y]).result u = (.error e, u) := by
  rw [Dispatch.result_method_library n ht.isObject (ht.classOf ▸ ht.put) ht.attributes]
  cases t with
  | slots as =>
    obtain ⟨o, vs, hcell, hvs⟩ := ht.cell
    have hcontents : (PositionalTuple.contents (.ref r)).result u = (.ok (r, c, o, vs), u) := by
      simp [PositionalTuple.contents, result_bind, hcell]
    rw [Contents.takes, hvs.length_eq, Option.isSome_eq_false_iff, Option.isNone_iff_eq_none] at h
    obtain ⟨e, he⟩ := result_index_refused (M.holds hx) h
    exact ⟨e, (result_bind_ok _ hcontents).trans (result_bind_error _ he)⟩
  | fields es =>
    obtain ⟨o, vs, hcell, hvs⟩ := ht.cell
    have hcontents : (NamedTuple.contents (.ref r)).result u = (.ok (r, c, o, vs), u) := by
      simp [NamedTuple.contents, result_bind, hcell]
    have hinsert : (Run.insert vs x y).result u = (.error .wrongType, u) := by
      rw [Run.insert, result_bind_ok _ (result_get u),
        result_bind_error _ (Keyed.result_key_refused hx h)]
    exact ⟨_, (result_bind_ok _ hcontents).trans (result_bind_error _ hinsert)⟩

variable (hK : Datum.AreKeys K)

include hK

/-- Values are written one after the other up to the first reference that cannot be written. -/
theorem result_store_takeWhile (n : Nat) (hps : ∀ p ∈ ps, p.1.hashable = true → K p.1)
    (h : List.Forall₂ (fun p q => M.key w p.1 q.1 ∧ M.stands w p.2 q.2) ps pairs) (hu : Around r w u)
    (ht : M.IsTuple K c u t) : ∃ o v t', (store (.ofDepth (n + 1)) (.ref r) pairs).result u = (o, v) ∧
      t.putAll (ps.takeWhile fun p => t.takes p.1) = some t' ∧ M.IsTuple K c v t' ∧
      (o = .ok () ↔ ∀ p ∈ ps, t.takes p.1 = true) := by
  induction h generalizing u t with
  | nil => exact ⟨.ok (), u, t, rfl, rfl, ht, by simp⟩
  | @cons p q ps pairs hq _ ih =>
    rw [List.forall_mem_cons] at hps
    have hkey := M.key_later hu hq.1
    cases htakes : t.takes p.1 with
    | true =>
      obtain ⟨t₁, ht₁⟩ := Option.isSome_iff_exists.mp ((Contents.put_isSome t p.1 p.2).trans htakes)
      have hput := computes_put hK ht hkey hps.1 n (M.later hu hq.2)
      rw [ht₁] at hput
      obtain ⟨b, v₁, hresult, hv₁, htuple⟩ := hput
      obtain ⟨o, v, t', hstore, hputs, ht', hiff⟩ := ih hps.2 (hu.trans hv₁) htuple
      have hsame : (fun p : Datum × α => t₁.takes p.1) = fun p => t.takes p.1 :=
        funext fun p => Contents.takes_put ht₁ p.1
      rw [hsame] at hputs
      refine ⟨o, v, t', ?_, ?_, ht', ?_⟩
      · have hfirst : (do
            let _ ← (Dispatch.ofDepth (n + 1)).method (.ref r) "put" [q.1, q.2] : Run Unit).result u =
              (.ok (), v₁) := result_bind_ok _ hresult
        exact (result_bind_ok _ hfirst).trans hstore
      · rw [List.takeWhile_cons, htakes, if_pos rfl]
        exact Option.bind_eq_some_iff.mpr ⟨t₁, ht₁, hputs⟩
      · simpa [htakes, Contents.takes_put ht₁] using hiff
    | false =>
      obtain ⟨e, he⟩ := result_put_refused ht hkey htakes q.2 n
      have hfirst : (do
          let _ ← (Dispatch.ofDepth (n + 1)).method (.ref r) "put" [q.1, q.2] : Run Unit).result u =
            (.error e, u) := result_bind_error _ he
      refine ⟨.error e, u, t, result_bind_error _ hfirst, ?_, ht, ?_⟩
      · rw [List.takeWhile_cons, htakes, if_neg Bool.false_ne_true]
        rfl
      · simp [htakes]

/-- Values are written under as many references, up to the first one that cannot be written. -/
theorem result_write_written {ρs : List Datum} {as : List α} {ys : List Value} (g : Value) (n : Nat)
    (hρs : ∀ ρ ∈ ρs, ρ.hashable = true → K ρ) (hqs : List.Forall₂ (M.key u) ρs qs)
    (hys : List.Forall₂ (M.stands u) as ys) (ht : M.IsTuple K c u t) :
    ∃ o v t', (write (.ofDepth (n + 1)) g (.ref r) qs ys).result u = (o, v) ∧
      t.putAll (t.written ρs (.ok as)) = some t' ∧ M.IsTuple K c v t' ∧
      ∀ x, o = .ok x ↔ x = .ref r ∧ as.length = ρs.length ∧ ∀ ρ ∈ ρs, t.takes ρ = true := by
  rw [Contents.written, write, hqs.length_eq, hys.length_eq]
  by_cases hlength : ys.length = qs.length
  · have hpairs : ∀ p ∈ ρs.zip as, p.1.hashable = true → K p.1 := fun p hp =>
      hρs _ (List.of_mem_zip hp).1
    have hfst : (ρs.zip as).map (·.1) = ρs :=
      List.map_fst_zip (by rw [hqs.length_eq, hys.length_eq, hlength])
    obtain ⟨o, v, t', hstore, hputs, ht', hiff⟩ :=
      result_store_takeWhile hK n hpairs (forall₂_zip hqs hys) (.refl r u) ht
    have hall : (∀ p ∈ ρs.zip as, t.takes p.1 = true) ↔ ∀ ρ ∈ ρs, t.takes ρ = true := by
      conv_rhs => rw [← hfst]
      rw [List.forall_mem_map]
    rw [hall] at hiff
    rw [if_pos hlength, if_pos hlength]
    cases o with
    | error e =>
      have hsome : ¬ ∀ ρ ∈ ρs, t.takes ρ = true := by simpa using hiff
      exact ⟨_, v, t', result_bind_error _ hstore, hputs, ht', fun x =>
        iff_of_false (by simp) fun h => hsome h.2.2⟩
    | ok b =>
      have hvalue (x : Value) : (Except.ok (Value.ref r) : Except Fault Value) = .ok x ↔ x = .ref r :=
        Except.ok.injEq _ x ▸ eq_comm
      exact ⟨_, v, t', result_bind_ok _ hstore, hputs, ht', fun x =>
        (hvalue x).trans (iff_self_and.mpr fun _ => ⟨hlength, hiff.mp rfl⟩)⟩
  · rw [if_neg hlength, if_neg hlength]
    exact ⟨_, u, t, rfl, rfl, ht, fun x => iff_of_false (by simp) fun h => hlength h.2.1⟩

variable {ρs : List Datum} {o : Except Fault (List Value)} {t : Contents Value} {n : Nat}
  (hg : w.Projects g qs) (hread : (unpack (.ofDepth (n + 1)) qs.length y).result w = (o, u))
  (ht : (Meaning.itself r).IsTuple K c u t) (hρs : ∀ ρ ∈ ρs, ρ.hashable = true → K ρ)
  (hqs : List.Forall₂ ((Meaning.itself r).key u) ρs qs)

include hg hread ht hρs hqs

/-- What a call of the adapter leaves in the tuple, and when it succeeds. -/
theorem result_call_project_written (hne : ρs ≠ []) : ∃ o' v t',
    ((Dispatch.ofDepth (n + 2)).call g [.ref r, y]).result w = (o', v) ∧
      t.putAll (t.written ρs o) = some t' ∧ (Meaning.itself r).IsTuple K c v t' ∧
      ∀ x, o' = .ok x ↔ x = .ref r ∧
        ∃ ys, o = .ok ys ∧ ys.length = ρs.length ∧ ∀ ρ ∈ ρs, t.takes ρ = true := by
  have hqs' : qs ≠ [] := by
    rintro rfl
    exact hne (List.forall₂_nil_right_iff.mp hqs)
  rw [result_call_project hg hqs' y (n + 1)]
  cases o with
  | error e => exact ⟨.error e, u, t, result_bind_error _ hread, rfl, ht, by simp⟩
  | ok ys =>
    obtain ⟨o', v, t', hwrite, hputs, ht', hiff⟩ := result_write_written hK g n hρs hqs
      (List.forall₂_same.mpr fun y _ => (rfl : y = y)) ht
    exact ⟨o', v, t', (result_bind_ok _ hread).trans hwrite, hputs, ht', by simpa using hiff⟩

/-- An adapter that fails has written the items up to the first reference that cannot be written, if the
output has as many items as there are references, and nothing otherwise.  What the tuple has then is told
from what it has when the items have been read, which without a projection does not happen. -/
theorem failed_projection {e : Fault}
    (hfails : ((Dispatch.ofDepth (n + 2)).call g [.ref r, y]).result w = (.error e, v)) :
    (ρs = [] → v = w) ∧ (ρs ≠ [] → ∃ t', t.putAll (t.written ρs o) = some t' ∧
      (Meaning.itself r).IsTuple K c v t' ∧
      ∀ ys, o = .ok ys → ys.length = ρs.length → ∃ ρ ∈ ρs, t.takes ρ = false) := by
  constructor
  · rintro rfl
    cases hqs
    exact (Prod.mk.inj (hfails.symm.trans (result_call_project_nil hg y (n + 1)))).2
  · intro hne
    obtain ⟨o', v', t', hcall, hputs, ht', hiff⟩ := result_call_project_written hK hg hread ht hρs hqs hne
    obtain ⟨rfl, rfl⟩ := Prod.mk.inj (hfails.symm.trans hcall)
    refine ⟨t', hputs, ht', fun ys hys hlength => ?_⟩
    by_contra hall
    simp only [not_exists, not_and, Bool.not_eq_false] at hall
    cases (hiff (.ref r)).mpr ⟨rfl, ys, hys, hlength, hall⟩

end Fields

/-- A pair of numbers into which two more are to be written, the second one at a position that it does not
have: the first one has been written when the call fails. -/
theorem handing_refuses (n : Nat) :
    let w := handing [.int 10, .int 20] [] [.int 0, .int 5]
    ∃ e v, ((Dispatch.ofDepth (n + 2)).call (.ref 5) [.ref 0, .tuple [.int 1, .int 2]]).result w =
        (.error e, v) ∧
      (Meaning.itself 0).IsTuple Datum.IsPlainKey LibraryClass.arrayTuple.className v
        (.slots [.int 1, .int 20]) := by
  intro w
  have hread : (Fields.unpack (.ofDepth (n + 1)) 2 (.tuple [.int 1, .int 2])).result w =
      (.ok [.int 1, .int 2], w) := rfl
  obtain ⟨o, v, t', hcall, hputs, ht', hiff⟩ := Fields.result_call_project_written
    Datum.areKeys_plain (Handing.projects _ _ _) hread (Handing.isTuple _ _ _)
    (fun ρ hρ _ => Handing.plain_positions _ ρ hρ) (Stepping.key_positions _ [0, 5]) (by decide)
  obtain rfl : Contents.slots [.int 1, .int 20] = t' := Option.some.inj hputs
  cases o with
  | error e => exact ⟨e, v, hcall, ht'⟩
  | ok x =>
    obtain ⟨-, ys, -, -, hall⟩ := (hiff x).mp rfl
    cases hall (.atom (.int 5)) (by simp [positions])

/-- The call on the pair fails, and what is written is what comes before position 5. -/
theorem second_position_refused :
    let w := handing [.int 10, .int 20] [] [.int 0, .int 5]
    let t : Contents Value := .slots [.int 10, .int 20]
    ∃ e v, (Dispatch.standard.call (.ref 5) [.ref 0, .tuple [.int 1, .int 2]]).result w = (.error e, v) ∧
      ∃ t', t.putAll (t.written (positions [0, 5]) (.ok [.int 1, .int 2])) = some t' ∧
        (Meaning.itself 0).IsTuple Datum.IsPlainKey LibraryClass.arrayTuple.className v t' := by
  intro w t
  obtain ⟨e, v, hcall, -⟩ := handing_refuses 998
  have hread : (Fields.unpack (.ofDepth 999) 2 (.tuple [.int 1, .int 2])).result w =
      (.ok [.int 1, .int 2], w) := rfl
  obtain ⟨-, hfails⟩ := Fields.failed_projection Datum.areKeys_plain (Handing.projects _ _ _) hread
    (Handing.isTuple _ _ _) (fun ρ hρ _ => Handing.plain_positions _ ρ hρ)
    (Stepping.key_positions _ [0, 5]) hcall
  obtain ⟨t', hputs, ht', -⟩ := hfails (by decide)
  exact ⟨e, v, hcall, t', hputs, ht'⟩

/-- The call on the pair fails, and the pair is another one than before. -/
theorem not_failed_projection :
    let w := handing [.int 10, .int 20] [] [.int 0, .int 5]
    ∃ e v, (Dispatch.standard.call (.ref 5) [.ref 0, .tuple [.int 1, .int 2]]).result w = (.error e, v) ∧
      (v.read (.ref 0)).same (w.read (.ref 0)) = false := by
  intro w
  obtain ⟨e, v, hcall, ht'⟩ := handing_refuses 998
  refine ⟨e, v, hcall, ?_⟩
  have ht : (Meaning.itself 0).IsTuple _ _ w (.slots [.int 10, .int 20]) := Handing.isTuple _ _ _
  rw [read_numbers [1, 20] ht', read_numbers [10, 20] ht]
  decide

end FunctionObjects
