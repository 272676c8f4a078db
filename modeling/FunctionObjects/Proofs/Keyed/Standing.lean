import FunctionObjects.Proofs.Keyed.Entries
import FunctionObjects.Proofs.State.Running
/-!
# Entries of a cell

The entries of a dictionary or of a tuple addressed by name, and the entries that they stand for.
Looking up and putting in do on the ones what they do on the others.
-/

namespace FunctionObjects

open World Keyed

variable {α : Type} {r : Ref} {K : Datum → Prop} {w u : World} {es : List (Datum × α)}
  {vs : List (Value × Value)} {k : Datum} {a : α} {x y : Value}

/-- What an entry stands for: a key that it holds, and what its value stands for. -/
structure Meaning.StandsForEntry (M : Meaning r α) (K : Datum → Prop) (w : World) (t : Datum × α)
    (e : Value × Value) : Prop where
  isKey : K t.1
  key : M.key w t.1 e.1
  value : M.stands w t.2 e.2

/-- What entries stand for, one by one. -/
def Meaning.StandForEntries (M : Meaning r α) (K : Datum → Prop) (w : World)
    (es : List (Datum × α)) (vs : List (Value × Value)) : Prop :=
  List.Forall₂ (M.StandsForEntry K w) es vs

namespace Keyed

variable {M : Meaning r α}

theorem read_key (h : M.key w k x) : w.read x = k := read_of_holds (M.holds h)

theorem later (h : M.StandForEntries K w es vs) (hu : Around r w u) :
    M.StandForEntries K u es vs :=
  h.imp fun _ _ he => ⟨he.isKey, M.key_later hu he.key, M.later hu he.value⟩

theorem keys (h : M.StandForEntries K w es vs) : ∀ e ∈ es, K e.1 := by
  induction h with
  | nil => simp
  | cons he _ ih => exact List.forall_mem_cons.mpr ⟨he.isKey, ih⟩

/-- The same entries are found. -/
theorem value_find? (h : M.StandForEntries K w es vs) :
    M.stands w ((value? es k).getD M.nothing)
      (((vs.find? fun e => (w.read e.1).sameItem k).map (·.2)).getD .none) := by
  induction h with
  | nil => exact M.none w
  | @cons t e ts es he _ ih =>
    rw [value?, List.find?_cons, List.find?_cons, read_key he.key]
    cases t.1.sameItem k with
    | true => exact he.value
    | false => exact ih

theorem any_keys (h : M.StandForEntries K w es vs) :
    (vs.any fun e => (w.read e.1).sameItem k) = es.any fun e => e.1.sameItem k := by
  induction h with
  | nil => rfl
  | cons he _ ih => rw [List.any_cons, List.any_cons, read_key he.key, ih]

/-- Putting a value in keeps what the entries stand for. -/
theorem standForEntries_put (h : M.StandForEntries K w es vs) (hk : K k)
    (hx : M.key w k x) (hy : M.stands w a y) :
    M.StandForEntries K w (put es k a)
      (if vs.any fun e => (w.read e.1).sameItem k then
        vs.map fun e => if (w.read e.1).sameItem k then (e.1, y) else e
      else vs ++ [(x, y)]) := by
  rw [put, any_keys h]
  split
  · clear * - h hy
    induction h with
    | nil => exact .nil
    | @cons t e ts es he _ ih =>
      refine .cons ?_ ih
      simp only [read_key he.key]
      split
      · exact ⟨he.isKey, he.key, hy⟩
      · exact he
  · exact List.rel_append h (.cons ⟨hk, hx, hy⟩ .nil)

theorem result_key (hK : Datum.AreKeys K) (hk : K k) (hx : M.key w k x) :
    (Run.key x).result w = (.ok k, w) := by
  simp [Run.key, Run.result_bind, read_key hx, hK.hashable hk]

/-- A key that is looked up finds what stands for the value under it, or nothing. -/
theorem result_lookup? (hK : Datum.AreKeys K) (h : M.StandForEntries K w es vs) (hk : K k)
    (hx : M.key w k x) :
    ∃ o, (Run.lookup? vs x).result w = (.ok o, w) ∧
      M.stands w ((value? es k).getD M.nothing) (o.getD .none) := by
  refine ⟨_, ?_, value_find? h⟩
  rw [Run.lookup?, Run.result_bind_ok _ (Run.result_get w),
    Run.result_bind_ok _ (result_key hK hk hx)]
  rfl

/-- A value that is put in goes where it goes on data. -/
theorem result_insert (hK : Datum.AreKeys K) (h : M.StandForEntries K w es vs) (hk : K k)
    (hx : M.key w k x) (hy : M.stands w a y) :
    ∃ us, (Run.insert vs x y).result w = (.ok us, w) ∧
      M.StandForEntries K w (put es k a) us := by
  refine ⟨_, ?_, standForEntries_put h hk hx hy⟩
  rw [Run.insert, Run.result_bind_ok _ (Run.result_get w),
    Run.result_bind_ok _ (result_key hK hk hx)]
  split <;> rfl

end Keyed

end FunctionObjects
