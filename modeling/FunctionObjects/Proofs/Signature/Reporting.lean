import Mathlib.Data.Set.Card
import FunctionObjects.Proofs.Hierarchy.Library
import FunctionObjects.Proofs.Signature.Collecting
import FunctionObjects.Proofs.Validation.Merging
/-!
# Reporting the positions that fail

A check meets the positions of a signature from left to right and adds one message for each that fails: a
single type that does not fit, or a tuple for which there are more or fewer types than it has positions.
The message of a single type names its path, which tells it from all others.  The message of a tuple names
only the types, so that tuples with the same types, checked against the same types, share one.
-/

namespace FunctionObjects

namespace ValidationResult

/-- A log has one entry for each message exactly if the messages are different. -/
theorem length_foldl_record_iff {ms : List String} :
    (ms.foldl record []).length = ms.length ↔ ms.Nodup := by
  constructor
  · intro hlen
    have hsub : ms.foldl record [] ⊆ ms := fun m hm => by simpa using mem_foldl_record.mp hm
    have hnodup : (ms.foldl record []).Nodup := nodup_foldl_record .nil ms
    exact ((hnodup.subperm hsub).perm_of_length_le hlen.ge).nodup hnodup
  · intro hnodup
    have hfold : ms.foldl record [] = [] ++ ms := foldl_record_of_nodup hnodup
    rw [hfold, List.nil_append]

end ValidationResult

namespace Signature

/-- Why a position fails. -/
inductive Failure where
  /-- A candidate does not fit the type of the position. -/
  | type (own candidate : Ty)
  /-- There are other than as many candidates as the position is to have types. -/
  | count (expected got : List Ty)

/-- The message of a position that fails. -/
def Failure.message (side : Side) (path : List Nat) : Failure → String
  | .type own candidate => typeMessage side path own candidate
  | .count expected got => countMessage expected got

/-- The positions of a signature that fail, each with its path and the reason. -/
inductive Fails (k : Classes) (side : Side) : Signature → List Ty → List Nat → Failure → Prop where
  | type {t c : Ty} : fits k side t c = false → Fails k side (.single t) [c] [] (.type t c)
  | single {t : Ty} {cs : List Ty} : cs.length ≠ 1 → Fails k side (.single t) cs [] (.count [t] cs)
  | count {t : Ty} {parts : List Signature} {cs : List Ty} :
      (expand k parts.length cs).length ≠ parts.length →
      Fails k side (.tuple t parts) cs [] (.count (parts.map type) (expand k parts.length cs))
  | inside {t c : Ty} {parts : List Signature} {cs : List Ty} {s : Signature} {i : Nat}
      {path : List Nat} {f : Failure} :
      (expand k parts.length cs).length = parts.length → parts[i]? = some s →
      (expand k parts.length cs)[i]? = some c → Fails k side s [c] path f →
      Fails k side (.tuple t parts) cs (i :: path) f

/-- Adds the message of a position that fails. -/
def report (side : Side) (r : ValidationResult) (failing : List Nat × Failure) : ValidationResult :=
  r.addError (failing.2.message side failing.1)

mutual

/-- The positions that fail, in the order in which a check meets them. -/
def failures (k : Classes) (side : Side) : Signature → List Nat → List Ty → List (List Nat × Failure)
  | single t, path, cs =>
    match cs with
    | [c] => if fits k side t c then [] else [(path, .type t c)]
    | cs => [(path, .count [t] cs)]
  | tuple _ parts, path, cs =>
    if (expand k parts.length cs).length = parts.length then
      failuresAll k side parts path 0 (expand k parts.length cs)
    else [(path, .count (parts.map type) (expand k parts.length cs))]

/-- Those of the parts of a tuple, the first of which stands at a position. -/
def failuresAll (k : Classes) (side : Side) :
    List Signature → List Nat → Nat → List Ty → List (List Nat × Failure)
  | s :: ss, path, i, c :: cs =>
    failures k side s (path ++ [i]) [c] ++ failuresAll k side ss path (i + 1) cs
  | _, _, _, _ => []

end

variable {k : Classes} {side : Side}

mutual

/-- A check reports the positions that fail, one after the other. -/
theorem collect_eq_foldl : ∀ (s : Signature) (path : List Nat) (cs : List Ty) (r : ValidationResult),
    collect k side s path cs r = (failures k side s path cs).foldl (report side) r
  | single t, path, [c], r => by
    simp only [collect, failures]
    split <;> rfl
  | single t, path, [], r => rfl
  | single t, path, _ :: _ :: _, r => rfl
  | tuple t parts, path, cs, r => by
    simp only [collect, failures]
    split
    · exact collectAll_eq_foldl parts path 0 _ r
    · rfl

theorem collectAll_eq_foldl : ∀ (ss : List Signature) (path : List Nat) (i : Nat) (cs : List Ty)
    (r : ValidationResult),
    collectAll k side ss path i cs r = (failuresAll k side ss path i cs).foldl (report side) r
  | s :: ss, path, i, c :: cs, r => by
    rw [collectAll, failuresAll, List.foldl_append, collectAll_eq_foldl ss, collect_eq_foldl s]
  | [], _, _, _, _ => by simp [collectAll, failuresAll]
  | _ :: _, _, _, [], _ => by simp [collectAll, failuresAll]

end

mutual

/-- Exactly the positions that fail are met as failing. -/
theorem mem_failures : ∀ {s : Signature} {path p : List Nat} {cs : List Ty} {f : Failure},
    (p, f) ∈ failures k side s path cs ↔ ∃ q, p = path ++ q ∧ Fails k side s cs q f
  | single t, path, p, cs, f => by
    simp only [failures]
    constructor
    · intro hmem
      split at hmem
      · rename_i c
        split at hmem
        · cases hmem
        · rename_i hfits
          obtain ⟨rfl, rfl⟩ := Prod.mk.inj (List.mem_singleton.mp hmem)
          exact ⟨[], (List.append_nil _).symm, .type (Bool.eq_false_iff.mpr hfits)⟩
      · rename_i hcs
        obtain ⟨rfl, rfl⟩ := Prod.mk.inj (List.mem_singleton.mp hmem)
        refine ⟨[], (List.append_nil _).symm, .single fun hlen => ?_⟩
        obtain ⟨c, rfl⟩ := List.length_eq_one_iff.mp hlen
        exact hcs c rfl
    · rintro ⟨q, rfl, hfails⟩
      cases hfails with
      | type hfits => simp [hfits]
      | single hlen =>
        split
        · exact absurd rfl hlen
        · simp
  | tuple t parts, path, p, cs, f => by
    simp only [failures]
    constructor
    · intro hmem
      split at hmem
      · rename_i hlen
        obtain ⟨j, s, c, q, rfl, hs, hc, hfails⟩ := mem_failuresAll.mp hmem
        rw [Nat.zero_add]
        exact ⟨j :: q, rfl, .inside hlen hs hc hfails⟩
      · rename_i hlen
        obtain ⟨rfl, rfl⟩ := Prod.mk.inj (List.mem_singleton.mp hmem)
        exact ⟨[], (List.append_nil _).symm, .count hlen⟩
    · rintro ⟨q, rfl, hfails⟩
      cases hfails with
      | count hlen => simp [hlen]
      | @inside _ c _ _ s i q _ hlen hs hc hfails =>
        rw [if_pos hlen]
        exact mem_failuresAll.mpr ⟨i, s, c, q, by rw [Nat.zero_add], hs, hc, hfails⟩

theorem mem_failuresAll : ∀ {ss : List Signature} {path p : List Nat} {i : Nat} {cs : List Ty}
    {f : Failure}, (p, f) ∈ failuresAll k side ss path i cs ↔
      ∃ j s c q, p = path ++ (i + j) :: q ∧ ss[j]? = some s ∧ cs[j]? = some c ∧
        Fails k side s [c] q f
  | s :: ss, path, p, i, c :: cs, f => by
    rw [failuresAll, List.mem_append, mem_failures, mem_failuresAll]
    constructor
    · rintro (⟨q, rfl, hfails⟩ | ⟨j, s', c', q, rfl, hs, hc, hfails⟩)
      · exact ⟨0, s, c, q, by simp, rfl, rfl, hfails⟩
      · exact ⟨j + 1, s', c', q, by rw [Nat.add_right_comm, Nat.add_assoc], hs, hc, hfails⟩
    · rintro ⟨j, s', c', q, rfl, hs, hc, hfails⟩
      cases j with
      | zero =>
        obtain rfl : s = s' := Option.some.inj hs
        obtain rfl : c = c' := Option.some.inj hc
        exact .inl ⟨q, by simp, hfails⟩
      | succ j =>
        exact .inr ⟨j, s', c', q, by rw [Nat.add_right_comm, Nat.add_assoc], hs, hc, hfails⟩
  | [], _, _, _, _, _ => by simp [failuresAll]
  | _ :: _, _, _, _, [], _ => by simp [failuresAll]

end

mutual

/-- No position is met twice. -/
theorem nodup_failures : ∀ (s : Signature) (path : List Nat) (cs : List Ty),
    ((failures k side s path cs).map Prod.fst).Nodup
  | single t, path, cs => by
    simp only [failures]
    split
    · split <;> simp
    · simp
  | tuple t parts, path, cs => by
    simp only [failures]
    split
    · exact nodup_failuresAll parts path 0 _
    · simp

theorem nodup_failuresAll : ∀ (ss : List Signature) (path : List Nat) (i : Nat) (cs : List Ty),
    ((failuresAll k side ss path i cs).map Prod.fst).Nodup
  | s :: ss, path, i, c :: cs => by
    rw [failuresAll, List.map_append, List.nodup_append]
    refine ⟨nodup_failures s _ _, nodup_failuresAll ss path (i + 1) cs, ?_⟩
    intro p hp p' hp' heq
    obtain ⟨⟨p, f⟩, hf, rfl⟩ := List.mem_map.mp hp
    obtain ⟨⟨p', f'⟩, hf', rfl⟩ := List.mem_map.mp hp'
    obtain ⟨q, rfl, -⟩ := mem_failures.mp hf
    obtain ⟨j, _, _, q', rfl, -⟩ := mem_failuresAll.mp hf'
    simp at heq
    omega
  | [], _, _, _ => by simp [failuresAll]
  | _ :: _, _, _, [] => by simp [failuresAll]

end

section Paths

variable {path path' : List Nat}

theorem position_of_ne_nil (hpath : path ≠ []) :
    (position path).toList = ['.'].intercalate (path.map fun i => Nat.toDigits 10 i) := by
  have hempty : path.isEmpty = false := by simpa using hpath
  rw [position, hempty, if_neg Bool.false_ne_true, String.toList_intercalate, List.map_map]
  congr 1
  exact List.map_congr_left fun i _ => Nat.toList_repr

/-- Different paths are named differently. -/
theorem position_inj (hpath : path ≠ []) (hpath' : path' ≠ []) (h : position path = position path') :
    path = path' := by
  have hsplit {path : List Nat} (hpath : path ≠ []) :
      List.splitOn '.' (position path).toList = path.map fun i => Nat.toDigits 10 i := by
    rw [position_of_ne_nil hpath]
    refine List.splitOn_intercalate '.' ?_ (by simpa using hpath)
    intro digits hdigits hdot
    obtain ⟨i, -, rfl⟩ := List.mem_map.mp hdigits
    cases Nat.isDigit_of_mem_toDigits (by decide) (by decide) hdot
  have hdigits := (hsplit hpath).symm.trans ((congrArg _ (congrArg _ h)).trans (hsplit hpath'))
  have hinj : Function.Injective fun i => Nat.toDigits 10 i :=
    Function.LeftInverse.injective (g := fun digits => Nat.ofDigitChars 10 digits 0) fun _ =>
      Nat.ofDigitChars_ten_toDigits
  exact List.map_injective_iff.mpr hinj hdigits

/-- No path has a colon in its name. -/
theorem colon_not_mem_position (path : List Nat) : ':' ∉ (position path).toList := by
  by_cases hpath : path = []
  · subst hpath
    decide
  rw [position_of_ne_nil hpath]
  clear hpath
  induction path with
  | nil => simp
  | cons i path ih =>
    have hdigits : ':' ∉ Nat.toDigits 10 i := by
      intro hcolon
      cases Nat.isDigit_of_mem_toDigits (by decide) (by decide) hcolon
    cases path with
    | nil => simpa using hdigits
    | cons j path =>
      rw [List.map_cons, List.map_cons, List.intercalate_cons_cons, ← List.map_cons]
      simpa [hdigits] using ih

/-- What comes before the first colon is the name of the path. -/
theorem position_eq_of_append {rest rest' : List Char}
    (h : (position path).toList ++ ':' :: rest = (position path').toList ++ ':' :: rest') :
    position path = position path' := by
  have hbefore (path : List Nat) (rest : List Char) :
      ((position path).toList ++ ':' :: rest).takeWhile (· ≠ ':') = (position path).toList := by
    rw [List.takeWhile_append_of_pos]
    · simp
    · intro c hc
      simpa using ne_of_mem_of_not_mem hc (colon_not_mem_position path)
  have htexts := congrArg (List.takeWhile (· ≠ ':')) h
  rw [hbefore, hbefore] at htexts
  exact String.toList_inj.mp htexts

end Paths

section Messages

variable {side : Side} {path path' : List Nat} {own own' c c' : Ty}

theorem typeMessage_input (path : List Nat) (own c : Ty) : typeMessage .input path own c =
    "Incompatible input type at position " ++ position path ++ ": expected " ++ own.name ++ ", got " ++
      c.name := rfl

theorem typeMessage_output (path : List Nat) (own c : Ty) : typeMessage .output path own c =
    "Incompatible output type at position " ++ position path ++ ": function returns " ++ own.name ++
      ", but " ++ c.name ++ " is required" := rfl

theorem countMessage_eq (expected got : List Ty) : countMessage expected got =
    "Incompatible number of types. Expected " ++ toString expected.length ++ " [" ++ listed expected ++
      "], got " ++ toString got.length ++ " [" ++ listed got ++ "]" := rfl

/-- The message of a single type tells its path. -/
theorem position_eq_of_typeMessage (h : typeMessage side path own c = typeMessage side path' own' c') :
    position path = position path' := by
  have hexpected : ": expected ".toList = ':' :: " expected ".toList := by decide
  have hreturns : ": function returns ".toList = ':' :: " function returns ".toList := by decide
  cases side with
  | input =>
    have hlist := congrArg String.toList h
    simp only [typeMessage_input, String.toList_append, List.append_assoc] at hlist
    rw [hexpected] at hlist
    exact position_eq_of_append (List.append_cancel_left hlist)
  | output =>
    have hlist := congrArg String.toList h
    simp only [typeMessage_output, String.toList_append, List.append_assoc] at hlist
    rw [hreturns] at hlist
    exact position_eq_of_append (List.append_cancel_left hlist)

/-- No message of a single type is that of a tuple. -/
theorem typeMessage_ne_countMessage (side : Side) (path : List Nat) (own c : Ty) (expected got : List Ty) :
    typeMessage side path own c ≠ countMessage expected got := by
  have hin : "Incompatible input type at position ".toList =
      "Incompatible ".toList ++ 'i' :: "nput type at position ".toList := by decide
  have hout : "Incompatible output type at position ".toList =
      "Incompatible ".toList ++ 'o' :: "utput type at position ".toList := by decide
  have hcount : "Incompatible number of types. Expected ".toList =
      "Incompatible ".toList ++ 'n' :: "umber of types. Expected ".toList := by decide
  intro h
  have hlist := congrArg String.toList h
  cases side with
  | input =>
    simp only [typeMessage_input, countMessage_eq, String.toList_append, hin, hcount, List.append_assoc,
      List.cons_append] at hlist
    have hmarks := (List.cons.inj (List.append_cancel_left hlist)).1
    exact absurd hmarks (by decide)
  | output =>
    simp only [typeMessage_output, countMessage_eq, String.toList_append, hout, hcount, List.append_assoc,
      List.cons_append] at hlist
    have hmarks := (List.cons.inj (List.append_cancel_left hlist)).1
    exact absurd hmarks (by decide)

end Messages

variable {s : Signature} {cs : List Ty} {path path' : List Nat} {f f' : Failure} {own c : Ty}

/-- A position fails for one reason. -/
theorem Fails.unique (hf : Fails k side s cs path f) (hf' : Fails k side s cs path f') : f = f' := by
  have hmem := mem_failures.mpr ⟨path, (List.nil_append _).symm, hf⟩
  have hmem' := mem_failures.mpr ⟨path, (List.nil_append _).symm, hf'⟩
  exact (Prod.mk.inj (List.inj_on_of_nodup_map (nodup_failures s [] cs) hmem hmem' rfl)).2

/-- The message of a single type belongs to one position. -/
theorem Fails.path_eq (hf : Fails k side s cs path (.type own c)) (hf' : Fails k side s cs path' f')
    (hmessage : f'.message side path' = typeMessage side path own c) : path' = path := by
  cases f' with
  | count es gs => exact absurd hmessage.symm (typeMessage_ne_countMessage side path own c es gs)
  | type own' c' =>
    have hposition := position_eq_of_typeMessage hmessage
    cases s with
    | single t =>
      cases hf
      cases hf'
      rfl
    | tuple t parts =>
      have hne {path : List Nat} {own c : Ty} (hf : Fails k side (.tuple t parts) cs path (.type own c)) :
          path ≠ [] := by
        cases hf
        exact List.cons_ne_nil _ _
      exact position_inj (hne hf') (hne hf) hposition

theorem errors_foldl_report (fs : List (List Nat × Failure)) (r : ValidationResult) :
    (fs.foldl (report side) r).errors =
      (fs.map fun x => x.2.message side x.1).foldl ValidationResult.record r.errors := by
  induction fs generalizing r with
  | nil => rfl
  | cons f fs ih => exact ih _

theorem errors_assignable : (s.assignable k side cs).errors =
    ((failures k side s [] cs).map fun x => x.2.message side x.1).foldl ValidationResult.record [] := by
  rw [assignable, collect_eq_foldl, errors_foldl_report]
  rfl

theorem ncard_failing :
    {path | ∃ f, Fails k side s cs path f}.ncard = (failures k side s [] cs).length := by
  have hset : {path | ∃ f, Fails k side s cs path f} =
      ↑((failures k side s [] cs).map Prod.fst).toFinset := by
    ext path
    simp [mem_failures]
  rw [hset, Set.ncard_coe_finset, List.toFinset_card_of_nodup (nodup_failures s [] cs), List.length_map]

/-- There are as many errors as positions that fail exactly if the messages of these are different. -/
theorem length_errors_iff : (s.assignable k side cs).errors.length =
    {path | ∃ f, Fails k side s cs path f}.ncard ↔
      ((failures k side s [] cs).map fun x => x.2.message side x.1).Nodup := by
  rw [errors_assignable, ncard_failing, ← ValidationResult.length_foldl_record_iff, List.length_map]

/-- The errors of a check are the messages of the positions that fail, and that of a single type, which
names the path of its position, belongs to no other one.  So there are as many errors as positions that
fail exactly if the messages of those that get a wrong number of types are different. -/
theorem failing_reported (k : Classes) (side : Side) (s : Signature) (cs : List Ty) :
    let errors := (s.assignable k side cs).errors
    (∀ m, m ∈ errors ↔ ∃ path f, Fails k side s cs path f ∧ f.message side path = m) ∧
    (∀ path own c, Fails k side s cs path (.type own c) → ∀ path' f, Fails k side s cs path' f →
      f.message side path' = typeMessage side path own c → path' = path) ∧
    (errors.length = {path | ∃ f, Fails k side s cs path f}.ncard ↔
      ∀ path es gs, Fails k side s cs path (.count es gs) →
        ∀ path' es' gs', Fails k side s cs path' (.count es' gs') →
          countMessage es gs = countMessage es' gs' → path = path') := by
  intro errors
  have hmem {path f} : (path, f) ∈ failures k side s [] cs ↔ Fails k side s cs path f := by
    simp [mem_failures]
  refine ⟨fun m => ?_, fun path own c hf path' f hf' => hf.path_eq hf', ?_⟩
  · simp [errors, errors_assignable, ValidationResult.mem_foldl_record, hmem]
  · rw [length_errors_iff, List.nodup_map_iff_inj_on (List.Nodup.of_map _ (nodup_failures s [] cs))]
    constructor
    · intro hinj path es gs hf path' es' gs' hf' hmessage
      exact congrArg Prod.fst (hinj _ (hmem.mpr hf) _ (hmem.mpr hf') hmessage)
    · rintro hcounts ⟨path, f⟩ hf ⟨path', f'⟩ hf' hmessage
      rw [hmem] at hf hf'
      have hpath : path = path' := by
        cases f with
        | type own c => exact (hf.path_eq hf' hmessage.symm).symm
        | count es gs =>
          cases f' with
          | type own' c' => exact hf'.path_eq hf hmessage
          | count es' gs' => exact hcounts path es gs hf path' es' gs' hf' hmessage
      subst hpath
      rw [hf.unique hf']

/-- Two pairs of numbers in a pair, where neither class has positions, checked against two numbers: both
fail, with the same message. -/
theorem length_errors_pairs {k : Classes} (htuple : k.arity? .tuple = none)
    (hint : k.arity? (.core "int") = none) :
    let int : Ty := .cls (.core "int")
    let pair (t : Ty) : Ty := .app (.cls .tuple) [t, t]
    let s := ofTy k (pair (pair int))
    s.classes.length = [int, int].length ∧ (s.assignable k .input [int, int]).errors.length ≠
      {path | ∃ f, Fails k .input s [int, int] path f}.ncard := by
  intro int pair s
  have hnumber : ofTy k int = .single int := by simp [int, ofTy, hint]
  have hpair {t : Ty} (ht : t.same .ellipsis = false) :
      ofTy k (pair t) = .tuple (pair t) [ofTy k t, ofTy k t] := by
    simp [pair, ofTy, ofTypes, Classes.isTupleForm, htuple, ht]
  have hs : s = .tuple (pair (pair int)) [.tuple (pair int) [.single int, .single int],
      .tuple (pair int) [.single int, .single int]] := by
    rw [← hnumber, ← hpair rfl, ← hpair rfl]
  have hexpand : expand k 2 [int] = [int] := by simp [expand, Classes.elements?, int, hint]
  have hfailures : failures k .input s [] [int, int] =
      [([0], .count [int, int] [int]), ([1], .count [int, int] [int])] := by
    simp [hs, failures, failuresAll, expand.eq_2, hexpand, type]
  refine ⟨by simp [hs, classes], ?_⟩
  rw [ne_eq, length_errors_iff, hfailures]
  simp [Failure.message]

/-- Two pairs of numbers in a pair, checked against two numbers, fail with one error. -/
theorem not_failing_reported :
    let k := World.initial.classes
    let int : Ty := .cls (.core "int")
    let pair (t : Ty) : Ty := .app (.cls .tuple) [t, t]
    let s := ofTy k (pair (pair int))
    s.classes.length = [int, int].length ∧ (s.assignable k .input [int, int]).errors.length ≠
      {path | ∃ f, Fails k .input s [int, int] path f}.ncard := by
  obtain ⟨-, -, -, -, -, -, -, -, -, htuple, -, hint⟩ := World.initial_entries
  have hw := World.isExtended_initial
  exact length_errors_pairs (hw.arity?_of_initial htuple (by decide)) (hw.arity?_of_initial hint (by decide))

end Signature

end FunctionObjects
