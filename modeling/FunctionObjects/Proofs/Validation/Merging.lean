import Mathlib.Data.List.Nodup
import FunctionObjects.ValidationResult
/-!
# Merging validation results

A result is a log: no message twice, invalid exactly from its first message on, and what is in it
stays at its place.  Merging logs is associative and idempotent, and the valid result changes nothing.
-/

namespace FunctionObjects.ValidationResult

variable {es ls ms : List String} {m x : String}

theorem record_of_mem (h : m ∈ es) : record es m = es := by simp [record, h]

theorem record_of_not_mem (h : m ∉ es) : record es m = es ++ [m] := by simp [record, h]

theorem mem_record : x ∈ record es m ↔ x ∈ es ∨ x = m := by
  by_cases h : m ∈ es
  · rw [record_of_mem h]
    exact ⟨.inl, fun hx => hx.elim id fun heq => heq ▸ h⟩
  · rw [record_of_not_mem h, List.mem_append, List.mem_singleton]

theorem prefix_record (es : List String) (m : String) : es <+: record es m := by
  by_cases h : m ∈ es
  · exact (record_of_mem h).symm ▸ List.prefix_refl es
  · exact (record_of_not_mem h).symm ▸ List.prefix_append es [m]

theorem nodup_record (h : es.Nodup) (m : String) : (record es m).Nodup := by
  by_cases hm : m ∈ es
  · rwa [record_of_mem hm]
  · rw [record_of_not_mem hm, List.nodup_append]
    refine ⟨h, List.nodup_singleton m, ?_⟩
    rintro a ha b hb rfl
    exact hm (List.mem_singleton.mp hb ▸ ha)

theorem mem_foldl_record : x ∈ ms.foldl record es ↔ x ∈ es ∨ x ∈ ms := by
  induction ms generalizing es with
  | nil => simp
  | cons m ms ih => rw [List.foldl_cons, ih, mem_record, List.mem_cons, or_assoc]

theorem prefix_foldl_record (es ms : List String) : es <+: ms.foldl record es := by
  induction ms generalizing es with
  | nil => exact List.prefix_refl es
  | cons m ms ih => exact (prefix_record es m).trans (ih (record es m))

theorem nodup_foldl_record (h : es.Nodup) (ms : List String) : (ms.foldl record es).Nodup := by
  induction ms generalizing es with
  | nil => exact h
  | cons m ms ih => exact ih (nodup_record h m)

/-- Messages that are there change nothing. -/
theorem foldl_record_of_subset (h : ∀ m ∈ ms, m ∈ es) : ms.foldl record es = es := by
  induction ms with
  | nil => rfl
  | cons m ms ih =>
    rw [List.foldl_cons, record_of_mem (h m (.head _))]
    exact ih fun x hx => h x (.tail _ hx)

/-- Different messages that are not there are put at the end. -/
theorem foldl_record_of_nodup (h : (es ++ ms).Nodup) : ms.foldl record es = es ++ ms := by
  induction ms generalizing es with
  | nil => rw [List.append_nil]; rfl
  | cons m ms ih =>
    have hm : m ∉ es := fun hm => (List.nodup_append.mp h).2.2 m hm m (.head _) rfl
    rw [List.append_cons] at h
    rw [List.foldl_cons, record_of_not_mem hm, ih h, List.append_assoc, List.singleton_append]

/-- What was recorded in one log can be recorded from there in another one: a message that the first
log left out is in the second one by then. -/
theorem foldl_record_foldl (es ls ms : List String) :
    (ms.foldl record ls).foldl record es = ms.foldl record (ls.foldl record es) := by
  induction ms generalizing ls with
  | nil => rfl
  | cons m ms ih =>
    have hone : (record ls m).foldl record es = record (ls.foldl record es) m := by
      by_cases hm : m ∈ ls
      · rw [record_of_mem hm, record_of_mem (mem_foldl_record.mpr (.inr hm))]
      · rw [record_of_not_mem hm, List.foldl_append]
        rfl
    rw [List.foldl_cons, List.foldl_cons, ih, hone]

variable {b r other : ValidationResult} {summary : Option String}

theorem merge_of_isValid (h : other.isValid = true) (r : ValidationResult)
    (summary : Option String) : r.merge other summary = r := by
  simp [merge, h]

theorem merge_of_invalid (h : other.isValid = false) (r : ValidationResult)
    (summary : Option String) :
    r.merge other summary = ⟨false, (other.errors ++ summary.toList).foldl record r.errors⟩ := by
  cases summary <;> simp [merge, h]

/-- A log of distinct messages, valid as long as it is empty. -/
structure IsLog (r : ValidationResult) : Prop where
  nodup : r.errors.Nodup
  valid_iff : r.isValid = true ↔ r.errors = []

theorem isLog_valid : valid.IsLog := ⟨List.nodup_nil, by simp [valid]⟩

theorem IsLog.errors_of_isValid (h : r.IsLog) (hr : r.isValid = true) : r.errors = [] :=
  h.valid_iff.mp hr

theorem IsLog.eq_valid (h : r.IsLog) (hr : r.isValid = true) : r = valid := by
  have hes := h.errors_of_isValid hr
  obtain ⟨v, es⟩ := r
  obtain rfl : v = true := hr
  obtain rfl : es = [] := hes
  rfl

theorem IsLog.errors_ne_nil (h : r.IsLog) (hr : r.isValid = false) : r.errors ≠ [] := by
  intro hnil
  rw [h.valid_iff.mpr hnil] at hr
  exact Bool.noConfusion hr

theorem IsLog.addError (h : r.IsLog) (m : String) : (r.addError m).IsLog where
  nodup := nodup_record h.nodup m
  valid_iff := by
    have hm : m ∈ record r.errors m := mem_record.mpr (.inr rfl)
    simp [ValidationResult.addError, List.ne_nil_of_mem hm]

theorem IsLog.merge (h : r.IsLog) (ho : other.IsLog) (summary : Option String) :
    (r.merge other summary).IsLog := by
  cases hv : other.isValid with
  | true => rwa [merge_of_isValid hv]
  | false =>
    rw [merge_of_invalid hv]
    refine ⟨nodup_foldl_record h.nodup _, ?_⟩
    obtain ⟨m, hm⟩ := List.exists_mem_of_ne_nil _ (ho.errors_ne_nil hv)
    have hin : m ∈ (other.errors ++ summary.toList).foldl record r.errors :=
      mem_foldl_record.mpr (.inr (List.mem_append_left _ hm))
    exact iff_of_false Bool.false_ne_true (List.ne_nil_of_mem hin)

theorem prefix_addError (r : ValidationResult) (m : String) :
    r.errors <+: (r.addError m).errors := prefix_record r.errors m

theorem prefix_merge (r other : ValidationResult) (summary : Option String) :
    r.errors <+: (r.merge other summary).errors := by
  cases hv : other.isValid with
  | true => exact (merge_of_isValid hv r summary).symm ▸ List.prefix_refl r.errors
  | false => exact (merge_of_invalid hv r summary).symm ▸ prefix_foldl_record r.errors _

/-- Merging is associative; a summary may come with the last result. -/
theorem merge_assoc (hb : b.IsLog) (a c : ValidationResult)
    (summary : Option String) :
    (a.merge b none).merge c summary = a.merge (b.merge c summary) none := by
  cases hcv : c.isValid with
  | true => rw [merge_of_isValid hcv, merge_of_isValid hcv]
  | false =>
    have hbc : (b.merge c summary).isValid = false := by rw [merge_of_invalid hcv]
    rw [merge_of_invalid hcv, merge_of_invalid hbc, merge_of_invalid hcv]
    simp only [Option.toList_none, List.append_nil, foldl_record_foldl]
    cases hbv : b.isValid with
    | true => rw [merge_of_isValid hbv, hb.errors_of_isValid hbv]; rfl
    | false => simp only [merge_of_invalid hbv, Option.toList_none, List.append_nil]

/-- A result that was merged in changes nothing when it is merged in again. -/
theorem merge_merge_self (a b : ValidationResult) (summary : Option String) :
    (a.merge b summary).merge b summary = a.merge b summary := by
  cases hv : b.isValid with
  | true => rw [merge_of_isValid hv, merge_of_isValid hv]
  | false =>
    rw [merge_of_invalid hv, merge_of_invalid hv, foldl_record_of_subset]
    exact fun m hm => mem_foldl_record.mpr (.inr hm)

/-- Merging a result into itself changes nothing. -/
theorem merge_self (a : ValidationResult) : a.merge a none = a := by
  obtain ⟨v, es⟩ := a
  cases v with
  | true => exact merge_of_isValid rfl _ _
  | false =>
    have hes : es.foldl record es = es := foldl_record_of_subset fun m hm => hm
    rw [merge_of_invalid rfl, Option.toList_none, List.append_nil, hes]

theorem valid_merge {a : ValidationResult} (h : a.IsLog) : valid.merge a none = a := by
  cases hv : a.isValid with
  | true => rw [merge_of_isValid hv, h.eq_valid hv]
  | false =>
    have hall : a.errors.foldl record [] = a.errors := foldl_record_of_nodup h.nodup
    rw [merge_of_invalid hv, Option.toList_none, List.append_nil, valid, hall, ← hv]

theorem merge_valid (a : ValidationResult) (summary : Option String) :
    a.merge valid summary = a := merge_of_isValid rfl a summary

/-- What is done with one of several results, which are told by their places. -/
inductive Action
  /-- Makes a result, maybe with a message. -/
  | create (message : Option String)
  /-- Adds a message to a result. -/
  | addError (i : Nat) (message : String)
  /-- Merges the second result into the first one, or a result into itself. -/
  | add (i j : Nat) (summary : Option String)
deriving Repr, DecidableEq

/-- The results after an action. -/
def Action.apply (rs : List ValidationResult) : Action → List ValidationResult
  | create message => rs ++ [message.elim valid ofMessage]
  | addError i message => rs.modify i (·.addError message)
  | add i j summary => rs[j]?.elim rs fun other => rs.modify i (·.merge other summary)

/-- The results after some actions, from none on. -/
def run (actions : List Action) : List ValidationResult := actions.foldl Action.apply []

theorem isLog_apply {rs : List ValidationResult} (h : ∀ r ∈ rs, r.IsLog) (action : Action) :
    ∀ r ∈ action.apply rs, r.IsLog := by
  have hmodify : ∀ (i : Nat) (f : ValidationResult → ValidationResult),
      (∀ r, r.IsLog → (f r).IsLog) → ∀ r ∈ rs.modify i f, r.IsLog := by
    intro i f hf r hr
    obtain ⟨k, hk⟩ := List.getElem?_of_mem hr
    rw [List.getElem?_modify] at hk
    obtain ⟨q, hq, rfl⟩ := Option.map_eq_some_iff.mp hk
    have hlog := h q (List.mem_of_getElem? hq)
    split
    · exact hf q hlog
    · exact hlog
  cases action with
  | create message =>
    intro r hr
    rcases List.mem_append.mp hr with hr | hr
    · exact h r hr
    · obtain rfl := List.mem_singleton.mp hr
      cases message with
      | none => exact isLog_valid
      | some m => exact isLog_valid.addError m
  | addError i message => exact hmodify i _ fun r hr => hr.addError message
  | add i j summary =>
    cases hj : rs[j]? with
    | none => simpa [Action.apply, hj] using h
    | some other =>
      simp only [Action.apply, hj, Option.elim_some]
      exact hmodify i _ fun r hr => hr.merge (h other (List.mem_of_getElem? hj)) summary

/-- An action leaves every result at its place and every message at its place in it. -/
theorem prefix_apply {rs : List ValidationResult} {i : Nat} (h : rs[i]? = some r)
    (action : Action) : ∃ q, (action.apply rs)[i]? = some q ∧ r.errors <+: q.errors := by
  have hmodify : ∀ (k : Nat) (f : ValidationResult → ValidationResult),
      (∀ p : ValidationResult, p.errors <+: (f p).errors) →
      ∃ q, (rs.modify k f)[i]? = some q ∧ r.errors <+: q.errors := by
    intro k f hf
    rw [List.getElem?_modify, h]
    by_cases hk : k = i
    · exact ⟨f r, by simp [hk], hf r⟩
    · exact ⟨r, by simp [hk], List.prefix_refl _⟩
  cases action with
  | create message =>
    have hi : i < rs.length := (List.getElem?_eq_some_iff.mp h).1
    exact ⟨r, by rw [Action.apply, List.getElem?_append_left hi, h], List.prefix_refl _⟩
  | addError k message => exact hmodify k _ fun p => prefix_addError p message
  | add k j summary =>
    cases hj : rs[j]? with
    | none => exact ⟨r, by simp [Action.apply, hj, h], List.prefix_refl _⟩
    | some other =>
      simp only [Action.apply, hj, Option.elim_some]
      exact hmodify k _ fun p => prefix_merge p other summary

theorem isLog_run (actions : List Action) : ∀ r ∈ run actions, r.IsLog := by
  have hfold : ∀ (acts : List Action) (rs : List ValidationResult), (∀ r ∈ rs, r.IsLog) →
      ∀ r ∈ acts.foldl Action.apply rs, r.IsLog := by
    intro acts
    induction acts with
    | nil => exact fun rs h => h
    | cons action acts ih => exact fun rs h => ih _ (isLog_apply h action)
  exact hfold actions [] (by simp)

theorem prefix_run {i : Nat} (actions more : List Action) (h : (run actions)[i]? = some r) :
    ∃ q, (run (actions ++ more))[i]? = some q ∧ r.errors <+: q.errors := by
  rw [run, List.foldl_append]
  change (run actions)[i]? = some r at h
  change ∃ q, (more.foldl Action.apply (run actions))[i]? = some q ∧ _
  generalize run actions = rs at h ⊢
  induction more generalizing rs r with
  | nil => exact ⟨r, h, List.prefix_refl _⟩
  | cons action more ih =>
    obtain ⟨p, hp, hrp⟩ := prefix_apply h action
    obtain ⟨q, hq, hpq⟩ := ih (action.apply rs) hp
    exact ⟨q, hq, hrp.trans hpq⟩

/-- Whatever is done with any number of results, each of them is a log, what is in it is a prefix of
what is in it later, and merging them is associative and idempotent with the valid result as identity. -/
theorem results_are_logs (actions more : List Action) :
    (∀ r : ValidationResult, r ∈ run actions → r.errors.Nodup ∧ (r.isValid = true ↔ r.errors = [])) ∧
    (∀ (i : Nat) r, (run actions)[i]? = some r →
      ∃ q, (run (actions ++ more))[i]? = some q ∧ r.errors <+: q.errors) ∧
    ∀ a b c : ValidationResult, a ∈ run actions → b ∈ run actions → c ∈ run actions → ∀ summary,
      (a.merge b none).merge c summary = a.merge (b.merge c summary) none ∧
      (a.merge b summary).merge b summary = a.merge b summary ∧ a.merge a none = a ∧
      valid.merge a none = a ∧ a.merge valid summary = a := by
  have hlog := isLog_run actions
  refine ⟨fun r hr => ⟨(hlog r hr).nodup, (hlog r hr).valid_iff⟩,
    fun i r => prefix_run actions more, ?_⟩
  intro a b c ha hb _ summary
  exact ⟨merge_assoc (hlog b hb) a c summary, merge_merge_self a b summary,
    merge_self a, valid_merge (hlog a ha), merge_valid a summary⟩

example : run [.create none, .create (some "late"), .add 0 1 (some "summary"), .add 1 1 none,
    .add 0 0 (some "again")] =
    [⟨false, ["late", "summary", "again"]⟩, ⟨false, ["late"]⟩] := by decide

end FunctionObjects.ValidationResult
