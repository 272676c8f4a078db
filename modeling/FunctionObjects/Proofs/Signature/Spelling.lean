import FunctionObjects.Call.Method
import FunctionObjects.Predicate.Comparison
import FunctionObjects.Proofs.Construction.Stock
import FunctionObjects.Proofs.Descriptor.Spelling
import FunctionObjects.Proofs.Signature.Collecting
import FunctionObjects.Proofs.Signature.Delegating
/-!
# Checks and the spelling of unions

A signature opens the same tuple types in every spelling of the unions in them, and compares what
stands in each position.  So no verdict on types depends on how unions are spelled, neither in what a
function states nor in what is offered to it.  Nor does it depend on what types have been joined before,
which can only bring back another spelling of the types of a side.
-/

namespace FunctionObjects

open Ty

/-- Whether two computations fail alike, or succeed with results of which one stands to the other in a
relation. -/
inductive ExceptRel {α β : Type} (R : α → β → Prop) : Except Fault α → Except Fault β → Prop
  | error (e : Fault) : ExceptRel R (.error e) (.error e)
  | ok {a : α} {b : β} : R a b → ExceptRel R (.ok a) (.ok b)

/-- What is related to a result is a result. -/
theorem ExceptRel.exists_right {α β : Type} {R : α → β → Prop} {a : α} {y : Except Fault β}
    (h : ExceptRel R (.ok a) y) : ∃ b, y = .ok b ∧ R a b := by
  cases h with
  | ok hab => exact ⟨_, rfl, hab⟩

theorem ExceptRel.exists_left {α β : Type} {R : α → β → Prop} {x : Except Fault α} {b : β}
    (h : ExceptRel R x (.ok b)) : ∃ a, x = .ok a ∧ R a b := by
  cases h with
  | ok hab => exact ⟨_, rfl, hab⟩

theorem ExceptRel.eq_error {α β : Type} {R : α → β → Prop} {x : Except Fault α} {e : Fault}
    (h : ExceptRel R x (.error e)) : x = .error e := by
  cases h with
  | error e => rfl

/-- Computations that go on alike from related results. -/
theorem ExceptRel.bind {α β γ δ : Type} {R : α → β → Prop} {S : γ → δ → Prop} {x : Except Fault α}
    {y : Except Fault β} {p : α → Except Fault γ} {q : β → Except Fault δ} (h : ExceptRel R x y)
    (hpq : ∀ a b, R a b → ExceptRel S (p a) (q b)) : ExceptRel S (x >>= p) (y >>= q) := by
  cases h with
  | error e => exact .error e
  | ok hab => exact hpq _ _ hab

theorem ExceptRel.refl {α : Type} {R : α → α → Prop} (hR : ∀ a, R a a) (x : Except Fault α) :
    ExceptRel R x x := by
  cases x with
  | error e => exact .error e
  | ok a => exact .ok (hR a)

theorem ExceptRel.symm {α : Type} {R : α → α → Prop} (hR : ∀ a b, R a b → R b a) {x y : Except Fault α}
    (h : ExceptRel R x y) : ExceptRel R y x := by
  cases h with
  | error e => exact .error e
  | ok hab => exact .ok (hR _ _ hab)

theorem ExceptRel.trans {α : Type} {R : α → α → Prop} (hR : ∀ a b c, R a b → R b c → R a c)
    {x y z : Except Fault α} (h : ExceptRel R x y) (h' : ExceptRel R y z) : ExceptRel R x z := by
  cases h with
  | error e => exact h'
  | ok hab =>
    cases h' with
    | ok hbc => exact .ok (hR _ _ _ hab hbc)

theorem ExceptRel.imp {α β : Type} {R S : α → β → Prop} {x : Except Fault α} {y : Except Fault β}
    (h : ExceptRel R x y) (hRS : ∀ a b, R a b → S a b) : ExceptRel S x y := by
  cases h with
  | error e => exact .error e
  | ok hab => exact .ok (hRS _ _ hab)

theorem ExceptRel.map {α β γ δ : Type} {R : α → β → Prop} {S : γ → δ → Prop} {x : Except Fault α}
    {y : Except Fault β} {p : α → γ} {q : β → δ} (h : ExceptRel R x y)
    (hpq : ∀ a b, R a b → S (p a) (q b)) : ExceptRel S (p <$> x) (q <$> y) := by
  cases h with
  | error e => exact .error e
  | ok hab => exact .ok (hpq _ _ hab)

namespace Classes

variable {k : Classes} {t t' : Ty} {ts ts' : List Ty}

theorem isTupleForm_respelled (h : Head) (hts : Reordered ts ts') :
    k.isTupleForm h ts' = k.isTupleForm h ts := by
  have hempty : ts'.isEmpty = ts.isEmpty := by
    rw [Bool.eq_iff_iff, List.isEmpty_iff_length_eq_zero, List.isEmpty_iff_length_eq_zero, hts.length_eq]
  have hmark : (ts'.any fun t => t.same .ellipsis) = ts.any fun t => t.same .ellipsis :=
    hts.any_eq fun t _ u htu => same_respelled htu (.refl _)
  unfold isTupleForm
  rw [hempty, hmark]

/-- The elements of a tuple type stay, each respelled. -/
theorem elements?_respelled (h : Respelled t t') :
    Option.Rel (List.Forall₂ Respelled) (k.elements? t) (k.elements? t') := by
  have hrefl : ∀ o : Option (List Ty), Option.Rel (List.Forall₂ Respelled) o o := by
    intro o
    cases o with
    | none => exact .none
    | some ts => exact .some (respelledAll_refl ts)
  cases h with
  | refl => exact hrefl _
  | app hd hts =>
    unfold elements?
    simp only [isTupleForm_respelled hd (reordered_of_forall₂ hts)]
    split
    · exact .some hts
    · exact hrefl _
  | bound | constants | params | union => exact .none

end Classes

namespace Signature

/-- Whether the second signature is the first one with unions spelled differently. -/
inductive Respelled : Signature → Signature → Prop
  | single {t u : Ty} : Ty.Respelled t u → Respelled (.single t) (.single u)
  | tuple {t u : Ty} {ps qs : List Signature} : Ty.Respelled t u → List.Forall₂ Respelled ps qs →
      Respelled (.tuple t ps) (.tuple u qs)

variable {k : Classes} {side : Side} {t t' u : Ty} {ts ts' cs cs' : List Ty}

theorem Respelled.type {s s' : Signature} (h : Respelled s s') : Ty.Respelled s.type s'.type := by
  cases h with
  | single ht => exact ht
  | tuple ht _ => exact ht

mutual

theorem Respelled.trans : ∀ {s s' s'' : Signature}, Respelled s s' → Respelled s' s'' → Respelled s s''
  | .single _, _, _, .single h, .single h' => .single (h.trans h')
  | .tuple _ _, _, _, .tuple h hparts, .tuple h' hparts' =>
    .tuple (h.trans h') (respelledAll_trans hparts hparts')

theorem respelledAll_trans : ∀ {ss ss' ss'' : List Signature}, List.Forall₂ Respelled ss ss' →
    List.Forall₂ Respelled ss' ss'' → List.Forall₂ Respelled ss ss''
  | [], _, _, .nil, .nil => .nil
  | _ :: _, _, _, .cons h hs, .cons h' hs' => .cons (h.trans h') (respelledAll_trans hs hs')

end

theorem forall₂_ofTypes (hts : List.Forall₂ Ty.Respelled ts ts')
    (h : ∀ t ∈ ts, ∀ t', Ty.Respelled t t' → Respelled (ofTy k t) (ofTy k t')) :
    List.Forall₂ Respelled (ofTypes k ts) (ofTypes k ts') := by
  induction hts with
  | nil => exact .nil
  | cons ht _ ih =>
    exact .cons (h _ (by simp) _ ht) (ih fun t hmem => h t (List.mem_cons_of_mem _ hmem))

theorem mem_args_of_elements? {ts : List Ty} (h : k.elements? t = some ts) (hu : u ∈ ts) :
    u = .any ∨ u ∈ t.args := by
  cases t with
  | cls c =>
    obtain ⟨n, -, rfl⟩ := Option.map_eq_some_iff.mp h
    exact .inl (List.eq_of_mem_replicate hu)
  | app hd us =>
    rw [Classes.elements?.eq_def] at h
    simp only at h
    split at h
    · exact .inr (Option.some.inj h ▸ hu)
    · cases hd with
      | cls c =>
        obtain ⟨n, -, rfl⟩ := Option.map_eq_some_iff.mp h
        exact .inl (List.eq_of_mem_replicate hu)
      | _ => cases h
  | _ => cases h

theorem ofFinal_respelled (h : Ty.Respelled t t')
    (hopen : t.isVar = false → Respelled (ofTy k t) (ofTy k t')) :
    Respelled (ofFinal k t) (ofFinal k t') := by
  cases hv : t.isVar with
  | true =>
    match t, h with
    | .var v b, h =>
      obtain ⟨b', rfl⟩ := h.of_var
      exact .single h
  | false =>
    have hv' : t'.isVar = false := h.isVar.trans hv
    rw [Classes.ofFinal_eq_ofTy hv, Classes.ofFinal_eq_ofTy hv']
    exact hopen hv

/-- A type is opened alike in every spelling. -/
theorem ofTy_respelled (h : Ty.Respelled t t') : Respelled (ofTy k t) (ofTy k t') := by
  induction hn : sizeOf t using Nat.strongRecOn generalizing t t' with
  | _ n ih =>
    subst hn
    -- a variable stands for its bound, and what is no variable is opened into its elements
    cases hv : t.isVar with
    | true =>
      match t, h with
      | Ty.var _ Option.none, .refl _ => exact .single (.refl _)
      | .var v (some b), .refl _ =>
        exact ofFinal_respelled (.refl b) fun _ => ih _ (by simp; omega) (.refl b) rfl
      | .var v (some b), .bound _ hb =>
        exact ofFinal_respelled hb fun _ => ih _ (by simp; omega) hb rfl
    | false =>
      have hv' : t'.isVar = false := h.isVar.trans hv
      have helements := Classes.elements?_respelled (k := k) h
      cases hel : k.elements? t with
      | none =>
        rw [hel] at helements
        cases hel' : k.elements? t' with
        | none =>
          rw [Classes.ofTy_of_elements?_eq_none hv hel, Classes.ofTy_of_elements?_eq_none hv' hel']
          exact .single h
        | some us => rw [hel'] at helements; cases helements
      | some ts =>
        rw [hel] at helements
        cases hel' : k.elements? t' with
        | none => rw [hel'] at helements; cases helements
        | some us =>
          rw [hel'] at helements
          cases helements with
          | some hts =>
            rw [Classes.ofTy_of_elements? hel, Classes.ofTy_of_elements? hel']
            refine .tuple h (forall₂_ofTypes hts fun m hm m' hmm => ?_)
            rcases mem_args_of_elements? hel hm with rfl | hmem
            · cases hmm
              exact .single (.refl _)
            · exact ih _ (sizeOf_lt_of_mem_args hmem) hmm rfl

theorem asArgument_respelled (h : Ty.Respelled t t') : Ty.Respelled t.asArgument t'.asArgument := by
  cases h with
  | refl => exact .refl _
  | bound v hb => exact .bound v hb
  | app hd hts => exact .app hd hts
  | constants hts hperm => exact .constants hts hperm
  | params hts => exact .params hts
  | union bars bars' hts hperm => exact .union bars bars' hts hperm

/-- Types are joined to one tuple type in every spelling, whatever has been joined before. -/
theorem joined_respelled (known known' : List (List Ty)) (hts : List.Forall₂ Ty.Respelled ts ts') :
    Ty.Respelled (joined known ts) (joined known' ts') := by
  have hspelled : List.Forall₂ Ty.Respelled (spelling known ts) (spelling known' ts') :=
    Ty.respelledAll_trans (Ty.respelledAll_trans (respelled_spelling known ts) hts)
      (respelledAll_symm (respelled_spelling known' ts'))
  refine .app _ ?_
  rw [List.forall₂_map_left_iff, List.forall₂_map_right_iff]
  exact hspelled.imp fun _ _ => asArgument_respelled

theorem ofList_respelled (known known' : List (List Ty)) (hts : List.Forall₂ Ty.Respelled ts ts') :
    Respelled (ofList k known ts) (ofList k known' ts') := by
  have hparts : List.Forall₂ Respelled (ofTypes k ts) (ofTypes k ts') :=
    forall₂_ofTypes hts fun _ _ _ => ofTy_respelled
  by_cases hone : ts.length = 1
  · obtain ⟨t, rfl⟩ := List.length_eq_one_iff.mp hone
    obtain ⟨t', rest, ht, hrest, rfl⟩ := List.forall₂_cons_left_iff.mp hts
    obtain rfl := List.forall₂_nil_left_iff.mp hrest
    exact ofTy_respelled ht
  · rw [Classes.ofList_of_length_ne_one known hone,
      Classes.ofList_of_length_ne_one known' (hts.length_eq ▸ hone)]
    exact .tuple (joined_respelled known known' hts) hparts

theorem fits_respelled {own own' c c' : Ty} (ho : Ty.Respelled own own') (hc : Ty.Respelled c c') :
    fits k side own' c' = fits k side own c := by
  cases side with
  | input => exact k.assignable_respelled hc ho
  | output => exact k.assignable_respelled ho hc

theorem expand_respelled (n : Nat) (hcs : List.Forall₂ Ty.Respelled cs cs') :
    List.Forall₂ Ty.Respelled (expand k n cs) (expand k n cs') := by
  match hcs with
  | .nil => exact .nil
  | .cons hc (.cons hd hrest) => exact .cons hc (.cons hd hrest)
  | .cons (a := c) (b := c') hc .nil =>
    unfold expand
    simp only
    split
    · exact .cons hc .nil
    · have helements := Classes.elements?_respelled (k := k) hc
      revert helements
      cases k.elements? c <;> cases k.elements? c' <;> intro helements <;> cases helements
      · exact .cons hc .nil
      · assumption

mutual

/-- A signature gives one verdict on candidates, however unions are spelled in it and in them. -/
theorem accepts_respelled : ∀ {s s' : Signature} {cs cs' : List Ty}, Respelled s s' →
    List.Forall₂ Ty.Respelled cs cs' → s'.accepts k side cs' = s.accepts k side cs
  | .single t, _, cs, cs', .single ht, hcs => by
    match hcs with
    | .nil => rfl
    | .cons hc .nil => exact fits_respelled ht hc
    | .cons _ (.cons _ _) => rfl
  | .tuple t parts, _, cs, cs', .tuple ht hparts, hcs => by
    have hexpand := expand_respelled (k := k) parts.length hcs
    rw [accepts, accepts, ← hparts.length_eq, ← hexpand.length_eq, acceptsAll_respelled hparts hexpand]

theorem acceptsAll_respelled : ∀ {ss ss' : List Signature} {cs cs' : List Ty},
    List.Forall₂ Respelled ss ss' → List.Forall₂ Ty.Respelled cs cs' →
      acceptsAll k side ss' cs' = acceptsAll k side ss cs
  | [], _, _, _, .nil, _ => rfl
  | _ :: _, _, [], _, .cons _ _, .nil => rfl
  | s :: ss, _, c :: cs, _, .cons hs hss, .cons hc hcs => by
    rw [acceptsAll, acceptsAll, accepts_respelled hs (.cons hc .nil), acceptsAll_respelled hss hcs]

end

end Signature

namespace Comparison

theorem sameTypes_isValid (r : ValidationResult) (ts : List Ty) :
    (sameTypes r ts).isValid =
      (r.isValid && match ts with | [t, u] => t.same u | _ => true) := by
  unfold sameTypes
  split
  · split <;> simp_all
  · simp

/-- Two types are found to be the same or not, however unions are spelled in them. -/
theorem sameTypes_respelled {r r' : ValidationResult} {ts ts' : List Ty}
    (hr : r'.isValid = r.isValid) (hts : List.Forall₂ Respelled ts ts') :
    (sameTypes r' ts').isValid = (sameTypes r ts).isValid := by
  rw [sameTypes_isValid, sameTypes_isValid, hr]
  match hts with
  | .nil | .cons _ .nil | .cons _ (.cons _ (.cons _ _)) => rfl
  | .cons ht (.cons hu .nil) => simp only [same_respelled ht hu]

end Comparison

namespace World

open Signature

variable {w w' : World} {f f' g g' : Value} {fs fs' : List Value} {side : Side}
  {ts ts' cs cs' : List Ty} {r r' : ValidationResult}

/-- Whether two functions state the same types for a side but for the spelling of unions, or fail
alike to state any. -/
def StatesRespelled (w w' : World) (side : Side) (f f' : Value) : Prop :=
  ExceptRel (List.Forall₂ Ty.Respelled) (w.declaredTypes side f) (w'.declaredTypes side f')

/-- Whether two checks fail alike or come to one verdict. -/
def SameVerdict (x y : Except Fault ValidationResult) : Prop :=
  ExceptRel (fun r r' => r'.isValid = r.isValid) x y

theorem SameVerdict.refl (x : Except Fault ValidationResult) : SameVerdict x x := by
  refine ExceptRel.refl ?_ x
  exact fun _ => rfl

theorem SameVerdict.exists_valid_iff {x y : Except Fault ValidationResult} (h : SameVerdict x y) :
    (∃ r, y = .ok r ∧ r.isValid = true) ↔ ∃ r, x = .ok r ∧ r.isValid = true := by
  cases h with
  | error e => simp
  | ok hvalid => simp [hvalid]

theorem isBareForm_respelled {t t' : Ty} (h : Ty.Respelled t t') : t'.isBareForm = t.isBareForm := by
  cases h <;> rfl

theorem signatureOf_respelled (hk : w'.classes = w.classes) (hts : List.Forall₂ Ty.Respelled ts ts') :
    ExceptRel Signature.Respelled (w.signatureOf ts) (w'.signatureOf ts') := by
  have hbare : ts'.any isBareForm = ts.any isBareForm :=
    (reordered_of_forall₂ hts).any_eq fun _ _ _ => isBareForm_respelled
  unfold signatureOf
  rw [hts.length_eq, hbare, hk]
  split
  · exact .error _
  · exact .ok (ofList_respelled _ _ hts)

theorem StatesRespelled.signature (hk : w'.classes = w.classes)
    (h : w.StatesRespelled w' side f f') :
    ExceptRel Signature.Respelled (w.signature side f) (w'.signature side f') :=
  h.bind fun _ _ => signatureOf_respelled hk

theorem StatesRespelled.symm (h : w.StatesRespelled w' side f f') : w'.StatesRespelled w side f' f :=
  ExceptRel.symm (R := List.Forall₂ Ty.Respelled) (fun _ _ => respelledAll_symm) h

theorem StatesRespelled.trans {w'' : World} {f'' : Value} (h : w.StatesRespelled w' side f f')
    (h' : w'.StatesRespelled w'' side f' f'') : w.StatesRespelled w'' side f f'' :=
  ExceptRel.trans (R := List.Forall₂ Ty.Respelled) (fun _ _ _ => Ty.respelledAll_trans) h h'

theorem member?_recalling (w : World) (known : List (List Ty)) (c : ClassName) (name : String) :
    (w.recalling known).member? c name = w.member? c name := by
  have hsame : w.SameClasses (w.recalling known) := ⟨rfl, rfl⟩
  exact hsame.member? c name

theorem takenFrom?_recalling (w : World) (known : List (List Ty)) (side : Side) (f : Value) :
    (w.recalling known).takenFrom? side f = w.takenFrom? side f := by
  simp only [takenFrom?, member?_recalling]
  rfl

theorem recoveredTypes_recalling (w : World) (known : List (List Ty))
    (inner : Side → Value → Except Fault (List Ty)) (side : Side) (f : Value) :
    (w.recalling known).recoveredTypes inner side f = w.recoveredTypes inner side f := by
  simp only [recoveredTypes, statedTypes?, callableTypes?, member?_recalling]
  rfl

/-- What has been joined before may change the spelling of the types on a side, and nothing else.  The
induction is on the wrappers that are looked through. -/
theorem statesRespelled_recalling (w : World) (known : List (List Ty)) (side : Side) (f : Value) :
    w.StatesRespelled (w.recalling known) side f f := by
  suffices h : ∀ n f, ExceptRel (List.Forall₂ Ty.Respelled) (w.typesWithin n side f)
      ((w.recalling known).typesWithin n side f) from h _ f
  intro n
  induction n with
  | zero => exact fun f => .error _
  | succ n ih =>
    intro f
    cases hf : w.takenFrom? side f with
    | none =>
      have hown : (w.recalling known).typesWithin (n + 1) side f = w.typesWithin (n + 1) side f :=
        (w.recoveredTypes_recalling known _ side f).trans (recoveredTypes_congr _ _ hf)
      rw [hown]
      exact ExceptRel.refl respelledAll_refl _
    | some g =>
      have hf' := (w.takenFrom?_recalling known side f).trans hf
      rw [typesWithin_of_takenFrom? hf, typesWithin_of_takenFrom? hf']
      refine (ih g).bind fun ts ts' hts => ?_
      have hsignature : ExceptRel Signature.Respelled (w.signatureOf ts)
          ((w.recalling known).signatureOf ts') := signatureOf_respelled rfl hts
      exact hsignature.bind fun s s' hs => .ok (.cons hs.type .nil)

/-- Reading a signature changes at most what has been joined. -/
theorem exists_after (w : World) (side : Side) (f : Value) :
    ∃ known, w.after side f = w.recalling known := by
  unfold World.after
  split
  · exact ⟨_, rfl⟩
  · exact ⟨w.surroundings.joined, rfl⟩

theorem statesRespelled_after (w : World) (first : Value) (side : Side) (f : Value) :
    w.StatesRespelled (w.after .output first) side f f := by
  obtain ⟨known, hknown⟩ := w.exists_after .output first
  rw [hknown]
  exact w.statesRespelled_recalling known side f

theorem classes_after (w : World) (side : Side) (f : Value) : (w.after side f).classes = w.classes := by
  obtain ⟨known, hknown⟩ := w.exists_after side f
  rw [hknown]
  rfl

/-- Two functions compose exactly if the second accepts what the first declares as its output. -/
theorem composable_isValid {out inp : Signature}
    (hf : w.signature .output f = .ok out) (hg : w.signature .input g = .ok inp) :
    ∃ r, w.composable f g = .ok r ∧ r.isValid = inp.accepts w.classes .input out.declared := by
  have hsecond := (w.statesRespelled_after f .input g).signature (w.classes_after .output f)
  rw [hg] at hsecond
  obtain ⟨inp', hinp, hspelled⟩ := hsecond.exists_right
  refine ⟨_, by rw [World.composable, hf, hinp]; rfl, ?_⟩
  simp [ValidationResult.valid, accepts_respelled hspelled (respelledAll_refl _)]

/-- Functions of which it can be said whether they compose have signatures on the sides that meet. -/
theorem exists_signatures (h : w.composable f g = .ok r) :
    ∃ out inp, w.signature .output f = .ok out ∧ w.signature .input g = .ok inp := by
  cases hf : w.signature .output f with
  | error e => simp [World.composable, hf, Bind.bind, Except.bind] at h
  | ok out =>
    cases hinp : (w.after .output f).signature .input g with
    | error e => simp [World.composable, hf, hinp, Bind.bind, Except.bind] at h
    | ok inp' =>
      have hsecond := (w.statesRespelled_after f .input g).signature (w.classes_after .output f)
      rw [hinp] at hsecond
      obtain ⟨inp, hg, -⟩ := hsecond.exists_left
      exact ⟨out, inp, rfl, hg⟩

/-- Candidates are accepted or refused alike. -/
theorem StatesRespelled.check (hk : w'.classes = w.classes) (h : w.StatesRespelled w' side f f')
    (hcs : List.Forall₂ Ty.Respelled cs cs') :
    SameVerdict (w.check side f cs) (w'.check side f' cs') := by
  refine (h.signature hk).bind fun s s' hs => .ok ?_
  rw [assignable_isValid, assignable_isValid, hk, accepts_respelled hs hcs]

/-- Two functions go together in every spelling or in none. -/
theorem StatesRespelled.composable (hk : w'.classes = w.classes)
    (hf : w.StatesRespelled w' .output f f') (hg : w.StatesRespelled w' .input g g') :
    SameVerdict (w.composable f g) (w'.composable f' g') := by
  have hg' : (w.after .output f).StatesRespelled (w'.after .output f') .input g g' :=
    ((w.statesRespelled_after f .input g).symm.trans hg).trans (w'.statesRespelled_after f' .input g')
  have hk' : (w'.after .output f').classes = (w.after .output f).classes := by
    rw [classes_after, classes_after, hk]
  refine (hf.signature hk).bind fun out out' hout => ?_
  refine (hg'.signature hk').bind fun inp inp' hinp => .ok ?_
  rw [ValidationResult.merge_isValid, ValidationResult.merge_isValid, assignable_isValid,
    assignable_isValid, hk, declared, declared, accepts_respelled hinp (.cons hout.type .nil)]

theorem go_respelled (hk : w'.classes = w.classes) (hr : r'.isValid = r.isValid)
    (hf : w.StatesRespelled w' .output f f')
    (hfs : List.Forall₂ (fun g g' => ∀ side, w.StatesRespelled w' side g g') fs fs') :
    SameVerdict (validateChain.go w r f fs) (validateChain.go w' r' f' fs') := by
  induction hfs generalizing r r' f f' with
  | nil => exact .ok hr
  | cons hg _ ih =>
    refine (hf.composable hk (hg .input)).bind fun q q' hq => ih ?_ (hg .output)
    rw [ValidationResult.merge_isValid, ValidationResult.merge_isValid, hr, hq]

/-- A chain is found valid in every spelling of what its functions state or in none. -/
theorem validateChain_respelled (hk : w'.classes = w.classes)
    (hfs : List.Forall₂ (fun f f' => ∀ side, w.StatesRespelled w' side f f') fs fs') :
    SameVerdict (w.validateChain fs) (w'.validateChain fs') := by
  match hfs with
  | .nil | .cons _ .nil => exact .ok rfl
  | .cons hf (.cons hg hrest) => exact go_respelled hk rfl (hf .output) (.cons hg hrest)

/-- How unions are spelled is irrelevant, at any depth and on both sides at once: to whether one type
fits another, to every check of types against a function, also where they have to be of one type
besides, and to whether functions go together. -/
theorem verdicts_respelled :
    (∀ (k : Classes) (c c' e e' : Ty), c.Respelled c' → e.Respelled e' →
      k.assignable c' e' = k.assignable c e) ∧
    ∀ w w' : World, w'.classes = w.classes →
      (∀ (side : Side) (f f' : Value) (cs cs' : List Ty), w.StatesRespelled w' side f f' →
        List.Forall₂ Ty.Respelled cs cs' → SameVerdict (w.check side f cs) (w'.check side f' cs')) ∧
      (∀ (f f' : Value) (cs cs' : List Ty), w.StatesRespelled w' .input f f' →
        List.Forall₂ Ty.Respelled cs cs' →
        SameVerdict ((Comparison.sameTypes · cs) <$> w.check .input f cs)
          ((Comparison.sameTypes · cs') <$> w'.check .input f' cs')) ∧
      (∀ f f' g g' : Value, w.StatesRespelled w' .output f f' → w.StatesRespelled w' .input g g' →
        SameVerdict (w.composable f g) (w'.composable f' g')) ∧
      ∀ fs fs' : List Value,
        List.Forall₂ (fun f f' => ∀ side, w.StatesRespelled w' side f f') fs fs' →
        SameVerdict (w.validateChain fs) (w'.validateChain fs') := by
  refine ⟨fun k c c' e e' => k.assignable_respelled, fun w w' hk => ⟨?_, ?_, ?_, ?_⟩⟩
  · exact fun side f f' cs cs' hf hcs => hf.check hk hcs
  · exact fun f f' cs cs' hf hcs =>
      (hf.check hk hcs).map fun r r' hr => Comparison.sameTypes_respelled hr hcs
  · exact fun f f' g g' hf hg => hf.composable hk hg
  · exact fun fs fs' => validateChain_respelled hk

section

/-- The texts that may be missing, in two spellings. -/
abbrev texts : Ty := .app (.named .list) [.union false [.cls (.core "str"), .noneType]]
abbrev texts' : Ty := .app (.named .list) [.union true [.noneType, .cls (.core "str")]]

abbrev numbered : Ty := .union false [.cls (.core "int"), texts]
abbrev numbered' : Ty := .union true [texts', .cls (.core "int")]

abbrev handler : Ty := .app (.named .callable) [.params [numbered], texts]
abbrev handler' : Ty := .app (.named .callable) [.params [numbered'], texts']

/-- Two functions that state one type on each side, differently spelled. -/
def spelled : World where
  heap := #[
    .routine ⟨"fill", [⟨"x", .standard, none, some numbered⟩], some texts, .arg 0, none⟩,
    .routine ⟨"complete", [⟨"x", .standard, none, some numbered'⟩], some texts', .arg 0, none⟩]
  hierarchy := ⟨[], [], []⟩
  declarations := []
  sites := []
  registry := ⟨[], []⟩
  trace := []
  log := []
  clock := .none

theorem respelled_texts : texts.Respelled texts' :=
  .app _ (.cons (.union _ _ (respelledAll_refl _) (.swap _ _ _)) .nil)

theorem respelled_numbered : numbered.Respelled numbered' :=
  .union _ _ (.cons (.refl _) (.cons respelled_texts .nil)) (.swap _ _ _)

theorem respelled_handler : handler.Respelled handler' :=
  .app _ (.cons (.params (.cons respelled_numbered .nil)) (.cons respelled_texts .nil))

theorem states_spelled (side : Side) : spelled.StatesRespelled spelled side (.ref 0) (.ref 1) := by
  cases side with
  | input => exact .ok (.cons respelled_numbered .nil)
  | output => exact .ok (.cons respelled_texts .nil)

/-- A callable fits itself in another spelling, and functions in either spelling check candidates and
follow each other alike. -/
theorem verdicts_spelled :
    spelled.classes.assignable handler handler' = spelled.classes.assignable handler handler ∧
      SameVerdict (spelled.check .input (.ref 0) [texts]) (spelled.check .input (.ref 1) [texts']) ∧
      SameVerdict ((Comparison.sameTypes · [texts, texts]) <$> spelled.check .input (.ref 0) [texts, texts])
        ((Comparison.sameTypes · [texts', texts]) <$> spelled.check .input (.ref 1) [texts', texts]) ∧
      SameVerdict (spelled.composable (.ref 0) (.ref 0)) (spelled.composable (.ref 1) (.ref 1)) ∧
      SameVerdict (spelled.validateChain [.ref 0, .ref 0]) (spelled.validateChain [.ref 1, .ref 1]) := by
  obtain ⟨hfits, hverdicts⟩ := verdicts_respelled
  obtain ⟨hcheck, hpair, hcompose, hchain⟩ := hverdicts spelled spelled rfl
  have hone : List.Forall₂ Ty.Respelled [texts] [texts'] := .cons respelled_texts .nil
  have htwo : List.Forall₂ Ty.Respelled [texts, texts] [texts', texts] :=
    .cons respelled_texts (.cons (.refl _) .nil)
  exact ⟨hfits _ _ _ _ _ (.refl _) respelled_handler,
    hcheck .input _ _ _ _ (states_spelled .input) hone,
    hpair _ _ _ _ (states_spelled .input) htwo,
    hcompose _ _ _ _ (states_spelled .output) (states_spelled .input),
    hchain _ _ (.cons states_spelled (.cons states_spelled .nil))⟩

end

end World

end FunctionObjects
