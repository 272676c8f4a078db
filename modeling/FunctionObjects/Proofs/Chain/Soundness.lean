import FunctionObjects.Class.Declare
import FunctionObjects.Proofs.Chain.Handing
import FunctionObjects.Proofs.Chain.Unpacking
/-!
# Numbers of values in validated chains

A validation compares types position by position, while a call passes a single value, which only
functions of several values unpack, and only from tuples addressed by position.  The two agree
wherever the type of the value is one of such tuples.
-/

namespace FunctionObjects

open Run Chain

namespace World

variable {w u : World} {f x : Value} {t : Ty} {n : Nat}

/-- A function that unpacks its input into as many values as the input that it declares has
positions. -/
structure Unpacks (w : World) (f : Value) (n : Nat) : Prop where
  isObject : ∃ r c o as, f = .ref r ∧ w.heap[r]? = some (.object c o as) ∧
    (w.isSubclass c LibraryClass.functionN.className = true ∨
      w.isSubclass c LibraryClass.predicateN.className = true)
  arity : w.member? (w.classOf f) "arity" = some (.arity n)
  positions : ∃ s, w.signature .input f = .ok s ∧ s.classes.length = n

/-- A function that unpacks its input finds as many values in it as it needs. -/
theorem Unpacks.result_unpack (hf : w.Unpacks f n) (hu : w.Keeps u)
    (hsupplies : ∀ s, w.signature .input f = .ok s → w.classes.Supplies t s) (hx : u.IsOf t x)
    (hone : n = 1 → w.classes.positions? t = some 1) (hplain : t.isPlainTuple = false)
    (hargs : w.classes.ArgumentsMatch t) (d : Dispatch) :
    (Unpacked.unpack d f x).result u = (do d.items (← d.method x "values" [])).result u := by
  obtain ⟨⟨r, c, o, as, rfl, hcell, -⟩, harity, s, hs, rfl⟩ := hf
  have hpositions : w.classes.positions? t = some s.classes.length := by
    by_cases h : s.classes.length = 1
    · rw [h, hone h]
    · obtain ⟨m, hm, hcount⟩ := hsupplies s hs h hplain
      rw [hm, hcount hargs]
  have hr : r < w.heap.size := (Array.getElem?_eq_some_iff.mp hcell).1
  have hneeds : u.member? (u.classOf (.ref r)) "arity" = some (.arity s.classes.length) := by
    rw [hu.sameClasses.member?, hu.classOf hr, harity]
  exact Unpacked.result_unpack d hneeds (hx.isTuple (by rw [hu.classes, hpositions]))

/-- A plain callable that is handed a value of no tuple type requires no second one. -/
theorem IsPlain.required_le {s : Signature} (hf : w.IsPlain f) (hu : w.Keeps u)
    (hs : w.signature .input f = .ok s) (hsupplies : w.classes.Supplies t s)
    (hplain : t.isPlainTuple = false) (hpositions : w.classes.positions? t = none) :
    u.required f ≤ 1 := by
  obtain ⟨⟨ts, hts, hdeclared, hany⟩, hhere⟩ := hf
  rw [hu.required hhere, required_eq_length hts hany]
  by_contra hmany
  have hlength : s.classes.length = ts.length := by
    rw [signature_eq_ofList hdeclared hs]
    match ts, hmany with
    | [], _ | _ :: _ :: _, _ => simp [Signature.ofList, Signature.classes]
    | [_], hmany => exact absurd (Nat.le_refl 1) hmany
  obtain ⟨m, hm, -⟩ := hsupplies (by omega) hplain
  simp [hpositions] at hm

end World

namespace Chain

variable {w : World} {chain x : Value} {fs : List Value}

/-- An object that holds functions, and whose check of them passes. -/
structure Validated (d : Dispatch) (w : World) (chain : Value) (fs : List Value) : Prop where
  functions : (d.itemsOf chain "functions").result w = (.ok fs, w)
  passes : ∃ r, (validate d chain).result w = (.ok (.atom (.result r)), w) ∧ r.isValid = true

theorem result_validate {d : Dispatch} (h : (d.itemsOf chain "functions").result w = (.ok fs, w)) :
    (validate d chain).result w = ((.atom ∘ .result) <$> w.validateChain fs, w) := by
  rw [validate, result_bind_ok _ h, result_bind_ok _ (result_get w)]
  cases w.validateChain fs <;> rfl

theorem Validated.of_isValid {d : Dispatch}
    (h : (d.itemsOf chain "functions").result w = (.ok fs, w))
    (hvalid : (w.validateChain fs).toOption.map (·.isValid) = some true) :
    Validated d w chain fs := by
  refine ⟨h, ?_⟩
  rw [result_validate h]
  cases hr : w.validateChain fs with
  | error e => simp [hr, Except.toOption] at hvalid
  | ok r => exact ⟨r, rfl, by simpa [hr, Except.toOption] using hvalid⟩

theorem Validated.composes {d : Dispatch} (h : Validated d w chain fs) :
    List.IsChain w.Composes fs := by
  obtain ⟨r, hr, hvalid⟩ := h.passes
  rw [result_validate h.functions] at hr
  cases hc : w.validateChain fs with
  | error e => simp [hc] at hr
  | ok q =>
    obtain rfl : q = r := by simpa [hc] using hr
    exact (World.validateChain_isValid hc).mp hvalid

/-- In a chain that passes its check nothing goes wrong with the number of values, as long as the
first input and all outputs are of the types that are declared: a failure of the chain is one of a
call, and no call has too few values if the type with which its input is handed over is none of plain
tuples.  A function that unpacks its input finds as many values as it needs where that type is given
no arguments, or one for each position (and where it has a single position, if the function takes a
single value).  A plain callable requires no second value where that type is no tuple type at all. -/
theorem Validated.arity_sound (h : Validated .standard w chain fs)
    (hx : ∀ f ∈ fs.head?, ∃ s, w.signature .input f = .ok s ∧ w.IsOf s.type x)
    (hgives : ∀ c ∈ calls .standard none x fs w, ∀ y u, c.result .standard = (.ok y, u) →
      w.Declares .output c.step y u) :
    (∀ e u, (Chain.apply .standard chain x).result w = (.error e, u) →
      ∃ c ∈ calls .standard none x fs w, c.result .standard = (.error e, u)) ∧
    ∀ c ∈ calls .standard none x fs w, ∃ t, w.handed c.giver c.step = .ok t ∧
      (t.isPlainTuple = false →
        (∀ n, w.Unpacks c.step n → (n = 1 → w.classes.positions? t = some 1) →
          w.classes.ArgumentsMatch t → ∀ d : Dispatch,
            (Unpacked.unpack d c.step c.input).result c.state =
              (do d.items (← d.method c.input "values" [])).result c.state) ∧
        (w.IsPlain c.step → w.classes.positions? t = none → c.state.required c.step ≤ 1)) := by
  refine ⟨fun e u happly => ?_, fun c hc => ?_⟩
  · rw [Chain.apply, result_bind_ok _ h.functions] at happly
    exact error_of_through happly
  · have hfirst : ∀ f ∈ fs.head?, ∃ t, w.handed none f = .ok t ∧ w.IsOf t x := by
      intro f hf
      obtain ⟨s, hs, hof⟩ := hx f hf
      exact ⟨s.type, by simp [World.handed, hs], hof⟩
    have hchain : List.IsChain w.Composes ((none : Option Value).toList ++ fs) := h.composes
    obtain ⟨hkeeps, hcomposes, t, ht, hof⟩ :=
      calls_sound Dispatch.framing_standard (.refl w) hchain hfirst hgives c hc
    have hsupplies := fun s => World.supplies_handed (s := s) hcomposes ht
    refine ⟨t, ht, fun hplain => ⟨fun n hf hone hargs d => ?_, fun hf hpositions => ?_⟩⟩
    · exact hf.result_unpack hkeeps hsupplies hof hone hplain hargs d
    · obtain ⟨s, hs⟩ := World.exists_input hcomposes ht
      exact hf.required_le hkeeps hs (hsupplies s hs) hplain hpositions

/-- A division of numbers, a function of two numbers that gives the first one, and a plain function of
one number, in a chain, with the classes that they need. -/
def dividing : World :=
  let int : Ty := .cls (.core "int")
  let first : ClassName := ⟨"dividing", "First"⟩
  let classes : List LibraryClass := [.structural, .signatureChecks, .tuple, .arrayTuple, .fixedTuple,
    .tuple2, .function, .functionComposite, .functionN, .function2, .divideBy]
  let rows : List (ClassName × List Ty × Option (Option Nat)) :=
    (.object, [], none) :: classes.map (fun k => (k.className, k.bases, k.arity)) ++
      [(first, [.app (.cls LibraryClass.function2.className) [int, int, int]], none)]
  let untyped (s : String) : Param := ⟨s, .standard, none, none⟩
  { heap := #[
      .object LibraryClass.divideBy.className none [("by", .int 2)],
      .object first none [],
      .routine ⟨"same", [⟨"n", .standard, none, some int⟩], some int, .arg 0, none⟩,
      .list [.ref 0, .ref 1, .ref 2],
      .object LibraryClass.functionComposite.className none [("functions", .ref 3)]]
    hierarchy := ⟨rows.foldl (fun t r => (t.declare? r.1 r.2.1 false [] r.2.2).getD t) [], [], []⟩
    declarations := [⟨first,
      [("apply", ⟨"apply", [untyped "n", untyped "m"], none, .arg 0, none⟩)], none, [], none, none⟩]
    sites := World.initialSites
    registry := ⟨[], []⟩
    trace := []
    log := []
    clock := .none }

def dividingSteps : List Value := [.ref 0, .ref 1, .ref 2]

/-- The state after the division of seven. -/
def divided : World := ((Dispatch.standard.call (.ref 0) [.int 7]).result dividing).2

/-- The state after the second function. -/
def reduced : World := ((Dispatch.standard.call (.ref 1) [.ref 5]).result divided).2

section

set_option maxRecDepth 4000

theorem calls_dividing : calls .standard none (.int 7) dividingSteps dividing =
    [⟨none, .ref 0, .int 7, dividing⟩, ⟨some (.ref 0), .ref 1, .ref 5, divided⟩,
      ⟨some (.ref 1), .ref 2, .int 3, reduced⟩] := rfl

theorem signatures_dividing :
    let int : Signature := .single (.cls (.core "int"))
    let pair : Signature := .tuple (.app (.cls LibraryClass.tuple2.className) [int.type, int.type]) [int, int]
    dividing.signature .input (.ref 0) = .ok int ∧ dividing.signature .output (.ref 0) = .ok pair ∧
      dividing.signature .input (.ref 1) = .ok pair ∧ dividing.signature .output (.ref 1) = .ok int ∧
      dividing.signature .output (.ref 2) = .ok int := ⟨rfl, rfl, rfl, rfl, rfl⟩

theorem validated_dividing : Validated .standard dividing (.ref 4) dividingSteps :=
  .of_isValid rfl (by decide +kernel)

theorem isOf_int (n : Int) {w : World} (hw : w.hierarchy = dividing.hierarchy) :
    w.IsOf (.cls (.core "int")) (.int n) := by
  refine ⟨_, List.mem_singleton_self _, fun c hc => ?_⟩
  obtain rfl := Option.some.inj hc
  have harity : w.classes.arity? (.core "int") = none := by rw [World.classes, hw]; rfl
  exact ⟨.inl (by rw [hw]; rfl), by simp [harity]⟩

/-- The pair of quotient and remainder. -/
theorem isOf_pair : divided.IsOf (.app (.cls LibraryClass.tuple2.className)
    [.cls (.core "int"), .cls (.core "int")]) (.ref 5) := by
  refine ⟨_, List.mem_singleton_self _, fun c hc => ?_⟩
  obtain rfl := Option.some.inj hc
  refine ⟨.inl rfl, fun n hn => ⟨rfl, ?_⟩⟩
  obtain rfl := Option.some.inj hn
  rfl

theorem unpacks_dividing : dividing.Unpacks (.ref 1) 2 :=
  ⟨⟨1, _, _, _, rfl, rfl, .inl rfl⟩, rfl, _, signatures_dividing.2.2.1, rfl⟩

theorem isPlain_dividing : dividing.IsPlain (.ref 2) := by
  refine ⟨⟨[.cls (.core "int")], rfl, rfl, by simp⟩, ?_⟩
  rintro r ⟨⟩
  decide

theorem gives_dividing : ∀ c ∈ calls .standard none (.int 7) dividingSteps dividing, ∀ y u,
    c.result .standard = (.ok y, u) → dividing.Declares .output c.step y u := by
  obtain ⟨-, hpair, -, hint, hint'⟩ := signatures_dividing
  have hdivide : Call.result .standard ⟨none, .ref 0, .int 7, dividing⟩ = (.ok (.ref 5), divided) :=
    rfl
  have hfirst : Call.result .standard ⟨some (.ref 0), .ref 1, .ref 5, divided⟩ =
    (.ok (.int 3), reduced) := rfl
  have hsame : Call.result .standard ⟨some (.ref 1), .ref 2, .int 3, reduced⟩ =
    (.ok (.int 3), reduced) := rfl
  intro c hc y u hresult s hs
  rw [calls_dividing] at hc
  simp only [List.mem_cons, List.not_mem_nil, or_false] at hc
  rcases hc with rfl | rfl | rfl
  · obtain ⟨⟨⟩, rfl⟩ := Prod.mk.inj (hdivide.symm.trans hresult)
    obtain rfl := Except.ok.inj (hpair.symm.trans hs)
    exact isOf_pair
  · obtain ⟨⟨⟩, rfl⟩ := Prod.mk.inj (hfirst.symm.trans hresult)
    obtain rfl := Except.ok.inj (hint.symm.trans hs)
    exact isOf_int 3 rfl
  · obtain ⟨⟨⟩, rfl⟩ := Prod.mk.inj (hsame.symm.trans hresult)
    obtain rfl := Except.ok.inj (hint'.symm.trans hs)
    exact isOf_int 3 rfl

/-- Seven divided by two: the second function unpacks the pair, and the plain one gets its number. -/
theorem dividing_arity_sound :
    Validated .standard dividing (.ref 4) dividingSteps ∧
    (∀ d : Dispatch, (Unpacked.unpack d (.ref 1) (.ref 5)).result divided =
      (do d.items (← d.method (.ref 5) "values" [])).result divided) ∧
    reduced.required (.ref 2) ≤ 1 := by
  obtain ⟨hfirst, hpair, -, hint, hint'⟩ := signatures_dividing
  have hx : ∀ f ∈ dividingSteps.head?, ∃ s, dividing.signature .input f = .ok s ∧
      dividing.IsOf s.type (.int 7) := by
    rintro f ⟨⟩
    exact ⟨_, hfirst, isOf_int 7 rfl⟩
  obtain ⟨-, hcalls⟩ := validated_dividing.arity_sound hx gives_dividing
  rw [calls_dividing] at hcalls
  obtain ⟨t, ht, hpositional⟩ := hcalls _ (.tail _ (.head _))
  obtain ⟨t', ht', hsingle⟩ := hcalls _ (.tail _ (.tail _ (.head _)))
  obtain rfl : _ = t := Except.ok.inj ((congrArg (Signature.type <$> ·) hpair).symm.trans ht)
  obtain rfl : _ = t' := Except.ok.inj ((congrArg (Signature.type <$> ·) hint).symm.trans ht')
  refine ⟨validated_dividing, ?_, (hsingle rfl).2 isPlain_dividing rfl⟩
  refine (hpositional rfl).1 2 unpacks_dividing (by simp) fun n hn => .inr ?_
  exact Option.some.inj hn

end

/-- A function that gives a plain tuple of two numbers, and a function of two numbers, in a chain. -/
def pairing : World :=
  let int : Ty := .cls (.core "int")
  let number (s : String) : Param := ⟨s, .standard, none, some int⟩
  { heap := #[
      .routine ⟨"pair", [number "n"], some (.app (.cls .tuple) [int, int]),
        .const (.tuple [.int 1, .int 2]), none⟩,
      .routine ⟨"add", [number "n", number "m"], some int, .add, none⟩,
      .list [.ref 0, .ref 1],
      .object LibraryClass.functionComposite.className none [("functions", .ref 2)]]
    hierarchy := ⟨[], [], []⟩
    declarations := []
    sites := []
    registry := ⟨[], []⟩
    trace := []
    log := []
    clock := .none }

theorem validated_pairing : Validated .standard pairing (.ref 3) [.ref 0, .ref 1] :=
  .of_isValid rfl (by decide +kernel)

theorem signatures_pairing :
    let int : Signature := .single (.cls (.core "int"))
    let ints : List Ty := [int.type, int.type]
    pairing.signature .input (.ref 0) = .ok int ∧
      pairing.signature .output (.ref 0) = .ok (.tuple (.app (.cls .tuple) ints) [int, int]) ∧
      pairing.signature .input (.ref 1) = .ok (.tuple (.app (.named .tuple) ints) [int, int]) ∧
      pairing.signature .output (.ref 1) = .ok int := ⟨rfl, rfl, rfl, rfl⟩

/-- Both functions say what they take and what they give. -/
theorem constrained_pairing : ∀ f ∈ [Value.ref 0, .ref 1], ∀ side s,
    pairing.signature side f = .ok s → s.type ≠ .any := by
  obtain ⟨hin, hout, hin', hout'⟩ := signatures_pairing
  intro f hf side s hs
  simp only [List.mem_cons, List.not_mem_nil, or_false] at hf
  rcases hf with rfl | rfl <;> cases side <;>
    simp only [hin, hout, hin', hout', Except.ok.injEq] at hs <;>
    subst hs <;> simp [Signature.type]

/-- The second call fails, so only the first one gives anything. -/
theorem gives_pairing : ∀ c ∈ calls .standard none (.int 7) [.ref 0, .ref 1] pairing, ∀ y u,
    c.result .standard = (.ok y, u) → pairing.Declares .output c.step y u := by
  have hcalls : calls .standard none (.int 7) [.ref 0, .ref 1] pairing =
      [⟨none, .ref 0, .int 7, pairing⟩,
        ⟨some (.ref 0), .ref 1, .tuple [.int 1, .int 2], pairing⟩] := rfl
  have hpair : Call.result .standard ⟨none, .ref 0, .int 7, pairing⟩ =
    (.ok (.tuple [.int 1, .int 2]), pairing) := rfl
  have hadd : Call.result .standard ⟨some (.ref 0), .ref 1, .tuple [.int 1, .int 2], pairing⟩ =
    (.error .wrongType, pairing) := rfl
  intro c hc y u hresult s hs
  rw [hcalls] at hc
  simp only [List.mem_cons, List.not_mem_nil, or_false] at hc
  rcases hc with rfl | rfl
  · obtain ⟨⟨⟩, rfl⟩ := Prod.mk.inj (hpair.symm.trans hresult)
    obtain rfl := Except.ok.inj (signatures_pairing.2.1.symm.trans hs)
    refine ⟨_, List.mem_singleton_self _, fun c hc => ?_⟩
    obtain rfl := Option.some.inj hc
    exact ⟨.inl rfl, fun n hn => by cases hn⟩
  · cases hadd.symm.trans hresult

/-- A tuple passes the check of a function of two parameters, which is then called with one value. -/
theorem not_arity_sound : ¬ ∀ (w : World) (chain x : Value) (fs : List Value),
    Validated .standard w chain fs →
    (∀ f ∈ fs, ∀ side s, w.signature side f = .ok s → s.type ≠ .any) →
    (∀ f ∈ fs.head?, ∃ s, w.signature .input f = .ok s ∧ w.IsOf s.type x) →
    (∀ c ∈ calls .standard none x fs w, ∀ y u, c.result .standard = (.ok y, u) →
      w.Declares .output c.step y u) →
    ∀ c ∈ calls .standard none x fs w,
      (∀ n, w.Unpacks c.step n → ∀ name m found u,
        (Unpacked.unpack .standard c.step c.input).result c.state ≠
          (.error (.arity name m found), u)) ∧
      (w.IsPlain c.step → c.state.required c.step ≤ 1) := by
  intro h
  have hx : ∀ f ∈ [Value.ref 0, .ref 1].head?, ∃ s, pairing.signature .input f = .ok s ∧
      pairing.IsOf s.type (.int 7) := by
    rintro f ⟨⟩
    refine ⟨_, signatures_pairing.1, _, List.mem_singleton_self _, fun c hc => ?_⟩
    obtain rfl := Option.some.inj hc
    exact ⟨.inl rfl, fun n hn => by cases hn⟩
  have hplain : pairing.IsPlain (.ref 1) := by
    refine ⟨⟨[.cls (.core "int"), .cls (.core "int")], rfl, rfl, by simp⟩, ?_⟩
    rintro r ⟨⟩
    decide
  have hrequired : pairing.required (.ref 1) ≤ 1 :=
    (h pairing (.ref 3) (.int 7) _ validated_pairing constrained_pairing hx gives_pairing
      ⟨some (.ref 0), .ref 1, .tuple [.int 1, .int 2], pairing⟩ (.tail _ (.head _))).2 hplain
  exact absurd hrequired (by decide)

end Chain

end FunctionObjects
