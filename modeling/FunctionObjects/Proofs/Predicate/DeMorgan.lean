import FunctionObjects.Proofs.Predicate.Combining
/-!
# Negations pushed inwards

Predicates may answer, fail, record calls and use up what they are handed, so that it counts which of them
are asked, and in which order.  Pushing negations through conjunctions and disjunctions down to the
predicates changes nothing of this.
-/

namespace FunctionObjects

open Run World

/-- A nesting of negations, conjunctions and disjunctions.  Formulas that are joined are all asked for, with
`true`, or one of them is, with `false`. -/
inductive Formula where
  | leaf (p : Value)
  | neg (φ : Formula)
  | joined (b : Bool) (φs : List Formula)

/-- How a question was answered: which predicates were asked, one after the other, the answer, and the state
after it. -/
structure Course where
  asked : List Value
  answer : Except Fault Bool
  state : World

namespace Course

/-- What a call gives that takes this course. -/
def result (c : Course) : Except Fault Value × World := (c.answer.map .bool, c.state)

/-- The same answer for `true`, and the opposite one for `false`. -/
def signed (c : Course) (pos : Bool) : Course := { c with answer := c.answer.map (· == pos) }

/-- Goes on to another question if the answer is `b`. -/
def andThen (c : Course) (b : Bool) (next : World → Course) : Course :=
  if c.answer.toOption = some b then
    { next c.state with asked := c.asked ++ (next c.state).asked }
  else c

theorem signed_true (c : Course) : c.signed true = c := by
  obtain ⟨ps, r, u⟩ := c
  cases r <;> simp [signed, Except.map]

theorem signed_signed (c : Course) (a b : Bool) : (c.signed a).signed b = c.signed (a == b) := by
  obtain ⟨ps, r, u⟩ := c
  cases r with
  | error e => rfl
  | ok v => cases v <;> cases a <;> cases b <;> rfl

/-- The opposite of a sequence of questions that stops at the opposite answer. -/
theorem signed_andThen (c : Course) (b pos : Bool) (next : World → Course) :
    (c.andThen b next).signed pos =
      (c.signed pos).andThen (b == pos) fun u => (next u).signed pos := by
  obtain ⟨ps, r, u⟩ := c
  cases r with
  | error e => rfl
  | ok v => cases v <;> cases b <;> cases pos <;> rfl

end Course

/-- In some states, which it does not leave, a predicate answers a value with a truth value or fails, in the
same way at every depth from `n` on. -/
structure Answers (P : World → Prop) (n : Nat) (x : Value)
    (ask : Value → Run Bool) (p : Value) : Prop where
  call : ∀ {u m}, P u → n ≤ m →
    ((Dispatch.ofDepth m).call p [x]).result u = (Value.bool <$> ask p).result u
  stays : ∀ {u}, P u → P ((ask p).result u).2

namespace Formula

variable {P : World → Prop} {x : Value} {ask : Value → Run Bool} {w : World} {n : Nat}

mutual

/-- Pushes a negation down to the predicates; for `true` only the negations inside. -/
def normal (pos : Bool) : Formula → Formula
  | .leaf p => if pos then .leaf p else .neg (.leaf p)
  | .neg φ => normal (!pos) φ
  | .joined b φs => .joined (b == pos) (normalAll pos φs)

def normalAll (pos : Bool) : List Formula → List Formula
  | [] => []
  | φ :: φs => normal pos φ :: normalAll pos φs

end

/-- The negation normal form. -/
def nnf (φ : Formula) : Formula := φ.normal true

mutual

/-- Whether only predicates are negated. -/
def IsNormal : Formula → Prop
  | .leaf _ => True
  | .neg (.leaf _) => True
  | .neg _ => False
  | .joined _ φs => AreNormal φs

def AreNormal : List Formula → Prop
  | [] => True
  | φ :: φs => IsNormal φ ∧ AreNormal φs

end

mutual

/-- The predicates of a formula, from the first to the last. -/
def leaves : Formula → List Value
  | .leaf p => [p]
  | .neg φ => leaves φ
  | .joined _ φs => leavesAll φs

def leavesAll : List Formula → List Value
  | [] => []
  | φ :: φs => leaves φ ++ leavesAll φs

end

mutual

/-- How deep negations, conjunctions and disjunctions are nested. -/
def height : Formula → Nat
  | .leaf _ => 0
  | .neg φ => height φ + 1
  | .joined _ φs => heightAll φs + 1

def heightAll : List Formula → Nat
  | [] => 0
  | φ :: φs => max (height φ) (heightAll φs)

end

variable (ask) in
mutual

/-- How a formula is answered in a state: what is joined is asked in turn, as long as the answer is open. -/
def course : Formula → World → Course
  | .leaf p, w => ⟨[p], ((ask p).result w).1, ((ask p).result w).2⟩
  | .neg φ, w => (course φ w).signed false
  | .joined b φs, w => courseAll b φs w

def courseAll (b : Bool) : List Formula → World → Course
  | [], w => ⟨[], .ok b, w⟩
  | φ :: φs, w => (course φ w).andThen b (courseAll b φs)

end

variable (P) in
mutual

/-- An object that is made like a formula, and stays so in some states. -/
def IsMade : Formula → Value → Prop
  | .leaf p, F => F = p ∧ p.isNone = false
  | .neg φ, F => ∃ G, IsMade φ G ∧ ∀ u, P u → u.Negates F G
  | .joined b φs, F => ∃ Gs, AreMade φs Gs ∧ ∀ u, P u → u.Combines b F Gs

def AreMade : List Formula → List Value → Prop
  | [], [] => True
  | φ :: φs, G :: Gs => IsMade φ G ∧ AreMade φs Gs
  | _, _ => False

end

mutual

theorem isNormal_normal : ∀ (pos : Bool) (φ : Formula), (φ.normal pos).IsNormal
  | true, .leaf _ => trivial
  | false, .leaf _ => trivial
  | pos, .neg φ => isNormal_normal (!pos) φ
  | pos, .joined _ φs => areNormal_normalAll pos φs

theorem areNormal_normalAll : ∀ (pos : Bool) (φs : List Formula), AreNormal (normalAll pos φs)
  | _, [] => trivial
  | pos, φ :: φs => ⟨isNormal_normal pos φ, areNormal_normalAll pos φs⟩

end

mutual

theorem leaves_normal : ∀ (pos : Bool) (φ : Formula), (φ.normal pos).leaves = φ.leaves
  | true, .leaf _ => rfl
  | false, .leaf _ => rfl
  | pos, .neg φ => leaves_normal (!pos) φ
  | pos, .joined _ φs => leavesAll_normalAll pos φs

theorem leavesAll_normalAll : ∀ (pos : Bool) (φs : List Formula),
    leavesAll (normalAll pos φs) = leavesAll φs
  | _, [] => rfl
  | pos, φ :: φs => congrArg₂ (· ++ ·) (leaves_normal pos φ) (leavesAll_normalAll pos φs)

end

mutual

theorem height_normal : ∀ (pos : Bool) (φ : Formula),
    (φ.normal pos).height ≤ φ.height + (!pos).toNat
  | true, .leaf _ => Nat.le_refl _
  | false, .leaf _ => Nat.le_refl _
  | pos, .neg φ => by
    have h := height_normal (!pos) φ
    rw [normal, height]
    cases pos <;> simp only [Bool.not_true, Bool.not_false, Bool.toNat_true, Bool.toNat_false] at h ⊢
      <;> omega
  | pos, .joined _ φs => by
    have h := heightAll_normalAll pos φs
    rw [normal, height, height]
    omega

theorem heightAll_normalAll : ∀ (pos : Bool) (φs : List Formula),
    heightAll (normalAll pos φs) ≤ heightAll φs + (!pos).toNat
  | _, [] => Nat.zero_le _
  | pos, φ :: φs => by
    have h := height_normal pos φ
    have hs := heightAll_normalAll pos φs
    rw [normalAll, heightAll, heightAll]
    omega

end

mutual

/-- Pushing a negation inwards changes the answer if there is one, and neither what is asked nor what comes
of it. -/
theorem course_normal : ∀ (pos : Bool) (φ : Formula) (w : World),
    (φ.normal pos).course ask w = (φ.course ask w).signed pos
  | true, .leaf _, _ => (Course.signed_true _).symm
  | false, .leaf _, _ => rfl
  | pos, .neg φ, w => by
    rw [normal, course_normal (!pos) φ w, course, Course.signed_signed]
    cases pos <;> rfl
  | pos, .joined b φs, w => courseAll_normalAll pos b φs w

theorem courseAll_normalAll : ∀ (pos b : Bool) (φs : List Formula) (w : World),
    courseAll ask (b == pos) (normalAll pos φs) w = (courseAll ask b φs w).signed pos
  | _, _, [], _ => rfl
  | pos, b, φ :: φs, w => by
    have hrest : courseAll ask (b == pos) (normalAll pos φs) =
        fun u => (courseAll ask b φs u).signed pos := by
      funext u
      exact courseAll_normalAll pos b φs u
    rw [normalAll, courseAll, course_normal pos φ w, hrest, courseAll, Course.signed_andThen]

end

mutual

/-- What asking any predicate of a formula keeps, answering the formula keeps. -/
theorem course_keeps {Q : List Value → World → Prop} : ∀ (φ : Formula) (ps : List Value) {w : World},
    (∀ p ∈ φ.leaves, ∀ ps u, Q ps u → Q (ps ++ [p]) ((ask p).result u).2) → Q ps w →
    Q (ps ++ (φ.course ask w).asked) (φ.course ask w).state
  | .leaf p, _, _, hask, hw => hask p (List.mem_singleton_self p) _ _ hw
  | .neg φ, ps, _, hask, hw => course_keeps φ ps hask hw
  | .joined b φs, ps, _, hask, hw => courseAll_keeps b φs ps hask hw

theorem courseAll_keeps {Q : List Value → World → Prop} :
    ∀ (b : Bool) (φs : List Formula) (ps : List Value) {w : World},
    (∀ p ∈ leavesAll φs, ∀ ps u, Q ps u → Q (ps ++ [p]) ((ask p).result u).2) → Q ps w →
    Q (ps ++ (courseAll ask b φs w).asked) (courseAll ask b φs w).state
  | _, [], ps, _, _, hw => by
    rw [courseAll, List.append_nil]
    exact hw
  | b, φ :: φs, ps, w, hask, hw => by
    have hfirst := course_keeps φ ps (fun p hp => hask p (List.mem_append_left _ hp)) hw
    rw [courseAll, Course.andThen]
    split
    · rw [← List.append_assoc]
      exact courseAll_keeps b φs _ (fun p hp => hask p (List.mem_append_right _ hp)) hfirst
    · exact hfirst

end

theorem course_stays {φ : Formula} (hw : P w) (hask : ∀ p ∈ φ.leaves, Answers P n x ask p) :
    P (φ.course ask w).state :=
  course_keeps (Q := fun _ u => P u) φ [] (fun p hp _ _ hu => (hask p hp).stays hu) hw

mutual

/-- An object that is made like a formula answers as the formula does. -/
theorem result_call : ∀ (φ : Formula) {F : Value} {w : World} {m : Nat}, P w →
    (∀ p ∈ φ.leaves, Answers P n x ask p) → φ.IsMade P F → n + 2 * φ.height ≤ m →
    ((Dispatch.ofDepth m).call F [x]).result w = (φ.course ask w).result
  | .leaf p, F, w, m, hw, hask, hF, hm => by
    obtain ⟨rfl, -⟩ := hF
    rw [(hask F (List.mem_singleton_self F)).call hw hm, result_map, course, Course.result]
    generalize (ask F).result w = out
    obtain ⟨r, u⟩ := out
    cases r <;> rfl
  | .neg φ, F, w, m, hw, hask, hF, hm => by
    obtain ⟨G, hG, hnegates⟩ := hF
    rw [height] at hm
    obtain ⟨k, rfl⟩ : ∃ k, m = k + 2 := ⟨m - 2, by omega⟩
    have haccepts := Dispatch.result_accepts (result_call φ hw hask hG (m := k) (by omega))
    rw [Dispatch.result_call_negation (hnegates w hw), result_bind, haccepts, course]
    generalize φ.course ask w = c
    obtain ⟨ps, r, u⟩ := c
    cases r with
    | error e => rfl
    | ok a => cases a <;> rfl
  | .joined b φs, F, w, m, hw, hask, hF, hm => by
    obtain ⟨Gs, hGs, hcombines⟩ := hF
    rw [height] at hm
    obtain ⟨k, rfl⟩ : ∃ k, m = k + 2 := ⟨m - 2, by omega⟩
    rw [Dispatch.result_call_combined (hcombines w hw), result_bind,
      result_askAll b φs hw hask hGs (m := k) (by omega), course]
    generalize courseAll ask b φs w = c
    obtain ⟨ps, r, u⟩ := c
    cases r <;> rfl

theorem result_askAll : ∀ (b : Bool) (φs : List Formula) {Fs : List Value} {w : World} {m : Nat}, P w →
    (∀ p ∈ leavesAll φs, Answers P n x ask p) → AreMade P φs Fs → n + 2 * heightAll φs ≤ m →
    (Logical.askAll (.ofDepth m) x b Fs).result w =
      ((courseAll ask b φs w).answer, (courseAll ask b φs w).state)
  | _, [], [], _, _, _, _, _, _ => rfl
  | _, [], _ :: _, _, _, _, _, hFs, _ => hFs.elim
  | _, _ :: _, [], _, _, _, _, hFs, _ => hFs.elim
  | b, φ :: φs, F :: Fs, w, m, hw, hask, ⟨hF, hFs⟩, hm => by
    rw [heightAll] at hm
    have hask₁ : ∀ p ∈ φ.leaves, Answers P n x ask p := fun p hp =>
      hask p (List.mem_append_left _ hp)
    have haccepts := Dispatch.result_accepts (result_call φ hw hask₁ hF (m := m) (by omega))
    have hrest := result_askAll b φs (course_stays hw hask₁)
      (fun p hp => hask p (List.mem_append_right _ hp)) hFs (m := m) (by omega)
    rw [Logical.askAll, result_bind, haccepts, courseAll]
    generalize φ.course ask w = c at hrest ⊢
    obtain ⟨ps, r, u⟩ := c
    cases r with
    | error e => rfl
    | ok a =>
      by_cases hab : a = b
      · simpa [Course.andThen, Except.toOption, hab] using hrest
      · obtain rfl := Bool.eq_not_of_ne hab
        simp [Course.andThen, Except.toOption]

end

/-- The opposite of a conjunction is the disjunction of the opposites, and the other way around. -/
theorem nnf_neg_joined (b : Bool) (ps : List Value) :
    (neg (joined b (ps.map leaf))).nnf = joined (!b) (ps.map fun p => neg (leaf p)) := by
  have hall : normalAll false (ps.map leaf) = ps.map fun p => neg (leaf p) := by
    induction ps with
    | nil => rfl
    | cons p ps ih => exact congrArg (_ :: ·) ih
  simp [nnf, normal, hall]

/-- A nesting of negations, conjunctions and disjunctions and its negation normal form have the same outcome
on a value that is handed to them, a truth value or a failure, and end in the same state: on the way they ask
the same predicates in the same order.  That shows in the calls that are recorded, if predicates record
theirs. -/
theorem nnf_answers_alike {φ : Formula} {F G : Value} {m : Nat} (hw : P w)
    (hask : ∀ p ∈ φ.leaves, Answers P n x ask p) (hF : φ.IsMade P F) (hG : φ.nnf.IsMade P G)
    (hm : n + 2 * φ.height ≤ m) :
    φ.nnf.IsNormal ∧
    (∀ b ps, φ = neg (joined b (List.map leaf ps)) →
      φ.nnf = joined (!b) (ps.map fun p => neg (leaf p))) ∧
    φ.nnf.course ask w = φ.course ask w ∧
    ((Dispatch.ofDepth m).call F [x]).result w = (φ.course ask w).result ∧
    ((Dispatch.ofDepth m).call G [x]).result w = (φ.course ask w).result ∧
    ∀ label : Value → String, (∀ p ∈ φ.leaves, ∀ u, P u →
        ((ask p).result u).2.trace.map (·.label) = u.trace.map (·.label) ++ [label p]) →
      (φ.course ask w).state.trace.map (·.label) =
        w.trace.map (·.label) ++ (φ.course ask w).asked.map label := by
  have hcourse : φ.nnf.course ask w = φ.course ask w := by
    rw [nnf, course_normal, Course.signed_true]
  have hheight : φ.nnf.height ≤ φ.height := height_normal true φ
  refine ⟨isNormal_normal true φ, ?_, hcourse, result_call φ hw hask hF hm, ?_, ?_⟩
  · rintro b ps rfl
    exact nnf_neg_joined b ps
  · rw [← hcourse]
    exact result_call φ.nnf hw (leaves_normal true φ ▸ hask) hG (by omega)
  · intro label hlabel
    refine (course_keeps
      (Q := fun ps u => P u ∧ u.trace.map (·.label) = w.trace.map (·.label) ++ ps.map label)
      φ [] (fun p hp ps u hu => ⟨(hask p hp).stays hu.1, ?_⟩) ⟨hw, by simp⟩).2
    rw [hlabel p hp u hu.1, hu.2, List.map_append, List.append_assoc]
    rfl

end Formula

/-- A predicate that records its calls, with the label under which it does so. -/
def recorded (label : String) (body : Body) : Routine :=
  ⟨label, [⟨"x", .standard, none, none⟩], none, body, some label⟩

/-- A predicate that accepts, one that fails, and the objects for the opposite of "the first and not the
second" and for "not the first or the second". -/
def asking : World := { World.initial with
  heap := #[.routine (recorded "p" (.const (.bool true))), .routine (recorded "q" (.fail "no")),
    .object LibraryClass.negation.className none [("predicate", .ref 1)],
    .list [.ref 0, .ref 2],
    .object LibraryClass.conjunction.className none [("predicates", .ref 3)],
    .object LibraryClass.negation.className none [("predicate", .ref 4)],
    .object LibraryClass.negation.className none [("predicate", .ref 0)],
    .list [.ref 6, .ref 1],
    .object LibraryClass.disjunction.className none [("predicates", .ref 7)]] }

/-- How the two predicates are answered. -/
def answer (x p : Value) : Run Bool :=
  match p with
  | .ref 0 => do Run.record "p" [x]; return true
  | _ => do Run.record "q" [x]; throw (.raised "no")

theorem answers_asking (x : Value) :
    ∀ p ∈ [Value.ref 0, .ref 1], Answers asking.Grows 1 x (answer x) p := by
  have hrecord : ∀ {u : World} {label : String}, asking.Grows u →
      asking.Grows { u with trace := u.trace ++ [⟨label, [x], u.heap⟩] } := fun hu =>
    ⟨hu.heap, hu.hierarchy, hu.declarations, hu.registry, hu.zones⟩
  simp only [List.forall_mem_cons]
  refine ⟨⟨?_, fun hu => hrecord hu⟩, ⟨?_, fun hu => hrecord hu⟩, nofun⟩
  · intro u m hu hm
    obtain ⟨k, rfl⟩ : ∃ k, m = k + 1 := ⟨m - 1, by omega⟩
    change (callValue (.ofDepth k) (.ref 0) [x]).result u = _
    simp only [callValue, result_bind, result_cell?, hu.heap (r := 0) rfl]
    rfl
  · intro u m hu hm
    obtain ⟨k, rfl⟩ : ∃ k, m = k + 1 := ⟨m - 1, by omega⟩
    change (callValue (.ofDepth k) (.ref 1) [x]).result u = _
    simp only [callValue, result_bind, result_cell?, hu.heap (r := 1) rfl]
    rfl

/-- The objects stay what they are made of as cells are added. -/
theorem handsOn_asking {u : World} (hu : asking.Grows u) :
    u.HandsOn (.ref 2) .predicate "test" .negation "predicate" (.ref 1) ∧
    u.HandsOn (.ref 4) .predicate "test" .conjunction "predicates" (.ref 3) ∧
    u.HandsOn (.ref 5) .predicate "test" .negation "predicate" (.ref 4) ∧
    u.HandsOn (.ref 6) .predicate "test" .negation "predicate" (.ref 0) ∧
    u.HandsOn (.ref 8) .predicate "test" .disjunction "predicates" (.ref 7) := by
  have hmethods := methods_around (w := u) ⟨hu.hierarchy, hu.declarations⟩
  simp only [answeringAround, List.forall_mem_cons] at hmethods
  obtain ⟨hcallNot, htestNot, hcallAnd, htestAnd, hcallOr, htestOr, -⟩ := hmethods
  exact ⟨⟨_, _, ⟨2, none, rfl, hu.heap rfl⟩, rfl, rfl, hcallNot, htestNot⟩,
    ⟨_, _, ⟨4, none, rfl, hu.heap rfl⟩, rfl, rfl, hcallAnd, htestAnd⟩,
    ⟨_, _, ⟨5, none, rfl, hu.heap rfl⟩, rfl, rfl, hcallNot, htestNot⟩,
    ⟨_, _, ⟨6, none, rfl, hu.heap rfl⟩, rfl, rfl, hcallNot, htestNot⟩,
    ⟨_, _, ⟨8, none, rfl, hu.heap rfl⟩, rfl, rfl, hcallOr, htestOr⟩⟩

/-- Both objects ask the first predicate and then the second one, which fails. -/
theorem asking_alike : ∃ u,
    (Dispatch.standard.call (.ref 5) [.int 3]).result asking = (.error (.raised "no"), u) ∧
    (Dispatch.standard.call (.ref 8) [.int 3]).result asking = (.error (.raised "no"), u) ∧
    u.trace.map (·.label) = ["p", "q"] := by
  let φ : Formula := .neg (.joined true [.leaf (.ref 0), .neg (.leaf (.ref 1))])
  have hF : φ.IsMade asking.Grows (.ref 5) :=
    ⟨.ref 4, ⟨[.ref 0, .ref 2], ⟨⟨rfl, rfl⟩, ⟨.ref 1, ⟨rfl, rfl⟩,
      fun _ hu => ⟨rfl, (handsOn_asking hu).1⟩⟩, trivial⟩,
      fun _ hu => ⟨3, hu.heap rfl, (handsOn_asking hu).2.1⟩⟩,
      fun _ hu => ⟨rfl, (handsOn_asking hu).2.2.1⟩⟩
  have hG : φ.nnf.IsMade asking.Grows (.ref 8) :=
    ⟨[.ref 6, .ref 1], ⟨⟨.ref 0, ⟨rfl, rfl⟩, fun _ hu => ⟨rfl, (handsOn_asking hu).2.2.2.1⟩⟩,
      ⟨rfl, rfl⟩, trivial⟩, fun _ hu => ⟨7, hu.heap rfl, (handsOn_asking hu).2.2.2.2⟩⟩
  have hask : ∀ p ∈ φ.leaves, Answers asking.Grows 1 (.int 3) (answer (.int 3)) p :=
    answers_asking (.int 3)
  obtain ⟨-, -, -, hcall, hcall', htrace⟩ :=
    Formula.nnf_answers_alike (m := 1000) (.refl asking) hask hF hG (by decide)
  refine ⟨_, hcall, hcall', htrace (fun p => if p matches .ref 0 then "p" else "q") ?_⟩
  intro p hp u _
  obtain rfl | rfl : p = .ref 0 ∨ p = .ref 1 := by
    simpa only [φ, Formula.leaves, Formula.leavesAll, List.nil_append, List.cons_append,
      List.mem_cons, List.not_mem_nil, or_false] using hp
  · exact List.map_append
  · exact List.map_append

end FunctionObjects
