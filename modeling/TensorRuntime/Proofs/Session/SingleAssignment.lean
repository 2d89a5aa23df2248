import TensorRuntime.Proofs.Session.Wiring

/-!
The wirings that a session accepts: every tensor is defined once and before it is used. This
is said of the graph as it stands, without the list of defined tensors that the check
carries from one operator to the next.
-/

namespace TensorRuntime

namespace Session

variable {session : Session} {index : Nat} {node : Node}

def Given (session : Session) (id : TensorId) : Prop :=
  id ∈ session.inputs ∨
    ∃ tensor, session.slots[id]? = some (some tensor) ∧ tensor.kind = .constant

def WrittenBefore (session : Session) (index : Nat) (id : TensorId) : Prop :=
  ∃ earlier < index, ∃ node, session.nodes[earlier]? = some node ∧ id ∈ node.outputs

/-- The rule for one operator. -/
structure Assigns (session : Session) (index : Nat) (node : Node) : Prop where
  reads : ∀ id ∈ node.inputs, session.Given id ∨ session.WrittenBefore index id
  writes : ∀ id ∈ node.outputs,
    ¬ session.Given id ∧ id ∉ node.inputs ∧ ¬ session.WrittenBefore index id
  once : node.outputs.Nodup

structure SingleAssignment (session : Session) : Prop where
  operators : ∀ index node, session.nodes[index]? = some node → session.Assigns index node
  results : ∀ id ∈ session.outputs,
    session.Given id ∨ ∃ node ∈ session.nodes, id ∈ node.outputs

structure FirstViolation (session : Session) (index : Nat) (node : Node) : Prop where
  here : session.nodes[index]? = some node
  violates : ¬ session.Assigns index node
  before : ∀ earlier < index, ∀ other,
    session.nodes[earlier]? = some other → session.Assigns earlier other

def DefinedAt (session : Session) (index : Nat) (defined : List TensorId) : Prop :=
  ∀ id, id ∈ defined ↔ session.Given id ∨ session.WrittenBefore index id

theorem writtenBefore_zero (session : Session) (id : TensorId) :
    ¬ session.WrittenBefore 0 id := by
  rintro ⟨earlier, impossible, _⟩
  exact Nat.not_lt_zero _ impossible

theorem writtenBefore_succ (here : session.nodes[index]? = some node) (id : TensorId) :
    session.WrittenBefore (index + 1) id ↔
      session.WrittenBefore index id ∨ id ∈ node.outputs := by
  constructor
  · rintro ⟨earlier, bound, other, there, written⟩
    by_cases same : earlier = index
    · subst same
      cases here.symm.trans there
      exact .inr written
    · exact .inl ⟨earlier, by omega, other, there, written⟩
  · rintro (⟨earlier, bound, other, there, written⟩ | written)
    · exact ⟨earlier, by omega, other, there, written⟩
    · exact ⟨index, by omega, node, here, written⟩

theorem writtenBefore_length (session : Session) (id : TensorId) :
    session.WrittenBefore session.nodes.length id ↔
      ∃ node ∈ session.nodes, id ∈ node.outputs := by
  constructor
  · rintro ⟨earlier, _, node, there, written⟩
    exact ⟨node, List.mem_of_getElem? there, written⟩
  · rintro ⟨node, member, written⟩
    obtain ⟨place, there⟩ := List.mem_iff_getElem?.1 member
    exact ⟨place, (List.getElem?_eq_some_iff.1 there).1, node, there, written⟩

theorem definedAt_zero (session : Session) : session.DefinedAt 0 session.initiallyDefined := by
  intro id
  rw [mem_initiallyDefined]
  exact (or_iff_left (session.writtenBefore_zero id)).symm

section Check

variable {defined : List TensorId}

theorem defineOutputs_refusal {inputs outputs : List TensorId} {error : Error}
    (refused : defineOutputs inputs defined outputs = .error error) :
    ∃ reason, error = .invalidGraph reason := by
  induction outputs generalizing defined with
  | nil => cases refused
  | cons id rest ih =>
      rw [defineOutputs] at refused
      split at refused
      · cases refused
        exact ⟨_, rfl⟩
      · split at refused
        · cases refused
          exact ⟨_, rfl⟩
        · exact ih refused

theorem checkNode_refusal {error : Error} (refused : checkNode defined node = .error error) :
    ∃ reason, error = .invalidGraph reason := by
  unfold checkNode at refused
  split at refused
  · cases refused
    exact ⟨_, rfl⟩
  · exact defineOutputs_refusal refused

theorem checkNode_iff_assigns (known : session.DefinedAt index defined) :
    (∃ middle, checkNode defined node = .ok middle) ↔ session.Assigns index node := by
  simp only [checkNode_eq_ok, defineOutputs_eq_ok, exists_and_left, exists_eq, and_true]
  constructor
  · rintro ⟨reads, once, apart⟩
    refine ⟨fun id read => (known id).1 (reads id read), fun id written => ?_, once⟩
    obtain ⟨unread, fresh⟩ := apart id written
    exact ⟨fun given => fresh ((known id).2 (.inl given)), unread,
      fun again => fresh ((known id).2 (.inr again))⟩
  · intro rule
    refine ⟨fun id read => (known id).2 (rule.reads id read), rule.once, fun id written => ?_⟩
    obtain ⟨notGiven, unread, unwritten⟩ := rule.writes id written
    exact ⟨unread, fun already => ((known id).1 already).elim notGiven unwritten⟩

theorem definedAt_succ (known : session.DefinedAt index defined)
    (here : session.nodes[index]? = some node) {middle : List TensorId}
    (checked : checkNode defined node = .ok middle) : session.DefinedAt (index + 1) middle := by
  obtain ⟨_, _, rfl⟩ := defineOutputs_eq_ok.1 (checkNode_eq_ok.1 checked).2
  intro id
  rw [List.mem_append, List.mem_reverse, known id, writtenBefore_succ here, or_comm, or_assoc]

/-- What the check of the operators from `index` on finds: all of them follow the rule and the list
it ends with is right, or it names the first that breaks the rule. -/
theorem checkNodes_cases (known : session.DefinedAt index defined) {rest : List Node}
    (remaining : session.nodes.drop index = rest)
    (before : ∀ earlier < index, ∀ other, session.nodes[earlier]? = some other →
      session.Assigns earlier other) :
    (∃ result, checkNodes defined index rest = .ok result ∧
      session.DefinedAt session.nodes.length result ∧
      ∀ place node, session.nodes[place]? = some node → session.Assigns place node) ∨
    ∃ place node reason, session.FirstViolation place node ∧
      checkNodes defined index rest =
        .error (.inOperator place node.operator.name (.invalidGraph reason)) := by
  induction rest generalizing index defined with
  | nil =>
      have past : session.nodes.length ≤ index := List.drop_eq_nil_iff.1 remaining
      refine .inl ⟨defined, rfl, fun id => ?_, fun place node there => ?_⟩
      · rw [known id]
        refine or_congr_right ⟨?_, ?_⟩
        · rintro ⟨earlier, _, node, there, written⟩
          exact ⟨earlier, (List.getElem?_eq_some_iff.1 there).1, node, there, written⟩
        · rintro ⟨earlier, bound, node, there, written⟩
          exact ⟨earlier, by omega, node, there, written⟩
      · have bound := (List.getElem?_eq_some_iff.1 there).1
        exact before place (by omega) node there
  | cons node later ih =>
      have here : session.nodes[index]? = some node := by
        have first := congrArg List.head? remaining
        rwa [List.head?_drop] at first
      have others : session.nodes.drop (index + 1) = later := by
        rw [← List.drop_drop, remaining, List.drop_one, List.tail_cons]
      rw [checkNodes]
      cases checked : checkNode defined node with
      | error error =>
          obtain ⟨reason, rfl⟩ := checkNode_refusal checked
          refine .inr ⟨index, node, reason, ⟨here, fun rule => ?_, before⟩, rfl⟩
          obtain ⟨middle, passed⟩ := (checkNode_iff_assigns known).2 rule
          rw [checked] at passed
          cases passed
      | ok middle =>
          refine ih (definedAt_succ known here checked) others fun earlier bound other there => ?_
          by_cases same : earlier = index
          · subst same
            cases here.symm.trans there
            exact (checkNode_iff_assigns known).1 ⟨middle, checked⟩
          · exact before earlier (by omega) other there

end Check

theorem FirstViolation.unique {index' : Nat} {node' : Node}
    (first : session.FirstViolation index node) (other : session.FirstViolation index' node') :
    index' = index ∧ node' = node := by
  have same : index' = index := by
    rcases Nat.lt_trichotomy index' index with less | same | more
    · exact absurd (first.before index' less node' other.here) other.violates
    · exact same
    · exact absurd (other.before index more node first.here) first.violates
  subst same
  exact ⟨rfl, Option.some.inj (other.here.symm.trans first.here)⟩

/-- The check accepts, or names the first operator that breaks the rule, or, where no operator
does, names a graph output that nothing defines. -/
theorem validateGraph_cases (session : Session) :
    (session.validateGraph = .ok () ∧ session.SingleAssignment) ∨
    (∃ index node reason, session.FirstViolation index node ∧ session.validateGraph =
      .error (.inOperator index node.operator.name (.invalidGraph reason))) ∨
    (∀ index node, session.nodes[index]? = some node → session.Assigns index node) ∧
      ∃ id ∈ session.outputs, ¬ session.Given id ∧ (∀ node ∈ session.nodes, id ∉ node.outputs) ∧
        ∃ reason, session.validateGraph = .error (.invalidGraph reason) := by
  obtain ⟨result, checked, known, rules⟩ | ⟨index, node, reason, first, refused⟩ :=
    checkNodes_cases session.definedAt_zero (List.drop_zero) fun _ impossible =>
      absurd impossible (Nat.not_lt_zero _)
  · have produced : ∀ id, id ∈ result ↔
        session.Given id ∨ ∃ node ∈ session.nodes, id ∈ node.outputs := by
      intro id
      rw [known id, writtenBefore_length]
    cases missing : session.outputs.find? fun id => decide (id ∉ result) with
    | none =>
        have every : ∀ id ∈ session.outputs, id ∈ result := by simpa using missing
        exact .inl ⟨validateGraph_eq_ok.2 ⟨result, checked, every⟩, rules,
          fun id member => (produced id).1 (every id member)⟩
    | some id =>
        have member := List.mem_of_find?_eq_some missing
        have absent : id ∉ result := by simpa using List.find?_some missing
        rw [produced, not_or, not_exists] at absent
        refine .inr (.inr ⟨rules, id, member, absent.1,
          fun node inside written => absent.2 node ⟨inside, written⟩,
          "graph output #" ++ id.repr ++ " is never produced", ?_⟩)
        unfold validateGraph
        rw [checked]
        dsimp only [bind, Except.bind]
        rw [missing]
        rfl
  · refine .inr (.inl ⟨index, node, reason, first, ?_⟩)
    unfold validateGraph
    rw [refused]
    rfl

theorem setup_of_refused [Host] {error : Error} (refused : session.validateGraph = .error error) :
    session.setup = ({ session with ready := false }, Attempt.refuse error) := by
  have here : validateGraph { session with ready := false } = .error error := refused
  unfold setup
  dsimp only
  rw [here]

theorem setup_of_accepted [Host] (accepted : session.validateGraph = .ok ()) :
    session.setup.2 = (prepareNodes { session with ready := false } 0 session.ledger
      session.nodes).2.2 := by
  have here : validateGraph { session with ready := false } = .ok () := accepted
  unfold setup
  dsimp only
  rw [here]

/-- A session accepts exactly the single-assignment wirings, and only then is any operator prepared.
Otherwise the first operator that breaks the rule is named, or, where none does, a graph output
that nothing defines is refused; either way no binding changes. -/
theorem validateGraph_accepts_single_assignment [Host] (session : Session) :
    (session.validateGraph = .ok () ↔ session.SingleAssignment) ∧
    (session.SingleAssignment → session.setup.2 =
      (prepareNodes { session with ready := false } 0 session.ledger session.nodes).2.2) ∧
    (∀ index node, session.FirstViolation index node → ∃ reason, session.validateGraph =
      .error (.inOperator index node.operator.name (.invalidGraph reason))) ∧
    ∀ error, session.validateGraph = .error error →
      session.setup = ({ session with ready := false }, Attempt.refuse error) ∧
      ((∃ index node reason, session.FirstViolation index node ∧
        error = .inOperator index node.operator.name (.invalidGraph reason)) ∨
      (∀ index node, session.nodes[index]? = some node → session.Assigns index node) ∧
        ∃ id ∈ session.outputs, ¬ session.Given id ∧
          (∀ node ∈ session.nodes, id ∉ node.outputs) ∧ ∃ reason, error = .invalidGraph reason) := by
  obtain ⟨accepted, single⟩ | ⟨index, node, reason, first, refused⟩ |
    ⟨rules, id, member, notGiven, unwritten, reason, refused⟩ := session.validateGraph_cases
  · have rules := single.operators
    refine ⟨iff_of_true accepted single, fun _ => setup_of_accepted accepted, ?_, ?_⟩
    · intro index node first
      exact absurd (rules index node first.here) first.violates
    · intro error refused
      cases accepted.symm.trans refused
  · have broken : ¬ session.SingleAssignment := fun single =>
      first.violates (single.operators index node first.here)
    refine ⟨iff_of_false (by simp [refused]) broken, fun single => absurd single broken, ?_, ?_⟩
    · intro index' node' other
      obtain ⟨rfl, rfl⟩ := first.unique other
      exact ⟨reason, refused⟩
    · intro error refused'
      cases refused.symm.trans refused'
      exact ⟨setup_of_refused refused, .inl ⟨index, node, reason, first, rfl⟩⟩
  · have broken : ¬ session.SingleAssignment := fun single =>
      (single.results id member).elim notGiven fun ⟨node, inside, written⟩ =>
        unwritten node inside written
    refine ⟨iff_of_false (by simp [refused]) broken, fun single => absurd single broken, ?_, ?_⟩
    · intro index node first
      exact absurd (rules index node first.here) first.violates
    · intro error refused'
      cases refused.symm.trans refused'
      exact ⟨setup_of_refused refused,
        .inr ⟨rules, id, member, notGiven, unwritten, reason, rfl⟩⟩

def writtenTwice : Session :=
  let zeros : Tensor := ⟨"", ⟨[1]⟩, .any, none, .scratch, .f32 #[⟨0⟩]⟩
  { create Registry.empty .standard with
    slots := [some zeros, some zeros]
    nodes :=
      [⟨Operator.create "first" (.activation .relu) .untilRelease true, [0], [1]⟩,
        ⟨Operator.create "second" (.activation .relu) .untilRelease true, [0], [1]⟩]
    inputs := [0] }

theorem writtenTwice_violates : writtenTwice.FirstViolation 1
    ⟨Operator.create "second" (.activation .relu) .untilRelease true, [0], [1]⟩ where
  here := rfl
  violates rule := (rule.writes 1 (by simp)).2.2 ⟨0, by decide, _, rfl, by simp⟩
  before := by
    intro earlier bound other there
    obtain rfl : earlier = 0 := by omega
    cases there
    refine ⟨fun id read => .inl (.inl read), fun id written => ?_, by simp⟩
    obtain rfl : id = 1 := by simpa using written
    refine ⟨?_, by simp, writtenBefore_zero _ 1⟩
    rintro (given | ⟨tensor, held, constant⟩)
    · simp [writtenTwice] at given
    · cases held
      cases constant

theorem writtenTwice_names_second : ∃ reason,
    writtenTwice.validateGraph = .error (.inOperator 1 "second" (.invalidGraph reason)) ∧
    writtenTwice.setup = ({ writtenTwice with ready := false },
      Attempt.refuse (.inOperator 1 "second" (.invalidGraph reason))) := by
  obtain ⟨_, _, named, unchanged⟩ := validateGraph_accepts_single_assignment writtenTwice
  obtain ⟨reason, refused⟩ := named 1 _ writtenTwice_violates
  exact ⟨reason, refused, (unchanged _ refused).1⟩

end Session

end TensorRuntime
