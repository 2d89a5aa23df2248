import TensorRuntime.Proofs.Session.Pool

/-!
What a checked wiring guarantees, and what the check depends on: the numbers that
operators read and write, and which tensors are defined before any of them runs.
-/

namespace TensorRuntime

def Node.wires (node : Node) : List TensorId × List TensorId := (node.inputs, node.outputs)

def Node.Separate (node : Node) : Prop :=
  node.outputs.Nodup ∧ ∀ id ∈ node.outputs, id ∉ node.inputs

namespace Session

theorem defineOutputs_eq_ok {inputs defined outputs result : List TensorId} :
    defineOutputs inputs defined outputs = .ok result ↔
      outputs.Nodup ∧ (∀ id ∈ outputs, id ∉ inputs ∧ id ∉ defined) ∧
        result = outputs.reverse ++ defined := by
  induction outputs generalizing defined with
  | nil =>
      simp only [defineOutputs, Except.ok.injEq]
      simp [eq_comm]
  | cons id rest ih =>
      rw [defineOutputs]
      by_cases aliased : id ∈ inputs
      · simp [aliased]
      · by_cases repeated : id ∈ defined
        · simp [aliased, repeated]
        · rw [if_neg aliased, if_neg repeated, ih]
          simp only [List.nodup_cons, List.mem_cons, List.reverse_cons, List.append_assoc,
            List.singleton_append, forall_eq_or_imp, not_or]
          constructor
          · rintro ⟨distinct, apart, rfl⟩
            refine ⟨⟨fun member => (apart id member).2.1 rfl, distinct⟩, ⟨⟨aliased, repeated⟩,
              fun other member => ⟨(apart other member).1, (apart other member).2.2⟩⟩, rfl⟩
          · rintro ⟨⟨fresh, distinct⟩, ⟨_, apart⟩, rfl⟩
            refine ⟨distinct, fun other member => ⟨(apart other member).1, ?_,
              (apart other member).2⟩, rfl⟩
            rintro rfl
            exact fresh member

theorem checkNode_eq_ok {defined result : List TensorId} {node : Node} :
    checkNode defined node = .ok result ↔
      (∀ id ∈ node.inputs, id ∈ defined) ∧
        defineOutputs node.inputs defined node.outputs = .ok result := by
  unfold checkNode
  cases missing : node.inputs.find? fun id => decide (id ∉ defined) with
  | some id =>
      have found := List.find?_some missing
      have member := List.mem_of_find?_eq_some missing
      simp only [reduceCtorEq, false_iff, not_and]
      intro every
      exact absurd (every id member) (by simpa using found)
  | none =>
      have every : ∀ id ∈ node.inputs, id ∈ defined := by
        simpa using missing
      simp only [and_iff_right every]

theorem checkNodes_cons {defined result : List TensorId} {index : Nat} {node : Node}
    {rest : List Node} :
    checkNodes defined index (node :: rest) = .ok result ↔
      ∃ middle, checkNode defined node = .ok middle ∧
        checkNodes middle (index + 1) rest = .ok result := by
  rw [checkNodes]
  cases checkNode defined node with
  | error error => simp
  | ok middle => simp

theorem separate_of_checkNodes {defined result : List TensorId} {index : Nat}
    {nodes : List Node} (checked : checkNodes defined index nodes = .ok result) :
    ∀ node ∈ nodes, node.Separate := by
  induction nodes generalizing defined index with
  | nil => simp
  | cons first rest ih =>
      obtain ⟨middle, here, later⟩ := checkNodes_cons.1 checked
      obtain ⟨distinct, apart, _⟩ := defineOutputs_eq_ok.1 (checkNode_eq_ok.1 here).2
      intro node member
      rcases List.mem_cons.1 member with rfl | member
      · exact ⟨distinct, fun id written => (apart id written).1⟩
      · exact ih later node member

theorem outputs_apart_of_checkNodes {defined result : List TensorId} {index : Nat}
    {nodes : List Node} (checked : checkNodes defined index nodes = .ok result) :
    (∀ node ∈ nodes, ∀ id ∈ node.outputs, id ∉ defined) ∧
      nodes.Pairwise fun earlier later => ∀ id ∈ earlier.outputs, id ∉ later.outputs := by
  induction nodes generalizing defined index with
  | nil => simp
  | cons first rest ih =>
      obtain ⟨middle, here, later⟩ := checkNodes_cons.1 checked
      obtain ⟨_, apart, rfl⟩ := defineOutputs_eq_ok.1 (checkNode_eq_ok.1 here).2
      obtain ⟨fresh, pairwise⟩ := ih later
      refine ⟨?_, List.pairwise_cons.2 ⟨?_, pairwise⟩⟩
      · intro node member id written
        rcases List.mem_cons.1 member with rfl | member
        · exact (apart id written).2
        · exact fun already => fresh node member id written (List.mem_append_right _ already)
      · intro node member id written again
        exact fresh node member id again (List.mem_append_left _ (List.mem_reverse.2 written))

theorem mem_of_checkNodes {defined result : List TensorId} {index : Nat} {nodes : List Node}
    (checked : checkNodes defined index nodes = .ok result) :
    (∀ id ∈ defined, id ∈ result) ∧ ∀ node ∈ nodes, ∀ id ∈ node.outputs, id ∈ result := by
  induction nodes generalizing defined index with
  | nil =>
      cases checked
      simp
  | cons first rest ih =>
      obtain ⟨middle, here, later⟩ := checkNodes_cons.1 checked
      obtain ⟨_, _, rfl⟩ := defineOutputs_eq_ok.1 (checkNode_eq_ok.1 here).2
      obtain ⟨kept, written⟩ := ih later
      refine ⟨fun id before => kept id (List.mem_append_right _ before), ?_⟩
      intro node member id output
      rcases List.mem_cons.1 member with rfl | member
      · exact kept id (List.mem_append_left _ (List.mem_reverse.2 output))
      · exact written node member id output

theorem checkNodes_mono {defined defined' result : List TensorId} {index index' : Nat}
    {nodes nodes' : List Node} (wires : nodes'.map Node.wires = nodes.map Node.wires)
    (more : ∀ id ∈ defined, id ∈ defined')
    (unwritten : ∀ id ∈ defined', id ∈ defined ∨ ∀ node ∈ nodes, id ∉ node.outputs)
    (checked : checkNodes defined index nodes = .ok result) :
    ∃ result', checkNodes defined' index' nodes' = .ok result' ∧ ∀ id ∈ result, id ∈ result' := by
  induction nodes generalizing defined defined' index index' nodes' with
  | nil =>
      cases nodes' with
      | nil =>
          cases checked
          exact ⟨defined', rfl, more⟩
      | cons => cases wires
  | cons node rest ih =>
      cases nodes' with
      | nil => cases wires
      | cons node' rest' =>
          simp only [List.map_cons, List.cons.injEq, Node.wires, Prod.mk.injEq] at wires
          obtain ⟨⟨sameInputs, sameOutputs⟩, others⟩ := wires
          obtain ⟨middle, here, later⟩ := checkNodes_cons.1 checked
          obtain ⟨reads, written⟩ := checkNode_eq_ok.1 here
          obtain ⟨distinct, apart, rfl⟩ := defineOutputs_eq_ok.1 written
          have here' : checkNode defined' node' = .ok (node.outputs.reverse ++ defined') := by
            rw [checkNode_eq_ok, sameInputs, sameOutputs, defineOutputs_eq_ok]
            refine ⟨fun id member => more id (reads id member), distinct, ?_, rfl⟩
            intro id member
            refine ⟨(apart id member).1, fun already => ?_⟩
            rcases unwritten id already with before | never
            · exact (apart id member).2 before
            · exact never node (by simp) member
          have more' : ∀ id ∈ node.outputs.reverse ++ defined,
              id ∈ node.outputs.reverse ++ defined' := by
            intro id member
            rcases List.mem_append.1 member with own | before
            · exact List.mem_append_left _ own
            · exact List.mem_append_right _ (more id before)
          have unwritten' : ∀ id ∈ node.outputs.reverse ++ defined',
              id ∈ node.outputs.reverse ++ defined ∨ ∀ node ∈ rest, id ∉ node.outputs := by
            intro id member
            rcases List.mem_append.1 member with own | already
            · exact .inl (List.mem_append_left _ own)
            · rcases unwritten id already with before | never
              · exact .inl (List.mem_append_right _ before)
              · exact .inr fun other inside => never other (by simp [inside])
          obtain ⟨result', later', kept⟩ : ∃ result',
              checkNodes (node.outputs.reverse ++ defined') (index' + 1) rest' = .ok result' ∧
                ∀ id ∈ result, id ∈ result' := ih others more' unwritten' later
          exact ⟨result', checkNodes_cons.2 ⟨_, here', later'⟩, kept⟩

theorem validateGraph_eq_ok {session : Session} :
    session.validateGraph = .ok () ↔
      ∃ defined, checkNodes session.initiallyDefined 0 session.nodes = .ok defined ∧
        ∀ id ∈ session.outputs, id ∈ defined := by
  unfold validateGraph
  rw [Attempt.bind_eq_ok]
  constructor
  · rintro ⟨defined, checked, produced⟩
    refine ⟨defined, checked, ?_⟩
    cases missing : session.outputs.find? fun id => decide (id ∉ defined) with
    | some id =>
        rw [missing] at produced
        cases produced
    | none => simpa using missing
  · rintro ⟨defined, checked, every⟩
    refine ⟨defined, checked, ?_⟩
    have none : (session.outputs.find? fun id => decide (id ∉ defined)) = none := by
      simpa using every
    rw [none]
    rfl

theorem separate_of_validateGraph {session : Session}
    (checked : session.validateGraph = .ok ()) : ∀ node ∈ session.nodes, node.Separate := by
  obtain ⟨defined, nodes, _⟩ := validateGraph_eq_ok.1 checked
  exact separate_of_checkNodes nodes

theorem outputs_apart_of_validateGraph {session : Session}
    (checked : session.validateGraph = .ok ()) :
    session.nodes.Pairwise fun earlier later => ∀ id ∈ earlier.outputs, id ∉ later.outputs := by
  obtain ⟨defined, nodes, _⟩ := validateGraph_eq_ok.1 checked
  exact (outputs_apart_of_checkNodes nodes).2

/-- The check passes again after a change that keeps the wires and defines no less, and nothing
more that an operator writes. -/
theorem validateGraph_mono {session session' : Session}
    (wires : session'.nodes.map Node.wires = session.nodes.map Node.wires)
    (outputs : session'.outputs = session.outputs)
    (more : ∀ id ∈ session.initiallyDefined, id ∈ session'.initiallyDefined)
    (unwritten : ∀ id ∈ session'.initiallyDefined,
      id ∈ session.initiallyDefined ∨ ∀ node ∈ session.nodes, id ∉ node.outputs)
    (checked : session.validateGraph = .ok ()) : session'.validateGraph = .ok () := by
  obtain ⟨defined, nodes, produced⟩ := validateGraph_eq_ok.1 checked
  obtain ⟨defined', nodes', kept⟩ := checkNodes_mono wires more unwritten nodes
  refine validateGraph_eq_ok.2 ⟨defined', nodes', ?_⟩
  rw [outputs]
  exact fun id member => kept id (produced id member)

theorem mem_initiallyDefined {session : Session} {id : TensorId} :
    id ∈ session.initiallyDefined ↔ id ∈ session.inputs ∨
      ∃ tensor, session.slots[id]? = some (some tensor) ∧ tensor.kind = .constant := by
  simp only [initiallyDefined, List.mem_append, List.mem_filterMap, Prod.exists]
  refine or_congr_right ⟨?_, ?_⟩
  · rintro ⟨slot, place, member, constant⟩
    rw [List.mem_zipIdx_iff_getElem?] at member
    cases slot with
    | none => simp at constant
    | some tensor =>
        by_cases kind : tensor.kind = .constant
        · simp [kind] at constant
          subst constant
          exact ⟨tensor, member, kind⟩
        · simp [kind] at constant
  · rintro ⟨tensor, held, kind⟩
    exact ⟨some tensor, id, List.mem_zipIdx_iff_getElem?.2 held, by simp [kind]⟩

theorem initiallyDefined_frames {session session' : Session}
    (inputs : session'.inputs = session.inputs)
    (frames : slotFrames session'.slots = slotFrames session.slots) (id : TensorId) :
    id ∈ session'.initiallyDefined ↔ id ∈ session.initiallyDefined := by
  have oneWay : ∀ {slots slots' : List (Option Tensor)}, slotFrames slots' = slotFrames slots →
      (∃ tensor, slots[id]? = some (some tensor) ∧ tensor.kind = .constant) →
      ∃ tensor, slots'[id]? = some (some tensor) ∧ tensor.kind = .constant := by
    rintro slots slots' same ⟨tensor, held, kind⟩
    obtain ⟨tensor', held', sameFrame⟩ := exists_of_slotFrames same held
    exact ⟨tensor', held', (Tensor.frame_eq_iff.1 sameFrame).2.1.trans kind⟩
  rw [mem_initiallyDefined, mem_initiallyDefined, inputs]
  exact or_congr_right ⟨oneWay frames.symm, oneWay frames⟩

end Session

end TensorRuntime
