import TensorRuntime.Proofs.Session.Invariant

/-!
A run, node by node. Each node writes its own slots and keeps their frames, so the
invariant holds after every node, and what can stop a run is a kernel.
-/

namespace TensorRuntime

open Attempt

theorem map_set_of_same {α β : Type} {items : List α} {place : Nat} {old new : α} {read : α → β}
    (here : items[place]? = some old) (same : read new = read old) :
    (items.set place new).map read = items.map read := by
  apply List.ext_getElem?
  intro other
  simp only [List.getElem?_map, List.getElem?_set]
  by_cases hit : place = other
  · subst hit
    obtain ⟨bound, held⟩ := List.getElem?_eq_some_iff.1 here
    simp [bound, held, same]
  · simp [hit]

theorem sum_set {counts : List Nat} {place old new : Nat} (here : counts[place]? = some old) :
    (counts.set place new).sum + old = counts.sum + new := by
  induction counts generalizing place with
  | nil => simp at here
  | cons first rest ih =>
      cases place with
      | zero =>
          cases here
          simp only [List.set_cons_zero, List.sum_cons]
          omega
      | succ place =>
          have later : (rest.set place new).sum + old = rest.sum + new :=
            ih (by simpa using here)
          simp only [List.set_cons_succ, List.sum_cons]
          omega

namespace Session

variable [Host]

theorem runNode_session (session : Session) (index : Nat) (node : Node) :
    ∃ slots nodes ledger stats,
      (session.runNode index node).1 = { session with slots, nodes, ledger, stats } := by
  unfold runNode
  dsimp only
  split
  · exact ⟨_, _, _, _, rfl⟩
  · split
    · exact ⟨_, _, _, _, rfl⟩
    · split <;> exact ⟨_, _, _, _, rfl⟩

theorem runNodes_of_done {session : Session} {index : Nat} {node : Node} (rest : List Node)
    (done : (session.runNode index node).2 = .ok ()) :
    session.runNodes index (node :: rest) =
      (session.runNode index node).1.runNodes (index + 1) rest := by
  rw [runNodes]
  cases ran : session.runNode index node with
  | mk after outcome =>
      rw [ran] at done
      cases done
      rfl

theorem runNodes_of_failed {session : Session} {index : Nat} {node : Node} (rest : List Node)
    (failed : (session.runNode index node).2 ≠ .ok ()) :
    session.runNodes index (node :: rest) = session.runNode index node := by
  rw [runNodes]
  cases ran : session.runNode index node with
  | mk after outcome =>
      rw [ran] at failed
      cases outcome with
      | error fault => rfl
      | ok _ => exact absurd rfl failed

theorem runNode_other {session : Session} {index : Nat} {node : Node} {place : TensorId}
    (outside : place ∉ node.outputs) :
    (session.runNode index node).1.slots[place]? = session.slots[place]? := by
  have taken := @takeOutputs_other session.slots _ _ outside
  unfold runNode
  dsimp only
  cases output : takeOutputs session.slots node.outputs with
  | mk slots others =>
      obtain ⟨held, outcome⟩ := others
      rw [output] at taken
      cases outcome with
      | error error => exact (restore_other outside).trans taken
      | ok _ =>
          dsimp only
          split
          · exact (restore_other outside).trans taken
          · split
            · exact (restore_other outside).trans taken
            · exact (restore_other outside).trans taken

theorem runNodes_other {session : Session} {index : Nat} {nodes : List Node} {place : TensorId}
    (outside : ∀ node ∈ nodes, place ∉ node.outputs) :
    (session.runNodes index nodes).1.slots[place]? = session.slots[place]? := by
  induction nodes generalizing session index with
  | nil => rfl
  | cons node rest ih =>
      have own := @runNode_other _ session index _ _ (outside node (by simp))
      by_cases done : (session.runNode index node).2 = .ok ()
      · rw [runNodes_of_done rest done, ih fun later member => outside later (by simp [member])]
        exact own
      · rw [runNodes_of_failed rest done]
        exact own

theorem runNodes_append {session : Session} {index : Nat} {first second : List Node}
    (done : (session.runNodes index (first ++ second)).2 = .ok ()) :
    (session.runNodes index first).2 = .ok () ∧
      session.runNodes index (first ++ second) =
        (session.runNodes index first).1.runNodes (index + first.length) second := by
  induction first generalizing session index with
  | nil => exact ⟨rfl, rfl⟩
  | cons node rest ih =>
      rw [List.cons_append] at done ⊢
      by_cases ran : (session.runNode index node).2 = .ok ()
      · rw [runNodes_of_done _ ran] at done ⊢
        rw [runNodes_of_done _ ran, List.length_cons, Nat.add_comm rest.length, ← Nat.add_assoc]
        exact ih done
      · rw [runNodes_of_failed _ ran] at done
        exact absurd done ran

theorem runNodes_session (session : Session) (index : Nat) (nodes : List Node) :
    ∃ slots nodes' ledger stats, (session.runNodes index nodes).1 =
      { session with slots, nodes := nodes', ledger, stats } := by
  induction nodes generalizing session index with
  | nil => exact ⟨_, _, _, _, rfl⟩
  | cons node rest ih =>
      have own := session.runNode_session index node
      by_cases done : (session.runNode index node).2 = .ok ()
      · rw [runNodes_of_done rest done]
        obtain ⟨_, _, _, _, after⟩ := own
        obtain ⟨slots, nodes, ledger, stats, later⟩ := ih (session.runNode index node).1 (index + 1)
        rw [later, after]
        exact ⟨slots, nodes, ledger, stats, rfl⟩
      · rw [runNodes_of_failed rest done]
        exact own

theorem runNode_setting (session : Session) (index : Nat) (node : Node) :
    (session.runNode index node).1.registry = session.registry ∧
      (session.runNode index node).1.config = session.config := by
  obtain ⟨_, _, _, _, after⟩ := session.runNode_session index node
  rw [after]
  exact ⟨rfl, rfl⟩

theorem runNodes_setting (session : Session) (index : Nat) (nodes : List Node) :
    (session.runNodes index nodes).1.registry = session.registry ∧
      (session.runNodes index nodes).1.config = session.config := by
  obtain ⟨_, _, _, _, after⟩ := session.runNodes_session index nodes
  rw [after]
  exact ⟨rfl, rfl⟩

theorem runNodes_ready (session : Session) (index : Nat) (nodes : List Node) :
    (session.runNodes index nodes).1.ready = session.ready := by
  obtain ⟨_, _, _, _, after⟩ := session.runNodes_session index nodes
  rw [after]

theorem runNode_nodes {session : Session} {index : Nat} {node : Node} {α : Type} {read : Node → α}
    (here : session.nodes[index]? = some node)
    (keeps : ∀ inputs outputs ledger, read { node with
      operator := (node.operator.execute session.registry inputs outputs ledger).operator } =
        read node) :
    (session.runNode index node).1.nodes.map read = session.nodes.map read := by
  unfold runNode
  dsimp only
  split
  · rfl
  · split
    · rfl
    · split <;> exact map_set_of_same here (keeps _ _ _)

theorem runNodes_keeps {session : Session} {index : Nat} {nodes : List Node} {kept : Node → Prop}
    (keeps : ∀ node, kept node → ∀ inputs outputs ledger, kept { node with
      operator := (node.operator.execute session.registry inputs outputs ledger).operator })
    (all : ∀ node ∈ session.nodes, kept node) (due : ∀ node ∈ nodes, kept node) :
    ∀ node ∈ (session.runNodes index nodes).1.nodes, kept node := by
  induction nodes generalizing session index with
  | nil => exact all
  | cons node rest ih =>
      have own : ∀ other ∈ (session.runNode index node).1.nodes, kept other := by
        unfold runNode
        dsimp only
        split
        · exact all
        · split
          · exact all
          · have set : ∀ inputs outputs, ∀ other ∈ session.nodes.set index { node with
                operator := (node.operator.execute session.registry inputs outputs
                  session.ledger).operator }, kept other := by
              intro inputs outputs other member
              rcases List.mem_or_eq_of_mem_set member with earlier | rfl
              · exact all other earlier
              · exact keeps node (due node (by simp)) _ _ _
            split <;> exact set _ _
      by_cases done : (session.runNode index node).2 = .ok ()
      · rw [runNodes_of_done rest done]
        refine ih ?_ own fun later member => due later (by simp [member])
        rw [(session.runNode_setting index node).1]
        exact keeps
      · rw [runNodes_of_failed rest done]
        exact own

variable {session : Session} {added : List Tensor} {setupSlots : List (Option Tensor)}

theorem SetUp.fetched (setUp : session.SetUp setupSlots) {node : Node}
    (member : node ∈ session.nodes) :
    ∃ history inputs₀ outputs₀ inputs outputs,
      (OperatorRun.mk node.operator history).Sound session.registry ∧
      OperatorEvent.lastPrepared? history =
        some (session.config.backendFor node.operator.name, inputs₀, outputs₀) ∧
      fetch setupSlots node.inputs = .ok inputs₀ ∧
      fetch setupSlots node.outputs = .ok outputs₀ ∧
      fetch session.slots node.inputs = .ok inputs ∧
      fetch session.slots node.outputs = .ok outputs ∧
      inputs.map Tensor.frame = inputs₀.map Tensor.frame ∧
      outputs.map Tensor.frame = outputs₀.map Tensor.frame := by
  obtain ⟨history, inputs₀, outputs₀, sound, last, fetchedInputs, fetchedOutputs⟩ :=
    setUp.bound node member
  obtain ⟨inputs, nowInputs, inputFrames⟩ := fetch_frames setUp.frames.symm fetchedInputs
  obtain ⟨outputs, nowOutputs, outputFrames⟩ := fetch_frames setUp.frames.symm fetchedOutputs
  exact ⟨history, inputs₀, outputs₀, inputs, outputs, sound, last, fetchedInputs, fetchedOutputs,
    nowInputs, nowOutputs, inputFrames, outputFrames⟩

theorem Sound.fetched (sound : session.Sound added) {ids ids' : List TensorId}
    {tensors tensors' : List Tensor} (fetched : fetch session.slots ids = .ok tensors)
    (fetched' : fetch session.slots ids' = .ok tensors') :
    (∀ tensor ∈ tensors ++ tensors', tensor.Usable) ∧
      ∀ tensor ∈ tensors ++ tensors', tensor.Sized := by
  have both : ∀ tensor ∈ tensors ++ tensors', tensor.Usable ∧ tensor.Sized := by
    intro tensor member
    rcases List.mem_append.1 member with first | second
    · exact sound.tensors tensor (fetch_member fetched first)
    · exact sound.tensors tensor (fetch_member fetched' second)
  exact ⟨fun tensor member => (both tensor member).1, fun tensor member => (both tensor member).2⟩

theorem Sound.ranNode (sound : session.Sound added) (setUp : session.SetUp setupSlots)
    {index : Nat} {node : Node} (here : session.nodes[index]? = some node) {operator : Operator}
    {slots : List (Option Tensor)} (ledger : ShadowLedger) (stats : SessionStats)
    (frames : slotFrames slots = slotFrames session.slots)
    (bound : Node.BoundOn session.registry session.config setupSlots { node with operator })
    (phase : operator.binding.phase = .executable ∨ operator.binding.phase = .released)
    (counted : stats.operatorsExecuted + node.operator.executions =
      session.stats.operatorsExecuted + operator.executions) :
    let after : Session := { session with
      slots, nodes := session.nodes.set index { node with operator }, ledger, stats }
    after.Sound added ∧ after.SetUp setupSlots := by
  dsimp only
  have member : ∀ {other}, other ∈ session.nodes.set index { node with operator } →
      other ∈ session.nodes ∨ other = { node with operator } :=
    fun listed => List.mem_or_eq_of_mem_set listed
  have now : Session.SetUp { session with
      slots, nodes := session.nodes.set index { node with operator }, ledger, stats }
      setupSlots := by
    refine ⟨?_, setUp.frames.trans frames.symm, ?_, ?_⟩
    · have wires : (session.nodes.set index { node with operator }).map Node.wires =
          session.nodes.map Node.wires := map_set_of_same here rfl
      have defined := @initiallyDefined_frames session { session with
        slots, nodes := session.nodes.set index { node with operator }, ledger, stats } rfl frames
      exact @validateGraph_mono session _ wires rfl (fun id => (defined id).2)
        (fun id listed => .inl ((defined id).1 listed)) setUp.wiring
    · intro other listed
      rcases member listed with kept | rfl
      · exact setUp.phase other kept
      · exact phase
    · intro other listed
      rcases member listed with kept | rfl
      · exact setUp.bound other kept
      · exact bound
  refine ⟨⟨frames.trans sound.slots, sound.fit, ?_, ?_, ?_, fun _ => ⟨setupSlots, now⟩⟩, now⟩
  · intro other listed id used
    rw [length_of_slotFrames frames]
    rcases member listed with kept | rfl
    · exact sound.known other kept id used
    · exact sound.known node (List.mem_of_getElem? here) id used
  · intro other listed
    rcases member listed with kept | rfl
    · exact sound.lives other kept
    · exact bound.lives
  · have place : (session.nodes.map fun node => node.operator.executions)[index]? =
        some node.operator.executions := by simp [here]
    have total : ((session.nodes.map fun node => node.operator.executions).set index
        operator.executions).sum + node.operator.executions =
          session.stats.operatorsExecuted + operator.executions := by
      rw [sound.counted]
      exact sum_set place
    simp only [List.map_set]
    omega

/-- A session in the middle of a run, with the nodes that are still due. -/
structure Running (session : Session) (added : List Tensor) (setupSlots : List (Option Tensor))
    (index : Nat) (due : List Node) : Prop where
  sound : session.Sound added
  setUp : session.SetUp setupSlots
  lawful : session.Lawful
  place : session.nodes.drop index = due
  executable : ∀ node ∈ due, node.operator.binding.phase = .executable

namespace Running

variable {index : Nat} {node : Node} {rest : List Node}

theorem here (running : session.Running added setupSlots index (node :: rest)) :
    session.nodes[index]? = some node := by
  have first := congrArg (fun nodes => nodes[0]?) running.place
  simpa using first

theorem separate (running : session.Running added setupSlots index (node :: rest)) :
    node.Separate :=
  separate_of_validateGraph running.setUp.wiring node (List.mem_of_getElem? running.here)

/-- A node runs on what is in its slots, which has the frames of what it is bound to. Only its
kernel can stop it, and then the session is sound all the same. -/
theorem step (running : session.Running added setupSlots index (node :: rest)) :
    (session.runNode index node).1.Sound added ∧
      (session.runNode index node).1.SetUp setupSlots ∧
      ((session.runNode index node).2 = .ok () →
        (session.runNode index node).1.Running added setupSlots (index + 1) rest) ∧
      ∀ error, (session.runNode index node).2 = .error (.refused error) → error.SparesGraph := by
  have member := List.mem_of_getElem? running.here
  have executable := running.executable node (by simp)
  obtain ⟨history, inputs₀, outputs₀, inputs, outputs, lived, last, boundInputs, boundOutputs,
    fetchedInputs, fetchedOutputs, inputFrames, outputFrames⟩ := running.setUp.fetched member
  obtain ⟨usable, sized⟩ := running.sound.fetched fetchedInputs fetchedOutputs
  have frames := node.operator.execute_frames running.lawful.keeps sized session.ledger
  have lengths := node.operator.length_execute_outputs running.lawful.keeps sized session.ledger
  have poolFrames := slotFrames_restore running.separate.1 fetchedOutputs frames
  have bound : Node.BoundOn session.registry session.config setupSlots
      { node with
        operator := (node.operator.execute session.registry inputs outputs
          session.ledger).operator } :=
    (running.setUp.bound node member).executed inputs outputs session.ledger
  obtain ⟨fault, failed, ran⟩ | ⟨done, fallbacks, ran⟩ :=
    runNode_eq running.separate fetchedInputs fetchedOutputs lengths
  · have unchanged := Operator.execute_operator_of_error failed
    have kept := running.sound.ranNode running.setUp running.here
      (node.operator.execute session.registry inputs outputs session.ledger).ledger session.stats
      poolFrames bound (by rw [unchanged]; exact .inl executable) (by rw [unchanged])
    refine ⟨?_, ?_, ?_, ?_⟩
    · rw [ran]
      exact kept.1
    · rw [ran]
      exact kept.2
    · intro impossible
      rw [ran] at impossible
      cases impossible
    · intro error outcome
      rw [ran] at outcome
      cases fault with
      | aborted => cases outcome
      | refused cause =>
          cases outcome
          have blame : cause.SparesGraph := lived.execute_fault executable
            ⟨_, inputs₀, outputs₀, last, Tensor.signatures_of_frames inputFrames,
              Tensor.signatures_of_frames outputFrames⟩
            usable sized failed
          exact blame.inOperator _ _
  · have executed := Operator.execute_operator_of_done done
    obtain ⟨binding, counted⟩ := node.operator.executed_operator
    have kept := running.sound.ranNode running.setUp running.here
      (node.operator.execute session.registry inputs outputs session.ledger).ledger
      ⟨session.stats.runs, session.stats.operatorsExecuted + 1, fallbacks⟩ poolFrames bound
      (by rw [executed]; exact Operator.executed_phase executable)
      (by rw [executed, counted]; dsimp only; omega)
    refine ⟨?_, ?_, fun _ => ?_, ?_⟩
    · rw [ran]
      exact kept.1
    · rw [ran]
      exact kept.2
    · rw [ran]
      refine ⟨kept.1, kept.2, running.lawful.of_registry rfl, ?_, ?_⟩
      · have later := congrArg (List.drop 1) running.place
        simp only [List.drop_drop, List.drop_one, List.tail_cons] at later
        rw [← later]
        exact List.drop_set_of_lt (by omega)
      · exact fun other due => running.executable other (by simp [due])
    · intro error impossible
      rw [ran] at impossible
      cases impossible

/-- The invariant holds after a run of the first nodes that are due, however far it gets. -/
theorem through {first : List Node}
    (running : session.Running added setupSlots index (first ++ rest)) :
    (session.runNodes index first).1.Sound added ∧
      (session.runNodes index first).1.SetUp setupSlots ∧
      ((session.runNodes index first).2 = .ok () →
        (session.runNodes index first).1.Running added setupSlots (index + first.length) rest) ∧
      ∀ error, (session.runNodes index first).2 = .error (.refused error) →
        error.SparesGraph := by
  induction first generalizing session index with
  | nil =>
      exact ⟨running.sound, running.setUp, fun _ => running, fun error impossible => by
        cases impossible⟩
  | cons node later ih =>
      obtain ⟨sound, setUp, next, blame⟩ := running.step
      by_cases done : (session.runNode index node).2 = .ok ()
      · rw [runNodes_of_done later done, List.length_cons, Nat.add_comm later.length,
          ← Nat.add_assoc]
        exact ih (next done)
      · rw [runNodes_of_failed later done]
        exact ⟨sound, setUp, fun finished => absurd finished done, blame⟩

theorem through_nodes {due : List Node} {α : Type} {read : Node → α}
    (running : session.Running added setupSlots index due)
    (keeps : ∀ node ∈ due, ∀ inputs outputs ledger, read { node with
      operator := (node.operator.execute session.registry inputs outputs ledger).operator } =
        read node) :
    (session.runNodes index due).1.nodes.map read = session.nodes.map read := by
  induction due generalizing session index with
  | nil => rfl
  | cons node rest ih =>
      have own := runNode_nodes running.here (keeps node (by simp))
      by_cases done : (session.runNode index node).2 = .ok ()
      · rw [runNodes_of_done rest done, ← own]
        apply ih (running.step.2.2.1 done)
        rw [(session.runNode_setting index node).1]
        exact fun later member => keeps later (by simp [member])
      · rw [runNodes_of_failed rest done, own]

end Running

end Session

end TensorRuntime
