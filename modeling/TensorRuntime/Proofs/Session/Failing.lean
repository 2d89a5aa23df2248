import TensorRuntime.Proofs.Session.Lifecycle

/-!
A run that fails. Whatever stops it, the pool is as full after it as it was before; the
operators before the one that failed ran once each, and the others did not run.
-/

namespace TensorRuntime

open Attempt

def Node.fallsBack (node : Node) : Bool :=
  node.operator.binding.resolution?.any fun resolution => resolution.path == .quantFallback

section

variable [Host]

theorem Operator.executions_of_done {operator : Operator} {registry : Registry}
    {inputs outputs : List Tensor} {ledger : ShadowLedger}
    (done : (operator.execute registry inputs outputs ledger).outcome = .ok ()) :
    (operator.execute registry inputs outputs ledger).operator.executions =
      operator.executions + 1 := by
  rw [execute_operator_of_done done]
  unfold executed
  dsimp only
  split
  · rfl
  · unfold release
    split <;> rfl

namespace Session

variable {session : Session} {index : Nat} {node : Node}

theorem runNode_cases (session : Session) (index : Nat) (node : Node) :
    (∃ cause, session.runNode index node =
      (session, Attempt.refuse (.inOperator index node.operator.name cause))) ∨
    ∃ inputs outputs, node.outputs.Nodup ∧ fetch session.slots node.outputs = .ok outputs ∧
      let result := node.operator.execute session.registry inputs outputs session.ledger
      let after : Session := { session with
        slots := restore (clear session.slots node.outputs) node.outputs result.outputs
        nodes := session.nodes.set index { node with operator := result.operator }
        ledger := result.ledger }
      (∃ fault, result.outcome = .error fault ∧
        session.runNode index node = (after, .error (inOperator index node.operator.name fault))) ∨
      (result.outcome = .ok () ∧ session.runNode index node =
        ({ after with stats := ⟨session.stats.runs, session.stats.operatorsExecuted + 1,
          session.stats.fallbackExecutions + if node.fallsBack then 1 else 0⟩ }, .ok ())) := by
  have unchanged := restore_taken session.slots node.outputs
  obtain ⟨distinct, fetched, cleared, whole⟩ := takeOutputs_taken session.slots node.outputs
  unfold runNode
  dsimp only
  cases took : takeOutputs session.slots node.outputs with
  | mk slots others =>
      obtain ⟨taken, outcome⟩ := others
      rw [took] at unchanged distinct fetched cleared whole
      dsimp only at unchanged distinct fetched cleared whole ⊢
      cases outcome with
      | error cause =>
          refine .inl ⟨cause, ?_⟩
          dsimp only
          rw [unchanged]
      | ok _ =>
          dsimp only
          rw [whole rfl, List.take_length] at distinct fetched cleared
          cases given : fetch slots node.inputs with
          | error _ =>
              refine .inl ⟨.invalidGraph "an input tensor is not available", ?_⟩
              dsimp only
              rw [unchanged]
          | ok inputs =>
              refine .inr ⟨inputs, taken, distinct, fetched, ?_⟩
              dsimp only
              rw [← cleared]
              cases outcome : (node.operator.execute session.registry inputs taken
                session.ledger).outcome with
              | error fault => exact .inl ⟨fault, rfl, rfl⟩
              | ok _ => exact .inr ⟨rfl, rfl⟩

section WritesOnlyData

variable (keeps : session.registry.WritesOnlyData)

include keeps

theorem slotReads_of_execute {inputs outputs : List Tensor} (distinct : node.outputs.Nodup)
    (fetched : fetch session.slots node.outputs = .ok outputs) :
    slotReads Tensor.withoutData (restore (clear session.slots node.outputs) node.outputs
      (node.operator.execute session.registry inputs outputs session.ledger).outputs) =
        slotReads Tensor.withoutData session.slots := by
  have same := node.operator.execute_withoutData keeps inputs outputs session.ledger
  have lengths : node.outputs.length = (node.operator.execute session.registry inputs outputs
      session.ledger).outputs.length := by
    rw [← fetch_length fetched]
    simpa using (congrArg List.length same).symm
  have refilled : restore (clear session.slots node.outputs) node.outputs
      (node.operator.execute session.registry inputs outputs session.ledger).outputs =
      restore session.slots node.outputs
        (node.operator.execute session.registry inputs outputs session.ledger).outputs :=
    restore_congr lengths (length_clear _ _) fun _ outside => clear_other outside
  rw [refilled]
  exact slotReads_restore distinct fetched same

theorem runNode_slotReads (index : Nat) (node : Node) :
    slotReads Tensor.withoutData (session.runNode index node).1.slots =
      slotReads Tensor.withoutData session.slots := by
  obtain ⟨_, ran⟩ | ⟨inputs, outputs, distinct, fetched, ⟨_, _, ran⟩ | ⟨_, ran⟩⟩ :=
    session.runNode_cases index node
  · rw [ran]
  · rw [ran]
    exact slotReads_of_execute keeps distinct fetched
  · rw [ran]
    exact slotReads_of_execute keeps distinct fetched

theorem runNodes_slotReads (index : Nat) (nodes : List Node) :
    slotReads Tensor.withoutData (session.runNodes index nodes).1.slots =
      slotReads Tensor.withoutData session.slots := by
  induction nodes generalizing session index with
  | nil => rfl
  | cons node rest ih =>
      have own := runNode_slotReads keeps index node
      by_cases done : (session.runNode index node).2 = .ok ()
      · have registry := (session.runNode_setting index node).1
        rw [runNodes_of_done rest done, ih (registry ▸ keeps), own]
      · rw [runNodes_of_failed rest done, own]

theorem run_slotReads :
    slotReads Tensor.withoutData session.run.1.slots =
      slotReads Tensor.withoutData session.slots := by
  obtain ⟨_, _, _, ran, _⟩ | ⟨unchanged, _⟩ := session.run_cases
  · rw [ran]
    exact runNodes_slotReads keeps 0 session.nodes
  · rw [unchanged]

end WritesOnlyData

def Filled (session : Session) : Prop := ∀ slot ∈ session.slots, slot.isSome = true

omit [Host] in
theorem Filled.of_slotReads {α : Type} {read : Tensor → α} {before after : Session}
    (filled : before.Filled) (same : slotReads read after.slots = slotReads read before.slots) :
    after.Filled := by
  intro slot member
  have listed : slot.map read ∈ slotReads read before.slots :=
    same ▸ List.mem_map_of_mem member
  obtain ⟨slot', member', own⟩ := List.mem_map.1 listed
  have full := filled slot' member'
  rwa [← Option.isSome_map (f := read), own, Option.isSome_map] at full

theorem perform_filled (keeps : session.registry.WritesOnlyData) (filled : session.Filled)
    (call : SessionCall) : (session.perform call).Filled := by
  cases call with
  | addTensor tensor =>
      intro slot member
      rcases List.mem_append.1 member with held | new
      · exact filled slot held
      · rw [List.mem_singleton.1 new]
        rfl
  | addOperator =>
      simp only [perform, addOperator]
      split <;> exact filled
  | setInputs =>
      simp only [perform, setInputs]
      split <;> exact filled
  | setOutputs =>
      simp only [perform, setOutputs]
      split <;> exact filled
  | setup =>
      obtain ⟨_, _, _, changed⟩ := session.setup_session
      rw [perform, changed]
      exact filled
  | bindInput id tensor =>
      simp only [perform, bindInput]
      repeat' split
      · exact filled
      · exact filled
      · exact filled
      · intro slot member
        rcases List.mem_or_eq_of_mem_set member with held | rfl
        · exact filled slot held
        · rfl
  | run => exact filled.of_slotReads (run_slotReads keeps)
  | deinit => exact filled

theorem performAll_filled (keeps : session.registry.WritesOnlyData) (filled : session.Filled)
    (calls : List SessionCall) :
    (session.performAll calls).Filled ∧ (session.performAll calls).registry = session.registry := by
  induction calls generalizing session with
  | nil => exact ⟨filled, rfl⟩
  | cons call rest ih =>
      have registry := (session.perform_setting call).1
      obtain ⟨full, kept⟩ := ih (registry ▸ keeps) (perform_filled keeps filled call)
      exact ⟨full, kept.trans registry⟩

omit [Host] in
theorem take_through {nodes : List Node} {count : Nat} (here : nodes[count]? = some node) :
    nodes.take (count + 1) = nodes.take count ++ [node] := by
  rw [List.take_add_one, here]
  rfl

/-- What a run changed after `count` operators ran, when the outputs of the first `touched` may have
been written. -/
structure Ran (before after : Session) (count touched : Nat) : Prop where
  executed : ∀ place < count,
    (after.nodes[place]?.map fun node => node.operator.executions) =
      before.nodes[place]?.map fun node => node.operator.executions + 1
  untouched : ∀ place, count ≤ place → after.nodes[place]? = before.nodes[place]?
  stats : after.stats = ⟨before.stats.runs, before.stats.operatorsExecuted + count,
    before.stats.fallbackExecutions + (before.nodes.take count).countP Node.fallsBack⟩
  others : ∀ id, (∀ node ∈ before.nodes.take touched, id ∉ node.outputs) →
    after.slots[id]? = before.slots[id]?

omit [Host] in
theorem Ran.refl (session : Session) : session.Ran session 0 0 :=
  ⟨fun _ impossible => absurd impossible (Nat.not_lt_zero _), fun _ _ => rfl, rfl,
    fun _ _ => rfl⟩

theorem Ran.step {before after : Session} {count : Nat} (ran : before.Ran after count count)
    (here : before.nodes[count]? = some node) (done : (after.runNode count node).2 = .ok ()) :
    before.Ran (after.runNode count node).1 (count + 1) (count + 1) := by
  have bound : count < after.nodes.length := by
    have present := ran.untouched count (Nat.le_refl count)
    rw [here] at present
    exact (List.getElem?_eq_some_iff.1 present).1
  obtain ⟨_, refused⟩ | ⟨inputs, outputs, _, _, ⟨_, _, failed⟩ | ⟨executed, changed⟩⟩ :=
    after.runNode_cases count node
  · rw [refused] at done
    cases done
  · rw [failed] at done
    cases done
  · have elsewhere := fun id => @runNode_other _ after count node id
    rw [changed] at elsewhere ⊢
    have first := take_through here
    refine ⟨fun place earlier => ?_, fun place later => ?_, ?_, fun id outside => ?_⟩
    · by_cases last : place = count
      · subst last
        simp [here, bound, Operator.executions_of_done executed]
      · rw [← ran.executed place (by omega), List.getElem?_set_ne (Ne.symm last)]
    · rw [← ran.untouched place (by omega), List.getElem?_set_ne (by omega)]
    · rw [ran.stats, first, List.countP_append, List.countP_singleton]
      simp only [SessionStats.mk.injEq, true_and]
      omega
    · rw [first] at outside
      rw [elsewhere id (outside node (by simp))]
      exact ran.others id fun other member => outside other (List.mem_append_left _ member)

theorem Ran.stop {before after : Session} {count : Nat} {error : Error}
    (ran : before.Ran after count count) (here : before.nodes[count]? = some node)
    (failed : (after.runNode count node).2 = .error (.refused error)) :
    (∃ cause, error = .inOperator count node.operator.name cause) ∧
      before.Ran (after.runNode count node).1 count (count + 1) := by
  have present := ran.untouched count (Nat.le_refl count)
  rw [here] at present
  have first := take_through here
  have elsewhere : ∀ id, (∀ other ∈ before.nodes.take (count + 1), id ∉ other.outputs) →
      (after.runNode count node).1.slots[id]? = before.slots[id]? := by
    intro id outside
    rw [first] at outside
    rw [runNode_other (outside node (by simp))]
    exact ran.others id fun other member => outside other (List.mem_append_left _ member)
  have kept (nodes : (after.runNode count node).1.nodes = after.nodes)
      (stats : (after.runNode count node).1.stats = after.stats) :
      before.Ran (after.runNode count node).1 count (count + 1) := by
    refine ⟨?_, ?_, stats.trans ran.stats, elsewhere⟩
    · rw [nodes]
      exact ran.executed
    · rw [nodes]
      exact ran.untouched
  obtain ⟨cause, refused⟩ | ⟨inputs, outputs, _, _, ⟨fault, stopped, changed⟩ | ⟨_, changed⟩⟩ :=
    after.runNode_cases count node
  · rw [refused] at failed kept
    cases failed
    rw [refused]
    exact ⟨⟨cause, rfl⟩, kept rfl rfl⟩
  · have unchanged := Operator.execute_operator_of_error stopped
    rw [changed] at failed kept
    rw [changed]
    refine ⟨?_, kept ?_ rfl⟩
    · cases fault with
      | refused cause =>
          cases failed
          exact ⟨cause, rfl⟩
      | aborted => cases failed
    · rw [unchanged]
      obtain ⟨bound, content⟩ := List.getElem?_eq_some_iff.1 present
      dsimp only
      rw [← content]
      exact List.set_getElem_self bound
  · rw [changed] at failed
    cases failed

/-- A run that fails is a run of the nodes before some node, and then of that node, which fails. -/
theorem runNodes_stops {nodes : List Node} {fault : Fault}
    (failed : (session.runNodes index nodes).2 = .error fault) :
    ∃ count node, nodes[count]? = some node ∧
      (session.runNodes index (nodes.take count)).2 = .ok () ∧
      session.runNodes index nodes =
        (session.runNodes index (nodes.take count)).1.runNode (index + count) node := by
  induction nodes generalizing session index with
  | nil => cases failed
  | cons node rest ih =>
      by_cases done : (session.runNode index node).2 = .ok ()
      · rw [runNodes_of_done rest done] at failed ⊢
        obtain ⟨count, stopping, here, ran, same⟩ := ih failed
        refine ⟨count + 1, stopping, here, ?_, ?_⟩
        · rw [List.take_succ_cons, runNodes_of_done _ done]
          exact ran
        · rw [List.take_succ_cons, runNodes_of_done _ done, same, Nat.add_assoc, Nat.add_comm 1]
      · rw [runNodes_of_failed rest done]
        exact ⟨0, node, rfl, rfl, rfl⟩

theorem runNodes_take {count : Nat} (bound : count ≤ session.nodes.length)
    (done : (session.runNodes 0 (session.nodes.take count)).2 = .ok ()) :
    session.Ran (session.runNodes 0 (session.nodes.take count)).1 count count := by
  induction count with
  | zero => exact Ran.refl session
  | succ count ih =>
      have here : session.nodes[count]? = some session.nodes[count] :=
        List.getElem?_eq_getElem bound
      rw [take_through here] at done ⊢
      obtain ⟨before, same⟩ := runNodes_append done
      have size : 0 + (session.nodes.take count).length = count := by
        rw [List.length_take]
        omega
      rw [same, size] at done ⊢
      have last : ((session.runNodes 0 (session.nodes.take count)).1.runNode count
          session.nodes[count]).2 = .ok () := by
        apply Classical.byContradiction
        intro failed
        rw [runNodes_of_failed [] failed] at done
        exact failed done
      rw [runNodes_of_done [] last]
      exact (ih (by omega) before).step here last

/-- Whatever calls made the session, a run that is refused changed nothing at all, if an operator
was not executable or the session was not ready. Otherwise it was stopped by the first operator that
failed, and says so: those before it ran once each, it and those after it are as they were, the pool
is as full as it was, and tensors that none of them writes hold what they held. -/
theorem run_refused (config : SessionConfig) {registry : Registry}
    (keeps : registry.WritesOnlyData) (calls : List SessionCall) :
    let session := (create registry config).performAll calls
    ∀ error, session.run.2 = .error (.refused error) →
      ((∃ node ∈ session.nodes, node.operator.binding.phase ≠ .executable) ∨
          session.ready = false → session.run.1 = session) ∧
      ((∀ node ∈ session.nodes, node.operator.binding.phase = .executable) →
        session.ready = true →
        ∃ count node cause, session.nodes[count]? = some node ∧
          error = .inOperator count node.operator.name cause ∧
          (session.runNodes 0 (session.nodes.take count)).2 = .ok () ∧
          ((session.runNodes 0 (session.nodes.take count)).1.runNode count node).2 =
            .error (.refused error) ∧
          session.Ran session.run.1 count (count + 1) ∧
          (∀ slot ∈ session.run.1.slots, slot.isSome = true) ∧
          slotReads Tensor.withoutData session.run.1.slots =
            slotReads Tensor.withoutData session.slots) := by
  intro session error refused
  have start : (create registry config).Filled := fun _ impossible => by cases impossible
  obtain ⟨filled, sameRegistry⟩ := performAll_filled keeps start calls
  have keepsHere : session.registry.WritesOnlyData := sameRegistry ▸ keeps
  refine ⟨fun stuck => ?_, fun executable ready => ?_⟩
  · obtain ⟨ready, executable, _⟩ | ⟨unchanged, _⟩ := session.run_cases
    · rcases stuck with ⟨node, member, idle⟩ | notReady
      · exact absurd (executable node member) idle
      · rw [ready] at notReady
        cases notReady
    · exact unchanged
  · have described := run_slotReads keepsHere
    have full : session.run.1.Filled := filled.of_slotReads described
    have failing : session.run = session.runNodes 0 session.nodes := by
      unfold run at refused ⊢
      rw [firstIdle?_eq_none.2 executable, ready] at refused ⊢
      simp only [Bool.not_true, Bool.false_eq_true, if_false] at refused ⊢
      cases ran : session.runNodes 0 session.nodes with
      | mk after outcome =>
          rw [ran] at refused
          cases outcome with
          | error _ => rfl
          | ok _ => cases refused
    rw [failing] at refused described full ⊢
    obtain ⟨count, node, here, before, same⟩ := runNodes_stops refused
    rw [Nat.zero_add] at same
    rw [same] at refused described full ⊢
    have bound : count ≤ session.nodes.length :=
      Nat.le_of_lt (List.getElem?_eq_some_iff.1 here).1
    obtain ⟨⟨cause, wrapped⟩, stopped⟩ := (runNodes_take bound before).stop here refused
    exact ⟨count, node, cause, here, wrapped, before, refused, stopped, full, described⟩

end Session

end

namespace Session

def lostKernel : Kernel :=
  .ofBody "lost" [.any] "lost" none fun _ => Attempt.refuse (.kernelFailure "lost" "device lost")

def lossyRegistry : Registry :=
  ⟨[⟨⟨.relu, .f32, .reference⟩, activationKernel⟩, ⟨⟨.tanh, .f32, .reference⟩, lostKernel⟩]⟩

theorem lossyRegistry_writesOnlyData : lossyRegistry.WritesOnlyData := by
  intro entry member
  simp only [lossyRegistry, List.mem_cons, List.not_mem_nil, or_false] at member
  rcases member with rfl | rfl
  · exact (Kernel.keepsFrames_ofBody fun _ _ done => activationBody_fits done).2
  · exact fun _ => rfl

def lossyCalls : List SessionCall :=
  let single (name : String) : Tensor :=
    ⟨name, ⟨[1]⟩, .any, none, .external, .f32 #[⟨0x3F800000⟩]⟩
  [.addTensor (single "x"), .addTensor (single "y"), .addTensor (single "z"),
    .addOperator "relu" (.activation .relu) [0] [1],
    .addOperator "tanh" (.activation .tanh) [1] [2], .setInputs [0], .setOutputs [2], .setup]

theorem run_refused_after_relu :
    let session := (create lossyRegistry .standard).performAll lossyCalls
    let error := Error.inOperator 1 "tanh" (.kernelFailure "lost" "device lost")
    session.run.2 = .error (.refused error) ∧ session.ready = true ∧
      ∃ count node cause, session.nodes[count]? = some node ∧
        error = .inOperator count node.operator.name cause ∧
        session.Ran session.run.1 count (count + 1) ∧
        ∀ slot ∈ session.run.1.slots, slot.isSome = true := by
  intro session error
  have refused : session.run.2 = .error (.refused error) := by rfl
  have ready : session.ready = true := by decide +kernel
  have executable : ∀ node ∈ session.nodes, node.operator.binding.phase = .executable := by
    decide +kernel
  obtain ⟨count, node, cause, here, wrapped, _, _, ran, filled, _⟩ :=
    (run_refused .standard lossyRegistry_writesOnlyData lossyCalls error refused).2 executable ready
  exact ⟨refused, ready, count, node, cause, here, wrapped, ran, filled⟩

end Session

end TensorRuntime
