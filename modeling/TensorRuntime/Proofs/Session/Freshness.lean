import TensorRuntime.Proofs.Operator.Fresh
import TensorRuntime.Proofs.Session.Lifecycle

/-!
What a run leaves in the outputs of its operators, against what new operators would
leave there. Operators are prepared when the session is set up, so what counts is
what their operands held then.
-/

namespace TensorRuntime

open Attempt

section

variable [Host]

namespace Node

/-- What a node left in the last of three pools is what a new operator leaves there that is prepared
on the inputs in the first and run on the tensors in the second. -/
def LikeNew (registry : Registry) (config : SessionConfig) (node : Node)
    (prepared before after : List (Option Tensor)) : Prop :=
  ∃ preparedInputs inputs outputs,
    Session.fetch prepared node.inputs = .ok preparedInputs ∧
    Session.fetch before node.inputs = .ok inputs ∧
    Session.fetch before node.outputs = .ok outputs ∧
    (node.operator.freshRun registry (config.backendFor node.operator.name) preparedInputs inputs
      outputs).outcome = .ok () ∧
    Session.fetch after node.outputs = .ok (node.operator.freshRun registry
      (config.backendFor node.operator.name) preparedInputs inputs outputs).outputs

theorem LikeNew.congr_after {registry : Registry} {config : SessionConfig} {node : Node}
    {prepared before after after' : List (Option Tensor)}
    (likeNew : node.LikeNew registry config prepared before after)
    (same : Session.fetch after' node.outputs = Session.fetch after node.outputs) :
    node.LikeNew registry config prepared before after' := by
  obtain ⟨preparedInputs, inputs, outputs, fetchedPrepared, fetchedInputs, fetchedOutputs, outcome,
    wrote⟩ := likeNew
  exact ⟨preparedInputs, inputs, outputs, fetchedPrepared, fetchedInputs, fetchedOutputs, outcome,
    same.trans wrote⟩

def Hookless (registry : Registry) (node : Node) : Prop :=
  ∃ resolution kernel, node.operator.binding.resolution? = some resolution ∧
    registry.kernel? resolution.kernel = some kernel ∧ kernel.hasPrecompute = false

/-- Two pools hold the same contents for a node in all inputs but the first. -/
def OperandsKept (node : Node) (earlier later : List (Option Tensor)) : Prop :=
  ∃ inputs inputs', Session.fetch earlier node.inputs = .ok inputs ∧
    Session.fetch later node.inputs = .ok inputs' ∧ SameContents inputs.tail inputs'.tail

end Node

/-- Calls that leave a session set up: new contents for its inputs, and runs. -/
def SessionCall.Feeds : SessionCall → Prop
  | bindInput .. | run => True
  | _ => False

namespace Session

variable {session : Session} {added : List Tensor} {setupSlots : List (Option Tensor)}

theorem performAll_setUp (sound : session.Sound added) (lawful : session.Lawful)
    (setUp : session.SetUp setupSlots) {feeds : List SessionCall}
    (valid : ∀ call ∈ feeds, call.Valid) (feeding : ∀ call ∈ feeds, call.Feeds) :
    (session.performAll feeds).SetUp setupSlots := by
  induction feeds generalizing session added with
  | nil => exact setUp
  | cons call rest ih =>
      have here := valid call (by simp)
      have feed := feeding call (by simp)
      have setUp' : (session.perform call).SetUp setupSlots := by
        cases call with
        | bindInput id tensor => exact (bindInput_sound sound id here.fits).2 setupSlots setUp
        | run => exact (run_sound sound lawful).2.1 setupSlots setUp
        | addTensor | addOperator | setInputs | setOutputs | setup | deinit => cases feed
      exact ih (perform_sound sound lawful here)
        (lawful.of_registry (session.perform_setting call).1) setUp'
        (fun later member => valid later (by simp [member]))
        fun later member => feeding later (by simp [member])

namespace Running

variable {index : Nat} {node : Node} {rest : List Node}

theorem likeNew (running : session.Running added setupSlots index (node :: rest))
    (ignores : ∀ entry ∈ session.registry.entries, entry.kernel.HookReadsOperands)
    (done : (session.runNode index node).2 = .ok ()) :
    node.LikeNew session.registry session.config setupSlots session.slots
        (session.runNode index node).1.slots ∧
      (node.Hookless session.registry ∨ node.OperandsKept setupSlots session.slots →
        node.LikeNew session.registry session.config session.slots session.slots
          (session.runNode index node).1.slots) := by
  obtain ⟨history, inputs₀, outputs₀, inputs, outputs, lived, last, boundInputs, boundOutputs,
    fetchedInputs, fetchedOutputs, inputFrames, outputFrames⟩ :=
    running.setUp.fetched (List.mem_of_getElem? running.here)
  obtain ⟨usable, sized⟩ := running.sound.fetched fetchedInputs fetchedOutputs
  have lengths := node.operator.length_execute_outputs running.lawful.keeps sized session.ledger
  obtain ⟨fault, _, ran⟩ | ⟨executed, _, ran⟩ :=
    runNode_eq running.separate fetchedInputs fetchedOutputs lengths
  · rw [ran] at done
    cases done
  · have wrote : fetch (session.runNode index node).1.slots node.outputs =
        .ok (node.operator.execute session.registry inputs outputs session.ledger).outputs := by
      rw [ran]
      exact fetch_restore running.separate.1 (fetch_known fetchedOutputs)
        (by rw [lengths, fetch_length fetchedOutputs])
    obtain ⟨outcome, same, again⟩ := lived.execute_fresh running.lawful.reads ignores last
      inputFrames outputFrames usable sized executed
    refine ⟨⟨inputs₀, inputs, outputs, boundInputs, fetchedInputs, fetchedOutputs, outcome, ?_⟩, ?_⟩
    · rw [wrote]
      exact congrArg Except.ok same.symm
    · intro unchanged
      obtain ⟨outcome', same'⟩ := again (by
        refine unchanged.imp_right ?_
        rintro ⟨earlier, later, fetchedEarlier, fetchedLater, kept⟩
        rw [boundInputs] at fetchedEarlier
        rw [fetchedInputs] at fetchedLater
        cases fetchedEarlier
        cases fetchedLater
        exact kept)
      refine ⟨inputs, inputs, outputs, fetchedInputs, fetchedInputs, fetchedOutputs, outcome', ?_⟩
      rw [wrote]
      exact congrArg Except.ok same'.symm

theorem kept (running : session.Running added setupSlots index (node :: rest)) :
    fetch ((session.runNode index node).1.runNodes (index + 1) rest).1.slots node.outputs =
      fetch (session.runNode index node).1.slots node.outputs := by
  apply fetch_congr
  intro place written
  apply runNodes_other
  intro later member
  have apart : (session.nodes.drop index).Pairwise fun earlier later =>
      ∀ id ∈ earlier.outputs, id ∉ later.outputs :=
    (outputs_apart_of_validateGraph running.setUp.wiring).drop
  rw [running.place] at apart
  exact (List.pairwise_cons.1 apart).1 later member place written

end Running

theorem run_likeNew (sound : session.Sound added) (lawful : session.Lawful)
    (setUp : session.SetUp setupSlots)
    (ignores : ∀ entry ∈ session.registry.entries, entry.kernel.HookReadsOperands)
    (done : session.run.2 = .ok ()) {index : Nat} {node : Node}
    (here : session.nodes[index]? = some node) :
    let before := (session.runNodes 0 (session.nodes.take index)).1
    node.LikeNew session.registry session.config setupSlots before.slots session.run.1.slots ∧
      (node.Hookless session.registry ∨ node.OperandsKept setupSlots before.slots →
        node.LikeNew session.registry session.config before.slots before.slots
          session.run.1.slots) := by
  intro before
  obtain ⟨_, executable, _, ran, _⟩ | ⟨_, failed, _⟩ := session.run_cases
  · obtain ⟨bound, found⟩ := List.getElem?_eq_some_iff.1 here
    have nodes : session.nodes =
        session.nodes.take index ++ node :: session.nodes.drop (index + 1) := by
      rw [← found, ← List.drop_eq_getElem_cons bound, List.take_append_drop]
    rw [ran] at done ⊢
    have allDone : (session.runNodes 0 (session.nodes.take index ++
        node :: session.nodes.drop (index + 1))).2 = .ok () := by
      rw [← nodes]
      exact done
    obtain ⟨firstDone, split⟩ := runNodes_append allDone
    have running : session.Running added setupSlots 0
        (session.nodes.take index ++ node :: session.nodes.drop (index + 1)) :=
      nodes ▸ running_of_ready sound lawful setUp executable
    have due := running.through.2.2.1 firstDone
    have after : session.runNodes 0 session.nodes = before.runNodes
        (0 + (session.nodes.take index).length) (node :: session.nodes.drop (index + 1)) := by
      rw [← split, ← nodes]
    obtain ⟨registry, config⟩ := session.runNodes_setting 0 (session.nodes.take index)
    by_cases nodeDone : (before.runNode (0 + (session.nodes.take index).length) node).2 = .ok ()
    · have fetched := due.kept
      obtain ⟨atSetup, onTheSpot⟩ := due.likeNew (by rw [registry]; exact ignores) nodeDone
      rw [registry, config] at atSetup onTheSpot
      have final : fetch (session.runNodes 0 session.nodes).1.slots node.outputs =
          fetch (before.runNode (0 + (session.nodes.take index).length) node).1.slots
            node.outputs := by
        rw [after, runNodes_of_done _ nodeDone]
        exact fetched
      exact ⟨atSetup.congr_after final, fun unchanged => (onTheSpot unchanged).congr_after final⟩
    · rw [after, runNodes_of_failed _ nodeDone] at done
      exact absurd done nodeDone
  · exact absurd done failed

/-- In a session over the default registry that was set up and then only fed and run, a run that
succeeds leaves in the outputs of every operator what a new operator leaves there that is prepared
on what the inputs held at the setup, and run on what they hold when the operator's turn comes.
Where the kernel derives no state, or its operands hold what they held at the setup, that is what
a new operator prepared on the spot would leave. -/
theorem run_serves_state_of_setup (config : SessionConfig) {calls feeds : List SessionCall}
    (valid : ∀ call ∈ calls ++ feeds, call.Valid) (feeding : ∀ call ∈ feeds, call.Feeds)
    (ready : ((create Registry.default config).performAll calls).setup.2 = .ok ())
    (done : (((create Registry.default config).performAll calls).setup.1.performAll
      feeds).run.2 = .ok ()) :
    let atSetup := (create Registry.default config).performAll calls
    let fed := atSetup.setup.1.performAll feeds
    ∀ index node, fed.nodes[index]? = some node →
      let before := (fed.runNodes 0 (fed.nodes.take index)).1
      node.LikeNew Registry.default config atSetup.slots before.slots fed.run.1.slots ∧
        (node.Hookless Registry.default ∨ node.OperandsKept atSetup.slots before.slots →
          node.LikeNew Registry.default config before.slots before.slots fed.run.1.slots) := by
  intro atSetup fed index node here
  obtain ⟨sound, lawful, registry, settings⟩ := sound_of_calls config
    fun call member => valid call (List.mem_append_left feeds member)
  obtain ⟨sound', setUp'⟩ := setup_sound sound lawful
  obtain ⟨_, _, _, changed⟩ := atSetup.setup_session
  have lawful' : atSetup.setup.1.Lawful := lawful.of_registry (by rw [changed])
  have validFeeds : ∀ call ∈ feeds, call.Valid :=
    fun call member => valid call (List.mem_append_right calls member)
  obtain ⟨soundFed, registryFed, settingsFed⟩ := performAll_sound sound' lawful' validFeeds
  have setUpFed := performAll_setUp sound' lawful' (setUp' ready) validFeeds feeding
  have registryOfFed : fed.registry = Registry.default := by
    rw [registryFed, changed]
    exact registry
  have configOfFed : fed.config = config := by
    rw [settingsFed, changed]
    exact settings
  have likeNew := run_likeNew soundFed (lawful'.of_registry registryFed) setUpFed
    (by rw [registryOfFed]; exact Registry.default_hooksReadOperands) done here
  rw [registryOfFed, configOfFed] at likeNew
  exact likeNew

end Session

end

namespace Session

theorem layerFeeds_feed : ∀ call ∈ layerFeeds, call.Feeds := by
  simp [layerFeeds, SessionCall.Feeds]

theorem layerFeeds_valid : ∀ call ∈ layerGraph ++ layerFeeds, call.Valid := by
  intro call member
  apply layerCalls_valid
  rcases List.mem_append.1 member with graph | feed
  · simp [layerCalls, graph]
  · simp [layerCalls, feed]

def rebound : Session :=
  ((create Registry.default .standard).performAll layerGraph).setup.1.performAll layerFeeds

theorem rebound_ready :
    ((create Registry.default .standard).performAll layerGraph).setup.2 = .ok () ∧
      rebound.run.2 = .ok () :=
  ⟨eq_ok_of_toBool (by decide +kernel), eq_ok_of_toBool (by decide +kernel)⟩

theorem rebound_nodes : rebound.nodes ≠ [] := by
  decide +kernel

theorem rebound_serves_state_of_setup :
    rebound.run.2 = .ok () ∧ ∀ node, rebound.nodes[0]? = some node →
      node.LikeNew Registry.default .standard
        ((create Registry.default .standard).performAll layerGraph).slots
        (rebound.runNodes 0 (rebound.nodes.take 0)).1.slots rebound.run.1.slots :=
  ⟨rebound_ready.2, fun node here => (run_serves_state_of_setup .standard layerFeeds_valid
    layerFeeds_feed rebound_ready.1 rebound_ready.2 0 node here).1⟩

/-- The run after the rebinding still multiplies by the old weight. -/
theorem rebound_weight_is_stale :
    ¬ ∀ (config : SessionConfig) (calls feeds : List SessionCall),
      (∀ call ∈ calls ++ feeds, call.Valid) → (∀ call ∈ feeds, call.Feeds) →
      ((create Registry.default config).performAll calls).setup.2 = .ok () →
      (((create Registry.default config).performAll calls).setup.1.performAll
        feeds).run.2 = .ok () →
      let fed := ((create Registry.default config).performAll calls).setup.1.performAll feeds
      ∀ index node, fed.nodes[index]? = some node →
        let before := (fed.runNodes 0 (fed.nodes.take index)).1
        node.LikeNew Registry.default config before.slots before.slots fed.run.1.slots := by
  intro always
  have node : rebound.nodes[0]? = some (rebound.nodes.head rebound_nodes) := by
    rw [← List.head?_eq_getElem?, List.head?_eq_some_head rebound_nodes]
  obtain ⟨inputs, inputs', outputs, fetchedInputs, fetchedInputs', fetchedOutputs, _, wrote⟩ :=
    always .standard layerGraph layerFeeds layerFeeds_valid layerFeeds_feed rebound_ready.1
      rebound_ready.2 0 _ node
  cases fetchedInputs.symm.trans fetchedInputs'
  have stored : ∀ {fetched : Except Error (List Tensor)} {tensors : List Tensor},
      fetched = .ok tensors → tensors = fetched.toOption.getD [] := by
    rintro _ _ rfl
    rfl
  have bytes := congrArg (fun fetched : Except Error (List Tensor) =>
    fetched.toOption.map (List.map fun tensor => tensor.buffer.bytes)) wrote
  rw [stored fetchedInputs, stored fetchedOutputs] at bytes
  revert bytes
  decide +kernel

end Session

end TensorRuntime
