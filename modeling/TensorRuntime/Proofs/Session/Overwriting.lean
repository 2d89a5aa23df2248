import TensorRuntime.Proofs.Operator.Overwriting
import TensorRuntime.Proofs.Session.Lifecycle

/-!
Two runs over pools that agree on what is defined before them. Operators read what is
defined and overwrite what they write, so after each of them the pools agree on its
outputs too, and what a run leaves does not show what the outputs held before it.
-/

namespace TensorRuntime

open Attempt

section

variable [Host]

namespace Operator

theorem execute_counted (operator : Operator) (registry : Registry) (inputs outputs : List Tensor)
    (ledger : ShadowLedger) (executions : Nat) :
    ({ operator with executions }.execute registry inputs outputs ledger).outcome =
        (operator.execute registry inputs outputs ledger).outcome ∧
      ({ operator with executions }.execute registry inputs outputs ledger).outputs =
        (operator.execute registry inputs outputs ledger).outputs := by
  unfold execute
  dsimp only [checkBound, runKernel]
  split
  · split
    · exact ⟨rfl, rfl⟩
    · split
      · exact ⟨rfl, rfl⟩
      · split <;> exact ⟨rfl, rfl⟩
  · exact ⟨rfl, rfl⟩

theorem execute_lasting {operator : Operator} (lasting : operator.lifetime = .untilRelease)
    (registry : Registry) (inputs outputs : List Tensor) (ledger : ShadowLedger) :
    ∃ executions, (operator.execute registry inputs outputs ledger).operator =
      { operator with executions } := by
  by_cases done : (operator.execute registry inputs outputs ledger).outcome = .ok ()
  · rw [execute_operator_of_done done, executed_untilRelease lasting]
    exact ⟨_, rfl⟩
  · rw [execute_failed done]
    exact ⟨operator.executions, rfl⟩

end Operator

namespace Node

def uncounted (node : Node) : Node :=
  { node with operator := { node.operator with executions := 0 } }

omit [Host] in
theorem eq_of_uncounted {first second : Node} (same : second.uncounted = first.uncounted) :
    second = { first with
      operator := { first.operator with executions := second.operator.executions } } := by
  obtain ⟨⟨_, _, _, _, _, _⟩, _, _⟩ := first
  obtain ⟨⟨_, _, _, _, _, _⟩, _, _⟩ := second
  simp only [uncounted, Node.mk.injEq, Operator.mk.injEq] at same ⊢
  simp [same]

end Node

namespace Session

/-- Two pools of tensors with the same frames that hold the same tensors in some slots. -/
structure AgreeOn (defined : List TensorId) (slots slots' : List (Option Tensor)) : Prop where
  frames : slotFrames slots' = slotFrames slots
  held : ∀ id ∈ defined, slots'[id]? = slots[id]?

section Pools

variable {slots slots' : List (Option Tensor)} {ids defined : List TensorId}
  {tensors tensors' : List Tensor}

omit [Host] in
theorem agree_of_fetch (fetched : fetch slots ids = .ok tensors)
    (fetched' : fetch slots' ids = .ok tensors) : ∀ id ∈ ids, slots'[id]? = slots[id]? := by
  induction ids generalizing tensors with
  | nil => simp
  | cons id rest ih =>
      obtain ⟨tensor, others, held, remaining, rfl⟩ := (fetch_cons id rest).1 fetched
      obtain ⟨tensor', others', held', remaining', same⟩ := (fetch_cons id rest).1 fetched'
      cases same
      intro other member
      rcases List.mem_cons.1 member with rfl | later
      · rw [held, held']
      · exact ih remaining remaining' other later

omit [Host] in
theorem AgreeOn.restored (agree : AgreeOn defined slots slots') (distinct : ids.Nodup)
    (fetched : fetch slots ids = .ok tensors)
    (frames : tensors'.map Tensor.frame = tensors.map Tensor.frame) :
    AgreeOn (ids.reverse ++ defined) (restore slots ids tensors')
      (restore slots' ids tensors') := by
  obtain ⟨replaced, fetched', same⟩ := fetch_frames agree.frames fetched
  have lengths : ids.length = tensors'.length := by
    rw [← fetch_length fetched]
    simpa using (congrArg List.length frames).symm
  refine ⟨?_, fun id member => ?_⟩
  · rw [slotFrames_restore distinct fetched frames,
      slotFrames_restore distinct fetched' (frames.trans same.symm), agree.frames]
  · by_cases own : id ∈ ids
    · exact agree_of_fetch (fetch_restore distinct (fetch_known fetched) lengths)
        (fetch_restore distinct (fetch_known fetched') lengths) id own
    · rw [restore_other own, restore_other own]
      apply agree.held
      simpa [own] using member

end Pools

namespace Running

variable {first second : Session} {added : List Tensor} {setupSlots : List (Option Tensor)}
  {index : Nat} {node node' : Node} {rest due due' : List Node} {defined result : List TensorId}

theorem step_agree (running : first.Running added setupSlots index (node :: rest))
    (overwrites : ∀ entry ∈ first.registry.entries, entry.kernel.Overwrites)
    (sameRegistry : second.registry = first.registry)
    (agree : AgreeOn defined first.slots second.slots) (reads : ∀ id ∈ node.inputs, id ∈ defined)
    (same : node'.uncounted = node.uncounted) :
    (second.runNode index node').2 = (first.runNode index node).2 ∧
      ((first.runNode index node).2 = .ok () →
        AgreeOn (node.outputs.reverse ++ defined) (first.runNode index node).1.slots
          (second.runNode index node').1.slots) := by
  have member := List.mem_of_getElem? running.here
  have executable := running.executable node (by simp)
  obtain ⟨history, inputs₀, outputs₀, inputs, outputs, lived, last, _, _, fetchedInputs,
    fetchedOutputs, inputFrames, outputFrames⟩ := running.setUp.fetched member
  obtain ⟨usable, sized⟩ := running.sound.fetched fetchedInputs fetchedOutputs
  obtain ⟨outputs', fetchedOutputs', refilled⟩ := fetch_frames agree.frames fetchedOutputs
  have fetchedInputs' : fetch second.slots node.inputs = .ok inputs := by
    rw [← fetchedInputs]
    exact fetch_congr fun id read => agree.held id (reads id read)
  let counting : Operator := { node.operator with executions := node'.operator.executions }
  obtain ⟨outcome', written'⟩ :
      (counting.execute second.registry inputs outputs' second.ledger).outcome =
          (node.operator.execute first.registry inputs outputs first.ledger).outcome ∧
        ((node.operator.execute first.registry inputs outputs first.ledger).outcome = .ok () →
          (counting.execute second.registry inputs outputs' second.ledger).outputs =
            (node.operator.execute first.registry inputs outputs first.ledger).outputs) := by
    have preparedSized : ∀ tensor ∈ inputs₀, tensor.Sized := by
      intro tensor listed
      obtain ⟨original, inside, frame⟩ := Tensor.exists_of_frames inputFrames.symm listed
      exact (sized original (by simp [inside])).of_frame frame
    obtain ⟨outcome, written⟩ := lived.execute_refill running.lawful.keeps overwrites executable
      last preparedSized (Tensor.signatures_of_frames inputFrames)
      (Tensor.signatures_of_frames outputFrames) refilled usable sized first.ledger second.ledger
    obtain ⟨sameOutcome, sameWritten⟩ := node.operator.execute_counted first.registry inputs
      outputs' second.ledger node'.operator.executions
    rw [sameRegistry]
    exact ⟨sameOutcome.trans outcome, fun done => sameWritten.trans (written done)⟩
  have frames := node.operator.execute_frames running.lawful.keeps sized first.ledger
  have lengths := node.operator.length_execute_outputs running.lawful.keeps sized first.ledger
  have lengths' := counting.length_execute_outputs (sameRegistry ▸ running.lawful.keeps)
    (forall_refilled Tensor.Sized.of_frame refilled sized) second.ledger
  rw [Node.eq_of_uncounted same]
  have ran' := @runNode_eq _ second index { node with operator := counting } running.separate inputs
    outputs' fetchedInputs' fetchedOutputs' lengths'
  dsimp only at ran'
  rw [outcome'] at ran'
  obtain ⟨fault, failed, ran⟩ | ⟨done, _, ran⟩ :=
    runNode_eq running.separate fetchedInputs fetchedOutputs lengths
  · obtain ⟨fault', failed', ran'⟩ | ⟨done', _⟩ := ran'
    · rw [failed] at failed'
      cases failed'
      rw [ran, ran']
      exact ⟨rfl, fun impossible => by cases impossible⟩
    · rw [failed] at done'
      cases done'
  · obtain ⟨fault', failed', _⟩ | ⟨_, _, ran'⟩ := ran'
    · rw [done] at failed'
      cases failed'
    · rw [ran, ran']
      refine ⟨rfl, fun _ => ?_⟩
      dsimp only
      rw [written' done]
      exact agree.restored running.separate.1 fetchedOutputs frames

/-- Nodes that are checked against what two pools agree on end the same way on both, and when they
succeed the pools agree on everything that the check defines. -/
theorem through_agree (running : first.Running added setupSlots index due)
    (overwrites : ∀ entry ∈ first.registry.entries, entry.kernel.Overwrites)
    (sameRegistry : second.registry = first.registry)
    (agree : AgreeOn defined first.slots second.slots) {place : Nat}
    (checked : checkNodes defined place due = .ok result)
    (same : due'.map Node.uncounted = due.map Node.uncounted) :
    (second.runNodes index due').2 = (first.runNodes index due).2 ∧
      ((first.runNodes index due).2 = .ok () →
        AgreeOn result (first.runNodes index due).1.slots
          (second.runNodes index due').1.slots) := by
  induction due generalizing first second index due' defined place with
  | nil =>
      cases due' with
      | nil =>
          cases checked
          exact ⟨rfl, fun _ => agree⟩
      | cons => cases same
  | cons node rest ih =>
      cases due' with
      | nil => cases same
      | cons node' rest' =>
          simp only [List.map_cons, List.cons.injEq] at same
          obtain ⟨middle, here, later⟩ := checkNodes_cons.1 checked
          obtain ⟨reads, written⟩ := checkNode_eq_ok.1 here
          obtain ⟨_, _, rfl⟩ := defineOutputs_eq_ok.1 written
          obtain ⟨outcome, agreed⟩ :=
            running.step_agree overwrites sameRegistry agree reads same.1
          by_cases done : (first.runNode index node).2 = .ok ()
          · have done' : (second.runNode index node').2 = .ok () := outcome.trans done
            rw [runNodes_of_done rest done, runNodes_of_done rest' done']
            have registry := (first.runNode_setting index node).1
            have registry' := (second.runNode_setting index node').1
            exact ih (running.step.2.2.1 done) (registry ▸ overwrites)
              (registry'.trans (sameRegistry.trans registry.symm)) (agreed done) later same.2
          · have failed' : (second.runNode index node').2 ≠ .ok () := outcome ▸ done
            rw [runNodes_of_failed rest done, runNodes_of_failed rest' failed']
            exact ⟨outcome, fun finished => absurd finished done⟩

end Running

variable {session : Session} {added : List Tensor} {setupSlots : List (Option Tensor)}

theorem run_other {id : TensorId} (outside : ∀ node ∈ session.nodes, id ∉ node.outputs) :
    session.run.1.slots[id]? = session.slots[id]? := by
  obtain ⟨_, _, _, ran, _⟩ | ⟨unchanged, _⟩ := session.run_cases
  · rw [ran]
    exact runNodes_other outside
  · rw [unchanged]

theorem run_keeps_defined (wiring : session.validateGraph = .ok ()) {id : TensorId}
    (defined : id ∈ session.initiallyDefined) :
    session.run.1.slots[id]? = session.slots[id]? := by
  obtain ⟨_, checked, _⟩ := validateGraph_eq_ok.1 wiring
  exact run_other fun node member written =>
    (outputs_apart_of_checkNodes checked).1 node member id written defined

/-- A run ends the same way on pools that agree on what is defined at the start, and when it
succeeds it leaves the same in every output. -/
theorem run_agree (running : session.Running added setupSlots 0 session.nodes)
    (overwrites : ∀ entry ∈ session.registry.entries, entry.kernel.Overwrites)
    (ready : session.ready = true) {second : Session}
    (sameRegistry : second.registry = session.registry) (ready' : second.ready = true)
    (same : second.nodes.map Node.uncounted = session.nodes.map Node.uncounted)
    (agree : AgreeOn session.initiallyDefined session.slots second.slots) :
    second.run.2 = session.run.2 ∧ (session.run.2 = .ok () → ∀ node ∈ session.nodes,
      ∀ id ∈ node.outputs, second.run.1.slots[id]? = session.run.1.slots[id]?) := by
  obtain ⟨_, checked, _⟩ := validateGraph_eq_ok.1 running.setUp.wiring
  obtain ⟨outcome, agreed⟩ := running.through_agree overwrites sameRegistry agree checked same
  have executable' : ∀ node ∈ second.nodes, node.operator.binding.phase = .executable := by
    intro node member
    have listed := List.mem_map_of_mem (f := Node.uncounted) member
    rw [same] at listed
    obtain ⟨original, inside, own⟩ := List.mem_map.1 listed
    rw [Node.eq_of_uncounted own.symm]
    exact running.executable original inside
  obtain ⟨_, ran, _⟩ := run_of_ready ready running.executable
  obtain ⟨_, ran', _⟩ := run_of_ready ready' executable'
  rw [ran, ran']
  refine ⟨outcome, fun done node member id written => ?_⟩
  exact (agreed done).held id ((mem_of_checkNodes checked).2 node member id written)

theorem run_uncounted (running : session.Running added setupSlots 0 session.nodes)
    (ready : session.ready = true)
    (lasting : ∀ node ∈ session.nodes, node.operator.lifetime = .untilRelease) :
    session.run.1.nodes.map Node.uncounted = session.nodes.map Node.uncounted := by
  obtain ⟨_, ran, _⟩ := run_of_ready ready running.executable
  rw [ran]
  apply running.through_nodes
  intro node member inputs outputs ledger
  obtain ⟨executions, changed⟩ :=
    Operator.execute_lasting (lasting node member) session.registry inputs outputs ledger
  rw [changed]
  rfl

theorem run_again (running : session.Running added setupSlots 0 session.nodes)
    (overwrites : ∀ entry ∈ session.registry.entries, entry.kernel.Overwrites)
    (ready : session.ready = true)
    (lasting : ∀ node ∈ session.nodes, node.operator.lifetime = .untilRelease)
    (done : session.run.2 = .ok ()) :
    session.run.1.run.2 = .ok () ∧ session.run.1.run.1.slots = session.run.1.slots := by
  have same := run_uncounted running ready lasting
  obtain ⟨sound, _, _⟩ := run_sound running.sound running.lawful
  have agree : AgreeOn session.initiallyDefined session.slots session.run.1.slots :=
    ⟨sound.slots.trans running.sound.slots.symm,
      fun id defined => run_keeps_defined running.setUp.wiring defined⟩
  obtain ⟨registry, ready'⟩ : session.run.1.registry = session.registry ∧
      session.run.1.ready = true := by
    obtain ⟨_, ran, _⟩ := run_of_ready ready running.executable
    rw [ran]
    exact ⟨(session.runNodes_setting 0 session.nodes).1,
      (session.runNodes_ready 0 session.nodes).trans ready⟩
  obtain ⟨outcome, agreed⟩ := run_agree running overwrites ready registry ready' same agree
  refine ⟨outcome.trans done, List.ext_getElem? fun id => ?_⟩
  by_cases written : ∃ node ∈ session.nodes, id ∈ node.outputs
  · obtain ⟨node, member, own⟩ := written
    exact agreed done node member id own
  · apply run_other
    intro node member own
    have listed := List.mem_map_of_mem (f := Node.uncounted) member
    rw [same] at listed
    obtain ⟨original, inside, shape⟩ := List.mem_map.1 listed
    have outputs : original.uncounted.outputs = node.uncounted.outputs :=
      congrArg Node.outputs shape
    exact written ⟨original, inside, outputs ▸ own⟩

/-- A session over the default registry that is set up, with all operators executable, runs the same
way on any two pools of its tensors that agree on graph inputs and constants: it succeeds on both
or on neither, and then every output of an operator holds the same in both, and the graph inputs
and constants hold what they held. Where operators keep their state, a second run leaves the pool
as the first one left it. -/
theorem run_ignores_old_contents (config : SessionConfig) {calls : List SessionCall}
    (valid : ∀ call ∈ calls, call.Valid) :
    let session := (create Registry.default config).performAll calls
    session.ready = true →
    (∀ node ∈ session.nodes, node.operator.binding.phase = .executable) →
    (∀ pool pool', slotFrames pool = slotFrames session.slots →
      slotFrames pool' = slotFrames session.slots →
      (∀ id ∈ session.initiallyDefined, pool'[id]? = pool[id]?) →
      let first := { session with slots := pool }.run
      let second := { session with slots := pool' }.run
      second.2 = first.2 ∧
        (first.2 = .ok () → ∀ node ∈ session.nodes, ∀ id ∈ node.outputs,
          second.1.slots[id]? = first.1.slots[id]?) ∧
        ∀ id ∈ session.initiallyDefined,
          first.1.slots[id]? = pool[id]? ∧ second.1.slots[id]? = pool'[id]?) ∧
    (config.lifetime = .untilRelease → session.run.2 = .ok () →
      session.run.1.run.2 = .ok () ∧ session.run.1.run.1.slots = session.run.1.slots) := by
  intro session ready executable
  obtain ⟨sound, lawful, registry, _⟩ := sound_of_calls config valid
  have overwrites : ∀ entry ∈ session.registry.entries, entry.kernel.Overwrites := by
    rw [registry]
    exact Registry.default_overwrites
  obtain ⟨setupSlots, setUp⟩ := sound.ready ready
  refine ⟨fun pool pool' frames frames' agree => ?_, fun lasting done => ?_⟩
  · have defined {slots : List (Option Tensor)}
        (same : slotFrames slots = slotFrames session.slots) :=
      @initiallyDefined_frames session { session with slots } rfl same
    have running := running_of_ready (sound.refill frames) (lawful.of_registry rfl)
      (setUp.refill frames) executable
    obtain ⟨outcome, agreed⟩ := @run_agree _ { session with slots := pool } _ _ running overwrites
      ready { session with slots := pool' } rfl ready rfl
      ⟨frames'.trans frames.symm, fun id member => agree id ((defined frames id).1 member)⟩
    refine ⟨outcome, agreed, fun id member => ⟨?_, ?_⟩⟩
    · exact run_keeps_defined (setUp.refill frames).wiring ((defined frames id).2 member)
    · exact run_keeps_defined (setUp.refill frames').wiring ((defined frames' id).2 member)
  · have lifetimes := performAll_lifetimes (create_sound Registry.default config)
      (create_lawful config) (fun node impossible => by cases impossible) valid
    exact run_again (running_of_ready sound lawful setUp executable) overwrites ready
      (fun node member => (lifetimes node member).trans lasting) done

end Session

end

namespace Session

def layerPool (old : UInt32) : List (Option Tensor) :=
  let single (name : String) (kind : BufferKind) (bits : UInt32) : Tensor :=
    ⟨name, ⟨[1, 1]⟩, .nc, none, kind, .f32 #[⟨bits⟩]⟩
  [some (single "x" .external 0x3F800000), some (single "w" .external 0x3F800000),
    some (single "y" .scratch old)]

def readyLayer : Session :=
  (create Registry.default .standard).performAll (layerGraph ++ [.setup])

theorem readyLayer_valid : ∀ call ∈ layerGraph ++ [.setup], call.Valid := by
  intro call member
  apply layerCalls_valid
  rcases List.mem_append.1 member with graph | setup
  · simp [layerCalls, graph]
  · simp [layerCalls, List.mem_singleton.1 setup]

/-- What the output held before, even no number at all, does not show. -/
theorem readyLayer_ignores_old_output :
    { readyLayer with slots := layerPool 0x7FC00000 }.run.2 = .ok () ∧
      { readyLayer with slots := layerPool 0x7FC00000 }.run.1.slots[2]? =
        { readyLayer with slots := layerPool 0x40A00000 }.run.1.slots[2]? ∧
      readyLayer.run.1.run.1.slots = readyLayer.run.1.slots := by
  have ready : readyLayer.ready = true := by
    decide +kernel
  have executable : ∀ node ∈ readyLayer.nodes, node.operator.binding.phase = .executable := by
    decide +kernel
  have defined : readyLayer.initiallyDefined = [0, 1] := by
    decide +kernel
  have done : { readyLayer with slots := layerPool 0x40A00000 }.run.2 = .ok () ∧
      readyLayer.run.2 = .ok () :=
    ⟨eq_ok_of_toBool (by decide +kernel), eq_ok_of_toBool (by decide +kernel)⟩
  have reads : ∃ node ∈ readyLayer.nodes, 2 ∈ node.outputs := by
    decide +kernel
  obtain ⟨two, again⟩ := run_ignores_old_contents .standard readyLayer_valid ready executable
  obtain ⟨outcome, agreed, _⟩ := two (layerPool 0x40A00000) (layerPool 0x7FC00000) rfl rfl (by
    intro id member
    change id ∈ readyLayer.initiallyDefined at member
    rw [defined] at member
    rcases List.mem_pair.1 member with rfl | rfl <;> rfl)
  obtain ⟨node, member, written⟩ := reads
  exact ⟨outcome.trans done.1, agreed done.1 node member 2 written, (again rfl done.2).2⟩

end Session

end TensorRuntime
