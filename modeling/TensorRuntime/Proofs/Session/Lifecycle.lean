import TensorRuntime.Proofs.Operator.Frames
import TensorRuntime.Proofs.Session.Running

/-!
The life of a session over the default registry, under any sequence of calls, each of
which may succeed or fail.
-/

namespace TensorRuntime

open Attempt

inductive SessionCall where
  | addTensor (tensor : Tensor)
  | addOperator (name : String) (params : Params) (inputs outputs : List TensorId)
  | setInputs (ids : List TensorId)
  | setOutputs (ids : List TensorId)
  | setup
  | bindInput (id : TensorId) (tensor : Tensor)
  | run
  | deinit

namespace SessionCall

def Valid : SessionCall → Prop
  | addTensor tensor | bindInput _ tensor => tensor.Valid
  | _ => True

/-- What is added is valid. What is bound may be anything with a buffer of the size it needs. -/
def Fits : SessionCall → Prop
  | addTensor tensor => tensor.Valid
  | bindInput _ tensor => tensor.Sized
  | _ => True

theorem Valid.fits {call : SessionCall} (valid : call.Valid) : call.Fits := by
  cases call with
  | bindInput id tensor => exact Tensor.Valid.sized valid
  | _ => exact valid

def added? : SessionCall → Option Tensor
  | addTensor tensor => some tensor
  | _ => none

end SessionCall

namespace Session

section

variable [Host]

def perform (session : Session) : SessionCall → Session
  | .addTensor tensor => (session.addTensor tensor).1
  | .addOperator name params inputs outputs =>
      (session.addOperator name params inputs outputs).1
  | .setInputs ids => (session.setInputs ids).1
  | .setOutputs ids => (session.setOutputs ids).1
  | .setup => session.setup.1
  | .bindInput id tensor => (session.bindInput id tensor).1
  | .run => session.run.1
  | .deinit => session.deinit

def performAll (session : Session) (calls : List SessionCall) : Session :=
  calls.foldl perform session

variable {session : Session} {added : List Tensor}

omit [Host] in
theorem firstIdle?_eq_none {nodes : List Node} :
    firstIdle? nodes = none ↔ ∀ node ∈ nodes, node.operator.binding.phase = .executable := by
  unfold firstIdle?
  rw [Option.map_eq_none_iff, List.find?_eq_none]
  simp only [Binding.isExecutable, Bool.not_eq_true', Bool.not_eq_false, beq_iff_eq]
  constructor
  · intro none_idle node member
    obtain ⟨place, found⟩ := List.mem_iff_getElem?.1 member
    exact none_idle (node, place) (List.mem_zipIdx_iff_getElem?.2 found)
  · intro executable entry listed
    exact executable entry.1 (List.mem_of_getElem? (List.mem_zipIdx_iff_getElem?.1 listed))

theorem run_of_ready (ready : session.ready = true)
    (executable : ∀ node ∈ session.nodes, node.operator.binding.phase = .executable) :
    ∃ stats, session.run = ({ (session.runNodes 0 session.nodes).1 with stats },
      (session.runNodes 0 session.nodes).2) ∧
      stats.operatorsExecuted = (session.runNodes 0 session.nodes).1.stats.operatorsExecuted := by
  unfold run
  rw [firstIdle?_eq_none.2 executable, ready]
  simp only [Bool.not_true, Bool.false_eq_true, if_false]
  cases ran : session.runNodes 0 session.nodes with
  | mk after outcome =>
      cases outcome with
      | error fault => exact ⟨after.stats, rfl, rfl⟩
      | ok _ => exact ⟨_, rfl, rfl⟩

/-- A run starts on a session that is set up and whose operators are all executable, or it changes
nothing and does not blame the wiring of a ready session. -/
theorem run_cases (session : Session) :
    (session.ready = true ∧ (∀ node ∈ session.nodes, node.operator.binding.phase = .executable) ∧
      ∃ stats, session.run = ({ (session.runNodes 0 session.nodes).1 with stats },
        (session.runNodes 0 session.nodes).2) ∧
        stats.operatorsExecuted = (session.runNodes 0 session.nodes).1.stats.operatorsExecuted) ∨
    (session.run.1 = session ∧ session.run.2 ≠ .ok () ∧
      (session.ready = true → ∀ error, session.run.2 = .error (.refused error) →
        error.SparesGraph)) := by
  cases idle : firstIdle? session.nodes with
  | some entry =>
      unfold run
      rw [idle]
      refine .inr ⟨rfl, fun impossible => (by cases impossible), fun _ error refused => ?_⟩
      cases refused
      simp [Error.SparesGraph, Error.root]
  | none =>
      cases ready : session.ready with
      | false =>
          unfold run
          rw [idle, ready]
          exact .inr ⟨rfl, fun impossible => (by cases impossible),
            fun impossible => (by cases impossible)⟩
      | true =>
          have executable := firstIdle?_eq_none.1 idle
          exact .inl ⟨rfl, executable, run_of_ready ready executable⟩

theorem SetUp.countRun {setupSlots : List (Option Tensor)} (setUp : session.SetUp setupSlots)
    (stats : SessionStats) : SetUp { session with stats } setupSlots :=
  ⟨setUp.wiring, setUp.frames, setUp.phase, setUp.bound⟩

theorem Sound.countRun (sound : session.Sound added) {stats : SessionStats}
    (same : stats.operatorsExecuted = session.stats.operatorsExecuted) :
    Session.Sound { session with stats } added where
  slots := sound.slots
  fit := sound.fit
  known := sound.known
  lives := sound.lives
  counted := same.trans sound.counted
  ready := by
    intro ready
    obtain ⟨setupSlots, setUp⟩ := sound.ready ready
    exact ⟨setupSlots, setUp.countRun stats⟩

theorem running_of_ready {setupSlots : List (Option Tensor)} (sound : session.Sound added)
    (lawful : session.Lawful) (setUp : session.SetUp setupSlots)
    (executable : ∀ node ∈ session.nodes, node.operator.binding.phase = .executable) :
    session.Running added setupSlots 0 session.nodes :=
  ⟨sound, setUp, lawful, rfl, executable⟩

theorem run_sound (sound : session.Sound added) (lawful : session.Lawful) :
    session.run.1.Sound added ∧
      (∀ setupSlots, session.SetUp setupSlots → session.run.1.SetUp setupSlots) ∧
      (session.ready = true → ∀ error, session.run.2 = .error (.refused error) →
        error.SparesGraph) := by
  obtain ⟨ready, executable, stats, ran, same⟩ | ⟨unchanged, _, blame⟩ := session.run_cases
  · have through : ∀ setupSlots, session.SetUp setupSlots → _ := fun setupSlots setUp =>
      @Running.through _ session added setupSlots 0 [] session.nodes (by
        rw [List.append_nil]
        exact running_of_ready sound lawful setUp executable)
    obtain ⟨setupSlots, setUp⟩ := sound.ready ready
    rw [ran]
    refine ⟨(through setupSlots setUp).1.countRun same, fun setupSlots setUp => ?_,
      fun _ => (through setupSlots setUp).2.2.2⟩
    exact (through setupSlots setUp).2.1.countRun stats
  · rw [unchanged]
    exact ⟨sound, fun _ setUp => setUp, blame⟩

theorem setup_session (session : Session) :
    ∃ nodes ready ledger, session.setup.1 = { session with nodes, ready, ledger } := by
  unfold setup
  dsimp only
  split
  · exact ⟨_, _, _, rfl⟩
  · exact ⟨_, _, _, rfl⟩

theorem perform_setting (session : Session) (call : SessionCall) :
    (session.perform call).registry = session.registry ∧
      (session.perform call).config = session.config := by
  cases call with
  | addTensor | deinit => exact ⟨rfl, rfl⟩
  | addOperator =>
      simp only [perform, addOperator]
      split <;> exact ⟨rfl, rfl⟩
  | setInputs =>
      simp only [perform, setInputs]
      split <;> exact ⟨rfl, rfl⟩
  | setOutputs =>
      simp only [perform, setOutputs]
      split <;> exact ⟨rfl, rfl⟩
  | setup =>
      obtain ⟨_, _, _, changed⟩ := session.setup_session
      rw [perform, changed]
      exact ⟨rfl, rfl⟩
  | bindInput =>
      simp only [perform, bindInput]
      repeat' split
      all_goals exact ⟨rfl, rfl⟩
  | run =>
      obtain ⟨_, _, _, ran, _⟩ | ⟨unchanged, _⟩ := session.run_cases
      · rw [perform, ran]
        exact session.runNodes_setting 0 session.nodes
      · rw [perform, unchanged]
        exact ⟨rfl, rfl⟩

theorem perform_sound_of_fits (sound : session.Sound added) (lawful : session.Lawful)
    {call : SessionCall} (fits : call.Fits) :
    (session.perform call).Sound (added ++ call.added?.toList) := by
  have without (sound' : (session.perform call).Sound added) (nothing : call.added? = none) :
      (session.perform call).Sound (added ++ call.added?.toList) := by
    rwa [nothing, Option.toList_none, List.append_nil]
  cases call with
  | addTensor tensor => exact addTensor_sound sound fits
  | addOperator name params inputs outputs =>
      exact without (addOperator_sound sound name params inputs outputs) rfl
  | setInputs ids => exact without (setInputs_sound sound ids) rfl
  | setOutputs ids => exact without (setOutputs_sound sound ids) rfl
  | setup => exact without (setup_sound sound lawful).1 rfl
  | bindInput id tensor => exact without (bindInput_sound sound id fits).1 rfl
  | run => exact without (run_sound sound lawful).1 rfl
  | deinit => exact without (deinit_sound sound) rfl

theorem perform_sound (sound : session.Sound added) (lawful : session.Lawful) {call : SessionCall}
    (valid : call.Valid) : (session.perform call).Sound (added ++ call.added?.toList) :=
  perform_sound_of_fits sound lawful valid.fits

theorem performAll_sound_of_fits (sound : session.Sound added) (lawful : session.Lawful)
    {calls : List SessionCall} (fits : ∀ call ∈ calls, call.Fits) :
    (session.performAll calls).Sound (added ++ calls.filterMap SessionCall.added?) ∧
      (session.performAll calls).registry = session.registry ∧
      (session.performAll calls).config = session.config := by
  induction calls generalizing session added with
  | nil =>
      rw [List.filterMap_nil, List.append_nil]
      exact ⟨sound, rfl, rfl⟩
  | cons call rest ih =>
      obtain ⟨registry, config⟩ := session.perform_setting call
      obtain ⟨sound', registry', config'⟩ :=
        ih (perform_sound_of_fits sound lawful (fits call (by simp))) (lawful.of_registry registry)
          fun later member => fits later (by simp [member])
      refine ⟨?_, registry'.trans registry, config'.trans config⟩
      have order : added ++ (call :: rest).filterMap SessionCall.added? =
          added ++ call.added?.toList ++ rest.filterMap SessionCall.added? := by
        cases new : call.added? <;> simp [new]
      rw [order]
      exact sound'

theorem performAll_sound (sound : session.Sound added) (lawful : session.Lawful)
    {calls : List SessionCall} (valid : ∀ call ∈ calls, call.Valid) :
    (session.performAll calls).Sound (added ++ calls.filterMap SessionCall.added?) ∧
      (session.performAll calls).registry = session.registry ∧
      (session.performAll calls).config = session.config :=
  performAll_sound_of_fits sound lawful fun call member => (valid call member).fits

theorem setup_blanks (sound : session.Sound added) (lawful : session.Lawful) :
    session.setup.1.nodes.map Node.blank = session.nodes.map Node.blank := by
  unfold setup
  dsimp only
  split
  · rfl
  · exact (@prepareNodes_sound _ { session with ready := false } lawful.reads
      (fun tensor member => (sound.tensors tensor member).1) session.nodes 0 session.ledger
      sound.lives).1

theorem perform_lifetimes (sound : session.Sound added) (lawful : session.Lawful)
    (lifetimes : ∀ node ∈ session.nodes, node.operator.lifetime = session.config.lifetime)
    (call : SessionCall) :
    ∀ node ∈ (session.perform call).nodes, node.operator.lifetime = session.config.lifetime := by
  have of_map {nodes : List Node} (same : nodes.map (fun node => node.operator.lifetime) =
      session.nodes.map fun node => node.operator.lifetime) :
      ∀ node ∈ nodes, node.operator.lifetime = session.config.lifetime := by
    intro node member
    have listed := List.mem_map_of_mem (f := fun node : Node => node.operator.lifetime) member
    rw [same] at listed
    obtain ⟨original, inside, own⟩ := List.mem_map.1 listed
    exact own.symm.trans (lifetimes original inside)
  cases call with
  | addTensor => exact lifetimes
  | addOperator =>
      simp only [perform, addOperator]
      split
      · exact lifetimes
      · intro node member
        rcases List.mem_append.1 member with earlier | new
        · exact lifetimes node earlier
        · rw [List.mem_singleton.1 new]
          rfl
  | setInputs =>
      simp only [perform, setInputs]
      split <;> exact lifetimes
  | setOutputs =>
      simp only [perform, setOutputs]
      split <;> exact lifetimes
  | setup => exact of_map (Node.map_of_blank (setup_blanks sound lawful) _ fun _ => rfl)
  | bindInput =>
      simp only [perform, bindInput]
      repeat' split
      all_goals exact lifetimes
  | run =>
      obtain ⟨ready, executable, _, ran, _⟩ | ⟨unchanged, _⟩ := session.run_cases
      · obtain ⟨setupSlots, setUp⟩ := sound.ready ready
        rw [perform, ran]
        apply of_map
        apply (running_of_ready sound lawful setUp executable).through_nodes
        intro node _ inputs outputs ledger
        obtain ⟨binding, executions, changed⟩ :=
          node.operator.execute_operator session.registry inputs outputs ledger
        rw [changed]
      · rw [perform, unchanged]
        exact lifetimes
  | deinit =>
      apply of_map
      rw [perform, deinit, List.map_map]
      apply List.map_congr_left
      intro node _
      dsimp only [Function.comp]
      unfold Operator.release
      split <;> rfl

theorem performAll_lifetimes (sound : session.Sound added) (lawful : session.Lawful)
    (lifetimes : ∀ node ∈ session.nodes, node.operator.lifetime = session.config.lifetime)
    {calls : List SessionCall} (valid : ∀ call ∈ calls, call.Valid) :
    ∀ node ∈ (session.performAll calls).nodes,
      node.operator.lifetime = session.config.lifetime := by
  induction calls generalizing session added with
  | nil => exact lifetimes
  | cons call rest ih =>
      obtain ⟨registry, config⟩ := session.perform_setting call
      rw [← config]
      apply ih (perform_sound sound lawful (valid call (by simp))) (lawful.of_registry registry)
      · rw [config]
        exact perform_lifetimes sound lawful lifetimes call
      · exact fun later member => valid later (by simp [member])

omit [Host] in
theorem create_registry (registry : Registry) (config : SessionConfig) :
    (create registry config).registry = registry := rfl

theorem create_lawful (config : SessionConfig) : (create Registry.default config).Lawful := by
  constructor <;> rw [create_registry]
  · exact Registry.default_hooksReadContents
  · exact Registry.default_keepsFrames

theorem sound_of_calls (config : SessionConfig) {calls : List SessionCall}
    (valid : ∀ call ∈ calls, call.Valid) :
    let session := (create Registry.default config).performAll calls
    session.Sound (calls.filterMap SessionCall.added?) ∧ session.Lawful ∧
      session.registry = Registry.default ∧ session.config = config := by
  obtain ⟨sound, registry, settings⟩ :=
    performAll_sound (create_sound Registry.default config) (create_lawful config) valid
  exact ⟨sound, (create_lawful config).of_registry registry,
    registry.trans (create_registry _ _), settings⟩

/-- Whatever calls are made on a new session with valid tensors, its pool holds the tensors that
were added but for their contents, it is ready only with its wiring right and every operator bound
to what its slots hold now, or released, and it counts what its operators count. A run on it is
never stopped by its wiring or by a shape. -/
theorem invariant_of_calls (config : SessionConfig) {calls : List SessionCall}
    (valid : ∀ call ∈ calls, call.Valid) :
    let session := (create Registry.default config).performAll calls
    slotFrames session.slots =
        (calls.filterMap SessionCall.added?).map (fun tensor => some tensor.frame) ∧
      (session.ready = true → session.validateGraph = .ok () ∧
        ∀ node ∈ session.nodes,
          node.operator.binding.phase = .released ∨
          node.operator.binding.phase = .executable ∧
            ∃ bound inputs outputs, node.operator.binding.bound? = some bound ∧
              fetch session.slots node.inputs = .ok inputs ∧
              fetch session.slots node.outputs = .ok outputs ∧
              bound.inputs = inputs.map Tensor.signature ∧
              bound.outputs = outputs.map Tensor.signature ∧
              bound.check node.operator.name inputs outputs = .ok ()) ∧
      session.stats.operatorsExecuted =
        (session.nodes.map fun node => node.operator.executions).sum ∧
      (session.ready = true → ∀ error, session.run.2 = .error (.refused error) →
        (∀ reason, error.root ≠ .invalidGraph reason) ∧
          ∀ context expected got, error.root ≠ .shapeMismatch context expected got) := by
  dsimp only
  obtain ⟨sound, lawful, _⟩ := sound_of_calls config valid
  refine ⟨sound.slots, fun ready => ?_, sound.counted, (run_sound sound lawful).2.2⟩
  obtain ⟨setupSlots, setUp⟩ := sound.ready ready
  refine ⟨setUp.wiring, fun node member => ?_⟩
  rcases setUp.phase node member with executable | released
  · obtain ⟨history, inputs₀, outputs₀, inputs, outputs, lived, last, _, _, fetchedInputs,
      fetchedOutputs, inputFrames, outputFrames⟩ := setUp.fetched member
    obtain ⟨_, _, kernel, _, _, _, _, _, last', _, _, _, bound, _⟩ := lived.executable executable
    rw [last] at last'
    cases last'
    obtain ⟨usable, sized⟩ := sound.fetched fetchedInputs fetchedOutputs
    have inputSignatures := Tensor.signatures_of_frames inputFrames
    have outputSignatures := Tensor.signatures_of_frames outputFrames
    refine .inr ⟨executable, _, inputs, outputs, bound, fetchedInputs, fetchedOutputs,
      inputSignatures.symm, outputSignatures.symm, ?_⟩
    exact BoundTensors.check_of_signatures _ inputSignatures.symm outputSignatures.symm
      usable sized
  · exact .inl released

end

def layerGraph : List SessionCall :=
  let single (name : String) (kind : BufferKind) (bits : UInt32) : Tensor :=
    ⟨name, ⟨[1, 1]⟩, .nc, none, kind, .f32 #[⟨bits⟩]⟩
  [.addTensor (single "x" .external 0x3F800000), .addTensor (single "w" .external 0x3F800000),
    .addTensor (single "y" .scratch 0), .addOperator "fc" (.fullyConnected .none) [0, 1] [2],
    .setInputs [0, 1], .setOutputs [2]]

def layerFeeds : List SessionCall :=
  [.run, .bindInput 1 ⟨"w", ⟨[1, 1]⟩, .nc, none, .external, .f32 #[⟨0x40000000⟩]⟩]

def layerCalls : List SessionCall := layerGraph ++ .setup :: layerFeeds ++ [.run]

theorem layerCalls_valid : ∀ call ∈ layerCalls, call.Valid := by
  simp only [layerCalls, layerGraph, layerFeeds, List.cons_append, List.nil_append,
    List.forall_mem_cons, SessionCall.Valid]
  refine ⟨by rfl, by rfl, by rfl, trivial, trivial, trivial, trivial, trivial, by rfl, trivial, ?_⟩
  exact fun _ impossible => by cases impossible

theorem invariant_of_layerCalls :
    (∀ call ∈ layerCalls, call.Valid) ∧
      ((create Registry.default .standard).performAll layerCalls).validateGraph = .ok () ∧
      ((create Registry.default .standard).performAll layerCalls).stats.operatorsExecuted = 2 := by
  obtain ⟨_, ready, _⟩ := invariant_of_calls .standard layerCalls_valid
  have isReady : ((create Registry.default .standard).performAll layerCalls).ready = true := by
    decide +kernel
  exact ⟨layerCalls_valid, (ready isReady).1, by decide +kernel⟩

end Session

end TensorRuntime
