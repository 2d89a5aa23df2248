import TensorRuntime.Proofs.Session.Steps
import TensorRuntime.Proofs.Takeover

/-!
The invariant of a session: its pool is full with the frames of the tensors that were
added, and while it is ready its wiring is right and every operator is bound to the
tensors in its slots, or released. Every call but a run keeps it in one step.
-/

namespace TensorRuntime

open Attempt

namespace Session

variable [Host]

/-- What readiness means: the wiring is right, and every operator is bound to the tensors that some
setup found in its slots, or released after it. -/
structure SetUp (session : Session) (setupSlots : List (Option Tensor)) : Prop where
  wiring : session.validateGraph = .ok ()
  frames : slotFrames setupSlots = slotFrames session.slots
  phase : ∀ node ∈ session.nodes,
    node.operator.binding.phase = .executable ∨ node.operator.binding.phase = .released
  bound : ∀ node ∈ session.nodes, node.BoundOn session.registry session.config setupSlots

/-- The invariant of a session to which some tensors were added. -/
structure Sound (session : Session) (added : List Tensor) : Prop where
  slots : slotFrames session.slots = added.map fun tensor => some tensor.frame
  fit : ∀ tensor ∈ added, tensor.Usable ∧ tensor.Sized
  known : ∀ node ∈ session.nodes, ∀ id ∈ node.inputs ++ node.outputs, id < session.slots.length
  lives : ∀ node ∈ session.nodes, node.Lives session.registry
  counted : session.stats.operatorsExecuted =
    (session.nodes.map fun node => node.operator.executions).sum
  ready : session.ready = true → ∃ setupSlots, session.SetUp setupSlots

structure Lawful (session : Session) : Prop where
  reads : session.registry.HooksReadContents
  keeps : session.registry.KeepsFrames

omit [Host] in
theorem Lawful.of_registry {session session' : Session} (lawful : session.Lawful)
    (same : session'.registry = session.registry) : session'.Lawful :=
  ⟨same ▸ lawful.reads, same ▸ lawful.keeps⟩

variable {session : Session} {added : List Tensor}

theorem create_sound (registry : Registry) (config : SessionConfig) :
    (create registry config).Sound [] where
  slots := rfl
  fit := by simp
  known := by simp [create]
  lives := by simp [create]
  counted := rfl
  ready impossible := by cases impossible

namespace Sound

theorem held (sound : session.Sound added) {id : TensorId} {slot : Option Tensor}
    (found : session.slots[id]? = some slot) :
    ∃ tensor original, slot = some tensor ∧ added[id]? = some original ∧
      tensor.frame = original.frame := by
  have place := congrArg (fun frames => frames[id]?) sound.slots
  simp only [slotFrames, List.getElem?_map, found, Option.map_some] at place
  obtain ⟨original, present, frame⟩ := Option.map_eq_some_iff.1 place.symm
  obtain ⟨tensor, rfl, same⟩ := Option.map_eq_some_iff.1 frame.symm
  exact ⟨tensor, original, rfl, present, same⟩

theorem tensors (sound : session.Sound added) :
    ∀ tensor, some tensor ∈ session.slots → tensor.Usable ∧ tensor.Sized := by
  intro tensor member
  obtain ⟨id, found⟩ := List.mem_iff_getElem?.1 member
  obtain ⟨_, original, same, present, frame⟩ := sound.held found
  cases same
  obtain ⟨usable, sized⟩ := sound.fit original (List.mem_of_getElem? present)
  exact ⟨usable.of_frame frame, sized.of_frame frame⟩

end Sound

omit [Host] in
theorem known_of_unknown? {ids : List TensorId} (known : session.unknown? ids = none) :
    ∀ id ∈ ids, id < session.slots.length := by
  simpa [unknown?] using known

omit [Host] in
theorem initiallyDefined_addTensor {tensor : Tensor} {id : TensorId}
    (defined : id ∈ session.initiallyDefined) :
    id ∈ (session.addTensor tensor).1.initiallyDefined := by
  rw [mem_initiallyDefined] at defined ⊢
  rcases defined with input | ⟨constant, found, kind⟩
  · exact .inl input
  · refine .inr ⟨constant, ?_, kind⟩
    rw [addTensor, List.getElem?_append_left (List.getElem?_eq_some_iff.1 found).1]
    exact found

omit [Host] in
theorem initiallyDefined_of_addTensor {tensor : Tensor} {id : TensorId}
    (defined : id ∈ (session.addTensor tensor).1.initiallyDefined) :
    id ∈ session.initiallyDefined ∨ session.slots.length ≤ id := by
  rw [mem_initiallyDefined] at defined
  rcases defined with input | ⟨constant, found, kind⟩
  · exact .inl (mem_initiallyDefined.2 (.inl input))
  · by_cases old : id < session.slots.length
    · rw [addTensor, List.getElem?_append_left old] at found
      exact .inl (mem_initiallyDefined.2 (.inr ⟨constant, found, kind⟩))
    · exact .inr (Nat.le_of_not_lt old)

theorem addTensor_sound (sound : session.Sound added) {tensor : Tensor} (valid : tensor.Valid) :
    (session.addTensor tensor).1.Sound (added ++ [tensor]) where
  slots := by
    have before := sound.slots
    simp only [slotFrames, addTensor, List.map_append] at before ⊢
    rw [before]
    rfl
  fit := by
    intro other member
    rcases List.mem_append.1 member with earlier | new
    · exact sound.fit other earlier
    · cases List.mem_singleton.1 new
      exact ⟨valid.usable, valid.sized⟩
  known := by
    intro node member id used
    simp only [addTensor, List.length_append]
    exact Nat.lt_add_right _ (sound.known node member id used)
  lives := sound.lives
  counted := sound.counted
  ready := by
    intro ready
    obtain ⟨setupSlots, setUp⟩ := sound.ready ready
    have lengths := length_of_slotFrames setUp.frames
    refine ⟨setupSlots ++ [some tensor], ?_, ?_, setUp.phase, ?_⟩
    · refine @validateGraph_mono session (session.addTensor tensor).1 rfl rfl
        (fun id => initiallyDefined_addTensor) (fun id defined => ?_) setUp.wiring
      refine (initiallyDefined_of_addTensor defined).imp_right fun new node member written => ?_
      exact Nat.not_lt_of_le new (sound.known node member id (List.mem_append_right _ written))
    · have frames := setUp.frames
      simp only [slotFrames, addTensor, List.map_append] at frames ⊢
      rw [frames]
    · intro node member
      apply (setUp.bound node member).slots_congr
      intro id used
      rw [List.getElem?_append_left]
      rw [lengths]
      exact sound.known node member id used

theorem addOperator_sound (sound : session.Sound added) (name : String) (params : Params)
    (inputs outputs : List TensorId) :
    (session.addOperator name params inputs outputs).1.Sound added := by
  unfold addOperator
  cases unknown : session.unknown? (inputs ++ outputs) with
  | some id => exact sound
  | none =>
      refine ⟨sound.slots, sound.fit, ?_, ?_, ?_, fun impossible => by cases impossible⟩
      · intro node member
        rcases List.mem_append.1 member with earlier | new
        · exact sound.known node earlier
        · cases List.mem_singleton.1 new
          exact known_of_unknown? unknown
      · intro node member
        rcases List.mem_append.1 member with earlier | new
        · exact sound.lives node earlier
        · cases List.mem_singleton.1 new
          exact ⟨[], OperatorRun.start_sound name params _ _⟩
      · simpa [Operator.create] using sound.counted

theorem setInputs_sound (sound : session.Sound added) (ids : List TensorId) :
    (session.setInputs ids).1.Sound added := by
  unfold setInputs
  split
  · exact sound
  · exact ⟨sound.slots, sound.fit, sound.known, sound.lives, sound.counted,
      fun impossible => by cases impossible⟩

theorem setOutputs_sound (sound : session.Sound added) (ids : List TensorId) :
    (session.setOutputs ids).1.Sound added := by
  unfold setOutputs
  split
  · exact sound
  · exact ⟨sound.slots, sound.fit, sound.known, sound.lives, sound.counted,
      fun impossible => by cases impossible⟩

theorem setup_sound (sound : session.Sound added) (lawful : session.Lawful) :
    session.setup.1.Sound added ∧
      (session.setup.2 = .ok () → session.setup.1.SetUp session.slots) := by
  unfold setup
  dsimp only
  cases wiring : validateGraph { session with ready := false } with
  | error error =>
      refine ⟨⟨sound.slots, sound.fit, sound.known, sound.lives, sound.counted, ?_⟩, ?_⟩
      · exact fun impossible => by cases impossible
      · exact fun impossible => by cases impossible
  | ok _ =>
      obtain ⟨blanks, lives, bound⟩ := @prepareNodes_sound _ { session with ready := false }
        lawful.reads (fun tensor member => (sound.tensors tensor member).1) session.nodes 0
        session.ledger sound.lives
      have wires := Node.map_of_blank blanks Node.wires fun _ => rfl
      have setUp : (prepareNodes { session with ready := false } 0 session.ledger
          session.nodes).2.2 = .ok () → SetUp { session with
            nodes := (prepareNodes { session with ready := false } 0 session.ledger
              session.nodes).1
            ledger := (prepareNodes { session with ready := false } 0 session.ledger
              session.nodes).2.1
            ready := (prepareNodes { session with ready := false } 0 session.ledger
              session.nodes).2.2.toBool } session.slots := by
        intro done
        refine ⟨?_, rfl, fun node member => .inl (bound done node member).1,
          fun node member => (bound done node member).2⟩
        exact @validateGraph_mono { session with ready := false } _ wires rfl
          (fun id defined => defined) (fun id defined => .inl defined) wiring
      refine ⟨⟨sound.slots, sound.fit, ?_, lives, ?_, ?_⟩, setUp⟩
      · intro node member id used
        have listed := List.mem_map_of_mem (f := Node.wires) member
        rw [wires] at listed
        obtain ⟨original, earlier, same⟩ := List.mem_map.1 listed
        simp only [Node.wires, Prod.mk.injEq] at same
        rw [← same.1, ← same.2] at used
        exact sound.known original earlier id used
      · rw [Node.map_of_blank blanks (fun node => node.operator.executions) fun _ => rfl]
        exact sound.counted
      · intro ready
        refine ⟨session.slots, setUp ?_⟩
        cases outcome : (prepareNodes { session with ready := false } 0 session.ledger
            session.nodes).2.2 with
        | ok _ => rfl
        | error fault =>
            dsimp only at ready
            rw [outcome] at ready
            cases ready

omit [Host] in
theorem held_of_tensor? {id : TensorId} {tensor : Tensor}
    (found : session.tensor? id = some tensor) : session.slots[id]? = some (some tensor) := by
  unfold tensor? at found
  cases content : session.slots[id]? with
  | none => simp [content] at found
  | some _ => simpa [content] using found

theorem slotFrames_bindInput (sound : session.Sound added) {id : TensorId} {slot tensor : Tensor}
    (sized : tensor.Sized) (found : session.tensor? id = some slot) {replaced : Tensor}
    (done : slot.replaceBuffer tensor = .ok replaced) :
    slotFrames (session.slots.set id (some replaced)) = slotFrames session.slots := by
  have present := held_of_tensor? found
  apply slotFrames_set present
  obtain ⟨_, slotSized⟩ := sound.tensors slot (List.mem_of_getElem? present)
  exact Tensor.frame_of_replaceBuffer done slotSized sized

theorem SetUp.refill {setupSlots slots : List (Option Tensor)} (setUp : session.SetUp setupSlots)
    (frames : slotFrames slots = slotFrames session.slots) :
    SetUp { session with slots } setupSlots := by
  refine ⟨?_, setUp.frames.trans frames.symm, setUp.phase, setUp.bound⟩
  have defined := @initiallyDefined_frames session { session with slots } rfl frames
  exact @validateGraph_mono session _ rfl rfl (fun id => (defined id).2)
    (fun id member => .inl ((defined id).1 member)) setUp.wiring

theorem Sound.refill {slots : List (Option Tensor)} (sound : session.Sound added)
    (frames : slotFrames slots = slotFrames session.slots) :
    Sound { session with slots } added where
  slots := frames.trans sound.slots
  fit := sound.fit
  known := by
    intro node member id used
    dsimp only
    rw [length_of_slotFrames frames]
    exact sound.known node member id used
  lives := sound.lives
  counted := sound.counted
  ready := by
    intro ready
    obtain ⟨setupSlots, setUp⟩ := sound.ready ready
    exact ⟨setupSlots, setUp.refill frames⟩

theorem bindInput_sound (sound : session.Sound added) (id : TensorId) {tensor : Tensor}
    (sized : tensor.Sized) :
    (session.bindInput id tensor).1.Sound added ∧
      ∀ setupSlots, session.SetUp setupSlots →
        (session.bindInput id tensor).1.SetUp setupSlots := by
  unfold bindInput
  split
  · exact ⟨sound, fun _ setUp => setUp⟩
  · cases found : session.tensor? id with
    | none => exact ⟨sound, fun _ setUp => setUp⟩
    | some slot =>
        dsimp only
        cases replaced : slot.replaceBuffer tensor with
        | error error => exact ⟨sound, fun _ setUp => setUp⟩
        | ok replaced' =>
            have frames := slotFrames_bindInput sound sized found replaced
            exact ⟨sound.refill frames, fun _ setUp => setUp.refill frames⟩

theorem deinit_sound (sound : session.Sound added) : session.deinit.Sound added where
  slots := sound.slots
  fit := sound.fit
  known := by
    intro node member
    obtain ⟨original, earlier, rfl⟩ := List.mem_map.1 member
    exact sound.known original earlier
  lives := by
    intro node member
    obtain ⟨original, earlier, rfl⟩ := List.mem_map.1 member
    obtain ⟨history, lived⟩ := sound.lives original earlier
    exact ⟨history, lived.release history⟩
  counted := by
    rw [deinit, List.map_map]
    refine sound.counted.trans (congrArg List.sum (List.map_congr_left ?_))
    intro node _
    dsimp only [Function.comp]
    unfold Operator.release
    split <;> rfl
  ready impossible := by cases impossible

end Session

end TensorRuntime
