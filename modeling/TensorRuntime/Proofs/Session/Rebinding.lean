import TensorRuntime.Proofs.Kernel.HookFrames
import TensorRuntime.Proofs.Operator.Conflicts
import TensorRuntime.Proofs.Operator.Fresh
import TensorRuntime.Proofs.Session.Freshness

/-!
Setting a session up again. The kernel that serves a node depends on what its slots can
never lose, so that a binding never stands in the way of a later setup.
-/

namespace TensorRuntime

open Attempt

namespace Operator

variable {operator : Operator} {registry : Registry} {backend : Backend}
  {inputs outputs : List Tensor} {requested : Resolution}

/-- What the operator is bound to reaches the kernel that a call asks for in the way it asks for. -/
def BoundFor (operator : Operator) (requested : Resolution) : Prop :=
  ∀ resolution, operator.binding.resolution? = some resolution →
    resolution.sameBinding requested = true

theorem BoundFor.calm (bound : operator.BoundFor requested) :
    operator.binding.conflict? requested = none := by
  unfold Binding.conflict?
  split
  · cases present : operator.binding.resolution? with
    | none => rfl
    | some resolution => simp [bound resolution present]
  · rfl

theorem resolution?_of_release {resolution : Resolution}
    (present : operator.release.binding.resolution? = some resolution) :
    operator.binding.resolution? = some resolution := by
  unfold release at present
  split at present
  · cases present
  · exact present

theorem resolution?_of_execute [Host] {ledger : ShadowLedger} {resolution : Resolution}
    (present : (operator.execute registry inputs outputs ledger).operator.binding.resolution? =
      some resolution) : operator.binding.resolution? = some resolution := by
  by_cases done : (operator.execute registry inputs outputs ledger).outcome = .ok ()
  · rw [execute_operator_of_done done] at present
    rcases operator.executed_cases with lasting | once
    · rwa [lasting] at present
    · rw [once] at present
      exact @resolution?_of_release { operator with executions := operator.executions + 1 } _
        present
  · rwa [execute_failed done] at present

theorem BoundFor.prepareFor (bound : operator.BoundFor requested) :
    { operator with binding := operator.binding.prepareFor requested }.BoundFor requested := by
  unfold Binding.prepareFor
  intro resolution present
  dsimp only at present
  split at present
  · exact bound resolution present
  · exact bound resolution present
  · cases present
    exact Resolution.sameBinding_iff.2 ⟨rfl, rfl, rfl⟩
  · cases present
    exact Resolution.sameBinding_iff.2 ⟨rfl, rfl, rfl⟩

theorem BoundFor.prepare [Host] (bound : operator.BoundFor requested)
    (resolved : registry.resolve operator.params inputs backend operator.allowFallback =
      .ok requested) (ledger : ShadowLedger) :
    (operator.prepare registry backend inputs outputs ledger).operator.BoundFor requested := by
  cases reached : operator.reachesHook registry backend inputs outputs with
  | false =>
      rw [(prepare_of_not_reached ledger reached).1]
      exact bound
  | true =>
      obtain ⟨asked, kernel, planned, _, refreshed⟩ := prepare_of_reached ledger reached
      have same : asked = requested :=
        Except.ok.inj ((plan_eq_ok planned).2.1.symm.trans resolved)
      rw [refreshed, ← same]
      have next := (same ▸ bound).prepareFor
      by_cases done : (operator.refresh kernel asked (.capture kernel inputs outputs) inputs
          ledger).outcome = .ok ()
      · obtain ⟨derived, _, operator'⟩ := refresh_done done
        rw [operator']
        exact next
      · rw [refresh_failed done]
        exact next

theorem prepare_ok [Host] {kernel : Kernel} {captured : BoundTensors} {derived : Option Derived}
    {ledger : ShadowLedger}
    (planned : operator.plan registry backend inputs outputs = .ok (requested, kernel, captured))
    (calm : operator.binding.conflict? requested = none)
    (hooked : (operator.derive kernel requested.path inputs ledger).2 = .ok derived) :
    (operator.prepare registry backend inputs outputs ledger).outcome = .ok () := by
  unfold prepare
  rw [planned]
  dsimp only
  rw [calm]
  dsimp only
  split
  · rfl
  · unfold refresh
    dsimp only
    split
    · rename_i failed
      rw [failed] at hooked
      cases hooked
    · rfl

end Operator

namespace Node

variable {registry : Registry} {config : SessionConfig} {slots slots' : List (Option Tensor)}
  {node node' : Node} {requested : Resolution}

def renewed (node : Node) : Node := { node with operator := node.operator.renewed }

def Requests (registry : Registry) (config : SessionConfig) (slots : List (Option Tensor))
    (node : Node) (requested : Resolution) : Prop :=
  ∃ inputs, Session.fetch slots node.inputs = .ok inputs ∧
    registry.resolve node.operator.params inputs (config.backendFor node.operator.name)
      node.operator.allowFallback = .ok requested

theorem Requests.of_renewed (requests : node.Requests registry config slots requested)
    (same : node'.renewed = node.renewed) : node'.Requests registry config slots requested := by
  change node'.renewed.Requests registry config slots requested
  rw [same]
  exact requests

theorem Requests.of_frames (requests : node.Requests registry config slots requested)
    (same : Session.slotFrames slots' = Session.slotFrames slots) :
    node.Requests registry config slots' requested := by
  obtain ⟨inputs, fetched, resolved⟩ := requests
  obtain ⟨inputs', fetched', frames⟩ := Session.fetch_frames same fetched
  exact ⟨inputs', fetched', Registry.resolve_of_signatures
    (Tensor.signatures_of_frames frames) resolved⟩

theorem Requests.unique {requested' : Resolution}
    (requests : node.Requests registry config slots requested)
    (requests' : node.Requests registry config slots requested') : requested' = requested := by
  obtain ⟨inputs, fetched, resolved⟩ := requests
  obtain ⟨_, fetched', resolved'⟩ := requests'
  rw [fetched] at fetched'
  cases fetched'
  exact Except.ok.inj (resolved'.symm.trans resolved)

/-- A node is bound to nothing but what its slots ask for. -/
def Agrees (registry : Registry) (config : SessionConfig) (slots : List (Option Tensor))
    (node : Node) : Prop :=
  ∀ resolution, node.operator.binding.resolution? = some resolution →
    ∃ requested, node.Requests registry config slots requested ∧
      resolution.sameBinding requested = true

theorem Agrees.boundFor (agrees : node.Agrees registry config slots)
    (requests : node.Requests registry config slots requested) :
    node.operator.BoundFor requested := by
  intro resolution present
  obtain ⟨requested', requests', same⟩ := agrees resolution present
  rwa [requests.unique requests'] at same

theorem agrees_of_boundFor (requests : node.Requests registry config slots requested)
    (bound : node.operator.BoundFor requested) : node.Agrees registry config slots :=
  fun resolution present => ⟨requested, requests, bound resolution present⟩

theorem Agrees.of_less (agrees : node.Agrees registry config slots)
    (same : node'.renewed = node.renewed)
    (frames : Session.slotFrames slots' = Session.slotFrames slots)
    (less : ∀ resolution, node'.operator.binding.resolution? = some resolution →
      node.operator.binding.resolution? = some resolution) :
    node'.Agrees registry config slots' := by
  intro resolution present
  obtain ⟨requested, requests, bound⟩ := agrees resolution (less resolution present)
  exact ⟨requested, (requests.of_renewed same).of_frames frames, bound⟩

theorem Agrees.execute [Host] (agrees : node.Agrees registry config slots)
    (inputs outputs : List Tensor) (ledger : ShadowLedger) :
    { node with operator := (node.operator.execute registry inputs outputs
      ledger).operator }.Agrees registry config slots :=
  agrees.of_less (congrArg (fun operator => { node with operator })
    (node.operator.renewed_execute registry inputs outputs ledger)) rfl
    fun _ => Operator.resolution?_of_execute

theorem Agrees.prepare [Host] (agrees : node.Agrees registry config slots)
    {inputs outputs : List Tensor}
    (fetched : Session.fetch slots node.inputs = .ok inputs) (ledger : ShadowLedger) :
    { node with operator := (node.operator.prepare registry
      (config.backendFor node.operator.name) inputs outputs ledger).operator }.Agrees registry
        config slots := by
  have same : Node.renewed { node with operator := (node.operator.prepare registry
      (config.backendFor node.operator.name) inputs outputs ledger).operator } = node.renewed :=
    congrArg (fun operator => { node with operator }) (node.operator.renewed_prepare _ _ _ _ _)
  cases reached : node.operator.reachesHook registry (config.backendFor node.operator.name) inputs
      outputs with
  | false =>
      refine agrees.of_less same rfl fun resolution present => ?_
      rwa [(Operator.prepare_of_not_reached ledger reached).1] at present
  | true =>
      obtain ⟨requested, _, planned, _⟩ := Operator.prepare_of_reached ledger reached
      have resolved := (Operator.plan_eq_ok planned).2.1
      have requests : node.Requests registry config slots requested := ⟨inputs, fetched, resolved⟩
      exact agrees_of_boundFor (requests.of_renewed same)
        ((agrees.boundFor requests).prepare resolved ledger)

/-- A prepare on what is in the slots of a node can succeed, whatever the node is bound to. -/
def Preparable [Host] (registry : Registry) (config : SessionConfig) (slots : List (Option Tensor))
    (node : Node) : Prop :=
  ∃ inputs outputs requested kernel derived, Session.fetch slots node.inputs = .ok inputs ∧
    Session.fetch slots node.outputs = .ok outputs ∧
    node.operator.renewed.plan registry (config.backendFor node.operator.name) inputs outputs =
      .ok (requested, kernel, .capture kernel inputs outputs) ∧
    ∀ ledger, (node.operator.renewed.derive kernel requested.path inputs ledger).2 = .ok derived

theorem Preparable.of_renewed [Host] (preparable : node.Preparable registry config slots)
    (same : node'.renewed = node.renewed) : node'.Preparable registry config slots := by
  change node'.renewed.Preparable registry config slots
  rw [same]
  exact preparable

theorem Preparable.of_frames [Host]
    (needs : ∀ entry ∈ registry.entries, entry.kernel.HookNeedsFrames)
    (sized : ∀ tensor, some tensor ∈ slots → tensor.Sized)
    (valid' : ∀ tensor, some tensor ∈ slots' → tensor.Valid)
    (preparable : node.Preparable registry config slots)
    (same : Session.slotFrames slots' = Session.slotFrames slots) :
    node.Preparable registry config slots' := by
  obtain ⟨inputs, outputs, requested, kernel, derived, fetchedInputs, fetchedOutputs, planned,
    hooked⟩ := preparable
  obtain ⟨inputs', fetchedInputs', inputFrames⟩ := Session.fetch_frames same fetchedInputs
  obtain ⟨outputs', fetchedOutputs', outputFrames⟩ := Session.fetch_frames same fetchedOutputs
  have planned' := Operator.plan_of_signatures (Tensor.signatures_of_frames inputFrames)
    (Tensor.signatures_of_frames outputFrames) planned
  obtain ⟨entry, member, own⟩ := Registry.mem_of_kernel? (Operator.plan_eq_ok planned).2.2.1
  obtain ⟨derived', hooked'⟩ := node.operator.renewed.exists_derive (own ▸ needs entry member)
    (fun tensor member => sized tensor (Session.fetch_member fetchedInputs member))
    (fun tensor member => valid' tensor (Session.fetch_member fetchedInputs' member)) inputFrames
    (hooked .empty) .empty
  refine ⟨inputs', outputs', requested, kernel, derived', fetchedInputs', fetchedOutputs', planned',
    fun ledger => ?_⟩
  rw [← hooked', node.operator.renewed.derive_ledger]

theorem Agrees.prepare_ok [Host] (agrees : node.Agrees registry config slots)
    (preparable : node.Preparable registry config slots) :
    ∃ inputs outputs, Session.fetch slots node.inputs = .ok inputs ∧
      Session.fetch slots node.outputs = .ok outputs ∧
      ∀ ledger, (node.operator.prepare registry (config.backendFor node.operator.name) inputs
        outputs ledger).outcome = .ok () := by
  obtain ⟨inputs, outputs, requested, kernel, derived, fetchedInputs, fetchedOutputs, planned,
    hooked⟩ := preparable
  have requests : node.Requests registry config slots requested :=
    ⟨inputs, fetchedInputs, (Operator.plan_eq_ok planned).2.1⟩
  exact ⟨inputs, outputs, fetchedInputs, fetchedOutputs, fun ledger =>
    Operator.prepare_ok planned (agrees.boundFor requests).calm (hooked ledger)⟩

end Node

namespace Session

section Refusals

variable (session : Session)

theorem sparing_invalidGraph {α : Type} (message : String) :
    Sparing (.error (.invalidGraph message) : Except Error α) :=
  sparing_error (by simp [Error.code])

theorem sparing_fetch (slots : List (Option Tensor)) (ids : List TensorId) :
    Sparing (fetch slots ids) := by
  induction ids with
  | nil => exact failsOnly_ok _
  | cons id rest ih =>
      unfold fetch
      split
      · exact sparing_invalidGraph _
      · exact ih.map _

theorem sparing_defineOutputs (inputs defined outputs : List TensorId) :
    Sparing (defineOutputs inputs defined outputs) := by
  induction outputs generalizing defined with
  | nil => exact failsOnly_ok _
  | cons id rest ih =>
      unfold defineOutputs
      split
      · exact sparing_invalidGraph _
      · split
        · exact sparing_invalidGraph _
        · exact ih _

theorem sparing_checkNodes (defined : List TensorId) (index : Nat) (nodes : List Node) :
    Sparing (checkNodes defined index nodes) := by
  induction nodes generalizing defined index with
  | nil => exact failsOnly_ok _
  | cons node rest ih =>
      have own : Sparing (checkNode defined node) := by
        unfold checkNode
        split
        · exact sparing_invalidGraph _
        · exact sparing_defineOutputs _ _ _
      unfold checkNodes
      split
      · rename_i error refused
        have cause : error.SparesBinding := own error refused
        exact failsOnly_error.2 (cause.inOperator _ _)
      · exact ih _ _

theorem sparing_validateGraph : Sparing session.validateGraph := by
  refine (sparing_checkNodes _ _ _).bind fun defined _ => ?_
  split
  · exact sparing_invalidGraph _
  · exact failsOnly_pure _

end Refusals

variable [Host]

section Preparing

variable {session : Session} {nodes : List Node} (index : Nat) (ledger : ShadowLedger)
  (agrees : ∀ node ∈ nodes, node.Agrees session.registry session.config session.slots)

include agrees

theorem prepareNodes_agrees
    (spares : ∀ entry ∈ session.registry.entries, entry.kernel.HookSparing) :
    (∀ node ∈ (session.prepareNodes index ledger nodes).1,
        node.Agrees session.registry session.config session.slots) ∧
      (session.prepareNodes index ledger nodes).2.2.Sparing := by
  induction nodes generalizing index ledger with
  | nil => exact ⟨agrees, failsOnly_ok _⟩
  | cons node rest ih =>
      have here := agrees node (by simp)
      have later : ∀ other ∈ rest, other.Agrees session.registry session.config session.slots :=
        fun other member => agrees other (by simp [member])
      rw [prepareNodes]
      split
      · rename_i failed
        exact ⟨agrees, sparing_lift (failsOnly_error.2 (sparing_fetch _ _ _ failed))⟩
      · rename_i failed
        exact ⟨agrees, sparing_lift (failsOnly_error.2 (sparing_fetch _ _ _ failed))⟩
      · rename_i inputs outputs fetched _
        have own : Node.Agrees session.registry session.config session.slots
          { node with operator := (node.operator.prepare session.registry
            (session.config.backendFor node.operator.name) inputs outputs ledger).operator } :=
        here.prepare fetched ledger
        have outcome : (node.operator.prepare session.registry
            (session.config.backendFor node.operator.name) inputs outputs ledger).outcome.Sparing :=
          Operator.sparing_prepare spares fun requested resolved =>
            (here.boundFor ⟨inputs, fetched, resolved⟩).calm
        dsimp only
        split
        · rename_i fault failed
          refine ⟨?_, ?_⟩
          · exact List.forall_mem_cons.2 ⟨own, later⟩
          · cases fault with
            | refused error =>
                have cause : error.SparesBinding := outcome _ failed
                exact failsOnly_error.2 (cause.inOperator _ _)
            | aborted => exact sparing_abort
        · obtain ⟨others, sparing⟩ := ih (index + 1) (node.operator.prepare session.registry
            (session.config.backendFor node.operator.name) inputs outputs ledger).ledger later
          exact ⟨List.forall_mem_cons.2 ⟨own, others⟩, sparing⟩

theorem prepareNodes_ok (preparable : ∀ node ∈ nodes,
    node.Preparable session.registry session.config session.slots) :
    (session.prepareNodes index ledger nodes).2.2 = .ok () := by
  induction nodes generalizing index ledger with
  | nil => rfl
  | cons node rest ih =>
      obtain ⟨inputs, outputs, fetchedInputs, fetchedOutputs, done⟩ :=
        (agrees node (by simp)).prepare_ok (preparable node (by simp))
      rw [prepareNodes, fetchedInputs, fetchedOutputs]
      dsimp only
      rw [done ledger]
      exact ih _ _ (fun other member => agrees other (by simp [member]))
        fun other member => preparable other (by simp [member])

end Preparing

variable {session : Session} {added : List Tensor}

def Agreeing (session : Session) : Prop :=
  ∀ node ∈ session.nodes, node.Agrees session.registry session.config session.slots

theorem setup_agreeing (agreeing : session.Agreeing)
    (spares : ∀ entry ∈ session.registry.entries, entry.kernel.HookSparing) :
    session.setup.1.Agreeing ∧ session.setup.2.Sparing := by
  unfold setup
  dsimp only
  split
  · rename_i failed
    exact ⟨agreeing, sparing_lift (failsOnly_error.2 (sparing_validateGraph _ _ failed))⟩
  · exact @prepareNodes_agrees _ { session with ready := false } session.nodes 0 session.ledger
      agreeing spares

theorem perform_frames (sound : session.Sound added) (lawful : session.Lawful)
    {call : SessionCall} (valid : call.Valid) (nothing : call.added? = none) :
    slotFrames (session.perform call).slots = slotFrames session.slots := by
  have after := (perform_sound sound lawful valid).slots
  rw [nothing, Option.toList_none, List.append_nil] at after
  exact after.trans sound.slots.symm

theorem bindInput_nodes (id : TensorId) (tensor : Tensor) :
    (session.perform (.bindInput id tensor)).nodes = session.nodes := by
  simp only [perform, bindInput]
  repeat' split
  all_goals rfl

theorem addTensor_agreeing (sound : session.Sound added) (agreeing : session.Agreeing)
    (tensor : Tensor) : (session.perform (.addTensor tensor)).Agreeing := by
  intro node member resolution present
  obtain ⟨requested, ⟨inputs, fetched, resolved⟩, same⟩ := agreeing node member resolution present
  refine ⟨requested, ⟨inputs, ?_, resolved⟩, same⟩
  rw [← fetched]
  refine fetch_congr fun id used => List.getElem?_append_left ?_
  exact sound.known node member id (List.mem_append_left _ used)

theorem run_agreeing (sound : session.Sound added) (lawful : session.Lawful)
    (agreeing : session.Agreeing) : (session.perform .run).Agreeing := by
  obtain ⟨_, _, stats, ran, _⟩ | ⟨unchanged, _⟩ := session.run_cases
  · have kept := @runNodes_keeps _ session 0 session.nodes
      (Node.Agrees session.registry session.config session.slots)
      (fun node agrees => agrees.execute) agreeing agreeing
    have frames := perform_frames sound lawful (show SessionCall.run.Valid from trivial) rfl
    obtain ⟨registry, config⟩ := session.perform_setting .run
    intro node member
    rw [registry, config]
    rw [perform, ran] at member
    exact (kept node member).of_less rfl frames fun _ present => present
  · rw [perform, unchanged]
    exact agreeing

theorem perform_agreeing (sound : session.Sound added) (lawful : session.Lawful)
    (spares : ∀ entry ∈ session.registry.entries, entry.kernel.HookSparing)
    (agreeing : session.Agreeing) {call : SessionCall} (valid : call.Valid) :
    (session.perform call).Agreeing := by
  cases call with
  | addTensor tensor => exact addTensor_agreeing sound agreeing tensor
  | addOperator =>
      simp only [perform, addOperator]
      split
      · exact agreeing
      · intro node member
        rcases List.mem_append.1 member with earlier | new
        · exact agreeing node earlier
        · rw [List.mem_singleton.1 new]
          intro _ impossible
          cases impossible
  | setInputs =>
      simp only [perform, setInputs]
      split <;> exact agreeing
  | setOutputs =>
      simp only [perform, setOutputs]
      split <;> exact agreeing
  | setup => exact (setup_agreeing agreeing spares).1
  | bindInput id tensor =>
      have frames := perform_frames sound lawful valid rfl
      obtain ⟨registry, config⟩ := session.perform_setting (.bindInput id tensor)
      intro node member
      rw [bindInput_nodes] at member
      rw [registry, config]
      exact (agreeing node member).of_less rfl frames fun _ present => present
  | run => exact run_agreeing sound lawful agreeing
  | deinit =>
      intro node member
      obtain ⟨original, earlier, rfl⟩ := List.mem_map.1 member
      refine (agreeing original earlier).of_less ?_ rfl fun _ => Operator.resolution?_of_release
      exact congrArg (fun operator => { original with operator }) original.operator.renewed_release

theorem performAll_agreeing (sound : session.Sound added) (lawful : session.Lawful)
    (spares : ∀ entry ∈ session.registry.entries, entry.kernel.HookSparing)
    (agreeing : session.Agreeing) {calls : List SessionCall}
    (valid : ∀ call ∈ calls, call.Valid) : (session.performAll calls).Agreeing := by
  induction calls generalizing session added with
  | nil => exact agreeing
  | cons call rest ih =>
      have here := valid call (by simp)
      have registry := (session.perform_setting call).1
      exact ih (perform_sound sound lawful here) (lawful.of_registry registry)
        (by rw [registry]; exact spares) (perform_agreeing sound lawful spares agreeing here)
        fun later member => valid later (by simp [member])

end Session

/-- Calls that leave the graph of a session as it is. -/
def SessionCall.Upkeep : SessionCall → Prop
  | setup | bindInput .. | run | deinit => True
  | _ => False

namespace Session

/-- A session and a later state of it between which its graph was left alone. -/
structure Upkept (session later : Session) : Prop where
  registry : later.registry = session.registry
  config : later.config = session.config
  nodes : later.nodes.map Node.renewed = session.nodes.map Node.renewed
  inputs : later.inputs = session.inputs
  outputs : later.outputs = session.outputs
  frames : slotFrames later.slots = slotFrames session.slots

namespace Upkept

variable {session later last : Session}

theorem refl (session : Session) : session.Upkept session := ⟨rfl, rfl, rfl, rfl, rfl, rfl⟩

theorem trans (first : session.Upkept later) (second : later.Upkept last) : session.Upkept last :=
  ⟨second.registry.trans first.registry, second.config.trans first.config,
    second.nodes.trans first.nodes, second.inputs.trans first.inputs,
    second.outputs.trans first.outputs, second.frames.trans first.frames⟩

theorem validateGraph (upkept : session.Upkept later) (wiring : session.validateGraph = .ok ()) :
    later.validateGraph = .ok () := by
  have wires : later.nodes.map Node.wires = session.nodes.map Node.wires := by
    have through := congrArg (List.map Node.wires) upkept.nodes
    rwa [List.map_map, List.map_map] at through
  have defined := initiallyDefined_frames upkept.inputs upkept.frames
  exact validateGraph_mono wires upkept.outputs (fun id => (defined id).2)
    (fun id member => .inl ((defined id).1 member)) wiring

end Upkept

variable [Host]

variable {session : Session} {added : List Tensor}

theorem perform_upkept (sound : session.Sound added) (lawful : session.Lawful)
    {call : SessionCall} (valid : call.Valid) (upkeep : call.Upkeep) :
    session.Upkept (session.perform call) := by
  obtain ⟨registry, config⟩ := session.perform_setting call
  cases call with
  | addTensor | addOperator | setInputs | setOutputs => cases upkeep
  | setup =>
      obtain ⟨_, _, _, changed⟩ := session.setup_session
      refine ⟨registry, config, Node.map_of_blank (setup_blanks sound lawful) _ fun _ => rfl, ?_,
        ?_, perform_frames sound lawful valid rfl⟩
      · rw [perform, changed]
      · rw [perform, changed]
  | bindInput id tensor =>
      refine ⟨registry, config, congrArg _ (bindInput_nodes id tensor), ?_, ?_,
        perform_frames sound lawful valid rfl⟩
      all_goals
        simp only [perform, bindInput]
        repeat' split
        all_goals rfl
  | run =>
      obtain ⟨ready, executable, _, ran, _⟩ | ⟨unchanged, _⟩ := session.run_cases
      · obtain ⟨setupSlots, setUp⟩ := sound.ready ready
        obtain ⟨_, _, _, _, after⟩ := session.runNodes_session 0 session.nodes
        refine ⟨registry, config, ?_, ?_, ?_, perform_frames sound lawful valid rfl⟩
        · rw [perform, ran]
          apply (running_of_ready sound lawful setUp executable).through_nodes
          exact fun node _ inputs outputs ledger =>
            congrArg (fun operator => { node with operator })
              (node.operator.renewed_execute session.registry inputs outputs ledger)
        · rw [perform, ran, after]
        · rw [perform, ran, after]
      · rw [perform, unchanged]
        exact .refl session
  | deinit =>
      refine ⟨registry, config, ?_, rfl, rfl, perform_frames sound lawful valid rfl⟩
      rw [perform, deinit, List.map_map]
      exact List.map_congr_left fun node _ => congrArg (fun operator => { node with operator })
        node.operator.renewed_release

theorem performAll_upkept (sound : session.Sound added) (lawful : session.Lawful)
    {calls : List SessionCall} (valid : ∀ call ∈ calls, call.Valid)
    (upkeep : ∀ call ∈ calls, call.Upkeep) : session.Upkept (session.performAll calls) := by
  induction calls generalizing session added with
  | nil => exact .refl session
  | cons call rest ih =>
      have here := valid call (by simp)
      have own := perform_upkept sound lawful here (upkeep call (by simp))
      exact own.trans (ih (perform_sound sound lawful here)
        (lawful.of_registry own.registry)
        (fun later member => valid later (by simp [member]))
        fun later member => upkeep later (by simp [member]))

theorem setup_preparable (sound : session.Sound added) (lawful : session.Lawful)
    (done : session.setup.2 = .ok ()) :
    ∀ node ∈ session.setup.1.nodes, node.operator.binding.phase = .executable ∧
      node.Preparable session.registry session.config session.slots := by
  obtain ⟨_, _, bound⟩ := @prepareNodes_sound _ { session with ready := false } lawful.reads
    (fun tensor member => (sound.tensors tensor member).1) session.nodes 0 session.ledger
    sound.lives
  unfold setup at done ⊢
  dsimp only at done ⊢
  split at done
  · cases done
  · intro node member
    obtain ⟨executable, history, inputs, outputs, lived, last, fetchedInputs, fetchedOutputs⟩ :=
      bound done node member
    obtain ⟨_, requested, kernel, _, _, _, _, _, last', planned, _, samePath, _, _, derived, _⟩ :=
      lived.executable executable
    rw [last] at last'
    cases last'
    rw [samePath] at derived
    exact ⟨executable, inputs, outputs, requested, kernel, _, fetchedInputs, fetchedOutputs,
      planned, derived⟩

theorem setup_ok (agreeing : session.Agreeing) (wiring : session.validateGraph = .ok ())
    (preparable : ∀ node ∈ session.nodes,
      node.Preparable session.registry session.config session.slots) :
    session.setup.2 = .ok () := by
  have prepared := @prepareNodes_ok _ { session with ready := false } session.nodes 0 session.ledger
    agreeing preparable
  have wiring' : validateGraph { session with ready := false } = .ok () := wiring
  unfold setup
  dsimp only
  rw [wiring']
  exact prepared

end Session

def Operator.service? (operator : Operator) : Option (KernelId × Backend × DispatchPath) :=
  operator.binding.resolution?.map fun resolution =>
    (resolution.kernel, resolution.backend, resolution.path)

theorem Node.Agrees.service {registry : Registry} {config : SessionConfig}
    {slots slots' : List (Option Tensor)} {node node' : Node}
    (agrees : node.Agrees registry config slots) (agrees' : node'.Agrees registry config slots')
    (same : node'.renewed = node.renewed)
    (frames : Session.slotFrames slots' = Session.slotFrames slots)
    (bound : node.operator.service?.isSome = true)
    (bound' : node'.operator.service?.isSome = true) :
    node'.operator.service? = node.operator.service? := by
  unfold Operator.service? at bound bound' ⊢
  rw [Option.isSome_map] at bound bound'
  obtain ⟨resolution, present⟩ := Option.isSome_iff_exists.1 bound
  obtain ⟨resolution', present'⟩ := Option.isSome_iff_exists.1 bound'
  obtain ⟨requested, requests, own⟩ := agrees resolution present
  obtain ⟨requested', requests', own'⟩ := agrees' resolution' present'
  rw [((requests.of_renewed same).of_frames frames).unique requests'] at own'
  obtain ⟨kernel, backend, path⟩ := Resolution.sameBinding_iff.1 own
  obtain ⟨kernel', backend', path'⟩ := Resolution.sameBinding_iff.1 own'
  rw [present, present', Option.map_some, Option.map_some, kernel, backend, path, kernel', backend',
    path']

theorem map_eq_of_map_eq {α β γ : Type} {items items' : List α} {key : α → β} {read : α → γ}
    (keys : items'.map key = items.map key)
    (same : ∀ item ∈ items, ∀ item' ∈ items', key item' = key item → read item' = read item) :
    items'.map read = items.map read := by
  induction items generalizing items' with
  | nil => rw [List.map_eq_nil_iff.1 keys]
  | cons item rest ih =>
      cases items' with
      | nil => cases keys
      | cons item' rest' =>
          simp only [List.map_cons, List.cons.injEq] at keys ⊢
          refine ⟨same item (by simp) item' (by simp) keys.1, ih keys.2 ?_⟩
          exact fun other member other' member' =>
            same other (by simp [member]) other' (by simp [member'])

namespace Session

section

variable [Host]

variable {session : Session} {added : List Tensor}

theorem Sound.served (sound : session.Sound added)
    (executable : ∀ node ∈ session.nodes, node.operator.binding.phase = .executable) :
    ∀ node ∈ session.nodes, node.operator.service?.isSome = true := by
  intro node member
  obtain ⟨_, lived⟩ := sound.lives node member
  obtain ⟨_, _, _, _, _, _, present, _⟩ := lived.executable (executable node member)
  have held : node.operator.binding.resolution? = some _ := present
  simp [Operator.service?, held]

theorem Sound.valid_slots (sound : session.Sound added) (valid : ∀ tensor ∈ added, tensor.Valid)
    {slots : List (Option Tensor)} (frames : slotFrames slots = slotFrames session.slots) :
    ∀ tensor, some tensor ∈ slots → tensor.Valid := by
  intro tensor member
  obtain ⟨id, found⟩ := List.mem_iff_getElem?.1 member
  obtain ⟨_, original, same, present, frame⟩ := (sound.refill frames).held found
  cases same
  exact (valid original (List.mem_of_getElem? present)).of_frame frame

theorem setup_kept (session : Session) : session.setup.1.registry = session.registry ∧
    session.setup.1.config = session.config ∧ session.setup.1.slots = session.slots := by
  obtain ⟨_, _, _, changed⟩ := session.setup_session
  rw [changed]
  exact ⟨rfl, rfl, rfl⟩

theorem setup_ok_again (sound : session.Sound added) (lawful : session.Lawful)
    (needs : ∀ entry ∈ session.registry.entries, entry.kernel.HookNeedsFrames)
    (valid : ∀ tensor ∈ added, tensor.Valid) (done : session.setup.2 = .ok ()) {later : Session}
    (upkept : session.setup.1.Upkept later) (agreeing : later.Agreeing) :
    later.setup.2 = .ok () := by
  obtain ⟨registry, config, slots⟩ := session.setup_kept
  obtain ⟨sound₁, setUp⟩ := setup_sound sound lawful
  refine setup_ok agreeing (upkept.validateGraph (setUp done).wiring) fun node member => ?_
  have listed := List.mem_map_of_mem (f := Node.renewed) member
  rw [upkept.nodes] at listed
  obtain ⟨original, inside, same⟩ := List.mem_map.1 listed
  have before := (setup_preparable sound lawful done original inside).2.of_renewed same.symm
  rw [upkept.registry, upkept.config, registry, config]
  exact before.of_frames needs (fun tensor member => (sound.tensors tensor member).2)
    (sound₁.valid_slots valid upkept.frames) (upkept.frames.trans (congrArg slotFrames slots))

/-- A session whose nodes a setup bound stays one that setups bind, to the same kernels. -/
theorem setup_again (sound : session.Sound added) (lawful : session.Lawful)
    (spares : ∀ entry ∈ session.registry.entries, entry.kernel.HookSparing)
    (needs : ∀ entry ∈ session.registry.entries, entry.kernel.HookNeedsFrames)
    (valid : ∀ tensor ∈ added, tensor.Valid) (agreeing : session.Agreeing)
    (done : session.setup.2 = .ok ()) {later : List SessionCall}
    (validLater : ∀ call ∈ later, call.Valid) (upkeep : ∀ call ∈ later, call.Upkeep) :
    let again := (session.setup.1.performAll later).setup
    again.2 = .ok () ∧
      (∀ node ∈ again.1.nodes, node.operator.binding.phase = .executable) ∧
      (∀ node ∈ again.1.nodes, node.operator.service?.isSome = true) ∧
      again.1.nodes.map (fun node => node.operator.service?) =
        session.setup.1.nodes.map fun node => node.operator.service? := by
  intro again
  obtain ⟨registry, _, _⟩ := session.setup_kept
  have sound₁ := (setup_sound sound lawful).1
  have lawful₁ := lawful.of_registry registry
  have agreeing₁ := (setup_agreeing agreeing spares).1
  have upkept := performAll_upkept sound₁ lawful₁ validLater upkeep
  obtain ⟨sound₂, _, _⟩ := performAll_sound sound₁ lawful₁ validLater
  have lawful₂ := lawful₁.of_registry upkept.registry
  have agreeing₂ := performAll_agreeing sound₁ lawful₁ (by rw [registry]; exact spares) agreeing₁
    validLater
  have done₂ : again.2 = .ok () := setup_ok_again sound lawful needs valid done upkept agreeing₂
  have through : session.setup.1.Upkept again.1 :=
    upkept.trans (@perform_upkept _ _ _ sound₂ lawful₂ .setup trivial trivial)
  have sound₃ := (setup_sound sound₂ lawful₂).1
  have agreeing₃ : again.1.Agreeing :=
    (setup_agreeing agreeing₂ (by rw [upkept.registry, registry]; exact spares)).1
  have executable₃ : ∀ node ∈ again.1.nodes, node.operator.binding.phase = .executable :=
    fun node member => (setup_preparable sound₂ lawful₂ done₂ node member).1
  have served₁ := sound₁.served fun node member =>
    (setup_preparable sound lawful done node member).1
  have served₃ := sound₃.served executable₃
  refine ⟨done₂, executable₃, served₃, map_eq_of_map_eq through.nodes ?_⟩
  intro node member node' member' same
  have agrees₃ := agreeing₃ node' member'
  rw [through.registry, through.config] at agrees₃
  exact (agreeing₁ node member).service agrees₃ same through.frames (served₁ node member)
    (served₃ node' member')

/-- Whatever calls are made on a new session over the default registry, with valid tensors, no setup
refuses because of what an operator is bound to. Once a setup has succeeded, it succeeds again after
any setups, runs and releases and after any new contents for the inputs, and binds every operator
to the same kernel, on the same backend and path. -/
theorem setup_renews (config : SessionConfig) {calls : List SessionCall}
    (valid : ∀ call ∈ calls, call.Valid) :
    let session := (create Registry.default config).performAll calls
    (∀ error, session.setup.2 = .error (.refused error) →
      ∀ operator bound requested, error.root ≠ .rebindConflict operator bound requested) ∧
      (session.setup.2 = .ok () → ∀ later : List SessionCall,
        (∀ call ∈ later, call.Valid ∧ call.Upkeep) →
        let again := (session.setup.1.performAll later).setup
        again.2 = .ok () ∧
          (∀ node ∈ again.1.nodes, node.operator.binding.phase = .executable) ∧
          (∀ node ∈ again.1.nodes, node.operator.service?.isSome = true) ∧
          again.1.nodes.map (fun node => node.operator.service?) =
            session.setup.1.nodes.map fun node => node.operator.service?) := by
  intro session
  obtain ⟨sound, lawful, registry, _⟩ := sound_of_calls config valid
  have agreeing : session.Agreeing :=
    performAll_agreeing (create_sound Registry.default config) (create_lawful config)
      Registry.default_hooksSparing (fun node member => by cases member) valid
  have spares : ∀ entry ∈ session.registry.entries, entry.kernel.HookSparing := by
    rw [registry]
    exact Registry.default_hooksSparing
  have needs : ∀ entry ∈ session.registry.entries, entry.kernel.HookNeedsFrames := by
    rw [registry]
    exact Registry.default_hooksNeedFrames
  have fits : ∀ tensor ∈ calls.filterMap SessionCall.added?, tensor.Valid := by
    intro tensor member
    obtain ⟨call, listed, new⟩ := List.mem_filterMap.1 member
    cases call with
    | addTensor =>
        cases new
        exact valid _ listed
    | addOperator | setInputs | setOutputs | setup | bindInput | run | deinit => cases new
  refine ⟨fun error refused => (setup_agreeing agreeing spares).2 _ refused, ?_⟩
  intro done later upkeep
  exact setup_again sound lawful spares needs fits agreeing done
    (fun call member => (upkeep call member).1) fun call member => (upkeep call member).2

end

def layerUpkeep : List SessionCall := layerFeeds ++ [.run, .deinit, .run, .setup, .run]

theorem layerUpkeep_valid : ∀ call ∈ layerUpkeep, call.Valid ∧ call.Upkeep := by
  simp only [layerUpkeep, layerFeeds, List.cons_append, List.nil_append, List.forall_mem_cons,
    SessionCall.Valid, SessionCall.Upkeep]
  refine ⟨⟨trivial, trivial⟩, ⟨by rfl, trivial⟩, ⟨trivial, trivial⟩, ⟨trivial, trivial⟩,
    ⟨trivial, trivial⟩, ⟨trivial, trivial⟩, ⟨trivial, trivial⟩, ?_⟩
  exact fun _ impossible => by cases impossible

theorem setup_renews_layer :
    (∀ call ∈ layerGraph, call.Valid) ∧ (∀ call ∈ layerUpkeep, call.Valid ∧ call.Upkeep) ∧
      ((create Registry.default .standard).performAll layerGraph).setup.2 = .ok () ∧
      (((create Registry.default .standard).performAll layerGraph).setup.1.performAll
        layerUpkeep).setup.2 = .ok () := by
  have valid : ∀ call ∈ layerGraph, call.Valid := by
    intro call member
    exact layerCalls_valid call (by simp [layerCalls, member])
  have again := (setup_renews .standard valid).2 rebound_ready.1 layerUpkeep layerUpkeep_valid
  exact ⟨valid, layerUpkeep_valid, rebound_ready.1, again.1⟩

end Session

end TensorRuntime
