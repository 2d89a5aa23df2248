import TensorRuntime.Proofs.Operator.Binding
import TensorRuntime.Proofs.Session.Wiring

/-!
One step of a session's loops: preparing a node during setup, and running a node.
-/

namespace TensorRuntime

open Attempt

variable [Host]

namespace Node

def blank (node : Node) : Node :=
  { node with operator := { node.operator with binding := .unbound } }

omit [Host] in
theorem map_of_blank {α : Type} {nodes nodes' : List Node}
    (same : nodes'.map blank = nodes.map blank) (read : Node → α)
    (ignores : ∀ node, read node.blank = read node) : nodes'.map read = nodes.map read := by
  have through := congrArg (fun nodes => nodes.map read) same
  simpa only [List.map_map, Function.comp_def, ignores] using through

/-- Some history of calls explains what the operator of a node holds. -/
def Lives (registry : Registry) (node : Node) : Prop :=
  ∃ history, (OperatorRun.mk node.operator history).Sound registry

/-- The latest prepare of a node's operator was on the tensors that some slots hold for it. -/
def BoundOn (registry : Registry) (config : SessionConfig) (slots : List (Option Tensor))
    (node : Node) : Prop :=
  ∃ history inputs outputs, (OperatorRun.mk node.operator history).Sound registry ∧
    OperatorEvent.lastPrepared? history =
      some (config.backendFor node.operator.name, inputs, outputs) ∧
    Session.fetch slots node.inputs = .ok inputs ∧ Session.fetch slots node.outputs = .ok outputs

variable {registry : Registry} {config : SessionConfig} {slots : List (Option Tensor)}
  {node : Node}

theorem BoundOn.lives (bound : node.BoundOn registry config slots) : node.Lives registry := by
  obtain ⟨history, _, _, sound, _⟩ := bound
  exact ⟨history, sound⟩

theorem BoundOn.executed (bound : node.BoundOn registry config slots) (inputs outputs : List Tensor)
    (ledger : ShadowLedger) :
    { node with operator := (node.operator.execute registry inputs outputs
      ledger).operator }.BoundOn registry config slots := by
  obtain ⟨history, inputs₀, outputs₀, sound, last, fetched⟩ := bound
  obtain ⟨event, sound', same⟩ := sound.executed inputs outputs ledger
  have name : (node.operator.execute registry inputs outputs ledger).operator.name =
      node.operator.name := by
    obtain ⟨binding, executions, changed⟩ :=
      node.operator.execute_operator registry inputs outputs ledger
    rw [changed]
  refine ⟨event :: history, inputs₀, outputs₀, sound', ?_, fetched⟩
  rw [name]
  exact same.trans last

theorem BoundOn.slots_congr {slots' : List (Option Tensor)}
    (bound : node.BoundOn registry config slots)
    (agree : ∀ id ∈ node.inputs ++ node.outputs, slots'[id]? = slots[id]?) :
    node.BoundOn registry config slots' := by
  obtain ⟨history, inputs, outputs, sound, last, fetchedInputs, fetchedOutputs⟩ := bound
  refine ⟨history, inputs, outputs, sound, last, ?_, ?_⟩
  · rw [← fetchedInputs]
    exact Session.fetch_congr fun id member => agree id (by simp [member])
  · rw [← fetchedOutputs]
    exact Session.fetch_congr fun id member => agree id (by simp [member])

theorem Lives.prepare (lives : node.Lives registry) (reads : registry.HooksReadContents)
    {backend : Backend} {inputs outputs : List Tensor} {ledger : ShadowLedger}
    (usable : ∀ tensor ∈ inputs ++ outputs, tensor.Usable) :
    { node with operator := (node.operator.prepare registry backend inputs outputs
      ledger).operator }.Lives registry := by
  obtain ⟨history, sound⟩ := lives
  have kept : (OperatorRun.perform ⟨node.operator, history⟩ registry
      (.prepare backend inputs outputs ledger)).Sound registry := sound.prepare reads usable
  exact ⟨_, kept⟩

theorem blank_prepare (registry : Registry) (node : Node) (backend : Backend)
    (inputs outputs : List Tensor) (ledger : ShadowLedger) :
    blank { node with operator := (node.operator.prepare registry backend inputs outputs
      ledger).operator } = node.blank := by
  obtain ⟨binding, changed⟩ := node.operator.prepare_operator registry backend inputs outputs ledger
  rw [changed]
  rfl

theorem Lives.prepare_done (lives : node.Lives registry) (reads : registry.HooksReadContents)
    {inputs outputs : List Tensor} {ledger : ShadowLedger}
    (usable : ∀ tensor ∈ inputs ++ outputs, tensor.Usable)
    (fetchedInputs : Session.fetch slots node.inputs = .ok inputs)
    (fetchedOutputs : Session.fetch slots node.outputs = .ok outputs)
    (done : (node.operator.prepare registry (config.backendFor node.operator.name) inputs outputs
      ledger).outcome = .ok ()) :
    (node.operator.prepare registry (config.backendFor node.operator.name) inputs outputs
        ledger).operator.binding.phase = .executable ∧
      { node with operator := (node.operator.prepare registry
        (config.backendFor node.operator.name) inputs outputs
          ledger).operator }.BoundOn registry config slots := by
  obtain ⟨history, sound⟩ := lives
  obtain ⟨ready, executable⟩ := sound.prepare_done reads usable done
  obtain ⟨binding, changed⟩ := node.operator.prepare_operator registry
    (config.backendFor node.operator.name) inputs outputs ledger
  refine ⟨executable, _, inputs, outputs, ready, ?_, fetchedInputs, fetchedOutputs⟩
  rw [changed]
  rfl

end Node

namespace Session

theorem prepareNodes_sound {session : Session} (reads : session.registry.HooksReadContents)
    (usable : ∀ tensor, some tensor ∈ session.slots → tensor.Usable) (nodes : List Node)
    (index : Nat) (ledger : ShadowLedger)
    (lives : ∀ node ∈ nodes, node.Lives session.registry) :
    (session.prepareNodes index ledger nodes).1.map Node.blank = nodes.map Node.blank ∧
      (∀ node ∈ (session.prepareNodes index ledger nodes).1, node.Lives session.registry) ∧
      ((session.prepareNodes index ledger nodes).2.2 = .ok () →
        ∀ node ∈ (session.prepareNodes index ledger nodes).1,
          node.operator.binding.phase = .executable ∧
            node.BoundOn session.registry session.config session.slots) := by
  induction nodes generalizing index ledger with
  | nil => simp [prepareNodes]
  | cons node rest ih =>
      have lived := lives node (by simp)
      have restLives : ∀ other ∈ rest, other.Lives session.registry :=
        fun other member => lives other (by simp [member])
      rw [prepareNodes]
      cases fetchedInputs : fetch session.slots node.inputs with
      | error error =>
          exact ⟨rfl, lives, fun impossible => by cases impossible⟩
      | ok inputs =>
          cases fetchedOutputs : fetch session.slots node.outputs with
          | error error =>
              exact ⟨rfl, lives, fun impossible => by cases impossible⟩
          | ok outputs =>
              have fits : ∀ tensor ∈ inputs ++ outputs, tensor.Usable := by
                intro tensor member
                rcases List.mem_append.1 member with input | output
                · exact usable tensor (fetch_member fetchedInputs input)
                · exact usable tensor (fetch_member fetchedOutputs output)
              dsimp only
              split
              · rename_i fault failed
                refine ⟨by simp [node.blank_prepare], ?_, fun impossible => by cases impossible⟩
                intro other member
                rcases List.mem_cons.1 member with rfl | later
                · exact lived.prepare reads fits
                · exact restLives other later
              · rename_i done
                obtain ⟨executable, first⟩ :=
                  lived.prepare_done reads fits fetchedInputs fetchedOutputs done
                obtain ⟨blanks, others, bound⟩ := ih (index + 1) (node.operator.prepare
                  session.registry (session.config.backendFor node.operator.name) inputs outputs
                  ledger).ledger restLives
                refine ⟨by simp [node.blank_prepare, blanks], ?_, ?_⟩
                · intro other member
                  rcases List.mem_cons.1 member with rfl | later
                  · exact first.lives
                  · exact others other later
                · intro finished other member
                  rcases List.mem_cons.1 member with rfl | later
                  · exact ⟨executable, first⟩
                  · exact bound finished other later

/-- A node that writes other tensors than it reads runs on the tensors in its slots, and what it
wrote takes their places. -/
theorem runNode_eq {session : Session} {index : Nat} {node : Node} (separate : node.Separate)
    {inputs outputs : List Tensor} (fetchedInputs : fetch session.slots node.inputs = .ok inputs)
    (fetchedOutputs : fetch session.slots node.outputs = .ok outputs)
    (lengths : (node.operator.execute session.registry inputs outputs
      session.ledger).outputs.length = outputs.length) :
    let result := node.operator.execute session.registry inputs outputs session.ledger
    let after : Session := { session with
      slots := restore session.slots node.outputs result.outputs
      nodes := session.nodes.set index { node with operator := result.operator }
      ledger := result.ledger }
    (∃ fault, result.outcome = .error fault ∧
      session.runNode index node = (after, .error (inOperator index node.operator.name fault))) ∨
    (result.outcome = .ok () ∧ ∃ fallbacks, session.runNode index node =
      ({ after with stats := ⟨session.stats.runs, session.stats.operatorsExecuted + 1,
        fallbacks⟩ }, .ok ())) := by
  have cleared : fetch (clear session.slots node.outputs) node.inputs = .ok inputs := by
    rw [← fetchedInputs]
    exact fetch_congr fun id member => clear_other fun written => separate.2 id written member
  have putBack : restore (clear session.slots node.outputs) node.outputs
      (node.operator.execute session.registry inputs outputs session.ledger).outputs =
      restore session.slots node.outputs
        (node.operator.execute session.registry inputs outputs session.ledger).outputs :=
    restore_congr (by rw [lengths, fetch_length fetchedOutputs]) (length_clear _ _)
      fun place outside => clear_other outside
  dsimp only
  unfold runNode
  dsimp only
  rw [takeOutputs_eq separate.1 fetchedOutputs]
  dsimp only
  rw [cleared]
  dsimp only
  rw [putBack]
  cases outcome :
    (node.operator.execute session.registry inputs outputs session.ledger).outcome with
  | error fault => exact .inl ⟨fault, rfl, rfl⟩
  | ok _ => exact .inr ⟨rfl, _, rfl⟩

end Session

end TensorRuntime
