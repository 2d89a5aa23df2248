import TensorRuntime.SessionConfig

/-! Sessions: a pool of tensors and operators that run on it in the order in which they were added.
A session is set up once its wiring is right, and stays set up until its graph changes. -/

namespace TensorRuntime

abbrev TensorId := Nat

abbrev OperatorId := Nat

structure Node where
  operator : Operator
  inputs : List TensorId
  outputs : List TensorId

structure SessionStats where
  runs : Nat
  operatorsExecuted : Nat
  fallbackExecutions : Nat
  deriving DecidableEq, Repr, Inhabited

/-- A slot of the pool is empty only while an operator writes its tensor. -/
structure Session where
  registry : Registry
  config : SessionConfig
  slots : List (Option Tensor)
  nodes : List Node
  inputs : List TensorId
  outputs : List TensorId
  ready : Bool
  stats : SessionStats
  ledger : ShadowLedger

namespace Session

def create (registry : Registry) (config : SessionConfig) : Session :=
  ⟨registry, config, [], [], [], [], false, ⟨0, 0, 0⟩, .empty⟩

def addTensor (session : Session) (tensor : Tensor) : Session × TensorId :=
  ({ session with slots := session.slots ++ [some tensor] }, session.slots.length)

def tensor? (session : Session) (id : TensorId) : Option Tensor := session.slots[id]?.join

def operator? (session : Session) (id : OperatorId) : Option Operator :=
  session.nodes[id]?.map Node.operator

def unknown? (session : Session) (ids : List TensorId) : Option TensorId :=
  ids.find? fun id => session.slots.length ≤ id

def unknownTensor (id : TensorId) : Error := .invalidGraph ("unknown tensor #" ++ id.repr)

def unavailable (id : TensorId) : Error :=
  .invalidGraph ("tensor #" ++ id.repr ++ " is not available")

def addOperator (session : Session) (name : String) (params : Params)
    (inputs outputs : List TensorId) : Session × Except Error OperatorId :=
  match session.unknown? (inputs ++ outputs) with
  | some id => (session, .error (unknownTensor id))
  | none =>
      let operator :=
        Operator.create name params session.config.lifetime session.config.allowFallback
      ({ session with nodes := session.nodes ++ [⟨operator, inputs, outputs⟩], ready := false },
        .ok session.nodes.length)

def setInputs (session : Session) (ids : List TensorId) : Session × Except Error Unit :=
  match session.unknown? ids with
  | some id => (session, .error (unknownTensor id))
  | none => ({ session with inputs := ids, ready := false }, .ok ())

def setOutputs (session : Session) (ids : List TensorId) : Session × Except Error Unit :=
  match session.unknown? ids with
  | some id => (session, .error (unknownTensor id))
  | none => ({ session with outputs := ids, ready := false }, .ok ())

def initiallyDefined (session : Session) : List TensorId :=
  session.inputs ++ session.slots.zipIdx.filterMap fun entry =>
    if entry.1.any fun tensor => tensor.kind == .constant then some entry.2 else none

def defineOutputs (inputs defined : List TensorId) : List TensorId → Except Error (List TensorId)
  | [] => .ok defined
  | id :: rest =>
      if id ∈ inputs then
        .error (.invalidGraph ("output tensor #" ++ id.repr ++ " aliases an input"))
      else if id ∈ defined then
        .error (.invalidGraph ("tensor #" ++ id.repr ++ " is already defined"))
      else defineOutputs inputs (id :: defined) rest

def checkNode (defined : List TensorId) (node : Node) : Except Error (List TensorId) :=
  match node.inputs.find? fun id => id ∉ defined with
  | some id =>
      .error (.invalidGraph ("input tensor #" ++ id.repr ++
        " is neither a graph input, a constant, nor produced earlier"))
  | none => defineOutputs node.inputs defined node.outputs

def checkNodes (defined : List TensorId) (index : Nat) :
    List Node → Except Error (List TensorId)
  | [] => .ok defined
  | node :: rest =>
      match checkNode defined node with
      | .error error => .error (.inOperator index node.operator.name error)
      | .ok defined => checkNodes defined (index + 1) rest

def validateGraph (session : Session) : Except Error Unit := do
  let defined ← checkNodes session.initiallyDefined 0 session.nodes
  match session.outputs.find? fun id => id ∉ defined with
  | some id => throw (.invalidGraph ("graph output #" ++ id.repr ++ " is never produced"))
  | none => return ()

def fetch (slots : List (Option Tensor)) : List TensorId → Except Error (List Tensor)
  | [] => .ok []
  | id :: rest =>
      match slots[id]?.join with
      | none => .error (unavailable id)
      | some tensor => (tensor :: ·) <$> fetch slots rest

def inOperator (index : Nat) (name : String) : Fault → Fault
  | .refused error => .refused (.inOperator index name error)
  | .aborted => .aborted

def prepareNodes [Host] (session : Session) (index : Nat) (ledger : ShadowLedger) :
    List Node → List Node × ShadowLedger × Attempt Unit
  | [] => ([], ledger, .ok ())
  | node :: rest =>
      match fetch session.slots node.inputs, fetch session.slots node.outputs with
      | .error error, _ => (node :: rest, ledger, Attempt.refuse error)
      | .ok _, .error error => (node :: rest, ledger, Attempt.refuse error)
      | .ok inputs, .ok outputs =>
          let result := node.operator.prepare session.registry
            (session.config.backendFor node.operator.name) inputs outputs ledger
          let node := { node with operator := result.operator }
          match result.outcome with
          | .error fault =>
              (node :: rest, result.ledger, .error (inOperator index node.operator.name fault))
          | .ok () =>
              let (prepared, ledger, outcome) :=
                session.prepareNodes (index + 1) result.ledger rest
              (node :: prepared, ledger, outcome)

def setup [Host] (session : Session) : Session × Attempt Unit :=
  let session := { session with ready := false }
  match session.validateGraph with
  | .error error => (session, Attempt.refuse error)
  | .ok () =>
      let (nodes, ledger, outcome) := session.prepareNodes 0 session.ledger session.nodes
      ({ session with nodes, ledger, ready := outcome.toBool }, outcome)

def bindInput (session : Session) (id : TensorId) (tensor : Tensor) :
    Session × Except Error Unit :=
  if id ∉ session.inputs then
    (session, .error (.invalidGraph ("tensor #" ++ id.repr ++ " is not a graph input")))
  else
    match session.tensor? id with
    | none => (session, .error (unavailable id))
    | some slot =>
        match slot.replaceBuffer tensor with
        | .error error => (session, .error error)
        | .ok slot => ({ session with slots := session.slots.set id (some slot) }, .ok ())

def takeOutputs (slots : List (Option Tensor)) :
    List TensorId → List (Option Tensor) × List Tensor × Except Error Unit
  | [] => (slots, [], .ok ())
  | id :: rest =>
      match slots[id]?.join with
      | none => (slots, [], .error (unavailable id))
      | some tensor =>
          let (slots, taken, outcome) := takeOutputs (slots.set id none) rest
          (slots, tensor :: taken, outcome)

def restore (slots : List (Option Tensor)) : List TensorId → List Tensor → List (Option Tensor)
  | id :: ids, tensor :: tensors => restore (slots.set id (some tensor)) ids tensors
  | _, _ => slots

def runNode [Host] (session : Session) (index : Nat) (node : Node) : Session × Attempt Unit :=
  let name := node.operator.name
  match takeOutputs session.slots node.outputs with
  | (slots, taken, .error error) =>
      ({ session with slots := restore slots node.outputs taken },
        Attempt.refuse (.inOperator index name error))
  | (slots, taken, .ok ()) =>
      match fetch slots node.inputs with
      | .error _ =>
          ({ session with slots := restore slots node.outputs taken },
            Attempt.refuse (.inOperator index name
              (.invalidGraph "an input tensor is not available")))
      | .ok inputs =>
          let fallback := node.operator.binding.resolution?.any fun resolution =>
            resolution.path == .quantFallback
          let result := node.operator.execute session.registry inputs taken session.ledger
          let session :=
            { session with
              slots := restore slots node.outputs result.outputs
              nodes := session.nodes.set index { node with operator := result.operator }
              ledger := result.ledger }
          match result.outcome with
          | .error fault => (session, .error (inOperator index name fault))
          | .ok () =>
              ({ session with
                  stats :=
                    { session.stats with
                      operatorsExecuted := session.stats.operatorsExecuted + 1
                      fallbackExecutions :=
                        session.stats.fallbackExecutions + if fallback then 1 else 0 } },
                .ok ())

def runNodes [Host] (session : Session) (index : Nat) : List Node → Session × Attempt Unit
  | [] => (session, .ok ())
  | node :: rest =>
      match session.runNode index node with
      | (session, .ok ()) => session.runNodes (index + 1) rest
      | (session, .error fault) => (session, .error fault)

def firstIdle? (nodes : List Node) : Option (Nat × Node) :=
  (nodes.zipIdx.find? fun entry => !entry.1.operator.binding.isExecutable).map fun entry =>
    (entry.2, entry.1)

/-- Runs every operator. Nothing runs unless all are executable and the graph is set up. -/
def run [Host] (session : Session) : Session × Attempt Unit :=
  match firstIdle? session.nodes with
  | some (index, node) =>
      let operator := node.operator
      (session, Attempt.refuse (.inOperator index operator.name
        (.kernelUnbound operator.name operator.binding.state)))
  | none =>
      if !session.ready then
        (session, Attempt.refuse (.invalidGraph
          "session is not set up; call setup after changing the graph"))
      else
        match session.runNodes 0 session.nodes with
        | (session, .ok ()) =>
            ({ session with stats := { session.stats with runs := session.stats.runs + 1 } },
              .ok ())
        | (session, .error fault) => (session, .error fault)

def output (session : Session) (id : TensorId) : Except Error Tensor :=
  match session.tensor? id with
  | some tensor => .ok tensor
  | none => .error (unavailable id)

def deinit (session : Session) : Session :=
  { session with
    nodes := session.nodes.map fun node => { node with operator := node.operator.release }
    ready := false }

def info (session : Session) : String :=
  let orDash (text : Option String) : String := text.getD "-"
  let line (entry : Node × Nat) : String :=
    let operator := entry.1.operator
    let resolution := operator.binding.resolution?
    "\n  #" ++ entry.2.repr ++ " " ++ operator.name ++
      "  op=" ++ orDash (resolution.map fun resolution => resolution.op.name) ++
      " backend=" ++ orDash (resolution.map fun resolution => resolution.backend.name) ++
      " path=" ++ orDash (resolution.map fun resolution => resolution.path.name) ++
      " state=" ++ operator.binding.state
  "session  backend=" ++ session.config.backend.name ++ " operators=" ++
    session.nodes.length.repr ++ " tensors=" ++ session.slots.length.repr ++ " ready=" ++
    (if session.ready then "true" else "false") ++ String.join (session.nodes.zipIdx.map line)

end Session

end TensorRuntime
