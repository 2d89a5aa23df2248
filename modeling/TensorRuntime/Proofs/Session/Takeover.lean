import TensorRuntime.Proofs.Session.Lifecycle

/-!
What a graph input may be bound to, and what the operators of later runs make of it. Binding
overlooks the size of a buffer. Where the size is right, no run is refused for a signature.
-/

namespace TensorRuntime

open Attempt

namespace BoundTensors

def AcceptAll (bound : List Signature) (given : List Tensor) : Prop :=
  List.Forall₂ (fun signature tensor => signature.accepts tensor = true) bound given

theorem acceptAll_cons {signature : Signature} {bound : List Signature} {tensor : Tensor}
    {given : List Tensor} : AcceptAll (signature :: bound) (tensor :: given) ↔
      signature.accepts tensor = true ∧ AcceptAll bound given :=
  List.forall₂_cons

theorem mismatch?_eq_none {bound : List Signature} {given : List Tensor} {place : Nat}
    (lengths : bound.length = given.length) :
    mismatch? bound given place = none ↔ AcceptAll bound given := by
  induction bound generalizing given place with
  | nil =>
      cases given with
      | nil => exact ⟨fun _ => .nil, fun _ => rfl⟩
      | cons => cases lengths
  | cons signature rest ih =>
      cases given with
      | nil => cases lengths
      | cons tensor others =>
          rw [mismatch?, acceptAll_cons]
          split
          · rename_i accepted
            rw [ih (by simpa using lengths)]
            simp [accepted]
          · rename_i refused
            simp [refused]

theorem checkRole_eq_ok {operator role : String} {bound : List Signature} {given : List Tensor} :
    checkRole operator role bound given = .ok () ↔ AcceptAll bound given := by
  unfold checkRole
  by_cases lengths : bound.length = given.length
  · rw [if_neg (not_not.2 lengths), ← @mismatch?_eq_none _ _ 0 lengths]
    split <;> simp_all
  · rw [if_pos lengths]
    simp only [reduceCtorEq, false_iff]
    exact fun fits => lengths fits.length_eq

theorem check_eq_ok {bound : BoundTensors} {operator : String} {inputs outputs : List Tensor} :
    bound.check operator inputs outputs = .ok () ↔
      AcceptAll bound.inputs inputs ∧ AcceptAll bound.outputs outputs := by
  unfold check
  rw [bind_eq_ok, ← @checkRole_eq_ok operator "input", ← @checkRole_eq_ok operator "output"]
  exact ⟨fun ⟨_, inputsFit, outputsFit⟩ => ⟨inputsFit, outputsFit⟩,
    fun ⟨inputsFit, outputsFit⟩ => ⟨(), inputsFit, outputsFit⟩⟩

end BoundTensors

namespace Session

open BoundTensors

variable {session : Session} {id : TensorId} {slot other taken : Tensor}

theorem fetch_replaced {slots : List (Option Tensor)} {ids : List TensorId} {given : List Tensor}
    (held : slots[id]? = some (some slot)) (sized : slot.Sized)
    (done : slot.replaceBuffer other = .ok taken) (fetched : fetch slots ids = .ok given) :
    ∃ given', fetch (slots.set id (some taken)) ids = .ok given' ∧ ∀ bound,
      AcceptAll bound given' ↔ AcceptAll bound given ∧ (id ∈ ids → other.Sized) := by
  induction ids generalizing given with
  | nil =>
      cases fetched
      exact ⟨[], rfl, by simp⟩
  | cons first rest ih =>
      obtain ⟨tensor, others, found, remaining, rfl⟩ := (fetch_cons first rest).1 fetched
      obtain ⟨others', fetched', passes⟩ := ih remaining
      by_cases here : first = id
      · subst here
        cases held.symm.trans found
        have present := List.getElem?_set_self (a := some taken)
          (List.getElem?_eq_some_iff.1 held).1
        refine ⟨taken :: others', (fetch_cons first rest).2 ⟨_, _, present, fetched', rfl⟩, ?_⟩
        rintro (_ | ⟨signature, signatures⟩)
        · simp [AcceptAll]
        · rw [acceptAll_cons, acceptAll_cons, passes, Tensor.accepts_of_replaceBuffer done sized]
          simp only [List.mem_cons_self, true_imp_iff]
          tauto
      · have elsewhere : (slots.set id (some taken))[first]? = some (some tensor) := by
          rw [List.getElem?_set_ne (Ne.symm here), found]
        refine ⟨tensor :: others', (fetch_cons first rest).2 ⟨_, _, elsewhere, fetched', rfl⟩, ?_⟩
        rintro (_ | ⟨signature, signatures⟩)
        · simp [AcceptAll]
        · rw [acceptAll_cons, acceptAll_cons, passes, List.mem_cons, or_iff_right (Ne.symm here),
            and_assoc]

theorem bindInput_eq_ok (input : id ∈ session.inputs) (held : session.tensor? id = some slot) :
    (session.bindInput id other).2 = .ok () ↔ ∃ taken, slot.replaceBuffer other = .ok taken := by
  unfold bindInput
  rw [if_neg (not_not.2 input), held]
  dsimp only
  cases slot.replaceBuffer other <;> simp

theorem bindInput_replaced (input : id ∈ session.inputs) (held : session.tensor? id = some slot)
    (done : slot.replaceBuffer other = .ok taken) :
    session.bindInput id other =
      ({ session with slots := session.slots.set id (some taken) }, .ok ()) := by
  unfold bindInput
  rw [if_neg (not_not.2 input), held]
  dsimp only
  rw [done]

theorem tensor?_bindInput (input : id ∈ session.inputs) (held : session.tensor? id = some slot)
    (done : slot.replaceBuffer other = .ok taken) :
    (session.bindInput id other).1.tensor? id = some taken := by
  have inside := (List.getElem?_eq_some_iff.1 (held_of_tensor? held)).1
  rw [bindInput_replaced input held done, tensor?, List.getElem?_set_self inside,
    Option.join_some]

theorem run_of_idle [Host] (idle : session.ready = false) {error : Error}
    (refused : session.run.2 = .error (.refused error)) (context : String)
    (expected got : List Nat) : error.root ≠ .shapeMismatch context expected got := by
  unfold run at refused
  split at refused
  · cases refused
    simp [Error.root]
  · rw [idle] at refused
    cases refused
    simp [Error.root]

theorem run_of_fits [Host] (config : SessionConfig) {calls : List SessionCall}
    (fits : ∀ call ∈ calls, call.Fits) {error : Error}
    (refused : ((create Registry.default config).performAll calls).run.2 =
      .error (.refused error)) (context : String) (expected got : List Nat) :
    error.root ≠ .shapeMismatch context expected got := by
  obtain ⟨sound, registry, _⟩ :=
    performAll_sound_of_fits (create_sound Registry.default config) (create_lawful config) fits
  have lawful : ((create Registry.default config).performAll calls).Lawful :=
    (create_lawful config).of_registry registry
  cases ready : ((create Registry.default config).performAll calls).ready with
  | true => exact ((run_sound sound lawful).2.2 ready error refused).2 context expected got
  | false => exact run_of_idle ready refused context expected got

/-- A tensor takes over what its signature accepts, and contents of other sizes besides. Only those
spoil it and fail it in the checks of the operators that use it, and without them no run is ever
refused for a signature. -/
theorem takeovers_overlook_size [Host] (valid : slot.Valid) (other : Tensor) :
    (slot.signature.accepts other = true ↔
      (∃ taken, slot.replaceBuffer other = .ok taken) ∧ other.Sized) ∧
    (∀ taken, slot.replaceBuffer other = .ok taken →
      taken = { slot with buffer := other.buffer } ∧ (taken.Valid ↔ other.Sized)) ∧
    (∀ (session : Session) (id : TensorId), id ∈ session.inputs →
      session.tensor? id = some slot →
      ((session.bindInput id other).2 = .ok () ↔
        ∃ taken, slot.replaceBuffer other = .ok taken) ∧
      ((session.bindInput id other).2 = .ok () →
        (session.bindInput id other).1.tensor? id = some { slot with buffer := other.buffer } ∧
        ∀ (bound : BoundTensors) (operator : String) (reads writes : List TensorId)
          (inputs outputs : List Tensor), fetch session.slots reads = .ok inputs →
          fetch session.slots writes = .ok outputs → ∃ inputs' outputs',
            fetch (session.bindInput id other).1.slots reads = .ok inputs' ∧
            fetch (session.bindInput id other).1.slots writes = .ok outputs' ∧
            (bound.check operator inputs' outputs' = .ok () ↔
              bound.check operator inputs outputs = .ok () ∧
                (id ∈ reads ++ writes → other.Sized)))) ∧
    (other.Sized → ∀ (config : SessionConfig) (before after : List SessionCall) (id : TensorId),
      (∀ call ∈ before ++ after, call.Fits) → ∀ error,
      ((create Registry.default config).performAll
        (before ++ SessionCall.bindInput id other :: after)).run.2 = .error (.refused error) →
      ∀ context expected got, error.root ≠ .shapeMismatch context expected got) := by
  refine ⟨Tensor.accepts_iff_replaceBuffer, fun taken done => ?_, fun session id input held => ?_,
    fun sized config before after id fits error refused => ?_⟩
  · exact ⟨(Tensor.replaceBuffer_eq_ok.1 done).2, valid.valid_of_replaceBuffer done⟩
  · refine ⟨bindInput_eq_ok input held, fun bound => ?_⟩
    obtain ⟨taken, done⟩ := (bindInput_eq_ok input held).1 bound
    refine ⟨?_, fun bound operator reads writes inputs outputs fetchedInputs fetchedOutputs => ?_⟩
    · rw [tensor?_bindInput input held done, (Tensor.replaceBuffer_eq_ok.1 done).2]
    · have present := held_of_tensor? held
      rw [bindInput_replaced input held done]
      obtain ⟨inputs', fetchedInputs', inputsPass⟩ :=
        fetch_replaced present valid.sized done fetchedInputs
      obtain ⟨outputs', fetchedOutputs', outputsPass⟩ :=
        fetch_replaced present valid.sized done fetchedOutputs
      refine ⟨inputs', outputs', fetchedInputs', fetchedOutputs', ?_⟩
      rw [check_eq_ok, check_eq_ok, inputsPass, outputsPass, List.mem_append, or_imp]
      tauto
  · refine run_of_fits config (fun call member => ?_) refused
    rw [List.mem_append, List.mem_cons] at member
    obtain early | rfl | late := member
    · exact fits call (List.mem_append_left _ early)
    · exact sized
    · exact fits call (List.mem_append_right _ late)

def pair : Tensor := ⟨"x", ⟨[2]⟩, .any, none, .external, .f32 #[⟨0x3F800000⟩, ⟨0xC0000000⟩]⟩

def otherPair : Tensor := ⟨"z", ⟨[2]⟩, .any, none, .constant, .f32 #[⟨0x40000000⟩, ⟨0x3F800000⟩]⟩

def pairGraph : List SessionCall :=
  [.addTensor pair, .addTensor pair, .addOperator "relu" (.activation .relu) [0] [1],
    .setInputs [0], .setOutputs [1], .setup]

def pairSession : Session := (create Registry.default .standard).performAll pairGraph

theorem pairSession_input : 0 ∈ pairSession.inputs := by
  decide +kernel

theorem pairSession_held : pairSession.tensor? 0 = some pair := by
  rfl

theorem pair_valid : pair.Valid := by
  rfl

theorem pairGraph_fits : ∀ call ∈ pairGraph, call.Fits := by
  simp only [pairGraph, List.forall_mem_cons, SessionCall.Fits]
  exact ⟨pair_valid, pair_valid, trivial, trivial, trivial, trivial,
    fun _ impossible => by cases impossible⟩

theorem otherPair_is_bound :
    pair.Valid ∧ otherPair.Sized ∧ pair.signature.accepts otherPair = true ∧
      (pairSession.bindInput 0 otherPair).2 = .ok () ∧
      (pairSession.bindInput 0 otherPair).1.tensor? 0 =
        some { pair with buffer := otherPair.buffer } ∧
      Tensor.Valid { pair with buffer := otherPair.buffer } ∧
      ∀ error, ((create Registry.default .standard).performAll
        (pairGraph ++ [SessionCall.bindInput 0 otherPair])).run.2 = .error (.refused error) →
        ∀ context expected got, error.root ≠ .shapeMismatch context expected got := by
  obtain ⟨accepts, takes, binds, runs⟩ := takeovers_overlook_size pair_valid otherPair
  have sized : otherPair.Sized := by rfl
  have accepted : pair.signature.accepts otherPair = true := by rfl
  obtain ⟨⟨taken, done⟩, _⟩ := accepts.1 accepted
  obtain ⟨same, whole⟩ := takes taken done
  rw [same] at whole
  obtain ⟨bound, holds⟩ := binds pairSession 0 pairSession_input pairSession_held
  have boundHere := bound.2 ⟨taken, done⟩
  have fits : ∀ call ∈ pairGraph ++ [], call.Fits := by
    rw [List.append_nil]
    exact pairGraph_fits
  exact ⟨pair_valid, sized, accepted, boundHere, (holds boundHere).1, whole.2 sized,
    runs sized .standard pairGraph [] 0 fits⟩

def shortPair : Tensor := { pair with buffer := .f32 #[⟨0x3F800000⟩] }

/-- The short pair is bound though the signature refuses it. It spoils its slot, and the run after
it is refused for a signature that reads the same as the one asked for. -/
theorem shortPair_is_bound :
    pair.Valid ∧ 0 ∈ pairSession.inputs ∧ pairSession.tensor? 0 = some pair ∧
      pair.signature.accepts shortPair = false ∧
      pair.replaceBuffer shortPair = .ok shortPair ∧
      (pairSession.bindInput 0 shortPair).2 = .ok () ∧
      (pairSession.bindInput 0 shortPair).1.tensor? 0 = some shortPair ∧
      shortPair.validate = .error (.invalidDescriptor
        "'x': 2 elements of f32 need 8 bytes, buffer has 4") ∧
      (pairSession.bindInput 0 shortPair).1.run.2 = .error (.refused (.inOperator 0 "relu"
        (.shapeMismatch "'relu' input #0 was prepared as f32 any [2], got f32 any [2]"
          [2] [2]))) := by
  have replaced : pair.replaceBuffer shortPair = .ok shortPair := by rfl
  exact ⟨pair_valid, pairSession_input, pairSession_held, by rfl, replaced,
    (bindInput_eq_ok pairSession_input pairSession_held).2 ⟨_, replaced⟩,
    tensor?_bindInput pairSession_input pairSession_held replaced, by rfl, by decide +kernel⟩

end Session

end TensorRuntime
