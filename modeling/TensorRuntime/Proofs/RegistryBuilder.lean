import TensorRuntime.Proofs.Registration
import TensorRuntime.RegistryBuilder

/-!
What a builder keeps over every run of calls: its index names the entry of each key and nothing
else. A number that a call has returned therefore means the same for good, and the registry that is
built finds by searching what the builder found by its index.
-/

namespace TensorRuntime

namespace RegistryBuilder

variable {builder : RegistryBuilder} {key : KernelKey} {kernel : Kernel} {id : KernelId}

structure InStep (builder : RegistryBuilder) : Prop where
  distinct : (builder.entries.map Registry.Entry.key).Nodup
  indexed : ∀ key id, builder.index[key]? = some id ↔ builder.build.key? id = some key

def Denotes (builder : RegistryBuilder) (id : KernelId) (entry : Registry.Entry) : Prop :=
  builder.entries[id.index]? = some entry

theorem Denotes.mem {entry : Registry.Entry} (denotes : builder.Denotes id entry) :
    entry ∈ builder.entries :=
  List.mem_of_getElem? denotes

theorem denotes_build {entry : Registry.Entry} (denotes : builder.Denotes id entry) :
    builder.build.key? id = some entry.key ∧ builder.build.kernel? id = some entry.kernel := by
  unfold Denotes at denotes
  simp [build, Registry.key?, Registry.kernel?, denotes]

theorem denotes_of_key? (found : builder.build.key? id = some key) :
    ∃ entry, builder.Denotes id entry ∧ entry.key = key :=
  Option.map_eq_some_iff.1 found

theorem inStep_empty : empty.InStep where
  distinct := List.nodup_nil
  indexed key id := by simp [empty, build, Registry.key?]

namespace InStep

theorem denotes_of_index (step : builder.InStep) (found : builder.index[key]? = some id) :
    ∃ entry, builder.Denotes id entry ∧ entry.key = key :=
  denotes_of_key? ((step.indexed key id).1 found)

theorem index_of_denotes (step : builder.InStep) {entry : Registry.Entry}
    (denotes : builder.Denotes id entry) : builder.index[entry.key]? = some id :=
  (step.indexed _ id).2 (denotes_build denotes).1

theorem index_of_mem (step : builder.InStep) {entry : Registry.Entry}
    (member : entry ∈ builder.entries) :
    ∃ id, builder.index[entry.key]? = some id ∧ builder.Denotes id entry := by
  obtain ⟨place, found⟩ := List.mem_iff_getElem?.1 member
  exact ⟨⟨place⟩, step.index_of_denotes found, found⟩

theorem index_eq_none (step : builder.InStep) :
    builder.index[key]? = none ↔ ∀ entry ∈ builder.entries, entry.key ≠ key := by
  constructor
  · rintro absent entry member rfl
    obtain ⟨id, found, _⟩ := step.index_of_mem member
    cases absent.symm.trans found
  · intro unused
    cases found : builder.index[key]? with
    | none => rfl
    | some id =>
        obtain ⟨entry, denotes, same⟩ := step.denotes_of_index found
        exact absurd same (unused entry denotes.mem)

theorem unique (step : builder.InStep) {first second : Registry.Entry}
    (member : first ∈ builder.entries) (member' : second ∈ builder.entries)
    (same : first.key = second.key) : first = second :=
  List.inj_on_of_nodup_map step.distinct member member' same

theorem lookup_build (step : builder.InStep) (key : KernelKey) :
    builder.build.lookup key = builder.index[key]? := by
  cases found : builder.build.lookup key with
  | none =>
      rw [Registry.lookup, Option.map_eq_none_iff, List.findIdx?_eq_none_iff] at found
      exact (step.index_eq_none.2 fun entry member => by simpa using found entry member).symm
  | some id =>
      rw [Registry.lookup, Option.map_eq_some_iff] at found
      obtain ⟨place, first, rfl⟩ := found
      obtain ⟨bound, same, _⟩ := List.findIdx?_eq_some_iff_getElem.1 first
      obtain rfl : builder.build.entries[place].key = key := by simpa using same
      exact (step.index_of_denotes (List.getElem?_eq_getElem bound)).symm

end InStep

/-- The three things that a call can find, and what it then leaves and answers. -/
inductive Registers (builder : RegistryBuilder) (key : KernelKey) (kernel : Kernel) :
    RegistryBuilder × Attempt KernelId → Prop
  | fresh (unused : ∀ entry ∈ builder.entries, entry.key ≠ key) :
      Registers builder key kernel
        (⟨builder.entries ++ [⟨key, kernel⟩], builder.index.insert key ⟨builder.entries.length⟩⟩,
          .ok ⟨builder.entries.length⟩)
  | known (id : KernelId) (existing : Registry.Entry) (here : builder.Denotes id existing)
      (own : existing.key = key) (same : existing.kernel.signature = kernel.signature) :
      Registers builder key kernel (builder, .ok id)
  | conflict (id : KernelId) (existing : Registry.Entry) (here : builder.Denotes id existing)
      (own : existing.key = key) (other : existing.kernel.signature ≠ kernel.signature) :
      Registers builder key kernel
        (builder, Attempt.refuse (RegistryBuilder.conflict key existing.kernel kernel))

theorem register_cases (step : builder.InStep) (key : KernelKey) (kernel : Kernel) :
    Registers builder key kernel (builder.register key kernel) := by
  unfold register
  cases found : builder.index[key]? with
  | none => exact .fresh (step.index_eq_none.1 found)
  | some id =>
      obtain ⟨existing, here, own⟩ := step.denotes_of_index found
      have present : builder.entries[id.index]? = some existing := here
      simp only [present]
      split
      · rename_i same
        exact .known id existing here own same
      · rename_i other
        exact .conflict id existing here own other

theorem key?_append (builder : RegistryBuilder) (entry : Registry.Entry) :
    Registry.key? ⟨builder.entries ++ [entry]⟩ id = some key ↔
      builder.build.key? id = some key ∨ id.index = builder.entries.length ∧ entry.key = key := by
  unfold Registry.key? build
  rcases Nat.lt_trichotomy id.index builder.entries.length with below | here | above
  · rw [List.getElem?_append_left below]
    have apart : id.index ≠ builder.entries.length := by omega
    simp [apart]
  · rw [here, List.getElem?_concat_length]
    simp
  · have past : (builder.entries ++ [entry]).length ≤ id.index := by
      rw [List.length_append, List.length_singleton]
      omega
    have apart : id.index ≠ builder.entries.length := by omega
    simp [List.getElem?_eq_none past, List.getElem?_eq_none (Nat.le_of_lt above), apart]

theorem register_inStep (step : builder.InStep) (key : KernelKey) (kernel : Kernel) :
    (builder.register key kernel).1.InStep := by
  have answer := register_cases step key kernel
  generalize builder.register key kernel = result at answer ⊢
  cases answer with
  | known => exact step
  | conflict => exact step
  | fresh unused =>
      refine ⟨?_, fun other id => ?_⟩
      · rw [List.map_append, List.nodup_append]
        refine ⟨step.distinct, by simp, ?_⟩
        rintro _ member _ here rfl
        obtain ⟨entry, inside, same⟩ := List.mem_map.1 member
        exact unused entry inside (same.trans (by simpa using here))
      · rw [Std.HashMap.getElem?_insert]
        refine Iff.trans ?_ (key?_append builder ⟨key, kernel⟩).symm
        by_cases same : key = other
        · subst same
          have absent : ¬ builder.build.key? id = some key := by
            rw [← step.indexed, step.index_eq_none.2 unused]
            exact nofun
          obtain ⟨number⟩ := id
          simp [absent, eq_comm]
        · simp [same, step.indexed]

theorem register_keeps (step : builder.InStep) {entry : Registry.Entry}
    (denotes : builder.Denotes id entry) (key : KernelKey) (kernel : Kernel) :
    (builder.register key kernel).1.Denotes id entry := by
  have answer := register_cases step key kernel
  generalize builder.register key kernel = result at answer ⊢
  cases answer with
  | known => exact denotes
  | conflict => exact denotes
  | fresh unused =>
      have below : id.index < builder.entries.length := (List.getElem?_eq_some_iff.1 denotes).1
      exact (List.getElem?_append_left below).trans denotes

theorem register_denotes (step : builder.InStep)
    (done : (builder.register key kernel).2 = .ok id) :
    ∃ entry, (builder.register key kernel).1.Denotes id entry ∧ entry.key = key ∧
      entry.kernel.signature = kernel.signature := by
  have answer := register_cases step key kernel
  generalize builder.register key kernel = result at answer done ⊢
  cases answer with
  | fresh unused =>
      cases done
      exact ⟨⟨key, kernel⟩, List.getElem?_concat_length, rfl, rfl⟩
  | known id existing here own same =>
      cases done
      exact ⟨existing, here, own, same⟩
  | conflict => cases done

theorem register_refused (step : builder.InStep) {fault : Fault}
    (refused : (builder.register key kernel).2 = .error fault) :
    (builder.register key kernel).1 = builder ∧
      ∃ existing ∈ builder.entries, existing.key = key ∧
        existing.kernel.signature ≠ kernel.signature ∧
        fault = .refused (conflict key existing.kernel kernel) := by
  have answer := register_cases step key kernel
  generalize builder.register key kernel = result at answer refused ⊢
  cases answer with
  | fresh => cases refused
  | known => cases refused
  | conflict id existing here own other =>
      cases refused
      exact ⟨rfl, existing, here.mem, own, other, rfl⟩

theorem register_fresh (step : builder.InStep)
    (unused : ∀ existing ∈ builder.entries, existing.key ≠ key) :
    (builder.register key kernel).2 = .ok ⟨builder.entries.length⟩ ∧
      (builder.register key kernel).1.entries = builder.entries ++ [⟨key, kernel⟩] := by
  have answer := register_cases step key kernel
  generalize builder.register key kernel = result at answer ⊢
  cases answer with
  | fresh => exact ⟨rfl, rfl⟩
  | known id existing here own => exact absurd own (unused existing here.mem)
  | conflict id existing here own => exact absurd own (unused existing here.mem)

theorem register_known (step : builder.InStep) {existing : Registry.Entry}
    (denotes : builder.Denotes id existing)
    (same : existing.kernel.signature = kernel.signature) :
    builder.register existing.key kernel = (builder, .ok id) := by
  have present : builder.entries[id.index]? = some existing := denotes
  simp only [register, step.index_of_denotes denotes, present, same, if_true]

theorem register_conflicting (step : builder.InStep) {existing : Registry.Entry}
    (member : existing ∈ builder.entries)
    (other : existing.kernel.signature ≠ kernel.signature) :
    builder.register existing.key kernel =
      (builder, Attempt.refuse (conflict existing.key existing.kernel kernel)) := by
  obtain ⟨id, found, denotes⟩ := step.index_of_mem member
  have present : builder.entries[id.index]? = some existing := denotes
  simp only [register, found, present, other, if_false]

/-- A call on the builder is the call on the registry that it would build. -/
theorem register_build (step : builder.InStep) (key : KernelKey) (kernel : Kernel) :
    (builder.register key kernel).2 =
        Attempt.ofExcept (Prod.snd <$> builder.build.register key kernel) ∧
      ∀ registry id, builder.build.register key kernel = .ok (registry, id) →
        (builder.register key kernel).1.build = registry := by
  unfold Registry.register register
  rw [step.lookup_build]
  cases found : builder.index[key]? with
  | none =>
      refine ⟨rfl, fun registry id done => ?_⟩
      cases done
      rfl
  | some id =>
      obtain ⟨existing, here, own⟩ := step.denotes_of_index found
      have present : builder.entries[id.index]? = some existing := here
      simp only [(denotes_build here).2, present]
      split
      · refine ⟨rfl, fun registry id done => ?_⟩
        cases done
        rfl
      · refine ⟨rfl, fun registry id done => ?_⟩
        cases done

section Run

variable {calls : List Registry.Entry}

theorem registerEach_inStep (step : builder.InStep) : (builder.registerEach calls).1.InStep := by
  induction calls generalizing builder with
  | nil => exact step
  | cons call rest ih => exact ih (register_inStep step call.key call.kernel)

theorem registerEach_keeps (step : builder.InStep) {entry : Registry.Entry}
    (denotes : builder.Denotes id entry) : (builder.registerEach calls).1.Denotes id entry := by
  induction calls generalizing builder with
  | nil => exact denotes
  | cons call rest ih =>
      exact ih (register_inStep step call.key call.kernel)
        (register_keeps step denotes call.key call.kernel)

theorem registerEach_denotes (step : builder.InStep) {place : Nat}
    (returned : (builder.registerEach calls).2[place]? = some (.ok id)) :
    ∃ call entry, calls[place]? = some call ∧ entry.key = call.key ∧
      entry.kernel.signature = call.kernel.signature ∧
      ∀ count, place < count → (builder.registerEach (calls.take count)).1.Denotes id entry := by
  induction calls generalizing builder place with
  | nil => cases returned
  | cons call rest ih =>
      have next := register_inStep step call.key call.kernel
      cases place with
      | zero =>
          obtain ⟨entry, denotes, own, same⟩ := register_denotes step (Option.some.inj returned)
          refine ⟨call, entry, rfl, own, same, fun count bound => ?_⟩
          cases count with
          | zero => exact absurd bound (Nat.not_lt_zero _)
          | succ count => exact registerEach_keeps next denotes
      | succ place =>
          obtain ⟨other, entry, there, own, same, later⟩ := ih next returned
          refine ⟨other, entry, there, own, same, fun count bound => ?_⟩
          cases count with
          | zero => exact absurd bound (Nat.not_lt_zero _)
          | succ count => exact later count (Nat.lt_of_succ_lt_succ bound)

theorem inStep_after (calls : List Registry.Entry) : (after calls).InStep :=
  registerEach_inStep inStep_empty

end Run

/-- Whatever calls were made, refused ones among them: keys are distinct, the index and the built
registry find exactly the entry of a key, a call is refused exactly where another kernel holds
its key and then changes nothing, the same kernel is found again under its number, and a number
that any call returned keeps its key and kernel through every later call and in the registry. -/
theorem registrations_stay_in_step (calls : List Registry.Entry) :
    ((after calls).entries.map Registry.Entry.key).Nodup ∧
    (∀ key id, (after calls).index[key]? = some id ↔ (after calls).build.key? id = some key) ∧
    (∀ key, (after calls).build.lookup key = (after calls).index[key]?) ∧
    (∀ key kernel fault, ((after calls).register key kernel).2 = .error fault →
      ((after calls).register key kernel).1 = after calls ∧
      ∃ existing ∈ (after calls).entries, existing.key = key ∧
        fault = .refused (conflict key existing.kernel kernel)) ∧
    (∀ key kernel, (∃ fault, ((after calls).register key kernel).2 = .error fault) ↔
      ∃ existing ∈ (after calls).entries, existing.key = key ∧
        existing.kernel.signature ≠ kernel.signature) ∧
    (∀ id existing kernel, (after calls).Denotes id existing →
      existing.kernel.signature = kernel.signature →
      (after calls).register existing.key kernel = (after calls, .ok id)) ∧
    (∀ key kernel, (∀ existing ∈ (after calls).entries, existing.key ≠ key) →
      ((after calls).register key kernel).2 = .ok ⟨(after calls).entries.length⟩ ∧
      ((after calls).register key kernel).1.entries = (after calls).entries ++ [⟨key, kernel⟩]) ∧
    (∀ place id, (outcomes calls)[place]? = some (.ok id) →
      ∃ call entry, calls[place]? = some call ∧ entry.key = call.key ∧
        entry.kernel.signature = call.kernel.signature ∧
        ∀ count, place < count →
          (after (calls.take count)).Denotes id entry ∧
          (after (calls.take count)).build.key? id = some entry.key ∧
          (after (calls.take count)).build.kernel? id = some entry.kernel) ∧
    ∀ key kernel, ((after calls).register key kernel).2 =
        Attempt.ofExcept (Prod.snd <$> (after calls).build.register key kernel) ∧
      ∀ registry id, (after calls).build.register key kernel = .ok (registry, id) →
        ((after calls).register key kernel).1.build = registry := by
  have step := inStep_after calls
  refine ⟨step.distinct, step.indexed, step.lookup_build, ?_, ?_, ?_, ?_, ?_,
    register_build step⟩
  · intro key kernel fault refused
    obtain ⟨unchanged, existing, member, own, _, named⟩ := register_refused step refused
    exact ⟨unchanged, existing, member, own, named⟩
  · intro key kernel
    constructor
    · rintro ⟨fault, refused⟩
      obtain ⟨_, existing, member, own, other, _⟩ := register_refused step refused
      exact ⟨existing, member, own, other⟩
    · rintro ⟨existing, member, rfl, other⟩
      rw [register_conflicting step member other]
      exact ⟨_, rfl⟩
  · intro id existing kernel denotes same
    exact register_known step denotes same
  · intro key kernel unused
    exact register_fresh step unused
  · intro place id returned
    obtain ⟨call, entry, there, own, same, later⟩ := registerEach_denotes inStep_empty returned
    exact ⟨call, entry, there, own, same, fun count bound =>
      ⟨later count bound, denotes_build (later count bound)⟩⟩

end RegistryBuilder

end TensorRuntime
