import TensorRuntime.Proofs.RegistryBuilder
import TensorRuntime.Resolution

/-!
The order of registrations decides the numbers of kernels and nothing else. Calls succeed together
when no two of them want different kernels under one key, which says nothing about their order; then
each key leads to the kernel that was registered for it, and listings are sorted.
-/

namespace TensorRuntime

theorem OpKind.position_injective {first second : OpKind}
    (same : first.position = second.position) : first = second := by
  cases first <;> cases second <;> first | rfl | cases same

theorem ElementType.position_injective {first second : ElementType}
    (same : first.position = second.position) : first = second := by
  cases first <;> cases second <;> first | rfl | cases same

theorem Backend.position_injective {first second : Backend}
    (same : first.position = second.position) : first = second := by
  cases first <;> cases second <;> first | rfl | cases same

theorem ElementType.position_lt (elementType : ElementType) : elementType.position < 7 := by
  cases elementType <;> decide

theorem Backend.position_lt (backend : Backend) : backend.position < 5 := by
  cases backend <;> decide

namespace KernelKey

variable {first second : KernelKey}

def Before (first second : KernelKey) : Prop :=
  first.op.position < second.op.position ∨
    first.op.position = second.op.position ∧
      (first.elementType.position < second.elementType.position ∨
        first.elementType.position = second.elementType.position ∧
          first.backend.position < second.backend.position)

theorem before_iff_rank : first.Before second ↔ first.rank < second.rank := by
  have typeBound := first.elementType.position_lt
  have typeBound' := second.elementType.position_lt
  have backendBound := first.backend.position_lt
  have backendBound' := second.backend.position_lt
  unfold Before rank
  omega

theorem rank_injective (same : first.rank = second.rank) : first = second := by
  have typeBound := first.elementType.position_lt
  have typeBound' := second.elementType.position_lt
  have backendBound := first.backend.position_lt
  have backendBound' := second.backend.position_lt
  unfold rank at same
  have ops : first.op = second.op := OpKind.position_injective (by omega)
  have types : first.elementType = second.elementType :=
    ElementType.position_injective (by omega)
  have backends : first.backend = second.backend := Backend.position_injective (by omega)
  cases first
  cases second
  simp_all

end KernelKey

namespace Registry

variable {registry registry' : Registry}

section Listings

theorem mem_keys {key : KernelKey} :
    key ∈ registry.keys ↔ ∃ entry ∈ registry.entries, entry.key = key := by
  rw [keys, (List.mergeSort_perm _ _).mem_iff, List.mem_map]

theorem lookup_isSome_iff {key : KernelKey} :
    (registry.lookup key).isSome = true ↔ ∃ entry ∈ registry.entries, entry.key = key := by
  simp [lookup]

theorem keys_ascending (distinct : (registry.entries.map Entry.key).Nodup) :
    registry.keys.Pairwise KernelKey.Before := by
  have sorted : registry.keys.Pairwise fun first second =>
      decide (first.rank ≤ second.rank) = true :=
    List.pairwise_mergeSort
      (fun first second third => by simpa using Nat.le_trans)
      (fun first second => by simpa using Nat.le_total first.rank second.rank) _
  have apart : registry.keys.Pairwise (· ≠ ·) := (List.mergeSort_perm _ _).nodup_iff.2 distinct
  refine (sorted.and apart).imp fun {first second} ⟨least, other⟩ => ?_
  have different : first.rank ≠ second.rank := fun same => other (KernelKey.rank_injective same)
  have ordered : first.rank ≤ second.rank := of_decide_eq_true least
  exact KernelKey.before_iff_rank.2 (by omega)

theorem keys_of_same_members (distinct : (registry.entries.map Entry.key).Nodup)
    (distinct' : (registry'.entries.map Entry.key).Nodup)
    (same : ∀ key, key ∈ registry'.keys ↔ key ∈ registry.keys) :
    registry'.keys = registry.keys := by
  have once : registry.keys.Nodup := (List.mergeSort_perm _ _).nodup_iff.2 distinct
  have once' : registry'.keys.Nodup := (List.mergeSort_perm _ _).nodup_iff.2 distinct'
  refine List.Perm.eq_of_pairwise (fun first second _ _ before after => ?_)
    (keys_ascending distinct') (keys_ascending distinct)
    ((List.perm_ext_iff_of_nodup once' once).2 same)
  rw [KernelKey.before_iff_rank] at before after
  omega

theorem mem_capabilities {backend : Backend} {op : OpKind} {elementType : ElementType} :
    (op, elementType) ∈ registry.capabilities backend ↔
      ∃ entry ∈ registry.entries, entry.key = ⟨op, elementType, backend⟩ := by
  rw [capabilities, List.mem_map]
  constructor
  · rintro ⟨key, member, same⟩
    obtain ⟨listed, own⟩ := List.mem_filter.1 member
    cases same
    obtain rfl : key.backend = backend := by simpa using own
    exact mem_keys.1 listed
  · intro present
    exact ⟨⟨op, elementType, backend⟩, List.mem_filter.2 ⟨mem_keys.2 present, by simp⟩, rfl⟩

theorem capabilities_ascending (distinct : (registry.entries.map Entry.key).Nodup)
    (backend : Backend) :
    (registry.capabilities backend).Pairwise fun first second =>
      first.1.position < second.1.position ∨ first.1.position = second.1.position ∧
        first.2.position < second.2.position := by
  rw [capabilities, List.pairwise_map]
  refine ((keys_ascending distinct).filter _).imp_of_mem fun {first second} member member' => ?_
  have own : first.backend = backend := by simpa using (List.mem_filter.1 member).2
  have own' : second.backend = backend := by simpa using (List.mem_filter.1 member').2
  unfold KernelKey.Before
  rw [own, own']
  dsimp only
  omega

theorem mem_backendsFor {backend : Backend} {op : OpKind} {elementType : ElementType} :
    backend ∈ registry.backendsFor op elementType ↔
      ∃ entry ∈ registry.entries, entry.key = ⟨op, elementType, backend⟩ := by
  rw [backendsFor, List.mem_filter, lookup_isSome_iff]
  exact and_iff_right (Backend.mem_all backend)

theorem backendsFor_ascending (registry : Registry) (op : OpKind) (elementType : ElementType) :
    (registry.backendsFor op elementType).Pairwise fun first second =>
      first.position < second.position := by
  have sorted : Backend.all.Pairwise fun first second => first.position < second.position := by
    decide
  exact sorted.filter _

end Listings

section Alike

/-- Each key leads to the same kernel in both registries, or to none in either. -/
def Alike (registry registry' : Registry) : Prop :=
  ∀ key, (registry'.kernelFor key).map Kernel.signature =
    (registry.kernelFor key).map Kernel.signature

/-- Two answers of the resolver that differ in the number of the kernel at most. -/
inductive SameService (registry registry' : Registry) :
    Except Error Resolution → Except Error Resolution → Prop
  | served (resolution : Resolution) (id' : KernelId) (kernel kernel' : Kernel)
      (found : registry.kernel? resolution.kernel = some kernel)
      (found' : registry'.kernel? id' = some kernel')
      (same : kernel'.signature = kernel.signature) :
      SameService registry registry' (.ok resolution) (.ok { resolution with kernel := id' })
  | refused (error : Error) : SameService registry registry' (.error error) (.error error)

theorem Alike.lookup (alike : Alike registry registry') (key : KernelKey) :
    (registry.lookup key = none ∧ registry'.lookup key = none) ∨
    ∃ id id' kernel kernel', registry.lookup key = some id ∧ registry'.lookup key = some id' ∧
      registry.kernel? id = some kernel ∧ registry'.kernel? id' = some kernel' ∧
      kernel'.signature = kernel.signature := by
  have same := alike key
  unfold kernelFor at same
  cases found : registry.lookup key with
  | none =>
      cases found' : registry'.lookup key with
      | none => exact .inl ⟨rfl, rfl⟩
      | some id' =>
          obtain ⟨entry', _, _, here'⟩ := key_of_lookup found'
          simp [found, found', here'] at same
  | some id =>
      obtain ⟨entry, _, _, here⟩ := key_of_lookup found
      cases found' : registry'.lookup key with
      | none => simp [found, found', here] at same
      | some id' =>
          obtain ⟨entry', _, _, here'⟩ := key_of_lookup found'
          refine .inr ⟨id, id', entry.kernel, entry'.kernel, rfl, rfl, here, here', ?_⟩
          simpa [found, found', here, here'] using same

theorem Alike.choose (alike : Alike registry registry') (op : OpKind) (elementType : ElementType)
    (backend : Backend) (allowFallback : Bool) :
    (∃ error, registry.choose op elementType backend allowFallback = .error error ∧
      registry'.choose op elementType backend allowFallback = .error error) ∨
    ∃ id id' kernel kernel' path served,
      registry.choose op elementType backend allowFallback = .ok (id, path, served) ∧
      registry'.choose op elementType backend allowFallback = .ok (id', path, served) ∧
      registry.kernel? id = some kernel ∧ registry'.kernel? id' = some kernel' ∧
      kernel'.signature = kernel.signature := by
  unfold Registry.choose
  obtain ⟨absent, absent'⟩ | ⟨id, id', kernel, kernel', found, found', here, here', same⟩ :=
    alike.lookup ⟨op, elementType, backend⟩
  · rw [absent, absent']
    dsimp only
    split
    · obtain ⟨absent, absent'⟩ | ⟨id, id', kernel, kernel', found, found', here, here', same⟩ :=
        alike.lookup ⟨op, .f32, backend⟩
      · rw [absent, absent']
        exact .inl ⟨_, rfl, rfl⟩
      · rw [found, found']
        exact .inr ⟨id, id', kernel, kernel', _, _, rfl, rfl, here, here', same⟩
    · exact .inl ⟨_, rfl, rfl⟩
  · rw [found, found']
    exact .inr ⟨id, id', kernel, kernel', _, _, rfl, rfl, here, here', same⟩

theorem Alike.resolve (alike : Alike registry registry') (params : Params) (inputs : List Tensor)
    (backend : Backend) (allowFallback : Bool) :
    SameService registry registry' (registry.resolve params inputs backend allowFallback)
      (registry'.resolve params inputs backend allowFallback) := by
  unfold Registry.resolve
  cases classified : params.classify inputs with
  | error error => exact .refused error
  | ok op =>
      cases inputs with
      | nil => exact .refused _
      | cons input others =>
          simp only [bind, Except.bind]
          obtain ⟨error, refused, refused'⟩ |
            ⟨id, id', kernel, kernel', path, served, chosen, chosen', here, here', same⟩ :=
            alike.choose op input.elementType backend allowFallback
          · rw [refused, refused']
            exact .refused error
          · have name : kernel'.name = kernel.name := congrArg KernelSignature.name same
            have layouts : kernel'.layouts = kernel.layouts :=
              congrArg KernelSignature.layouts same
            have supported : kernel'.supports (requestedLayout input) =
                kernel.supports (requestedLayout input) := by
              unfold Kernel.supports
              rw [layouts]
            rw [chosen, chosen']
            dsimp only
            rw [here, here']
            dsimp only
            rw [supported, name, layouts]
            split
            · exact .served ⟨op, id, path, backend, requestedLayout input, served⟩ id' kernel
                kernel' here here' same
            · exact .refused _

end Alike

end Registry

namespace RegistryBuilder

variable {builder : RegistryBuilder} {calls : List Registry.Entry}

/-- No two of the calls want different kernels under one key. -/
def Consistent (calls : List Registry.Entry) : Prop :=
  ∀ first ∈ calls, ∀ second ∈ calls, first.key = second.key →
    first.kernel.signature = second.kernel.signature

def AllSucceed (outcomes : List (Attempt KernelId)) : Prop :=
  ∀ outcome ∈ outcomes, ∃ id, outcome = .ok id

theorem consistent_perm {calls' : List Registry.Entry} (order : calls.Perm calls') :
    Consistent calls ↔ Consistent calls' := by
  simp only [Consistent, order.mem_iff]

theorem consistent_insert_known {entries rest : List Registry.Entry}
    {call existing : Registry.Entry}
    (member : existing ∈ entries) (own : existing.key = call.key)
    (same : existing.kernel.signature = call.kernel.signature) :
    Consistent (entries ++ call :: rest) ↔ Consistent (entries ++ rest) := by
  have stands : ∀ item ∈ entries ++ call :: rest, ∃ other ∈ entries ++ rest,
      other.key = item.key ∧ other.kernel.signature = item.kernel.signature := by
    intro item listed
    by_cases here : item = call
    · exact ⟨existing, List.mem_append_left _ member, here ▸ own, here ▸ same⟩
    · exact ⟨item, by simpa [here] using listed, rfl, rfl⟩
  constructor
  · intro consistent first inside second inside'
    refine consistent first ?_ second ?_
    · exact (List.Sublist.append_left (List.sublist_cons_self call rest) entries).subset inside
    · exact (List.Sublist.append_left (List.sublist_cons_self call rest) entries).subset inside'
  · intro consistent first inside second inside' keys
    obtain ⟨other, there, key, signature⟩ := stands first inside
    obtain ⟨other', there', key', signature'⟩ := stands second inside'
    rw [← signature, ← signature']
    exact consistent other there other' there' (by rw [key, key', keys])

theorem allSucceed_cons {outcome : Attempt KernelId} {rest : List (Attempt KernelId)} :
    AllSucceed (outcome :: rest) ↔ (∃ id, outcome = .ok id) ∧ AllSucceed rest :=
  List.forall_mem_cons

/-- Calls succeed together exactly where they agree with each other and with what is there. -/
theorem registerEach_allSucceed (step : builder.InStep) :
    AllSucceed (builder.registerEach calls).2 ↔ Consistent (builder.entries ++ calls) := by
  induction calls generalizing builder with
  | nil =>
      rw [List.append_nil]
      refine iff_of_true nofun fun first member second member' same => ?_
      rw [step.unique member member' same]
  | cons call rest ih =>
      rw [registerEach, allSucceed_cons, ih (register_inStep step call.key call.kernel)]
      have answer := register_cases step call.key call.kernel
      generalize builder.register call.key call.kernel = result at answer ⊢
      cases answer with
      | fresh unused =>
          rw [List.append_assoc]
          exact and_iff_right ⟨_, rfl⟩
      | known id existing here own same =>
          rw [consistent_insert_known here.mem own same]
          exact and_iff_right ⟨id, rfl⟩
      | conflict id existing here own other =>
          refine iff_of_false (fun ⟨⟨id, impossible⟩, _⟩ => by cases impossible) fun agree => ?_
          exact other (agree existing (List.mem_append_left _ here.mem) call (by simp) own)

theorem outcomes_allSucceed (calls : List Registry.Entry) :
    AllSucceed (outcomes calls) ↔ Consistent calls :=
  registerEach_allSucceed inStep_empty

theorem register_keys (step : builder.InStep) (call : Registry.Entry) (key : KernelKey) :
    (∃ entry ∈ (builder.register call.key call.kernel).1.entries, entry.key = key) ↔
      (∃ entry ∈ builder.entries, entry.key = key) ∨ call.key = key := by
  have answer := register_cases step call.key call.kernel
  generalize builder.register call.key call.kernel = result at answer ⊢
  cases answer with
  | fresh unused => simp [or_and_right, exists_or]
  | known id existing here own same =>
      exact (or_iff_left_of_imp fun this => ⟨existing, here.mem, own.trans this⟩).symm
  | conflict id existing here own other =>
      exact (or_iff_left_of_imp fun this => ⟨existing, here.mem, own.trans this⟩).symm

theorem registerEach_keys (step : builder.InStep) (key : KernelKey) :
    (∃ entry ∈ (builder.registerEach calls).1.entries, entry.key = key) ↔
      (∃ entry ∈ builder.entries, entry.key = key) ∨ ∃ call ∈ calls, call.key = key := by
  induction calls generalizing builder with
  | nil => simp [registerEach]
  | cons call rest ih =>
      rw [registerEach, ih (register_inStep step call.key call.kernel), register_keys step call key,
        List.exists_mem_cons_iff, or_assoc]

theorem keys_after (calls : List Registry.Entry) (key : KernelKey) :
    (∃ entry ∈ (after calls).build.entries, entry.key = key) ↔ ∃ call ∈ calls, call.key = key :=
  (registerEach_keys inStep_empty key).trans (or_iff_right (by simp [empty]))

theorem length_registerEach (builder : RegistryBuilder) (calls : List Registry.Entry) :
    (builder.registerEach calls).2.length = calls.length := by
  induction calls generalizing builder with
  | nil => rfl
  | cons call rest ih => simp [registerEach, ih]

/-- Where all calls succeed, each key leads to the kernel that was registered for it. -/
theorem kernelFor_after (succeed : AllSucceed (outcomes calls)) {key : KernelKey}
    {signature : KernelSignature} :
    ((after calls).build.kernelFor key).map Kernel.signature = some signature ↔
      ∃ call ∈ calls, call.key = key ∧ call.kernel.signature = signature := by
  have step := inStep_after calls
  have served : ∀ call ∈ calls, ((after calls).build.kernelFor call.key).map Kernel.signature =
      some call.kernel.signature := by
    intro call member
    obtain ⟨place, there⟩ := List.mem_iff_getElem?.1 member
    have bound : place < (outcomes calls).length := by
      rw [outcomes, length_registerEach]
      exact (List.getElem?_eq_some_iff.1 there).1
    obtain ⟨id, done⟩ := succeed _ (List.getElem_mem bound)
    have returned : (outcomes calls)[place]? = some (.ok id) := by
      rw [List.getElem?_eq_getElem bound, done]
    obtain ⟨other, entry, here, own, same, later⟩ := registerEach_denotes inStep_empty returned
    cases here.symm.trans there
    have denotes : (after calls).Denotes id entry := by
      have last := later calls.length (List.getElem?_eq_some_iff.1 there).1
      rwa [List.take_length] at last
    have found := step.index_of_denotes denotes
    rw [own, ← step.lookup_build] at found
    rw [Registry.kernelFor, found, Option.bind_some, (denotes_build denotes).2, Option.map_some,
      same]
  constructor
  · intro found
    have present : ((after calls).build.lookup key).isSome = true := by
      cases absent : (after calls).build.lookup key with
      | none => simp [Registry.kernelFor, absent] at found
      | some id => rfl
    obtain ⟨call, member, rfl⟩ := (keys_after calls key).1 (Registry.lookup_isSome_iff.1 present)
    exact ⟨call, member, rfl, Option.some.inj ((served call member).symm.trans found)⟩
  · rintro ⟨call, member, rfl, rfl⟩
    exact served call member

theorem alike_of_perm {calls' : List Registry.Entry} (order : calls.Perm calls')
    (succeed : AllSucceed (outcomes calls)) :
    Registry.Alike (after calls).build (after calls').build := by
  have succeed' : AllSucceed (outcomes calls') := by
    rw [outcomes_allSucceed, ← consistent_perm order, ← outcomes_allSucceed]
    exact succeed
  intro key
  refine Option.ext fun signature => ?_
  rw [kernelFor_after succeed', kernelFor_after succeed]
  simp only [order.mem_iff]

/-- Registrations made in another order succeed together or not together. If they do, the
registries serve every key by the same kernel, list the same keys, capabilities and
backends, sorted and once each and just those registered, and resolve every call alike. -/
theorem registration_order_is_immaterial {calls calls' : List Registry.Entry}
    (order : calls.Perm calls') :
    (AllSucceed (outcomes calls) ↔ AllSucceed (outcomes calls')) ∧
    (AllSucceed (outcomes calls) →
      (∀ key, ((after calls').build.kernelFor key).map Kernel.signature =
        ((after calls).build.kernelFor key).map Kernel.signature) ∧
      (∀ call ∈ calls, ((after calls).build.kernelFor call.key).map Kernel.signature =
        some call.kernel.signature) ∧
      ((after calls').build.keys = (after calls).build.keys ∧
        (after calls).build.keys.Pairwise KernelKey.Before ∧
        ∀ key, key ∈ (after calls).build.keys ↔ ∃ call ∈ calls, call.key = key) ∧
      (∀ backend, (after calls').build.capabilities backend =
          (after calls).build.capabilities backend ∧
        ((after calls).build.capabilities backend).Pairwise (fun first second =>
          first.1.position < second.1.position ∨ first.1.position = second.1.position ∧
            first.2.position < second.2.position) ∧
        ∀ op elementType, (op, elementType) ∈ (after calls).build.capabilities backend ↔
          ∃ call ∈ calls, call.key = ⟨op, elementType, backend⟩) ∧
      (∀ op elementType, (after calls').build.backendsFor op elementType =
          (after calls).build.backendsFor op elementType ∧
        ((after calls).build.backendsFor op elementType).Pairwise (fun first second =>
          first.position < second.position) ∧
        ∀ backend, backend ∈ (after calls).build.backendsFor op elementType ↔
          ∃ call ∈ calls, call.key = ⟨op, elementType, backend⟩) ∧
      ∀ params inputs backend allowFallback,
        Registry.SameService (after calls).build (after calls').build
          ((after calls).build.resolve params inputs backend allowFallback)
          ((after calls').build.resolve params inputs backend allowFallback)) := by
  have distinct := (inStep_after calls).distinct
  have distinct' := (inStep_after calls').distinct
  have keys : (after calls').build.keys = (after calls).build.keys := by
    refine Registry.keys_of_same_members distinct distinct' fun key => ?_
    rw [Registry.mem_keys, Registry.mem_keys, keys_after, keys_after]
    simp only [order.mem_iff]
  refine ⟨?_, fun succeed => ?_⟩
  · rw [outcomes_allSucceed, outcomes_allSucceed, consistent_perm order]
  · have alike := alike_of_perm order succeed
    refine ⟨alike, fun call member => (kernelFor_after succeed).2 ⟨call, member, rfl, rfl⟩,
      ⟨keys, Registry.keys_ascending distinct, fun key => ?_⟩, fun backend => ⟨?_,
        Registry.capabilities_ascending distinct backend, fun op elementType => ?_⟩,
      fun op elementType => ⟨?_, Registry.backendsFor_ascending _ op elementType,
        fun backend => ?_⟩, alike.resolve⟩
    · rw [Registry.mem_keys, keys_after]
    · rw [Registry.capabilities, keys, Registry.capabilities]
    · rw [Registry.mem_capabilities, keys_after]
    · refine List.filter_congr fun backend _ => ?_
      rw [Bool.eq_iff_iff, Registry.lookup_isSome_iff, Registry.lookup_isSome_iff, keys_after,
        keys_after]
      simp only [order.mem_iff]
    · rw [Registry.mem_backendsFor, keys_after]

def reluAndSum : List Registry.Entry :=
  [⟨⟨.relu, .f32, .reference⟩, activationKernel⟩, ⟨⟨.relu, .f32, .reference⟩, activationKernel⟩,
    ⟨⟨.add, .f32, .reference⟩, binaryKernel⟩]

def sumAndRelu : List Registry.Entry :=
  [⟨⟨.add, .f32, .reference⟩, binaryKernel⟩, ⟨⟨.relu, .f32, .reference⟩, activationKernel⟩,
    ⟨⟨.relu, .f32, .reference⟩, activationKernel⟩]

theorem entries_of_reluAndSum : (after reluAndSum).entries =
    [⟨⟨.relu, .f32, .reference⟩, activationKernel⟩, ⟨⟨.add, .f32, .reference⟩, binaryKernel⟩] := by
  simp [reluAndSum, after, registerEach, register, empty]

theorem entries_of_sumAndRelu : (after sumAndRelu).entries =
    [⟨⟨.add, .f32, .reference⟩, binaryKernel⟩, ⟨⟨.relu, .f32, .reference⟩, activationKernel⟩] := by
  simp [sumAndRelu, after, registerEach, register, empty]

/-- The numbers differ, the listings do not. -/
theorem sumAndRelu_lists_like_reluAndSum :
    reluAndSum.Perm sumAndRelu ∧ AllSucceed (outcomes reluAndSum) ∧
      AllSucceed (outcomes sumAndRelu) ∧
      (after sumAndRelu).build.keys = (after reluAndSum).build.keys ∧
      (after reluAndSum).build.lookup ⟨.add, .f32, .reference⟩ = some ⟨1⟩ ∧
      (after sumAndRelu).build.lookup ⟨.add, .f32, .reference⟩ = some ⟨0⟩ := by
  have order : reluAndSum.Perm sumAndRelu :=
    (List.Perm.cons _ (List.Perm.swap _ _ _)).trans (List.Perm.swap _ _ _)
  have succeed : AllSucceed (outcomes reluAndSum) := by
    rw [outcomes_allSucceed]
    simp [Consistent, reluAndSum]
  obtain ⟨together, results⟩ := registration_order_is_immaterial order
  refine ⟨order, succeed, together.1 succeed, (results succeed).2.2.1.1, ?_, ?_⟩
  · rw [build, entries_of_reluAndSum]
    rfl
  · rw [build, entries_of_sumAndRelu]
    rfl

end RegistryBuilder

end TensorRuntime
