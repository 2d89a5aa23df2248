import TensorRuntime.Proofs.Kernel.ImageCalls
import TensorRuntime.Proofs.Operator.Planning

/-!
Which entry of the table serves a call. Resolution finds the entry under the call's own
element type and, only where there is none, the one for singles; what it answers depends
on the extents, element types and layouts of the inputs alone.
-/

namespace TensorRuntime

open Attempt

/-- What resolution looks at in a tensor. -/
def Tensor.facet (tensor : Tensor) : List Nat × ElementType × Layout :=
  (tensor.dims, tensor.elementType, tensor.layout)

theorem Tensor.outlines_of_facets {tensors tensors' : List Tensor}
    (same : tensors'.map facet = tensors.map facet) :
    tensors'.map outline = tensors.map outline := by
  let sketch (facet : List Nat × ElementType × Layout) : Tensor :=
    ⟨"", ⟨facet.1⟩, facet.2.2, none, .external, .f32 #[]⟩
  have through := congrArg (fun facets => facets.map sketch) same
  rw [List.map_map, List.map_map] at through
  exact through

theorem ElementType.isLowPrecision_iff {elementType : ElementType} :
    elementType.isLowPrecision = true ↔
      elementType = .i8 ∨ elementType = .u8 ∨ elementType = .i16 := by
  cases elementType <;> simp [isLowPrecision]

namespace Registry

variable {registry : Registry} {key : KernelKey} {id : KernelId} {kernel : Kernel}

def Holds (registry : Registry) (key : KernelKey) (id : KernelId) (kernel : Kernel) : Prop :=
  registry.entries[id.index]? = some ⟨key, kernel⟩ ∧
    ∀ place < id.index, registry.key? ⟨place⟩ ≠ some key

theorem Holds.kernel? (held : registry.Holds key id kernel) :
    registry.kernel? id = some kernel := by
  rw [Registry.kernel?, held.1]
  rfl

theorem Holds.key? (held : registry.Holds key id kernel) : registry.key? id = some key := by
  rw [Registry.key?, held.1]
  rfl

theorem lookup_eq_some_iff :
    registry.lookup key = some id ↔ ∃ kernel, registry.Holds key id kernel := by
  unfold lookup Holds key?
  rw [Option.map_eq_some_iff]
  constructor
  · rintro ⟨place, first, rfl⟩
    obtain ⟨bound, same, earlier⟩ := List.findIdx?_eq_some_iff_getElem.1 first
    rw [beq_iff_eq] at same
    refine ⟨registry.entries[place].kernel, ?_, fun other before found => ?_⟩
    · rw [List.getElem?_eq_getElem bound, ← same]
    · obtain ⟨entry, there, own⟩ := Option.map_eq_some_iff.1 found
      obtain ⟨inside, rfl⟩ := List.getElem?_eq_some_iff.1 there
      simpa [own] using earlier other before
  · rintro ⟨kernel, here, first⟩
    obtain ⟨bound, own⟩ := List.getElem?_eq_some_iff.1 here
    refine ⟨id.index, List.findIdx?_eq_some_iff_getElem.2 ⟨bound, by rw [own]; simp, ?_⟩, rfl⟩
    intro other before
    have apart := first other before
    have inside : other < registry.entries.length := by omega
    rw [List.getElem?_eq_getElem inside, Option.map_some, ne_eq, Option.some.injEq] at apart
    simpa using apart

theorem Holds.lookup (held : registry.Holds key id kernel) : registry.lookup key = some id :=
  lookup_eq_some_iff.2 ⟨kernel, held⟩

theorem holds_of_lookup (found : registry.lookup key = some id)
    (own : registry.kernel? id = some kernel) : registry.Holds key id kernel := by
  obtain ⟨held, holds⟩ := lookup_eq_some_iff.1 found
  rw [holds.kernel?] at own
  rwa [← Option.some.inj own]

theorem lookup_eq_none_iff :
    registry.lookup key = none ↔ ∀ entry ∈ registry.entries, entry.key ≠ key := by
  rw [lookup, Option.map_eq_none_iff, List.findIdx?_eq_none_iff]
  simp

/-- Which entry serves an operator on an element type: its own, and only without one, where that
is allowed, the one for singles. -/
inductive Serves (registry : Registry) (op : OpKind) (given : ElementType) (backend : Backend)
    (allowFallback : Bool) : KernelId → Kernel → DispatchPath → ElementType → Prop
  | native {id : KernelId} {kernel : Kernel}
      (held : registry.Holds ⟨op, given, backend⟩ id kernel) :
      Serves registry op given backend allowFallback id kernel .native given
  | fallback {id : KernelId} {kernel : Kernel}
      (missing : ∀ entry ∈ registry.entries, entry.key ≠ ⟨op, given, backend⟩)
      (low : given = .i8 ∨ given = .u8 ∨ given = .i16) (allowed : allowFallback = true)
      (held : registry.Holds ⟨op, .f32, backend⟩ id kernel) :
      Serves registry op given backend allowFallback id kernel .quantFallback .f32

section Choosing

variable {op : OpKind} {given elementType : ElementType} {backend : Backend}
  {allowFallback : Bool} {path : DispatchPath}

theorem Serves.kernel? (serves : registry.Serves op given backend allowFallback id kernel path
    elementType) : registry.kernel? id = some kernel := by
  cases serves with
  | native held => exact held.kernel?
  | fallback _ _ _ held => exact held.kernel?

theorem serves_iff : registry.Serves op given backend allowFallback id kernel path elementType ↔
    registry.choose op given backend allowFallback = .ok (id, path, elementType) ∧
      registry.kernel? id = some kernel := by
  constructor
  · intro serves
    refine ⟨?_, serves.kernel?⟩
    unfold choose
    cases serves with
    | native held => rw [held.lookup]
    | fallback missing low allowed held =>
        rw [lookup_eq_none_iff.2 missing, ElementType.isLowPrecision_iff.2 low, allowed,
          held.lookup]
        rfl
  · rintro ⟨chosen, own⟩
    unfold choose at chosen
    split at chosen
    · rename_i found
      cases chosen
      exact .native (holds_of_lookup found own)
    · rename_i missing
      split at chosen
      · rename_i both
        obtain ⟨low, allowed⟩ := Bool.and_eq_true_iff.1 both
        split at chosen
        · rename_i found
          cases chosen
          exact .fallback (lookup_eq_none_iff.1 missing) (ElementType.isLowPrecision_iff.1 low)
            allowed (holds_of_lookup found own)
        · cases chosen
      · cases chosen

/-- Resolution answers for the first input, its kind of operator and the entry that serves it,
provided that the entry takes the layout of the input. -/
theorem resolve_eq_ok_iff {params : Params} {inputs : List Tensor} {requested : Resolution} :
    registry.resolve params inputs backend allowFallback = .ok requested ↔
      ∃ input others op id kernel path elementType,
        inputs = input :: others ∧ params.classify inputs = .ok op ∧
        registry.Serves op input.elementType backend allowFallback id kernel path elementType ∧
        kernel.supports (requestedLayout input) = true ∧
        requested = ⟨op, id, path, backend, requestedLayout input, elementType⟩ := by
  rw [resolve_eq_ok]
  constructor
  · rintro ⟨op, input, others, id, path, elementType, kernel, classified, given, chosen, own,
      supported, answer⟩
    exact ⟨input, others, op, id, kernel, path, elementType, given, classified,
      serves_iff.2 ⟨chosen, own⟩, supported, answer⟩
  · rintro ⟨input, others, op, id, kernel, path, elementType, given, classified, serves, supported,
      answer⟩
    obtain ⟨chosen, own⟩ := serves_iff.1 serves
    exact ⟨op, input, others, id, path, elementType, kernel, classified, given, chosen, own,
      supported, answer⟩

theorem key_of_resolve {params : Params} {inputs : List Tensor} {requested : Resolution}
    (resolved : registry.resolve params inputs backend allowFallback = .ok requested) :
    registry.key? requested.kernel =
      some ⟨requested.op, requested.elementType, requested.backend⟩ := by
  obtain ⟨_, _, _, _, _, _, _, _, _, serves, _, rfl⟩ := resolve_eq_ok_iff.1 resolved
  cases serves with
  | native held => exact held.key?
  | fallback _ _ _ held => exact held.key?

theorem resolve_of_unsupported {params : Params} {input : Tensor} {others : List Tensor}
    (classified : params.classify (input :: others) = .ok op)
    (serves : registry.Serves op input.elementType backend allowFallback id kernel path elementType)
    (unsupported : kernel.supports (requestedLayout input) = false) :
    registry.resolve params (input :: others) backend allowFallback =
      .error (.unsupportedLayout (requestedLayout input)
        (kernel.name ++ " (" ++ op.name ++ ", " ++ elementType.name ++ ", " ++ backend.name ++
          ") accepts " ++ Kernel.layoutsText kernel.layouts)) := by
  obtain ⟨chosen, own⟩ := serves_iff.1 serves
  unfold resolve
  simp only [classified, chosen, own, bind, Except.bind, unsupported, Bool.false_eq_true, if_false]
  rfl

theorem requestedLayout_of_facet {input input' : Tensor} (same : input'.facet = input.facet) :
    requestedLayout input' = requestedLayout input := by
  simp only [Tensor.facet, Prod.mk.injEq] at same
  unfold requestedLayout
  rw [same.1, same.2.2]

theorem resolve_of_facets {params : Params} {inputs inputs' : List Tensor} {requested : Resolution}
    (same : inputs'.map Tensor.facet = inputs.map Tensor.facet)
    (resolved : registry.resolve params inputs backend allowFallback = .ok requested) :
    registry.resolve params inputs' backend allowFallback = .ok requested := by
  obtain ⟨input, others, op, id, kernel, path, elementType, rfl, classified, serves, supported,
    rfl⟩ := resolve_eq_ok_iff.1 resolved
  obtain ⟨input', others', rfl, facet, _⟩ := List.map_eq_cons_iff.1 same
  have layout := requestedLayout_of_facet facet
  have own : input'.elementType = input.elementType := congrArg (·.2.1) facet
  refine resolve_eq_ok_iff.2 ⟨input', others', op, id, kernel, path, elementType, rfl,
    Params.classify_of_outlines (Tensor.outlines_of_facets same) classified, ?_, ?_, ?_⟩
  · rwa [own]
  · rwa [layout]
  · rw [layout]

theorem toOption_resolve_of_facets {params : Params} {inputs inputs' : List Tensor}
    (same : inputs'.map Tensor.facet = inputs.map Tensor.facet) :
    (registry.resolve params inputs' backend allowFallback).toOption =
      (registry.resolve params inputs backend allowFallback).toOption := by
  apply Option.ext
  intro requested
  rw [toOption_eq_some, toOption_eq_some]
  exact ⟨resolve_of_facets same.symm, resolve_of_facets same⟩

end Choosing

end Registry

structure ConvParams.Kind (settings : ConvParams) (channels : Nat) (weightDims : List Nat)
    (op : OpKind) : Prop where
  plain : op = .conv2d ↔ settings.groups = 1
  depthwise : op = .depthwiseConv2d ↔ settings.groups = channels ∧ 1 < channels
  grouped : op = .groupedConv2d ↔ settings.groups ≠ 1 ∧ settings.groups ≠ channels
  multiplies : op = .depthwiseConv2d →
    weightDims[1]? = some 1 ∧ ∃ outChannels, weightDims[0]? = some outChannels ∧
      channels ∣ outChannels

/-- What shape inference accepts as a convolution is classified, by its number of groups. -/
theorem ConvParams.classify_of_outputShape {settings : ConvParams} {inputs : List Tensor}
    {shape : Shape} (inferred : (Params.conv2d settings).outputShape inputs = .ok shape) :
    ∃ input weights others image op, inputs = input :: weights :: others ∧
      ImageDims.ofTensor input = .ok image ∧ (Params.conv2d settings).classify inputs = .ok op ∧
      settings.Kind image.channels weights.dims op := by
  obtain ⟨input, others, rfl, _, _, own⟩ := Params.outputShape_eq_ok.1 inferred
  obtain ⟨weights, rest, rfl, fits⟩ := Params.weights_of_conv2d own
  obtain ⟨image, outPerGroup, perGroup, kernelHeight, kernelWidth, _, _, read, dims, grouped,
    channels, _⟩ := convOutputShape_eq_ok fits
  have positive : 0 < settings.groups := Nat.pos_of_ne_zero grouped
  have split : image.channels % settings.groups = 0 ∧
      image.channels / settings.groups = perGroup := by
    rw [channels]
    exact ⟨Nat.mul_mod_right _ _, Nat.mul_div_cancel_left _ positive⟩
  refine ⟨input, weights, rest, image, if settings.groups = 1 then .conv2d
    else if settings.groups = image.channels then .depthwiseConv2d else .groupedConv2d, rfl, read,
    ?_, ?_⟩
  · refine classify_eq_ok.2 ⟨image, read, ⟨grouped, split.1⟩, ?_, rfl⟩
    rw [dims, split.2]
    exact ⟨rfl, rfl⟩
  · have apart : settings.groups = image.channels → settings.groups ≠ 1 → 1 < image.channels := by
      omega
    have alone : settings.groups = image.channels → perGroup = 1 := fun same =>
      Nat.eq_of_mul_eq_mul_left positive (by rw [← channels, ← same, Nat.mul_one])
    by_cases one : settings.groups = 1
    · rw [if_pos one]
      exact ⟨by simp [one], by simp; omega, by simp [one], by simp⟩
    · rw [if_neg one]
      by_cases each : settings.groups = image.channels
      · rw [if_pos each]
        refine ⟨by simp [one], ?_, by simp [each], fun _ => ?_⟩
        · simpa [each] using apart each one
        · rw [dims, alone each, ← each]
          exact ⟨rfl, _, rfl, Nat.dvd_mul_right _ _⟩
      · rw [if_neg each]
        exact ⟨by simp [one], by simp [each], by simp [one, each], by simp⟩

/-- A call resolves exactly where its first input, its kind of operator and the entry that serves
them agree on a layout; an entry that does not take the layout is never passed over for another.
Nothing but extents, element types and layouts decides this, and a convolution that shape inference
accepts always has a kind. -/
theorem Registry.resolves_where_served (registry : Registry) (params : Params)
    (inputs : List Tensor) (backend : Backend) (allowFallback : Bool) :
    (∀ requested, registry.resolve params inputs backend allowFallback = .ok requested ↔
      ∃ input others op id kernel path elementType,
        inputs = input :: others ∧ params.classify inputs = .ok op ∧
        registry.Serves op input.elementType backend allowFallback id kernel path elementType ∧
        kernel.supports (requestedLayout input) = true ∧
        requested = ⟨op, id, path, backend, requestedLayout input, elementType⟩) ∧
    (∀ input others op id kernel path elementType,
      inputs = input :: others → params.classify inputs = .ok op →
      registry.Serves op input.elementType backend allowFallback id kernel path elementType →
      kernel.supports (requestedLayout input) = false →
      registry.resolve params inputs backend allowFallback =
        .error (.unsupportedLayout (requestedLayout input)
          (kernel.name ++ " (" ++ op.name ++ ", " ++ elementType.name ++ ", " ++ backend.name ++
            ") accepts " ++ Kernel.layoutsText kernel.layouts))) ∧
    (∀ inputs', inputs'.map Tensor.facet = inputs.map Tensor.facet →
      (registry.resolve params inputs' backend allowFallback).toOption =
        (registry.resolve params inputs backend allowFallback).toOption) ∧
    ∀ settings shape, params = .conv2d settings → params.outputShape inputs = .ok shape →
      ∃ input weights others image op, inputs = input :: weights :: others ∧
        ImageDims.ofTensor input = .ok image ∧ params.classify inputs = .ok op ∧
        settings.Kind image.channels weights.dims op := by
  refine ⟨fun requested => resolve_eq_ok_iff, ?_, fun inputs' => toOption_resolve_of_facets, ?_⟩
  · rintro input others op id kernel path elementType rfl classified serves unsupported
    exact resolve_of_unsupported classified serves unsupported
  · rintro settings shape rfl inferred
    exact ConvParams.classify_of_outputShape inferred

end TensorRuntime
