import TensorRuntime.Proofs.Kernel.Movement
import TensorRuntime.Proofs.PackedBits

/-!
Gathering elements of any type. What is gathered is read back at its place, a truth value as the
bit that it was, and a gathering tells nothing of its source but the elements that it reads.
-/

namespace TensorRuntime

open Attempt

/-- One element as a buffer stores it. -/
inductive Entry where
  | single (value : Single)
  | half (value : Half)
  | stored (value : Int)
  | truth (value : Bool)

namespace Buffer

def entryAt? : Buffer → Nat → Option Entry
  | f32 values, position => values[position]?.map .single
  | f16 values, position => values[position]?.map .half
  | i8 values, position => values[position]?.map fun value => .stored value.toInt
  | u8 values, position => values[position]?.map fun value => .stored value.toNat
  | i16 values, position => values[position]?.map fun value => .stored value.toInt
  | i32 values, position => values[position]?.map fun value => .stored value.toInt
  | bool packed, position => (bitAt? packed position).map .truth

theorem entryAt?_stored {buffer : Buffer} {stored : Array Int}
    (held : buffer.integers? = some stored) (position : Nat) :
    buffer.entryAt? position = stored[position]?.map .stored := by
  cases buffer with
  | f32 | f16 | bool => cases held
  | i8 | u8 | i16 | i32 =>
      cases held
      rw [Array.getElem?_map, Option.map_map]
      rfl

section Bits

variable {packed : Array UInt8}

theorem gatherBits_ok (old : Array UInt8) {sources : List Nat}
    (inside : ∀ source ∈ sources, source / 8 < packed.size)
    (room : sources.length ≤ 8 * old.size) :
    ∃ moved, gatherBits packed old sources = .ok moved ∧
      ∀ place source : Nat, sources[place]? = some source →
        bitAt? moved place = bitAt? packed source := by
  let bit (source : Nat) : Bool := (bitAt? packed source).getD false
  have held : ∀ source ∈ sources, bitAt? packed source = some (bit source) := by
    intro source member
    simp only [bit, bitAt?_of_lt (inside source member), Option.getD_some]
  have read : sources.mapM (readBit packed) = .ok (sources.map bit) :=
    mapM_of_ok fun source member => readBit_of_bitAt? (held source member)
  have fits : (sources.map bit).length ≤ 8 * old.size := by simpa using room
  obtain ⟨moved, wrote⟩ := (safe_writeBits fits).exists_ok (unrefused_writeBits old _)
  refine ⟨moved, bind_eq_ok.2 ⟨_, read, wrote⟩, fun place source listed => ?_⟩
  obtain ⟨bound, _⟩ := List.getElem?_eq_some_iff.1 listed
  have inBytes : place / 8 < old.size := by omega
  rw [bitAt?_writeBits wrote inBytes, List.getElem?_map, listed,
    held source (List.mem_of_getElem? listed)]
  rfl

end Bits

section Gather

variable {values : Buffer} {sources : List Nat}

theorem exists_entry {count : Nat}
    (sized : values.byteCount = values.elementType.storageBytes count) {position : Nat}
    (bound : position < count) : ∃ entry, values.entryAt? position = some entry := by
  cases values with
  | f32 values | f16 values | i8 values | u8 values | i16 values | i32 values =>
      simp only [byteCount, elementType, ElementType.storageBytes,
        ElementType.elementSize?] at sized
      have inside : position < values.size := by omega
      exact ⟨_, congrArg (Option.map _) (Array.getElem?_eq_getElem inside)⟩
  | bool packed =>
      simp only [byteCount, elementType, ElementType.storageBytes,
        ElementType.elementSize?] at sized
      exact ⟨_, congrArg (Option.map _) (bitAt?_of_lt (by omega))⟩

theorem exists_gather (old : Buffer) {count : Nat} (sameType : old.elementType = values.elementType)
    (sized : values.byteCount = values.elementType.storageBytes count)
    (oldSized : old.byteCount = old.elementType.storageBytes sources.length)
    (inside : ∀ source ∈ sources, source < count) :
    ∃ moved, values.gather old sources = .ok moved ∧
      ∀ place source : Nat, sources[place]? = some source →
        moved.entryAt? place = values.entryAt? source := by
  cases values with
  | f32 values | f16 values | i8 values | u8 values | i16 values | i32 values =>
      cases old <;> cases sameType
      rename_i own
      simp only [byteCount, elementType, ElementType.storageBytes,
        ElementType.elementSize?] at sized oldSized
      have length : sources.length = own.size := by omega
      have fits : ∀ source ∈ sources, source < values.size := fun source member => by
        have below := inside source member
        omega
      obtain ⟨moved, gathered, _, reads⟩ := gatherInto_ok length fits
      exact ⟨_, congrArg (Functor.map _) gathered, fun place source listed =>
        congrArg (Option.map _) (reads place source listed)⟩
  | bool packed =>
      cases old <;> cases sameType
      rename_i own
      simp only [byteCount, elementType, ElementType.storageBytes,
        ElementType.elementSize?] at sized oldSized
      have fits : ∀ source ∈ sources, source / 8 < packed.size := fun source member => by
        have below := inside source member
        omega
      obtain ⟨moved, gathered, reads⟩ := gatherBits_ok own fits (by omega)
      exact ⟨_, congrArg (Functor.map _) gathered, fun place source listed =>
        congrArg (Option.map _) (reads place source listed)⟩

variable {sources' : List Nat}

theorem mapM_congr_found {α : Type} {step step' : Nat → Attempt α} {found found' : Nat → Option α}
    (reads : ∀ source, step source = (found source).elim abort pure)
    (reads' : ∀ source, step' source = (found' source).elim abort pure)
    (same : sources.map found = sources'.map found') :
    sources.mapM step = sources'.mapM step' := by
  have own : sources.mapM step = (sources.map found).mapM fun item => item.elim abort pure := by
    rw [List.mapM_map, funext reads]
    rfl
  have other : sources'.mapM step' =
      (sources'.map found').mapM fun item => item.elim abort pure := by
    rw [List.mapM_map, funext reads']
    rfl
  rw [own, other, same]

theorem gatherInto_congr {α : Type} {values values' old : Array α}
    (same : sources.map (values[·]?) = sources'.map (values'[·]?)) :
    gatherInto values old sources = gatherInto values' old sources' := by
  have reads (own : Array α) (source : Nat) :
      readAt own source = (own[source]?).elim abort pure := by
    unfold readAt
    cases own[source]? <;> rfl
  have firsts := congrArg (List.take old.size) same
  rw [← List.map_take, ← List.map_take] at firsts
  unfold gatherInto
  rw [mapM_congr_found (reads values) (reads values') firsts]

theorem gatherBits_congr {packed packed' old : Array UInt8}
    (same : sources.map (bitAt? packed) = sources'.map (bitAt? packed')) :
    gatherBits packed old sources = gatherBits packed' old sources' := by
  have reads (own : Array UInt8) (source : Nat) :
      readBit own source = (bitAt? own source).elim abort pure := by
    unfold readBit readAt bitAt?
    cases own[source / 8]? <;> rfl
  unfold gatherBits
  rw [mapM_congr_found (reads packed) (reads packed') same]

theorem map_unwrapped {α β : Type} {wrap : α → β} (injective : Function.Injective wrap)
    {found found' : Nat → Option α}
    (same : (sources.map fun source => (found source).map wrap) =
      sources'.map fun source => (found' source).map wrap) :
    sources.map found = sources'.map found' := by
  have wrapped : (sources.map found).map (Option.map wrap) =
      (sources'.map found').map (Option.map wrap) := by
    rw [List.map_map, List.map_map]
    exact same
  exact List.map_injective_iff.2 (Option.map_injective injective) wrapped

theorem gather_congr {values' old : Buffer} (sameType : values'.elementType = values.elementType)
    (same : sources.map values.entryAt? = sources'.map values'.entryAt?) :
    values.gather old sources = values'.gather old sources' := by
  cases values with
  | f32 values | f16 values | i8 values | u8 values | i16 values | i32 values =>
      cases values' <;> cases sameType
      have found := map_unwrapped (fun _ _ wrapped => by
        simpa [Int8.toInt_inj, Int16.toInt_inj, Int32.toInt_inj, Int.ofNat_inj, UInt8.toNat_inj]
          using wrapped)
        same
      cases old <;> first | rfl | exact congrArg (Functor.map _) (gatherInto_congr found)
  | bool packed =>
      cases values' <;> cases sameType
      have found := map_unwrapped (fun _ _ wrapped => by cases wrapped; rfl) same
      cases old <;> first | rfl | exact congrArg (Functor.map _) (gatherBits_congr found)

end Gather

end Buffer

def Tensor.Stores {α : Type} (tensor : Tensor) (wrap : α → Entry) (values : Array α) : Prop :=
  ∀ position, tensor.buffer.entryAt? position = values[position]?.map wrap

namespace Tensor

variable {tensor : Tensor}

theorem stores_singles {values : Array Single} (held : tensor.buffer = .f32 values) :
    tensor.Stores .single values := by
  intro position
  rw [held]
  rfl

theorem stores_halves {values : Array Half} (held : tensor.buffer = .f16 values) :
    tensor.Stores .half values := by
  intro position
  rw [held]
  rfl

theorem stores_integers {stored : Array Int} (held : tensor.buffer.integers? = some stored) :
    tensor.Stores .stored stored :=
  Buffer.entryAt?_stored held

end Tensor

end TensorRuntime
