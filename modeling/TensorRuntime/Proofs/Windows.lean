import TensorRuntime.Window

/-!
The geometry of windows along one axis. How many windows are counted, what part of the axis
a pooling window covers and which coordinates the taps of a window read are computed apart, in
machine words; they agree on one padded axis as long as the reach of a kernel is a word.
-/

namespace TensorRuntime

section Counting

variable {input kernel stride dilation before after window count : Nat}

theorem windowCount?_eq_some :
    windowCount? input kernel stride dilation before after = some count ↔
      (0 < stride ∧ 0 < dilation ∧ 0 < kernel) ∧
      word (dilation * (kernel - 1) + 1) ≤ word (input + before + after) ∧
      word ((word (input + before + after) - word (dilation * (kernel - 1) + 1)) / stride + 1) =
        count := by
  unfold windowCount?
  by_cases vacuous : stride = 0 ∨ dilation = 0 ∨ kernel = 0
  · rw [if_pos vacuous]
    constructor
    · intro impossible
      cases impossible
    · rintro ⟨positive, _⟩
      omega
  · rw [if_neg vacuous]
    dsimp only
    by_cases narrow : word (input + before + after) < word (dilation * (kernel - 1) + 1)
    · rw [if_pos narrow]
      constructor
      · intro impossible
        cases impossible
      · rintro ⟨_, wide, _⟩
        omega
    · rw [if_neg narrow, Option.some.injEq]
      constructor
      · intro counted
        exact ⟨by omega, by omega, counted⟩
      · rintro ⟨_, _, counted⟩
        exact counted

variable (reach : dilation * (kernel - 1) + 1 < wordLimit)
  (counted : windowCount? input kernel stride dilation before after = some count)

include reach counted

theorem windowCount_exact :
    dilation * (kernel - 1) + 1 ≤ word (input + before + after) ∧
      (word (input + before + after) - (dilation * (kernel - 1) + 1)) / stride + 1 = count := by
  obtain ⟨_, fits, total⟩ := windowCount?_eq_some.1 counted
  rw [word_of_lt reach] at fits total
  have padded := word_lt (input + before + after)
  have quotient := Nat.div_le_self
    (word (input + before + after) - (dilation * (kernel - 1) + 1)) stride
  rw [word_of_lt (by omega)] at total
  exact ⟨fits, total⟩

/-- A window is counted exactly when its last tap is on the padded axis. -/
theorem lt_windowCount (window : Nat) :
    window < count ↔
      window * stride + dilation * (kernel - 1) < word (input + before + after) := by
  obtain ⟨⟨strides, _, _⟩, _⟩ := windowCount?_eq_some.1 counted
  obtain ⟨fits, rfl⟩ := windowCount_exact reach counted
  rw [Nat.lt_succ_iff, Nat.le_div_iff_mul_le strides]
  omega

theorem tap_inside (bound : window < count) {tap : Nat} (inside : tap < kernel) :
    window * stride + tap * dilation < word (input + before + after) := by
  have last := (lt_windowCount reach counted window).1 bound
  have steps : dilation * tap ≤ dilation * (kernel - 1) := Nat.mul_le_mul_left _ (by omega)
  rw [Nat.mul_comm tap]
  omega

end Counting

section Pooling

variable {input kernel stride before after window count : Nat}

theorem window_inside (taps : kernel < wordLimit)
    (counted : windowCount? input kernel stride 1 before after = some count)
    (bound : window < count) : window * stride + kernel ≤ word (input + before + after) := by
  obtain ⟨⟨_, _, positive⟩, _⟩ := windowCount?_eq_some.1 counted
  have last := (lt_windowCount (by omega) counted window).1 bound
  omega

end Pooling

section Reading

variable {window tap stride dilation before extent coordinate : Nat}

theorem tapCoordinate?_eq_some_word :
    tapCoordinate? window tap stride dilation before extent = some coordinate ↔
      word (window * stride + tap * dilation) = coordinate + before ∧ coordinate < extent := by
  unfold tapCoordinate?
  dsimp only
  split
  · rw [Option.some.injEq]
    omega
  · constructor
    · intro impossible
      cases impossible
    · omega

theorem tapCoordinate?_lt
    (read : tapCoordinate? window tap stride dilation before extent = some coordinate) :
    coordinate < extent :=
  (tapCoordinate?_eq_some_word.1 read).2

theorem tapCoordinate?_eq_some (fits : window * stride + tap * dilation < wordLimit) :
    tapCoordinate? window tap stride dilation before extent = some coordinate ↔
      window * stride + tap * dilation = coordinate + before ∧ coordinate < extent := by
  rw [tapCoordinate?_eq_some_word, word_of_lt fits]

end Reading

section Covering

variable {window kernel stride before extent after count : Nat}

theorem windowSpan_ordered :
    (windowSpan window kernel stride before extent after).start ≤
        (windowSpan window kernel stride before extent after).stop ∧
      (windowSpan window kernel stride before extent after).stop ≤
        max (windowSpan window kernel stride before extent after).start extent := by
  unfold windowSpan
  dsimp only
  omega

theorem inside_of_windowSpan {coordinate : Nat}
    (member : coordinate ∈ (windowSpan window kernel stride before extent after).coordinates) :
    coordinate < extent := by
  have ordered := @windowSpan_ordered window kernel stride before extent after
  unfold WindowSpan.coordinates WindowSpan.length at member
  rw [List.mem_range'_1] at member
  omega

theorem windowSpan_padded
    (inside : window * stride + kernel ≤ word (extent + before + after)) :
    (windowSpan window kernel stride before extent after).padded = kernel := by
  have limit := word_lt (extent + before + after)
  unfold windowSpan
  dsimp only
  rw [word_of_lt (show window * stride < wordLimit by omega),
    word_of_lt (show window * stride + kernel < wordLimit by omega), Nat.min_eq_left inside]
  have around : window * stride + kernel + (wordLimit - window * stride) =
      kernel + wordLimit := by omega
  rw [around, word, Nat.add_mod_right]
  exact Nat.mod_eq_of_lt (by omega)

section Unwrapped

variable (fits : window * stride + kernel < wordLimit)

include fits

theorem windowSpan_start :
    (windowSpan window kernel stride before extent after).start = window * stride - before := by
  unfold windowSpan
  dsimp only
  rw [word_of_lt (show window * stride < wordLimit by omega)]

theorem length_windowSpan :
    (windowSpan window kernel stride before extent after).length =
      min (window * stride + kernel - before) extent - (window * stride - before) := by
  unfold WindowSpan.length windowSpan
  dsimp only
  rw [word_of_lt (show window * stride < wordLimit by omega), word_of_lt fits]
  omega

end Unwrapped

theorem coordinates_windowSpan_succ (fits : window * stride + (kernel + 1) < wordLimit) :
    (windowSpan window (kernel + 1) stride before extent after).coordinates =
      (windowSpan window kernel stride before extent after).coordinates ++
        (tapCoordinate? window kernel stride 1 before extent).toList := by
  have shorter : window * stride + kernel < wordLimit := by omega
  have place : word (window * stride + kernel * 1) = window * stride + kernel := by
    rw [Nat.mul_one, word_of_lt shorter]
  unfold WindowSpan.coordinates tapCoordinate?
  dsimp only
  rw [windowSpan_start fits, windowSpan_start shorter, length_windowSpan fits,
    length_windowSpan shorter, place]
  split
  · have longer : min (window * stride + (kernel + 1) - before) extent -
        (window * stride - before) =
        min (window * stride + kernel - before) extent - (window * stride - before) + 1 := by
      omega
    have last : window * stride - before +
        (min (window * stride + kernel - before) extent - (window * stride - before)) =
          window * stride + kernel - before := by
      omega
    rw [longer, List.range'_1_concat, last]
    rfl
  · have same : min (window * stride + (kernel + 1) - before) extent -
        (window * stride - before) =
        min (window * stride + kernel - before) extent - (window * stride - before) := by
      omega
    rw [same, Option.toList_none, List.append_nil]

/-- A pooling window covers what the taps of a window without dilation read, in their order. -/
theorem coordinates_eq_taps (fits : window * stride + kernel < wordLimit) :
    (windowSpan window kernel stride before extent after).coordinates =
      (List.range kernel).filterMap fun tap =>
        tapCoordinate? window tap stride 1 before extent := by
  induction kernel with
  | zero =>
      have empty : (windowSpan window 0 stride before extent after).length = 0 := by
        rw [length_windowSpan fits]
        omega
      rw [WindowSpan.coordinates, empty]
      rfl
  | succ kernel ih =>
      rw [coordinates_windowSpan_succ fits, ih (by omega), List.range_succ,
        List.filterMap_append]
      cases read : tapCoordinate? window kernel stride 1 before extent <;> simp [read]

end Covering

/-- The windows along a padded axis whose extent and whose kernel's reach are words are those whose
last tap is on it. All their taps are on it then, a tap reads the coordinate of the input that it
lies over, and a pooling window spans as many places as its kernel has and covers what its taps
read. -/
theorem counted_windows_stay_inside {input before after kernel stride dilation : Nat}
    (taps : 0 < kernel) (strides : 0 < stride) (dilated : 0 < dilation)
    (reach : dilation * (kernel - 1) + 1 < wordLimit) (axis : input + before + after < wordLimit) :
    ((windowCount? input kernel stride dilation before after).isSome ↔
      dilation * (kernel - 1) + 1 ≤ input + before + after) ∧
    ∀ count, windowCount? input kernel stride dilation before after = some count →
      (∀ window, window < count ↔
        window * stride + dilation * (kernel - 1) < input + before + after) ∧
      ∀ window, window < count →
        (∀ tap, tap < kernel → window * stride + tap * dilation < input + before + after) ∧
        (∀ tap coordinate, window * stride + tap * dilation < wordLimit →
          (tapCoordinate? window tap stride dilation before input = some coordinate ↔
            window * stride + tap * dilation = coordinate + before ∧ coordinate < input)) ∧
        (dilation = 1 →
          let span := windowSpan window kernel stride before input after
          span.padded = kernel ∧ (span.start ≤ span.stop ∧ span.stop ≤ max span.start input) ∧
          span.coordinates = (List.range kernel).filterMap fun tap =>
            tapCoordinate? window tap stride 1 before input) := by
  have padded := word_of_lt axis
  refine ⟨?_, fun count counted => ⟨fun window => ?_, fun window bound =>
    ⟨fun tap inside => ?_, fun tap coordinate fits => tapCoordinate?_eq_some fits, ?_⟩⟩⟩
  · rw [Option.isSome_iff_exists]
    constructor
    · rintro ⟨count, counted⟩
      exact padded ▸ (windowCount_exact reach counted).1
    · intro wide
      refine ⟨_, windowCount?_eq_some.2 ⟨⟨strides, dilated, taps⟩, ?_, rfl⟩⟩
      rwa [word_of_lt reach, padded]
  · exact padded ▸ lt_windowCount reach counted window
  · exact padded ▸ tap_inside reach counted bound inside
  · rintro rfl
    have inside := window_inside (by omega) counted bound
    exact ⟨windowSpan_padded inside, windowSpan_ordered,
      coordinates_eq_taps (Nat.lt_of_le_of_lt inside (word_lt _))⟩

/-- Three windows of three places, two apart, on five elements between one padded place on either
side: the last one hangs over the border. -/
theorem borderedAxis_windows_stay_inside :
    ((0 < 3 ∧ 0 < 2 ∧ 0 < 1) ∧ 1 * (3 - 1) + 1 < wordLimit ∧ 5 + 1 + 1 < wordLimit) ∧
      windowCount? 5 3 2 1 1 1 = some 3 ∧ ¬ 3 * 2 + 1 * (3 - 1) < 5 + 1 + 1 ∧
      (windowSpan 2 3 2 1 5 1).padded = 3 ∧
      (windowSpan 2 3 2 1 5 1).coordinates =
        [0, 1, 2].filterMap fun tap => tapCoordinate? 2 tap 2 1 1 5 := by
  have counted : windowCount? 5 3 2 1 1 1 = some 3 := by decide
  have taps : 0 < 3 := by decide
  have strides : 0 < 2 := by decide
  have dilated : 0 < 1 := by decide
  have reach : 1 * (3 - 1) + 1 < wordLimit := by decide
  have axis : 5 + 1 + 1 < wordLimit := by decide
  obtain ⟨last, each⟩ :=
    (counted_windows_stay_inside taps strides dilated reach axis).2 3 counted
  obtain ⟨_, _, covered⟩ := each 2 (by decide)
  obtain ⟨padded, _, coordinates⟩ := covered rfl
  exact ⟨⟨⟨taps, strides, dilated⟩, reach, axis⟩, counted,
    fun inside => absurd ((last 3).2 inside) (by decide), padded, coordinates⟩

end TensorRuntime
