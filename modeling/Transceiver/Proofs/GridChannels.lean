import Mathlib.Data.Rat.Floor
import Mathlib.Tactic.FieldSimp
import Mathlib.Tactic.Linarith
import Transceiver.Tuning.Grid

/-!
# Channels of a grid

Over the rational numbers the formulas of a grid are exact.  Main statement: a capability block is
refused just if its last frequency lies below its first, and in a grid that has channels and no more
than a word can count, the channel for a frequency of the range is one that the module has, and its
point is within half a step; the channel for a point is its number, and channels come in the order
of their frequencies.

The number of channels and the channel for a frequency are rounded apart, and cut off at different
bounds.  They go together because both are the same rounding, which keeps the order, and below the
lower bound neither is cut off.
-/

namespace Transceiver

/-! ## Rounding -/

namespace Scalar

variable {bound bound' n : ℕ} {x y : ℚ}

theorem roundTo_eq (bound : ℕ) (x : ℚ) : roundTo bound x = min bound ⌊x + 1 / 2⌋.toNat := rfl

theorem roundTo_le (bound : ℕ) (x : ℚ) : roundTo bound x ≤ bound := Nat.min_le_left _ _

/-- Rounding keeps the order. -/
theorem roundTo_mono (bound : ℕ) : Monotone (roundTo bound : ℚ → ℕ) := fun x y h ↦ by
  have hfloor : ⌊x + 1 / 2⌋ ≤ ⌊y + 1 / 2⌋ := Int.floor_le_floor (by linarith)
  exact min_le_min_left bound (Int.toNat_le_toNat hfloor)

theorem roundTo_natCast (h : n ≤ bound) : roundTo bound (n : ℚ) = n := by
  have hfloor : ⌊(n : ℚ) + 1 / 2⌋ = n := by
    rw [Int.floor_eq_iff]
    constructor <;> push_cast <;> linarith
  rw [roundTo_eq, hfloor, Int.toNat_natCast, min_eq_right h]

/-- A number that is not cut off is the same under a lower bound that it does not exceed. -/
theorem roundTo_eq_roundTo (h : roundTo bound x ≤ bound') (hle : bound' ≤ bound) :
    roundTo bound' x = roundTo bound x := by
  rw [roundTo_eq] at h ⊢
  rw [roundTo_eq]
  omega

/-- A number that is not cut off is rounded by a half at most. -/
theorem abs_roundTo_sub_le (hx : 0 ≤ x) (h : roundTo bound x < bound) :
    |(roundTo bound x : ℚ) - x| ≤ 1 / 2 := by
  have hnonneg : 0 ≤ ⌊x + 1 / 2⌋ := Int.floor_nonneg.mpr (by linarith)
  have hround : roundTo bound x = ⌊x + 1 / 2⌋.toNat := by
    rw [roundTo_eq] at h ⊢
    omega
  have hcast : (roundTo bound x : ℚ) = (⌊x + 1 / 2⌋ : ℤ) := by
    rw [hround]
    exact_mod_cast Int.toNat_of_nonneg hnonneg
  have hlow := Int.floor_le (x + 1 / 2)
  have hhigh := Int.lt_floor_add_one (x + 1 / 2)
  rw [hcast, abs_le]
  constructor <;> linarith

end Scalar

namespace Grid

/-! ## Capability blocks -/

/-- The word at an offset of a capability block. -/
def word (block : Vector UInt8 10) (offset : ℕ) : ℕ :=
  (word16 (block.toArray.getD offset 0) (block.toArray.getD (offset + 1) 0)).toNat

/-- The frequency at an offset of a capability block: THz, and a fraction in units of 0.1 GHz.  The
first one lies at 0 and the last one at 4; the step is the word at 8. -/
def frequency (block : Vector UInt8 10) (offset : ℕ) : ℚ :=
  word block offset + word block (offset + 2) / 10000

/-- The grid of a block, in ordinary terms. -/
theorem ofBlock_eq (block : Vector UInt8 10) (support : UInt8) :
    (ofBlock block support : Except (ℚ × ℚ) (Grid ℚ)) =
      if frequency block 4 < frequency block 0 then .error (frequency block 0, frequency block 4)
      else .ok {
        min := frequency block 0
        max := frequency block 4
        spacing := word block 8 / 10000
        channels := .ofNat (pointAt 0xffffffff (frequency block 4 - frequency block 0)
          (word block 8 / 10000))
        channelTuning := hasBit support SfpMap.Tuning.channelBit
        wavelengthTuning := hasBit support SfpMap.Tuning.wavelengthBit
      } := by
  have hword (w : UInt16) : (Scalar.ofInt w.toNat : ℚ) = w.toNat := Int.cast_natCast _
  have hunit : (fractionUnit : ℚ) = 1 / 10000 := by
    change ((1 : ℤ) : ℚ) / (10000 : ℤ) = 1 / 10000
    norm_num
  have hfraction (n : ℕ) : (n : ℚ) / 10000 = n * (1 / 10000) := by ring
  unfold ofBlock
  simp only [frequency, word, hfraction, hword, hunit]
  simp [Array.getD]

theorem pointAt_eq {bound : ℕ} {span spacing : ℚ} (h : 0 < spacing) :
    pointAt bound span spacing = Scalar.roundTo bound (1 + span / spacing) := if_pos h

theorem contains_iff {g : Grid ℚ} {f : ℚ} : g.contains f ↔ g.min ≤ f ∧ f ≤ g.max := by
  unfold contains
  rw [Bool.and_eq_true, decide_eq_true_iff, decide_eq_true_iff]

/-- A grid has the range and the step of its block. -/
theorem fields_of_ofBlock {block : Vector UInt8 10} {support : UInt8} {g : Grid ℚ}
    (h : ofBlock block support = .ok g) :
    g.min = frequency block 0 ∧ g.max = frequency block 4 ∧ g.spacing = word block 8 / 10000 := by
  rw [ofBlock_eq] at h
  split at h
  · cases h
  · cases h
    exact ⟨rfl, rfl, rfl⟩

/-- A block is refused just if its range ends before it starts. -/
theorem exists_ofBlock_iff {block : Vector UInt8 10} {support : UInt8} :
    (∃ g : Grid ℚ, ofBlock block support = .ok g) ↔ frequency block 0 ≤ frequency block 4 := by
  rw [ofBlock_eq]
  split
  · rename_i h
    exact ⟨nofun, fun hle ↦ absurd hle (not_le.mpr h)⟩
  · rename_i h
    exact ⟨fun _ ↦ not_lt.mp h, fun _ ↦ ⟨_, rfl⟩⟩

/-! ## Channels -/

/-- The number of the point nearest a frequency, as far as 32 bits can count. -/
def nearest (g : Grid ℚ) (f : ℚ) : ℕ := Scalar.roundTo 0xffffffff (1 + (f - g.min) / g.spacing)

/-- The frequency of a channel. -/
def point (g : Grid ℚ) (k : ℕ) : ℚ := g.min + (k - 1) * g.spacing

/-- A grid whose channels are those of its range. -/
structure Counted (g : Grid ℚ) : Prop where
  spacing_pos : 0 < g.spacing
  channels : g.channels.toNat = g.nearest g.max

/-- A block with a step gives such a grid. -/
theorem counted_of_ofBlock {block : Vector UInt8 10} {support : UInt8} {g : Grid ℚ}
    (h : ofBlock block support = .ok g) (hspacing : g.spacing ≠ 0) : g.Counted := by
  rw [ofBlock_eq] at h
  split at h
  · cases h
  · cases h
    have hpos : (0 : ℚ) < word block 8 / 10000 := lt_of_le_of_ne (by positivity) hspacing.symm
    refine ⟨hpos, ?_⟩
    -- the number of channels is cut off at what its 32 bits hold, and so is kept by them
    have hlt : pointAt 0xffffffff (frequency block 4 - frequency block 0)
        (word block 8 / 10000 : ℚ) < 2 ^ 32 := by
      rw [pointAt_eq hpos]
      exact Nat.lt_succ_of_le (Scalar.roundTo_le _ _)
    rw [UInt32.toNat_ofNat_of_lt' hlt, pointAt_eq hpos]
    rfl

/-- The channel for a frequency of a grid selects the point nearest to it. -/
structure Selects (g : Grid ℚ) : Prop where
  inRange {f : ℚ} (hf : g.contains f) :
    1 ≤ (g.channelFor f).toNat ∧ (g.channelFor f).toNat ≤ g.channels.toNat
  near {f : ℚ} (hf : g.contains f) :
    |g.point (g.channelFor f).toNat - f| ≤ g.spacing / 2
  mono {f f' : ℚ} (hle : f ≤ f') : g.channelFor f ≤ g.channelFor f'
  point {k : ℕ} (hk : 1 ≤ k) (hle : k ≤ g.channels.toNat) :
    (g.channelFor (g.point k)).toNat = k

namespace Counted

variable {g : Grid ℚ} {f : ℚ} {k : ℕ}

theorem toNat_channelFor (h : g.Counted) (f : ℚ) :
    (g.channelFor f).toNat = Scalar.roundTo 0xffff (1 + (f - g.min) / g.spacing) := by
  unfold channelFor
  rw [pointAt_eq h.spacing_pos]
  exact UInt16.toNat_ofNat_of_lt' (Nat.lt_succ_of_le (Scalar.roundTo_le _ _))

theorem steps_mono (h : g.Counted) {f f' : ℚ} (hle : f ≤ f') :
    1 + (f - g.min) / g.spacing ≤ 1 + (f' - g.min) / g.spacing := by
  have hpos := h.spacing_pos
  gcongr

theorem channelFor_mono (h : g.Counted) {f f' : ℚ} (hle : f ≤ f') :
    g.channelFor f ≤ g.channelFor f' := by
  rw [UInt16.le_iff_toNat_le, h.toNat_channelFor, h.toNat_channelFor]
  exact Scalar.roundTo_mono _ (h.steps_mono hle)

theorem channelFor_point (h : g.Counted) (hk : k ≤ 0xffff) :
    (g.channelFor (g.point k)).toNat = k := by
  have hne : g.spacing ≠ 0 := h.spacing_pos.ne'
  have hsteps : 1 + (g.point k - g.min) / g.spacing = k := by
    unfold point
    field_simp
    ring
  rw [h.toNat_channelFor, hsteps, Scalar.roundTo_natCast hk]

/-- In the range of a grid whose channels a word can count, no channel is cut off. -/
theorem channelFor_eq_nearest (h : g.Counted) (hword : g.channels.toNat ≤ 0xffff)
    (hf : f ≤ g.max) :
    (g.channelFor f).toNat = g.nearest f ∧ g.nearest f ≤ g.channels.toNat := by
  have hle : g.nearest f ≤ g.channels.toNat := by
    rw [h.channels]
    exact Scalar.roundTo_mono _ (h.steps_mono hf)
  refine ⟨?_, hle⟩
  rw [h.toNat_channelFor]
  exact Scalar.roundTo_eq_roundTo (hle.trans hword) (by decide)

theorem one_le_nearest (h : g.Counted) (hf : g.min ≤ f) : 1 ≤ g.nearest f := by
  have hsteps : (0 : ℚ) ≤ (f - g.min) / g.spacing :=
    div_nonneg (sub_nonneg.mpr hf) h.spacing_pos.le
  calc 1 = Scalar.roundTo 0xffffffff ((1 : ℕ) : ℚ) := (Scalar.roundTo_natCast (by decide)).symm
    _ ≤ g.nearest f := Scalar.roundTo_mono _ (by push_cast; linarith)

/-- The point of the channel is within half a step. -/
theorem abs_point_sub_le (h : g.Counted) (hf : g.min ≤ f) (hlt : g.nearest f < 0xffffffff) :
    |g.point (g.nearest f) - f| ≤ g.spacing / 2 := by
  have hpos := h.spacing_pos
  have hsteps : (0 : ℚ) ≤ 1 + (f - g.min) / g.spacing := by
    have := div_nonneg (sub_nonneg.mpr hf) hpos.le
    linarith
  have hround := Scalar.abs_roundTo_sub_le hsteps hlt
  have hscaled : g.point (g.nearest f) - f =
      (g.nearest f - (1 + (f - g.min) / g.spacing)) * g.spacing := by
    unfold point
    field_simp
    ring
  calc |g.point (g.nearest f) - f|
    _ = |(g.nearest f : ℚ) - (1 + (f - g.min) / g.spacing)| * g.spacing := by
      rw [hscaled, abs_mul, abs_of_pos hpos]
    _ ≤ 1 / 2 * g.spacing := mul_le_mul_of_nonneg_right hround hpos.le
    _ = g.spacing / 2 := by ring

theorem selects (h : g.Counted) (hword : g.channels.toNat ≤ 0xffff) : g.Selects where
  inRange hf := by
    obtain ⟨hmin, hmax⟩ := contains_iff.mp hf
    obtain ⟨heq, hle⟩ := h.channelFor_eq_nearest hword hmax
    rw [heq]
    exact ⟨h.one_le_nearest hmin, hle⟩
  near hf := by
    obtain ⟨hmin, hmax⟩ := contains_iff.mp hf
    obtain ⟨heq, hle⟩ := h.channelFor_eq_nearest hword hmax
    rw [heq]
    exact h.abs_point_sub_le hmin (Nat.lt_of_le_of_lt (hle.trans hword) (by decide))
  mono := h.channelFor_mono
  point _ hle := h.channelFor_point (hle.trans hword)

end Counted

/-- A block is accepted just if its range does not end before it starts.  The grid has the range and
the step of the block, and its channels, where a word can count them, select its points. -/
theorem ofBlock_selects (block : Vector UInt8 10) (support : UInt8) :
    ((∃ g : Grid ℚ, ofBlock block support = .ok g) ↔ frequency block 0 ≤ frequency block 4) ∧
      ∀ g : Grid ℚ, ofBlock block support = .ok g →
        (g.min = frequency block 0 ∧ g.max = frequency block 4 ∧
          g.spacing = word block 8 / 10000) ∧
        (g.spacing ≠ 0 → g.channels.toNat ≤ 0xffff → g.Selects) := by
  refine ⟨exists_ofBlock_iff, fun g hg ↦ ⟨fields_of_ofBlock hg, fun hspacing hword ↦ ?_⟩⟩
  exact (counted_of_ofBlock hg hspacing).selects hword

/-- The range from 191.0 to 196.1 THz in steps of 0.2 THz ends in the middle between two points: the
channel for its end is the last one, and lies beyond it. -/
theorem ofBlock_selects_half_step :
    let block : Vector UInt8 10 := #v[0, 191, 0, 0, 0, 196, 0x03, 0xe8, 0x07, 0xd0]
    ∃ g : Grid ℚ, ofBlock block 3 = .ok g ∧ g.spacing = 1 / 5 ∧ g.channels = 27 ∧
      g.contains (1961 / 10) ∧ g.channelFor (1961 / 10) = 27 ∧
      |g.point (g.channelFor (1961 / 10)).toNat - 1961 / 10| ≤ g.spacing / 2 := by
  intro block
  have hfirst : frequency block 0 = 191 := by decide +kernel
  have hlast : frequency block 4 = 1961 / 10 := by decide +kernel
  have hspacing : (word block 8 / 10000 : ℚ) = 1 / 5 := by decide +kernel
  have hchannels : pointAt 0xffffffff (1961 / 10 - 191 : ℚ) (1 / 5) = 27 := by decide +kernel
  have hg : (ofBlock block 3 : Except (ℚ × ℚ) (Grid ℚ)) =
      .ok ⟨191, 1961 / 10, 1 / 5, 27, true, true⟩ := by
    rw [ofBlock_eq, hfirst, hlast, hspacing, hchannels, if_neg (by norm_num)]
    rfl
  have hcontains : (⟨191, 1961 / 10, 1 / 5, 27, true, true⟩ : Grid ℚ).contains (1961 / 10) := by
    decide +kernel
  have hselects := ((ofBlock_selects block 3).2 _ hg).2 (by norm_num) (by decide)
  exact ⟨_, hg, rfl, rfl, hcontains, by decide +kernel, hselects.near hcontains⟩

end Grid

end Transceiver
