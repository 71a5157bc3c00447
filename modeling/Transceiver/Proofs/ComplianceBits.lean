import Transceiver.Proofs.ExactArithmetic

/-!
# What a compliance code keeps of its block

The fields of a compliance code are cut from eight bytes, and some of them across the border of two.
Main statement: from the code of an SFP module its block is found again but for the two bits that
are not assigned, and from the code of a QSFP module but for the two high bits of byte 5.  Those two
belong to the Fibre Channel technology, which has ten bits in that layout and eight in the code.

A code is packed again for this.  Packing is not the inverse of decoding, but it is one on the bits
that are kept.
-/

namespace Transceiver

namespace ComplianceCode

/-- The block of a code in the layout of SFP modules. -/
def sfpBlock (c : ComplianceCode) : List UInt8 :=
  [c.eth10g <<< 4 ||| c.infiniband, c.escon <<< 6 ||| highByte c.sonet, lowByte c.sonet, c.eth1g,
    c.fcDistance <<< 3 ||| c.fcTechnology >>> 4, c.fcTechnology <<< 4 ||| c.cableTechnology <<< 2,
    c.fcMedia, c.fcSpeed]

/-- The block of a code in the layout of QSFP modules. -/
def qsfpBlock (c : ComplianceCode) : List UInt8 :=
  [c.eth10g, lowByte c.sonet, c.sas, c.eth1g, c.fcDistance ||| c.fcTechnology <<< 6,
    c.fcTechnology >>> 2, c.fcMedia, c.fcSpeed]

/-- A block with only some of the bits of byte 5. -/
def masked (mask : UInt8) (block : Vector UInt8 8) : List UInt8 :=
  block.toList.modify 5 (· &&& mask)

/-- The bits of byte 5 that are assigned in SFP modules. -/
def sfpMask : UInt8 := 0xfc

/-- The bits of byte 5 that a code of a QSFP module has room for. -/
def qsfpMask : UInt8 := 0x3f

/-! ## Fields across bytes -/

section Bytes

variable (x y : UInt8)

theorem nibbles_joined : x >>> 4 <<< 4 ||| x &&& 0x0f = x := by
  refine eq_of_hasBit fun i ↦ ?_
  cases i <;> simp [hasBit_eq_getLsbD, Bit.ctorIdx]

theorem high_bits_joined : x >>> 6 <<< 6 ||| x &&& 0x3f = x := by
  refine eq_of_hasBit fun i ↦ ?_
  cases i <;> simp [hasBit_eq_getLsbD, Bit.ctorIdx]

/-- The Fibre Channel distance and the high bits of the technology of an SFP module. -/
theorem sfp_distance_joined :
    x >>> 3 <<< 3 ||| (y >>> 4 ||| (x &&& 0x07) <<< 4) >>> 4 = x := by
  refine eq_of_hasBit fun i ↦ ?_
  cases i <;> simp [hasBit_eq_getLsbD, Bit.ctorIdx]

/-- The low bits of the Fibre Channel technology and the cable technology of an SFP module. -/
theorem sfp_technology_joined :
    (y >>> 4 ||| (x &&& 0x07) <<< 4) <<< 4 ||| (y >>> 2 &&& 0x03) <<< 2 = y &&& sfpMask := by
  refine eq_of_hasBit fun i ↦ ?_
  cases i <;> simp [hasBit_eq_getLsbD, Bit.ctorIdx, sfpMask]

/-- The Fibre Channel distance and the low bits of the technology of a QSFP module. -/
theorem qsfp_distance_joined : x &&& (0x3f : UInt8) ||| (x >>> 6 ||| y <<< 2) <<< 6 = x := by
  refine eq_of_hasBit fun i ↦ ?_
  cases i <;> simp [hasBit_eq_getLsbD, Bit.ctorIdx]

/-- The two bits that are not assigned are shifted out for an SFP module. -/
theorem sfp_high_nibble : (y &&& sfpMask) >>> 4 = y >>> 4 := by
  refine eq_of_hasBit fun i ↦ ?_
  cases i <;> simp [hasBit_eq_getLsbD, Bit.ctorIdx, sfpMask]

theorem sfp_high_bits : (y &&& sfpMask) >>> 2 = y >>> 2 := by
  refine eq_of_hasBit fun i ↦ ?_
  cases i <;> simp [hasBit_eq_getLsbD, Bit.ctorIdx, sfpMask]

/-- The two high bits are shifted out for a QSFP module. -/
theorem qsfp_technology_left : (x >>> 6 ||| y <<< 2) >>> 2 = y &&& qsfpMask := by
  refine eq_of_hasBit fun i ↦ ?_
  cases i <;> simp [hasBit_eq_getLsbD, Bit.ctorIdx, qsfpMask]

theorem qsfp_low_bits : (y &&& qsfpMask) <<< 2 = y <<< 2 := by
  refine eq_of_hasBit fun i ↦ ?_
  cases i <;> simp [hasBit_eq_getLsbD, Bit.ctorIdx, qsfpMask]

end Bytes

/-! ## Packing what was decoded -/

theorem exists_bytes (block : Vector UInt8 8) :
    ∃ b₀ b₁ b₂ b₃ b₄ b₅ b₆ b₇, block = #v[b₀, b₁, b₂, b₃, b₄, b₅, b₆, b₇] := by
  obtain ⟨⟨bytes⟩, hsize⟩ := block
  match bytes, hsize with
  | [b₀, b₁, b₂, b₃, b₄, b₅, b₆, b₇], _ => exact ⟨b₀, b₁, b₂, b₃, b₄, b₅, b₆, b₇, rfl⟩

theorem sfpBlock_ofSfp (block : Vector UInt8 8) :
    (ofSfp block).sfpBlock = masked sfpMask block := by
  obtain ⟨b₀, b₁, b₂, b₃, b₄, b₅, b₆, b₇, rfl⟩ := exists_bytes block
  change [b₀ >>> 4 <<< 4 ||| b₀ &&& 0x0f, b₁ >>> 6 <<< 6 ||| highByte (word16 (b₁ &&& 0x3f) b₂),
    lowByte (word16 (b₁ &&& 0x3f) b₂), b₃,
    b₄ >>> 3 <<< 3 ||| (b₅ >>> 4 ||| (b₄ &&& 0x07) <<< 4) >>> 4,
    (b₅ >>> 4 ||| (b₄ &&& 0x07) <<< 4) <<< 4 ||| (b₅ >>> 2 &&& 0x03) <<< 2, b₆, b₇] =
    [b₀, b₁, b₂, b₃, b₄, b₅ &&& sfpMask, b₆, b₇]
  rw [nibbles_joined, highByte_word16, high_bits_joined, lowByte_word16, sfp_distance_joined,
    sfp_technology_joined]

theorem qsfpBlock_ofQsfp (block : Vector UInt8 8) :
    (ofQsfp block).qsfpBlock = masked qsfpMask block := by
  obtain ⟨b₀, b₁, b₂, b₃, b₄, b₅, b₆, b₇, rfl⟩ := exists_bytes block
  have hsonet : lowByte b₁.toUInt16 = b₁ := by simp [lowByte]
  change [b₀, lowByte b₁.toUInt16, b₂, b₃, b₄ &&& (0x3f : UInt8) ||| (b₄ >>> 6 ||| b₅ <<< 2) <<< 6,
    (b₄ >>> 6 ||| b₅ <<< 2) >>> 2, b₆, b₇] = [b₀, b₁, b₂, b₃, b₄, b₅ &&& qsfpMask, b₆, b₇]
  rw [hsonet, qsfp_distance_joined, qsfp_technology_left]

/-! ## What decoding looks at -/

/-- Blocks that agree but for some bits of byte 5. -/
theorem masked_eq_masked_iff {mask a₀ a₁ a₂ a₃ a₄ a₅ a₆ a₇ b₀ b₁ b₂ b₃ b₄ b₅ b₆ b₇ : UInt8} :
    masked mask #v[a₀, a₁, a₂, a₃, a₄, a₅, a₆, a₇] =
        masked mask #v[b₀, b₁, b₂, b₃, b₄, b₅, b₆, b₇] ↔
      a₀ = b₀ ∧ a₁ = b₁ ∧ a₂ = b₂ ∧ a₃ = b₃ ∧ a₄ = b₄ ∧ a₅ &&& mask = b₅ &&& mask ∧ a₆ = b₆ ∧
        a₇ = b₇ := by
  simp [masked]

/-- What looks at some bits only is the same where these are. -/
theorem eq_of_masked (f : UInt8 → UInt8) {mask x y : UInt8} (hf : ∀ z, f (z &&& mask) = f z)
    (h : x &&& mask = y &&& mask) : f x = f y := by
  rw [← hf x, h, hf]

theorem ofSfp_eq_ofSfp_iff (a b : Vector UInt8 8) :
    ofSfp a = ofSfp b ↔ masked sfpMask a = masked sfpMask b := by
  constructor
  · intro h
    rw [← sfpBlock_ofSfp, h, sfpBlock_ofSfp]
  · intro h
    obtain ⟨a₀, a₁, a₂, a₃, a₄, a₅, a₆, a₇, rfl⟩ := exists_bytes a
    obtain ⟨b₀, b₁, b₂, b₃, b₄, b₅, b₆, b₇, rfl⟩ := exists_bytes b
    obtain ⟨rfl, rfl, rfl, rfl, rfl, h₅, rfl, rfl⟩ := masked_eq_masked_iff.mp h
    have hfour : a₅ >>> 4 = b₅ >>> 4 := eq_of_masked (· >>> 4) sfp_high_nibble h₅
    have htwo : a₅ >>> 2 = b₅ >>> 2 := eq_of_masked (· >>> 2) sfp_high_bits h₅
    simp [ofSfp, hfour, htwo]

theorem ofQsfp_eq_ofQsfp_iff (a b : Vector UInt8 8) :
    ofQsfp a = ofQsfp b ↔ masked qsfpMask a = masked qsfpMask b := by
  constructor
  · intro h
    rw [← qsfpBlock_ofQsfp, h, qsfpBlock_ofQsfp]
  · intro h
    obtain ⟨a₀, a₁, a₂, a₃, a₄, a₅, a₆, a₇, rfl⟩ := exists_bytes a
    obtain ⟨b₀, b₁, b₂, b₃, b₄, b₅, b₆, b₇, rfl⟩ := exists_bytes b
    obtain ⟨rfl, rfl, rfl, rfl, rfl, h₅, rfl, rfl⟩ := masked_eq_masked_iff.mp h
    have htwo : a₅ <<< 2 = b₅ <<< 2 := eq_of_masked (· <<< 2) qsfp_low_bits h₅
    simp [ofQsfp, htwo]

end ComplianceCode

namespace Checked

theorem sfpCompliance_toList (block : Vector UInt8 8) :
    sfpCompliance block.toList = .ok (.ofSfp block) := by
  rw [sfpCompliance, leading_toList]
  rfl

theorem qsfpCompliance_toList (block : Vector UInt8 8) :
    qsfpCompliance block.toList = .ok (.ofQsfp block) := by
  rw [qsfpCompliance, leading_toList]
  rfl

/-- Two blocks are decoded alike just if they agree in all bits that are kept: of an SFP module
these are the ones that are assigned, and of a QSFP module all but the two high bits of byte 5. -/
theorem compliance_alike_iff (a b : Vector UInt8 8) :
    (sfpCompliance a.toList = sfpCompliance b.toList ↔
        ComplianceCode.masked 0xfc a = ComplianceCode.masked 0xfc b) ∧
      (qsfpCompliance a.toList = qsfpCompliance b.toList ↔
        ComplianceCode.masked 0x3f a = ComplianceCode.masked 0x3f b) := by
  simp only [sfpCompliance_toList, qsfpCompliance_toList, Except.ok.injEq]
  exact ⟨ComplianceCode.ofSfp_eq_ofSfp_iff a b, ComplianceCode.ofQsfp_eq_ofQsfp_iff a b⟩

/-- A bit of the Fibre Channel technology that a QSFP module sets and its code does not tell. -/
theorem not_qsfpCompliance_injective :
    ¬ ∀ a b : Vector UInt8 8, qsfpCompliance a.toList = qsfpCompliance b.toList → a = b := by
  intro h
  have hblocks := h #v[0, 0, 0, 0, 0, 0x40, 0, 0] #v[0, 0, 0, 0, 0, 0, 0, 0] rfl
  exact absurd hblocks (by decide)

end Checked

end Transceiver
