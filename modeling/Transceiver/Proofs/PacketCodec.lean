import Transceiver.Proofs.Memory

/-!
# Packets and their bytes

A packet is read from the six bytes at the start of a buffer, whatever follows them.  Main
statement: each packet is read back from its bytes, the buffers that are refused are the short ones
and those without an operation, in this order, and the bytes of a packet that was read are those of
the buffer, but for the six bits beside the operation, which are not looked at.
-/

namespace Transceiver

namespace MailboxOp

/-- What two bits can hold. -/
theorem low_bits (c : UInt8) :
    c &&& 0b11 = 0 ∨ c &&& 0b11 = 1 ∨ c &&& 0b11 = 2 ∨ c &&& 0b11 = 3 := by
  obtain ⟨v⟩ := c
  revert v
  decide +kernel

theorem ofByte_eq_ok_iff {c : UInt8} {op : MailboxOp} :
    ofByte c = .ok op ↔ op.code = c &&& 0b11 := by
  rcases low_bits c with h | h | h | h <;> cases op <;> simp [ofByte, code, h]

theorem ofByte_eq_error_iff {c : UInt8} {e : MessageError} :
    ofByte c = .error e ↔ (c &&& 0b11 = 0 ∨ c &&& 0b11 = 3) ∧ e = .invalidMailboxOp c := by
  rcases low_bits c with h | h | h | h <;> simp [ofByte, h, eq_comm]

end MailboxOp

namespace Packet

/-- Why the start of a buffer is no packet: it is short, or two bits name no operation. -/
inductive Refused (bs : List UInt8) : MessageError → Prop where
  | tooShort (h : bs.length < size) : Refused bs (.tooShort size bs.length)
  | invalidOp {c : UInt8} (hc : bs[5]? = some c) (hop : c &&& 0b11 = 0 ∨ c &&& 0b11 = 3) :
    Refused bs (.invalidMailboxOp c)

variable {bs : List UInt8}

theorem decode_of_short (h : bs.length < size) : decode bs = .error (.tooShort size bs.length) := by
  unfold decode
  split
  · rw [size] at h
    simp only [List.length_cons] at h
    omega
  · rfl

/-- A buffer that is not short starts with the six bytes of a packet. -/
theorem exists_bytes (h : size ≤ bs.length) :
    ∃ m oh ol dh dl c rest, bs = m :: oh :: ol :: dh :: dl :: c :: rest := by
  rw [size] at h
  match bs with
  | m :: oh :: ol :: dh :: dl :: c :: rest => exact ⟨m, oh, ol, dh, dl, c, rest, rfl⟩
  | [] | [_] | [_, _] | [_, _, _] | [_, _, _, _] | [_, _, _, _, _] =>
    simp only [List.length_cons, List.length_nil] at h
    omega

/-- What follows the first six bytes does not matter. -/
theorem decode_append (h : size ≤ bs.length) (rest : List UInt8) :
    decode (bs ++ rest) = decode bs := by
  obtain ⟨m, oh, ol, dh, dl, c, _, rfl⟩ := exists_bytes h
  rfl

/-- Only the operation can be wrong in six bytes. -/
theorem decode_bytes (m oh ol dh dl c : UInt8) (rest : List UInt8) :
    decode (m :: oh :: ol :: dh :: dl :: c :: rest) =
      Packet.mk m (word16 oh ol) (word16 dh dl) <$> MailboxOp.ofByte c := by
  unfold decode
  dsimp only
  cases MailboxOp.ofByte c <;> rfl

theorem decode_eq_error_iff {e : MessageError} : decode bs = .error e ↔ Refused bs e := by
  by_cases h : bs.length < size
  · rw [decode_of_short h]
    constructor
    · intro he
      cases he
      exact .tooShort h
    · intro he
      cases he with
      | tooShort _ => rfl
      | invalidOp hc _ =>
        rw [List.getElem?_eq_none (Nat.le_of_lt_succ h)] at hc
        cases hc
  · -- A buffer that is long enough is refused for its operation alone.
    obtain ⟨m, oh, ol, dh, dl, c, rest, rfl⟩ := exists_bytes (Nat.le_of_not_lt h)
    have herror : decode (m :: oh :: ol :: dh :: dl :: c :: rest) = .error e ↔
        MailboxOp.ofByte c = .error e := by
      rw [decode_bytes]
      cases MailboxOp.ofByte c with
      | error _ => exact ⟨fun he ↦ by cases he; rfl, fun he ↦ by cases he; rfl⟩
      | ok _ => exact iff_of_false nofun nofun
    rw [herror, MailboxOp.ofByte_eq_error_iff]
    constructor
    · rintro ⟨hop, rfl⟩
      exact .invalidOp rfl hop
    · intro he
      cases he with
      | tooShort hshort => exact absurd hshort h
      | invalidOp hc hop =>
        cases hc
        exact ⟨hop, rfl⟩

/-- The bytes of a packet that is read are those of the buffer without the six unused bits. -/
theorem encode_of_decode {p : Packet} (h : decode bs = .ok p) :
    p.encode = (bs.take size).modify 5 (· &&& 0b11) := by
  by_cases hshort : bs.length < size
  · rw [decode_of_short hshort] at h
    cases h
  · obtain ⟨m, oh, ol, dh, dl, c, rest, rfl⟩ := exists_bytes (Nat.le_of_not_lt hshort)
    rw [decode_bytes] at h
    cases hop : MailboxOp.ofByte c with
    | error _ =>
      rw [hop] at h
      cases h
    | ok op =>
      rw [hop] at h
      cases h
      simp only [encode, highByte_word16, lowByte_word16, MailboxOp.ofByte_eq_ok_iff.mp hop]
      rfl

/-- Packets and buffers determine each other as far as a packet goes. -/
theorem codec :
    (∀ (p : Packet) (rest : List UInt8), decode (p.encode ++ rest) = .ok p) ∧
      (∀ (bs : List UInt8) (e : MessageError), decode bs = .error e ↔ Refused bs e) ∧
      ∀ bs : List UInt8, (∀ e, ¬ Refused bs e) →
        ∃ p, decode bs = .ok p ∧ p.encode = (bs.take size).modify 5 (· &&& 0b11) := by
  refine ⟨fun p rest ↦ ?_, fun bs e ↦ decode_eq_error_iff, fun bs hbs ↦ ?_⟩
  · rw [decode_append (Nat.le_of_eq p.length_encode.symm), decode_encode]
  · cases hp : decode bs with
    | error e => exact absurd (decode_eq_error_iff.mp hp) (hbs e)
    | ok p => exact ⟨p, rfl, encode_of_decode hp⟩

/-- A buffer with bits set beside the operation and a byte after the packet. -/
theorem codec_unused_bits :
    ∃ p, decode [7, 0xc4, 0x00, 0x80, 0x40, 0xfe, 9] = .ok p ∧
      p.encode = [7, 0xc4, 0x00, 0x80, 0x40, 2] := by
  refine codec.2.2 _ fun e he ↦ ?_
  cases he with
  | tooShort h => exact absurd h (by decide)
  | invalidOp hc hop =>
    cases hc
    exact absurd hop (by decide)

end Packet

end Transceiver
