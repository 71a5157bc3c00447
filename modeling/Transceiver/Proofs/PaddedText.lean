import Transceiver.Proofs.Trimming
import Transceiver.VendorText

/-!
# Padded text

A printable field is a text with padding after it, or its text is cut off by a NUL that more than
padding follows.  Main statements: a text that is padded is decoded as itself, with question marks
for what does not print; and what is decoded from any bytes is printable text that is decoded as
itself again, unless a space stands before the NUL that cuts it off.  The padding is trimmed before
the text is cut, so that space is left at the end.
-/

namespace Transceiver.VendorText

/-- The bytes that a text is stored as. -/
def utf8 (s : String) : List UInt8 := s.toUTF8.data.toList

/-- The first NUL stands behind a space, and more than padding follows it. -/
def Interrupted (raw : List UInt8) : Prop :=
  ∃ text after, raw = text ++ 0x20 :: 0 :: after ∧ 0 ∉ text ∧ ∃ b ∈ after, b ≠ 0 ∧ b ≠ 0x20

/-! ## Bytes -/

section Byte

variable {b : UInt8}

theorem isPadding_iff : isPadding b ↔ b = 0 ∨ b = 0x20 := by
  simp [isPadding]

theorem isPrintable_iff : isPrintable b ↔ 0x20 ≤ b ∧ b ≤ 0x7e := by
  simp [isPrintable]

theorem clean_of_isPrintable (h : isPrintable b) : clean b = b := by
  unfold clean
  rw [h]
  rfl

theorem clean_eq_zero_iff : clean b = 0 ↔ b = 0 := by
  unfold clean
  split
  · rfl
  · rename_i h
    simp only [Bool.or_eq_true, beq_iff_eq, not_or] at h
    exact iff_of_false (by decide) h.2

theorem clean_eq_space_iff : clean b = 0x20 ↔ b = 0x20 := by
  unfold clean
  split
  · rfl
  · rename_i h
    refine iff_of_false (by decide) ?_
    rintro rfl
    exact h (by decide)

theorem isPadding_clean (b : UInt8) : isPadding (clean b) = isPadding b := by
  rw [Bool.eq_iff_iff, isPadding_iff, isPadding_iff, clean_eq_zero_iff, clean_eq_space_iff]

/-- What is left is printable, but for NULs. -/
theorem isPrintable_clean (h : b ≠ 0) : isPrintable (clean b) := by
  unfold clean
  split
  · rename_i hb
    simpa [h] using hb
  · decide

theorem toNat_ofNat (b : UInt8) : (Char.ofNat b.toNat).toNat = b.toNat := by
  have hlt := b.toNat_lt
  unfold Char.ofNat
  rw [dif_pos (.inl (by omega))]
  rfl

theorem ofNat_eq_space_iff : Char.ofNat b.toNat = ' ' ↔ b = 0x20 := by
  rw [← Char.toNat_inj, toNat_ofNat, ← UInt8.toNat_inj]
  rfl

theorem ofNat_clean (h : b ≠ 0) : Char.ofNat (clean b).toNat =
    if 0x20 ≤ b ∧ b ≤ 0x7e then Char.ofNat b.toNat else '?' := by
  by_cases hb : isPrintable b
  · rw [clean_of_isPrintable hb, if_pos (isPrintable_iff.mp hb)]
  · have hclean : clean b = garbage := by
      unfold clean
      rw [if_neg (by simp [hb, h])]
    rw [hclean, if_neg (mt isPrintable_iff.mpr hb)]
    rfl

/-- A printable character is stored as one byte. -/
theorem utf8EncodeChar_of_isPrintable (h : isPrintable b) :
    String.utf8EncodeChar (Char.ofNat b.toNat) = [b] := by
  obtain ⟨v⟩ := b
  revert v
  decide +kernel

end Byte

/-! ## What is cut off -/

section Bytes

variable {text pad after raw : List UInt8}

/-- A field is text and padding, or a NUL cuts its text off before the padding starts. -/
inductive Makeup : List UInt8 → Prop where
  | padded {text pad : List UInt8} (htext : 0 ∉ text) (hpad : ∀ b ∈ pad, isPadding b) :
    Makeup (text ++ pad)
  | cut {text after : List UInt8} (htext : 0 ∉ text) (hafter : ∃ b ∈ after, ¬ isPadding b) :
    Makeup (text ++ 0 :: after)

theorem makeup (raw : List UInt8) : Makeup raw := by
  by_cases hnul : 0 ∈ raw
  · obtain ⟨text, after, rfl, htext⟩ := List.eq_append_cons_of_mem hnul
    by_cases hafter : ∃ b ∈ after, ¬ isPadding b
    · exact .cut htext hafter
    · simp only [not_exists, not_and, not_not] at hafter
      exact .padded htext (List.forall_mem_cons.mpr ⟨rfl, hafter⟩)
  · rw [← List.append_nil raw]
    exact .padded hnul nofun

theorem zero_notMem_map_clean (htext : 0 ∉ text) : 0 ∉ text.map clean := by
  intro h
  obtain ⟨b, hb, hclean⟩ := List.mem_map.mp h
  exact htext (clean_eq_zero_iff.mp hclean ▸ hb)

/-- Of text and padding, the text is left without the spaces at its end. -/
theorem textBytes_append_padding (htext : 0 ∉ text) (hpad : ∀ b ∈ pad, isPadding b) :
    textBytes (text ++ pad) = (text.map clean).rdropWhile isPadding := by
  have hclean : ∀ b ∈ pad.map clean, isPadding b := by
    intro b hb
    obtain ⟨a, ha, rfl⟩ := List.mem_map.mp hb
    exact (isPadding_clean a).trans (hpad a ha)
  have hnul : ∀ b ∈ (text.map clean).rdropWhile isPadding, b != 0 := by
    intro b hb
    have hmem := (List.rdropWhile_prefix isPadding _).subset hb
    exact bne_iff_ne.mpr fun h ↦ zero_notMem_map_clean htext (h ▸ hmem)
  calc
    textBytes (text ++ pad) =
        ((text.map clean ++ pad.map clean).rdropWhile isPadding).takeWhile (· != 0) := by
      rw [← List.map_append]
      rfl
    _ = ((text.map clean).rdropWhile isPadding).takeWhile (· != 0) := by
      rw [Text.rdropWhile_append_of_all hclean]
    _ = _ := List.takeWhile_eq_self_iff.mpr hnul

/-- In front of a NUL that is not padding all of the text is left, spaces included. -/
theorem textBytes_append_nul (htext : 0 ∉ text) (hafter : ∃ b ∈ after, ¬ isPadding b) :
    textBytes (text ++ 0 :: after) = text.map clean := by
  have hclean : ∃ b ∈ after.map clean, ¬ isPadding b := by
    obtain ⟨a, ha, hpad⟩ := hafter
    exact ⟨clean a, List.mem_map_of_mem ha, by rwa [isPadding_clean]⟩
  have hnul : ∀ b ∈ text.map clean, b != 0 := fun b hb ↦
    bne_iff_ne.mpr fun h ↦ zero_notMem_map_clean htext (h ▸ hb)
  -- Trimming stops in what follows the NUL and does not reach the text.
  calc
    textBytes (text ++ 0 :: after) =
        ((text.map clean ++ [0] ++ after.map clean).rdropWhile isPadding).takeWhile (· != 0) := by
      unfold textBytes
      rw [List.map_append, List.map_cons, List.append_assoc]
      rfl
    _ = (text.map clean ++ ([0] ++ (after.map clean).rdropWhile isPadding)).takeWhile
        (· != 0) := by
      rw [Text.rdropWhile_append_of_exists hclean, List.append_assoc]
    _ = text.map clean ++ [] := List.takeWhile_append_of_pos hnul
    _ = text.map clean := List.append_nil _

/-! ## What is left -/

theorem isPrintable_of_mem_textBytes {b : UInt8} (h : b ∈ textBytes raw) : isPrintable b := by
  have hnul : b ≠ 0 := bne_iff_ne.mp (List.all_eq_true.mp List.all_takeWhile b h)
  have hmem := (List.rdropWhile_prefix isPadding _).subset ((List.takeWhile_prefix _).subset h)
  obtain ⟨a, -, rfl⟩ := List.mem_map.mp hmem
  exact isPrintable_clean (mt clean_eq_zero_iff.mpr hnul)

theorem length_textBytes_le (raw : List UInt8) : (textBytes raw).length ≤ raw.length :=
  calc
    (textBytes raw).length ≤ ((raw.map clean).rdropWhile isPadding).length :=
      (List.takeWhile_prefix _).length_le
    _ ≤ (raw.map clean).length := (List.rdropWhile_prefix isPadding _).length_le
    _ = raw.length := List.length_map _

/-- A space is left at the end only in front of the NUL that cuts the text off. -/
theorem getLast?_textBytes : (textBytes raw).getLast? = some 0x20 ↔ Interrupted raw := by
  constructor
  · intro h
    -- Trimmed text does not end in padding, so the space can only come from a text that is cut.
    cases makeup raw with
    | @padded text pad htext hpad =>
      rw [textBytes_append_padding htext hpad] at h
      have htrimmed := Text.rdropWhile_eq_self_iff_getLast?.mp
        (List.rdropWhile_idempotent isPadding (text.map clean))
      exact absurd (isPadding_iff.mpr (.inr rfl)) (htrimmed 0x20 h)
    | @cut text after htext hafter =>
      rw [textBytes_append_nul htext hafter, List.getLast?_map] at h
      obtain ⟨b, hlast, hb⟩ := Option.map_eq_some_iff.mp h
      cases clean_eq_space_iff.mp hb
      obtain ⟨before, rfl⟩ := List.getLast?_eq_some_iff.mp hlast
      obtain ⟨a, ha, hpad⟩ := hafter
      rw [isPadding_iff, not_or] at hpad
      refine ⟨before, after, by simp, fun hmem ↦ htext (List.mem_append_left _ hmem), a, ha, hpad⟩
  · rintro ⟨text, after, rfl, htext, b, hb, hpad⟩
    have hnul : 0 ∉ text ++ [0x20] := by
      rw [List.mem_append, not_or]
      exact ⟨htext, by decide⟩
    rw [List.append_cons, textBytes_append_nul hnul ⟨b, hb, by rwa [isPadding_iff, not_or]⟩,
      List.map_append]
    exact List.getLast?_concat

/-- Reading a text again trims it at its end, and nothing else. -/
theorem textBytes_textBytes (raw : List UInt8) :
    textBytes (textBytes raw) = (textBytes raw).rdropWhile isPadding := by
  have hnul : 0 ∉ textBytes raw := fun h ↦
    absurd (isPrintable_of_mem_textBytes h) (by decide)
  have hclean : (textBytes raw).map clean = textBytes raw :=
    (List.map_congr_left fun b hb ↦ clean_of_isPrintable (isPrintable_of_mem_textBytes hb)).trans
      (List.map_id _)
  have h := textBytes_append_padding hnul (List.forall_mem_nil (isPadding ·))
  rwa [List.append_nil, hclean] at h

theorem textBytes_textBytes_iff :
    textBytes (textBytes raw) = textBytes raw ↔ ¬ Interrupted raw := by
  rw [textBytes_textBytes, Text.rdropWhile_eq_self_iff_getLast?, ← getLast?_textBytes]
  constructor
  · exact fun h hlast ↦ h 0x20 hlast (isPadding_iff.mpr (.inr rfl))
  · intro h b hlast hpad
    rcases isPadding_iff.mp hpad with rfl | rfl
    · exact absurd (isPrintable_of_mem_textBytes (List.mem_of_getLast? hlast)) (by decide)
    · exact h hlast

end Bytes

/-! ## Texts -/

section Texts

variable {f : Field} {raw raw' : List UInt8}

theorem decode_eq (hf : f.printable) (raw : List UInt8) :
    decode raw f = String.ofList ((textBytes raw).map fun b ↦ Char.ofNat b.toNat) :=
  if_pos hf

theorem utf8_decode (hf : f.printable) (raw : List UInt8) :
    utf8 (decode raw f) = textBytes raw := by
  have hencode : ∀ u : List UInt8, (∀ b ∈ u, isPrintable b) →
      (u.map fun b ↦ Char.ofNat b.toNat).flatMap String.utf8EncodeChar = u := by
    intro u hu
    induction u with
    | nil => rfl
    | cons b u ih =>
      obtain ⟨hb, hu⟩ := List.forall_mem_cons.mp hu
      rw [List.map_cons, List.flatMap_cons, utf8EncodeChar_of_isPrintable hb, ih hu]
      rfl
  rw [decode_eq hf, utf8, String.toUTF8_eq_toByteArray, String.toByteArray_ofList,
    List.utf8Encode, List.toList_data_toByteArray]
  exact hencode _ fun b hb ↦ isPrintable_of_mem_textBytes hb

/-- Two fields of the same text have the same bytes in it. -/
theorem decode_eq_decode_iff (hf : f.printable) :
    decode raw f = decode raw' f ↔ textBytes raw = textBytes raw' := by
  constructor
  · intro h
    rw [← utf8_decode hf, ← utf8_decode hf, h]
  · intro h
    rw [decode_eq hf, decode_eq hf, h]

/-- Padding is cut off from a text that does not end in a space, and the text is shown as it is,
with question marks for what does not print. -/
theorem decode_padded (hf : f.printable) {text pad : List UInt8} (hnul : 0 ∉ text)
    (hspace : text.getLast? ≠ some 0x20) (hpad : ∀ b ∈ pad, b = 0 ∨ b = 0x20) :
    decode (text ++ pad) f = String.ofList
      (text.map fun b ↦ if 0x20 ≤ b ∧ b ≤ 0x7e then Char.ofNat b.toNat else '?') := by
  have htrimmed : (text.map clean).rdropWhile isPadding = text.map clean := by
    refine Text.rdropWhile_eq_self_iff_getLast?.mpr fun c hc ↦ ?_
    rw [List.getLast?_map] at hc
    obtain ⟨b, hlast, rfl⟩ := Option.map_eq_some_iff.mp hc
    rw [isPadding_clean, isPadding_iff]
    rintro (rfl | rfl)
    · exact hnul (List.mem_of_getLast? hlast)
    · exact hspace hlast
  rw [decode_eq hf, textBytes_append_padding hnul fun b hb ↦ isPadding_iff.mpr (hpad b hb),
    htrimmed, List.map_map]
  exact congrArg String.ofList
    (List.map_congr_left fun b hb ↦ ofNat_clean fun h ↦ hnul (h ▸ hb))

/-- A vendor name with bytes that do not print in it and at its end, and mixed padding. -/
theorem decode_padded_garbage :
    decode ([0x41, 0x01, 0x20, 0x42, 0xff] ++ [0x20, 0, 0x20, 0]) (.text 0 17) = "A? B?" :=
  decode_padded rfl (by decide) (by decide) (by simp)

/-- What is decoded is no longer than the field and printable.  It ends in a space, and is then not
decoded as itself again, exactly if the field is interrupted. -/
theorem decode_normal (hf : f.printable) (raw : List UInt8) :
    (decode raw f).length ≤ raw.length ∧
      (∀ c ∈ (decode raw f).toList, 0x20 ≤ c.toNat ∧ c.toNat ≤ 0x7e) ∧
      ((decode raw f).toList.getLast? = some ' ' ↔ Interrupted raw) ∧
      (decode (utf8 (decode raw f)) f = decode raw f ↔ ¬ Interrupted raw) := by
  refine ⟨?_, fun c hc ↦ ?_, ?_, ?_⟩
  · rw [decode_eq hf, String.length_ofList, List.length_map]
    exact length_textBytes_le raw
  · rw [decode_eq hf, String.toList_ofList] at hc
    obtain ⟨b, hb, rfl⟩ := List.mem_map.mp hc
    rw [toNat_ofNat]
    exact isPrintable_iff.mp (isPrintable_of_mem_textBytes hb)
  · rw [decode_eq hf, String.toList_ofList, List.getLast?_map, ← getLast?_textBytes,
      Option.map_eq_some_iff]
    simp only [ofNat_eq_space_iff, exists_eq_right]
  · rw [utf8_decode hf, decode_eq_decode_iff hf, textBytes_textBytes_iff]

/-- A space inside a name and padding of both kinds. -/
theorem decode_normal_spaces :
    decode (utf8 "A B?") (.text 0 9) =
      decode [0x41, 0x20, 0x42, 0xff, 0x20, 0, 0x20] (.text 0 9) := by
  obtain ⟨-, -, hend, hagain⟩ :=
    decode_normal (f := .text 0 9) rfl [0x41, 0x20, 0x42, 0xff, 0x20, 0, 0x20]
  exact hagain.mpr (mt hend.mpr (by decide))

/-- The NUL behind a space is not padding here, since a character follows it.  The name that is left
ends in a space, and a second reading takes it for another one. -/
theorem not_decode_normal :
    decode [0x41, 0x43, 0x4d, 0x45, 0x20, 0, 0x58] (.text 0 8) = "ACME " ∧
      decode (utf8 "ACME ") (.text 0 8) = "ACME" ∧
      ¬ ∀ raw : List UInt8, (decode raw (.text 0 8)).toList.getLast? ≠ some ' ' ∧
        decode (utf8 (decode raw (.text 0 8))) (.text 0 8) = decode raw (.text 0 8) :=
  ⟨by decide, by decide, fun h ↦
    absurd (h [0x41, 0x43, 0x4d, 0x45, 0x20, 0, 0x58]).1 (by decide)⟩

end Texts

end Transceiver.VendorText
