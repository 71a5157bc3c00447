import Mathlib.Data.List.Forall2
import Mathlib.Data.Nat.Digits.Defs
import Mathlib.Tactic.Ring
import Transceiver.Attributes
import Transceiver.Proofs.Trimming

/-!
# Numbers in text

Which texts write a number, and which one, is said by a grammar: blanks around a numeral, which has
a mark if it is hexadecimal, may have one plus sign, and ends in digits whose value is that of
`Nat.ofDigits`.  Main statement: the numbers that attributes are read as are those that they write
and that are within the limit.  Everything else is refused under the name of the attribute, and a
number that is kept in a byte or a word is kept whole.
-/

namespace Transceiver

namespace Text

/-! ## Numerals -/

/-- A character is a digit of a base of at most sixteen; letters may be small or capital. -/
def IsDigit (base : Nat) (c : Char) (d : Nat) : Prop :=
  d < base ∧ (c = d.digitChar ∨ c = d.digitChar.toUpper)

/-- One or more digits, the most significant first. -/
def Digits (base : Nat) (cs : List Char) (n : Nat) : Prop :=
  cs ≠ [] ∧ ∃ ds, List.Forall₂ (IsDigit base) cs ds ∧ Nat.ofDigits base ds.reverse = n

/-- Digits with at most one sign. -/
inductive Unsigned (base : Nat) : List Char → Nat → Prop where
  | plain {cs : List Char} {n : Nat} (h : Digits base cs n) : Unsigned base cs n
  | plus {cs : List Char} {n : Nat} (h : Digits base cs n) : Unsigned base ('+' :: cs) n

/-- An unsigned number in one of the two bases. -/
inductive Numeral : List Char → Nat → Prop where
  | decimal {cs : List Char} {n : Nat} (h : Unsigned 10 cs n) : Numeral cs n
  | hexadecimal {mark : Char} {cs : List Char} {n : Nat} (hmark : mark = 'x' ∨ mark = 'X')
    (h : Unsigned 16 cs n) : Numeral ('0' :: mark :: cs) n

/-- A text is a numeral with blanks around it. -/
def Writes (s : String) (n : Nat) : Prop :=
  ∃ before cs after, s.toList = before ++ cs ++ after ∧ (∀ c ∈ before, isBlank c) ∧
    (∀ c ∈ after, isBlank c) ∧ Numeral cs n

/-! ## Digits -/

/-- Where the digits stand among the characters. -/
theorem toNat_digitChar : ∀ d < 16, d.digitChar.toNat = d + (if d < 10 then 48 else 87) ∧
    d.digitChar.toUpper.toNat = d + if d < 10 then 48 else 55 := by
  decide

theorem digitValue?_digitChar : ∀ d < 16, digitValue? 16 d.digitChar = some d ∧
    digitValue? 16 d.digitChar.toUpper = some d := by
  decide

/-- A character that has a value is the digit of that value. -/
theorem isDigit_of_digitValue? {base d : Nat} {c : Char} (h : digitValue? base c = some d) :
    IsDigit base c d := by
  obtain ⟨hv, hd⟩ := Option.filter_eq_some_iff.mp h
  refine ⟨of_decide_eq_true hd, ?_⟩
  rw [← Char.toNat_inj, ← Char.toNat_inj]
  simp only [Char.le_def, UInt32.le_iff_toNat_le] at hv
  -- The codes of a character of each range are those of the digits of that range.
  split at hv
  · rename_i hc
    change 48 ≤ c.toNat ∧ c.toNat ≤ 57 at hc
    have hvalue : c.toNat - 48 = d := Option.some.inj hv
    have hcode := (toNat_digitChar d (by omega)).1
    rw [if_pos (by omega)] at hcode
    exact .inl (by omega)
  · split at hv
    · rename_i hc
      change 97 ≤ c.toNat ∧ c.toNat ≤ 102 at hc
      have hvalue : c.toNat - 97 + 10 = d := Option.some.inj hv
      have hcode := (toNat_digitChar d (by omega)).1
      rw [if_neg (by omega)] at hcode
      exact .inl (by omega)
    · split at hv
      · rename_i hc
        change 65 ≤ c.toNat ∧ c.toNat ≤ 70 at hc
        have hvalue : c.toNat - 65 + 10 = d := Option.some.inj hv
        have hcode := (toNat_digitChar d (by omega)).2
        rw [if_neg (by omega)] at hcode
        exact .inr (by omega)
      · cases hv

section Reading

variable {base limit n : Nat} (hbase : base ≤ 16)

include hbase

theorem digitValue?_eq_some_iff {c : Char} {d : Nat} :
    digitValue? base c = some d ↔ IsDigit base c d := by
  refine ⟨isDigit_of_digitValue?, fun ⟨hd, hc⟩ ↦ ?_⟩
  obtain ⟨hsmall, hcapital⟩ := digitValue?_digitChar d (hd.trans_le hbase)
  have hvalue : digitValue? 16 c = some d := by
    rcases hc with rfl | rfl
    · exact hsmall
    · exact hcapital
  exact Option.filter_eq_some_iff.mpr
    ⟨(Option.filter_eq_some_iff.mp hvalue).1, decide_eq_true hd⟩

theorem not_isDigit_plus {d : Nat} : ¬ IsDigit base '+' d := fun h ↦
  nomatch (digitValue?_eq_some_iff hbase).mpr h

/-- Digits that are read continue the number before them, as long as it stays within the limit. -/
theorem readDigits_eq_ok_iff {acc : Nat} (hacc : acc ≤ limit) {cs : List Char} :
    readDigits base limit acc cs = .ok n ↔
      n ≤ limit ∧ ∃ ds, List.Forall₂ (IsDigit base) cs ds ∧
        acc * base ^ ds.length + Nat.ofDigits base ds.reverse = n := by
  induction cs generalizing acc with
  | nil =>
    constructor
    · intro h
      cases h
      exact ⟨hacc, [], .nil, by simp⟩
    · rintro ⟨-, ds, hds, hn⟩
      cases hds
      rw [← hn]
      simp [readDigits]
  | cons c cs ih =>
    have hcontinue (d : Nat) (ds : List Nat) :
        acc * base ^ (d :: ds).length + Nat.ofDigits base (d :: ds).reverse =
          (acc * base + d) * base ^ ds.length + Nat.ofDigits base ds.reverse := by
      rw [Nat.ofDigits_reverse_cons, List.length_cons]
      ring
    unfold readDigits
    constructor
    · intro h
      split at h
      · cases h
      · rename_i d hd
        split at h
        · rename_i hle
          obtain ⟨hn, ds, hds, hvalue⟩ := (ih hle).mp h
          exact ⟨hn, d :: ds, .cons (isDigit_of_digitValue? hd) hds, (hcontinue d ds).trans hvalue⟩
        · cases h
    · rintro ⟨hn, ds, hds, hvalue⟩
      cases hds with
      | @cons _ d _ ds hd hds =>
        rw [hcontinue] at hvalue
        -- The number only grows from digit to digit, so the limit is not passed on the way.
        have hle : acc * base + d ≤ limit := by
          have hpos : 0 < base ^ ds.length := Nat.pow_pos (Nat.zero_lt_of_lt hd.1)
          have hgrows := Nat.le_mul_of_pos_right (acc * base + d) hpos
          omega
        rw [(digitValue?_eq_some_iff hbase).mpr hd]
        dsimp only
        rw [if_pos hle]
        exact (ih hle).mpr ⟨hn, ds, hds, hvalue⟩

theorem readDigits_zero_eq_ok_iff {cs : List Char} (hcs : cs ≠ []) :
    readDigits base limit 0 cs = .ok n ↔ n ≤ limit ∧ Digits base cs n := by
  rw [readDigits_eq_ok_iff hbase (Nat.zero_le _)]
  simp only [Nat.zero_mul, Nat.zero_add, Digits, hcs, ne_eq, not_false_eq_true, true_and]

theorem unsigned_plus_iff {cs : List Char} : Unsigned base ('+' :: cs) n ↔ Digits base cs n := by
  refine ⟨fun h ↦ ?_, .plus⟩
  cases h with
  | plain h =>
    obtain ⟨-, ds, hds, -⟩ := h
    cases hds with
    | cons hd _ => exact absurd hd (not_isDigit_plus hbase)
  | plus h => exact h

/-- An unsigned number is read as what it is, if it is within the limit. -/
theorem readUnsigned_eq_ok_iff {cs : List Char} :
    readUnsigned base limit cs = .ok n ↔ n ≤ limit ∧ Unsigned base cs n := by
  unfold readUnsigned
  split
  · refine iff_of_false nofun fun ⟨_, h⟩ ↦ ?_
    cases h with
    | plain h => exact h.1 rfl
  · rw [unsigned_plus_iff hbase]
    exact iff_of_false nofun fun ⟨_, h⟩ ↦ h.1 rfl
  · rename_i hcs
    rw [unsigned_plus_iff hbase, readDigits_zero_eq_ok_iff hbase hcs]
  · rename_i hnil _ hplus
    rw [readDigits_zero_eq_ok_iff hbase hnil]
    refine and_congr_right fun _ ↦ ⟨.plain, fun h ↦ ?_⟩
    cases h with
    | plain h => exact h
    | plus h => exact absurd rfl (hplus _)

end Reading

theorem Digits.isDigit {base n : Nat} {cs : List Char} (h : Digits base cs n) :
    ∀ c ∈ cs, ∃ d, IsDigit base c d := by
  obtain ⟨-, ds, hds, -⟩ := h
  exact ((List.forall₂_and_left cs ds).mp (hds.imp fun _ d hd ↦ ⟨⟨d, hd⟩, hd⟩)).1

theorem Unsigned.eq_plus_or_isDigit {base n : Nat} {cs : List Char} (h : Unsigned base cs n) :
    ∀ c ∈ cs, c = '+' ∨ ∃ d, IsDigit base c d := by
  cases h with
  | plain h => exact fun c hc ↦ .inr (h.isDigit c hc)
  | plus h =>
    intro c hc
    rcases List.mem_cons.mp hc with rfl | hc
    · exact .inl rfl
    · exact .inr (h.isDigit c hc)

/-! ## Bases -/

theorem numberBase_le (cs : List Char) : (numberBase cs).1 ≤ 16 := by
  unfold numberBase
  split
  · exact Nat.le_refl 16
  · exact Nat.le_refl 16
  · exact Nat.le_add_right 10 6

/-- The mark of hexadecimal numbers stands in no decimal number. -/
theorem not_unsigned_of_mark {mark : Char} (hmark : mark = 'x' ∨ mark = 'X') {cs : List Char}
    {n : Nat} : ¬ Unsigned 10 ('0' :: mark :: cs) n := by
  intro h
  rcases h.eq_plus_or_isDigit mark (by simp) with hplus | ⟨d, hd⟩
  · rcases hmark with rfl | rfl <;> cases hplus
  · have hvalue := (digitValue?_eq_some_iff (by decide)).mpr hd
    rcases hmark with rfl | rfl <;> cases hvalue

theorem numeral_iff {cs : List Char} {n : Nat} :
    Numeral cs n ↔ Unsigned (numberBase cs).1 (numberBase cs).2 n := by
  constructor
  · intro h
    cases h with
    | decimal h =>
      unfold numberBase
      split
      · exact absurd h (not_unsigned_of_mark (.inl rfl))
      · exact absurd h (not_unsigned_of_mark (.inr rfl))
      · exact h
    | hexadecimal hmark h => rcases hmark with rfl | rfl <;> exact h
  · unfold numberBase
    split
    · exact .hexadecimal (.inl rfl)
    · exact .hexadecimal (.inr rfl)
    · exact .decimal

/-- Numerals are read by what their mark says. -/
theorem readUnsigned_numberBase {limit n : Nat} {cs : List Char} :
    readUnsigned (numberBase cs).1 limit (numberBase cs).2 = .ok n ↔ n ≤ limit ∧ Numeral cs n := by
  rw [readUnsigned_eq_ok_iff (numberBase_le cs), numeral_iff]

/-! ## Blanks -/

theorem IsDigit.not_isBlank {base d : Nat} {c : Char} (hbase : base ≤ 16)
    (h : IsDigit base c d) : ¬ isBlank c := by
  have hall : ∀ d < 16, ¬ isBlank d.digitChar ∧ ¬ isBlank d.digitChar.toUpper := by decide
  obtain ⟨hsmall, hcapital⟩ := hall d (h.1.trans_le hbase)
  rcases h.2 with rfl | rfl
  · exact hsmall
  · exact hcapital

theorem Unsigned.not_isBlank {base n : Nat} {cs : List Char} (hbase : base ≤ 16)
    (h : Unsigned base cs n) : ∀ c ∈ cs, ¬ isBlank c := by
  intro c hc
  rcases h.eq_plus_or_isDigit c hc with rfl | ⟨d, hd⟩
  · decide
  · exact hd.not_isBlank hbase

theorem Numeral.not_isBlank {cs : List Char} {n : Nat} (h : Numeral cs n) :
    ∀ c ∈ cs, ¬ isBlank c := by
  cases h with
  | decimal h => exact h.not_isBlank (by decide)
  | hexadecimal hmark h =>
    refine List.forall_mem_cons.mpr ⟨by decide, List.forall_mem_cons.mpr ⟨?_, ?_⟩⟩
    · rcases hmark with rfl | rfl <;> decide
    · exact h.not_isBlank (by decide)

/-- A text writes the number that it is without the blanks around it. -/
theorem writes_iff {s : String} {n : Nat} : Writes s n ↔ Numeral (trimmed s.toList) n := by
  constructor
  · rintro ⟨before, cs, after, hs, hbefore, hafter, h⟩
    rw [hs, trimmed_between hbefore hafter h.not_isBlank]
    exact h
  · intro h
    obtain ⟨before, after, hs, hbefore, hafter⟩ := exists_blanks s.toList
    exact ⟨before, _, after, hs, hbefore, hafter, h⟩

end Text

/-! ## Attributes -/

theorem parseNumber_eq_ok_iff {limit n : Nat} {key value : String} :
    parseNumber limit key value = .ok n ↔ Text.Writes value n ∧ n ≤ limit := by
  rw [and_comm, Text.writes_iff, ← Text.readUnsigned_numberBase]
  unfold parseNumber
  dsimp only
  split
  · rename_i m hm
    rw [hm, Except.ok.injEq, Except.ok.injEq]
  · rename_i hfault
    rw [hfault]
    exact iff_of_false nofun nofun

/-- A text is read as a number or refused under its key. -/
theorem parseNumber_eq_ok_or (limit : Nat) (key value : String) :
    (∃ n, parseNumber limit key value = .ok n) ∨ parseNumber limit key value =
      .error (.config ("invalid value '" ++ Text.trim value ++ "' for '" ++ key ++ "'")) := by
  unfold parseNumber
  dsimp only
  split
  · exact .inl ⟨_, rfl⟩
  · exact .inr rfl

/-- A number of eight bits is kept as a byte. -/
theorem toNat_ofNat_of_le {n : Nat} (h : n ≤ 0xff) : (UInt8.ofNat n).toNat = n :=
  UInt8.toNat_ofNat_of_lt' (Nat.lt_succ_of_le h)

/-- A type that has all numbers up to the limit keeps the one that is read. -/
theorem Attributes.toNat_number? {a : Attributes} {limit : Nat} {key value : String}
    (hget : a.get? key = some value) {β : Type} {ofNat : Nat → β} {toNat : β → Nat}
    (hkept : ∀ n ≤ limit, toNat (ofNat n) = n) :
    (Option.map toNat ∘ Option.map ofNat) <$> a.number? limit key =
      some <$> parseNumber limit key value := by
  unfold number?
  rw [hget]
  dsimp only
  cases hn : parseNumber limit key value with
  | error e => rfl
  | ok n => exact congrArg (Except.ok ∘ some) (hkept n (parseNumber_eq_ok_iff.mp hn).2)

/-- The numbers that are read from a text are those that it writes and that are within the limit;
a text without such a number is refused.  An attribute of one, four or eight bytes is the number
itself. -/
theorem parseNumber_exact (key value : String) :
    (∀ limit n, parseNumber limit key value = .ok n ↔ Text.Writes value n ∧ n ≤ limit) ∧
      (∀ limit, (∀ n, Text.Writes value n → limit < n) → parseNumber limit key value =
        .error (.config ("invalid value '" ++ Text.trim value ++ "' for '" ++ key ++ "'"))) ∧
      ∀ a : Attributes, a.get? key = some value →
        Option.map UInt8.toNat <$> a.byte? key = some <$> parseNumber 0xff key value ∧
        Option.map UInt32.toNat <$> a.word? key = some <$> parseNumber 0xffffffff key value ∧
        Option.map Duration.millis <$> a.millis? key =
          some <$> parseNumber 0xffffffffffffffff key value := by
  refine ⟨fun limit n ↦ parseNumber_eq_ok_iff, fun limit hlimit ↦ ?_, fun a hget ↦ ⟨?_, ?_, ?_⟩⟩
  · rcases parseNumber_eq_ok_or limit key value with ⟨n, hn⟩ | h
    · obtain ⟨hwrites, hle⟩ := parseNumber_eq_ok_iff.mp hn
      exact absurd hle (hlimit n hwrites).not_ge
    · exact h
  · rw [← Attributes.toNat_number? hget fun _ ↦ toNat_ofNat_of_le]
    unfold Attributes.byte?
    cases a.number? 0xff key <;> rfl
  · rw [← Attributes.toNat_number? hget fun n hn ↦
      UInt32.toNat_ofNat_of_lt' (Nat.lt_succ_of_le hn)]
    unfold Attributes.word?
    cases a.number? 0xffffffff key <;> rfl
  · rw [← Attributes.toNat_number? hget fun n _ ↦ Duration.millis_ofMillis n]
    unfold Attributes.millis?
    cases a.number? 0xffffffffffffffff key <;> rfl

/-- A hexadecimal number between blanks, which is too large for a byte and not for a word. -/
theorem parseNumber_exact_hexadecimal :
    Text.Writes " 0X+1fF\t" 511 ∧
      parseNumber 0xff "instance" " 0X+1fF\t" =
        .error (.config "invalid value '0X+1fF' for 'instance'") ∧
      Option.map UInt32.toNat <$>
        Attributes.word? ⟨[("instance", " 0X+1fF\t")], ⟨[]⟩⟩ "instance" = .ok (some 511) := by
  obtain ⟨hread, hrefused, hkept⟩ := parseNumber_exact "instance" " 0X+1fF\t"
  have hvalue : parseNumber 0xffffffff "instance" " 0X+1fF\t" = .ok 511 := rfl
  have hlarge (n : Nat) : parseNumber 0xff "instance" " 0X+1fF\t" ≠ .ok n := nofun
  refine ⟨((hread 0xffffffff 511).mp hvalue).1, hrefused 0xff fun n hn ↦ ?_, ?_⟩
  · exact Nat.lt_of_not_le fun hle ↦ hlarge n ((hread 0xff n).mpr ⟨hn, hle⟩)
  · rw [(hkept ⟨[("instance", " 0X+1fF\t")], ⟨[]⟩⟩ rfl).2.1, hvalue]
    rfl

end Transceiver
