import Transceiver.Simulation.Bench

/-!
# What transactions do to the memory of a module

A write that does not reach the byte that selects a page goes to one page as a whole; `put` says
what it makes of the module.  A write elsewhere leaves that byte, and so the page, as it is.
-/

namespace Transceiver

/-- Whether a transaction of some bytes from an offset on touches a byte. -/
def Covers (offset : UInt8) (length : Nat) (o : UInt8) : Prop :=
  offset.toNat ≤ o.toNat ∧ o.toNat < offset.toNat + length

instance (offset : UInt8) (length : Nat) (o : UInt8) : Decidable (Covers offset length o) :=
  inferInstanceAs (Decidable (_ ∧ _))

/-- A byte covers itself alone. -/
@[simp] theorem covers_one {offset o : UInt8} : Covers offset 1 o ↔ offset = o := by
  rw [← UInt8.toNat_inj]
  unfold Covers
  omega

namespace ModuleMemory

variable (m : ModuleMemory)

/-- The module with some bytes on a page from an offset on, as far as the device reaches. -/
def put (page : UInt8) (offset : Nat) (data : List UInt8) : ModuleMemory :=
  { m with cell := fun p o ↦
      if p = home page o ∧ offset ≤ o.toNat then (data[o.toNat - offset]?).getD (m.cell p o)
      else m.cell p o }

@[simp] theorem put_nil (page : UInt8) (offset : Nat) : m.put page offset [] = m := by
  simp [put]

/-- The bytes that are put on a page are found there. -/
theorem get_put_self (page : UInt8) {offset i : Nat} {data : List UInt8} (hi : i < data.length)
    (hrange : offset + i < 256) :
    (m.put page offset data).get page (.ofNat (offset + i)) = data[i] := by
  have hval : (UInt8.ofNat (offset + i)).toNat = offset + i := UInt8.toNat_ofNat_of_lt' hrange
  have hindex : offset + i - offset = i := by omega
  refine (if_pos ⟨rfl, by omega⟩).trans ?_
  rw [hval, hindex, List.getElem?_eq_getElem hi]
  rfl

/-- No other byte changes. -/
theorem cell_put_of_not {page p offset o : UInt8} {data : List UInt8}
    (h : ¬ (p = home page o ∧ Covers offset data.length o)) :
    (m.put page offset.toNat data).cell p o = m.cell p o := by
  refine ite_eq_right_iff.mpr fun ⟨hp, hle⟩ ↦ ?_
  have hout : ¬ o.toNat < offset.toNat + data.length := fun hlt ↦ h ⟨hp, hle, hlt⟩
  rw [List.getElem?_eq_none (by omega)]
  rfl

theorem get_put_of_not {page page' offset o : UInt8} {data : List UInt8}
    (h : ¬ (home page' o = home page o ∧ Covers offset data.length o)) :
    (m.put page offset.toNat data).get page' o = m.get page' o := m.cell_put_of_not h

/-- Putting a byte and then those after it puts all of them. -/
theorem put_set (page b : UInt8) (bs : List UInt8) {offset : Nat} (h : offset < 256) :
    (m.set page (.ofNat offset) b).put page (offset + 1) bs = m.put page offset (b :: bs) := by
  have hoffset : (UInt8.ofNat offset).toNat = offset := UInt8.toNat_ofNat_of_lt' h
  unfold put
  congr 1
  funext p o
  have ho : o = .ofNat offset ↔ o.toNat = offset := by rw [← UInt8.toNat_inj, hoffset]
  simp only [set, ho]
  rcases Nat.lt_trichotomy offset o.toNat with hlt | heq | hgt
  · have h₁ : o.toNat - offset = (o.toNat - (offset + 1)) + 1 := by omega
    have h₂ : ¬ o.toNat = offset := by omega
    have h₃ : offset + 1 ≤ o.toNat := hlt
    have h₄ : offset ≤ o.toNat := Nat.le_of_lt hlt
    simp [h₁, h₂, h₃, h₄]
  · subst heq
    have ho : UInt8.ofNat o.toNat = o := UInt8.ofNat_toNat
    have h : ¬ o.toNat + 1 ≤ o.toNat := by omega
    by_cases hp : p = home page o <;> simp [hp, ho, h]
  · have h₁ : ¬ o.toNat = offset := by omega
    have h₂ : ¬ offset + 1 ≤ o.toNat := by omega
    have h₃ : ¬ offset ≤ o.toNat := by omega
    simp [h₁, h₂, h₃]

/-! ## The page that is selected -/

theorem currentPage_set_of_ne {page offset value : UInt8} (h : offset ≠ QsfpMap.pageSelect) :
    (m.set page offset value).currentPage = m.currentPage :=
  get_set_of_ne m value fun h' ↦ h h'.2.symm

theorem ofNat_ne_pageSelect {offset : Nat} {b : UInt8} {bs : List UInt8} (hlt : offset < 256)
    (h : ¬ (offset ≤ QsfpMap.pageSelect.toNat ∧
      QsfpMap.pageSelect.toNat < offset + (b :: bs).length)) :
    UInt8.ofNat offset ≠ QsfpMap.pageSelect := by
  intro heq
  have := congrArg UInt8.toNat heq
  rw [UInt8.toNat_ofNat_of_lt' hlt] at this
  exact h ⟨Nat.le_of_eq this, by simp [this]⟩

/-- A write that does not reach the byte that selects a page leaves the page as it is. -/
theorem currentPage_store (discards : UInt8 → Bool) {offset : Nat} {data : List UInt8}
    (h : ¬ (offset ≤ QsfpMap.pageSelect.toNat ∧
      QsfpMap.pageSelect.toNat < offset + data.length)) :
    (m.store discards offset data).currentPage = m.currentPage := by
  induction data generalizing m offset with
  | nil => rfl
  | cons b bs ih =>
    unfold store
    split
    · rename_i hlt
      have hne : UInt8.ofNat offset ≠ QsfpMap.pageSelect := ofNat_ne_pageSelect hlt h
      rw [ih]
      · split
        · rfl
        · exact currentPage_set_of_ne m hne
      · rw [List.length_cons] at h
        omega
    · rfl

theorem currentPage_deliver (word : UInt16) : (m.deliver word).currentPage = m.currentPage := by
  unfold deliver
  rw [currentPage_set_of_ne _ (by decide), currentPage_set_of_ne _ (by decide)]

theorem currentPage_post (p : Packet) : (m.post p).currentPage = m.currentPage := by
  unfold post
  split
  · rfl
  · split
    · exact currentPage_deliver _ _
    · rfl

theorem currentPage_afterRead (offset : UInt8) (length : Nat) :
    (m.afterRead offset length).currentPage = m.currentPage := by
  unfold afterRead
  split <;> rfl

theorem currentPage_write (discards : UInt8 → Bool) {offset : UInt8} {data : List UInt8}
    (h : ¬ Covers offset data.length QsfpMap.pageSelect) :
    (m.write discards offset data).currentPage = m.currentPage := by
  unfold write
  dsimp only
  split
  · rw [currentPage_post, currentPage_store m discards h]
  · exact currentPage_store m discards h

/-- Writing the byte that selects a page selects it, unless the write is lost. -/
theorem write_pageSelect (discards : UInt8 → Bool) (page : UInt8) :
    m.write discards QsfpMap.pageSelect [page] =
      if discards QsfpMap.pageSelect then m else m.set 0 QsfpMap.pageSelect page := rfl

/-! ## Plain bytes -/

/-- None of the bytes of a transaction selects a page or belongs to a mailbox. -/
def Plain (offset : UInt8) (length : Nat) : Prop :=
  ¬ Covers offset length QsfpMap.pageSelect ∧
    (m.mailbox.isSome → ∀ o, packetOffset ≤ o → ¬ Covers offset length o)

/-- Without losses a write in a row is put on the page that is selected. -/
theorem store_eq_put {offset : Nat} {data : List UInt8}
    (h : ¬ (offset ≤ QsfpMap.pageSelect.toNat ∧
      QsfpMap.pageSelect.toNat < offset + data.length)) :
    m.store (fun _ ↦ false) offset data = m.put m.currentPage offset data := by
  induction data generalizing m offset with
  | nil => exact (m.put_nil _ _).symm
  | cons b bs ih =>
    unfold store
    split
    · rename_i hlt
      have hne : UInt8.ofNat offset ≠ QsfpMap.pageSelect := ofNat_ne_pageSelect hlt h
      have hrest : ¬ (offset + 1 ≤ QsfpMap.pageSelect.toNat ∧
          QsfpMap.pageSelect.toNat < offset + 1 + bs.length) := by
        rw [List.length_cons] at h
        omega
      calc (m.set m.currentPage (.ofNat offset) b).store (fun _ ↦ false) (offset + 1) bs
        _ = (m.set m.currentPage (.ofNat offset) b).put m.currentPage (offset + 1) bs := by
          rw [ih _ hrest, currentPage_set_of_ne m hne]
        _ = m.put m.currentPage offset (b :: bs) := m.put_set _ b bs hlt
    · rename_i hlt
      refine congrArg (ModuleMemory.mk · m.mailbox) (funext fun p ↦ funext fun o ↦ ?_)
      have := o.toNat_lt
      rw [if_neg fun ho ↦ by omega]

/-- Plain bytes that are put on a page leave the page that is selected as it is. -/
theorem currentPage_put (page : UInt8) {offset : UInt8} {data : List UInt8}
    (h : ¬ Covers offset data.length QsfpMap.pageSelect) :
    (m.put page offset.toNat data).currentPage = m.currentPage :=
  m.get_put_of_not fun hc ↦ h hc.2

variable {m} {offset : UInt8} {length : Nat} {data : List UInt8}

theorem post_of_none (h : m.mailbox = none) (p : Packet) : m.post p = m := by
  unfold post
  rw [h]

/-- A write of plain bytes is put on the page that is selected. -/
theorem write_eq_put (h : m.Plain offset data.length) :
    m.write (fun _ ↦ false) offset data = m.put m.currentPage offset.toNat data := by
  unfold write
  split
  · rename_i p hp
    have hoffset : offset = packetOffset ∧ data.length = Packet.size := by
      unfold packet? at hp
      split at hp
      · assumption
      · cases hp
    have hmailbox : m.mailbox = none := by
      rw [Option.eq_none_iff_forall_ne_some]
      intro b hb
      refine h.2 (by simp [hb]) packetOffset (UInt8.le_refl _) ?_
      rw [hoffset.1, hoffset.2]
      decide
    have hstore := m.store_eq_put h.1
    have hput : (m.put m.currentPage offset.toNat data).mailbox = none := hmailbox
    rw [hstore]
    exact post_of_none hput p
  · exact m.store_eq_put h.1

/-- A read of plain bytes counts for no mailbox. -/
theorem afterRead_eq_self (h : m.Plain offset length) :
    m.afterRead offset length = m := by
  unfold afterRead
  split
  · rename_i hreach
    have hmailbox : m.mailbox = none := by
      rw [Option.eq_none_iff_forall_ne_some]
      intro b hb
      refine h.2 (by simp [hb]) mailboxStatusOffset (by decide) ⟨?_, hreach⟩
      have := offset.toNat_lt
      exact Nat.le_of_lt_succ this
    obtain ⟨cell, mailbox⟩ := m
    cases hmailbox
    rfl
  · rfl

/-- A read of plain bytes returns those of the page that is selected. -/
theorem read_eq_get (h : m.Plain offset length) (hrange : offset.toNat + length ≤ 256) :
    m.read offset length =
      .ofFn fun i ↦ m.get m.currentPage (.ofNat (offset.toNat + i)) := by
  unfold read
  congr 1
  funext i
  have hi := i.isLt
  rw [if_pos (by omega)]
  unfold fetch
  split
  · rename_i b hb
    split
    · rename_i ho
      exfalso
      have hlt : offset.toNat + i.val < 256 := by omega
      have hval := UInt8.toNat_ofNat_of_lt' hlt
      refine h.2 (by simp [hb]) mailboxStatusOffset (by decide) ?_
      rw [← ho]
      unfold Covers
      omega
    · rfl
  · rfl

/-! ## The mailbox -/

section Mailbox

variable {b : PhyMailbox}

theorem mailbox_store (m : ModuleMemory) (discards : UInt8 → Bool) (offset : Nat)
    (data : List UInt8) : (m.store discards offset data).mailbox = m.mailbox := by
  induction data generalizing m offset with
  | nil => rfl
  | cons b bs ih =>
    unfold store
    split
    · rw [ih]
      split <;> rfl
    · rfl

/-- A packet that is posted is taken in by the mailbox. -/
theorem mailbox_post (h : m.mailbox = some b) (p : Packet) :
    (m.post p).mailbox = some (b.submit p).2 := by
  unfold post
  rw [h]
  obtain ⟨reply, b', hsubmit⟩ : ∃ reply b', b.submit p = (reply, b') := ⟨_, _, rfl⟩
  dsimp only
  rw [hsubmit]
  cases reply <;> rfl

/-- The word that a packet reads is found behind it. -/
theorem get_post (h : m.mailbox = some b) {p : Packet} {word : UInt16}
    (hword : (b.submit p).1 = some word) :
    (m.post p).get (m.post p).currentPage resultOffset = highByte word ∧
      (m.post p).get (m.post p).currentPage (resultOffset + 1) = lowByte word := by
  rw [currentPage_post]
  unfold post
  rw [h]
  obtain ⟨reply, b', hsubmit⟩ : ∃ reply b', b.submit p = (reply, b') := ⟨_, _, rfl⟩
  dsimp only
  rw [hsubmit] at hword ⊢
  cases hword
  unfold deliver
  constructor
  · rw [get_set_of_ne _ _ fun h ↦ absurd h.2 (by decide)]
    exact get_set_self _ _ _ _
  · exact get_set_self _ _ _ _

end Mailbox

end ModuleMemory

@[simp] theorem MailboxOp.ofByte_code (op : MailboxOp) : ofByte op.code = .ok op := by
  cases op with
  | read => exact if_pos (by decide)
  | write => exact (if_neg (by decide)).trans (if_pos (by decide))

/-- A packet is what is decoded from its bytes. -/
theorem Packet.decode_encode (p : Packet) : decode p.encode = .ok p := by
  unfold encode decode
  dsimp only
  rw [MailboxOp.ofByte_code, word16_bytes, word16_bytes]
  rfl

/-- The bytes of a packet are posted to the mailbox. -/
theorem ModuleMemory.write_packet (m : ModuleMemory) (discards : UInt8 → Bool) (p : Packet) :
    m.write discards packetOffset p.encode =
      (m.store discards packetOffset.toNat p.encode).post p := by
  have hpacket : packet? packetOffset p.encode = some p := by
    unfold packet?
    rw [if_pos ⟨rfl, p.length_encode⟩, Packet.decode_encode]
    rfl
  unfold write
  rw [hpacket]

end Transceiver
