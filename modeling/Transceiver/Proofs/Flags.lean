import Mathlib.Logic.Basic
import Transceiver.Status

/-!
# Flags as sets

A set of flags is the set of its bits.  What is reported of a quantity depends only on the levels
whose flags are asked for, and never is a high level reported together with the low one.
-/

namespace Transceiver

variable {k : Subject}

/-! ## Bits -/

namespace Flags

/-- The flag of a bit is in the set. -/
instance : Membership Nat (Flags k) := ⟨fun s i ↦ s.bits.toBitVec.getLsbD i = true⟩

variable {a b c : Flags k} {i : Nat}

theorem mem_iff : i ∈ a ↔ a.bits.toBitVec.getLsbD i = true := Iff.rfl

@[simp] theorem not_mem_empty : i ∉ (empty : Flags k) := by
  simp [mem_iff]

@[simp] theorem mem_or : i ∈ a ||| b ↔ i ∈ a ∨ i ∈ b := by
  simp [mem_iff]

@[simp] theorem mem_and : i ∈ a &&& b ↔ i ∈ a ∧ i ∈ b := by
  simp [mem_iff]

/-- Sets with the same bits are the same. -/
theorem eq_of_mem_iff (h : ∀ i, i ∈ a ↔ i ∈ b) : a = b := by
  refine Flags.ext (UInt32.toBitVec_inj.mp (BitVec.eq_of_getLsbD_eq fun i _ ↦ ?_))
  exact Bool.eq_iff_iff.mpr (h i)

theorem contains_iff : a.contains b = true ↔ ∀ i ∈ b, i ∈ a := by
  have hcontains : a.contains b = true ↔ a &&& b = b := by
    rw [Flags.ext_iff]
    exact beq_iff_eq
  rw [hcontains]
  constructor
  · intro h i hi
    rw [← h] at hi
    exact (mem_and.mp hi).1
  · exact fun h ↦ eq_of_mem_iff fun i ↦ mem_and.trans ⟨And.right, fun hi ↦ ⟨h i hi, hi⟩⟩

theorem intersects_eq_false : a.intersects b = false ↔ ∀ i ∈ a, i ∉ b := by
  have hintersects : a.intersects b = false ↔ a &&& b = empty := by
    rw [Flags.ext_iff]
    exact bne_eq_false_iff_eq
  rw [hintersects]
  constructor
  · intro h i hi hi'
    have hboth : i ∈ a &&& b := mem_and.mpr ⟨hi, hi'⟩
    rw [h] at hboth
    exact not_mem_empty hboth
  · exact fun h ↦ eq_of_mem_iff fun i ↦
      ⟨fun hi ↦ absurd (mem_and.mp hi).2 (h i (mem_and.mp hi).1), fun hi ↦ absurd hi not_mem_empty⟩

/-- What meets a set meets every larger one. -/
theorem intersects_mono (hc : c.contains b = true) (h : a.intersects b = true) :
    a.intersects c = true := by
  cases hac : a.intersects c with
  | true => rfl
  | false =>
    have hab : a.intersects b = false := intersects_eq_false.mpr fun i hi hb ↦
      intersects_eq_false.mp hac i hi (contains_iff.mp hc i hb)
    exact hab.symm.trans h

theorem intersects_of_contains (hc : c.contains a = true) (h : a.intersects b = true) :
    c.intersects b = true := by
  cases hcb : c.intersects b with
  | true => rfl
  | false =>
    have hab : a.intersects b = false := intersects_eq_false.mpr fun i hi ↦
      intersects_eq_false.mp hcb i (contains_iff.mp hc i hi)
    exact hab.symm.trans h

theorem contains_trans (h : a.contains b = true) (h' : b.contains c = true) :
    a.contains c = true :=
  contains_iff.mpr fun i hi ↦ contains_iff.mp h i (contains_iff.mp h' i hi)

end Flags

/-- A condition of a channel is a single flag, that a set has or has no part of. -/
theorem ChannelStatus.intersects_eq_false {flag : ChannelStatus}
    (hflag : flag ∈ [txDisable, txFault, txLoss, rxLoss]) {s : ChannelStatus}
    (h : s.contains flag = false) : s.intersects flag = false := by
  have hbit : ∃ n, ∀ i ∈ flag, i = n := by
    have hword : ∀ flag ∈ [txDisable, txFault, txLoss, rxLoss],
        ∃ n < 4, ∀ i < 32, flag.bits.toBitVec.getLsbD i = true → i = n := by decide
    obtain ⟨n, -, hn⟩ := hword flag hflag
    exact ⟨n, fun i hi ↦ hn i (BitVec.lt_of_getLsbD hi) hi⟩
  obtain ⟨n, hn⟩ := hbit
  rw [← Bool.not_eq_true, Flags.contains_iff] at h
  refine Flags.intersects_eq_false.mpr fun i hi hi' ↦ h fun j hj ↦ ?_
  rw [hn j hj, ← hn i hi']
  exact hi

/-! ## Quantities -/

/-- The quantities that a subject is monitored for. -/
def Subject.quads : (k : Subject) → List (FlagQuad k)
  | .module => [ModuleStatus.temperature, ModuleStatus.voltage]
  | .channelMonitor =>
    [ChannelMonitorStatus.rxPower, ChannelMonitorStatus.txBias, ChannelMonitorStatus.txPower]
  | .channel => []

namespace FlagQuad

/-- The high and the low flag of a level are not both in the set. -/
def Settled (q : FlagQuad k) (s : Flags k) : Prop :=
  ¬ (s.contains q.highAlarm = true ∧ s.contains q.lowAlarm = true) ∧
    ¬ (s.contains q.highWarning = true ∧ s.contains q.lowWarning = true)

instance (q : FlagQuad k) (s : Flags k) : Decidable (q.Settled s) :=
  inferInstanceAs (Decidable (_ ∧ _))

variable {q : FlagQuad k} {s s' : Flags k} {i : Nat}

theorem mem_alarms : i ∈ q.alarms ↔ i ∈ q.highAlarm ∨ i ∈ q.lowAlarm := Flags.mem_or

theorem mem_warnings : i ∈ q.warnings ↔ i ∈ q.highWarning ∨ i ∈ q.lowWarning := Flags.mem_or

theorem mem_all : i ∈ q.all ↔ i ∈ q.alarms ∨ i ∈ q.warnings := Flags.mem_or

/-- Whether a set is settled depends on the flags of the quantity alone, and less is settled as
well. -/
theorem Settled.of_subset (h : q.Settled s) (hs : ∀ i ∈ q.all, i ∈ s' → i ∈ s) :
    q.Settled s' := by
  have hcontains {flag : Flags k} (hflag : ∀ i ∈ flag, i ∈ q.all)
      (h : s'.contains flag = true) : s.contains flag = true :=
    Flags.contains_iff.mpr fun i hi ↦ hs i (hflag i hi) (Flags.contains_iff.mp h i hi)
  have halarms : ∀ i ∈ q.alarms, i ∈ q.all := fun i hi ↦ mem_all.mpr (.inl hi)
  have hwarnings : ∀ i ∈ q.warnings, i ∈ q.all := fun i hi ↦ mem_all.mpr (.inr hi)
  refine ⟨fun h' ↦ h.1 ⟨?_, ?_⟩, fun h' ↦ h.2 ⟨?_, ?_⟩⟩
  · exact hcontains (fun i hi ↦ halarms i (mem_alarms.mpr (.inl hi))) h'.1
  · exact hcontains (fun i hi ↦ halarms i (mem_alarms.mpr (.inr hi))) h'.2
  · exact hcontains (fun i hi ↦ hwarnings i (mem_warnings.mpr (.inl hi))) h'.1
  · exact hcontains (fun i hi ↦ hwarnings i (mem_warnings.mpr (.inr hi))) h'.2

end FlagQuad

namespace Levels

variable {l l' : Levels} {q : FlagQuad k} {i : Nat}

/-- The alarm that is reported. -/
theorem mem_reduce : i ∈ l.reduce q ↔
    (if l.highAlarm then i ∈ q.highAlarm else l.lowAlarm = true ∧ i ∈ q.lowAlarm) ∨
      if l.highWarning then i ∈ q.highWarning else l.lowWarning = true ∧ i ∈ q.lowWarning := by
  obtain ⟨highAlarm, lowAlarm, highWarning, lowWarning⟩ := l
  cases highAlarm <;> cases lowAlarm <;> cases highWarning <;> cases lowWarning <;> simp [reduce]

/-- What is reported of a quantity is some of its flags. -/
theorem mem_all_of_mem_reduce (h : i ∈ l.reduce q) : i ∈ q.all := by
  rw [mem_reduce] at h
  rw [FlagQuad.mem_all, FlagQuad.mem_alarms, FlagQuad.mem_warnings]
  grind

/-- What is reported of a quantity is settled, for every quantity. -/
theorem settled_reduce (l : Levels) (hq : q ∈ k.quads) {q' : FlagQuad k} (hq' : q' ∈ k.quads) :
    q'.Settled (l.reduce q) := by
  have hall : ∀ q ∈ k.quads, ∀ q' ∈ k.quads, q'.Settled (l.reduce q) := by
    obtain ⟨highAlarm, lowAlarm, highWarning, lowWarning⟩ := l
    cases k <;> cases highAlarm <;> cases lowAlarm <;> cases highWarning <;> cases lowWarning <;>
      decide
  exact hall q hq q' hq'

/-- Of the flags in a set those are reported alike of which the levels are alike. -/
theorem mem_reduce_congr {G : Flags k}
    (halarms : G.intersects q.alarms = true →
      l.highAlarm = l'.highAlarm ∧ l.lowAlarm = l'.lowAlarm)
    (hwarnings : G.intersects q.warnings = true →
      l.highWarning = l'.highWarning ∧ l.lowWarning = l'.lowWarning) (hi : i ∈ G) :
    i ∈ l.reduce q ↔ i ∈ l'.reduce q := by
  have hmem {flags : Flags k} (h : G.intersects flags ≠ true) : i ∉ flags :=
    Flags.intersects_eq_false.mp (Bool.eq_false_iff.mpr h) i hi
  have halarm : G.intersects q.alarms = true ∨ i ∉ q.highAlarm ∧ i ∉ q.lowAlarm := by
    rw [← not_or, ← FlagQuad.mem_alarms]
    exact or_iff_not_imp_left.mpr hmem
  have hwarning : G.intersects q.warnings = true ∨ i ∉ q.highWarning ∧ i ∉ q.lowWarning := by
    rw [← not_or, ← FlagQuad.mem_warnings]
    exact or_iff_not_imp_left.mpr hmem
  rw [mem_reduce, mem_reduce]
  refine or_congr ?_ ?_
  · rcases halarm with h | h
    · rw [(halarms h).1, (halarms h).2]
    · simp [h.1, h.2]
  · rcases hwarning with h | h
    · rw [(hwarnings h).1, (hwarnings h).2]
    · simp [h.1, h.2]

end Levels

end Transceiver
