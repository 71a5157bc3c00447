import Transceiver.Eeprom
import Transceiver.Proofs.Memory
import Transceiver.Proofs.Run

/-!
# Transactions on a bench

What a transaction makes of a segment, and what the procedures of the bus return on a bench.
-/

namespace Transceiver

/-! ## Segments -/

namespace Segment

/-- Every module shows page zero. -/
def AtHome (s : Segment) : Prop := ∀ address, s.currentPage address = 0

variable {s : Segment} {address offset : UInt8}

/-- A read from a module that answers. -/
theorem read_memory {m : ModuleMemory} {length : Nat}
    (hm : s.device? address = some (.memory m))
    (ht : touches s.faults.reads address offset length = false) :
    s.read address offset length =
      (.ok (m.read offset length),
        s.setDevice address (some (.memory (m.afterRead offset length)))) := by
  unfold read
  rw [ht, hm]
  rfl

/-- What becomes of a write: it is refused, or goes to a module or a bank that answers. -/
theorem write_cases (s : Segment) (address offset : UInt8) (data : List UInt8) :
    ((touches s.faults.writes address offset data.length = true ∨ s.device? address = none) ∧
      s.write address offset data = (.error .notAcknowledged, s)) ∨
    touches s.faults.writes address offset data.length = false ∧
      ((∃ m, s.device? address = some (.memory m) ∧
        s.write address offset data = (.ok (), s.setDevice address
          (some (.memory (m.write (s.discards address) offset data))))) ∨
      ∃ bank, s.device? address = some (.registers bank) ∧
        s.write address offset data = (.ok (), s.setDevice address
          (some (.registers (bank.write offset data))))) := by
  unfold write
  cases ht : touches s.faults.writes address offset data.length with
  | true => exact .inl ⟨.inl rfl, rfl⟩
  | false =>
    cases hd : s.device? address with
    | none => exact .inl ⟨.inr rfl, rfl⟩
    | some d =>
      cases d with
      | memory m => exact .inr ⟨rfl, .inl ⟨m, rfl, rfl⟩⟩
      | registers bank => exact .inr ⟨rfl, .inr ⟨bank, rfl, rfl⟩⟩

/-- A write to a module that answers. -/
theorem write_memory {m : ModuleMemory} {data : List UInt8}
    (hm : s.device? address = some (.memory m))
    (ht : touches s.faults.writes address offset data.length = false) :
    s.write address offset data =
      (.ok (), s.setDevice address
        (some (.memory (m.write (s.discards address) offset data)))) := by
  unfold write
  rw [ht, hm]
  rfl

end Segment

/-! ## One module of a bench -/

namespace Segment

theorem setDevice_self {s : Segment} {address : UInt8} {d : Option Device}
    (h : s.device? address = d) : s.setDevice address d = s := by
  obtain ⟨device?, faults⟩ := s
  refine congrArg (Segment.mk · faults) (funext fun a ↦ ?_)
  by_cases ha : a = address
  · rw [if_pos ha, ha]
    exact h.symm
  · rw [if_neg ha]

theorem setDevice_setDevice (s : Segment) (address : UInt8) (d d' : Option Device) :
    (s.setDevice address d).setDevice address d' = s.setDevice address d' := by
  refine congrArg (Segment.mk · s.faults) (funext fun a ↦ ?_)
  by_cases ha : a = address <;> simp [setDevice, ha]

theorem device?_of_module? {s : Segment} {address : UInt8} {m : ModuleMemory}
    (h : s.module? address = some m) : s.device? address = some (.memory m) := by
  unfold module? at h
  split at h
  · rename_i m' hm
    cases h
    exact hm
  · cases h

/-- No transaction is made to fail, and no write is lost. -/
def Faultless (s : Segment) : Prop := s.faults = ⟨[], [], []⟩

namespace Faultless

variable {s : Segment} (h : s.Faultless)
include h

theorem touches_reads (address offset : UInt8) (length : Nat) :
    touches s.faults.reads address offset length = false := by
  rw [h]
  rfl

theorem touches_writes (address offset : UInt8) (length : Nat) :
    touches s.faults.writes address offset length = false := by
  rw [h]
  rfl

theorem discards_eq (address : UInt8) : s.discards address = fun _ ↦ false := by
  unfold discards
  rw [h]
  rfl

end Faultless

end Segment

namespace Bench

/-- The bench with a module at an address. -/
def withModule (b : Bench) (address : UInt8) (m : ModuleMemory) : Bench :=
  { b with segment := b.segment.setDevice address (some (.memory m)) }

variable {b : Bench} {address : UInt8} {m : ModuleMemory}

theorem withModule_self (h : b.segment.device? address = some (.memory m)) :
    b.withModule address m = b :=
  congrArg (Bench.mk · b.pin) (Segment.setDevice_self h)

theorem device?_withModule (b : Bench) (address : UInt8) (m : ModuleMemory) :
    (b.withModule address m).segment.device? address = some (.memory m) := if_pos rfl

theorem faultless_withModule (h : b.segment.Faultless) :
    (b.withModule address m).segment.Faultless := h

@[simp] theorem withModule_withModule (b : Bench) (address : UInt8) (m m' : ModuleMemory) :
    (b.withModule address m).withModule address m' = b.withModule address m' :=
  congrArg (Bench.mk · b.pin) (Segment.setDevice_setDevice _ _ _ _)

end Bench

/-! ## The bus of a bench -/

/-- Time passes without a change. -/
theorem settle_runsTo (span : Duration) (b : Bench) :
    (liftM (settle span) : Procedure Unit).RunsTo Bench.answer b (.ok ()) b := by
  unfold settle
  split <;> exact ⟨rfl, rfl⟩

namespace Bus

variable (address offset : UInt8)

/-- A read is a single transaction. -/
theorem run_read (length : Nat) :
    (read address offset length).run =
      .ask (.read address offset length) fun r ↦ .done (r.mapError (.bus address offset)) := by
  refine congrArg (Program.ask _) (funext fun r ↦ ?_)
  cases r <;> rfl

/-- So is a write. -/
theorem run_write (data : List UInt8) :
    (write address offset data).run =
      .ask (.write address offset data) fun r ↦ .done (r.mapError (.bus address offset)) := by
  refine congrArg (Program.ask _) (funext fun r ↦ ?_)
  cases r <;> rfl

variable (b : Bench)

theorem value_read (length : Nat) :
    (read address offset length).run.value Bench.answer b =
      (b.segment.read address offset length).1.mapError (.bus address offset) := by
  rw [run_read]
  rfl

theorem final_read (length : Nat) :
    (read address offset length).run.final Bench.answer b =
      { b with segment := (b.segment.read address offset length).2 } := by
  rw [run_read]
  rfl

theorem value_write (data : List UInt8) :
    (write address offset data).run.value Bench.answer b =
      (b.segment.write address offset data).1.mapError (.bus address offset) := by
  rw [run_write]
  rfl

theorem final_write (data : List UInt8) :
    (write address offset data).run.final Bench.answer b =
      { b with segment := (b.segment.write address offset data).2 } := by
  rw [run_write]
  rfl

end Bus

/-! ## Pages -/

namespace Selected

variable {α : Type} (device page : UInt8) (body : Procedure α) (b : Bench)

/-- The bench with a page of a device selected, as far as that is possible. -/
def turned : Bench := { b with segment := (b.segment.write device QsfpMap.pageSelect [page]).2 }

theorem final_selectPage :
    (selectPage device page).run.final Bench.answer b = turned device page b :=
  Bus.final_write device _ b _

theorem value_selectPage :
    (selectPage device page).run.value Bench.answer b =
      (b.segment.write device QsfpMap.pageSelect [page]).1.mapError
        (.bus device QsfpMap.pageSelect) := Bus.value_write device _ b _

variable {device page b}

/-- Without its page, a procedure is not run. -/
theorem final_onPage_of_error {fault : BusFault}
    (h : (b.segment.write device QsfpMap.pageSelect [page]).1 = .error fault) :
    (onPage device page body).run.final Bench.answer b = turned device page b := by
  change ((selectPage device page).run.bind _).final Bench.answer b = _
  rw [Program.final_bind, value_selectPage, h, final_selectPage]
  rfl

theorem value_onPage_of_error {fault : BusFault}
    (h : (b.segment.write device QsfpMap.pageSelect [page]).1 = .error fault) :
    (onPage device page body).run.value Bench.answer b =
      .error (.bus device QsfpMap.pageSelect fault) := by
  change ((selectPage device page).run.bind _).value Bench.answer b = _
  rw [Program.value_bind, value_selectPage, h]
  rfl

variable (h : (b.segment.write device QsfpMap.pageSelect [page]).1 = .ok ())
include h

/-- With its page selected, a procedure returns what it returns there. -/
theorem value_onPage :
    (onPage device page body).run.value Bench.answer b =
      body.run.value Bench.answer (turned device page b) := by
  change ((selectPage device page).run.bind _).value Bench.answer b = _
  rw [Program.value_bind, value_selectPage, h, final_selectPage]
  change (body.run.bind _).value Bench.answer _ = _
  rw [Program.value_bind]
  change ((selectPage device 0).run.bind _).value Bench.answer _ = _
  rw [Program.value_bind]
  cases (selectPage device 0).run.value Bench.answer
    (body.run.final Bench.answer (turned device page b)) <;> rfl

/-- Page zero is selected from where the procedure ends, whatever that returns. -/
theorem final_onPage :
    (onPage device page body).run.final Bench.answer b =
      turned device 0 (body.run.final Bench.answer (turned device page b)) := by
  change ((selectPage device page).run.bind _).final Bench.answer b = _
  rw [Program.final_bind, value_selectPage, h, final_selectPage]
  change (body.run.bind _).final Bench.answer _ = _
  rw [Program.final_bind]
  change ((selectPage device 0).run.bind _).final Bench.answer _ = _
  rw [Program.final_bind, final_selectPage]
  cases (selectPage device 0).run.value Bench.answer
    (body.run.final Bench.answer (turned device page b)) <;> rfl

end Selected

end Transceiver
