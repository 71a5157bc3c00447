import Transceiver.Proofs.Conduct.Sfp

/-!
# Devices that transactions go to

What a driver does to the module in an SFP cage goes to the device of the cage, to the diagnostics
or to the PHY.  Whether a module has pages and whether it can be tuned are asked of the standard
device of the serial ID, whatever the device of the cage is.
-/

namespace Transceiver

/-- The device that a transaction goes to. -/
def Transaction.device : Transaction → UInt8
  | .read address _ _ | .write address _ _ => address

/-- The action is a transaction of some kind, or none. -/
def Action.Sends (T : Transaction → Prop) (a : Action) : Prop := ∀ t ∈ a.transaction?, T t

/-- Actions of which the transactions are of some kind. -/
abbrev Sending (T : Transaction → Prop) : Parts := Single (Action.Sends T)

/-- All transactions with a device are of the kind. -/
class Admits (T : Transaction → Prop) (device : UInt8) : Prop where
  read (offset : UInt8) (length : Nat) : T (.read device offset length)
  write (offset : UInt8) (data : List UInt8) : T (.write device offset data)

variable {T : Transaction → Prop}

instance : (Sending T).Includes Action.IsOffBus where
  part_of_kind a h := .perform a fun t ht ↦ by
    rw [h] at ht
    cases ht

instance (device : UInt8) [Admits T device] :
    (Sending T).Includes (Action.SparesPageOf device) where
  part_of_kind a h := .perform a fun t ht ↦ by
    cases a with
    | read address offset length =>
      cases ht
      cases h
      exact Admits.read ..
    | write address offset data =>
      cases ht
      cases h.1
      exact Admits.write ..
    | _ => exact h.elim

instance (e : Eeprom) [h : Admits T e.address] : Admits T e.selected.address := h

/-- In a run of actions that send some transactions there are no others. -/
theorem Program.MadeOf.forall_transactions {α σ : Type} {p : Program α}
    (h : p.MadeOf (Sending T)) (env : Environment σ) (s : σ) :
    ∀ t ∈ (p.trace env s).transactions, T t := by
  intro t ht
  obtain ⟨e, he, hte⟩ := List.mem_filterMap.mp ht
  exact h.forall_trace env s e he t hte

/-! ## Transactions -/

theorem Bus.readByte_sending {device offset : UInt8} (h : T (.read device offset 1)) :
    (readByte device offset).MadeOf (Sending T) := by
  refine .bind (read_madeOf_of (.part (.perform _ fun t ht ↦ ?_))) fun b ↦ .pure (byteIn b)
  cases ht
  exact h

theorem Bus.write_sending (device offset : UInt8) [Admits T device] (data : List UInt8) :
    (Bus.write device offset data).MadeOf (Sending T) := by
  refine write_madeOf (.part (.perform _ fun t ht ↦ ?_))
  cases ht
  exact Admits.write ..

/-! ## Pages -/

namespace Selected

theorem selectPage_sending (device page : UInt8) [Admits T device] :
    (selectPage device page).MadeOf (Sending T) := Bus.write_sending _ _ _

theorem onPage_sending (device page : UInt8) [Admits T device] {α : Type} {body : Procedure α}
    (h : body.MadeOf (Sending T)) : (onPage device page body).MadeOf (Sending T) := by
  refine Program.MadeOf.bind (selectPage_sending device page) fun r ↦ ?_
  cases r with
  | error e => exact .done _
  | ok _ =>
    refine .bind h fun r ↦ .bind (selectPage_sending device 0) fun r' ↦ ?_
    cases r' with
    | ok _ => exact .done r
    | error e => exact .bind (report_madeOf _ _ _) fun _ ↦ .done r

variable (m : Selected) [Admits T m.address]

/-- Whether an SFP module has pages is asked of the standard device. -/
theorem pagingSupported_sending
    (h : m.scheme = .sff8472 → T (.read serialDevice SfpMap.options 1)) :
    m.pagingSupported.MadeOf (Sending T) := by
  unfold pagingSupported
  split
  · exact .bind (Bus.readByte_madeOf _ _) fun _ ↦ .pure _
  · rename_i hscheme
    exact .bind (Bus.readByte_sending (h hscheme)) fun _ ↦ .pure _
  · exact .pure false

variable {a : Address} (ha : a.device = .auto)
  (hpaging : a.page ≠ .ignore → m.pagingSupported.MadeOf (Sending T))
include ha hpaging

/-- An access to the device of the cage needs to know whether there are pages, if it names one. -/
theorem paged_sending {α : Type} {body : UInt8 → Procedure α}
    (h : (body m.address).MadeOf (Sending T)) : (m.paged a body).MadeOf (Sending T) := by
  unfold paged
  rw [ha, DeviceSelector.resolve_auto]
  split
  · exact h
  · rename_i page hpage
    have hnamed : a.page ≠ .ignore := by
      rw [hpage]
      exact nofun
    exact .bind (hpaging hnamed) fun _ ↦ .ite (onPage_sending _ _ h) <|
      .bind (.lift (report_madeOf _ _ _)) fun _ ↦ h

theorem read_sending (length : Nat) : (m.read a length).MadeOf (Sending T) :=
  .bind (.liftExcept _) fun _ ↦ m.paged_sending ha hpaging (Bus.read_madeOf _ _ _)

theorem write_sending (data : List UInt8) : (m.write a data).MadeOf (Sending T) :=
  .bind (.liftExcept _) fun _ ↦ m.paged_sending ha hpaging (Bus.write_sending _ _ _)

end Selected

/-- Whether a module is tunable is asked of the standard device too. -/
theorem Tuning.isTunable_sending (m : Selected)
    (h : T (.read serialDevice SfpMap.tunableOptions 1)) : (isTunable m).MadeOf (Sending T) := by
  unfold isTunable
  rw [Selected.readByte_eq rfl]
  exact .bind (Bus.readByte_sending h) fun _ ↦ .pure _

/-! ## Operations on an SFP cage -/

namespace Operation

/-- The caller names no device. -/
def NamesNoDevice : Operation → Prop
  | .readGeneric a _ | .writeGeneric a _ => a.device = .auto
  | _ => True

/-- What is asked of the standard device of the serial ID for an operation on an SFP module: whether
it can be tuned, and whether it has pages. -/
def probes : Operation → List Transaction
  | .readGeneric a _ | .writeGeneric a _ =>
    if a.page = .ignore then [] else [.read serialDevice SfpMap.options 1]
  | .wavelengthSet _ =>
    [.read serialDevice SfpMap.tunableOptions 1, .read serialDevice SfpMap.options 1]
  | _ => []

theorem device_of_mem_probes {op : Operation} {t : Transaction} (h : t ∈ op.probes) :
    t.device = serialDevice := by
  cases op with
  | readGeneric a _ | writeGeneric a _ =>
    by_cases hpage : a.page = .ignore
    · simp [probes, hpage] at h
    · simp only [probes, if_neg hpage, List.mem_singleton] at h
      rw [h]
      rfl
  | wavelengthSet _ =>
    rcases List.mem_cons.mp h with rfl | h
    · rfl
    · cases List.mem_singleton.mp h
      rfl
  | _ => cases h

end Operation

namespace Sfp

instance (s : Sfp) [h : Admits T s.cage.address] : Admits T s.eeprom.address := h

variable (s : Sfp) [Admits T diagnosticDevice]

theorem wavelengthSet_sending [Admits T s.cage.address] (nm : Float)
    (hprobes : ∀ t ∈ (Operation.wavelengthSet nm).probes, T t) :
    (s.wavelengthSet nm).MadeOf (Sending T) := by
  have htunable : (Tuning.isTunable s.eeprom.selected).MadeOf (Sending T) :=
    Tuning.isTunable_sending _ (hprobes _ (.head _))
  have hpaging : s.eeprom.selected.pagingSupported.MadeOf (Sending T) :=
    Selected.pagingSupported_sending _ fun _ ↦ hprobes _ (.tail _ (.head _))
  refine s.wavelengthSet_madeOf htunable hpaging (fun nm ↦ ?_) nm
  exact Tuning.setWavelength_madeOf_onPage _ (Sending T)
    (Tuning.requirePaged_madeOf _ htunable hpaging) (Selected.onPage_sending _ _) _ nm

/-- All transactions of an operation on an SFP cage go to the device of the cage, the diagnostics or
the PHY, but for what is asked of the standard device. -/
theorem serve_sending [Admits T s.cage.address] [Admits T CopperPhy.device] {op : Operation}
    (hop : op.NamesNoDevice) (hprobes : ∀ t ∈ op.probes, T t) :
    (s.serve op).MadeOf (Sending T) := by
  have hpaging (h : T (.read serialDevice SfpMap.options 1)) :
      s.eeprom.selected.pagingSupported.MadeOf (Sending T) :=
    Selected.pagingSupported_sending _ fun _ ↦ h
  refine s.serve_madeOf_of ?_ ?_ ?_ ?_
  · rintro a length rfl
    refine s.session_madeOf (Selected.read_sending _ hop (fun hpage ↦ ?_) length)
    exact hpaging (hprobes _ (by simp [Operation.probes, hpage]))
  · rintro a data rfl
    refine s.session_madeOf (Selected.write_sending _ hop (fun hpage ↦ ?_) data)
    exact hpaging (hprobes _ (by simp [Operation.probes, hpage]))
  · rintro offset data rfl
    exact s.session_madeOf (Selected.write_sending _ rfl (fun hpage ↦ absurd rfl hpage) data)
  · rintro nm rfl
    exact s.wavelengthSet_sending nm hprobes

end Sfp

end Transceiver
