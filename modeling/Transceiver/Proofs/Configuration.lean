import Transceiver.Attributes
import Transceiver.Proofs.Absence
import Transceiver.Proofs.Failures
import Transceiver.Proofs.Numerals
import Transceiver.Proofs.Selection

/-!
# Cages from text

Textual attributes that are accepted describe a cage.  Main statement: every line and every select
target of the cage belongs to the group registered under the name that the attributes give, the two
selections are made by different groups, and the port belongs to the family.

Positions and addresses are read as numbers of eight bits and are not looked at any further: a line
can be accessed if and only if its position is below 32, and the address is one of the bus if and
only if it was given as one.
-/

namespace Transceiver

/-! ## Numbers in text -/

theorem parseNumber_le {limit n : Nat} {key value : String}
    (h : parseNumber limit key value = .ok n) : n ≤ limit :=
  (parseNumber_eq_ok_iff.mp h).2

/-! ## Attributes -/

section Results

variable {ε α β : Type} {x : Except ε α} {f : α → Except ε β} {b : β}

/-- A sequence succeeds if all of it does. -/
theorem ok_of_bind (h : (x >>= f) = .ok b) : ∃ a, x = .ok a ∧ f a = .ok b := by
  cases x with
  | error e => cases h
  | ok a => exact ⟨a, rfl, h⟩

theorem ok_of_map {f : α → β} (h : f <$> x = .ok b) : ∃ a, x = .ok a ∧ f a = b := by
  cases x with
  | error e => cases h
  | ok a => exact ⟨a, rfl, Except.ok.inj h⟩

end Results

theorem Registry.find?_of_resolve {r : Registry} {name : String} {g : PinGroup}
    (h : r.resolve name = .ok g) : r.find? name = some g := by
  unfold resolve at h
  split at h
  · rename_i hfind
    cases h
    exact hfind
  · cases h

namespace Attributes

variable {a : Attributes} {limit : Nat} {key groupKey bitKey valueKey : String}

theorem get?_of_require {value : String} (h : a.require key = .ok value) :
    a.get? key = some value := by
  unfold require at h
  split at h
  · rename_i hget
    cases h
    exact hget
  · cases h

theorem number_le {n : Nat} (h : a.number limit key = .ok n) : n ≤ limit := by
  obtain ⟨value, -, hparse⟩ := ok_of_bind h
  exact parseNumber_le hparse

theorem number?_le {n : Nat} (h : a.number? limit key = .ok (some n)) : n ≤ limit := by
  unfold number? at h
  split at h
  · obtain ⟨m, hparse, hm⟩ := ok_of_map h
    cases hm
    exact parseNumber_le hparse
  · cases h

/-- A number that has to be there is one that may be there. -/
theorem number?_of_number {n : Nat} (h : a.number limit key = .ok n) :
    a.number? limit key = .ok (some n) := by
  obtain ⟨value, hvalue, hparse⟩ := ok_of_bind h
  unfold number?
  rw [get?_of_require hvalue]
  exact congrArg (some <$> ·) hparse

/-- A byte is the number that is given for it. -/
theorem number?_of_byte? {v : Option UInt8} (h : a.byte? key = .ok v) :
    a.number? 0xff key = .ok (v.map UInt8.toNat) := by
  obtain ⟨n, hn, hv⟩ := ok_of_bind h
  cases hv
  rw [hn]
  cases n with
  | none => rfl
  | some n =>
    have hbyte := toNat_ofNat_of_le (number?_le hn)
    simp [hbyte]

/-! ### Lines -/

/-- The attributes name no group at a key, or they name a registered one and give the position of
a line in it. -/
inductive Wires (a : Attributes) (groupKey bitKey : String) : Option Line → Prop where
  | unnamed (hname : a.get? groupKey = none) : Wires a groupKey bitKey none
  | wired {name : String} {l : Line} (hname : a.get? groupKey = some name)
    (hgroup : a.registry.find? name = some l.group)
    (hbit : a.number 0xff bitKey = .ok l.bit.toNat) : Wires a groupKey bitKey (some l)

theorem wires_of_line? {l : Option Line} (h : a.line? groupKey bitKey = .ok l) :
    a.Wires groupKey bitKey l := by
  unfold line? at h
  split at h
  · rename_i hname
    cases h
    exact .unnamed hname
  · rename_i name hname
    obtain ⟨group, hgroup, h⟩ := ok_of_bind h
    obtain ⟨n, hn, h⟩ := ok_of_bind h
    cases h
    have hbyte := toNat_ofNat_of_le (number_le hn)
    exact .wired hname (Registry.find?_of_resolve hgroup) (by rw [hbyte]; exact hn)

/-! ### Select targets -/

/-- The attributes say at a key that nothing is selected, as they do by the text `bypass`, or they
name a registered group there and may give its level. -/
inductive Selects (a : Attributes) (key valueKey : String) (bypass : Option String) :
    Option SelectTarget → Prop where
  | bypassed (hname : a.get? key = bypass) : Selects a key valueKey bypass none
  | selected {name : String} {t : SelectTarget} {value : Option UInt32}
    (hname : a.get? key = some name) (hbypass : some name ≠ bypass)
    (hgroup : a.registry.find? name = some t.group)
    (hvalue : a.word? valueKey = .ok value) (hlevel : t.value = value.getD 0) :
    Selects a key valueKey bypass (some t)

theorem selects_of_mux? {t : Option SelectTarget} (h : a.mux? = .ok t) :
    a.Selects "mux_sel_bus" "mux_sel_value" none t := by
  unfold mux? at h
  split at h
  · rename_i hname
    cases h
    exact .bypassed hname
  · rename_i name hname
    obtain ⟨value, hvalue, h⟩ := ok_of_bind h
    obtain ⟨group, hgroup, h⟩ := ok_of_bind h
    cases h
    exact .selected hname nofun (Registry.find?_of_resolve hgroup) hvalue rfl

theorem selects_of_module? {t : Option SelectTarget} (h : a.module? = .ok t) :
    a.Selects "mod_sel_bus" "mod_sel_value" (some alwaysEnabled) t := by
  obtain ⟨name, hname, h⟩ := ok_of_bind h
  replace hname := get?_of_require hname
  by_cases hbypass : name = alwaysEnabled
  · rw [if_pos hbypass] at h
    cases h
    exact .bypassed (hname.trans (congrArg some hbypass))
  · rw [if_neg hbypass] at h
    obtain ⟨value, hvalue, h⟩ := ok_of_bind h
    obtain ⟨group, hgroup, h⟩ := ok_of_bind h
    cases h
    have hword : a.word? "mod_sel_value" = .ok (some (.ofNat value)) := by
      unfold word?
      rw [number?_of_number hvalue]
      rfl
    exact .selected hname (mt Option.some.inj hbypass) (Registry.find?_of_resolve hgroup) hword rfl

end Attributes

/-! ## The lines of a cage -/

/-- What a line of a cage is for. -/
inductive LineRole where
  | presence | reset | lowPower | txControl | rxLoss | txFault | portLed
deriving DecidableEq, Repr

namespace LineRole

/-- The attribute with the name of the group. -/
def groupKey : LineRole → String
  | .presence => "mod_pres_bus"
  | .reset => "mod_reset_bus"
  | .lowPower => "mod_lpmode_bus"
  | .txControl => "mod_tx_control_bus"
  | .rxLoss => "mod_rx_los_bus"
  | .txFault => "mod_tx_fault_bus"
  | .portLed => "port_led_bus"

/-- The attribute with the position in the group. -/
def bitKey : LineRole → String
  | .presence => "mod_pres_bitmask"
  | .reset => "mod_reset_bitmask"
  | .lowPower => "mod_lpmode_bitmask"
  | .txControl => "mod_tx_control_bitmask"
  | .rxLoss => "mod_rx_los_bitmask"
  | .txFault => "mod_tx_fault_bitmask"
  | .portLed => "port_led_bit_mask"

/-- The line of a draft. -/
def drafted (d : Draft) : LineRole → Option Line
  | .presence => d.presence
  | .reset => d.reset
  | .lowPower => d.lowPower
  | .txControl => d.txControl
  | .rxLoss => d.rxLoss
  | .txFault => d.txFault
  | .portLed => d.portLed.map (·.line)

/-- The line of a cage. -/
def line? (c : Cage) : LineRole → Option Line
  | .presence => some c.presence
  | .reset => c.reset
  | .lowPower => c.lowPower
  | .txControl => c.txControl
  | .rxLoss => c.rxLoss
  | .txFault => c.txFault
  | .portLed => c.portLed.map (·.line)

end LineRole

/-! ## Drafts -/

/-- What the attributes say of a draft. -/
structure Attributes.Outlines (a : Attributes) (family : Family) (d : Draft) : Prop where
  family : d.family = family
  address : a.byte? "addr" = .ok d.address
  mux : a.mux? = .ok d.mux
  module : a.module? = .ok d.module
  wires (w : LineRole) : a.line? w.groupKey w.bitKey = .ok (w.drafted d)

theorem Attributes.line?_of_portLed? {a : Attributes} {led : Option PortLed}
    (h : a.portLed? = .ok led) :
    a.line? LineRole.portLed.groupKey LineRole.portLed.bitKey = .ok (led.map (·.line)) := by
  obtain ⟨line, hline, h⟩ := ok_of_bind h
  cases line with
  | none =>
    cases h
    exact hline
  | some line =>
    obtain ⟨level1g, -, h⟩ := ok_of_bind h
    obtain ⟨level10g, -, h⟩ := ok_of_bind h
    cases h
    exact hline

theorem Attributes.outlines_of_draft {a : Attributes} {name : String} {family : Family}
    {d : Draft} (h : a.draft name family = .ok d) : a.Outlines family d := by
  obtain ⟨instanceId, -, h⟩ := ok_of_bind h
  obtain ⟨address, haddress, h⟩ := ok_of_bind h
  obtain ⟨portType, -, h⟩ := ok_of_bind h
  obtain ⟨mux, hmux, h⟩ := ok_of_bind h
  obtain ⟨module, hmodule, h⟩ := ok_of_bind h
  obtain ⟨selectDelay, -, h⟩ := ok_of_bind h
  obtain ⟨presence, hpresence, h⟩ := ok_of_bind h
  obtain ⟨reset, hreset, h⟩ := ok_of_bind h
  obtain ⟨resetDelay, -, h⟩ := ok_of_bind h
  obtain ⟨lowPower, hlowPower, h⟩ := ok_of_bind h
  obtain ⟨txControl, htxControl, h⟩ := ok_of_bind h
  obtain ⟨rxLoss, hrxLoss, h⟩ := ok_of_bind h
  obtain ⟨txFault, htxFault, h⟩ := ok_of_bind h
  obtain ⟨portLed, hportLed, h⟩ := ok_of_bind h
  obtain ⟨defaultSpeedMbps, -, h⟩ := ok_of_bind h
  obtain ⟨channelOffset, -, h⟩ := ok_of_bind h
  obtain ⟨maxPowerMw, -, h⟩ := ok_of_bind h
  cases h
  refine ⟨rfl, haddress, hmux, hmodule, fun w ↦ ?_⟩
  cases w with
  | presence => exact hpresence
  | reset => exact hreset
  | lowPower => exact hlowPower
  | txControl => exact htxControl
  | rxLoss => exact hrxLoss
  | txFault => exact htxFault
  | portLed => exact line?_of_portLed? hportLed

/-- A draft that is built has a presence line, and a port of its family; what it says is kept. -/
theorem Draft.keeps_of_build {d : Draft} {c : Cage} (h : d.build = .ok c) :
    c.family = d.family ∧ c.portType.fits d.family = true ∧
      c.address = d.address.getD Cage.standardAddress ∧
      ∀ w : LineRole, w.line? c = w.drafted d := by
  unfold build at h
  split at h
  · rename_i presence hpresence
    split at h
    · cases h
    · dsimp only at h
      split at h
      · rename_i hfits
        cases h
        refine ⟨rfl, hfits, rfl, fun w ↦ ?_⟩
        cases w with
        | presence => exact hpresence.symm
        | _ => rfl
      · cases h
  · cases h

/-! ## Accesses of lines -/

/-- An argument is to blame. -/
def Error.IsMisuse : Error → Prop
  | .invalidArgument _ => True
  | _ => False

/-- Whatever is answered, the procedure does not fail for a bad argument. -/
abbrev Procedure.Accepted {α : Type} (p : Procedure α) : Prop := p.FailsBy (¬ ·.IsMisuse)

namespace PinGroup

variable (g : PinGroup)

theorem hold_accepted {α : Type} {body : Procedure α} (h : body.Accepted) :
    (g.hold body).Accepted := by
  refine Program.Returns.bind (.trivial _) fun r _ ↦ ?_
  cases r with
  | ok _ => exact Program.Returns.bind h fun _ hr ↦ .ask fun _ ↦ .done hr
  | error fault => exact .done fun h ↦ h

theorem readLevel_accepted : g.readLevel.Accepted := by
  refine Program.Returns.bind (.trivial _) fun r _ ↦ ?_
  cases r with
  | ok _ => exact .done trivial
  | error fault => exact .done fun h ↦ h

theorem writeLevel_accepted (level : UInt32) : (g.writeLevel level).Accepted := by
  refine Program.Returns.bind (.trivial _) fun r _ ↦ ?_
  cases r with
  | ok _ => exact .done trivial
  | error fault => exact .done fun h ↦ h

end PinGroup

namespace Line

variable {l : Line}

/-- Whatever is answered, no access of the line is refused as a misuse. -/
def Accessible (l : Line) : Prop :=
  l.read.FailsBy (¬ ·.IsMisuse) ∧ ∀ on, (l.write on).FailsBy (¬ ·.IsMisuse)

/-- An access of a line that its group has fails only if the group refuses it. -/
theorem access_spares (h : l.bit < 32) {α : Type} {f : UInt32 → UInt32 → Procedure α}
    (hf : ∀ m level, (f m level).FailsBy (¬ ·.IsMisuse)) :
    (l.group.hold (do
      let m ← l.mask
      let level ← l.group.readLevel
      f m level)).FailsBy (¬ ·.IsMisuse) := by
  have hmask : l.mask = .ok l.word := if_pos h
  rw [hmask]
  exact l.group.hold_accepted <| .bind (.liftExcept trivial) fun m ↦
    .bind l.group.readLevel_accepted fun level ↦ hf m level

/-- A line that its group does not have is refused as soon as the group is held. -/
theorem read_refused (h : ¬ l.bit < 32) {b : Bench}
    (hacquire : (b.pin l.group.id).failAcquire = false) :
    ∃ reason, l.read.RunsTo Bench.answer b (.error (.invalidArgument reason)) b := by
  obtain ⟨reason, hmask⟩ : ∃ reason, l.mask = .error (.invalidArgument reason) :=
    ⟨_, if_neg h⟩
  refine ⟨reason, PinGroup.hold_runsTo hacquire ?_⟩
  unfold get
  rw [hmask]
  exact (Procedure.RunsTo.liftExcept _ _).bind_error

/-- A line can be accessed if and only if its group has it. -/
theorem accessible_iff : l.Accessible ↔ l.bit < 32 := by
  refine ⟨fun h ↦ Decidable.byContradiction fun hbit ↦ ?_, fun h ↦ ⟨?_, fun on ↦ ?_⟩⟩
  · obtain ⟨reason, hread⟩ := read_refused hbit (b := Bench.blank) rfl
    have hspared := h.1 _ Bench.answer Bench.blank
    rw [hread.value] at hspared
    exact hspared trivial
  · exact access_spares h fun _ _ ↦ .pure _
  · exact access_spares h fun _ _ ↦ l.group.writeLevel_accepted _

end Line

/-! ## Cages -/

/-- What the attributes say of a cage. -/
structure Attributes.Describes (a : Attributes) (family : Family) (c : Cage) : Prop where
  ofFamily : c.family = family
  fits : c.portType.fits family = true
  address : ∃ n, a.number? 0xff "addr" = .ok n ∧ c.address.toNat = n.getD 0x50
  wires (w : LineRole) : a.Wires w.groupKey w.bitKey (w.line? c)
  mux : a.Selects "mux_sel_bus" "mux_sel_value" none c.selector.mux
  module : a.Selects "mod_sel_bus" "mod_sel_value" (some alwaysEnabled) c.selector.module
  distinct : c.selector.Distinct

namespace Cage

variable {name : String} {family : Family} {a : Attributes} {c : Cage}

theorem describes_of_ofAttributes (h : ofAttributes name family a = .ok c) :
    a.Describes family c := by
  obtain ⟨d, hdraft, hbuild⟩ := ok_of_bind h
  have houtline := Attributes.outlines_of_draft hdraft
  obtain ⟨hfamily, hport, haddress, hlines⟩ := Draft.keeps_of_build hbuild
  obtain ⟨-, hselector⟩ := Draft.selector_of_build hbuild
  rw [houtline.family] at hfamily hport
  refine ⟨hfamily, hport, ⟨_, Attributes.number?_of_byte? houtline.address, ?_⟩, fun w ↦ ?_, ?_, ?_,
    Draft.distinct_of_build hbuild⟩
  · rw [haddress]
    cases d.address <;> rfl
  · rw [hlines w]
    exact Attributes.wires_of_line? (houtline.wires w)
  · rw [hselector]
    exact Attributes.selects_of_mux? houtline.mux
  · rw [hselector]
    exact Attributes.selects_of_module? houtline.module

/-- A cage that attributes make is the one they describe.  It can be used if the attributes give an
address of seven bits, or none, and positions that groups of 32 lines have; neither is made sure
of. -/
theorem ofAttributes_usable (h : ofAttributes name family a = .ok c) :
    a.Describes family c ∧
      (c.address ≤ 0x7f ↔ ∀ n, a.number? 0xff "addr" = .ok (some n) → n ≤ 0x7f) ∧
      ∀ (w : LineRole) (l : Line), w.line? c = some l →
        (l.Accessible ↔ ∀ n, a.number 0xff w.bitKey = .ok n → n < 32) := by
  have hdescribes := describes_of_ofAttributes h
  refine ⟨hdescribes, ?_, fun w l hl ↦ ?_⟩
  · obtain ⟨n, hn, haddress⟩ := hdescribes.address
    rw [UInt8.le_iff_toNat_le, haddress, hn]
    cases n with
    | none => exact iff_of_true (by decide) nofun
    | some n => exact ⟨fun hle m hm ↦ by cases hm; exact hle, fun hall ↦ hall n rfl⟩
  · have hwires := hdescribes.wires w
    rw [hl] at hwires
    cases hwires with
    | wired hname hgroup hbit =>
      rw [Line.accessible_iff, UInt8.lt_iff_toNat_lt, hbit]
      exact ⟨fun hlt n hn ↦ by cases hn; exact hlt, fun hall ↦ hall _ rfl⟩

/-- A cage behind a mux with two lines. -/
theorem ofAttributes_usable_two_lines :
    let a : Attributes :=
      ⟨[("addr", "0x51"), ("mux_sel_bus", "mux"), ("mux_sel_value", "3"), ("mod_sel_bus", "select"),
        ("mod_sel_value", "1"), ("mod_pres_bus", "control"), ("mod_pres_bitmask", "31"),
        ("mod_rx_los_bus", "control"), ("mod_rx_los_bitmask", "0x4")],
        ⟨[⟨"mux", 0⟩, ⟨"select", 1⟩, ⟨"control", 2⟩]⟩⟩
    ∃ c, ofAttributes "port0" .sfp a = .ok c ∧ a.Describes .sfp c ∧ c.address ≤ 0x7f ∧
      c.rxLoss = some ⟨⟨"control", 2⟩, 4⟩ ∧ ∀ (w : LineRole) (l : Line), w.line? c = some l →
        l.Accessible := by
  intro a
  obtain ⟨c, hc, hrxLoss⟩ : ∃ c, ofAttributes "port0" .sfp a = .ok c ∧
      c.rxLoss = some ⟨⟨"control", 2⟩, 4⟩ := ⟨_, rfl, rfl⟩
  obtain ⟨hdescribes, haddress, hlines⟩ := ofAttributes_usable hc
  refine ⟨c, hc, hdescribes, haddress.mpr fun n hn ↦ ?_, hrxLoss, fun w l hl ↦
    (hlines w l hl).mpr fun n hn ↦ ?_⟩
  · cases hn
    decide
  · cases w <;> cases hn <;> decide

/-- The fortieth line of a group of 32 is taken for the presence line, and cannot be read; so is an
address that the bus does not have. -/
theorem not_ofAttributes_usable :
    let a (bit address : String) : Attributes :=
      ⟨[("addr", address), ("mod_sel_bus", alwaysEnabled), ("mod_pres_bus", "present"),
        ("mod_pres_bitmask", bit)], ⟨[⟨"present", 0⟩]⟩⟩
    (∃ c, ofAttributes "port0" .sfp (a "40" "0x50") = .ok c ∧
      c.presence.read.run.value Bench.answer Bench.blank =
        .error (.invalidArgument "GPIO line 40 out of range") ∧ ¬ c.presence.Accessible) ∧
      ∃ c, ofAttributes "port0" .sfp (a "0" "200") = .ok c ∧ ¬ c.address ≤ 0x7f :=
  ⟨⟨_, rfl, rfl, mt Line.accessible_iff.mp (by decide)⟩, _, rfl, by decide⟩

end Cage

end Transceiver
