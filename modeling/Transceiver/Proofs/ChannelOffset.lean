import Transceiver.Proofs.Adapter
import Transceiver.Simulation.Modules

/-!
# Channels of a logical port

A logical port counts its channels from the channel offset of its cage on.  Main statement: whatever
the surroundings answer, a request on a channel of the port does just what the driver of the cage
does for the channel that many further on.  Where there is no such number, or no such lane in the
module, it is refused before anything is done.
-/

namespace Transceiver

/-! ## Requests -/

/-- A request about a channel, but for the channel. -/
inductive ChannelRequest where
  | monitorStatus (flags : ChannelMonitorStatus)
  | status (flags : ChannelStatus)
  | txControl (enable : Bool)
  | txControlStatus
  | cdrSet (enable : Bool)
  | cdrStatus
  | monitor (quantity : ChannelMonitor)
  | extRateSelect (revision : FirmwareRevision) (cdrEnable : Bool)
  | phyAutonegSet (media : MediaType) (enable : Bool)
  | phyModeSet (media : MediaType) (mode : PhyMode)
  | phySpeedSet (media : MediaType) (speed : Speed)
  | phyLinkStatus (media : MediaType)
  | phyPowerDown (media : MediaType) (enable : Bool)
  | phySerdesControl (media : MediaType) (enable : Bool)
deriving DecidableEq, Repr

namespace ChannelRequest

/-- What a request answers. -/
abbrev Answer : ChannelRequest → Type
  | .monitorStatus _ => ChannelMonitorStatus
  | .status _ => ChannelStatus
  | .txControl _ => Unit
  | .txControlStatus => Bool
  | .cdrSet _ => Unit
  | .cdrStatus => Bool
  | .monitor _ => Float
  | .extRateSelect _ _ => Unit
  | .phyAutonegSet _ _ => Unit
  | .phyModeSet _ _ => Unit
  | .phySpeedSet _ _ => Unit
  | .phyLinkStatus _ => Bool
  | .phyPowerDown _ _ => Unit
  | .phySerdesControl _ _ => Unit

/-- What is made of the operation that is the request about a channel. -/
def ask (F : Type → Type) (make : (op : Operation) → F op.Answer) (c : UInt8) :
    (r : ChannelRequest) → F r.Answer
  | .monitorStatus flags => make (.channelMonitorStatus c flags)
  | .status flags => make (.channelStatus c flags)
  | .txControl enable => make (.txControl c enable)
  | .txControlStatus => make (.txControlStatus c)
  | .cdrSet enable => make (.cdrSet c enable)
  | .cdrStatus => make (.cdrStatus c)
  | .monitor quantity => make (.channelMonitor c quantity)
  | .extRateSelect revision cdrEnable => make (.extRateSelect c revision cdrEnable)
  | .phyAutonegSet media enable => make (.phyAutonegSet c media enable)
  | .phyModeSet media mode => make (.phyModeSet c media mode)
  | .phySpeedSet media speed => make (.phySpeedSet c media speed)
  | .phyLinkStatus media => make (.phyLinkStatus c media)
  | .phyPowerDown media enable => make (.phyPowerDown c media enable)
  | .phySerdesControl media enable => make (.phySerdesControl c media enable)

/-- What a driver does for a request about a channel. -/
def perform {δ : Type} [MediaControl δ] (d : δ) (c : UInt8) (r : ChannelRequest) :
    Program (Except Error r.Answer × δ) :=
  r.ask (fun α ↦ Program (Except Error α × δ)) (MediaControl.perform d) c

/-- The request is to the module itself, and not to a PHY behind it. -/
def IsLane : ChannelRequest → Prop
  | .monitorStatus _ | .status _ | .txControl _ | .txControlStatus | .cdrSet _ | .cdrStatus
  | .monitor _ | .extRateSelect _ _ => True
  | _ => False

end ChannelRequest

/-! ## Channels of the cage -/

namespace Qsfp

variable (q : Qsfp)

theorem perform_request (c : UInt8) (r : ChannelRequest) :
    r.perform q c = keeping q (r.ask Procedure q.serve c) := by
  cases r <;> rfl

/-- The first thing that is done for a request to a module is to look for the lane. -/
theorem ask_serve_lane (hq : q.found.adapted = false) (c : UInt8) {r : ChannelRequest}
    (hr : r.IsLane) : ∃ rest, r.ask Procedure q.serve c = liftM (q.lane c) >>= rest := by
  have hserve (op : Operation) : q.serve op = q.serveCage op := by
    have hnone : q.adapter? = none := if_neg (hq ▸ Bool.false_ne_true)
    unfold serve
    rw [hnone]
  cases r <;> first | exact hr.elim | exact ⟨_, hserve _⟩

/-- A request about a lane that the module does not have is refused. -/
theorem ask_serve_refused (hq : q.found.adapted = false) {c : UInt8} {r : ChannelRequest}
    (hr : r.IsLane) (hc : q.layout.channels ≤ c) :
    ∃ reason, r.ask Procedure q.serve c = throw (.invalidArgument reason) := by
  obtain ⟨rest, hrest⟩ := q.ask_serve_lane hq c hr
  have hlane : ∃ reason, q.lane c = .error (.invalidArgument reason) :=
    ⟨_, dif_neg (UInt8.not_lt.mpr hc)⟩
  obtain ⟨reason, hreason⟩ := hlane
  rw [hrest, hreason]
  exact ⟨reason, rfl⟩

end Qsfp

namespace SubPort

variable (p : SubPort) {c c' : UInt8}

/-- The channel of the cage is found by adding the offset. -/
theorem channel_eq_ok (h : c'.toNat = c.toNat + p.offset.toNat) : p.channel c = .ok c' := by
  have hlt : c.toNat + p.offset.toNat < 256 := h ▸ c'.toNat_lt
  have hsum : c + p.offset = c' := by
    rw [← UInt8.toNat_inj, UInt8.toNat_add, h]
    exact Nat.mod_eq_of_lt hlt
  rw [channel, if_pos hlt, hsum]

theorem perform_request (c : UInt8) (r : ChannelRequest) :
    r.perform p c = keeping p (r.ask Procedure p.serve c) := by
  cases r <;> rfl

/-- A request is passed on, about the channel of the cage. -/
theorem ask_serve (c : UInt8) (r : ChannelRequest) :
    r.ask Procedure p.serve c =
      liftM (p.channel c) >>= fun c' ↦ r.ask Procedure p.inner.serve c' := by
  cases r <;> rfl

theorem ask_serve_of_channel (h : c'.toNat = c.toNat + p.offset.toNat) (r : ChannelRequest) :
    r.ask Procedure p.serve c = r.ask Procedure p.inner.serve c' := by
  rw [ask_serve, p.channel_eq_ok h]
  rfl

/-- A channel past the last number is refused, and one past the lanes of the module for what is done
to those. -/
theorem ask_serve_refused {r : ChannelRequest}
    (h : 255 < c.toNat + p.offset.toNat ∨ p.inner.found.adapted = false ∧ r.IsLane ∧
      p.inner.layout.channels.toNat ≤ c.toNat + p.offset.toNat) :
    ∃ reason, r.ask Procedure p.serve c = throw (.invalidArgument reason) := by
  by_cases hlast : 255 < c.toNat + p.offset.toNat
  · have hchannel : ∃ reason, p.channel c = .error (.invalidArgument reason) :=
      ⟨_, if_neg (Nat.not_lt.mpr hlast)⟩
    obtain ⟨reason, hreason⟩ := hchannel
    rw [ask_serve, hreason]
    exact ⟨reason, rfl⟩
  · obtain ⟨hadapted, hlane, hchannels⟩ := h.resolve_left hlast
    have hc' : (UInt8.ofNat (c.toNat + p.offset.toNat)).toNat = c.toNat + p.offset.toNat := by
      rw [UInt8.toNat_ofNat']
      exact Nat.mod_eq_of_lt (by omega)
    rw [p.ask_serve_of_channel hc' r]
    refine p.inner.ask_serve_refused hadapted hlane ?_
    rw [UInt8.le_iff_toNat_le, hc']
    exact hchannels

/-- A request about a channel of the port returns what the driver of the cage returns for the
channel that is the offset further on, does the same on the way and leads to the same state.  It is
refused with nothing done if there is no number for that channel, and so is a request to a module
outside of an adapter that has no such lane. -/
theorem perform_channel (p : SubPort) (r : ChannelRequest) (c : UInt8) {σ : Type}
    (env : Environment σ) (s : σ) :
    (∀ c' : UInt8, c'.toNat = c.toNat + p.offset.toNat →
      (r.perform p c).value env s =
          (((r.perform p.inner c').value env s).1, ⟨((r.perform p.inner c').value env s).2⟩) ∧
        (r.perform p c).trace env s = (r.perform p.inner c').trace env s ∧
        (r.perform p c).final env s = (r.perform p.inner c').final env s) ∧
    (255 < c.toNat + p.offset.toNat ∨ p.inner.found.adapted = false ∧ r.IsLane ∧
        p.inner.layout.channels.toNat ≤ c.toNat + p.offset.toNat →
      ∃ reason, (r.perform p c).run env s = ((.error (.invalidArgument reason), p), [], s)) := by
  refine ⟨fun c' hc' ↦ ?_, fun h ↦ ?_⟩
  · rw [p.perform_request, p.ask_serve_of_channel hc', p.inner.perform_request]
    refine ⟨Prod.ext ?_ ?_, ?_, ?_⟩
    · exact (value_keeping ..).trans (value_keeping ..).symm
    · exact (keeping_value ..).trans (congrArg mk (keeping_value ..)).symm
    · exact (trace_keeping ..).trans (trace_keeping ..).symm
    · exact (final_keeping ..).trans (final_keeping ..).symm
  · obtain ⟨reason, hreason⟩ := p.ask_serve_refused h
    rw [p.perform_request, hreason]
    exact ⟨reason, rfl⟩

/-- The second port of a cage with eight lanes has the upper four of them. -/
theorem perform_channel_second :
    let c : Cage := {
      instanceId := 1, name := "port0/2", family := .qsfpDD, portType := .qsfpDD2, address := 0x50
      selector := ⟨none, none⟩, selectDelay := .zero, presence := ⟨⟨"control", 0⟩, 0⟩
      reset := none, resetDelay := .zero, lowPower := none, txControl := none, rxLoss := none
      txFault := none, portLed := none, defaultSpeedMbps := none, channelOffset := 4
      maxPowerMw := 7000 }
    let p : SubPort := ⟨⟨c, .standard, ⟨.qsfpDD, 0x30, none, false⟩⟩⟩
    let b : Bench := ⟨Segment.blank.addQsfpDD 0x50 0x30, fun _ ↦ .ofLevel 1⟩
    let off : ChannelRequest := .txControl false
    (off.perform p 1).trace Bench.answer b = (off.perform p.inner 5).trace Bench.answer b ∧
      (∃ reason, (off.perform p 4).run Bench.answer b =
        ((.error (.invalidArgument reason), p), [], b)) ∧
      ∃ reason, (off.perform p 252).run Bench.answer b =
        ((.error (.invalidArgument reason), p), [], b) := by
  intro c p b off
  refine ⟨?_, ?_, ?_⟩
  · exact ((p.perform_channel off 1 Bench.answer b).1 5 rfl).2.1
  · exact (p.perform_channel off 4 Bench.answer b).2 (.inr ⟨rfl, trivial, by decide⟩)
  · exact (p.perform_channel off 252 Bench.answer b).2 (.inl (by decide))

end SubPort

end Transceiver
