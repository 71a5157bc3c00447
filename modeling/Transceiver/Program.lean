import Transceiver.Error
import Transceiver.Log

/-!
# Programs of a host

An operation on a cage is a program: a tree of actions on pin groups and the bus, each followed by
a program for every reply.  A program does nothing by itself; `run` gives it an environment that
answers, and returns what was asked and answered on the way.
-/

namespace Transceiver

/-- A bank of lines that is read and written as one word.  Groups are told apart by their number;
the name is what they are registered under. -/
structure PinGroup where
  name : String
  id : Nat
deriving DecidableEq, Repr

/-- What a host asks of its surroundings. -/
inductive Action where
  /-- Claim a group for the caller alone. -/
  | acquire (group : PinGroup)
  | release (group : PinGroup)
  | readLevel (group : PinGroup)
  | writeLevel (group : PinGroup) (level : UInt32)
  | read (address offset : UInt8) (length : Nat)
  | write (address offset : UInt8) (data : List UInt8)
  | pause (span : Duration)
  | log (record : Record)
deriving DecidableEq, Repr

/-- What comes back. -/
abbrev Action.Reply : Action → Type
  | .acquire _ => Except PinFault Unit
  | .release _ => Unit
  | .readLevel _ => Except PinFault UInt32
  | .writeLevel _ _ => Except PinFault Unit
  | .read _ _ length => Except BusFault (Vector UInt8 length)
  | .write _ _ _ => Except BusFault Unit
  | .pause _ => Unit
  | .log _ => Unit

/-- A tree of actions. -/
inductive Program (α : Type) where
  | done (a : α)
  | ask (action : Action) (next : action.Reply → Program α)

namespace Program

variable {α β γ : Type}

def bind (p : Program α) (f : α → Program β) : Program β :=
  match p with
  | .done a => f a
  | .ask action next => .ask action fun r ↦ (next r).bind f

instance : Monad Program where
  pure := .done
  bind := bind

@[simp] theorem pure_eq (a : α) : (pure a : Program α) = .done a := rfl

@[simp] theorem bind_eq (p : Program α) (f : α → Program β) : p >>= f = p.bind f := rfl

@[simp] theorem bind_done (p : Program α) : p.bind .done = p := by
  induction p with
  | done a => rfl
  | ask action next ih => simp [bind, ih]

theorem bind_assoc (p : Program α) (f : α → Program β) (g : β → Program γ) :
    (p.bind f).bind g = p.bind fun a ↦ (f a).bind g := by
  induction p with
  | done a => rfl
  | ask action next ih => simp [bind, ih]

instance : LawfulMonad Program :=
  .mk' Program (fun p ↦ bind_done p) (fun _ _ ↦ rfl) bind_assoc

end Program

/-- The program of a single action. -/
def perform (action : Action) : Program action.Reply := .ask action .done

/-- An action with the reply to it. -/
structure Event where
  action : Action
  reply : action.Reply

/-- What happened, in order. -/
abbrev Trace := List Event

/-- An environment with states in `σ`: how it answers an action, and what it is afterwards. -/
abbrev Environment (σ : Type) := (action : Action) → σ → action.Reply × σ

/-- What a program returns from a state, what happens on the way and the state it ends in. -/
def Program.run {σ α : Type} (env : Environment σ) : Program α → σ → α × Trace × σ
  | .done a, s => (a, [], s)
  | .ask action next, s =>
    let (reply, s₁) := env action s
    let (a, trace, s₂) := (next reply).run env s₁
    (a, ⟨action, reply⟩ :: trace, s₂)

/-- A program that may fail. -/
abbrev Procedure (α : Type) := ExceptT Error Program α

/-- Write a record. -/
def report (severity : Severity) (message : String) (fields : List (String × String)) :
    Program Unit :=
  perform (.log ⟨severity, message, fields⟩)

/-- Wait for a span of time, if it is any. -/
def settle (span : Duration) : Program Unit :=
  if span.isZero then return () else perform (.pause span)

end Transceiver
