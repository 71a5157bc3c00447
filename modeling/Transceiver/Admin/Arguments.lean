import Transceiver.Admin.Verb

/-!
# Command line arguments

An option takes a value, in the argument after it or attached to it; what is no option is plain.
After `--` everything is plain.  An argument that starts with a hyphen is never the value of the
option before it.

Arguments are read from left to right, and the first that does not fit, or that asks for help,
ends the reading.  A value in an argument of its own is looked at together with the argument after
it; where that is a command, the arguments of the command come first.
-/

namespace Transceiver.Admin

/-- The names of an option, and what a page says of it. -/
structure OptionLabel where
  long : String
  short : Option Char
  /-- What stands for the value. -/
  value : String
  about : String
  /-- What more there is to say of the value. -/
  note : String
deriving DecidableEq, Repr

/-- Why arguments are not carried out. -/
inductive Refusal where
  /-- They make no request. -/
  | misuse
  /-- They ask for help about a command or about the program, in full or in short. -/
  | help (verb : Option Verb) (full : Bool)
  /-- They ask for the version of the program. -/
  | version
deriving DecidableEq, Repr

/-- An option, with what its value adds to what has been read. -/
structure Choice (σ : Type) extends OptionLabel where
  take : String → σ → Except Refusal σ

/-- What an argument is while options are read. -/
inductive Argument (σ : Type) where
  | plain
  | option (choice : Choice σ) (attached : Option String)
  | help (full : Bool)
  | version
  | unknown

namespace Argument

variable {σ : Type}

/-- A long option, with a value behind an equals sign. -/
def ofLong (choices : List (Choice σ)) (cs : List Char) : Argument σ :=
  let (key, rest) := cs.span (· ≠ '=')
  let long := String.ofList key
  if long = "help" ∧ rest.isEmpty then .help true
  else if long = "version" ∧ rest.isEmpty then .version
  else
    match choices.find? fun o ↦ o.long = long with
    | some o => .option o (if rest.isEmpty then none else some (String.ofList (rest.drop 1)))
    | none => .unknown

/-- A short option, with a value right behind it or behind an equals sign. -/
def ofShort (choices : List (Choice σ)) (letter : Char) (cs : List Char) : Argument σ :=
  match choices.find? fun o ↦ o.short = some letter with
  | some o =>
    match cs with
    | [] => .option o none
    | '=' :: value => .option o (some (String.ofList value))
    | value => .option o (some (String.ofList value))
  | none =>
    if letter = 'h' then .help false else if letter = 'V' then .version else .unknown

def classify (choices : List (Choice σ)) (s : String) : Argument σ :=
  match s.toList with
  | '-' :: '-' :: cs => ofLong choices cs
  | '-' :: c :: cs => ofShort choices c cs
  | _ => .plain

end Argument

/-- What may be given in one place. -/
structure Offer (σ : Type) where
  choices : List (Choice σ)
  /-- The command that is spoken to, with what a plain argument adds to what has been read; none in
  front of the command. -/
  command : Option (Verb × (String → σ → Except Refusal σ))

namespace Offer

variable {σ : Type}

/-- Read arguments up to the command, if that is still to come.  The first part is what has been
read, once the value that was read last fits. -/
def read (o : Offer σ) (done : Except Refusal σ) :
    List String → Except Refusal (Except Refusal σ × List String)
  | [] => .ok (done, [])
  | arg :: rest =>
    if arg = "--" then
      match o.command with
      | none => .error .misuse
      | some (_, take) => .ok (rest.foldl (fun done s ↦ done >>= take s) done, [])
    else
      match Argument.classify o.choices arg, o.command with
      | .plain, none => .ok (done, arg :: rest)
      | .plain, some (_, take) => do
        o.read (.ok (← take arg (← done))) rest
      | .option choice (some value), _ => do
        o.read (.ok (← choice.take value (← done))) rest
      | .option choice none, _ =>
        match rest with
        | [] => .error .misuse
        | value :: rest =>
          if value = "-" ∨ !value.startsWith "-" then do
            o.read (choice.take value (← done)) rest
          else .error .misuse
      | .help full, command => do
        let _ ← done
        throw (.help (command.map Prod.fst) full)
      -- The version is that of the program, not of a command.
      | .version, none => do
        let _ ← done
        throw .version
      | .version, some _ => .error .misuse
      | .unknown, _ => .error .misuse

/-- Read arguments to their end. -/
def readAll (o : Offer σ) (start : σ) (args : List String) : Except Refusal σ := do
  (← o.read (.ok start) args).1

end Offer

end Transceiver.Admin
