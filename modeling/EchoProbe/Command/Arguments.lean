import EchoProbe.Command.Flag

/-!
# The command line

A command line names one of three commands. Flags of the program stand
before the command or behind it, flags of the command behind it; after `--`
there are no flags any more. `Invocation.parse` reads the arguments one by
one from the left.

A flag whose value is the next argument stays *pending* until the next flag,
or until there are no more arguments, and only then is it checked and its
value read. An argument that has no place is therefore reported although a
pending flag may be at fault, too; and the command with its flags is dealt
with before a pending flag in front of it.
-/

namespace EchoProbe.Command

/-- **The commands.** -/
inductive Verb where
  /-- Run the echo server until it is interrupted. -/
  | serve
  /-- Run the probe once. -/
  | probe
  /-- Run the server, wait for the operator, and run the probe. -/
  | session
deriving DecidableEq, Repr

namespace Verb

/-- All commands. -/
def all : List Verb := [.serve, .probe, .session]

/-- The name of a command. -/
def name : Verb → String
  | .serve => "serve"
  | .probe => "probe"
  | .session => "session"

/-- The command of a name. -/
def ofName? (name : String) : Option Verb := all.find? (·.name == name)

/-- What a command is for. -/
def purpose : Verb → String
  | .serve => "Run the upstream echo server until Ctrl+C"
  | .probe => "Run the proxy test client once"
  | .session => "Start the upstream, wait for the operator, then probe through the proxy"

/-- The flags of a command. -/
def flags : Verb → List Flag
  | .serve => [.host, .port, .config, .jsonLogs, .help]
  | .probe => [.proxyUrl, .scenario, .strict, .json, .config, .jsonLogs, .help]
  | .session =>
    [.host, .port, .proxyUrl, .scenario, .strict, .json, .noWait, .noLinger, .config, .jsonLogs,
      .help]

end Verb

/-- What a name in the place of a command stands for. -/
inductive Named where
  /-- A command. -/
  | verb (verb : Verb)
  /-- The help on a command. -/
  | help
deriving DecidableEq, Repr

/-- What a name stands for. -/
def Named.of? (name : String) : Option Named :=
  match Verb.ofName? name with
  | some v => some (.verb v)
  | none => if name = "help" then some .help else none

/-- The flags in front of the command. -/
def programFlags : List Flag := [.config, .jsonLogs, .help, .version]

/-- Where an argument stands: in front of the command, or behind it. -/
abbrev Place := Option Verb

/-- The flags of a place. -/
def Place.flags : Place → List Flag
  | some verb => verb.flags
  | none => programFlags

/-- **Why the reading of a command line stops.** -/
inductive Stop where
  /-- It is refused. -/
  | refused (refusal : Refusal)
  /-- It asks for the help on a place. -/
  | help (place : Place)
  /-- It asks for the version. -/
  | version
  /-- It is empty. -/
  | empty
deriving DecidableEq, Repr

/-- A flag that is not dealt with yet, and its value if it is there. -/
structure Pending where
  /-- The flag. -/
  flag : Flag
  /-- The value. -/
  value : Option String
deriving DecidableEq, Repr

/-- **How far the reading has come.** -/
structure Reading where
  /-- Where. -/
  place : Place
  /-- What the flags so far choose. -/
  choices : Choices
  /-- The flags so far. -/
  seen : List Flag
  /-- The flag that is not dealt with yet. -/
  pending : Option Pending
deriving DecidableEq, Repr

namespace Reading

/-- The reading of a place that begins. -/
def start (place : Place) : Reading := ⟨place, {}, [], none⟩

/-- Whether the next argument is the value of a flag. -/
def awaitsValue (r : Reading) : Bool :=
  match r.pending with
  | some p => p.value.isNone
  | none => false

/-- Put down that a flag has been dealt with. -/
def mark (r : Reading) (flag : Flag) (choices : Choices) : Reading :=
  { r with choices, seen := flag :: r.seen }

/-- Deal with the value of a flag. -/
def giveValue (r : Reading) (flag : Flag) (value : String) : Except Stop Reading :=
  if r.seen.contains flag then .error (.refused (.repeated flag))
  else
    match r.choices.assign flag value with
    | .ok choices => .ok (r.mark flag choices)
    | .error refusal => .error (.refused refusal)

/-- **Deal with the pending flag.** -/
def settle (r : Reading) : Except Stop Reading :=
  match r.pending with
  | none => .ok r
  | some ⟨flag, none⟩ => .error (.refused (.missingValue flag))
  | some ⟨flag, some value⟩ => { r with pending := none }.giveValue flag value

/-- Deal with a switch. -/
def turnOn (r : Reading) (flag : Flag) : Except Stop Reading := do
  let r ← r.settle
  match flag with
  | .help => throw (.help r.place)
  | .version => throw .version
  | flag =>
    if r.seen.contains flag then throw (.refused (.repeated flag))
    else return r.mark flag (r.choices.turnOn flag)

/-- Deal with a flag that is written out, perhaps with its value behind an
equals sign. -/
def long (r : Reading) (name : String) (value : Option String) : Except Stop Reading :=
  match r.place.flags.find? (·.name == name), value with
  | none, _ => .error (.refused (.unexpectedArgument ("--" ++ name)))
  | some flag, none =>
    if flag.takesValue then r.settle.map fun r => { r with pending := some ⟨flag, none⟩ }
    else r.turnOn flag
  | some flag, some value =>
    if flag.takesValue then do (← r.settle).giveValue flag value
    else .error (.refused (.unexpectedValue flag value))

/-- Deal with a letter that stands for a flag. -/
def short (r : Reading) (letter : Char) : Except Stop Reading :=
  match r.place.flags.find? (·.letter? == some letter) with
  | some flag => r.turnOn flag
  | none => .error (.refused (.unexpectedArgument (String.ofList ['-', letter])))

/-- The command that an argument names, unless it is the value of a flag. -/
def command? (r : Reading) (argument : String) : Option Named :=
  if r.awaitsValue then none else Named.of? argument

/-- Why an argument is refused that has no place. Behind `--` a command is
no command. -/
def stray (r : Reading) (trailing : Bool) (argument : String) : Refusal :=
  match r.place with
  | some _ => .unexpectedArgument argument
  | none =>
    if trailing && (Named.of? argument).isSome then
      .unexpectedArgument argument
    else .unknownCommand argument

end Reading

/-- The name and the value of a flag that is written out. -/
def splitEquals (cs : List Char) : String × Option String :=
  let name := cs.takeWhile (· != '=')
  (String.ofList name,
    match cs.drop name.length with
    | [] => none
    | _ :: value => some (String.ofList value))

/-- **A kind of argument.** -/
inductive Argument where
  /-- The end of the flags. -/
  | separator
  /-- A flag that is written out. -/
  | long (name : String) (value : Option String)
  /-- A letter that stands for a flag. -/
  | short (letter : Char)
  /-- Anything else. -/
  | plain
deriving DecidableEq, Repr

/-- The kind of an argument. Of several letters only the first matters, as
none of them lets the reading go on. -/
def Argument.of (argument : String) : Argument :=
  match argument.toList with
  | ['-', '-'] => .separator
  | '-' :: '-' :: cs => let (name, value) := splitEquals cs; .long name value
  | '-' :: c :: _ => .short c
  | _ => .plain

/-- Read the flags of a command. -/
def readFlags (r : Reading) : List String → Except Stop Reading
  | [] => r.settle
  | argument :: rest =>
    match Argument.of argument with
    | .separator =>
      match rest with
      | [] => r.settle
      | stray :: _ => .error (.refused (r.stray true stray))
    | .long name value => do readFlags (← r.long name value) rest
    | .short letter => do readFlags (← r.short letter) rest
    | .plain =>
      match r.pending with
      | some ⟨flag, none⟩ => readFlags { r with pending := some ⟨flag, some argument⟩ } rest
      | _ => .error (.refused (r.stray false argument))

/-- The help that names behind `help` ask for. There is none below a
command. -/
def readHelp : List String → Stop
  | [] => .help none
  | name :: rest =>
    match Named.of? name with
    | none => .refused (.unknownCommand name)
    | some named =>
      match rest, named with
      | stray :: _, _ => .refused (.unknownCommand stray)
      | [], .verb verb => .help (some verb)
      | [], .help => .help none

/-- **What the command line asks for.** -/
structure Invocation where
  /-- The command. -/
  verb : Verb
  /-- What the flags choose. -/
  choices : Choices
deriving DecidableEq, Repr

/-- The command with its flags, and then the flag that is pending in front
of it. -/
def readVerb (r : Reading) (verb : Verb) (rest : List String) : Except Stop Invocation := do
  let inner ← readFlags (.start (some verb)) rest
  let outer ← r.settle
  return ⟨verb, outer.choices.merge inner.choices⟩

/-- Why a command line without a command is refused. -/
def lacking (r : Reading) : Stop := if r.seen.isEmpty then .empty else .refused .missingCommand

/-- No command comes any more. -/
def readNothing (r : Reading) : Except Stop Invocation := do throw (lacking (← r.settle))

/-- Read the flags in front of the command, and the command. -/
def readProgram (r : Reading) : List String → Except Stop Invocation
  | [] => readNothing r
  | argument :: rest =>
    match r.command? argument with
    | some (.verb verb) => readVerb r verb rest
    | some .help => .error (readHelp rest)
    | none =>
      match Argument.of argument with
      | .separator =>
        match rest with
        | [] => readNothing r
        | stray :: _ => .error (.refused (r.stray true stray))
      | .long name value => do readProgram (← r.long name value) rest
      | .short letter => do readProgram (← r.short letter) rest
      | .plain =>
        match r.pending with
        | some ⟨flag, none⟩ => readProgram { r with pending := some ⟨flag, some argument⟩ } rest
        | _ => .error (.refused (r.stray false argument))

/-- **Read a command line.** -/
def Invocation.parse (arguments : List String) : Except Stop Invocation :=
  readProgram (.start none) arguments

end EchoProbe.Command
