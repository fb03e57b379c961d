import ComplianceTriage.CommandLine.Options

/-!
# Reading a command line

Arguments are read from left to right, first those of the program up to the name of the command,
then those of the command. An option takes its value behind an equals sign, behind its letter, or
from the next argument, unless that looks like an option itself. Behind two dashes nothing is an
option.

An option with a separate value counts as given only when the next option or name comes
(`Given.settle`), and the options of the program only after those of the command. So of two mistakes
it is not always the leftmost that is told.
-/

namespace ComplianceTriage.CommandLine

/-- Why a command line is not carried out. -/
inductive Refusal where
  /-- Help was asked for. -/
  | helpWanted
  /-- The version was asked for. -/
  | versionWanted
  /-- Nothing was given at all. -/
  | nothingGiven
  | missingCommand
  | unknownCommand
  | unknownArgument
  /-- The policy is not named. -/
  | missingPolicy
  /-- An option that may be given once is given twice. -/
  | givenTwice
  /-- A value is missing, or empty where it may not be. -/
  | badValue
  /-- A flag with a value. -/
  | unwantedValue
deriving DecidableEq, Repr, Inhabited

/-- The exit code of a refusal: help and version are no failures. -/
def Refusal.exitCode : Refusal → Nat
  | helpWanted => 0
  | versionWanted => 0
  | _ => 2

/-- What was given on one level. -/
structure Given where
  config? : Option String := none
  context? : Option String := none
  ns? : Option String := none
  cluster? : Option String := none
  files : List String := []
  policy? : Option String := none
  /-- The number of flags for more output, if there is one. -/
  verbosity? : Option Nat := none
  quiet : Bool := false
  /-- The last option or name, as long as it does not count yet, with its value if that was read. -/
  pending : Option (Parameter × Option String) := none
deriving Repr, Inhabited

namespace Given

/-- The highest number of flags for more output that is told apart. -/
def maxVerbosity : Nat := 255

/-- Sets a value that may be given once. -/
def once (old : Option String) (value : String) : Except Refusal (Option String) :=
  if old.isSome then .error .givenTwice else .ok (some value)

/-- Takes a path, which must not be empty. -/
def path (value : String) : Except Refusal String :=
  if value.isEmpty then .error .badValue else .ok value

/-- Assigns a value to what it is for. -/
def assign (given : Given) (parameter : Parameter) (value : String) : Except Refusal Given := do
  match parameter with
  | .config =>
    let config? ← once given.config? value
    discard (path value)
    return { given with config? }
  | .context => return { given with context? := ← once given.context? value }
  | .ns => return { given with ns? := ← once given.ns? value }
  | .cluster => return { given with cluster? := ← once given.cluster? value }
  | .file => return { given with files := given.files ++ [← path value] }
  | .policy => return { given with policy? := ← once given.policy? value }

/-- Makes what is pending count. -/
def settle (given : Given) : Except Refusal Given :=
  let settled := { given with pending := none }
  match given.pending with
  | none => .ok settled
  | some (_, none) => .error .badValue
  | some (parameter, some value) => settled.assign parameter value

/-- Whether the next argument is the value of an option. -/
def awaitsValue (given : Given) : Bool :=
  match given.pending with
  | some (_, none) => true
  | _ => false

/-- Whether the policy has been named. -/
def namesPolicy (given : Given) : Bool :=
  given.policy?.isSome || given.pending.any fun entry => entry.1 = .policy

/-- Takes an option that needs a value, which may be attached to it. -/
def takeOption (given : Given) (parameter : Parameter) (attached : Option String) :
    Except Refusal Given := do
  let given ← given.settle
  match attached with
  | some value => given.assign parameter value
  | none => return { given with pending := some (parameter, none) }

/-- Takes a flag. -/
def takeFlag (given : Given) (flag : Flag) : Except Refusal Given := do
  let given ← given.settle
  match flag with
  | .verbose =>
    return { given with verbosity? := some (min maxVerbosity (given.verbosity?.getD 0 + 1)) }
  | .quiet => if given.quiet then throw .givenTwice else return { given with quiet := true }
  | .help => throw .helpWanted
  | .version => throw .versionWanted

/-- Takes a long option, with the text behind its equals sign if there is one. -/
def takeLong (level : Level) (given : Given) (name : String) (attached : Option String) :
    Except Refusal Given :=
  match level.ofName? name, attached with
  | none, _ => .error .unknownArgument
  | some (.valued parameter), _ => given.takeOption parameter attached
  | some (.flag _), some _ => .error .unwantedValue
  | some (.flag flag), none => given.takeFlag flag

/-- The value behind the letter of an option. -/
def behindLetter : List Char → Option String
  | [] => none
  | '=' :: value => some (String.ofList value)
  | value => some (String.ofList value)

/-- Takes letters: flags, and at their end an option with what is behind it as its value. -/
def takeLetters (level : Level) : List Char → Given → Except Refusal Given
  | [], given => .ok given
  | letter :: rest, given =>
    match level.ofLetter? letter with
    | none => .error .unknownArgument
    | some (.valued parameter) => given.takeOption parameter (behindLetter rest)
    | some (.flag flag) => (given.takeFlag flag).bind (takeLetters level rest)

/-- Takes an argument that is neither an option nor a value of one. -/
def takeName (level : Level) (escaped : Bool) (given : Given) (name : String) :
    Except Refusal Given := do
  match level with
  | .program => throw (if escaped && isCommandName name then .unknownArgument else .unknownCommand)
  | .command =>
    if given.namesPolicy then throw .unknownArgument
    let given ← given.settle
    return { given with pending := some (.policy, some name) }

/-- Takes the next argument, before two dashes. -/
def take (level : Level) (given : Given) (argument : String) : Except Refusal Given :=
  match argument.toList with
  | '-' :: '-' :: body =>
    let name := body.takeWhile (· ≠ '=')
    let attached := (body.drop name.length).tail?.map String.ofList
    given.takeLong level (String.ofList name) attached
  | '-' :: letter :: letters => given.takeLetters level (letter :: letters)
  | _ =>
    -- What looks like no option may still be the value of one.
    match given.pending with
    | some (parameter, none) => .ok { given with pending := some (parameter, some argument) }
    | _ => given.takeName level false argument

/-- Takes all arguments behind two dashes. -/
def takeEscaped (level : Level) (given : Given) (arguments : List String) : Except Refusal Given :=
  arguments.foldlM (fun given argument => given.takeName level true argument) given

end Given

/-- The two dashes behind which nothing is an option. -/
def escapeMark : String := "--"

/-- Reads the arguments of a command. -/
def readCommand : Given → List String → Except Refusal Given
  | given, [] => .ok given
  | given, argument :: rest =>
    if argument = escapeMark then given.takeEscaped .command rest
    else (given.take .command argument).bind fun given => readCommand given rest

/-- The answer to a request for help on some commands, which must exist. -/
def explain : List String → Refusal
  | [] => .helpWanted
  | [name] => if isCommandName name then .helpWanted else .unknownCommand
  | _ => .unknownCommand

/-- Reads the arguments of the program up to a command, and gives back what follows that. -/
def readProgram :
    Given → List String → Except Refusal (Given × Option (Command × List String))
  | given, [] => .ok (given, none)
  | given, argument :: rest =>
    if !given.awaitsValue && argument = helpName then .error (explain rest)
    else
      match if given.awaitsValue then none else Command.ofName? argument with
      | some command => .ok (given, some (command, rest))
      | none =>
        if argument = escapeMark then
          (given.takeEscaped .program rest).map fun given => (given, none)
        else (given.take .program argument).bind fun given => readProgram given rest

/-- A command line that can be carried out. -/
structure Invocation where
  command : Command
  policy : String
  ns? : Option String
  cluster? : Option String
  /-- The manifests to read instead of a hub. -/
  files : List String
  config? : Option String
  verbosity : Nat
  quiet : Bool
  context? : Option String
deriving DecidableEq, Repr, Inhabited

/-- Whether anything was given. -/
def Given.isBlank (given : Given) : Bool :=
  given.config?.isNone && given.context?.isNone && given.verbosity?.isNone && !given.quiet

/-- Puts together what was given before a command and behind it. What is given behind it counts
more, and what the environment says counts least. -/
def Invocation.combine (command : Command) (policy : String) (program behind : Given)
    (contextVariable? : Option String) : Invocation where
  command
  policy
  ns? := behind.ns?
  cluster? := behind.cluster?
  files := behind.files
  config? := behind.config? <|> program.config?
  verbosity := (behind.verbosity? <|> program.verbosity?).getD 0
  quiet := behind.quiet || program.quiet
  context? := behind.context? <|> program.context? <|> contextVariable?

/-- Reads a command line, without the name of the program. -/
def Invocation.ofArguments (contextVariable? : Option String) (arguments : List String) :
    Except Refusal Invocation := do
  let (program, command?) ← readProgram {} arguments
  match command? with
  | none =>
    let program ← program.settle
    throw (if program.isBlank && contextVariable?.isNone then .nothingGiven else .missingCommand)
  | some (command, rest) =>
    let behind ← (← readCommand {} rest).settle
    match behind.policy? with
    | none => throw .missingPolicy
    | some policy =>
      let program ← program.settle
      return .combine command policy program behind contextVariable?

end ComplianceTriage.CommandLine
