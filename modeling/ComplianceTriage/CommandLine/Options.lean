/-!
# Options of the command line

Some options belong to the program and may stand before or behind the command; others belong to the
command. An option takes a value, or it is a flag.
-/

namespace ComplianceTriage.CommandLine

/-- What the program is asked to do. -/
inductive Command where
  | diagnose
  | inspect
deriving DecidableEq, Repr, Inhabited

/-- The command of a name. -/
def Command.ofName? (name : String) : Option Command :=
  if name = "diagnose" then some .diagnose
  else if name = "inspect" then some .inspect
  else none

/-- The name of the command that explains the others. -/
def helpName : String := "help"

/-- Whether a name is that of a command. -/
def isCommandName (name : String) : Bool :=
  (Command.ofName? name).isSome || name = helpName

/-- What a value on the command line is for. -/
inductive Parameter where
  | config
  | context
  | ns
  | cluster
  | file
  | policy
deriving DecidableEq, Repr, Inhabited

/-- An option that takes no value. -/
inductive Flag where
  | verbose
  | quiet
  | help
  | version
deriving DecidableEq, Repr, Inhabited

/-- An option: one with a value, or a flag. -/
inductive Choice where
  | valued (parameter : Parameter)
  | flag (flag : Flag)
deriving DecidableEq, Repr, Inhabited

/-- The two parts of a command line: before the command, and behind it. -/
inductive Level where
  | program
  | command
deriving DecidableEq, Repr, Inhabited

/-- The option of a long name. Names are not abbreviated. -/
def Level.ofName? (level : Level) (name : String) : Option Choice :=
  match name, level with
  | "config", _ => some (.valued .config)
  | "context", _ => some (.valued .context)
  | "verbose", _ => some (.flag .verbose)
  | "quiet", _ => some (.flag .quiet)
  | "help", _ => some (.flag .help)
  | "version", .program => some (.flag .version)
  | "namespace", .command => some (.valued .ns)
  | "cluster", .command => some (.valued .cluster)
  | "from-file", .command => some (.valued .file)
  | _, _ => none

/-- The option of a letter. -/
def Level.ofLetter? (level : Level) (letter : Char) : Option Choice :=
  match letter, level with
  | 'c', _ => some (.valued .config)
  | 'v', _ => some (.flag .verbose)
  | 'q', _ => some (.flag .quiet)
  | 'h', _ => some (.flag .help)
  | 'V', .program => some (.flag .version)
  | 'n', .command => some (.valued .ns)
  | _, _ => none

end ComplianceTriage.CommandLine
