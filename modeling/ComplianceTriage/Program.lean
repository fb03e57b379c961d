import ComplianceTriage.CommandLine.Reading
import ComplianceTriage.Config.Reading
import ComplianceTriage.Report.Encoding
import ComplianceTriage.Triage.Diagnosis
import ComplianceTriage.Triage.Inspection
import ComplianceTriage.Value.Layout

/-!
# The program

The program reads its command line, then its configuration, then the manifests or the hub, and
writes a report or the reason why there is none. It depends on its surroundings only through what
`Surroundings` holds.
-/

namespace ComplianceTriage

open CommandLine (Command Invocation Refusal)

/-- What the program is run in. -/
structure Surroundings where
  /-- The files by their paths. -/
  file : String → FileText
  /-- The configuration of the person who runs the program. -/
  ownConfig : FileText
  /-- The context that the environment names. -/
  contextVariable? : Option String
  /-- The hub of a context. -/
  hub : (context? : Option String) → Except AccessError Access

/-- How a run of the program ends. -/
structure Outcome where
  code : Nat
  output : String
  error : String
deriving DecidableEq, Repr, Inhabited

namespace Outcome

/-- The exit code after a cancellation. -/
def cancelledCode : Nat := 130

/-- The end of a run that wrote a report. -/
def ofReport (report : Value) : Outcome :=
  ⟨0, report.pretty ++ "\n", ""⟩

/-- The end of a run that failed. -/
def ofFailure (failure : Failure) : Outcome :=
  ⟨if failure.isCancelled then cancelledCode else 1, "", "Error: " ++ failure.userMessage ++ "\n"⟩

end Outcome

namespace Program

/-- The name and the version of the program. -/
def version : String := "policy-doctor 0.4.0"

/-- The end of a run without a command to carry out. Usage texts are not part of it. -/
def refuse (refusal : Refusal) : Outcome :=
  ⟨refusal.exitCode, if refusal = .versionWanted then version ++ "\n" else "", ""⟩

/-- The configuration of an invocation. One that is named must be sound; one's own is passed over if
it is not. -/
def configOf (surroundings : Surroundings) (invocation : Invocation) :
    Except Failure Config :=
  match invocation.config? with
  | some path => (Config.load path (surroundings.file path)).mapError .config
  | none => .ok ((Config.load "" surroundings.ownConfig).toOption.getD {})

/-- The request of an invocation. -/
def requestOf (invocation : Invocation) : Request :=
  ⟨invocation.policy, invocation.ns?.bind presence, invocation.cluster?.bind presence⟩

/-- The context of an invocation, where it is not empty. -/
def contextOf (config : Config) (invocation : Invocation) : Option String :=
  (invocation.context? <|> config.context?).bind presence

/-- The access of an invocation: to its manifests, if it names any, or to a hub. -/
def accessOf (surroundings : Surroundings) (config : Config) (invocation : Invocation) :
    Except Failure Access :=
  if invocation.files.isEmpty then
    (surroundings.hub (contextOf config invocation)).mapError .access
  else (Store.ofManifests (invocation.files.map surroundings.file)).map Store.access

/-- The report that a command makes. -/
def reportOf (access : Access) (settings : Settings) (request : Request) (command : Command) :
    Except Failure Value :=
  let run : Run Value := match command with
    | .diagnose => Diagnosis.toValue <$> diagnose access .calm settings request
    | .inspect => Inspection.toValue <$> inspect access .calm settings request
  (run.outcome (.start .calm)).1

/-- Carries out an invocation. -/
def carryOut (surroundings : Surroundings) (invocation : Invocation) : Except Failure Value := do
  let config ← configOf surroundings invocation
  let request := requestOf invocation
  request.check
  let access ← accessOf surroundings config invocation
  reportOf access config.triage request invocation.command

/-- Runs the program. -/
def run (surroundings : Surroundings) (arguments : List String) : Outcome :=
  match Invocation.ofArguments surroundings.contextVariable? arguments with
  | .error refusal => refuse refusal
  | .ok invocation =>
    match carryOut surroundings invocation with
    | .ok report => .ofReport report
    | .error failure => .ofFailure failure

/-- The files that a run may read. -/
def filesOf (arguments : List String) : List String :=
  match Invocation.ofArguments none arguments with
  | .error _ => []
  | .ok invocation => invocation.config?.toList ++ invocation.files

end Program

end ComplianceTriage
