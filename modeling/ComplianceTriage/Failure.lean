import ComplianceTriage.Hub.Access

/-!
# Failures of a request

A request ends with a report or with one of these causes. Each cause has a text of its own, and the
person at the terminal is told a little more about some of them (`Failure.userMessage`).
-/

namespace ComplianceTriage

/-- Why a file could not be read as text. -/
inductive FileError where
  /-- There is no such file. -/
  | missing
  /-- The path names a directory. -/
  | isDirectory
  /-- The path leads through something that is not a directory. -/
  | notDirectory
  /-- The content is not valid UTF-8. -/
  | notText
  /-- Another cause. -/
  | other (detail : String)
deriving DecidableEq, Repr, Inhabited

/-- The text of a file error. -/
def FileError.message : FileError → String
  | missing => "No such file or directory (os error 2)"
  | isDirectory => "Is a directory (os error 21)"
  | notDirectory => "Not a directory (os error 20)"
  | notText => "stream did not contain valid UTF-8"
  | other detail => detail

/-- Why a configuration could not be used. -/
inductive ConfigError where
  | unreadable (path : String) (cause : FileError)
  | malformed (detail : String)
  | invalidValue (field : String) (problem : String)
deriving DecidableEq, Repr, Inhabited

/-- The text of a configuration error. -/
def ConfigError.message : ConfigError → String
  | unreadable path cause => "Failed to read config file " ++ path ++ ": " ++ cause.message
  | malformed detail => "Failed to parse configuration: " ++ detail
  | invalidValue field problem =>
    "Invalid configuration value for '" ++ field ++ "': " ++ problem

/-- Why a request ended without a report. -/
inductive Failure where
  /-- The request itself makes no sense. -/
  | invalidArguments (detail : String)
  /-- No namespace has a policy of the name; one of them was named. -/
  | policyNotFound (name : String) (ns? : Option String)
  /-- The caller gave up. -/
  | cancelled
  /-- The hub could not answer. -/
  | access (cause : AccessError)
  /-- The configuration could not be used. -/
  | config (cause : ConfigError)
  /-- A manifest could not be read. -/
  | file (cause : FileError)
  /-- A manifest is not well-formed. -/
  | manifest (detail : String)
deriving DecidableEq, Repr, Inhabited

namespace Failure

/-- The text of a failure. -/
def message : Failure → String
  | invalidArguments detail => "invalid arguments: " ++ detail
  | policyNotFound name none => "policy \"" ++ name ++ "\" not found in any namespace"
  | policyNotFound name (some ns) =>
    "policy \"" ++ name ++ "\" not found in namespace \"" ++ ns ++ "\" or any other namespace"
  | cancelled => "operation canceled"
  | access cause => "resource access failed: " ++ cause.message
  | config cause => "Configuration error: " ++ cause.message
  | file cause => "IO error: " ++ cause.message
  | manifest detail => "YAML error: " ++ detail

/-- The text of a failure for the person at the terminal. -/
def userMessage : Failure → String
  | cancelled => "Operation was canceled before completion."
  | access (.unreachable detail) =>
    "Failed to connect to the hub cluster. " ++
      "Please verify in-cluster config or the KUBECONFIG environment variable. (" ++
      (access (.unreachable detail)).message ++ ")"
  | policyNotFound name ns? =>
    (policyNotFound name ns?).message ++
      ". Check the policy name, or pass --namespace to narrow the search."
  | failure => failure.message

/-- Whether the caller gave up. -/
def isCancelled (failure : Failure) : Bool :=
  failure = cancelled

end Failure

end ComplianceTriage
