import ComplianceTriage.Program

/-!
# The command line

Reads the files that the arguments name, runs the program, and writes what it says.
-/

open ComplianceTriage

namespace ComplianceTriage.Main

/-- The code of the error that a path leads through a file. -/
def notDirectoryCode : UInt32 := 20

/-- What kept a file from being read. Codes may come with either sign. -/
def fileError : IO.Error → FileError
  | .noFileOrDirectory .. => .missing
  | .inappropriateType _ code _ =>
    if code = notDirectoryCode || code = -notDirectoryCode then .notDirectory else .isDirectory
  | error => .other (toString error)

/-- Reads a file. -/
def readFile (path : String) : IO FileText := do
  try
    let bytes ← IO.FS.readBinFile path
    match String.fromUTF8? bytes with
    | some text => return .ok text
    | none => return .error .notText
  catch error => return .error (fileError error)

/-- The file in one's home with the configuration. -/
def ownConfigName : String := ".policy-doctor.toml"

/-- Reads the configuration of one's own. -/
def readOwnConfig : IO FileText := do
  match ← IO.getEnv "HOME" with
  | some home => readFile (home ++ "/" ++ ownConfigName)
  | none => return .error .missing

/-- The surroundings with some files. There is no way to a hub from here. -/
def surroundings (files : List (String × FileText)) (ownConfig : FileText)
    (contextVariable? : Option String) : Surroundings where
  file path := (files.lookup path).getD (.error .missing)
  ownConfig
  contextVariable?
  hub _ := .error (.unreachable "no hub is configured")

end ComplianceTriage.Main

/-- Runs the program. -/
def main (arguments : List String) : IO UInt32 := do
  let files ← (Program.filesOf arguments).mapM fun path => return (path, ← Main.readFile path)
  let surroundings :=
    Main.surroundings files (← Main.readOwnConfig) (← IO.getEnv "POLICY_DOCTOR_CONTEXT")
  let outcome := Program.run surroundings arguments
  IO.print outcome.output
  IO.eprint outcome.error
  return outcome.code.toUInt32
