/-!
# Arguments

The command takes an input and an output file and, anywhere among them, the path of a settings
file. Arguments are looked at from left to right: the first that is wrong is reported, and a call
for help that comes before it is answered.
-/

namespace RecordFarm

namespace CommandLine

def usage : String := "usage: swtrigger [--config <file.toml>] <input> <output>"

structure Files where
  /-- The settings file; the last one that was named. -/
  settings? : Option String
  input : String
  output : String
  deriving DecidableEq, Repr

inductive Request where
  | help
  | run (files : Files)
  deriving DecidableEq, Repr

inductive UsageError where
  | noSettingsPath
  | unknownOption (argument : String)
  /-- There are not exactly two files. -/
  | wrongFiles
  deriving DecidableEq, Repr

def UsageError.message : UsageError → String
  | noSettingsPath => "--config needs a path"
  | unknownOption argument => s!"unknown option '{argument}'\n" ++ usage
  | wrongFiles => "expected an input and an output file\n" ++ usage

/-- Whether an argument is an option, and not a file. -/
def isOption (argument : String) : Bool := argument.startsWith "-"

/-- Reads the arguments behind those that named a settings file and, newest first, these files. -/
def requestFrom (settings? : Option String) (files : List String) :
    List String → Except UsageError Request
  | [] =>
    match files with
    | [output, input] => .ok (.run { settings?, input, output })
    | _ => .error .wrongFiles
  | argument :: rest =>
    if argument = "-c" ∨ argument = "--config" then
      match rest with
      | [] => .error .noSettingsPath
      | path :: rest => requestFrom (some path) files rest
    else if argument = "-h" ∨ argument = "--help" then .ok .help
    else if isOption argument then .error (.unknownOption argument)
    else requestFrom settings? (argument :: files) rest

def request (arguments : List String) : Except UsageError Request :=
  requestFrom none [] arguments

end CommandLine

end RecordFarm
