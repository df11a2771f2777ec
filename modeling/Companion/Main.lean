import Companion.Command.Execute

namespace Companion

def usageText : String :=
  "Plans Bundle companion classes for annotated models\n\n" ++
  "Usage: bundler plan MANIFEST [--format json|summary] [-o FILE] [--all-failures] " ++
  "[--allow-key-collisions]\n" ++
  "       bundler check MANIFEST [--all-failures] [--allow-key-collisions]\n" ++
  "       bundler catalog"

def Usage.complaint : Usage → String
  | noArguments => "a command is required"
  | missingManifest => "the manifest is missing"
  | unknownCommand => "unrecognized command"
  | unknownArgument => "unexpected argument"
  | badValue => "invalid value"
  | repeatedOption => "an option is given twice"
  | unwantedValue => "an option that takes no value is given one"
  | help | version => ""

def answerUsage : Usage → IO UInt32
  | .help => do IO.println usageText; return 0
  | .version => do IO.println "bundler 0.1.0"; return 0
  | u => do IO.eprintln ("error: " ++ u.complaint ++ "\n\n" ++ usageText); return 2

def systemError (e : IO.Error) : SystemError :=
  match e with
  | .noFileOrDirectory .. => .notFound
  | .inappropriateType _ code _ => if code = 20 then .notADirectory else .isADirectory
  | .invalidArgument _ code _ => if code = 36 then .nameTooLong else .isADirectory
  | _ => .isADirectory

/-- What stands at a path; whatever is there but cannot be read counts as a folder. -/
def findEntry (path : String) : IO (Except SystemError Entry) := do
  if let some e := Directory.pathProblem? path then return .error e
  try
    return .ok (.file (← IO.FS.readBinFile path))
  catch e =>
    match systemError e with
    | .isADirectory => return .ok .folder
    | other => return .error other

def writeText (path text : String) : IO (Except SystemError Unit) := do
  if let some e := Directory.pathProblem? path then return .error e
  try
    IO.FS.writeFile path text
    return .ok ()
  catch e => return .error (systemError e)

def ManifestError.report : ManifestError → String
  | unreadable path => "failed to read manifest `" ++ path ++ "`"
  | json .truncated => "malformed manifest: unexpected end of input"
  | json .malformed => "malformed manifest: not JSON"
  | json (.mismatch m) => "malformed manifest: " ++ m.message
  | duplicateDeclaration name => "type `" ++ name ++ "` is declared more than once"

def CommandFailure.report : CommandFailure → String
  | badManifest e => e.report
  | f => f.message?.getD ""

def Rejection.report (r : Rejection) : String :=
  "\n".intercalate (r.message :: r.objections.map fun o =>
    "  " ++ o.code ++ ": " ++ o.message ++ ((o.help?.map ("\n    help: " ++ ·)).getD ""))

def finish (r : CommandReport) : IO UInt32 := do
  IO.print r.printed
  r.rejections.forM fun rejection => IO.eprintln rejection.report
  r.tally.forM IO.eprintln
  return r.exitCode.toUInt32

def run (c : Command) : IO UInt32 := do
  let found ← findEntry (c.manifest?.getD "")
  match c.prepare found with
  | .error f => do IO.eprintln f.report; return CommandFailure.exitCode.toUInt32
  | .ok conclusion =>
    match conclusion.file with
    | none => finish conclusion.report
    | some (path, text) =>
      match ← writeText path text with
      | .ok () => finish conclusion.report
      | .error e => do
        IO.eprintln (CommandFailure.report (.cannotWrite path e))
        return CommandFailure.exitCode.toUInt32

end Companion

def main (args : List String) : IO UInt32 :=
  match Companion.Command.parse args with
  | .ok c => Companion.run c
  | .error u => Companion.answerUsage u
