import Companion.Command.Directory
import Companion.Command.Line
import Companion.Planning.Run
import Companion.Report.Listing
import Companion.Report.PlanJson
import Companion.Report.PlanSummary

namespace Companion

def Universe.load (path : String) (found : Except SystemError Entry) :
    Except ManifestError Universe :=
  match found.toOption.bind Entry.text? with
  | some source => Universe.parse source
  | none => .error (.unreadable path)

def maxManifestSize : Nat := 100 * 1024 * 1024

inductive CommandFailure where
  | cannotAccess (path : String) (e : SystemError)
  | tooLarge (path : String) (size : Nat)
  | badManifest (e : ManifestError)
  | unresolved (e : SymbolError)
  | cannotWrite (path : String) (e : SystemError)
  deriving DecidableEq, Repr

/-- The message of a failure; a bad manifest has a report instead. -/
def CommandFailure.message? : CommandFailure → Option String
  | cannotAccess path e => some ("Cannot access manifest '" ++ path ++ "': " ++ e.text)
  | tooLarge path size =>
    some ("Manifest '" ++ path ++ "' is too large (" ++ toString size ++ " bytes, max " ++
      toString maxManifestSize ++ " bytes)")
  | badManifest _ => none
  | unresolved e => some ("Error: " ++ e.message)
  | cannotWrite path e => some ("Error writing '" ++ path ++ "': " ++ e.text)

def CommandFailure.exitCode : Nat := 1

structure CommandReport where
  printed : String := ""
  rejections : List Rejection := []
  tally : Option String := none
  succeeded : Bool := true
  deriving DecidableEq, Repr

def CommandReport.exitCode (r : CommandReport) : Nat := if r.succeeded then 0 else 1

/-- A command about to end: it may have a text to be written to a file, and tells the report once
the text is written. -/
structure Conclusion where
  file : Option (String × String) := none
  report : CommandReport
  deriving DecidableEq, Repr

namespace Command

def manifest? : Command → Option String
  | plan manifest .. | check manifest _ => some manifest
  | catalog => none

def render : OutputFormat → List Plan → String
  | .json, ps => Plan.document ps
  | .summary, ps => Plan.summary ps

/-- The universe of the manifest that stands at a path, unless it is too large to be read. -/
def load (path : String) (found : Except SystemError Entry) : Except CommandFailure Universe := do
  let entry ← found.mapError (.cannotAccess path)
  -- the length is looked at before the content
  if maxManifestSize < entry.size then throw (.tooLarge path entry.size)
  (Universe.load path (.ok entry)).mapError .badManifest

def outcome (path : String) (found : Except SystemError Entry) (options : PlanningOptions) :
    Except CommandFailure Outcome := do
  let u ← load path found
  (u.plan options).mapError .unresolved

def conclude (o : Outcome) : Command → Conclusion
  | plan _ format output _ =>
    let text := render format o.plans
    { file := output.map fun path => (path, text)
      report :=
        { printed := if output.isSome then "" else text
          rejections := o.rejections
          succeeded := o.isSuccess } }
  | check _ _ =>
    { report :=
        { printed :=
            if o.isSuccess then "✓ " ++ toString o.plans.length ++ " model(s) can be planned\n"
            else ""
          rejections := o.rejections
          tally :=
            if o.isSuccess then none
            else some (toString o.rejections.length ++ " of " ++
              toString (o.rejections.length + o.plans.length) ++ " model(s) rejected")
          succeeded := o.isSuccess } }
  | catalog => { report := { printed := Listing.text } }

def prepare (found : Except SystemError Entry) (c : Command) : Except CommandFailure Conclusion :=
  match c with
  | plan manifest _ _ options | check manifest options => do
    return c.conclude (← outcome manifest found options)
  | catalog => .ok (c.conclude {})

def execute (d : Directory) (c : Command) : Except CommandFailure (CommandReport × Directory) := do
  let found := d.read (c.manifest?.getD "")
  let conclusion ← c.prepare found
  match conclusion.file with
  | none => return (conclusion.report, d)
  | some (path, text) =>
    let d' ← (d.write path text.toUTF8).mapError (.cannotWrite path)
    return (conclusion.report, d')

end Command

end Companion
