import Companion.Planning.Model

namespace Companion

inductive OutputFormat where
  | json | summary
  deriving DecidableEq, Repr

def OutputFormat.ofName? : String → Option OutputFormat
  | "json" => some .json
  | "summary" => some .summary
  | _ => none

inductive Command where
  | plan (manifest : String) (format : OutputFormat) (output : Option String)
    (options : PlanningOptions)
  | check (manifest : String) (options : PlanningOptions)
  | catalog
  deriving DecidableEq, Repr

inductive Usage where
  | noArguments
  | missingManifest
  | unknownCommand
  | unknownArgument
  | badValue
  | repeatedOption
  | unwantedValue
  | help
  | version
  deriving DecidableEq, Repr

namespace Command

inductive Verb where
  | plan | check | catalog
  deriving DecidableEq, Repr

def Verb.ofName? : String → Option Verb
  | "plan" => some .plan
  | "check" => some .check
  | "catalog" => some .catalog
  | _ => none

inductive Target where
  | manifest | format | output
  deriving DecidableEq, Repr

inductive Flag where
  | allFailures | allowKeyCollisions
  deriving DecidableEq, Repr

inductive OptionKind where
  | help
  | flag (f : Flag)
  | valued (t : Target)
  deriving DecidableEq, Repr

def Verb.longOption? (v : Verb) (name : String) : Option OptionKind :=
  match v, name with
  | _, "help" => some .help
  | .plan, "format" => some (.valued .format)
  | .plan, "output" => some (.valued .output)
  | .plan, "all-failures" | .check, "all-failures" => some (.flag .allFailures)
  | .plan, "allow-key-collisions" | .check, "allow-key-collisions" =>
    some (.flag .allowKeyCollisions)
  | _, _ => none

def Verb.shortOption? (v : Verb) (letter : Char) : Option OptionKind :=
  match v, letter with
  | _, 'h' => some .help
  | .plan, 'o' => some (.valued .output)
  | _, _ => none

/-- What was read of a line. A value is pending from the option or argument it belongs to until it
is checked. -/
structure Draft where
  manifest : Option String := none
  format : Option OutputFormat := none
  output : Option String := none
  flags : List Flag := []
  manifestGiven : Bool := false
  pending : Option (Target × Option String) := none
  deriving Repr

namespace Draft

def store (d : Draft) (t : Target) (value : String) : Except Usage Draft :=
  match t with
  | .manifest => if value.isEmpty then .error .badValue else .ok { d with manifest := some value }
  | .format =>
    if d.format.isSome then .error .repeatedOption
    else
      match OutputFormat.ofName? value with
      | some f => .ok { d with format := some f }
      | none => .error .badValue
  | .output =>
    if d.output.isSome then .error .repeatedOption
    else if value.isEmpty then .error .badValue
    else .ok { d with output := some value }

def settle (d : Draft) : Except Usage Draft :=
  match d.pending with
  | none => .ok d
  | some (_, none) => .error .badValue
  | some (t, some value) => { d with pending := none }.store t value

def setFlag (d : Draft) (f : Flag) : Except Usage Draft := do
  let d ← d.settle
  if d.flags.contains f then throw .repeatedOption
  return { d with flags := f :: d.flags }

def takeValue (d : Draft) (t : Target) (attached : Option String) : Except Usage Draft := do
  let d ← d.settle
  match attached with
  | some value => d.store t value
  | none => return { d with pending := some (t, none) }

def askHelp (d : Draft) : Except Usage Draft := do
  let _ ← d.settle
  throw .help

def takePositional (v : Verb) (d : Draft) (value : String) : Except Usage Draft := do
  if v = .catalog ∨ d.manifestGiven then throw .unknownArgument
  let d ← d.settle
  return { d with manifestGiven := true, pending := some (.manifest, some value) }

/-- An argument that does not begin like an option: the value of the option before it, if that
waits for one, and else the manifest. -/
def takePlain (v : Verb) (d : Draft) (value : String) : Except Usage Draft :=
  match d.pending with
  | some (t, none) => .ok { d with pending := some (t, some value) }
  | _ => d.takePositional v value

def splitAttached (body : List Char) : String × Option String :=
  (String.ofList (body.takeWhile (· != '=')),
    match body.dropWhile (· != '=') with
    | _ :: value => some (String.ofList value)
    | [] => none)

def takeLong (v : Verb) (d : Draft) (body : List Char) : Except Usage Draft :=
  let (name, attached) := splitAttached body
  match v.longOption? name, attached with
  | none, _ => .error .unknownArgument
  | some (.valued t), _ => d.takeValue t attached
  | some _, some _ => .error .unwantedValue
  | some .help, none => d.askHelp
  | some (.flag f), none => d.setFlag f

/-- A group of short options. The text after the letter of an option with a value is that value, an
equals sign in front of it apart. -/
def takeShort (v : Verb) (d : Draft) : List Char → Except Usage Draft
  | [] => .ok d
  | letter :: rest =>
    match v.shortOption? letter with
    | none => .error .unknownArgument
    | some .help => d.askHelp
    | some (.flag f) => do takeShort v (← d.setFlag f) rest
    | some (.valued t) =>
      d.takeValue t <|
        match rest with
        | [] => none
        | '=' :: value => some (String.ofList value)
        | value => some (String.ofList value)

def take (v : Verb) (d : Draft) (arg : String) : Except Usage Draft :=
  match arg.toList with
  | '-' :: '-' :: body => d.takeLong v body
  | '-' :: letter :: rest => d.takeShort v (letter :: rest)
  | _ => d.takePlain v arg

/-- Reads the arguments of a command; after `--` none is an option. -/
def takeAll (v : Verb) : Draft → List String → Except Usage Draft
  | d, [] => d.settle
  | d, arg :: args =>
    if arg = "--" then do (← args.foldlM (takePositional v) d).settle
    else do takeAll v (← d.take v arg) args

def options (d : Draft) : PlanningOptions where
  diagnostics := if d.flags.contains .allFailures then .allFailures else .firstFailure
  checkKeyCollisions := !d.flags.contains .allowKeyCollisions

def command (v : Verb) (d : Draft) : Except Usage Command :=
  match v, d.manifest with
  | .catalog, _ => .ok .catalog
  | _, none => .error .missingManifest
  | .plan, some manifest => .ok (.plan manifest (d.format.getD .json) d.output d.options)
  | .check, some manifest => .ok (.check manifest d.options)

end Draft

def askedHelp : List String → Usage
  | [] => .help
  | [name] => if (Verb.ofName? name).isSome || name == "help" then .help else .unknownCommand
  | _ => .unknownCommand

def withoutCommand (arg : String) (args : List String) : Usage :=
  match arg.toList with
  | ['-', '-'] =>
    match args with
    | [] => .noArguments
    | next :: _ =>
      if (Verb.ofName? next).isSome || next == "help" then .unknownArgument else .unknownCommand
  | '-' :: '-' :: body =>
    match Draft.splitAttached body with
    | ("help", none) => .help
    | ("version", none) => .version
    | ("help", some _) | ("version", some _) => .unwantedValue
    | _ => .unknownArgument
  | '-' :: 'h' :: _ => .help
  | '-' :: 'V' :: _ => .version
  | '-' :: _ :: _ => .unknownArgument
  | _ => .unknownCommand

/-- Reads a command line. Values are checked when the next argument is taken or at the end of the
line, but an argument that the command does not know is reported first. -/
def parse : List String → Except Usage Command
  | [] => .error .noArguments
  | arg :: args =>
    match Verb.ofName? arg with
    | some v => do (← Draft.takeAll v {} args).command v
    | none => .error (if arg = "help" then askedHelp args else withoutCommand arg args)

end Command

end Companion
