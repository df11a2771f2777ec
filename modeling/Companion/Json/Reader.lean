import Companion.Json.Skip

namespace Companion.Json

def wrongType (wanted : String) (s : List Char) : Problem :=
  let found (r : Except Problem Found) : Problem :=
    match r with
    | .ok f => .mismatch (.wrongType f wanted)
    | .error p => p
  let number (negative : Bool) (r : List Char) : Except Problem Found :=
    match numeral .truncated r with
    | .error p => .error p
    | .ok (n, _) =>
      match n.found? negative with
      | some f => .ok f
      | none => .error .malformed
  match s with
  | 'n' :: r => found ((word "ull".toList r).map fun _ => .null)
  | 't' :: r => found ((word "rue".toList r).map fun _ => .bool true)
  | 'f' :: r => found ((word "alse".toList r).map fun _ => .bool false)
  | '-' :: r => found (number true r)
  | '\"' :: r => found ((stringRest r).map fun p => .string p.1)
  | '[' :: _ => found (.ok .sequence)
  | '\x7b' :: _ => found (.ok .map)
  | c :: r => if isDigit c then found (number false (c :: r)) else .malformed
  | [] => .truncated

def readText : Reader String := fun s =>
  match skipBlanks s with
  | '\"' :: r => stringRest r
  | t => .error (wrongType "a string" t)

def readBool : Reader Bool := fun s =>
  match skipBlanks s with
  | 't' :: r => (word "rue".toList r).map fun r' => (true, r')
  | 'f' :: r => (word "alse".toList r).map fun r' => (false, r')
  | t => .error (wrongType "a boolean" t)

def readUnit : Reader Unit := fun s =>
  match skipBlanks s with
  | 'n' :: r => (word "ull".toList r).map fun r' => ((), r')
  | t => .error (wrongType "unit" t)

def readOptional {α : Type} (read : Reader α) : Reader (Option α) := fun s =>
  match skipBlanks s with
  | 'n' :: r => (word "ull".toList r).map fun r' => (none, r')
  | t => (read t).map fun p => (some p.1, p.2)

def readParsed {α : Type} (parse : String → Except String α) : Reader α := fun s => do
  let (text, r) ← readText s
  match parse text with
  | .ok a => return (a, r)
  | .error reason => .error (.mismatch (.refused reason))

def colon (s : List Char) : Except Problem (List Char) :=
  match skipBlanks s with
  | ':' :: r => .ok r
  | _ :: _ => .error .malformed
  | [] => .error .truncated

def closing (c : Char) (s : List Char) : Except Problem (List Char) :=
  match skipBlanks s with
  | d :: r => if d = c then .ok r else .error .malformed
  | [] => .error .truncated

def nextElement (first : Bool) (s : List Char) : Except Problem (Option (List Char)) :=
  match skipBlanks s with
  | [] => .error .truncated
  | ']' :: _ => .ok none
  | c :: r =>
    if first then .ok (some (c :: r))
    else if c = ',' then
      match skipBlanks r with
      | [] => .error .truncated
      | ']' :: _ => .error .malformed
      | t => .ok (some t)
    else .error .malformed

def readKey : Reader String := fun s =>
  match skipBlanks s with
  | '\"' :: r => stringRest r
  | _ :: _ => .error .malformed
  | [] => .error .truncated

def nextKey (first : Bool) (s : List Char) : Except Problem (Option (String × List Char)) :=
  match skipBlanks s with
  | [] => .error .truncated
  | '\x7d' :: _ => .ok none
  | c :: r =>
    if first then (readKey (c :: r)).map some
    else if c = ',' then (readKey r).map some
    else .error .malformed

def readElements {α : Type} (read : Reader α) : Nat → Bool → Reader (List α)
  | 0, _, _ => .error .malformed
  | n + 1, first, s => do
    match ← nextElement first s with
    | none => return ([], s)
    | some t =>
      let (a, r) ← read t
      let (as, r) ← readElements read n false r
      return (a :: as, r)

def readList {α : Type} (read : Reader α) : Reader (List α) := fun s =>
  match skipBlanks s with
  | '[' :: r => do
    let (as, r) ← readElements read (r.length + 1) true r
    return (as, ← closing ']' r)
  | t => .error (wrongType "a sequence" t)

/-- A name out of a list, as a string or as the only key of an object whose value is `null`. -/
def readChoice {α : Type} (choices : List (String × α)) : Reader α := fun s =>
  let choose (name : String) : Except Problem α :=
    match choices.lookup name with
    | some a => .ok a
    | none => .error (.mismatch (.unknownVariant name (choices.map (·.1))))
  match skipBlanks s with
  | '\"' :: r => do
    let (name, r) ← stringRest r
    return (← choose name, r)
  | '\x7b' :: r => do
    -- keys are strings here as in every object, so that any other key is bad syntax
    let (name, r) ← readKey r
    let a ← choose name
    let (_, r) ← readUnit (← colon r)
    return (a, ← closing '\x7d' r)
  | _ :: _ => .error .malformed
  | [] => .error .truncated

structure Slot (α : Type) where
  name : String
  read : α → Reader α
  required : Bool := false

/-- How a record is read: its fields in order, starting from a record in which every field has the
value that stands for its absence. -/
structure Record (α : Type) where
  name : String
  strict : Bool := false
  blank : α
  slots : List (Slot α)

namespace Record

variable {α : Type}

def missing? (d : Record α) (seen : List String) : Option String :=
  (d.slots.find? fun f => f.required && !seen.contains f.name).map (·.name)

/-- The fields of an object up to its end, given those read before. The number bounds how many
there are. -/
def readMembers (d : Record α) : Nat → List String → Bool → α → Reader (α × List String)
  | 0, _, _, _, _ => .error .malformed
  | n + 1, seen, first, a, s => do
    match ← nextKey first s with
    | none => return ((a, seen), s)
    | some (key, r) =>
      match d.slots.find? (·.name == key) with
      | none =>
        if d.strict then
          .error (.mismatch (.unknownField key (d.slots.map (·.name))))
        else readMembers d n seen false a (← skipValue (← colon r))
      | some slot =>
        if seen.contains key then .error (.mismatch (.duplicateField key))
        else
          let (a, r) ← slot.read a (← colon r)
          readMembers d n (key :: seen) false a r

def readSlots : List (Slot α) → List String → Bool → α → Reader (α × List String)
  | [], seen, _, a, s => .ok ((a, seen), s)
  | slot :: slots, seen, first, a, s => do
    match ← nextElement first s with
    | none => return ((a, seen), s)
    | some t =>
      let (a, r) ← slot.read a t
      readSlots slots (slot.name :: seen) false a r

def read (d : Record α) : Reader α := fun s =>
  match skipBlanks s with
  | '\x7b' :: r => do
    let ((a, seen), r) ← d.readMembers (r.length + 1) [] true d.blank r
    match d.missing? seen with
    | some name => .error (.mismatch (.missingField name))
    | none => return (a, ← closing '\x7d' r)
  | '[' :: r => do
    let ((a, seen), r) ← readSlots d.slots [] true d.blank r
    match d.missing? seen with
    | some _ => .error (.mismatch (.tooShort seen.length d.name d.slots.length))
    | none => return (a, ← closing ']' r)
  | t => .error (wrongType ("struct " ++ d.name) t)

end Record

def Slot.field {α β : Type} (name : String) (read : Reader β) (store : α → β → α) : Slot α where
  name := name
  read a s := (read s).map fun p => (store a p.1, p.2)

def Slot.require {α : Type} (f : Slot α) : Slot α := { f with required := true }

def readDocument {α : Type} (read : Reader α) (source : String) : Except Problem α := do
  let (a, r) ← read source.toList
  if (skipBlanks r).isEmpty then return a else .error .malformed

end Companion.Json
