import Companion.Text.Quoted

namespace Companion

/-- The values that plans are written with, which need no numbers but natural ones. -/
inductive Json where
  | null
  | bool (b : Bool)
  | number (n : Nat)
  | string (s : String)
  | array (items : List Json)
  | object (members : List (String × Json))
  deriving Repr, Inhabited

namespace Json

/-- A character inside a string: only quotes, backslashes and controls are escaped. -/
def escapedChar (c : Char) : String :=
  match c with
  | '\"' => "\\\""
  | '\\' => "\\\\"
  | '\x08' => "\\b"
  | '\x0c' => "\\f"
  | '\n' => "\\n"
  | '\r' => "\\r"
  | '\t' => "\\t"
  | c =>
    if c.toNat < 0x20 then
      "\\u00" ++ (if c.toNat < 0x10 then "0" else "") ++ Text.hexadecimal c.toNat
    else String.singleton c

def quotedString (s : String) : String :=
  "\"" ++ String.join (s.toList.map escapedChar) ++ "\""

def lineStart (level : Nat) : String := "\n" ++ String.ofList (List.replicate (2 * level) ' ')

mutual

/-- The text of a value whose first line stands at the given level. -/
def pretty (level : Nat) : Json → String
  | .null => "null"
  | .bool b => if b then "true" else "false"
  | .number n => Nat.repr n
  | .string s => quotedString s
  | .array [] => "[]"
  | .array (v :: vs) =>
    "[" ++ lineStart (level + 1) ++ pretty (level + 1) v ++ prettyItems (level + 1) vs ++
      lineStart level ++ "]"
  | .object [] => "\x7b\x7d"
  | .object ((k, v) :: ms) =>
    "\x7b" ++ lineStart (level + 1) ++ quotedString k ++ ": " ++ pretty (level + 1) v ++
      prettyMembers (level + 1) ms ++ lineStart level ++ "\x7d"

def prettyItems (level : Nat) : List Json → String
  | [] => ""
  | v :: vs => "," ++ lineStart level ++ pretty level v ++ prettyItems level vs

def prettyMembers (level : Nat) : List (String × Json) → String
  | [] => ""
  | (k, v) :: ms =>
    "," ++ lineStart level ++ quotedString k ++ ": " ++ pretty level v ++ prettyMembers level ms

end

def text (v : Json) : String := pretty 0 v

end Json

end Companion
