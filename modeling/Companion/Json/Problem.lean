import Companion.Text.Quoted

namespace Companion.Json

inductive Found where
  | null
  | bool (b : Bool)
  | integer (n : Int)
  | real (text : String)
  | string (s : String)
  | sequence
  | map
  deriving DecidableEq, Repr

def Found.text : Found → String
  | null => "null"
  | bool b => "boolean `" ++ (if b then "true" else "false") ++ "`"
  | integer n => "integer `" ++ toString n ++ "`"
  | real t => "floating point `" ++ t ++ "`"
  | string s => "string " ++ Text.quoted s
  | sequence => "sequence"
  | map => "map"

inductive Mismatch where
  | wrongType (found : Found) (wanted : String)
  | unknownField (name : String) (known : List String)
  | unknownVariant (name : String) (known : List String)
  | duplicateField (name : String)
  | missingField (name : String)
  /-- A record written as an array lacks the elements from this index on. -/
  | tooShort (length : Nat) (record : String) (fields : Nat)
  | refused (reason : String)
  deriving DecidableEq, Repr

def backticked (name : String) : String := "`" ++ name ++ "`"

def oneOf : List String → String
  | [] => "there are none"
  | [a] => backticked a
  | [a, b] => backticked a ++ " or " ++ backticked b
  | names => "one of " ++ ", ".intercalate (names.map backticked)

def Mismatch.message : Mismatch → String
  | wrongType found wanted => "invalid type: " ++ found.text ++ ", expected " ++ wanted
  | unknownField name known =>
    "unknown field " ++ backticked name ++ ", expected " ++ oneOf known
  | unknownVariant name known =>
    "unknown variant " ++ backticked name ++ ", expected " ++ oneOf known
  | duplicateField name => "duplicate field " ++ backticked name
  | missingField name => "missing field " ++ backticked name
  | tooShort length record fields =>
    "invalid length " ++ toString length ++ ", expected struct " ++ record ++ " with " ++
      toString fields ++ (if fields = 1 then " element" else " elements")
  | refused reason => reason

inductive Problem where
  | truncated
  | malformed
  | mismatch (m : Mismatch)
  deriving DecidableEq, Repr

end Companion.Json
