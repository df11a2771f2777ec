import Companion.Text.UpperCase

namespace Companion.Naming

open Text

def upperCamel (name : String) : String :=
  match name.toList with
  | [] => ""
  | c :: cs => String.ofList (toUppercase c ++ cs)

/-- A character after the first, in upper case and set off from the word before it. -/
def wordChar (c : Char) : List Char :=
  if isUppercase c then '_' :: toUppercase c else toUppercase c

/-- Words begin at upper-case characters, the first character of the name apart; digits and
underscores begin no word, and each letter of an acronym is a word of its own. -/
def upperUnderscore (name : String) : String :=
  match name.toList with
  | [] => ""
  | c :: cs => String.ofList (toUppercase c ++ cs.flatMap wordChar)

def containerKey (field : String) : String := "ARG_" ++ upperUnderscore field

def getterName (field : String) : String := "get" ++ upperCamel field

def setterName (field : String) : String := "set" ++ upperCamel field

def getHelperName (field : String) : String := "get" ++ upperCamel field

def putHelperName (field : String) : String := "put" ++ upperCamel field

/-- The companion of a model, from the simple names of the model and the types around it, outermost
first. -/
def companionName (simpleNames : List String) : String := "Bundler" ++ String.join simpleNames

end Companion.Naming
