namespace Companion

inductive Primitive where
  | boolean | byte | short | char | int | long | float | double
  deriving DecidableEq, Repr

namespace Primitive

def all : List Primitive := [boolean, byte, short, char, int, long, float, double]

def keyword : Primitive → String
  | boolean => "boolean"
  | byte => "byte"
  | short => "short"
  | char => "char"
  | int => "int"
  | long => "long"
  | float => "float"
  | double => "double"

def boxed : Primitive → String
  | boolean => "java.lang.Boolean"
  | byte => "java.lang.Byte"
  | short => "java.lang.Short"
  | char => "java.lang.Character"
  | int => "java.lang.Integer"
  | long => "java.lang.Long"
  | float => "java.lang.Float"
  | double => "java.lang.Double"

def description : Primitive → String
  | boolean => "Truth value."
  | byte => "Signed 8-bit integer."
  | short => "Signed 16-bit integer."
  | char => "UTF-16 code unit."
  | int => "Signed 32-bit integer."
  | long => "Signed 64-bit integer."
  | float => "32-bit IEEE 754 float."
  | double => "64-bit IEEE 754 float."

def ofKeyword? (keyword : String) : Option Primitive := all.find? (·.keyword == keyword)

def ofBoxed? (name : String) : Option Primitive := all.find? (·.boxed == name)

theorem ofKeyword?_keyword (p : Primitive) : ofKeyword? p.keyword = some p := by
  cases p <;> decide

theorem keyword_of_ofKeyword? {w : String} {p : Primitive} (h : ofKeyword? w = some p) :
    p.keyword = w := by
  simpa using List.find?_some h

end Primitive

end Companion
