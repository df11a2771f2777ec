import Companion.Vocabulary.Primitive
import Companion.Vocabulary.Platform

namespace Companion

inductive Operation where
  | string | int | long | double | short | float | byte | boolean | char | charSequence | bundle
  | parcelable | stringList | integerList | charSequenceList | parcelableList
  | parcelableSparseArray | serializable
  deriving DecidableEq, Repr

namespace Operation

def all : List Operation :=
  [string, int, long, double, short, float, byte, boolean, char, charSequence, bundle, parcelable,
    stringList, integerList, charSequenceList, parcelableList, parcelableSparseArray, serializable]

/-- What follows `put` and `get` in the names of the container's methods. -/
def name : Operation → String
  | string => "String"
  | int => "Int"
  | long => "Long"
  | double => "Double"
  | short => "Short"
  | float => "Float"
  | byte => "Byte"
  | boolean => "Boolean"
  | char => "Char"
  | charSequence => "CharSequence"
  | bundle => "Bundle"
  | parcelable => "Parcelable"
  | stringList => "StringArrayList"
  | integerList => "IntegerArrayList"
  | charSequenceList => "CharSequenceArrayList"
  | parcelableList => "ParcelableArrayList"
  | parcelableSparseArray => "SparseParcelableArray"
  | serializable => "Serializable"

def description : Operation → String
  | string => "Text string."
  | int => "32-bit integer, primitive or boxed."
  | long => "64-bit integer, primitive or boxed."
  | double => "64-bit float, primitive or boxed."
  | short => "16-bit integer, primitive or boxed."
  | float => "32-bit float, primitive or boxed."
  | byte => "8-bit integer, primitive or boxed."
  | boolean => "Truth value, primitive or boxed."
  | char => "UTF-16 code unit, primitive or boxed."
  | charSequence => "Any character sequence."
  | bundle => "A nested container."
  | parcelable => "A single transferable object."
  | stringList => "Ordered list of text strings."
  | integerList => "Ordered list of boxed integers."
  | charSequenceList => "Ordered list of character sequences."
  | parcelableList => "Ordered list of transferable objects."
  | parcelableSparseArray => "Integer-indexed sparse map of transferable objects."
  | serializable => "Opaque, type-erased serialization fallback."

def ofName? (name : String) : Option Operation := all.find? (·.name == name)

/-- The types that select an operation by their spelling alone. -/
def catalog : List (String × Operation) := [
  (Platform.string, string),
  ("int", int), (Primitive.int.boxed, int),
  ("long", long), (Primitive.long.boxed, long),
  ("double", double), (Primitive.double.boxed, double),
  ("short", short), (Primitive.short.boxed, short),
  ("float", float), (Primitive.float.boxed, float),
  ("byte", byte), (Primitive.byte.boxed, byte),
  ("boolean", boolean), (Primitive.boolean.boxed, boolean),
  ("char", char), (Primitive.char.boxed, char),
  (Platform.charSequence, charSequence),
  (Platform.bundle, bundle),
  (Platform.parcelable, parcelable)]

/-- The element types whose lists have an operation of their own, in the order of preference. -/
def elementCatalog : List (String × Operation) := [
  (Platform.string, stringList),
  (Primitive.int.boxed, integerList),
  (Platform.charSequence, charSequenceList)]

def ofSpelling? (spelling : String) : Option Operation := catalog.lookup spelling

def ofElement? (element : String) : Option Operation := elementCatalog.lookup element

def arrayEnding : String := "Array"

end Operation

/-- How a value travels: by an operation, or by the operation's array form. -/
structure Transfer where
  operation : Operation
  isArray : Bool := false
  deriving DecidableEq, Repr

def Transfer.name (t : Transfer) : String :=
  if t.isArray then t.operation.name ++ Operation.arrayEnding else t.operation.name

end Companion
