namespace Companion

structure PlatformType where
  name : String
  supertypes : List String
  arity : Nat
  description : String

namespace Platform

def object : String := "java.lang.Object"
def cloneable : String := "java.lang.Cloneable"
def serializable : String := "java.io.Serializable"
def charSequence : String := "java.lang.CharSequence"
def number : String := "java.lang.Number"
def string : String := "java.lang.String"
def collection : String := "java.util.Collection"
def list : String := "java.util.List"
def arrayList : String := "java.util.ArrayList"
def linkedList : String := "java.util.LinkedList"
def map : String := "java.util.Map"
def hashMap : String := "java.util.HashMap"
def parcelable : String := "android.os.Parcelable"
def bundle : String := "android.os.Bundle"
def sparseArray : String := "android.util.SparseArray"

def types : List PlatformType := [
  ⟨object, [], 0, "Root of the reference type hierarchy."⟩,
  ⟨cloneable, [], 0, "Marker for types supporting field-wise copies."⟩,
  ⟨serializable, [], 0, "Marker for opaquely serializable types."⟩,
  ⟨charSequence, [], 0, "Readable sequence of characters."⟩,
  ⟨number, [serializable], 0, "Base of the boxed numeric types."⟩,
  ⟨string, [charSequence, serializable], 0, "Immutable text string."⟩,
  ⟨"java.lang.Boolean", [serializable], 0, "Boxed boolean."⟩,
  ⟨"java.lang.Byte", [number], 0, "Boxed byte."⟩,
  ⟨"java.lang.Short", [number], 0, "Boxed short."⟩,
  ⟨"java.lang.Character", [serializable], 0, "Boxed char."⟩,
  ⟨"java.lang.Integer", [number], 0, "Boxed int."⟩,
  ⟨"java.lang.Long", [number], 0, "Boxed long."⟩,
  ⟨"java.lang.Float", [number], 0, "Boxed float."⟩,
  ⟨"java.lang.Double", [number], 0, "Boxed double."⟩,
  ⟨collection, [], 1, "Group of elements."⟩,
  ⟨list, [collection], 1, "Ordered collection."⟩,
  ⟨arrayList, [list, cloneable, serializable], 1,
    "Ordered, index-addressable list backed by an array."⟩,
  ⟨linkedList, [list, cloneable, serializable], 1, "Ordered list backed by linked nodes."⟩,
  ⟨map, [], 2, "Key/value map."⟩,
  ⟨hashMap, [map, cloneable, serializable], 2, "Hash-based key/value map."⟩,
  ⟨parcelable, [], 0, "Marker for natively transferable types."⟩,
  ⟨bundle, [parcelable, cloneable], 0, "Flat key/value container."⟩,
  ⟨sparseArray, [cloneable], 1, "Integer-keyed sparse map."⟩]

def find? (name : String) : Option PlatformType := types.find? (·.name == name)

end Platform

end Companion
