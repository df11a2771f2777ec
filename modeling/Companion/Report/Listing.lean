import Companion.Text.Outline
import Companion.Vocabulary.Operation

namespace Companion.Listing

open Text

def exactLines : List String :=
  Operation.catalog.map (fun (type, op) => type ++ " -> " ++ op.name) ++
    ["(arrays of the types above append `" ++ Operation.arrayEnding ++ "`, e.g. int[] -> Int" ++
      Operation.arrayEnding ++ ")"]

def elementLines : List String :=
  Operation.elementCatalog.map fun (type, op) =>
    Platform.arrayList ++ "<" ++ type ++ "> -> " ++ op.name

def structuralLines : List String :=
  [("ArrayList of a Parcelable element", Operation.parcelableList),
    ("SparseArray of a Parcelable element", .parcelableSparseArray),
    ("any Parcelable", .parcelable),
    ("any Serializable (including arrays)", .serializable)].map fun (shape, op) =>
      shape ++ " -> " ++ op.name

def writeSection (title : String) (ls : List String) (o : Outline) : Outline :=
  ((o.writeLine title).indent.writeLines ls).dedent

def text : String :=
  let o := writeSection "Exact matches:" exactLines {}
  let o := writeSection "ArrayList elements:" elementLines o.newline
  (writeSection "Structural rules:" structuralLines o.newline).text

end Companion.Listing
