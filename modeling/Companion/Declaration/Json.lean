import Companion.Declaration.Basic
import Companion.HostType.Parser
import Companion.Json.Reader
import Companion.Json.Value

namespace Companion

open Json

def HostType.read : Reader HostType :=
  readParsed fun s => (HostType.parse s).mapError (·.message)

def HostType.toJson (t : HostType) : Json := .string t.text

namespace Visibility

def keyword : Visibility → String
  | publicMember => "public"
  | protectedMember => "protected"
  | packageMember => "package"
  | privateMember => "private"

def choices : List (String × Visibility) := [
  ("public", publicMember), ("protected", protectedMember), ("package", packageMember),
  ("package-private", packageMember), ("private", privateMember)]

def read : Reader Visibility := readChoice choices

def toJson (v : Visibility) : Json := .string v.keyword

end Visibility

namespace DeclarationKind

def choices : List (String × DeclarationKind) := [
  ("class", classType), ("interface", interfaceType), ("enum", enumType),
  ("annotation", annotationType)]

def read : Reader DeclarationKind := readChoice choices

def toJson (k : DeclarationKind) : Json := .string k.text

end DeclarationKind

namespace Field

def record : Record Field where
  name := "FieldInfo"
  blank := ⟨"", .wildcard, .packageMember⟩
  slots := [
    (Slot.field "name" readText fun f name => { f with name }).require,
    (Slot.field "type" HostType.read fun f type => { f with type }).require,
    .field "visibility" Visibility.read fun f visibility => { f with visibility }]

def read : Reader Field := record.read

def toJson (f : Field) : Json :=
  .object [("name", .string f.name), ("type", f.type.toJson), ("visibility", f.visibility.toJson)]

end Field

namespace Parameter

def record : Record Parameter where
  name := "ParamInfo"
  blank := ⟨"", .wildcard⟩
  slots := [
    (Slot.field "name" readText fun p name => { p with name }).require,
    (Slot.field "type" HostType.read fun p type => { p with type }).require]

def read : Reader Parameter := record.read

def toJson (p : Parameter) : Json := .object [("name", .string p.name), ("type", p.type.toJson)]

end Parameter

namespace Method

def record : Record Method where
  name := "MethodInfo"
  blank := { name := "" }
  slots := [
    (Slot.field "name" readText fun m name => { m with name }).require,
    .field "params" (readList Parameter.read) fun m params => { m with params },
    .field "returns" (readOptional HostType.read) fun m returns => { m with returns },
    .field "visibility" Visibility.read fun m visibility => { m with visibility },
    .field "static" readBool fun m isStatic => { m with isStatic }]

def read : Reader Method := record.read

def toJson (m : Method) : Json :=
  .object [("name", .string m.name), ("params", .array (m.params.map Parameter.toJson)),
    ("returns", (m.returns.map HostType.toJson).getD .null), ("visibility", m.visibility.toJson),
    ("static", .bool m.isStatic)]

end Method

namespace Constructor

def record : Record Constructor where
  name := "ConstructorInfo"
  blank := {}
  slots := [
    .field "params" (readList Parameter.read) fun c params => { c with params },
    .field "visibility" Visibility.read fun c visibility => { c with visibility }]

def read : Reader Constructor := record.read

def toJson (c : Constructor) : Json :=
  .object [("params", .array (c.params.map Parameter.toJson)), ("visibility", c.visibility.toJson)]

end Constructor

namespace Declaration

def record : Record Declaration where
  name := "TypeDecl"
  strict := true
  blank := { name := "" }
  slots := [
    (Slot.field "name" readText fun d name => { d with name }).require,
    .field "package" (readOptional readText) fun d package => { d with package },
    .field "kind" DeclarationKind.read fun d kind => { d with kind },
    .field "annotated" readBool fun d annotated => { d with annotated },
    .field "type_params" (readList readText) fun d typeParams => { d with typeParams },
    .field "supertypes" (readList HostType.read) fun d supertypes => { d with supertypes },
    .field "fields" (readList Field.read) fun d fields => { d with fields },
    .field "constructors" (readOptional (readList Constructor.read))
      fun d constructors => { d with constructors },
    .field "methods" (readList Method.read) fun d methods => { d with methods }]

def read : Reader Declaration := record.read

end Declaration

end Companion
