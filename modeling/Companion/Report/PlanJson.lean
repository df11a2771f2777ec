import Companion.Json.Value
import Companion.Planning.Plan

namespace Companion

def ReadAccess.toJson : ReadAccess → Json
  | field => .object [("kind", .string "field")]
  | getter method => .object [("kind", .string "getter"), ("method", .string method)]

def WriteAccess.toJson : WriteAccess → Json
  | constructorArg position =>
    .object [("kind", .string "constructor"), ("position", .number position)]
  | field => .object [("kind", .string "field")]
  | setter method => .object [("kind", .string "setter"), ("method", .string method)]

def FieldPlan.toJson (f : FieldPlan) : Json :=
  .object [
    ("container_key", .string f.containerKey),
    ("declared_type", .string f.declaredType.text),
    ("get_helper", .string f.getHelper),
    ("matched_by", .string f.matchedBy.keyword),
    ("name", .string f.name),
    ("operation", .string f.transfer.name),
    ("put_helper", .string f.putHelper),
    ("read", f.read.toJson),
    ("write", f.write.toJson)]

def Plan.toJson (p : Plan) : Json :=
  .object [
    ("companion", .string p.companion),
    ("fields", .array (p.fields.map (·.toJson))),
    ("model", .string p.model),
    ("package", .string p.package),
    ("write_mode", .string p.writeMode.text)]

def Plan.document (ps : List Plan) : String := (Json.array (ps.map (·.toJson))).text ++ "\n"

end Companion
