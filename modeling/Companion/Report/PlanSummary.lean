import Companion.Planning.Plan
import Companion.Text.Outline

namespace Companion

open Text

def FieldPlan.summaryLine (f : FieldPlan) : String :=
  f.name ++ ": " ++ f.declaredType.text ++ " -> " ++ f.transfer.name ++ " as " ++ f.containerKey ++
    " (read: " ++ f.read.text ++ ", write: " ++ f.write.text ++ ")"

namespace Plan

def summaryHeader (p : Plan) : String :=
  p.model ++ " => " ++ p.companionName ++ " (" ++ p.writeMode.text ++ ")"

def fieldLines (p : Plan) : List String :=
  if p.fields.isEmpty then ["(no fields)"] else p.fields.map (·.summaryLine)

def summarize (o : Outline) (p : Plan) : Outline :=
  let o := if o.isEmpty then o else o.newline
  ((o.writeLine p.summaryHeader).indent.writeLines p.fieldLines).dedent

def summary (ps : List Plan) : String := (ps.foldl summarize {}).text

end Plan

end Companion
