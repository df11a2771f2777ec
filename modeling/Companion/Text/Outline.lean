namespace Companion.Text

/-- A text built line by line. Its lines are indented when the first text that is not empty reaches
them, so a line without text stays empty. -/
structure Outline where
  text : String := ""
  level : Nat := 0
  atLineStart : Bool := true

namespace Outline

def margin (level : Nat) : String := String.ofList (List.replicate (4 * level) ' ')

def isEmpty (o : Outline) : Bool := o.text.isEmpty

def indent (o : Outline) : Outline := { o with level := o.level + 1 }

def dedent (o : Outline) : Outline := { o with level := o.level - 1 }

def write (s : String) (o : Outline) : Outline :=
  if s.isEmpty then o
  else if o.atLineStart then { o with text := o.text ++ margin o.level ++ s, atLineStart := false }
  else { o with text := o.text ++ s }

def newline (o : Outline) : Outline := { o with text := o.text ++ "\n", atLineStart := true }

def writeLine (s : String) (o : Outline) : Outline := (o.write s).newline

def writeLines (ls : List String) (o : Outline) : Outline := ls.foldl (fun o l => o.writeLine l) o

end Outline

end Companion.Text
