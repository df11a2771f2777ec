import Companion.Text.Outline
import Mathlib.Tactic.Common

namespace Companion.Text.Outline

inductive Step where
  | write (s : String)
  | writeLine (s : String)
  | newline
  | indent
  | dedent
  deriving DecidableEq, Repr

def perform (o : Outline) : Step → Outline
  | .write s => o.write s
  | .writeLine s => o.writeLine s
  | .newline => o.newline
  | .indent => o.indent
  | .dedent => o.dedent

def run (o : Outline) (steps : List Step) : Outline := steps.foldl perform o

structure Piece where
  level : Nat
  text : String

abbrev Line := List Piece

namespace Line

def words (l : Line) : String := String.join (l.map (·.text))

def text (l : Line) : String :=
  match l.find? (·.text ≠ "") with
  | some p => margin p.level ++ l.words
  | none => ""

end Line

def lines (level : Nat) : List Step → List Line
  | [] => [[]]
  | .write s :: steps => (lines level steps).modifyHead (⟨level, s⟩ :: ·)
  | .writeLine s :: steps => [⟨level, s⟩] :: lines level steps
  | .newline :: steps => [] :: lines level steps
  | .indent :: steps => lines (level + 1) steps
  | .dedent :: steps => lines (level - 1) steps

def Step.isSilent : Step → Bool
  | .write s => s.isEmpty
  | .writeLine _ | .newline => false
  | .indent | .dedent => true

section Write

variable {o : Outline} {s : String}

theorem write_empty (o : Outline) : o.write "" = o := rfl

theorem write_at_line_start (hs : s ≠ "") (hstart : o.atLineStart = true) :
    o.write s = { o with text := o.text ++ margin o.level ++ s, atLineStart := false } := by
  rw [write, if_neg (mt String.isEmpty_iff.mp hs), if_pos hstart]

theorem write_within_line (hs : s ≠ "") (hstart : o.atLineStart = false) :
    o.write s = { o with text := o.text ++ s } := by
  rw [write, if_neg (mt String.isEmpty_iff.mp hs), if_neg (Bool.eq_false_iff.mp hstart)]

theorem writeLine_at_line_start (hs : s ≠ "") (hstart : o.atLineStart = true) :
    o.writeLine s = { o with text := o.text ++ (margin o.level ++ s ++ "\n") } := by
  rw [writeLine, write_at_line_start hs hstart, newline, hstart]
  simp only [String.append_assoc]

theorem writeLines_at_line_start {ls : List String} (hls : ∀ l ∈ ls, l ≠ "")
    (hstart : o.atLineStart = true) :
    o.writeLines ls =
      { o with text := o.text ++ String.join (ls.map fun l => margin o.level ++ l ++ "\n") } := by
  induction ls generalizing o with
  | nil => rw [List.map_nil, String.join_nil, String.append_empty, writeLines, List.foldl_nil]
  | cons l ls ih =>
      obtain ⟨hl, hls⟩ := List.forall_mem_cons.mp hls
      have hrest := ih hls (o := o.writeLine l) rfl
      rw [writeLines, List.foldl_cons, ← writeLines, hrest, writeLine_at_line_start hl hstart,
        List.map_cons, String.join_cons, String.append_assoc]

end Write

section Lines

variable {s : String}

theorem exists_cons_of_lines (level : Nat) (steps : List Step) :
    ∃ l ls, lines level steps = l :: ls := by
  induction steps generalizing level with
  | nil => exact ⟨[], [], rfl⟩
  | cons step steps ih =>
      cases step with
      | write s =>
          obtain ⟨l, ls, hl⟩ := ih level
          exact ⟨⟨level, s⟩ :: l, ls, by rw [lines, hl, List.modifyHead_cons]⟩
      | writeLine s => exact ⟨_, _, rfl⟩
      | newline => exact ⟨_, _, rfl⟩
      | indent => exact ih (level + 1)
      | dedent => exact ih (level - 1)

theorem Line.words_cons (p : Piece) (l : Line) : Line.words (p :: l) = p.text ++ l.words := by
  rw [words, List.map_cons, String.join_cons, words]

theorem Line.text_cons_empty (level : Nat) (l : Line) : Line.text (⟨level, ""⟩ :: l) = l.text := by
  rw [text, List.find?_cons_of_neg (by simp), words_cons, String.empty_append, text]

theorem Line.text_cons (hs : s ≠ "") (level : Nat) (l : Line) :
    Line.text (⟨level, s⟩ :: l) = margin level ++ s ++ l.words := by
  rw [text, List.find?_cons_of_pos (by simpa using hs), words_cons, String.append_assoc]

end Lines

/-- The lines to be shown when the first of them goes on where an outline stands. -/
def pending (atLineStart : Bool) : List Line → List String
  | [] => []
  | l :: ls => (if atLineStart then l.text else l.words) :: ls.map Line.text

/-- What an outline has written together with what the steps to come will add. -/
def foretold (o : Outline) (steps : List Step) : String :=
  o.text ++ "\n".intercalate (pending o.atLineStart (lines o.level steps))

theorem pending_empty (atLineStart : Bool) (ls : List Line) :
    pending atLineStart ([] :: ls) = "" :: ls.map Line.text := by
  cases atLineStart <;> rfl

variable (o : Outline) (steps : List Step)

theorem foretold_newline : foretold o.newline steps = foretold o (.newline :: steps) := by
  obtain ⟨l, ls, hl⟩ := exists_cons_of_lines o.level steps
  rw [foretold, foretold, lines, pending_empty, newline, hl, pending, if_pos rfl, List.map_cons,
    String.intercalate_cons_cons, String.empty_append, String.append_assoc]

theorem foretold_write (s : String) :
    foretold (o.write s) steps = foretold o (.write s :: steps) := by
  obtain ⟨l, ls, hl⟩ := exists_cons_of_lines o.level steps
  by_cases hs : s = ""
  · subst hs
    have hwords : Line.words (⟨o.level, ""⟩ :: l) = l.words := by
      rw [Line.words_cons, String.empty_append]
    rw [write_empty]
    simp only [foretold, lines, hl, List.modifyHead_cons, pending, Line.text_cons_empty, hwords]
  · -- the margin of the line is written by its first text that is not empty
    cases hstart : o.atLineStart with
    | true =>
        simp only [foretold, write_at_line_start hs hstart, hstart, lines, hl,
          List.modifyHead_cons, pending, Line.text_cons hs, if_true, Bool.false_eq_true, if_false,
          String.intercalate_cons_append, String.append_assoc]
    | false =>
        simp only [foretold, write_within_line hs hstart, hstart, lines, hl,
          List.modifyHead_cons, pending, Line.words_cons, Bool.false_eq_true, if_false,
          String.intercalate_cons_append, String.append_assoc]

theorem foretold_perform (s : Step) : foretold (o.perform s) steps = foretold o (s :: steps) := by
  cases s with
  | write s => exact foretold_write o steps s
  | writeLine s =>
      rw [perform, writeLine, foretold_newline, foretold_write]
      rfl
  | newline => exact foretold_newline o steps
  | indent | dedent => rfl

theorem text_run : (o.run steps).text = foretold o steps := by
  induction steps generalizing o with
  | nil =>
      rw [foretold, lines, pending_empty, List.map_nil, String.intercalate_singleton,
        String.append_empty, run, List.foldl_nil]
  | cons s steps ih => rw [← foretold_perform, ← ih, run, run, List.foldl_cons]

theorem isEmpty_append (s t : String) : (s ++ t).isEmpty = (s.isEmpty && t.isEmpty) := by
  rw [Bool.eq_iff_iff, Bool.and_eq_true, String.isEmpty_iff, String.isEmpty_iff,
    String.isEmpty_iff, String.append_eq_empty_iff]

theorem isEmpty_newline : o.newline.isEmpty = false := by
  rw [isEmpty, newline, isEmpty_append]
  exact Bool.and_false _

theorem isEmpty_write (s : String) : (o.write s).isEmpty = (o.isEmpty && s.isEmpty) := by
  by_cases hs : s = ""
  · subst hs
    exact (Bool.and_true _).symm
  · have hne : s.isEmpty = false := Bool.eq_false_iff.mpr (mt String.isEmpty_iff.mp hs)
    cases hstart : o.atLineStart with
    | true =>
        rw [write_at_line_start hs hstart, isEmpty, isEmpty_append, hne, Bool.and_false,
          Bool.and_false]
    | false =>
        rw [write_within_line hs hstart, isEmpty, isEmpty_append, hne, Bool.and_false,
          Bool.and_false]

theorem isEmpty_perform (s : Step) : (o.perform s).isEmpty = (o.isEmpty && s.isSilent) := by
  cases s with
  | write s => exact isEmpty_write o s
  | writeLine s => rw [perform, writeLine, isEmpty_newline, Step.isSilent, Bool.and_false]
  | newline => rw [perform, isEmpty_newline, Step.isSilent, Bool.and_false]
  | indent | dedent => exact (Bool.and_true _).symm

theorem isEmpty_run : (o.run steps).isEmpty = (o.isEmpty && steps.all Step.isSilent) := by
  induction steps generalizing o with
  | nil => rw [List.all_nil, Bool.and_true, run, List.foldl_nil]
  | cons s steps ih =>
      rw [List.all_cons, ← Bool.and_assoc, ← isEmpty_perform, ← ih, run, run, List.foldl_cons]

/-- Whatever is done to an outline, in the end it shows the lines of the steps one below the other,
each behind the margin of its first text that is not empty; and as long as no line has ended and no
text but empty ones was written, and no longer, it is empty. -/
theorem outline_shows_its_lines (steps : List Step) :
    (run {} steps).text = "\n".intercalate ((lines 0 steps).map Line.text) ∧
    ∀ n, (run {} (steps.take n)).isEmpty = true ↔ ∀ s ∈ steps.take n, s.isSilent = true := by
  constructor
  · obtain ⟨l, ls, hl⟩ := exists_cons_of_lines 0 steps
    rw [text_run, foretold, hl]
    exact String.empty_append
  · intro n
    rw [isEmpty_run, ← List.all_eq_true]
    exact Iff.rfl

example : (run {} [.indent, .write "", .indent, .write "a", .dedent, .write "b", .newline, .newline,
    .dedent, .dedent, .writeLine "c", .indent, .write "d"]).text = "        ab\n\nc\n    d" := by
  decide +kernel

end Companion.Text.Outline
