import Companion.Proofs.Text.Outline
import Companion.Report.PlanSummary

namespace Companion.Plan

open Text

variable {text : String} {p : Plan}

/-- A line for the model and, set in by four blanks, one for each of its fields or one that says
that there are none. -/
def block (p : Plan) : String :=
  p.model ++ " => " ++ p.companionName ++ " (" ++ p.writeMode.text ++ ")\n" ++
    if p.fields = [] then "    (no fields)\n"
    else String.join (p.fields.map fun f => "    " ++ f.summaryLine ++ "\n")

theorem append_ne_empty {s t : String} (ht : t ≠ "") : s ++ t ≠ "" :=
  fun h => ht (String.append_eq_empty_iff.mp h).2

theorem summaryHeader_ne_empty (p : Plan) : p.summaryHeader ≠ "" :=
  append_ne_empty (by decide)

theorem ne_empty_of_mem_fieldLines : ∀ l ∈ p.fieldLines, l ≠ "" := by
  intro l hl
  rw [fieldLines] at hl
  split at hl
  · rw [List.mem_singleton.mp hl]
    decide
  · obtain ⟨f, -, rfl⟩ := List.mem_map.mp hl
    exact append_ne_empty (by decide)

theorem block_eq (p : Plan) :
    p.block = p.summaryHeader ++ "\n" ++
      String.join (p.fieldLines.map fun l => Outline.margin 1 ++ l ++ "\n") := by
  have hline : p.summaryHeader ++ "\n" =
      p.model ++ " => " ++ p.companionName ++ " (" ++ p.writeMode.text ++ ")\n" := by
    simp only [summaryHeader, String.append_assoc]
    rfl
  have hmargin : Outline.margin 1 = "    " := rfl
  rw [hline, block, fieldLines, hmargin]
  by_cases hnone : p.fields = []
  · rw [if_pos hnone, if_pos (List.isEmpty_iff.mpr hnone)]
    rfl
  · rw [if_neg hnone, if_neg (mt List.isEmpty_iff.mp hnone), List.map_map]
    rfl

theorem block_ne_empty (p : Plan) : p.block ≠ "" := by
  rw [block_eq]
  exact fun h => summaryHeader_ne_empty p
    (String.append_eq_empty_iff.mp (String.append_eq_empty_iff.mp h).1).1

theorem separated_eq (text : String) :
    (if ({ text } : Outline).isEmpty then { text } else ({ text } : Outline).newline) =
      ({ text := if text = "" then "" else text ++ "\n" } : Outline) := by
  by_cases htext : text = ""
  · subst htext
    rfl
  · rw [if_neg htext, Outline.isEmpty, if_neg (mt String.isEmpty_iff.mp htext), Outline.newline]

theorem summarize_eq (text : String) (p : Plan) :
    summarize { text } p = { text := (if text = "" then "" else text ++ "\n") ++ p.block } := by
  have hmargin : Outline.margin 0 = "" := rfl
  rw [summarize, separated_eq, Outline.writeLine_at_line_start (summaryHeader_ne_empty p) rfl,
    Outline.indent, Outline.writeLines_at_line_start ne_empty_of_mem_fieldLines rfl,
    Outline.dedent, block_eq, hmargin, String.empty_append, String.append_assoc, Nat.zero_add,
    Nat.sub_self]

theorem foldl_summarize (htext : text ≠ "") (ps : List Plan) :
    ps.foldl summarize { text } = { text := "\n".intercalate (text :: ps.map block) } := by
  induction ps generalizing text with
  | nil => rw [List.map_nil, String.intercalate_singleton, List.foldl_nil]
  | cons p ps ih =>
      rw [List.foldl_cons, summarize_eq, if_neg htext, ih (append_ne_empty (block_ne_empty p)),
        String.intercalate_cons_append, List.map_cons, String.intercalate_cons_cons]

theorem summary_eq_intercalate (ps : List Plan) :
    summary ps = "\n".intercalate (ps.map block) := by
  cases ps with
  | nil => rw [summary, List.foldl_nil, List.map_nil, String.intercalate_nil]
  | cons p ps =>
      rw [summary, List.foldl_cons, summarize_eq, if_pos rfl, String.empty_append,
        foldl_summarize (block_ne_empty p), List.map_cons]

/-- The summary of plans is their blocks with an empty line between them, and each block is the
summary of its plan alone; so the summaries of two lists of plans, an empty line between them, are
the summary of all of them. -/
theorem summary_of_blocks :
    (∀ ps, summary ps = "\n".intercalate (ps.map block)) ∧ summary [] = "" ∧
    (∀ p, summary [p] = p.block) ∧
    ∀ ps qs, ps ≠ [] → qs ≠ [] → summary (ps ++ qs) = summary ps ++ "\n" ++ summary qs := by
  refine ⟨summary_eq_intercalate, rfl, fun p => ?_, fun ps qs hps hqs => ?_⟩
  · rw [summary_eq_intercalate, List.map_singleton, String.intercalate_singleton]
  · have hps' : ps.map block ≠ [] := mt List.map_eq_nil_iff.mp hps
    have hqs' : qs.map block ≠ [] := mt List.map_eq_nil_iff.mp hqs
    simp only [summary_eq_intercalate, List.map_append,
      String.intercalate_append_of_ne_nil hps' hqs']

def stamp : Plan where
  model := "Stamp"
  package := ""
  companion := "BundlerStamp"
  writeMode := .construction
  fields := []

def letter : Plan where
  model := "a.Letter"
  package := "a"
  companion := "BundlerLetter"
  writeMode := .mutation
  fields := [
    { name := "weights", containerKey := "ARG_WEIGHTS", declaredType := .array (.primitive .int)
      transfer := { operation := .int, isArray := true }, matchedBy := .catalog, read := .field
      write := .setter "setWeights", getHelper := "getWeights", putHelper := "putWeights" }]

theorem stamps_and_letter_are_apart :
    [stamp, stamp] ≠ [] ∧ [letter] ≠ [] ∧
    summary ([stamp, stamp] ++ [letter]) =
      "Stamp => BundlerStamp (constructor)\n    (no fields)\n\n" ++
      "Stamp => BundlerStamp (constructor)\n    (no fields)\n\n" ++
      "a.Letter => a.BundlerLetter (mutation)\n" ++
      "    weights: int[] -> IntArray as ARG_WEIGHTS (read: field, write: setWeights(..))\n" := by
  have hstamps : [stamp, stamp] ≠ [] := List.cons_ne_nil stamp [stamp]
  have hletter : [letter] ≠ [] := List.cons_ne_nil letter []
  obtain ⟨hblocks, -, hblock, happend⟩ := summary_of_blocks
  refine ⟨hstamps, hletter, ?_⟩
  rw [happend _ _ hstamps hletter, hblocks, hblock]
  decide +kernel

end Companion.Plan
