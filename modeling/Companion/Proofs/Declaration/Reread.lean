import Companion.Declaration.Json
import Companion.Proofs.HostType.Spelling
import Companion.Proofs.Json.Answers
import Companion.Proofs.Json.Printing
import Companion.Proofs.Json.Records
import Mathlib.Tactic.Common

namespace Companion

open Json

section Types

theorem HostType.yields_read : Yields HostType.read WellFormed :=
  yields_parsed fun _ _ h => wellFormed_of_parse (mapError_ok_iff.mp h)

theorem HostType.reads_toJson {t : HostType} (h : t.WellFormed) : Reads HostType.read t.toJson t :=
  reads_parsed (mapError_ok_iff.mpr (parse_text h))

theorem Visibility.reads_toJson (v : Visibility) : Reads Visibility.read v.toJson v := by
  cases v <;> exact reads_choice rfl

end Types

namespace Field

theorem yields_read : Yields Field.read fun f => f.type.WellFormed := by
  refine Record.yields_read .wildcard ?_
  simp only [record, List.forall_mem_cons]
  refine ⟨.require ?_, .require ?_, ?_, nofun⟩
  · exact keeps_field_of_forall fun _ _ h => h
  · exact keeps_field HostType.yields_read fun _ _ _ h => h
  · exact keeps_field_of_forall fun _ _ h => h

theorem reads_toJson {f : Field} (h : f.type.WellFormed) : Reads Field.read f.toJson f := by
  refine Record.reads_object ?_ rfl
  exact .required rfl rfl (reads_text f.name) <|
    .required rfl rfl (HostType.reads_toJson h) <|
    .field rfl rfl f.visibility.reads_toJson .done

end Field

namespace Parameter

theorem yields_read : Yields Parameter.read fun p => p.type.WellFormed := by
  refine Record.yields_read .wildcard ?_
  simp only [record, List.forall_mem_cons]
  refine ⟨.require ?_, .require ?_, nofun⟩
  · exact keeps_field_of_forall fun _ _ h => h
  · exact keeps_field HostType.yields_read fun _ _ _ h => h

theorem reads_toJson {p : Parameter} (h : p.type.WellFormed) :
    Reads Parameter.read p.toJson p := by
  refine Record.reads_object ?_ rfl
  exact .required rfl rfl (reads_text p.name) <|
    .required rfl rfl (HostType.reads_toJson h) .done

theorem reads_list {ps : List Parameter} (h : ∀ p ∈ ps, p.type.WellFormed) :
    Reads (readList Parameter.read) (.array (ps.map toJson)) ps :=
  Json.reads_list fun p hp => reads_toJson (h p hp)

end Parameter

namespace Method

def WellTyped (m : Method) : Prop :=
  (∀ p ∈ m.params, p.type.WellFormed) ∧ ∀ t ∈ m.returns, t.WellFormed

theorem yields_read : Yields Method.read WellTyped := by
  refine Record.yields_read ⟨nofun, nofun⟩ ?_
  simp only [record, List.forall_mem_cons]
  refine ⟨.require ?_, ?_, ?_, ?_, ?_, nofun⟩
  · exact keeps_field_of_forall fun _ _ h => h
  · exact keeps_field (yields_list Parameter.yields_read) fun _ _ h hp => ⟨hp, h.2⟩
  · exact keeps_field (yields_optional HostType.yields_read) fun _ _ h ht => ⟨h.1, ht⟩
  · exact keeps_field_of_forall fun _ _ h => h
  · exact keeps_field_of_forall fun _ _ h => h

theorem reads_returns {o : Option HostType} (h : ∀ t ∈ o, t.WellFormed) :
    Reads (readOptional HostType.read) ((o.map HostType.toJson).getD .null) o := by
  cases o with
  | none => exact reads_none
  | some t => exact reads_some (HostType.reads_toJson (h t rfl)) nofun

theorem reads_toJson {m : Method} (h : m.WellTyped) : Reads Method.read m.toJson m := by
  refine Record.reads_object ?_ rfl
  exact .required rfl rfl (reads_text m.name) <|
    .field rfl rfl (Parameter.reads_list h.1) <|
    .field rfl rfl (reads_returns h.2) <|
    .field rfl rfl m.visibility.reads_toJson <|
    .field rfl rfl (reads_bool m.isStatic) .done

end Method

namespace Constructor

theorem yields_read : Yields Constructor.read fun c => ∀ p ∈ c.params, p.type.WellFormed := by
  refine Record.yields_read nofun ?_
  simp only [record, List.forall_mem_cons]
  refine ⟨?_, ?_, nofun⟩
  · exact keeps_field (yields_list Parameter.yields_read) fun _ _ _ hp => hp
  · exact keeps_field_of_forall fun _ _ h => h

theorem reads_toJson {c : Constructor} (h : ∀ p ∈ c.params, p.type.WellFormed) :
    Reads Constructor.read c.toJson c := by
  refine Record.reads_object ?_ rfl
  exact .field rfl rfl (Parameter.reads_list h) <|
    .field rfl rfl c.visibility.reads_toJson .done

end Constructor

def Declaration.WellTyped (d : Declaration) : Prop := ∀ f ∈ d.fields, f.type.WellFormed

theorem Declaration.yields_read : Yields Declaration.read WellTyped := by
  refine Record.yields_read nofun ?_
  simp only [record, List.forall_mem_cons]
  refine ⟨.require ?_, ?_, ?_, ?_, ?_, ?_, ?_, ?_, ?_, nofun⟩
  case refine_7 => exact keeps_field (yields_list Field.yields_read) fun _ _ _ hf => hf
  all_goals exact keeps_field_of_forall fun _ _ h => h

/-- Whatever is read from a text is read again from what is written for it, in any layout. -/
def ReadAgain {α : Type} (read : Reader α) (toJson : α → Json) : Prop :=
  ∀ source a, readDocument read source = .ok a →
    readDocument read (toJson a).text = .ok a ∧
    ∀ other, Document (toJson a) other → readDocument read other = .ok a

theorem readAgain_of_reads {α : Type} {read : Reader α} {toJson : α → Json} {P : α → Prop}
    (hyields : Yields read P) (hreads : ∀ {a}, P a → Reads read (toJson a) a) :
    ReadAgain read toJson := by
  intro source a ha
  have hwritten := hreads (hyields.of_readDocument ha)
  exact ⟨readDocument_of_reads hwritten (document_text (toJson a)),
    fun _ => readDocument_of_reads hwritten⟩

/-- Types, fields, parameters, methods and constructors are read again from what is written for
them. -/
theorem members_are_read_again :
    ReadAgain HostType.read HostType.toJson ∧ ReadAgain Field.read Field.toJson ∧
      ReadAgain Parameter.read Parameter.toJson ∧ ReadAgain Method.read Method.toJson ∧
      ReadAgain Constructor.read Constructor.toJson :=
  ⟨readAgain_of_reads HostType.yields_read HostType.reads_toJson,
    readAgain_of_reads Field.yields_read Field.reads_toJson,
    readAgain_of_reads Parameter.yields_read Parameter.reads_toJson,
    readAgain_of_reads Method.yields_read Method.reads_toJson,
    readAgain_of_reads Constructor.yields_read Constructor.reads_toJson⟩

/-- Escapes, the array forms of a field and of a constructor, members in another order, an unknown
member, and both ways to write the visibility without a modifier. -/
theorem odd_forms_are_read_again :
    (readDocument HostType.read " \"\\u0054\" " = .ok (.var "T") ∧
      Document (HostType.var "T").toJson "\"\\u0054\"\n" ∧
      readDocument HostType.read "\"\\u0054\"\n" = .ok (.var "T")) ∧
    (readDocument Field.read "[\"id\", \"int\", \x7b\"package-private\": null\x7d]" =
        .ok { name := "id", type := .primitive .int } ∧
      readDocument Field.read (Field.toJson { name := "id", type := .primitive .int }).text =
        .ok { name := "id", type := .primitive .int }) ∧
    (readDocument Parameter.read "\x7b\"type\": \"List<?extendsT>\", \"name\": \"a\\nb\"\x7d" =
        .ok ⟨"a\nb", .declared "List" [.wildcardExtends (.var "T")]⟩ ∧
      readDocument Parameter.read
          (Parameter.toJson ⟨"a\nb", .declared "List" [.wildcardExtends (.var "T")]⟩).text =
        .ok ⟨"a\nb", .declared "List" [.wildcardExtends (.var "T")]⟩) ∧
    (readDocument Method.read
        "\x7b\"static\": true, \"note\": [null], \"returns\": null, \"name\": \"run\"\x7d" =
        .ok { name := "run", isStatic := true } ∧
      readDocument Method.read (Method.toJson { name := "run", isStatic := true }).text =
        .ok { name := "run", isStatic := true }) ∧
    readDocument Constructor.read "[[], \"package-private\"]" = .ok {} ∧
      readDocument Constructor.read (Constructor.toJson {}).text = .ok {} := by
  have ht : readDocument HostType.read " \"\\u0054\" " = .ok (.var "T") := by decide +kernel
  have hd : Document (HostType.var "T").toJson "\"\\u0054\"\n" := by
    have hT : SpellsChars ['T'] ['\\', 'u', '0', '0', '5', '4', '\"', '\n'] ['\n'] :=
      .cons (@SpellsChar.code '0' '0' '5' '4' 0x54 _ rfl rfl rfl) .nil
    exact ⟨['\n'], .string hT, rfl⟩
  have hf : readDocument Field.read "[\"id\", \"int\", \x7b\"package-private\": null\x7d]" =
      .ok { name := "id", type := .primitive .int } := by decide +kernel
  have hp : readDocument Parameter.read
      "\x7b\"type\": \"List<?extendsT>\", \"name\": \"a\\nb\"\x7d" =
      .ok ⟨"a\nb", .declared "List" [.wildcardExtends (.var "T")]⟩ := by decide +kernel
  have hm : readDocument Method.read
      "\x7b\"static\": true, \"note\": [null], \"returns\": null, \"name\": \"run\"\x7d" =
      .ok { name := "run", isStatic := true } := by
    decide +kernel
  have hc : readDocument Constructor.read "[[], \"package-private\"]" = .ok {} := by decide +kernel
  obtain ⟨htype, hfield, hparameter, hmethod, hconstructor⟩ := members_are_read_again
  exact ⟨⟨ht, hd, (htype _ _ ht).2 _ hd⟩, ⟨hf, (hfield _ _ hf).1⟩, ⟨hp, (hparameter _ _ hp).1⟩,
    ⟨hm, (hmethod _ _ hm).1⟩, hc, (hconstructor _ _ hc).1⟩

end Companion
