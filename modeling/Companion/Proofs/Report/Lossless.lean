import Companion.Proofs.Declaration.Reread
import Companion.Proofs.Json.Unambiguity
import Companion.Proofs.Planning.Run
import Companion.Report.PlanJson

namespace Companion

open Json

section Choices

def Transfer.choices : List (String × Transfer) :=
  Operation.all.flatMap fun op =>
    [(op.name, ⟨op, false⟩), (op.name ++ Operation.arrayEnding, ⟨op, true⟩)]

theorem Transfer.lookup_name (t : Transfer) : Transfer.choices.lookup t.name = some t := by
  obtain ⟨op, isArray⟩ := t
  cases isArray <;> cases op <;> rfl

def ResolutionRule.choices : List (String × ResolutionRule) :=
  CapabilityCatalog.rules.map fun rule => (rule.keyword, rule)

theorem ResolutionRule.lookup_keyword (rule : ResolutionRule) :
    ResolutionRule.choices.lookup rule.keyword = some rule := by
  cases rule <;> rfl

def WriteMode.choices : List (String × WriteMode) :=
  [construction, mutation].map fun mode => (mode.text, mode)

theorem WriteMode.lookup_text (mode : WriteMode) :
    WriteMode.choices.lookup mode.text = some mode := by
  cases mode <;> rfl

end Choices

section Access

structure AccessParts where
  kind : String := ""
  method : Option String := none
  position : Option Nat := none

namespace AccessParts

def record : Record AccessParts where
  name := "Access"
  strict := true
  blank := {}
  slots := [
    (Slot.field "kind" readText fun p kind => { p with kind }).require,
    .field "method" readText fun p method => { p with method := some method },
    .field "position" readNat fun p position => { p with position := some position }]

theorem reads_kind (kind : String) :
    Reads record.read (.object [("kind", .string kind)]) { kind } := by
  refine Record.reads_object ?_ rfl
  exact .required rfl rfl (reads_text kind) .done

theorem reads_method (kind method : String) :
    Reads record.read (.object [("kind", .string kind), ("method", .string method)])
      { kind, method := some method } := by
  refine Record.reads_object ?_ rfl
  exact .required rfl rfl (reads_text kind) <| .field rfl rfl (reads_text method) .done

theorem reads_position (kind : String) (position : Nat) :
    Reads record.read (.object [("kind", .string kind), ("position", .number position)])
      { kind, position := some position } := by
  refine Record.reads_object ?_ rfl
  exact .required rfl rfl (reads_text kind) <| .field rfl rfl (reads_nat position) .done

end AccessParts

def ReadAccess.ofParts? : AccessParts → Option ReadAccess
  | ⟨"field", none, none⟩ => some .field
  | ⟨"getter", some method, none⟩ => some (.getter method)
  | _ => none

def ReadAccess.read : Reader ReadAccess := readVia AccessParts.record.read ofParts?

theorem ReadAccess.reads_toJson (a : ReadAccess) : Reads ReadAccess.read a.toJson a := by
  cases a with
  | field => exact reads_via (AccessParts.reads_kind "field") rfl
  | getter method => exact reads_via (AccessParts.reads_method "getter" method) rfl

def WriteAccess.ofParts? : AccessParts → Option WriteAccess
  | ⟨"constructor", none, some position⟩ => some (.constructorArg position)
  | ⟨"field", none, none⟩ => some .field
  | ⟨"setter", some method, none⟩ => some (.setter method)
  | _ => none

def WriteAccess.read : Reader WriteAccess := readVia AccessParts.record.read ofParts?

theorem WriteAccess.reads_toJson (a : WriteAccess) : Reads WriteAccess.read a.toJson a := by
  cases a with
  | constructorArg position =>
      exact reads_via (AccessParts.reads_position "constructor" position) rfl
  | field => exact reads_via (AccessParts.reads_kind "field") rfl
  | setter method => exact reads_via (AccessParts.reads_method "setter" method) rfl

end Access

namespace FieldPlan

def record : Record FieldPlan where
  name := "FieldPlan"
  strict := true
  blank :=
    { name := "", containerKey := "", declaredType := .wildcard
      transfer := { operation := .serializable }, matchedBy := .opaqueSerializable
      read := .field, write := .field, getHelper := "", putHelper := "" }
  slots := [
    (Slot.field "name" readText fun f name => { f with name }).require,
    (Slot.field "container_key" readText fun f containerKey => { f with containerKey }).require,
    (Slot.field "declared_type" HostType.read
      fun f declaredType => { f with declaredType }).require,
    (Slot.field "operation" (readChoice Transfer.choices)
      fun f transfer => { f with transfer }).require,
    (Slot.field "matched_by" (readChoice ResolutionRule.choices)
      fun f matchedBy => { f with matchedBy }).require,
    (Slot.field "read" ReadAccess.read fun f read => { f with read }).require,
    (Slot.field "write" WriteAccess.read fun f write => { f with write }).require,
    (Slot.field "get_helper" readText fun f getHelper => { f with getHelper }).require,
    (Slot.field "put_helper" readText fun f putHelper => { f with putHelper }).require]

theorem reads_toJson {f : FieldPlan} (h : f.declaredType.WellFormed) :
    Reads record.read f.toJson f := by
  refine Record.reads_object ?_ rfl
  exact .required rfl rfl (reads_text f.containerKey) <|
    .required rfl rfl (HostType.reads_toJson h) <|
    .required rfl rfl (reads_text f.getHelper) <|
    .required rfl rfl (reads_choice f.matchedBy.lookup_keyword) <|
    .required rfl rfl (reads_text f.name) <|
    .required rfl rfl (reads_choice f.transfer.lookup_name) <|
    .required rfl rfl (reads_text f.putHelper) <|
    .required rfl rfl f.read.reads_toJson <|
    .required rfl rfl f.write.reads_toJson .done

end FieldPlan

namespace Plan

def WellTyped (p : Plan) : Prop := ∀ f ∈ p.fields, f.declaredType.WellFormed

def record : Record Plan where
  name := "Plan"
  strict := true
  blank := { model := "", package := "", companion := "", writeMode := .mutation, fields := [] }
  slots := [
    (Slot.field "model" readText fun p model => { p with model }).require,
    (Slot.field "package" readText fun p package => { p with package }).require,
    (Slot.field "companion" readText fun p companion => { p with companion }).require,
    (Slot.field "write_mode" (readChoice WriteMode.choices)
      fun p writeMode => { p with writeMode }).require,
    (Slot.field "fields" (readList FieldPlan.record.read)
      fun p fields => { p with fields }).require]

theorem reads_toJson {p : Plan} (h : p.WellTyped) : Reads record.read p.toJson p := by
  refine Record.reads_object ?_ rfl
  exact .required rfl rfl (reads_text p.companion) <|
    .required rfl rfl (reads_list fun f hf => FieldPlan.reads_toJson (h f hf)) <|
    .required rfl rfl (reads_text p.model) <|
    .required rfl rfl (reads_text p.package) <|
    .required rfl rfl (reads_choice p.writeMode.lookup_text) .done

def parseDocument (source : String) : Except Problem (List Plan) :=
  readDocument (readList record.read) source

variable {ps qs : List Plan}

theorem document_array (ps : List Plan) :
    Document (.array (ps.map toJson)) (document ps) := document_text_append _ rfl

theorem parseDocument_document (h : ∀ p ∈ ps, p.WellTyped) :
    parseDocument (document ps) = .ok ps :=
  readDocument_of_reads (reads_list fun p hp => reads_toJson (h p hp)) (document_array ps)

theorem document_inj (hp : ∀ p ∈ ps, p.WellTyped) (hq : ∀ q ∈ qs, q.WellTyped)
    (h : document ps = document qs) : ps = qs := by
  have hread := parseDocument_document hp
  rw [h, parseDocument_document hq] at hread
  exact (Except.ok.inj hread).symm

theorem exists_document_eq (ps : List Plan) :
    ∃ body, document ps = body ++ "]" ++ "\n" ∧
      Document (.array (ps.map toJson)) (body ++ "]") := by
  have htext := document_text (.array (ps.map toJson))
  have hclose : ∃ body, (Json.array (ps.map toJson)).text = body ++ "]" := by
    cases ps with
    | nil => exact ⟨"[", by rw [List.map_nil, text, pretty]; rfl⟩
    | cons p ps => exact ⟨_, by rw [List.map_cons, text, pretty]⟩
  obtain ⟨body, hbody⟩ := hclose
  rw [document, hbody]
  exact ⟨body, rfl, hbody ▸ htext⟩

end Plan

namespace Manifest

theorem yields_read : Yields record.read fun m => ∀ d ∈ m.types, d.WellTyped := by
  refine Record.yields_read nofun ?_
  simp only [record, List.forall_mem_cons]
  exact ⟨keeps_field (yields_list Declaration.yields_read) fun _ _ _ h => h, nofun⟩

end Manifest

namespace Universe

variable {source : String} {u : Universe} {options : PlanningOptions} {o : Outcome}

theorem exists_manifest_of_parse (hu : Universe.parse source = .ok u) :
    ∃ m, ofManifest m = .ok u ∧ ∀ d ∈ m.types, d.WellTyped := by
  obtain ⟨m, hm, hu⟩ := bind_ok_iff.mp hu
  exact ⟨m, hu, Manifest.yields_read.of_readDocument (mapError_ok_iff.mp hm)⟩

theorem parse_of_manifest {m : Manifest} (hm : Manifest.parse source = .ok m) :
    Universe.parse source = ofManifest m := by
  rw [Universe.parse, hm]
  rfl

theorem exists_wellTyped_outcome (hu : Universe.parse source = .ok u)
    (options : PlanningOptions) :
    ∃ o, u.plan options = .ok o ∧ ∀ p ∈ o.plans, p.WellTyped := by
  obtain ⟨m, hm, htyped⟩ := exists_manifest_of_parse hu
  obtain ⟨catalog, o, ho, hplans⟩ := exists_plan hm options
  refine ⟨o, ho, fun p hp => ?_⟩
  rw [hplans, annotated_eq hm] at hp
  obtain ⟨d, hd, hplan⟩ := List.mem_filterMap.mp hp
  have htypes := Declaration.declaredTypes_of_plan? hplan
  intro f hf
  have hmem : f.declaredType ∈ d.fields.map (·.type) := htypes ▸ List.mem_map_of_mem hf
  obtain ⟨g, hg, heq⟩ := List.mem_map.mp hmem
  exact heq ▸ htyped d (List.mem_of_mem_filter hd) g hg

/-- The plans of a manifest are printed as one document, the array of their objects, in a text that
ends with it and one line break; every plan is read again from that text, and so different plans are
printed differently. -/
theorem plans_survive_printing (hu : Universe.parse source = .ok u) (options : PlanningOptions) :
    ∃ o, u.plan options = .ok o ∧
      (∃ body, Plan.document o.plans = body ++ "]" ++ "\n" ∧
        ∀ v, Document v (body ++ "]") ↔ v = .array (o.plans.map Plan.toJson)) ∧
      Plan.parseDocument (Plan.document o.plans) = .ok o.plans ∧
      ∀ source' u' options' o', Universe.parse source' = .ok u' → u'.plan options' = .ok o' →
        Plan.document o'.plans = Plan.document o.plans → o'.plans = o.plans := by
  obtain ⟨o, ho, htyped⟩ := exists_wellTyped_outcome hu options
  obtain ⟨body, hbody, hdocument⟩ := Plan.exists_document_eq o.plans
  refine ⟨o, ho, ⟨body, hbody, fun v => ⟨fun hv => hv.unique hdocument, ?_⟩⟩,
    Plan.parseDocument_document htyped, ?_⟩
  · rintro rfl
    exact hdocument
  · intro source' u' options' o' hu' ho' hsame
    obtain ⟨o'', ho'', htyped'⟩ := exists_wellTyped_outcome hu' options'
    obtain rfl : o' = o'' := Except.ok.inj (ho'.symm.trans ho'')
    exact Plan.document_inj htyped' htyped hsame

def slip : Manifest where
  types := [
    { name := "a.Slip", annotated := true
      fields := [
        { name := "note", type := .array (.primitive .int), visibility := .publicMember }] }]

def slipText : String :=
  "\x7b\"types\":[\x7b\"name\":\"a.Slip\",\"annotated\":true," ++
    "\"fields\":[[\"note\",\"int[]\",\"public\"]]\x7d]\x7d"

def slipPlan : Plan where
  model := "a.Slip"
  package := "a"
  companion := "BundlerSlip"
  writeMode := .mutation
  fields := [
    { name := "note", containerKey := "ARG_NOTE", declaredType := .array (.primitive .int)
      transfer := ⟨.int, true⟩, matchedBy := .catalog, read := .field, write := .field
      getHelper := "getNote", putHelper := "putNote" }]

theorem slip_survives_printing :
    ∃ u o, Universe.parse slipText = .ok u ∧ u.plan {} = .ok o ∧ o.plans = [slipPlan] ∧
      Plan.parseDocument (Plan.document o.plans) = .ok [slipPlan] ∧
      ∃ u' o', Universe.parse "[]" = .ok u' ∧ u'.plan {} = .ok o' ∧
        Plan.document o'.plans ≠ Plan.document o.plans := by
  have hslip : Manifest.parse slipText = .ok slip := by decide +kernel
  have hempty : Manifest.parse "[]" = .ok {} := by decide +kernel
  have hu : Universe.parse slipText = .ok ⟨_, slip.types⟩ := parse_of_manifest hslip
  have hu' : Universe.parse "[]" = .ok ⟨_, []⟩ := parse_of_manifest hempty
  obtain ⟨o, ho, -, hagain, hdiffers⟩ := plans_survive_printing hu {}
  have hplans : o.plans = [slipPlan] := by
    cases ho
    rfl
  refine ⟨_, o, hu, ho, hplans, hplans ▸ hagain, _, _, hu', rfl, fun hsame => ?_⟩
  have hnone := hdiffers "[]" _ {} _ hu' rfl hsame
  rw [hplans] at hnone
  cases hnone

end Universe

end Companion
