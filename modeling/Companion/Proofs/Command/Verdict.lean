import Companion.Command.Execute
import Companion.Proofs.Except
import Companion.Proofs.Planning.Run
import Companion.Proofs.Planning.SharedKeys

namespace Companion

theorem sublist_filterMap_of_imp {α β : Type} {f g : α → Option β} {as : List α}
    (h : ∀ a ∈ as, ∀ b, f a = some b → g a = some b) :
    (as.filterMap f).Sublist (as.filterMap g) := by
  induction as with
  | nil => exact .slnil
  | cons a as ih =>
      rw [List.forall_mem_cons] at h
      rw [List.filterMap_cons, List.filterMap_cons]
      cases hf : f a with
      | some b =>
          rw [h.1 b hf]
          exact (ih h.2).cons_cons b
      | none =>
          cases g a with
          | none => exact ih h.2
          | some b => exact (ih h.2).cons b

namespace Declaration

variable {catalog : CapabilityCatalog} {options : PlanningOptions}

theorem exists_plan_iff (a : Declaration) :
    (∃ p, a.source.plan catalog options = .ok p) ↔ (a.plan? catalog options).isSome = true := by
  rw [plan?]
  cases a.source.plan catalog options with
  | ok p => exact iff_of_true ⟨p, rfl⟩ rfl
  | error r =>
      refine iff_of_false ?_ Bool.false_ne_true
      rintro ⟨p, hp⟩
      cases hp

theorem exists_rejection_iff (a : Declaration) :
    (∃ r, a.source.plan catalog options = .error r) ↔ ¬(a.plan? catalog options).isSome = true := by
  rw [plan?]
  cases a.source.plan catalog options with
  | ok p =>
      refine iff_of_false ?_ (not_not_intro rfl)
      rintro ⟨r, hr⟩
      cases hr
  | error r => exact iff_of_true ⟨r, rfl⟩ Bool.false_ne_true

end Declaration

theorem Outcome.Judges.isSuccess_iff {o : Outcome} {catalog : CapabilityCatalog}
    {options : PlanningOptions} {ds : List Declaration} (hj : o.Judges catalog options ds) :
    o.isSuccess = true ↔ ∀ a ∈ ds, (a.plan? catalog options).isSome = true := by
  rw [isSuccess, hj.rejections, List.isEmpty_iff, List.filterMap_eq_nil_iff]
  refine forall₂_congr fun a _ => ?_
  rw [← a.exists_plan_iff, DeclarationSource.rejection?]
  cases a.source.plan catalog options with
  | ok p => exact iff_of_true rfl ⟨p, rfl⟩
  | error r => simp only [reduceCtorEq, exists_false]

theorem Universe.load_ok_iff {path : String} {entry : Entry} {u : Universe} :
    load path (.ok entry) = .ok u ↔
      ∃ source, entry.text? = some source ∧ parse source = .ok u := by
  simp only [load, Except.toOption, Option.bind_some]
  cases entry.text? with
  | none => simp only [reduceCtorEq, false_and, exists_false]
  | some source => simp only [Option.some.injEq, exists_eq_left']

namespace Command

def loaded (d : Directory) (manifest : String) : Except CommandFailure Universe :=
  load manifest (d.read manifest)

def flagged (flags : List Flag) : PlanningOptions := Draft.options { flags }

def accepted (catalog : CapabilityCatalog) (u : Universe) (flags : List Flag) : List Plan :=
  u.annotated.filterMap (Declaration.plan? catalog (flagged flags))

def exitCode (d : Directory) (c : Command) : Nat :=
  match c.execute d with
  | .ok (report, _) => report.exitCode
  | .error _ => CommandFailure.exitCode

/-- Any content can be written to the file that is named, if one is. -/
def Writable (d : Directory) (output : Option String) : Prop :=
  ∀ path ∈ output, ∀ content, ∃ d', d.write path content = .ok d'

/-- The command gives the text away: to the file that is named, or else on its standard output. -/
def Emits (d : Directory) (c : Command) (output : Option String) (text : String) : Prop :=
  ∃ report d', c.execute d = .ok (report, d') ∧
    match output with
    | none => report.printed = text ∧ d' = d
    | some path => report.printed = "" ∧ d.write path text.toUTF8 = .ok d'

variable {d : Directory} {manifest : String} {format : OutputFormat} {output : Option String}
  {options : PlanningOptions} {u : Universe} {catalog : CapabilityCatalog} {o : Outcome}
  {f : CommandFailure} {flags : List Flag}

theorem loaded_ok_iff :
    loaded d manifest = .ok u ↔
      ∃ entry, d.read manifest = .ok entry ∧ entry.size ≤ maxManifestSize ∧
        Universe.load manifest (.ok entry) = .ok u := by
  rw [loaded, load, bind_ok_iff]
  refine exists_congr fun entry => ?_
  rw [mapError_ok_iff, guard_ok_iff, not_lt, mapError_ok_iff]

/-- A manifest is not loaded if nothing can be read at its path, if its length is above the bound,
or if its content is no manifest. -/
theorem loaded_error_iff :
    loaded d manifest = .error f ↔
      (∃ e, d.read manifest = .error e ∧ f = .cannotAccess manifest e) ∨
      ∃ entry, d.read manifest = .ok entry ∧
        (maxManifestSize < entry.size ∧ f = .tooLarge manifest entry.size ∨
          entry.size ≤ maxManifestSize ∧
            ∃ e, Universe.load manifest (.ok entry) = .error e ∧ f = .badManifest e) := by
  rw [loaded, load]
  cases d.read manifest with
  | error e =>
      change Except.error (CommandFailure.cannotAccess manifest e) = .error f ↔ _
      simp [eq_comm]
  | ok entry =>
      change (if maxManifestSize < entry.size then .error (.tooLarge manifest entry.size)
        else (Universe.load manifest (.ok entry)).mapError .badManifest) = .error f ↔ _
      by_cases hsize : maxManifestSize < entry.size
      · rw [if_pos hsize]
        simp [hsize, eq_comm]
      · rw [if_neg hsize, mapError_error_iff]
        simp [hsize, not_lt.mp hsize, eq_comm]

theorem exists_manifest_of_loaded (hu : loaded d manifest = .ok u) :
    ∃ m, Universe.ofManifest m = .ok u := by
  obtain ⟨entry, -, -, hload⟩ := loaded_ok_iff.mp hu
  obtain ⟨source, -, hparse⟩ := Universe.load_ok_iff.mp hload
  obtain ⟨m, -, hm⟩ := bind_ok_iff.mp hparse
  exact ⟨m, hm⟩

section Failing

theorem outcome_of_failing (hf : loaded d manifest = .error f) :
    outcome manifest (d.read manifest) options = .error f := by
  rw [loaded] at hf
  rw [outcome, hf]
  rfl

theorem execute_plan_of_failing (hf : loaded d manifest = .error f) (format : OutputFormat)
    (output : Option String) (options : PlanningOptions) :
    execute d (.plan manifest format output options) = .error f := by
  change (outcome manifest (d.read manifest) options >>= _) >>= _ = _
  rw [outcome_of_failing hf]
  rfl

theorem execute_check_of_failing (hf : loaded d manifest = .error f)
    (options : PlanningOptions) :
    execute d (.check manifest options) = .error f := by
  change (outcome manifest (d.read manifest) options >>= _) >>= _ = _
  rw [outcome_of_failing hf]
  rfl

end Failing

section Loaded

theorem outcome_of_loaded (hu : loaded d manifest = .ok u) (ho : u.plan options = .ok o) :
    outcome manifest (d.read manifest) options = .ok o := by
  rw [loaded] at hu
  rw [outcome, hu]
  change (u.plan options).mapError _ = _
  rw [ho]
  rfl

theorem execute_check (ho : outcome manifest (d.read manifest) options = .ok o) :
    execute d (.check manifest options) =
      .ok ((conclude o (.check manifest options)).report, d) := by
  change (outcome manifest (d.read manifest) options >>= _) >>= _ = _
  rw [ho]
  rfl

theorem exitCode_check (ho : outcome manifest (d.read manifest) options = .ok o) :
    exitCode d (.check manifest options) = if o.isSuccess then 0 else 1 := by
  rw [exitCode, execute_check ho]
  rfl

theorem emits_plan (ho : outcome manifest (d.read manifest) options = .ok o)
    (hw : Writable d output) (format : OutputFormat) :
    Emits d (.plan manifest format output options) output (render format o.plans) ∧
      exitCode d (.plan manifest format output options) = if o.isSuccess then 0 else 1 := by
  cases output with
  | none =>
      have hrun : execute d (.plan manifest format none options) =
          .ok ((conclude o (.plan manifest format none options)).report, d) := by
        change (outcome manifest (d.read manifest) options >>= _) >>= _ = _
        rw [ho]
        rfl
      exact ⟨⟨_, _, hrun, rfl, rfl⟩, by rw [exitCode, hrun]; rfl⟩
  | some path =>
      obtain ⟨d', hd'⟩ := hw path rfl (render format o.plans).toUTF8
      have hrun : execute d (.plan manifest format (some path) options) =
          .ok ((conclude o (.plan manifest format (some path) options)).report, d') := by
        change (outcome manifest (d.read manifest) options >>= _) >>= _ = _
        rw [ho]
        change (d.write path (render format o.plans).toUTF8).mapError _ >>= _ = _
        rw [hd']
        rfl
      exact ⟨⟨_, _, hrun, rfl, hd'⟩, by rw [exitCode, hrun]; rfl⟩

theorem exitCode_check_of_loaded (hu : loaded d manifest = .ok u)
    (hb : CapabilityCatalog.build u.host = .ok catalog) (options : PlanningOptions) :
    exitCode d (.check manifest options) =
      if ∀ a ∈ u.annotated, (a.plan? catalog options).isSome = true then 0 else 1 := by
  obtain ⟨o, ho, hj⟩ := Universe.exists_judgement hb options
  rw [exitCode_check (outcome_of_loaded hu ho)]
  exact if_congr hj.isSuccess_iff rfl rfl

end Loaded

section Flags

theorem flagged_allFailures (flags : List Flag) :
    flagged (.allFailures :: flags) = ⟨.allFailures, (flagged flags).checkKeyCollisions⟩ := by
  simp [flagged, Draft.options]

theorem flagged_allowKeyCollisions (flags : List Flag) :
    flagged (.allowKeyCollisions :: flags) = ⟨(flagged flags).diagnostics, false⟩ := by
  simp [flagged, Draft.options]

theorem plan?_allFailures (a : Declaration) (flags : List Flag) :
    a.plan? catalog (flagged (.allFailures :: flags)) = a.plan? catalog (flagged flags) := by
  apply Option.ext
  intro p
  rw [flagged_allFailures, Declaration.plan?_eq_some_iff, Declaration.plan?_eq_some_iff]
  exact exists_congr fun m =>
    and_congr_left fun _ => (Model.ofSource_ok_diagnostics _ (flagged flags).diagnostics _).symm

theorem plan?_allowKeyCollisions {a : Declaration} {p : Plan}
    (hp : a.plan? catalog (flagged flags) = some p) :
    a.plan? catalog (flagged (.allowKeyCollisions :: flags)) = some p := by
  rw [Declaration.plan?_eq_some_iff] at hp ⊢
  obtain ⟨m, hm, rfl⟩ := hp
  rw [flagged_allowKeyCollisions]
  exact ⟨m, Model.ofSource_ok_sharing hm, rfl⟩

end Flags

/-- Under some flags the two commands on a loaded manifest end with the same code, which tells
whether each annotated declaration is accepted, and planning emits the accepted plans. -/
structure Agree (d : Directory) (manifest : String) (catalog : CapabilityCatalog) (u : Universe)
    (flags : List Flag) : Prop where
  accepting : exitCode d (.check manifest (flagged flags)) = 0 ↔
    ∀ a ∈ u.annotated, ∃ p, a.source.plan catalog (flagged flags) = .ok p
  rejecting : exitCode d (.check manifest (flagged flags)) = 1 ↔
    ∃ a ∈ u.annotated, ∃ r, a.source.plan catalog (flagged flags) = .error r
  planning : ∀ format output, Writable d output →
    exitCode d (.plan manifest format output (flagged flags)) =
        exitCode d (.check manifest (flagged flags)) ∧
      Emits d (.plan manifest format output (flagged flags)) output
        (render format (accepted catalog u flags))

theorem agree_of_loaded (hu : loaded d manifest = .ok u)
    (hb : CapabilityCatalog.build u.host = .ok catalog) (flags : List Flag) :
    Agree d manifest catalog u flags := by
  refine ⟨?_, ?_, fun format output hw => ?_⟩
  · rw [exitCode_check_of_loaded hu hb]
    simp only [Declaration.exists_plan_iff, ite_eq_left_iff, one_ne_zero, imp_false, not_not]
  · rw [exitCode_check_of_loaded hu hb]
    simp only [Declaration.exists_rejection_iff, ite_eq_right_iff, zero_ne_one, imp_false,
      not_forall, exists_prop]
  · obtain ⟨o, ho, hj⟩ := Universe.exists_judgement hb (flagged flags)
    have hrun := outcome_of_loaded hu ho
    obtain ⟨hemits, hcode⟩ := emits_plan hrun hw format
    rw [hj.plans] at hemits
    exact ⟨hcode.trans (exitCode_check hrun).symm, hemits⟩

/-- The two commands, in either format and under all flags, fail together with code 1 on a manifest
that is not loaded, because it is missing, too large or malformed. On any other they end with the
same code, 0 if each annotated declaration is accepted and 1 if one is not, and what planning emits
is the text of the accepted plans in the order of the manifest. Collecting all objections changes
neither the code nor the plans; permitting shared keys keeps every plan and never turns 0 into 1. -/
theorem plan_and_check_agree (d : Directory) (manifest : String) :
    (∀ f, loaded d manifest = .error f → ∀ flags format output,
      execute d (.plan manifest format output (flagged flags)) = .error f ∧
      execute d (.check manifest (flagged flags)) = .error f ∧
      exitCode d (.plan manifest format output (flagged flags)) = 1 ∧
      exitCode d (.check manifest (flagged flags)) = 1) ∧
    ∀ u, loaded d manifest = .ok u →
      ∃ catalog, CapabilityCatalog.build u.host = .ok catalog ∧
        (∀ flags, Agree d manifest catalog u flags) ∧
        (∀ flags,
          exitCode d (.check manifest (flagged (.allFailures :: flags))) =
            exitCode d (.check manifest (flagged flags)) ∧
          accepted catalog u (.allFailures :: flags) = accepted catalog u flags) ∧
        ∀ flags,
          (∀ a ∈ u.annotated, ∀ p, a.plan? catalog (flagged flags) = some p →
            a.plan? catalog (flagged (.allowKeyCollisions :: flags)) = some p) ∧
          (accepted catalog u flags).Sublist
            (accepted catalog u (.allowKeyCollisions :: flags)) ∧
          (exitCode d (.check manifest (flagged flags)) = 0 →
            exitCode d (.check manifest (flagged (.allowKeyCollisions :: flags))) = 0) := by
  constructor
  · intro f hf flags format output
    have hplan := execute_plan_of_failing hf format output (flagged flags)
    have hcheck := execute_check_of_failing hf (flagged flags)
    refine ⟨hplan, hcheck, ?_, ?_⟩
    · rw [exitCode, hplan]
      rfl
    · rw [exitCode, hcheck]
      rfl
  · intro u hu
    obtain ⟨m, hm⟩ := exists_manifest_of_loaded hu
    obtain ⟨catalog, hb, -⟩ := Universe.exists_catalog hm
    have hagree := agree_of_loaded hu hb
    refine ⟨catalog, hb, hagree, fun flags => ⟨?_, ?_⟩, fun flags => ⟨?_, ?_, ?_⟩⟩
    · simp only [exitCode_check_of_loaded hu hb, plan?_allFailures]
    · exact List.filterMap_congr fun a _ => plan?_allFailures a flags
    · exact fun a _ p hp => plan?_allowKeyCollisions hp
    · exact sublist_filterMap_of_imp fun a _ p hp => plan?_allowKeyCollisions hp
    · -- every plan is kept, so no declaration is rejected that was accepted before
      simp only [exitCode_check_of_loaded hu hb, ite_eq_left_iff, one_ne_zero, imp_false, not_not]
      intro hall a ha
      obtain ⟨p, hp⟩ := Option.isSome_iff_exists.mp (hall a ha)
      rw [plan?_allowKeyCollisions hp]
      rfl

/-- Two fields whose names differ but whose keys do not. -/
def twin : Declaration where
  name := "a.Twin"
  annotated := true
  fields := [{ name := "aB", type := .primitive .int, visibility := .publicMember },
    { name := "a_b", type := .primitive .int, visibility := .publicMember }]

def twinText : String :=
  "\x7b\"types\":[\x7b\"name\":\"a.Twin\",\"annotated\":true,\"fields\":[" ++
    "\x7b\"name\":\"aB\",\"type\":\"int\",\"visibility\":\"public\"\x7d," ++
    "\x7b\"name\":\"a_b\",\"type\":\"int\",\"visibility\":\"public\"\x7d]\x7d]\x7d"

theorem writable_none (d : Directory) : Writable d none := by
  intro path hpath
  cases hpath

def holding (content : ByteArray) : Directory := ⟨[(["t.json"], content)]⟩

theorem read_holding (content : ByteArray) :
    (holding content).read "t.json" = .ok (.file content) := by
  have hpath : Directory.pathProblem? "t.json" = none := by decide +kernel
  have hcomponents : Directory.components "t.json" = ["t.json"] := by decide +kernel
  have hstart : Directory.start "t.json" = ⟨.inside, []⟩ := by decide +kernel
  have hname : ¬Directory.maxNameLength < "t.json".utf8ByteSize := by decide +kernel
  simp [Directory.read, Directory.checkPath, hpath, hcomponents, hstart, hname, Directory.walk,
    Directory.entry?, Place.child, holding, List.lookup_cons, bind, Except.bind, pure, Except.pure]

theorem text?_file_toUTF8 (text : String) : (Entry.file text.toUTF8).text? = some text := by
  simp only [Entry.text?, String.fromUTF8?, String.toUTF8_eq_toByteArray, text.isValidUTF8]
  rfl

theorem loaded_holding {text : String} {m : Manifest} (hm : Manifest.parse text = .ok m)
    (hu : Universe.ofManifest m = .ok u) (hsize : text.utf8ByteSize ≤ maxManifestSize) :
    loaded (holding text.toUTF8) "t.json" = .ok u := by
  refine loaded_ok_iff.mpr ⟨_, read_holding _, hsize, ?_⟩
  refine Universe.load_ok_iff.mpr ⟨text, text?_file_toUTF8 text, ?_⟩
  rw [Universe.parse, hm]
  exact hu

def oversized : ByteArray := ⟨Array.replicate (maxManifestSize + 1) 0⟩

theorem size_oversized : (Entry.file oversized).size = maxManifestSize + 1 :=
  Array.size_replicate

theorem loaded_oversized :
    loaded (holding oversized) "t.json" = .error (.tooLarge "t.json" (maxManifestSize + 1)) := by
  refine loaded_error_iff.mpr (.inr ⟨_, read_holding _, .inl ?_⟩)
  rw [size_oversized]
  exact ⟨Nat.lt_succ_self _, rfl⟩

theorem twins_get_one_verdict :
    ∃ u, loaded (holding twinText.toUTF8) "t.json" = .ok u ∧ u.annotated = [twin] ∧
      Writable (holding twinText.toUTF8) none ∧
      exitCode (holding twinText.toUTF8) (.plan "t.json" .summary none (flagged [])) = 1 ∧
      exitCode (holding twinText.toUTF8) (.check "t.json" (flagged [.allowKeyCollisions])) = 0 ∧
      loaded (holding oversized) "t.json" = .error (.tooLarge "t.json" (maxManifestSize + 1)) ∧
      exitCode (holding oversized) (.plan "t.json" .json none (flagged [])) = 1 := by
  have hparse : Manifest.parse twinText = .ok { types := [twin] } := by decide +kernel
  have hu : loaded (holding twinText.toUTF8) "t.json" = .ok ⟨_, [twin]⟩ :=
    loaded_holding hparse rfl (by decide +kernel)
  have hwritable : Writable (holding twinText.toUTF8) none := writable_none _
  obtain ⟨hfailing, -⟩ := plan_and_check_agree (holding oversized) "t.json"
  obtain ⟨-, hverdicts⟩ := plan_and_check_agree (holding twinText.toUTF8) "t.json"
  obtain ⟨catalog, -, hagree, -⟩ := hverdicts _ hu
  refine ⟨_, hu, rfl, hwritable, ?_, ?_, loaded_oversized, ?_⟩
  · rw [((hagree []).planning .summary none hwritable).1, (hagree []).rejecting]
    exact ⟨twin, List.mem_singleton_self twin, _, rfl⟩
  · rw [(hagree [.allowKeyCollisions]).accepting]
    intro a ha
    obtain rfl := List.mem_singleton.mp ha
    exact ⟨_, rfl⟩
  · exact (hfailing _ loaded_oversized [] .json none).2.2.1

end Command

end Companion
