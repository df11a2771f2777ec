import Companion.Planning.Resolution
import Companion.Proofs.Planning.Catalog
import Mathlib.Tactic.Common

namespace Companion

open HostType

/-- A line of the list: the types that are assignable to the target travel by the operation. -/
structure Decision where
  rule : ResolutionRule
  operation : Operation
  target : HostType

namespace Decision

def resolution (d : Decision) : Resolution := ⟨{ operation := d.operation }, d.rule⟩

def listOf (element : HostType) : HostType := .declared Platform.arrayList [element]

def sparseArrayOf (element : HostType) : HostType := .declared Platform.sparseArray [element]

def anyParcelable : HostType := .wildcardExtends (.declared Platform.parcelable [])

def containers : List Decision := [
  ⟨.homogeneousList, .stringList, listOf (.declared Platform.string [])⟩,
  ⟨.homogeneousList, .integerList, listOf (.declared Primitive.int.boxed [])⟩,
  ⟨.homogeneousList, .charSequenceList, listOf (.declared Platform.charSequence [])⟩,
  ⟨.transferableList, .parcelableList, listOf anyParcelable⟩,
  ⟨.sparseTransferable, .parcelableSparseArray, sparseArrayOf anyParcelable⟩]

def markers : List Decision := [
  ⟨.transferable, .parcelable, .declared Platform.parcelable []⟩,
  ⟨.opaqueSerializable, .serializable, .declared Platform.serializable []⟩]

def spelled? (t : HostType) : Option Operation :=
  (Operation.catalog.find? fun row => t.catalogSpelling? == some row.1).map (·.2)

/-- The first decision that applies: the spelling of the type, the spelling of its component, and
then the lines of the list. -/
def first? (isAssignable : HostType → HostType → Bool) (t : HostType) : Option Resolution :=
  ((spelled? t).map fun op => ⟨{ operation := op }, .catalog⟩).or <|
    ((t.component?.bind spelled?).map fun op =>
      ⟨{ operation := op, isArray := true }, .catalog⟩).or <|
    ((containers ++ markers).find? fun d => isAssignable t d.target).map (·.resolution)

def lines : ResolutionRule → List Decision
  | .catalog => []
  | .homogeneousList => Operation.elementCatalog.map fun row =>
      ⟨.homogeneousList, row.2, listOf (.declared row.1 [])⟩
  | .transferableList => [⟨.transferableList, .parcelableList, listOf anyParcelable⟩]
  | .sparseTransferable =>
      [⟨.sparseTransferable, .parcelableSparseArray, sparseArrayOf anyParcelable⟩]
  | .transferable => [⟨.transferable, .parcelable, .declared Platform.parcelable []⟩]
  | .opaqueSerializable =>
      [⟨.opaqueSerializable, .serializable, .declared Platform.serializable []⟩]

theorem flatMap_lines : CapabilityCatalog.rules.tail.flatMap lines = containers ++ markers := rfl

theorem find?_singleton_map (p : Decision → Bool) (d : Decision) :
    ([d].find? p).map (·.resolution) = if p d then some d.resolution else none := by
  rw [List.find?_singleton]
  split <;> rfl

theorem lookup_eq_find? {α : Type} (s : String) (rows : List (String × α)) :
    rows.lookup s = (rows.find? fun row => some s == some row.1).map (·.2) := by
  induction rows with
  | nil => rfl
  | cons row rows ih =>
      obtain ⟨key, a⟩ := row
      have hsome : (some s == some key) = (s == key) := rfl
      rw [List.lookup_cons, List.find?_cons, hsome]
      cases s == key with
      | true => rfl
      | false => exact ih

theorem listed?_eq_spelled? (t : HostType) : CapabilityCatalog.listed? t = spelled? t := by
  rw [CapabilityCatalog.listed?, spelled?]
  cases t.catalogSpelling? with
  | none => rfl
  | some s => exact lookup_eq_find? s Operation.catalog

theorem catalogTransfer?_eq (t : HostType) :
    CapabilityCatalog.catalogTransfer? t =
      ((spelled? t).map fun op => { operation := op }).or
        ((t.component?.bind spelled?).map fun op => { operation := op, isArray := true }) := by
  cases t with
  | array c => rw [CapabilityCatalog.catalogTransfer?, listed?_eq_spelled?]; rfl
  | primitive | declared | wildcard | wildcardExtends | var =>
      rw [CapabilityCatalog.catalogTransfer?, listed?_eq_spelled?]
      · simp [component?]
      · intro c he
        cases he

end Decision

namespace Hierarchy

variable {h : Hierarchy} {t : HostType} {k : Capability} {container : String}

/-- A type as a field can have it: not a wildcard, and with one argument for each parameter if it is
a known class. -/
def Proper (h : Hierarchy) : HostType → Prop
  | .declared name as => h.contains name = true → as.length = (h.typeParameters name).length
  | .wildcard | .wildcardExtends _ => False
  | .primitive _ | .array _ | .var _ => True

def fills (h : Hierarchy) : List HostType → HostType → Bool
  | [], _ => true
  | [a], slot => h.holds a slot
  | _, _ => false

theorem fills_eq (h : Hierarchy) (as : List HostType) (slot : HostType) :
    h.fills as slot = (as.isEmpty || h.holdsAll as [slot]) := by
  match as with
  | [] => rfl
  | [a] => simp [fills, holdsAll]
  | a :: b :: as => simp [fills, holdsAll]

theorem isAssignable_container (hk : k.container? = some container) (ht : h.Proper t)
    (slot : HostType) :
    h.isAssignable t (.declared container [slot]) =
      (h.view t container).any fun v => h.fills v.args slot := by
  have hobj := Capability.container_ne_object hk
  cases t with
  | declared name as =>
      rw [isAssignable_declared hobj]
      simp only [fills_eq, List.isEmpty_cons, Bool.false_or]
  | primitive p =>
      rw [isAssignable_primitive, view_notClass (by simp [IsClass, rawName?])]
      rfl
  | var v =>
      rw [isAssignable_var hobj, view_notClass (by simp [IsClass, rawName?])]
      rfl
  | array c =>
      rw [isAssignable_array hobj, view_notClass (by simp [IsClass, rawName?])]
      exact Capability.container_ne_arraySupertype hk
  | wildcard | wildcardExtends => exact ht.elim

end Hierarchy

namespace CapabilityCatalog

variable {c : CapabilityCatalog} {h : Hierarchy} {t : HostType} {k : Capability}
  {container : String}

theorem Describes.containerView_proper (hd : c.Describes h) (hw : h.WellDeclared)
    (hk : k.container? = some container) (hcon : h.contains container = true) (ht : h.Proper t) :
    c.containerView t k = h.view t container := by
  cases t with
  | declared name as =>
      cases hf : h.find? name with
      | none =>
          have hn : name ≠ container := by
            rintro rfl
            rw [Hierarchy.contains, hf] at hcon
            cases hcon
          rw [hd.containerView_unknown hf, Hierarchy.view_unknown hn hf]
      | some e =>
          have hl := ht (Hierarchy.contains_iff.mpr ⟨e, hf⟩)
          rw [Hierarchy.typeParameters_of_find? hf] at hl
          exact hd.containerView_eq_view hw hk hf hl
  | primitive | array | wildcard | wildcardExtends | var =>
      rw [Hierarchy.view_notClass (by simp [IsClass, rawName?])]
      rfl

theorem Describes.holdsTransferable_eq (hd : c.Describes h) (hw : h.WellDeclared)
    (hk : k.container? = some container) (hcon : h.contains container = true)
    (hp : h.contains Platform.parcelable = true) (ht : h.Proper t) :
    c.holdsTransferable t k =
      h.isAssignable t (.declared container [Decision.anyParcelable]) := by
  rw [Hierarchy.isAssignable_container hk ht, holdsTransferable,
    hd.containerView_proper hw hk hcon ht]
  cases h.view t container with
  | none => rfl
  | some v =>
      simp only [Option.any_some]
      generalize v.args = as
      match as with
      | [] => rfl
      | [a] =>
          have hobj := Capability.marker_ne_object (k := .transferable) rfl
          exact (hd.has_eq_isAssignable hw.classes (k := .transferable) rfl hp a).trans
            (Hierarchy.holds_wildcardExtends hobj a).symm
      | _ :: _ :: _ => rfl

theorem fills_element (h : Hierarchy) (as : List HostType) :
    (match as with
      | [] => Operation.elementCatalog.head?.map (·.2)
      | [.declared name []] => Operation.ofElement? name
      | _ => none) =
      (Operation.elementCatalog.find? fun row =>
        h.fills as (.declared row.1 [])).map (·.2) := by
  match as with
  | [] => rfl
  | [a] =>
      simp only [Hierarchy.fills, Hierarchy.holds_declared]
      split
      · next heq => cases heq
      · next name heq =>
        cases heq
        rw [Operation.ofElement?, Decision.lookup_eq_find?]
        simp [beq_eq_decide]
      · next hne =>
        rw [List.find?_eq_none.mpr, Option.map_none]
        intro row _ ha
        exact hne row.1 (by rw [of_decide_eq_true ha])
  | _ :: _ :: _ =>
      split
      · next heq => cases heq
      · next heq => cases heq
      · rfl

theorem Describes.homogeneousList?_eq (hd : c.Describes h) (hw : h.WellDeclared)
    (hl : h.contains Platform.arrayList = true) (ht : h.Proper t) :
    c.homogeneousList? t = (Operation.elementCatalog.find? fun row =>
      h.isAssignable t (Decision.listOf (.declared row.1 []))).map (·.2) := by
  have hk : Capability.orderedList.container? = some Platform.arrayList := rfl
  simp only [homogeneousList?, hd.containerView_proper hw hk hl ht, Decision.listOf,
    Hierarchy.isAssignable_container hk ht]
  cases h.view t Platform.arrayList with
  | none => rfl
  | some v => exact fills_element h v.args

theorem Describes.ruleTransfer?_eq (hd : c.Describes h) (hw : h.WellDeclared)
    (hp : ∀ name ∈ Platform.types.map (·.name), h.contains name = true) (ht : h.Proper t)
    {rule : ResolutionRule} (hr : rule ∈ rules.tail) :
    (c.ruleTransfer? t rule).map (fun transfer => (⟨transfer, rule⟩ : Resolution)) =
      ((Decision.lines rule).find? fun d => h.isAssignable t d.target).map (·.resolution) := by
  have hparcelable := hp Platform.parcelable (by decide)
  have hserializable := hp Platform.serializable (by decide)
  have harrayList := hp Platform.arrayList (by decide)
  have hsparseArray := hp Platform.sparseArray (by decide)
  cases rule with
  | catalog => exact absurd hr (by decide)
  | homogeneousList =>
      rw [ruleTransfer?, hd.homogeneousList?_eq hw harrayList ht, Decision.lines, List.find?_map]
      simp only [Option.map_map, Function.comp_def]
      rfl
  | transferableList =>
      rw [ruleTransfer?, hd.holdsTransferable_eq hw rfl harrayList hparcelable ht, Decision.lines,
        Decision.find?_singleton_map, apply_ite (Option.map _)]
      rfl
  | sparseTransferable =>
      rw [ruleTransfer?, hd.holdsTransferable_eq hw rfl hsparseArray hparcelable ht,
        Decision.lines, Decision.find?_singleton_map, apply_ite (Option.map _)]
      rfl
  | transferable =>
      rw [ruleTransfer?, hd.has_eq_isAssignable hw.classes rfl hparcelable, Decision.lines,
        Decision.find?_singleton_map, apply_ite (Option.map _)]
      rfl
  | opaqueSerializable =>
      rw [ruleTransfer?, hd.has_eq_isAssignable hw.classes rfl hserializable, Decision.lines,
        Decision.find?_singleton_map, apply_ite (Option.map _)]
      rfl

theorem findSome?_congr {α β : Type} {f g : α → Option β} {as : List α}
    (hfg : ∀ a ∈ as, f a = g a) : as.findSome? f = as.findSome? g := by
  induction as with
  | nil => rfl
  | cons a as ih =>
      rw [List.findSome?_cons, List.findSome?_cons, hfg a List.mem_cons_self,
        ih fun x hx => hfg x (List.mem_cons_of_mem a hx)]

theorem Describes.resolve_eq_first? (hd : c.Describes h) (hw : h.WellDeclared)
    (hp : ∀ name ∈ Platform.types.map (·.name), h.contains name = true) (ht : h.Proper t) :
    c.resolve t = Decision.first? h.isAssignable t := by
  have htail : rules.tail.findSome? (fun rule =>
        (c.ruleTransfer? t rule).map fun transfer => (⟨transfer, rule⟩ : Resolution)) =
      ((Decision.containers ++ Decision.markers).find? fun d =>
        h.isAssignable t d.target).map (·.resolution) := by
    rw [← Decision.flatMap_lines, List.find?_flatMap, List.map_findSome?]
    exact findSome?_congr fun rule hr => hd.ruleTransfer?_eq hw hp ht hr
  have hcatalog : (c.ruleTransfer? t .catalog).map (fun transfer =>
        (⟨transfer, .catalog⟩ : Resolution)) =
      ((Decision.spelled? t).map fun op => ⟨{ operation := op }, .catalog⟩).or
        ((t.component?.bind Decision.spelled?).map fun op =>
          ⟨{ operation := op, isArray := true }, .catalog⟩) := by
    rw [ruleTransfer?, Decision.catalogTransfer?_eq, Option.map_or, Option.map_map,
      Option.map_map]
    rfl
  calc c.resolve t
      = ((c.ruleTransfer? t .catalog).map fun transfer => ⟨transfer, .catalog⟩).or
          (rules.tail.findSome? fun rule =>
            (c.ruleTransfer? t rule).map fun transfer => ⟨transfer, rule⟩) := by
        rw [resolve, rules, List.findSome?_cons]
        cases c.ruleTransfer? t .catalog <;> rfl
    _ = Decision.first? h.isAssignable t := by
        rw [htail, hcatalog, Option.or_assoc, Decision.first?]

end CapabilityCatalog

namespace Universe

variable {m : Manifest} {u : Universe}

/-- Planning chooses for each type a field can have what the list of decisions chooses when the host
is asked about that very type. -/
theorem exists_catalog_resolving (hu : ofManifest m = .ok u) (hw : u.hierarchy.WellDeclared) :
    ∃ c, CapabilityCatalog.build u.host = .ok c ∧
      ∀ t, u.hierarchy.Proper t → c.resolve t = Decision.first? u.host.isAssignable t := by
  obtain ⟨c, hb, hd⟩ := exists_catalog hu
  exact ⟨c, hb, fun t ht => hd.resolve_eq_first? hw (fun _ hn => contains_platform hu hn) ht⟩

theorem rack_of_strings_resolves :
    ∃ u, ofManifest shelves = .ok u ∧ u.hierarchy.WellDeclared ∧
      u.hierarchy.Proper (.declared "a.Rack" [.var "T", .declared "java.lang.String" []]) ∧
      ∃ c, CapabilityCatalog.build u.host = .ok c ∧
        c.resolve (.declared "a.Rack" [.var "T", .declared "java.lang.String" []]) =
          some ⟨{ operation := .stringList }, .homogeneousList⟩ := by
  obtain ⟨c, hb, hres⟩ := exists_catalog_resolving (m := shelves) rfl wellDeclared_shelves
  have ht : (shelves.types.foldl declare Hierarchy.platform).Proper
      (.declared "a.Rack" [.var "T", .declared "java.lang.String" []]) :=
    fun _ => by decide +kernel
  have hview : (shelves.types.foldl declare Hierarchy.platform).view
      (.declared "a.Rack" [.var "T", .declared "java.lang.String" []]) Platform.arrayList =
        some (.declared Platform.arrayList [.declared "java.lang.String" []]) := by
    obtain ⟨_, hshelf, hrack⟩ := find?_shelves
    generalize shelves.types.foldl declare Hierarchy.platform = h at hshelf hrack
    simp [Hierarchy.view, Hierarchy.search_declared, hshelf, hrack, TypeEntry.supertypesOf,
      TypeEntry.fits, substitute, substituteAll, List.lookup_cons, Platform.arrayList]
  have hstrings : (shelves.types.foldl declare Hierarchy.platform).isAssignable
      (.declared "a.Rack" [.var "T", .declared "java.lang.String" []])
      (Decision.listOf (.declared Platform.string [])) = true := by
    rw [Decision.listOf, Hierarchy.isAssignable_declared (by decide), hview, Option.any_some]
    simp [args, Hierarchy.holdsAll, Hierarchy.holds_declared, Platform.string]
  refine ⟨_, rfl, wellDeclared_shelves, ht, c, hb, ?_⟩
  rw [hres _ ht, Decision.first?]
  -- the type is not spelled in the catalog and has no component
  exact congrArg (Option.map Decision.resolution) (List.find?_cons_of_pos hstrings)

end Universe

end Companion
