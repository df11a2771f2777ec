import Companion.Proofs.HostType.Scan
import Mathlib.Tactic.Common

namespace Companion.HostType

open Text

inductive ScansBase (depth : Nat) (s : List Char) : HostType → List Char → Prop
  | wildcard {r} (hq : eat? '?' s = some r) (hw : eatWord? "extends".toList r = none) :
      ScansBase depth s .wildcard r
  | wildcardExtends {m m' u r} (hq : eat? '?' s = some m)
      (hw : eatWord? "extends".toList m = some m') (hu : scanType depth m' = .ok (u, r)) :
      ScansBase depth s (.wildcardExtends u) r
  | name {w r} (hq : eat? '?' s = none) (hn : scanName s = .ok (w, r))
      (hopen : eat? '<' r = none) : ScansBase depth s (ofName w) r
  | parameterized {w m m' as r} (hq : eat? '?' s = none) (hn : scanName s = .ok (w, m))
      (hopen : eat? '<' m = some m') (has : scanArgs depth m' = .ok (as, r)) :
      ScansBase depth s (.declared (String.ofList w) as) r

variable {ks ls : List Token} {m r s : List Char} {t : HostType} {as : List HostType}
  {n : DottedName}

theorem spells_of_scanBrackets {s' : List Char} {t' : HostType} (h : scanBrackets t s = .ok (t', r))
    (hks : Begins ks s' s) (ht : Spells ks t) (hi : Innermost t)
    (hbound : ∀ u, t = .wildcardExtends u → eat? '[' s = none) :
    ∃ ls, Begins ls s' r ∧ Spells ls t' ∧ Innermost t' ∧ eat? '[' r = none := by
  fun_induction scanBrackets t s generalizing ks with
  | case1 t s hopen =>
      cases h
      exact ⟨ks, hks, ht, hi, hopen⟩
  | case2 t s m hopen hclose => cases h
  | case3 t s m hopen m' hclose ih =>
      have hbrackets : Begins [.openBracket, .closeBracket] s m' :=
        (begins_cons_iff_eat? rfl).mpr ⟨m, hopen, (begins_cons_iff_eat? rfl).mpr ⟨m', hclose, .nil⟩⟩
      -- the bound of a wildcard has taken the brackets before
      have harray : ∀ u, t ≠ .wildcardExtends u := by
        intro u hu
        rw [hbound u hu] at hopen
        cases hopen
      exact ih h (begins_append_iff.mpr ⟨s, hks, hbrackets⟩) (.array ht) (.array hi harray) nofun

/-- What is read as a type up to a depth is spelled by the tokens read, and no brackets are left. -/
def SpelledTypes (depth : Nat) : Prop :=
  ∀ s t r, scanType depth s = .ok (t, r) →
    ∃ ks, Begins ks s r ∧ Spells ks t ∧ Innermost t ∧ eat? '[' r = none

def SpelledArgs (depth : Nat) : Prop :=
  ∀ s as r, scanArgs depth s = .ok (as, r) →
    ∃ ks, Begins (ks ++ [.closeAngle]) s r ∧ SpellsArgs ks as ∧ ∀ a ∈ as, Innermost a

theorem scanType_of_scansBase {depth : Nat} {c : HostType} (h : ScansBase depth s c m) :
    scanType (depth + 1) s = scanBrackets c m := by
  cases h with
  | wildcard hq hw =>
      rw [scanType, hq]
      simp only [hw]
  | wildcardExtends hq hw hu =>
      rw [scanType, hq]
      simp only [hw, hu]
  | name hq hn hopen =>
      rw [scanType, hq]
      simp only [hn, hopen]
  | parameterized hq hn hopen has =>
      rw [scanType, hq]
      simp only [hn, hopen, has]

theorem exists_scansBase {depth : Nat} (h : scanType (depth + 1) s = .ok (t, r)) :
    ∃ c m, ScansBase depth s c m ∧ scanBrackets c m = .ok (t, r) := by
  rw [scanType] at h
  cases hq : eat? '?' s with
  | some m =>
      simp only [hq] at h
      cases hw : eatWord? "extends".toList m with
      | none =>
          simp only [hw] at h
          exact ⟨_, _, .wildcard hq hw, h⟩
      | some m' =>
          simp only [hw] at h
          cases hu : scanType depth m' with
          | error e =>
              rw [hu] at h
              cases h
          | ok p =>
              rw [hu] at h
              exact ⟨_, _, .wildcardExtends hq hw hu, h⟩
  | none =>
      simp only [hq] at h
      cases hn : scanName s with
      | error e =>
          rw [hn] at h
          cases h
      | ok p =>
          simp only [hn] at h
          cases hopen : eat? '<' p.2 with
          | none =>
              rw [hopen] at h
              exact ⟨_, _, .name hq hn hopen, h⟩
          | some m' =>
              simp only [hopen] at h
              cases has : scanArgs depth m' with
              | error e =>
                  rw [has] at h
                  cases h
              | ok q =>
                  rw [has] at h
                  exact ⟨_, _, .parameterized hq hn hopen has, h⟩

theorem exists_scanType_of_scanArgs {depth : Nat} (h : scanArgs (depth + 1) s = .ok (as, r)) :
    ∃ a m, scanType depth s = .ok (a, m) ∧
      ((∃ m' later, eat? ',' m = some m' ∧ scanArgs depth m' = .ok (later, r) ∧ as = a :: later) ∨
        eat? '>' m = some r ∧ as = [a]) := by
  rw [scanArgs] at h
  cases ha : scanType depth s with
  | error e =>
      rw [ha] at h
      cases h
  | ok p =>
      obtain ⟨a, m⟩ := p
      simp only [ha] at h
      refine ⟨a, m, rfl, ?_⟩
      cases hcomma : eat? ',' m with
      | some m' =>
          simp only [hcomma] at h
          cases hlater : scanArgs depth m' with
          | error e =>
              rw [hlater] at h
              cases h
          | ok q =>
              rw [hlater] at h
              cases h
              exact .inl ⟨m', q.1, rfl, hlater, rfl⟩
      | none =>
          simp only [hcomma] at h
          cases hclose : eat? '>' m with
          | none =>
              rw [hclose] at h
              cases h
          | some m' =>
              rw [hclose] at h
              cases h
              exact .inr ⟨rfl, rfl⟩

theorem spells_of_scansBase {depth : Nat} (htypes : SpelledTypes depth) (hargs : SpelledArgs depth)
    (h : ScansBase depth s t r) :
    ∃ ks, Begins ks s r ∧ Spells ks t ∧ Innermost t ∧
      ∀ u, t = .wildcardExtends u → eat? '[' r = none := by
  cases h with
  | wildcard hq hw =>
      exact ⟨_, (begins_cons_iff_eat? rfl).mpr ⟨r, hq, .nil⟩, .wildcard, .wildcard, nofun⟩
  | wildcardExtends hq hw hu =>
      obtain ⟨ks, hks, hspells, hinner, hopen⟩ := htypes _ _ _ hu
      have hbegins := (begins_cons_iff (k := .extendsWord)).mpr ⟨_, eatWord?_eq_some_iff.mp hw, hks⟩
      -- the bound has taken all the brackets
      exact ⟨.question :: .extendsWord :: ks, (begins_cons_iff_eat? rfl).mpr ⟨_, hq, hbegins⟩,
        .wildcardExtends hspells, .wildcardExtends hinner, fun _ _ => hopen⟩
  | name hq hn hopen =>
      obtain ⟨n, rfl, hname⟩ := begins_of_scanName hn
      have hdenotes := denotes_ofName n
      refine ⟨_, hname, .name hdenotes, hdenotes.innermost, ?_⟩
      intro u hu
      rw [hu] at hdenotes
      cases hdenotes
  | parameterized hq hn hopen has =>
      obtain ⟨n, rfl, hname⟩ := begins_of_scanName hn
      obtain ⟨ks, hks, hspells, hinner⟩ := hargs _ _ _ has
      have hbegins := (begins_cons_iff_eat? (k := .openAngle) rfl).mpr ⟨_, hopen, hks⟩
      exact ⟨_, begins_append_iff.mpr ⟨_, hname, hbegins⟩, .parameterized hspells,
        .declared hinner, nofun⟩

theorem spelledTypes_succ {depth : Nat} (htypes : SpelledTypes depth) (hargs : SpelledArgs depth) :
    SpelledTypes (depth + 1) := by
  intro s t r h
  obtain ⟨c, m, hbase, hbrackets⟩ := exists_scansBase h
  obtain ⟨ks, hks, hspells, hinner, hbound⟩ := spells_of_scansBase htypes hargs hbase
  exact spells_of_scanBrackets hbrackets hks hspells hinner hbound

theorem spelledArgs_succ {depth : Nat} (htypes : SpelledTypes depth) (hargs : SpelledArgs depth) :
    SpelledArgs (depth + 1) := by
  intro s as r h
  obtain ⟨a, m, ha, ⟨m', later, hcomma, hlater, rfl⟩ | ⟨hclose, rfl⟩⟩ :=
    exists_scanType_of_scanArgs h
  · obtain ⟨ks, hks, hspells, hinner, -⟩ := htypes s a m ha
    obtain ⟨ls, hls, hothers, hall⟩ := hargs m' later r hlater
    have hbegins := (begins_cons_iff_eat? (k := .comma) rfl).mpr ⟨m', hcomma, hls⟩
    refine ⟨ks ++ .comma :: ls, ?_, .cons hspells hothers, List.forall_mem_cons.mpr ⟨hinner, hall⟩⟩
    rw [List.append_assoc]
    exact begins_append_iff.mpr ⟨m, hks, hbegins⟩
  · obtain ⟨ks, hks, hspells, hinner, -⟩ := htypes s a m ha
    have hbegins := (begins_cons_iff_eat? (k := .closeAngle) rfl).mpr ⟨r, hclose, .nil⟩
    exact ⟨ks, begins_append_iff.mpr ⟨m, hks, hbegins⟩, .last hspells,
      List.forall_mem_singleton.mpr hinner⟩

theorem spelled_of_depth (depth : Nat) : SpelledTypes depth ∧ SpelledArgs depth := by
  induction depth with
  | zero => exact ⟨nofun, nofun⟩
  | succ depth ih => exact ⟨spelledTypes_succ ih.1 ih.2, spelledArgs_succ ih.1 ih.2⟩

section Steps

variable {depth : Nat} {a : HostType} {m' : List Char}

theorem eat?_question_of_begins_name (h : Begins n.tokens s r) : eat? '?' s = none := by
  rw [eat?_eq_none_iff, next?_of_begins_cons h]
  intro hq
  have hstart := isIdentPart_of_isIdentStart n.first.isStart
  rw [Option.some.inj hq, isIdentPart_eq_false_of_mem_marks (by decide)] at hstart
  cases hstart

theorem scansBase_name (h : Denotes n t) (hname : Begins n.tokens s r) (hr : TypeEnds r) :
    ScansBase depth s t r := by
  rw [← ofName_of_denotes h]
  exact .name (eat?_question_of_begins_name hname) (scanName_of_begins hname hr.nameEnds)
    hr.eat?_openAngle

theorem scansBase_parameterized (hname : Begins n.tokens s m) (hopen : eat? '<' m = some m')
    (has : scanArgs depth m' = .ok (as, r)) : ScansBase depth s (.declared n.text as) r :=
  .parameterized (eat?_question_of_begins_name hname)
    (scanName_of_begins hname (nameEnds_of_openAngle (next?_of_eat? hopen))) hopen has

theorem scanArgs_last (ha : scanType depth s = .ok (a, m)) (hclose : eat? '>' m = some r) :
    scanArgs (depth + 1) s = .ok ([a], r) := by
  have hcomma : eat? ',' m = none := eat?_eq_none_of_some hclose (by decide)
  rw [scanArgs, ha]
  simp only [hcomma, hclose]

theorem scanArgs_cons (ha : scanType depth s = .ok (a, m)) (hcomma : eat? ',' m = some m')
    (has : scanArgs depth m' = .ok (as, r)) : scanArgs (depth + 1) s = .ok (a :: as, r) := by
  rw [scanArgs, ha]
  simp only [hcomma, has]

end Steps

theorem typeEnds_of_eat? {c : Char} (hc : c = ',' ∨ c = '>' ∨ c = '[') (h : eat? c s = some r) :
    TypeEnds s := by
  intro d hd
  rw [next?_of_eat? h] at hd
  cases hd
  exact hc

mutual

theorem scanType_of_spells : ∀ {ks : List Token} {t : HostType}, Spells ks t →
    ∀ {depth : Nat} {s r : List Char}, Innermost t → Begins ks s r → TypeEnds r →
      (∀ u, t = .wildcardExtends u → eat? '[' r = none) → 2 * s.length < depth →
      scanType depth s = scanBrackets t r
  | _, _, .name hname, depth + 1, s, r, _, hks, hr, _, _ =>
      scanType_of_scansBase (scansBase_name hname hks hr)
  | _, _, .wildcard, depth + 1, s, r, _, hks, hr, _, _ => by
      obtain ⟨m, hq, hm⟩ := (begins_cons_iff_eat? rfl).mp hks
      cases hm
      exact scanType_of_scansBase (.wildcard hq hr.eatWord?_extends)
  | _, _, .parameterized hargs, depth + 1, s, r, .declared hinner, hks, hr, _, hdepth => by
      obtain ⟨m, hname, hrest⟩ := begins_append_iff.mp hks
      obtain ⟨m', hopen, hclosed⟩ := (begins_cons_iff_eat? rfl).mp hrest
      have hlength := length_of_begins hname
      have hlength' := length_of_eat? hopen
      exact scanType_of_scansBase
        (scansBase_parameterized hname hopen (scanArgs_of_spells hargs hinner hclosed (by omega)))
  | _, _, .wildcardExtends hu, depth + 1, s, r, .wildcardExtends hinner, hks, hr, hbound,
      hdepth => by
      obtain ⟨m, hq, hrest⟩ := (begins_cons_iff_eat? rfl).mp hks
      obtain ⟨m', hw, hrest⟩ := begins_cons_iff.mp hrest
      have hlength := length_of_eat? hq
      have hlength' : m'.length + 1 ≤ m.length := length_of_begins (begins_singleton_iff.mpr hw)
      have hopen := hbound _ rfl
      -- the bound is the last part of the spelling, so what follows is the same for both
      have hbounded := scanType_of_spells hu hinner hrest hr (fun _ _ => hopen)
        (show 2 * m'.length < depth by omega)
      rw [scanBrackets_of_none hopen] at hbounded
      exact scanType_of_scansBase (.wildcardExtends hq (eatWord?_eq_some_iff.mpr hw) hbounded)
  | _, _, .array hc, depth, s, r, .array hinner hne, hks, hr, _, hdepth => by
      obtain ⟨m, hc', hrest⟩ := begins_append_iff.mp hks
      obtain ⟨m', hopen, hrest⟩ := (begins_cons_iff_eat? rfl).mp hrest
      obtain ⟨m'', hclose, hrest⟩ := (begins_cons_iff_eat? rfl).mp hrest
      cases hrest
      rw [scanType_of_spells hc hinner hc' (typeEnds_of_eat? (by decide) hopen)
        (fun u hu => absurd hu (hne u)) hdepth]
      exact scanBrackets_of_some hopen hclose

theorem scanArgs_of_spells : ∀ {ks : List Token} {as : List HostType}, SpellsArgs ks as →
    ∀ {depth : Nat} {s r : List Char}, (∀ a ∈ as, Innermost a) → Begins (ks ++ [.closeAngle]) s r →
      2 * s.length + 1 < depth → scanArgs depth s = .ok (as, r)
  | _, _, .last ha, depth + 1, s, r, hinner, hks, hdepth => by
      obtain ⟨m, hfirst, hrest⟩ := begins_append_iff.mp hks
      obtain ⟨m', hclose, hrest⟩ := (begins_cons_iff_eat? rfl).mp hrest
      cases hrest
      have hopen : eat? '[' m = none := eat?_eq_none_of_some hclose (by decide)
      have hread := scanType_of_spells ha (hinner _ (by simp)) hfirst
        (typeEnds_of_eat? (by decide) hclose) (fun _ _ => hopen)
        (show 2 * s.length < depth by omega)
      rw [scanBrackets_of_none hopen] at hread
      exact scanArgs_last hread hclose
  | _, _, .cons ha has, depth + 1, s, r, hinner, hks, hdepth => by
      rw [List.append_assoc] at hks
      obtain ⟨m, hfirst, hrest⟩ := begins_append_iff.mp hks
      obtain ⟨m', hcomma, hrest⟩ := (begins_cons_iff_eat? rfl).mp hrest
      have hopen : eat? '[' m = none := eat?_eq_none_of_some hcomma (by decide)
      have hread := scanType_of_spells ha (hinner _ (by simp)) hfirst
        (typeEnds_of_eat? (by decide) hcomma) (fun _ _ => hopen)
        (show 2 * s.length < depth by omega)
      rw [scanBrackets_of_none hopen] at hread
      have hlength := length_of_begins hfirst
      have hlength' := length_of_eat? hcomma
      exact scanArgs_cons hread hcomma
        (scanArgs_of_spells has (fun a ha => hinner a (by simp [ha])) hrest (by omega))

end

/-- The depth of the recursion is bounded by the length of the text: any greater bound than twice
the length gives the same answer. -/
theorem scan_depth (depth : Nat) :
    (∀ depth' s, 2 * s.length < depth → 2 * s.length < depth' →
      scanType depth s = scanType depth' s) ∧
    ∀ depth' s, 2 * s.length + 1 < depth → 2 * s.length + 1 < depth' →
      scanArgs depth s = scanArgs depth' s := by
  -- the first argument is read where the arguments begin, so their bound is greater by one
  induction depth with
  | zero => exact ⟨nofun, nofun⟩
  | succ depth ih =>
      obtain ⟨ihType, ihArgs⟩ := ih
      constructor
      · rintro (_ | depth') s h h'
        · cases h'
        rw [scanType, scanType]
        cases hq : eat? '?' s with
        | some m =>
            have hm := length_of_eat? hq
            cases hw : eatWord? "extends".toList m with
            | none => simp only [hw]
            | some m' =>
                have hm' := length_of_begins
                  ((begins_singleton_iff (k := .extendsWord)).mpr (eatWord?_eq_some_iff.mp hw))
                simp only [hw]
                rw [ihType depth' m' (by omega) (by omega)]
        | none =>
            cases hn : scanName s with
            | error e => rfl
            | ok p =>
                obtain ⟨w, m⟩ := p
                obtain ⟨n, -, hname⟩ := begins_of_scanName hn
                have hm := length_of_begins hname
                cases hopen : eat? '<' m with
                | none => simp only [hopen]
                | some m' =>
                    have hm' := length_of_eat? hopen
                    simp only [hopen]
                    rw [ihArgs depth' m' (by omega) (by omega)]
      · rintro (_ | depth') s h h'
        · cases h'
        rw [scanArgs, scanArgs, ihType depth' s (by omega) (by omega)]
        cases ha : scanType depth' s with
        | error e => rfl
        | ok p =>
            obtain ⟨a, m⟩ := p
            obtain ⟨ks, hks, -⟩ := (spelled_of_depth depth').1 s a m ha
            have hm := length_of_begins hks
            cases hcomma : eat? ',' m with
            | none => simp only [hcomma]
            | some m' =>
                have hm' := length_of_eat? hcomma
                simp only [hcomma]
                rw [ihArgs depth' m' (by omega) (by omega)]

theorem parse_eq_ok_iff_scanWhole {input : String} :
    parse input = .ok t ↔ scanWhole input.toList = .ok t := by
  rw [parse]
  cases scanWhole input.toList <;> simp

theorem parse_eq_ok_iff {input : String} :
    parse input = .ok t ↔ ∃ ks, Written ks input.toList ∧ Spells ks t ∧ Innermost t := by
  rw [parse_eq_ok_iff_scanWhole, scanWhole]
  constructor
  · intro h
    cases hscan : scanType (2 * input.toList.length + 1) input.toList with
    | error e =>
        rw [hscan] at h
        cases h
    | ok p =>
        obtain ⟨t', b⟩ := p
        obtain ⟨ks, hks, hspells, hinner, -⟩ := (spelled_of_depth _).1 _ t' b hscan
        rw [hscan] at h
        cases hb : skipBlanks b with
        | nil =>
            simp only [hb] at h
            cases h
            exact ⟨ks, ⟨b, hks, skipBlanks_eq_nil_iff.mp hb⟩, hspells, hinner⟩
        | cons c m =>
            simp only [hb] at h
            cases h
  · rintro ⟨ks, ⟨b, hks, hb⟩, hspells, hinner⟩
    have hskip := skipBlanks_eq_nil_iff.mpr hb
    have hnext : next? b = none := by rw [next?, hskip]; rfl
    have hopen : eat? '[' b = none := by rw [eat?_eq_none_iff, hnext]; simp
    have hends : TypeEnds b := fun c hc => by rw [hnext] at hc; cases hc
    rw [scanType_of_spells hspells hinner hks hends (fun _ _ => hopen) (Nat.lt_succ_self _),
      scanBrackets_of_none hopen]
    simp only [hskip]

/-- A text is read exactly if the grammar derives it, and then as the type of the derivation in
which each pair of brackets belongs to the innermost type. So the tokens alone decide, not the
blanks. The reading ends by itself: no bound on its depth beyond twice the length of the text is
ever felt. -/
theorem parse_iff_spelled (input : String) :
    ((∃ t, parse input = .ok t) ↔ ∃ ks t, Written ks input.toList ∧ Spells ks t) ∧
    (∀ t, parse input = .ok t ↔
      ∃ ks, Written ks input.toList ∧ Spells ks t ∧ Innermost t) ∧
    (∀ ks t other, Spells ks t → Written ks input.toList → Written ks other.toList →
      ∃ u, parse input = .ok u ∧ parse other = .ok u) ∧
    ∀ depth, 2 * input.toList.length < depth →
      scanType depth input.toList = scanType (2 * input.toList.length + 1) input.toList := by
  refine ⟨?_, fun t => parse_eq_ok_iff, ?_, ?_⟩
  · constructor
    · rintro ⟨t, ht⟩
      obtain ⟨ks, hks, hspells, -⟩ := parse_eq_ok_iff.mp ht
      exact ⟨ks, t, hks, hspells⟩
    · rintro ⟨ks, t, hks, hspells⟩
      obtain ⟨t', hspells', hinner⟩ := exists_innermost hspells
      exact ⟨t', parse_eq_ok_iff.mpr ⟨ks, hks, hspells', hinner⟩⟩
  · intro ks t other hspells hks hother
    obtain ⟨u, hspells', hinner⟩ := exists_innermost hspells
    exact ⟨u, parse_eq_ok_iff.mpr ⟨ks, hks, hspells', hinner⟩,
      parse_eq_ok_iff.mpr ⟨ks, hother, hspells', hinner⟩⟩
  · intro depth hdepth
    exact (scan_depth depth).1 _ _ hdepth (Nat.lt_succ_self _)

def letterT : Identifier := ⟨'T', [], by decide, nofun⟩

theorem dense_bound_is_read :
    parse "?extendsT[]" = .ok (.wildcardExtends (.array (.var "T"))) ∧
      ∃ u, parse "?extendsT[]" = .ok u ∧ parse " ? extends T [ ] " = .ok u := by
  have hvar : VariableName letterT.chars := ⟨'T', [], rfl, by decide, nofun⟩
  have hspells : Spells [.question, .extendsWord, .ident letterT, .openBracket, .closeBracket]
      (.wildcardExtends (.array (.var "T"))) :=
    .wildcardExtends (.array (.name (.var hvar.not_keyword hvar)))
  have hdense : Written [.question, .extendsWord, .ident letterT, .openBracket, .closeBracket]
      "?extendsT[]".toList := by
    refine ⟨[], ?_, nofun⟩
    simp only [begins_cons_iff, begins_nil_iff]
    exact ⟨_, rfl, _, rfl, _, rfl, _, rfl, _, rfl, rfl⟩
  have hspaced : Written [.question, .extendsWord, .ident letterT, .openBracket, .closeBracket]
      " ? extends T [ ] ".toList := by
    refine ⟨[' '], ?_, by decide⟩
    simp only [begins_cons_iff, begins_nil_iff]
    exact ⟨_, rfl, _, rfl, _, rfl, _, rfl, _, rfl, rfl⟩
  have hinner : Innermost (.wildcardExtends (.array (.var "T"))) :=
    .wildcardExtends (.array (.var "T") nofun)
  exact ⟨((parse_iff_spelled _).2.1 _).mpr ⟨_, hdense, hspells, hinner⟩,
    (parse_iff_spelled _).2.2.1 _ _ _ hspells hdense hspaced⟩

end Companion.HostType
