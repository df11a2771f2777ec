import Companion.Proofs.HostType.Reading
import Mathlib.Tactic.Common

namespace Companion.HostType

open Text

variable {P Q : List Token → Prop} {ks : List Token} {s s' : List Char} {t : HostType}
  {depth : Nat} {reason : Expectation} {e : Stop}

inductive Expectation.Allows : Expectation → Token → Prop
  | identifier (i : Identifier) : Allows .identifier (.ident i)
  | closeBracket : Allows .closingBracket .closeBracket
  | closeAngle : Allows .closingAngle .closeAngle

def StopsAfter (ks : List Token) (s : List Char) (e : Stop) : Prop :=
  ∃ m, Begins ks s m ∧ e.rest = skipBlanks m

/-- With any missing token after them, the tokens begin something that satisfies `P`. -/
def Extends (P : List Token → Prop) (reason : Expectation) (ks : List Token) : Prop :=
  ∀ k, reason.Allows k → ∃ ls, P (ks ++ k :: ls)

/-- Reading stopped inside of something that satisfies `P`, whatever comes next. -/
def StopsIn (P : List Token → Prop) (s : List Char) (e : Stop) : Prop :=
  ∃ ks, StopsAfter ks s e ∧ e.reason ≠ .endOfText ∧ Extends P e.reason ks

def IsName (ks : List Token) : Prop := ∃ n : DottedName, n.tokens = ks

def IsType (ks : List Token) : Prop := ∃ t, Spells ks t

def IsClosedArgs (ks : List Token) : Prop := ∃ ls as, ks = ls ++ [.closeAngle] ∧ SpellsArgs ls as

theorem StopsIn.within (before after : List Token) (h : StopsIn P s e)
    (hbefore : Begins before s' s) (hP : ∀ ks, P ks → Q (before ++ (ks ++ after))) :
    StopsIn Q s' e := by
  obtain ⟨ks, ⟨m, hks, hrest⟩, hreason, hext⟩ := h
  have hstop : StopsAfter (before ++ ks) s' e :=
    ⟨m, begins_append_iff.mpr ⟨s, hbefore, hks⟩, hrest⟩
  refine ⟨before ++ ks, hstop, hreason, fun k hk => ?_⟩
  obtain ⟨ls, hls⟩ := hext k hk
  refine ⟨ls ++ after, ?_⟩
  have hQ := hP _ hls
  simpa only [List.append_assoc, List.cons_append] using hQ

theorem stopsIn_of_scanIdent (h : scanIdent s = .error e) : StopsIn IsName s e := by
  have hstop : e = ⟨.identifier, skipBlanks s⟩ := by
    rw [scanIdent] at h
    cases hs : skipBlanks s with
    | nil => rw [hs] at h; cases h; rfl
    | cons c m =>
        rw [hs] at h
        cases hc : isIdentStart c with
        | true => simp [hc] at h
        | false => simp only [hc, Bool.false_eq_true, if_false] at h; cases h; rfl
  subst hstop
  refine ⟨[], ⟨s, .nil, rfl⟩, by simp, fun k hk => ?_⟩
  cases hk with
  | identifier i => exact ⟨[], ⟨i, []⟩, rfl⟩

theorem stopsIn_of_scanName (h : scanName s = .error e) : StopsIn IsName s e := by
  fun_induction scanName s with
  | case1 s e' hi =>
      cases h
      exact stopsIn_of_scanIdent hi
  | case2 => cases h
  | case3 s w m hi m' hd e' he ih =>
      cases h
      obtain ⟨i, rfl, hfirst⟩ := begins_of_scanIdent hi
      have hbefore : Begins [.ident i, .dot] s m' :=
        begins_append_iff.mpr ⟨m, hfirst, (begins_cons_iff_eat? rfl).mpr ⟨m', hd, .nil⟩⟩
      refine (ih he).within _ [] hbefore ?_
      rintro _ ⟨⟨j, js⟩, rfl⟩
      exact ⟨⟨i, j :: js⟩, by rw [List.append_nil]; rfl⟩
  | case4 => cases h

theorem stopsIn_of_scanBrackets (h : scanBrackets t s = .error e) (hks : Begins ks s' s)
    (ht : Spells ks t) : StopsIn IsType s' e := by
  fun_induction scanBrackets t s generalizing ks with
  | case1 => cases h
  | case2 t s m hopen hclose =>
      cases h
      have hbracket : Begins [.openBracket] s m := (begins_cons_iff_eat? rfl).mpr ⟨m, hopen, .nil⟩
      refine ⟨ks ++ [.openBracket], ⟨m, begins_append_iff.mpr ⟨s, hks, hbracket⟩, rfl⟩, by simp, ?_⟩
      intro k hk
      cases hk with
      | closeBracket => exact ⟨[], .array t, by simpa using Spells.array ht⟩
  | case3 t s m hopen m' hclose ih =>
      have hbrackets : Begins [.openBracket, .closeBracket] s m' :=
        (begins_cons_iff_eat? rfl).mpr ⟨m, hopen, (begins_cons_iff_eat? rfl).mpr ⟨m', hclose, .nil⟩⟩
      exact ih h (begins_append_iff.mpr ⟨s, hks, hbrackets⟩) (.array ht)

inductive StopsBase (depth : Nat) (s : List Char) (e : Stop) : Prop
  | bound {m m'} (hq : eat? '?' s = some m) (hw : eatWord? "extends".toList m = some m')
      (hu : scanType depth m' = .error e)
  | name (hq : eat? '?' s = none) (hn : scanName s = .error e)
  | args {w m m'} (hn : scanName s = .ok (w, m)) (hopen : eat? '<' m = some m')
      (has : scanArgs depth m' = .error e)

theorem stops_of_scanType (h : scanType (depth + 1) s = .error e) :
    StopsBase depth s e ∨ ∃ c m, ScansBase depth s c m ∧ scanBrackets c m = .error e := by
  rw [scanType] at h
  cases hq : eat? '?' s with
  | some m =>
      simp only [hq] at h
      cases hw : eatWord? "extends".toList m with
      | none =>
          simp only [hw] at h
          exact .inr ⟨_, _, .wildcard hq hw, h⟩
      | some m' =>
          simp only [hw] at h
          cases hu : scanType depth m' with
          | error e' =>
              rw [hu] at h
              cases h
              exact .inl (.bound hq hw hu)
          | ok p =>
              rw [hu] at h
              exact .inr ⟨_, _, .wildcardExtends hq hw hu, h⟩
  | none =>
      simp only [hq] at h
      cases hn : scanName s with
      | error e' =>
          rw [hn] at h
          cases h
          exact .inl (.name hq hn)
      | ok p =>
          simp only [hn] at h
          cases hopen : eat? '<' p.2 with
          | none =>
              rw [hopen] at h
              exact .inr ⟨_, _, .name hq hn hopen, h⟩
          | some m' =>
              simp only [hopen] at h
              cases has : scanArgs depth m' with
              | error e' =>
                  rw [has] at h
                  cases h
                  exact .inl (.args hn hopen has)
              | ok q =>
                  rw [has] at h
                  exact .inr ⟨_, _, .parameterized hq hn hopen has, h⟩

theorem stops_of_scanArgs (h : scanArgs (depth + 1) s = .error e) :
    scanType depth s = .error e ∨ ∃ a m, scanType depth s = .ok (a, m) ∧
      ((∃ m', eat? ',' m = some m' ∧ scanArgs depth m' = .error e) ∨
        e = ⟨.closingAngle, skipBlanks m⟩) := by
  rw [scanArgs] at h
  cases ha : scanType depth s with
  | error e' =>
      rw [ha] at h
      cases h
      exact .inl rfl
  | ok p =>
      obtain ⟨a, m⟩ := p
      simp only [ha] at h
      refine .inr ⟨a, m, rfl, ?_⟩
      cases hcomma : eat? ',' m with
      | some m' =>
          simp only [hcomma] at h
          cases hlater : scanArgs depth m' with
          | error e' =>
              rw [hlater] at h
              cases h
              exact .inl ⟨m', rfl, hlater⟩
          | ok q =>
              rw [hlater] at h
              cases h
      | none =>
          simp only [hcomma] at h
          cases hclose : eat? '>' m with
          | none =>
              rw [hclose] at h
              cases h
              exact .inr rfl
          | some m' =>
              rw [hclose] at h
              cases h

def StoppedTypes (depth : Nat) : Prop :=
  ∀ s e, 2 * s.length < depth → scanType depth s = .error e → StopsIn IsType s e

def StoppedArgs (depth : Nat) : Prop :=
  ∀ s e, 2 * s.length + 1 < depth → scanArgs depth s = .error e → StopsIn IsClosedArgs s e

theorem stoppedTypes_succ (htypes : StoppedTypes depth) (hargs : StoppedArgs depth) :
    StoppedTypes (depth + 1) := by
  intro s e hdepth h
  obtain ⟨hspelled, hspelledArgs⟩ := spelled_of_depth depth
  rcases stops_of_scanType h with hstop | ⟨c, m, hbase, hbrackets⟩
  · cases hstop with
    | @bound m m' hq hw hu =>
        have hword : Begins [.extendsWord] m m' :=
          begins_singleton_iff.mpr (eatWord?_eq_some_iff.mp hw)
        have hlength := length_of_eat? hq
        have hlength' := length_of_begins hword
        have hbefore : Begins [.question, .extendsWord] s m' :=
          (begins_cons_iff_eat? rfl).mpr ⟨m, hq, hword⟩
        refine (htypes m' e (by omega) hu).within _ [] hbefore ?_
        rintro ks ⟨u, hspells⟩
        exact ⟨_, by rw [List.append_nil]; exact .wildcardExtends hspells⟩
    | name hq hn =>
        refine (stopsIn_of_scanName hn).within [] [] .nil ?_
        rintro _ ⟨n, rfl⟩
        exact ⟨_, by simpa using Spells.name (denotes_ofName n)⟩
    | @args w m m' hn hopen has =>
        obtain ⟨n, rfl, hname⟩ := begins_of_scanName hn
        have hlength := length_of_begins hname
        have hlength' := length_of_eat? hopen
        have hbefore : Begins (n.tokens ++ [.openAngle]) s m' :=
          begins_append_iff.mpr ⟨m, hname, (begins_cons_iff_eat? rfl).mpr ⟨m', hopen, .nil⟩⟩
        refine (hargs m' e (by omega) has).within _ [] hbefore ?_
        rintro _ ⟨ls, as, rfl, hspells⟩
        exact ⟨_, by simpa using Spells.parameterized hspells⟩
  · -- the type was read, so only its brackets can have stopped the reading
    obtain ⟨ks, hks, hspells, -⟩ := spells_of_scansBase hspelled hspelledArgs hbase
    exact stopsIn_of_scanBrackets hbrackets hks hspells

theorem stoppedArgs_succ (htypes : StoppedTypes depth) (hargs : StoppedArgs depth) :
    StoppedArgs (depth + 1) := by
  intro s e hdepth h
  rcases stops_of_scanArgs h with hfirst | ⟨a, m, ha, hrest⟩
  · refine (htypes s e (by omega) hfirst).within [] [.closeAngle] .nil ?_
    rintro ks ⟨t, hspells⟩
    exact ⟨ks, [t], rfl, .last hspells⟩
  · obtain ⟨ks, hks, hspells, -⟩ := (spelled_of_depth depth).1 s a m ha
    rcases hrest with ⟨m', hcomma, hlater⟩ | rfl
    · have hlength := length_of_begins hks
      have hlength' := length_of_eat? hcomma
      have hbefore : Begins (ks ++ [.comma]) s m' :=
        begins_append_iff.mpr ⟨m, hks, (begins_cons_iff_eat? rfl).mpr ⟨m', hcomma, .nil⟩⟩
      refine (hargs m' e (by omega) hlater).within _ [] hbefore ?_
      rintro _ ⟨ls, as, rfl, hothers⟩
      exact ⟨ks ++ .comma :: ls, a :: as, by simp, .cons hspells hothers⟩
    · refine ⟨ks, ⟨m, hks, rfl⟩, by simp, fun k hk => ?_⟩
      cases hk with
      | closeAngle => exact ⟨[], ks, [a], rfl, .last hspells⟩

theorem stopped_of_depth (depth : Nat) : StoppedTypes depth ∧ StoppedArgs depth := by
  induction depth with
  | zero => exact ⟨nofun, nofun⟩
  | succ depth ih => exact ⟨stoppedTypes_succ ih.1 ih.2, stoppedArgs_succ ih.1 ih.2⟩

theorem exists_eq_append_of_begins (h : Begins ks s m) :
    ∃ w, s = w ++ m ∧ ∀ r, Begins ks (w ++ r) r := by
  induction h with
  | nil => exact ⟨[], rfl, fun _ => .nil⟩
  | @cons k ks b s m hb h ih =>
      obtain ⟨w, rfl, hw⟩ := ih
      refine ⟨b ++ k.chars ++ w, by simp, fun r => ?_⟩
      rw [List.append_assoc _ w r]
      exact .cons hb (hw r)

theorem begins_flatMap_chars (ks : List Token) (r : List Char) :
    Begins ks (ks.flatMap Token.chars ++ r) r := by
  induction ks with
  | nil => exact .nil
  | cons k ks ih =>
      rw [List.flatMap_cons, List.append_assoc]
      exact .cons (List.forall_mem_nil _) ih

theorem StopsAfter.exists_before (h : StopsAfter ks s e) :
    ∃ before, s = before ++ e.rest ∧
      ∀ ls, Written (ks ++ ls) (before ++ ls.flatMap Token.chars) := by
  obtain ⟨m, hks, hrest⟩ := h
  obtain ⟨w, rfl, hw⟩ := exists_eq_append_of_begins hks
  obtain ⟨b, hb, hm⟩ := exists_blanks m
  refine ⟨w ++ b, by rw [hrest, List.append_assoc, ← hm], fun ls => ?_⟩
  rw [List.append_assoc]
  cases ls with
  | nil => exact ⟨b, by simpa using hw b, hb⟩
  | cons k ls =>
      have hls := Begins.cons (k := k) hb (begins_flatMap_chars ls [])
      refine ⟨[], begins_append_iff.mpr ⟨_, hw _, ?_⟩, List.forall_mem_nil _⟩
      simpa using hls

theorem exists_parse_of_written {ks : List Token} {input : String} (hks : Written ks input.toList)
    (h : IsType ks) : ∃ t, parse input = .ok t := by
  obtain ⟨t, hspells⟩ := h
  obtain ⟨t', hspells', hinner⟩ := exists_innermost hspells
  exact ⟨t', parse_eq_ok_iff.mpr ⟨ks, hks, hspells', hinner⟩⟩

theorem byteLength_append (v w : List Char) :
    byteLength (v ++ w) = byteLength v + byteLength w := by
  induction v with
  | nil => simp [byteLength]
  | cons c v ih => simp [byteLength, ih, Nat.add_assoc]

theorem byteLength_eq_utf8ByteSize (w : List Char) :
    byteLength w = (String.ofList w).utf8ByteSize := by
  induction w with
  | nil => rfl
  | cons c w ih =>
      rw [byteLength, ih, String.ofList_cons, String.utf8ByteSize_append,
        String.utf8ByteSize_singleton]

theorem scanWhole_error (h : scanWhole s = .error e) :
    (∃ ks, StopsAfter ks s e ∧ e.reason = .endOfText ∧ IsType ks) ∨ StopsIn IsType s e := by
  rw [scanWhole] at h
  cases hscan : scanType (2 * s.length + 1) s with
  | error e' =>
      rw [hscan] at h
      cases h
      exact .inr ((stopped_of_depth _).1 s e (Nat.lt_succ_self _) hscan)
  | ok p =>
      obtain ⟨t, m⟩ := p
      obtain ⟨ks, hks, hspells, -⟩ := (spelled_of_depth _).1 s t m hscan
      rw [hscan] at h
      cases hm : skipBlanks m with
      | nil =>
          simp only [hm] at h
          cases h
      | cons c r =>
          simp only [hm] at h
          cases h
          exact .inl ⟨ks, ⟨m, hks, hm.symm⟩, rfl, t, hspells⟩

/-- A text that can be continued with what is missing after it so that a type is read. -/
def Expectation.Continues (before : String) : Expectation → Prop
  | .identifier => ∀ i : Identifier, ∃ more t, parse (before ++ i.text ++ more) = .ok t
  | .closingBracket => ∃ more t, parse (before ++ "]" ++ more) = .ok t
  | .closingAngle => ∃ more t, parse (before ++ ">" ++ more) = .ok t
  | .endOfText => ∃ t, parse before = .ok t

theorem exists_continuation {before : List Char} {k : Token} {missing : String}
    (hwritten : ∀ ls, Written (ks ++ ls) (before ++ ls.flatMap Token.chars))
    (hext : Extends IsType reason ks) (hk : reason.Allows k) (hm : missing.toList = k.chars) :
    ∃ more t, parse (String.ofList before ++ missing ++ more) = .ok t := by
  obtain ⟨ls, htype⟩ := hext k hk
  refine ⟨String.ofList (ls.flatMap Token.chars), exists_parse_of_written ?_ htype⟩
  have h := hwritten (k :: ls)
  rw [List.flatMap_cons] at h
  simpa only [String.toList_append, String.toList_ofList, hm, List.append_assoc] using h

theorem continues_of_scanWhole (h : scanWhole s = .error e) :
    ∃ before, s = before ++ e.rest ∧ e.reason.Continues (String.ofList before) := by
  rcases scanWhole_error h with ⟨ks, hstop, hreason, htype⟩ | ⟨ks, hstop, hreason, hext⟩
  · obtain ⟨before, hs, hwritten⟩ := hstop.exists_before
    refine ⟨before, hs, ?_⟩
    rw [hreason]
    have h := hwritten []
    rw [List.append_nil, List.flatMap_nil, List.append_nil] at h
    exact exists_parse_of_written (by rwa [String.toList_ofList]) htype
  · obtain ⟨before, hs, hwritten⟩ := hstop.exists_before
    refine ⟨before, hs, ?_⟩
    cases hmissing : e.reason with
    | identifier =>
        rw [hmissing] at hext
        exact fun i => exists_continuation hwritten hext (.identifier i) String.toList_ofList
    | closingBracket =>
        rw [hmissing] at hext
        exact exists_continuation hwritten hext .closeBracket rfl
    | closingAngle =>
        rw [hmissing] at hext
        exact exists_continuation hwritten hext .closeAngle rfl
    | endOfText => exact absurd hmissing hreason

theorem not_blank_of_scanWhole (h : scanWhole s = .error e) :
    ∀ c ∈ e.rest.head?, isBlank c = false := by
  have hrest : ∃ ks, StopsAfter ks s e := by
    rcases scanWhole_error h with ⟨ks, hstop, -⟩ | ⟨ks, hstop, -⟩
    · exact ⟨ks, hstop⟩
    · exact ⟨ks, hstop⟩
  obtain ⟨ks, m, -, hm⟩ := hrest
  intro c hc
  have hnot := List.head?_dropWhile_not isBlank m
  rw [hm, skipBlanks, Option.mem_def] at hc
  rwa [hc] at hnot

/-- A text that cannot be read is refused at a place on a boundary of its characters, at its end or
in front of one that is not blank. The text before that place can be continued with what is missing
there so that a type is read, or it is read as a type itself if the text should have ended. -/
theorem refused_where_text_continues {input : String} {e : SpellingError}
    (h : parse input = .error e) :
    e.input = input ∧ e.offset ≤ input.utf8ByteSize ∧ String.Pos.Raw.IsValid input ⟨e.offset⟩ ∧
    ∃ before after, input = before ++ after ∧ e.offset = before.utf8ByteSize ∧
      (∀ c ∈ after.toList.head?, isBlank c = false) ∧ e.reason.Continues before := by
  rw [parse] at h
  cases hstop : scanWhole input.toList with
  | ok t => rw [hstop] at h; cases h
  | error stop =>
      rw [hstop] at h
      cases h
      obtain ⟨before, hsplit, hcontinues⟩ := continues_of_scanWhole hstop
      have hinput : input = String.ofList before ++ String.ofList stop.rest := by
        rw [← String.ofList_append, ← hsplit, String.ofList_toList]
      have hoffset : byteLength input.toList - byteLength stop.rest =
          (String.ofList before).utf8ByteSize := by
        rw [hsplit, byteLength_append, Nat.add_sub_cancel, byteLength_eq_utf8ByteSize]
      refine ⟨rfl, ?_, ?_, String.ofList before, String.ofList stop.rest, hinput, hoffset, ?_,
        hcontinues⟩
      · change byteLength input.toList - byteLength stop.rest ≤ input.utf8ByteSize
        rw [hoffset, hinput, String.utf8ByteSize_append]
        exact Nat.le_add_right _ _
      · rw [String.Pos.Raw.isValid_iff_exists_append]
        exact ⟨_, _, hinput, congrArg String.Pos.Raw.mk hoffset⟩
      · rw [String.toList_ofList]
        exact not_blank_of_scanWhole hstop

theorem lower_bound_is_refused :
    parse "a.É<b[], ? super T>" = .error ⟨"a.É<b[], ? super T>", 12, .closingAngle⟩ ∧
      String.Pos.Raw.IsValid "a.É<b[], ? super T>" ⟨12⟩ ∧
      ∃ before after, "a.É<b[], ? super T>" = before ++ after ∧ 12 = before.utf8ByteSize ∧
        (∀ c ∈ after.toList.head?, isBlank c = false) ∧
        ∃ more t, parse (before ++ ">" ++ more) = .ok t := by
  have h : parse "a.É<b[], ? super T>" = .error ⟨"a.É<b[], ? super T>", 12, .closingAngle⟩ := by
    decide +kernel
  obtain ⟨-, -, hvalid, hcontinues⟩ := refused_where_text_continues h
  exact ⟨h, hvalid, hcontinues⟩

end Companion.HostType
