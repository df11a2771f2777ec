import Companion.Proofs.Json.Reading

namespace Companion.Json

namespace Record

variable {α : Type}

/-- The members of an object, none of them named twice, turn a record into another. -/
inductive Fills (d : Record α) : List String → α → List (String × Json) → α → Prop
  | done {seen : List String} {a : α} : Fills d seen a [] a
  | store {seen : List String} {a b c : α} {k : String} {v : Json} {ms : List (String × Json)}
      {slot : Slot α} (hslot : d.slots.find? (·.name == k) = some slot)
      (hnew : seen.contains k = false) (hread : Reads (slot.read a) v b)
      (hms : Fills d (k :: seen) b ms c) : Fills d seen a ((k, v) :: ms) c

end Record

theorem Reads.field {α β : Type} {read : Reader β} {v : Json} {b : β} (h : Reads read v b)
    (name : String) (store : α → β → α) (a : α) :
    Reads ((Slot.field name read store).read a) v (store a b) := by
  intro s u r hs hv hr
  change (read s).map _ = _
  rw [h s u r hs hv hr]
  rfl

namespace Record.Fills

variable {α β : Type} {d : Record α} {seen : List String} {a c : α} {b : β} {k name : String}
  {v : Json} {ms : List (String × Json)} {read : Reader β} {store : α → β → α}

theorem field (hslot : d.slots.find? (·.name == k) = some (.field name read store))
    (hnew : seen.contains k = false) (h : Reads read v b)
    (hms : Fills d (k :: seen) (store a b) ms c) : Fills d seen a ((k, v) :: ms) c :=
  .store hslot hnew (h.field name store a) hms

theorem required (hslot : d.slots.find? (·.name == k) = some (Slot.field name read store).require)
    (hnew : seen.contains k = false) (h : Reads read v b)
    (hms : Fills d (k :: seen) (store a b) ms c) : Fills d seen a ((k, v) :: ms) c :=
  .store hslot hnew (h.field name store a) hms

end Record.Fills

section Keys

variable {k : String} {s t : List Char}

theorem readKey_of_spells (h : SpellsKey k s t) :
    ∃ u, readKey s = .ok (k, u) ∧ colon u = .ok t := by
  obtain @⟨_, u, hopen, hk, hcolon⟩ := h
  refine ⟨u, ?_, ?_⟩
  · rw [readKey, hopen]
    exact stringRest_of_spells hk
  · rw [colon, hcolon]
    rfl

theorem nextKey_true (h : SpellsKey k s t) :
    ∃ u, nextKey true s = .ok (some (k, u)) ∧ colon u = .ok t := by
  obtain @⟨w, _, hopen, hk, hcolon⟩ := h
  have hagain : SpellsKey k ('\"' :: w) t := ⟨skipBlanks_of_not_blank rfl, hk, hcolon⟩
  obtain ⟨u, hu, hcolon⟩ := readKey_of_spells hagain
  refine ⟨u, ?_, hcolon⟩
  rw [nextKey, hopen]
  change (readKey ('\"' :: w)).map some = _
  rw [hu]
  rfl

theorem nextKey_false {w : List Char} (hw : skipBlanks w = ',' :: s) (h : SpellsKey k s t) :
    ∃ u, nextKey false w = .ok (some (k, u)) ∧ colon u = .ok t := by
  obtain ⟨u, hu, hcolon⟩ := readKey_of_spells h
  refine ⟨u, ?_, hcolon⟩
  rw [nextKey, hw]
  change (readKey s).map some = _
  rw [hu]
  rfl

theorem nextKey_close {first : Bool} {r : List Char} (hs : skipBlanks s = '\x7d' :: r) :
    nextKey first s = .ok none := by
  rw [nextKey, hs]
  rfl

end Keys

namespace Record

variable {α : Type} {d : Record α} {seen : List String} {a b c : α} {ms : List (String × Json)}

theorem readMembers_close {n : Nat} {first : Bool} {s r : List Char}
    (hs : skipBlanks s = '\x7d' :: r) :
    d.readMembers (n + 1) seen first a s = .ok ((a, seen), s) := by
  rw [readMembers, nextKey_close hs]
  rfl

theorem readMembers_succ {n : Nat} {first : Bool} {k : String} {slot : Slot α}
    {w u t r : List Char} {result : (α × List String) × List Char}
    (hkey : nextKey first w = .ok (some (k, u))) (hcolon : colon u = .ok t)
    (hslot : d.slots.find? (·.name == k) = some slot) (hnew : seen.contains k = false)
    (hread : slot.read a t = .ok (b, r))
    (hrest : d.readMembers n (k :: seen) false b r = .ok result) :
    d.readMembers (n + 1) seen first a w = .ok result := by
  rw [readMembers]
  simp only [hkey, hcolon, hslot, hnew, hread, hrest, bind, Except.bind, Bool.false_eq_true,
    if_false]

theorem readMembers_of_fills (hf : Fills d seen a ms c) {n : Nat} {first : Bool}
    {w s r : List Char}
    (hw : ∀ k t, SpellsKey k s t → ∃ u, nextKey first w = .ok (some (k, u)) ∧ colon u = .ok t)
    (h : SpellsMembers ms s r) :
    ∃ t, d.readMembers (n + ms.length + 1) seen first a w =
        .ok ((c, (ms.map (·.1)).reverse ++ seen), t) ∧ skipBlanks t = '\x7d' :: r := by
  induction hf generalizing first w s with
  | done => cases h
  | @store seen a b c k v ms slot hslot hnew hread hms ih =>
      rw [List.map_cons, List.reverse_cons, List.append_assoc, List.length_cons]
      cases h with
      | @last _ _ _ t u _ hk hv hclose =>
          obtain ⟨p, hkey, hcolon⟩ := hw k t hk
          cases hms with
          | done =>
              exact ⟨u, readMembers_succ hkey hcolon hslot hnew
                (hread t _ u rfl hv (valueEnds_of_separator hclose rfl))
                (readMembers_close hclose), hclose⟩
      | @cons _ _ _ _ t u x _ hk hv hcomma hrest =>
          obtain ⟨p, hkey, hcolon⟩ := hw k t hk
          obtain ⟨q, hq, hclose⟩ := ih (fun _ _ => nextKey_false hcomma) hrest
          exact ⟨q, readMembers_succ hkey hcolon hslot hnew
            (hread t _ u rfl hv (valueEnds_of_separator hcomma rfl)) hq, hclose⟩

theorem reads_object (hf : Fills d [] d.blank ms a)
    (hmissing : d.missing? (ms.map (·.1)).reverse = none) : Reads d.read (.object ms) a := by
  intro s u r hs h _
  have hloop : ∀ w t, u = '\x7b' :: w →
      d.readMembers (w.length + 1) [] true d.blank w = .ok ((a, (ms.map (·.1)).reverse), t) →
      skipBlanks t = '\x7d' :: r → d.read s = .ok (a, r) := by
    intro w t hw ht hclose
    rw [read, hs, hw]
    simp only [ht, hmissing, closing_of_skipBlanks hclose, bind, Except.bind]
    rfl
  cases h with
  | @emptyObject w _ hclose =>
      cases hf with
      | done => exact hloop w w rfl (readMembers_close hclose) hclose
  | @object _ w _ h =>
      have hlength := h.length_le
      obtain ⟨t, ht, hclose⟩ :=
        @readMembers_of_fills _ _ _ _ _ _ hf (w.length - ms.length) true w w r
          (fun _ _ => nextKey_true) h
      rw [List.append_nil, Nat.sub_add_cancel (by omega)] at ht
      exact hloop w t rfl ht hclose

end Record

end Companion.Json
