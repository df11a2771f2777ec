import Companion.Json.Reader
import Companion.Proofs.Except

namespace Companion.Json

/-- Whatever the reader reads has the property. -/
def Yields {α : Type} (read : Reader α) (P : α → Prop) : Prop :=
  ∀ s a r, read s = .ok (a, r) → P a

def Slot.Keeps {α : Type} (slot : Slot α) (P : α → Prop) : Prop :=
  ∀ a, P a → Yields (slot.read a) P

section Readers

variable {α β : Type} {read : Reader α} {P : α → Prop}

theorem yields_parsed {parse : String → Except String α} (h : ∀ t a, parse t = .ok a → P a) :
    Yields (readParsed parse) P := by
  intro s a r hs
  unfold readParsed at hs
  obtain ⟨⟨t, u⟩, -, hs⟩ := bind_ok_iff.mp hs
  dsimp only at hs
  cases ht : parse t with
  | error reason =>
      rw [ht] at hs
      cases hs
  | ok b =>
      rw [ht] at hs
      cases hs
      exact h t a ht

theorem yields_optional (h : Yields read P) :
    Yields (readOptional read) fun o => ∀ a ∈ o, P a := by
  intro s o r hs a ha
  unfold readOptional at hs
  split at hs
  · obtain ⟨w, -, hw⟩ := map_ok_iff.mp hs
    cases hw
    cases ha
  · obtain ⟨⟨b, w⟩, hb, hw⟩ := map_ok_iff.mp hs
    cases hw
    cases ha
    exact h _ b w hb

theorem yields_elements (h : Yields read P) (n : Nat) (first : Bool) :
    Yields (readElements read n first) fun as => ∀ a ∈ as, P a := by
  induction n generalizing first with
  | zero =>
      intro s as r hs
      cases hs
  | succ n ih =>
      intro s as r hs
      rw [readElements] at hs
      obtain ⟨next, -, hs⟩ := bind_ok_iff.mp hs
      cases next with
      | none =>
          cases hs
          exact nofun
      | some t =>
          obtain ⟨⟨a, u⟩, ha, hs⟩ := bind_ok_iff.mp hs
          obtain ⟨⟨bs, w⟩, hbs, hs⟩ := bind_ok_iff.mp hs
          cases hs
          exact List.forall_mem_cons.mpr ⟨h t a u ha, ih false u bs _ hbs⟩

theorem yields_list (h : Yields read P) : Yields (readList read) fun as => ∀ a ∈ as, P a := by
  intro s as r hs
  unfold readList at hs
  split at hs
  · obtain ⟨⟨bs, u⟩, hbs, hs⟩ := bind_ok_iff.mp hs
    obtain ⟨w, -, hs⟩ := bind_ok_iff.mp hs
    cases hs
    exact yields_elements h _ true _ _ u hbs
  · cases hs

theorem Yields.of_readDocument (h : Yields read P) {source : String} {a : α}
    (ha : readDocument read source = .ok a) : P a := by
  obtain ⟨⟨b, r⟩, hb, ha⟩ := bind_ok_iff.mp ha
  change (if (skipBlanks r).isEmpty then _ else _) = _ at ha
  split at ha
  · cases ha
    exact h _ a r hb
  · cases ha

end Readers

section Records

variable {α β : Type} {P : α → Prop}

theorem keeps_field {read : Reader β} {Q : β → Prop} {name : String} {store : α → β → α}
    (h : Yields read Q) (hstore : ∀ a b, P a → Q b → P (store a b)) :
    (Slot.field name read store).Keeps P := by
  intro a ha s c r hs
  obtain ⟨⟨b, u⟩, hb, hc⟩ := map_ok_iff.mp hs
  cases hc
  exact hstore a b ha (h s b u hb)

theorem keeps_field_of_forall {read : Reader β} {name : String} {store : α → β → α}
    (hstore : ∀ a b, P a → P (store a b)) : (Slot.field name read store).Keeps P :=
  @keeps_field _ _ _ read (fun _ => True) _ _ (fun _ _ _ _ => trivial) fun a b ha _ => hstore a b ha

theorem Slot.Keeps.require {slot : Slot α} (h : slot.Keeps P) : slot.require.Keeps P := h

variable {d : Record α}

theorem Record.yields_members (h : ∀ slot ∈ d.slots, slot.Keeps P) {a : α} (ha : P a) (n : Nat)
    (seen : List String) (first : Bool) :
    Yields (d.readMembers n seen first a) fun p => P p.1 := by
  induction n generalizing seen first a with
  | zero =>
      intro s as r hs
      cases hs
  | succ n ih =>
      intro s p r hs
      rw [readMembers] at hs
      obtain ⟨next, -, hs⟩ := bind_ok_iff.mp hs
      cases next with
      | none =>
          cases hs
          exact ha
      | some next =>
          obtain ⟨key, t⟩ := next
          dsimp only at hs
          cases hslot : d.slots.find? (·.name == key) with
          | none =>
              rw [hslot] at hs
              obtain ⟨-, hs⟩ := refuse_ok_iff.mp hs
              obtain ⟨u, -, hs⟩ := bind_ok_iff.mp hs
              obtain ⟨w, -, hs⟩ := bind_ok_iff.mp hs
              exact ih ha seen false w p r hs
          | some slot =>
              rw [hslot] at hs
              obtain ⟨-, hs⟩ := refuse_ok_iff.mp hs
              obtain ⟨u, -, hs⟩ := bind_ok_iff.mp hs
              obtain ⟨⟨b, w⟩, hb, hs⟩ := bind_ok_iff.mp hs
              have hmem := List.mem_of_find?_eq_some hslot
              exact ih (h slot hmem a ha u b w hb) (key :: seen) false w p r hs

theorem Record.yields_slots {slots : List (Slot α)} (h : ∀ slot ∈ slots, slot.Keeps P) {a : α}
    (ha : P a) (seen : List String) (first : Bool) :
    Yields (readSlots slots seen first a) fun p => P p.1 := by
  induction slots generalizing seen first a with
  | nil =>
      intro s p r hs
      cases hs
      exact ha
  | cons slot slots ih =>
      intro s p r hs
      rw [readSlots] at hs
      obtain ⟨next, -, hs⟩ := bind_ok_iff.mp hs
      cases next with
      | none =>
          cases hs
          exact ha
      | some t =>
          obtain ⟨⟨b, u⟩, hb, hs⟩ := bind_ok_iff.mp hs
          rw [List.forall_mem_cons] at h
          exact ih h.2 (h.1 a ha t b u hb) _ false u p r hs

theorem Record.yields_read (hblank : P d.blank) (h : ∀ slot ∈ d.slots, slot.Keeps P) :
    Yields d.read P := by
  intro s a r hs
  rw [read] at hs
  split at hs
  · obtain ⟨⟨⟨b, seen⟩, u⟩, hb, hs⟩ := bind_ok_iff.mp hs
    have hkept := yields_members h hblank _ _ _ _ _ u hb
    dsimp only at hs
    split at hs
    · cases hs
    · obtain ⟨w, -, hs⟩ := bind_ok_iff.mp hs
      cases hs
      exact hkept
  · obtain ⟨⟨⟨b, seen⟩, u⟩, hb, hs⟩ := bind_ok_iff.mp hs
    have hkept := yields_slots h hblank _ _ _ _ u hb
    dsimp only at hs
    split at hs
    · cases hs
    · obtain ⟨w, -, hs⟩ := bind_ok_iff.mp hs
      cases hs
      exact hkept
  · cases hs

end Records

end Companion.Json
