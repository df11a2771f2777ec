import Companion.Hierarchy.Assignable
import Companion.Proofs.Hierarchy.Search

namespace Companion.Hierarchy

open HostType

variable {h : Hierarchy} {name : String} {bs : List HostType}

theorem isAssignable_self (h : Hierarchy) (t : HostType) : h.isAssignable t t = true := by
  cases t with
  | primitive | declared | array | wildcard | wildcardExtends | var => simp [isAssignable]

theorem holds_self (h : Hierarchy) (a : HostType) : h.holds a a = true := by
  cases a with
  | wildcardExtends u => simp [holds, isAssignable_self]
  | primitive | declared | array | wildcard | var => simp [holds]

theorem holdsAll_self (h : Hierarchy) (as : List HostType) : h.holdsAll as as = true := by
  induction as with
  | nil => rw [holdsAll]
  | cons a as ih => rw [holdsAll, holds_self, ih, Bool.and_self]

theorem isAssignable_declared (hn : name ≠ Platform.object) (n : String) (as : List HostType) :
    h.isAssignable (.declared n as) (.declared name bs) =
      (h.view (.declared n as) name).any fun v =>
        bs.isEmpty || v.args.isEmpty || h.holdsAll v.args bs := by
  by_cases heq : declared n as = .declared name bs
  · rw [heq, isAssignable_self, view_self]
    simp [args, holdsAll_self]
  · have hobj : (name == Platform.object) = false := by simpa using hn
    rw [isAssignable, if_neg heq]
    simp only [hobj, Bool.false_and, Bool.false_or]
    cases h.view (.declared n as) name with
    | none => rfl
    | some v => rfl

theorem isAssignable_raw (hn : name ≠ Platform.object) (n : String) (as : List HostType) :
    h.isAssignable (.declared n as) (.declared name []) =
      (h.view (.declared n as) name).isSome := by
  rw [isAssignable_declared hn]
  cases h.view (.declared n as) name with
  | none => rfl
  | some v => rfl

theorem isAssignable_array (hn : name ≠ Platform.object) (c : HostType) :
    h.isAssignable (.array c) (.declared name bs) =
      (name == Platform.serializable || name == Platform.cloneable) := by
  have hobj : (name == Platform.object) = false := by simpa using hn
  rw [isAssignable, if_neg (by simp)]
  simp only [hobj, Bool.false_and, Bool.false_or]

theorem isAssignable_wildcardExtends (hn : name ≠ Platform.object) (u : HostType) :
    h.isAssignable (.wildcardExtends u) (.declared name bs) =
      h.isAssignable u (.declared name bs) := by
  have hobj : (name == Platform.object) = false := by simpa using hn
  rw [isAssignable, if_neg (by simp)]
  simp only [hobj, Bool.false_and, Bool.false_or]

theorem isAssignable_primitive (h : Hierarchy) (p : Primitive) (name : String)
    (bs : List HostType) : h.isAssignable (.primitive p) (.declared name bs) = false := by
  simp [isAssignable]

theorem isAssignable_wildcard (hn : name ≠ Platform.object) :
    h.isAssignable .wildcard (.declared name bs) = false := by
  simp [isAssignable, hn]

theorem isAssignable_var (hn : name ≠ Platform.object) (v : String) :
    h.isAssignable (.var v) (.declared name bs) = false := by
  simp [isAssignable, hn]

theorem holds_wildcardExtends (hn : name ≠ Platform.object) (a : HostType) :
    h.holds a (.wildcardExtends (.declared name bs)) = h.isAssignable a (.declared name bs) := by
  cases a with
  | wildcardExtends u => rw [holds, isAssignable_wildcardExtends hn]
  | wildcard =>
      rw [holds, isAssignable_wildcard hn]
      simpa [rawName?] using hn
  | primitive | declared | array | var => simp [holds]

theorem holds_declared (h : Hierarchy) (a : HostType) (name : String) (bs : List HostType) :
    h.holds a (.declared name bs) = decide (a = .declared name bs) := by
  simp [holds, beq_eq_decide]

end Companion.Hierarchy
