import Companion.Vocabulary.Primitive

namespace Companion

inductive HostType where
  | primitive (kind : Primitive)
  | declared (name : String) (args : List HostType)
  | array (component : HostType)
  | wildcard
  | wildcardExtends (upper : HostType)
  | var (name : String)
  deriving Repr, Inhabited

namespace HostType

/-- Induction in which the arguments of a declared type all satisfy the motive. -/
@[elab_as_elim, induction_eliminator]
theorem inductArgs {motive : HostType → Prop}
    (primitive : ∀ p, motive (.primitive p))
    (declared : ∀ n args, (∀ a ∈ args, motive a) → motive (.declared n args))
    (array : ∀ c, motive c → motive (.array c))
    (wildcard : motive .wildcard)
    (wildcardExtends : ∀ u, motive u → motive (.wildcardExtends u))
    (var : ∀ n, motive (.var n)) (t : HostType) : motive t :=
  @HostType.rec motive (fun args => ∀ a ∈ args, motive a)
    primitive declared array wildcard wildcardExtends var
    (fun _ h => nomatch h)
    (fun _ _ hd tl _ h => (List.mem_cons.mp h).elim (fun e => e ▸ hd) (tl _)) t

mutual

def same : HostType → HostType → Bool
  | .primitive p, .primitive q => p == q
  | .declared n as, .declared m bs => n == m && sameAll as bs
  | .array c, .array d => same c d
  | .wildcard, .wildcard => true
  | .wildcardExtends u, .wildcardExtends v => same u v
  | .var n, .var m => n == m
  | _, _ => false

def sameAll : List HostType → List HostType → Bool
  | [], [] => true
  | a :: as, b :: bs => same a b && sameAll as bs
  | _, _ => false

end

theorem same_iff (a b : HostType) : same a b = true ↔ a = b := by
  induction a generalizing b with
  | declared n as ih =>
    cases b with
    | declared m bs =>
      have h : ∀ (bs), sameAll as bs = true ↔ as = bs := by
        clear bs
        induction as with
        | nil => intro bs; cases bs <;> simp [sameAll]
        | cons a as ihs =>
          intro bs
          cases bs with
          | nil => simp [sameAll]
          | cons b bs =>
            simp [sameAll, ih a (by simp) b, ihs (fun x hx => ih x (by simp [hx])) bs]
      simp [same, h bs]
    | _ => simp [same]
  | array c ih => cases b <;> simp [same, ih]
  | wildcardExtends u ih => cases b <;> simp [same, ih]
  | _ => cases b <;> simp [same]

instance : DecidableEq HostType := fun a b => decidable_of_iff _ (same_iff a b)

def rawName? : HostType → Option String
  | .declared n _ => some n
  | _ => none

def args : HostType → List HostType
  | .declared _ as => as
  | _ => []

def onlyArg? (t : HostType) : Option HostType :=
  match t.args with
  | [a] => some a
  | _ => none

def component? : HostType → Option HostType
  | .array c => some c
  | _ => none

def isPrimitive : HostType → Bool
  | .primitive _ => true
  | _ => false

def erasure : HostType → HostType
  | .declared n _ => .declared n []
  | t => t

/-- The spelling under which a catalog can list the type: a keyword, or the name of a declared type
without arguments. -/
def catalogSpelling? : HostType → Option String
  | .primitive p => some p.keyword
  | .declared n [] => some n
  | _ => none

/-- Images of type variables; the first image given for a variable counts. -/
abbrev Bindings := List (String × HostType)

mutual

/-- The type with every bound variable replaced by its image, all at once. -/
def substitute (b : Bindings) : HostType → HostType
  | .var n => (b.lookup n).getD (.var n)
  | .declared n as => .declared n (substituteAll b as)
  | .array c => .array (substitute b c)
  | .wildcardExtends u => .wildcardExtends (substitute b u)
  | .wildcard => .wildcard
  | .primitive p => .primitive p

def substituteAll (b : Bindings) : List HostType → List HostType
  | [] => []
  | a :: as => substitute b a :: substituteAll b as

end

theorem substituteAll_eq_map (b : Bindings) (as : List HostType) :
    substituteAll b as = as.map (substitute b) := by
  induction as with
  | nil => rfl
  | cons a as ih => simp [substituteAll, ih]

mutual

def text : HostType → String
  | .primitive p => p.keyword
  | .declared n [] => n
  | .declared n (a :: as) => n ++ "<" ++ text a ++ textRest as ++ ">"
  | .array c => text c ++ "[]"
  | .wildcard => "?"
  | .wildcardExtends u => "? extends " ++ text u
  | .var n => n

def textRest : List HostType → String
  | [] => ""
  | a :: as => ", " ++ text a ++ textRest as

end

end HostType

end Companion
