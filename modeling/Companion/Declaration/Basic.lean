import Companion.HostType.Basic

namespace Companion

inductive Visibility where
  | publicMember
  | protectedMember
  | packageMember
  | privateMember
  deriving DecidableEq, Repr

namespace Visibility

def isPublic (v : Visibility) : Bool := v == publicMember

def isForConstruction (v : Visibility) : Bool := v == publicMember || v == protectedMember

/-- The companion stands in the package of its model and reaches all but private members. -/
def isReachable (v : Visibility) : Bool := v != privateMember

def text : Visibility → String
  | publicMember => "public"
  | protectedMember => "protected"
  | packageMember => "package-private"
  | privateMember => "private"

end Visibility

inductive DeclarationKind where
  | classType | interfaceType | enumType | annotationType
  deriving DecidableEq, Repr

def DeclarationKind.text : DeclarationKind → String
  | classType => "class"
  | interfaceType => "interface"
  | enumType => "enum"
  | annotationType => "annotation"

structure Field where
  name : String
  type : HostType
  visibility : Visibility := .packageMember
  deriving DecidableEq, Repr

structure Parameter where
  name : String
  type : HostType
  deriving DecidableEq, Repr

structure Method where
  name : String
  params : List Parameter := []
  returns : Option HostType := none
  visibility : Visibility := .packageMember
  isStatic : Bool := false
  deriving DecidableEq, Repr

structure Constructor where
  params : List Parameter := []
  visibility : Visibility := .packageMember
  deriving DecidableEq, Repr

def Constructor.implicit : Constructor := { visibility := .publicMember }

structure Declaration where
  name : String
  package : Option String := none
  kind : DeclarationKind := .classType
  annotated : Bool := false
  typeParams : List String := []
  supertypes : List HostType := []
  fields : List Field := []
  /-- The constructors, if they are listed at all; an empty list means that there are none. -/
  constructors : Option (List Constructor) := none
  methods : List Method := []
  deriving DecidableEq, Repr

namespace Declaration

def beforeLastDot (s : List Char) : List Char := ((s.reverse.dropWhile (· != '.')).drop 1).reverse

def packageName (d : Declaration) : String :=
  d.package.getD (String.ofList (beforeLastDot d.name.toList))

def allConstructors (d : Declaration) : List Constructor :=
  match d.constructors with
  | some cs => cs
  | none => if d.kind = .classType then [.implicit] else []

end Declaration

def splitDots : List Char → List (List Char)
  | [] => [[]]
  | c :: s =>
    if c = '.' then [] :: splitDots s
    else
      match splitDots s with
      | w :: ws => (c :: w) :: ws
      | [] => [[c]]

/-- The name of a declaration inside its package. A name that is not in the package is kept. -/
def localName (package name : List Char) : List Char :=
  if package.isEmpty then name
  else if (package ++ ['.']).isPrefixOf name then name.drop (package.length + 1)
  else name

def simpleNames (package name : String) : List String :=
  (splitDots (localName package.toList name.toList)).map String.ofList

end Companion
