import MarkupQuery.Markup.Tree

/-! Nodes by position. A node is a document of the library and the child positions that lead to
it from the document's root, so ancestors are prefixes and document order is lexicographic. -/

namespace MarkupQuery

open Markup

structure Node where
  document : Nat
  path : List Nat
  deriving DecidableEq, Repr

structure Library where
  documents : List Document

namespace Node

def root (document : Nat) : Node := ⟨document, []⟩

def isRoot (n : Node) : Bool := n.path.isEmpty

def parent? (n : Node) : Option Node :=
  if n.path.isEmpty then none else some ⟨n.document, n.path.dropLast⟩

def child (n : Node) (i : Nat) : Node := ⟨n.document, n.path ++ [i]⟩

def properPrefixes : List Nat → List (List Nat)
  | [] => []
  | i :: path => (properPrefixes path).map (i :: ·) ++ [[]]

def ancestors (n : Node) : List Node := (properPrefixes n.path).map (⟨n.document, ·⟩)

def isProperPrefix : List Nat → List Nat → Bool
  | [], [] => false
  | [], _ :: _ => true
  | _ :: _, [] => false
  | i :: p, j :: q => i == j && isProperPrefix p q

def isAncestorOf (a n : Node) : Bool :=
  a.document == n.document && isProperPrefix a.path n.path

def pathLe : List Nat → List Nat → Bool
  | [], _ => true
  | _ :: _, [] => false
  | i :: p, j :: q => i < j || (i == j && pathLe p q)

end Node

namespace Library

variable (lib : Library)

def document? (d : Nat) : Option Document := lib.documents[d]?

def dialect (d : Nat) : Dialect :=
  match lib.document? d with
  | some doc => doc.dialect
  | none => .html

def tree? (n : Node) : Option Tree :=
  match lib.document? n.document with
  | some doc => doc.root.descend n.path
  | none => none

def Holds (n : Node) : Prop := (lib.tree? n).isSome

def isTag (n : Node) : Bool :=
  match lib.tree? n with
  | some t => t.isElement
  | none => false

def isElement (n : Node) : Bool := !n.isRoot && lib.isTag n

def childCount (n : Node) : Nat :=
  match lib.tree? n with
  | some t => t.children.length
  | none => 0

def childNodes (n : Node) : List Node := (List.range (lib.childCount n)).map n.child

def childElements (n : Node) : List Node := (lib.childNodes n).filter lib.isTag

def following (n : Node) : List Node :=
  match n.parent?, n.path.getLast? with
  | some p, some i => (lib.childNodes p).drop (i + 1)
  | _, _ => []

def preceding (n : Node) : List Node :=
  match n.parent?, n.path.getLast? with
  | some p, some i => ((lib.childNodes p).take i).reverse
  | _, _ => []

def followingElements (n : Node) : List Node := (lib.following n).filter lib.isTag

def precedingElements (n : Node) : List Node := (lib.preceding n).filter lib.isTag

mutual

def elementPaths (path : List Nat) : Tree → List (List Nat)
  | .element _ _ cs => elementPathsOf path 0 cs
  | _ => []

def elementPathsOf (path : List Nat) (i : Nat) : List Tree → List (List Nat)
  | [] => []
  | t :: ts =>
    (if t.isElement then [path ++ [i]] else []) ++ elementPaths (path ++ [i]) t ++
      elementPathsOf path (i + 1) ts

end

def descendantElements (n : Node) : List Node :=
  match lib.tree? n with
  | some t => (elementPaths n.path t).map (⟨n.document, ·⟩)
  | none => []

def name? (n : Node) : Option String := (lib.tree? n).bind Tree.name?

def space? (n : Node) : Option String := (lib.tree? n).bind Tree.space?

def container? (n : Node) : Option String :=
  (lib.name? n).bind (Tree.container? (lib.dialect n.document))

def containerAround? (n : Node) : Option String := (n.ancestors.filterMap lib.container?).head?

def text (n : Node) : String :=
  match lib.tree? n with
  | some t => t.textContent (lib.dialect n.document) (lib.containerAround? n)
  | none => ""

end Library

end MarkupQuery
