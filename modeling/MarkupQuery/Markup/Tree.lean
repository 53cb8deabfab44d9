import MarkupQuery.Text.Blank

namespace MarkupQuery.Markup

inductive AttributeValue
  | text (content : String)
  | words (parts : List String)
  -- The text of an attribute whose name belongs to a namespace.
  | qualified (space content : String)
  deriving DecidableEq, Repr

namespace AttributeValue

def content : AttributeValue → String
  | text s => s
  | words ws => " ".intercalate ws
  | qualified _ s => s

def space? : AttributeValue → Option String
  | qualified uri _ => some uri
  | _ => none

end AttributeValue

structure Name where
  text : String
  space : Option String := none
  deriving DecidableEq, Repr

instance : Coe String Name := ⟨fun s => ⟨s, none⟩⟩

instance : Coe Name String := ⟨Name.text⟩

inductive Tree
  | text (content : String)
  | comment (content : String)
  | doctype (content : String)
  | instruction (content : String)
  | element (name : Name) (attributes : List (String × AttributeValue)) (children : List Tree)
  deriving Repr

inductive Dialect
  | html
  | xml
  deriving DecidableEq, Repr

structure Document where
  dialect : Dialect
  children : List Tree
  deriving Repr

namespace Tree

def children : Tree → List Tree
  | element _ _ cs => cs
  | _ => []

def isElement : Tree → Bool
  | element .. => true
  | _ => false

def containers : List String := ["script", "style", "template", "rt", "rp"]

def container? (dialect : Dialect) (name : String) : Option String :=
  if dialect == .html && containers.contains name then some name else none

mutual

def textIn (dialect : Dialect) (own around : Option String) : Tree → String
  | text s => if around = own then s else ""
  | comment _ => ""
  | doctype _ => ""
  | instruction _ => ""
  | element name _ cs => textInAll dialect own ((container? dialect name).or around) cs

def textInAll (dialect : Dialect) (own around : Option String) : List Tree → String
  | [] => ""
  | t :: ts => textIn dialect own around t ++ textInAll dialect own around ts

end

-- The text of a single node that stands in the container `around`: its content, and for an element
-- what lies below it in no other container than itself.
def textContent (dialect : Dialect) (around : Option String) : Tree → String
  | text s => s
  | comment s => s
  | doctype s => s
  | instruction s => s
  | element name _ cs =>
    let own := container? dialect name
    textInAll dialect own (own.or around) cs

def descend : Tree → List Nat → Option Tree
  | t, [] => some t
  | t, i :: path =>
    match t.children[i]? with
    | none => none
    | some child => descend child path

def attributes : Tree → List (String × AttributeValue)
  | element _ attrs _ => attrs
  | _ => []

def attribute? (t : Tree) (name : String) : Option AttributeValue :=
  t.attributes.lookup name

def name? : Tree → Option String
  | element name .. => some name
  | _ => none

def space? : Tree → Option String
  | element name .. => name.space
  | _ => none

def label : Tree → String
  | text _ => "#text"
  | comment _ => "#comment"
  | doctype _ => "#doctype"
  | instruction _ => "#text"
  | element name .. => name

end Tree

def rootName : String := "[document]"

namespace Document

def root (d : Document) : Tree := .element rootName [] d.children

end Document

end MarkupQuery.Markup
