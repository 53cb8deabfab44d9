import MarkupQuery.Markup.Tree

namespace MarkupQuery.Markup

structure Frame where
  name : String
  attributes : List (String × AttributeValue)
  before : List Tree

structure Builder where
  held : List String
  read : List Tree
  frames : List Frame

namespace Builder

def start : Builder := ⟨[], [], []⟩

def text (b : Builder) (s : String) : Builder := { b with held := s :: b.held }

def flush (b : Builder) : Builder :=
  if b.held.isEmpty then b
  else { b with held := [], read := .text ("".intercalate b.held.reverse) :: b.read }

def add (b : Builder) (t : Tree) : Builder :=
  let b := b.flush
  { b with read := t :: b.read }

def current? (b : Builder) : Option String := b.frames.head?.map (·.name)

def isOpen (b : Builder) (name : String) : Bool := b.frames.any fun f => f.name == name

def enter (b : Builder) (name : String) (attributes : List (String × String)) : Builder :=
  let b := b.flush
  let attributes := attributes.map fun a => (a.1, AttributeValue.text a.2)
  ⟨[], [], ⟨name, attributes, b.read⟩ :: b.frames⟩

def leave (b : Builder) : Builder :=
  let b := b.flush
  match b.frames with
  | [] => b
  | f :: outer => ⟨[], .element f.name f.attributes b.read.reverse :: f.before, outer⟩

def leaveMany (b : Builder) : Nat → Builder
  | 0 => b
  | n + 1 => b.leave.leaveMany n

def leaveNamed (b : Builder) (name : String) : Builder :=
  let inside := b.frames.takeWhile fun f => f.name != name
  if inside.length < b.frames.length then b.leaveMany (inside.length + 1) else b.flush

def finish (b : Builder) : List Tree := (b.leaveMany b.frames.length).flush.read.reverse

end Builder

end MarkupQuery.Markup
