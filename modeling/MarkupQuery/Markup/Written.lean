import MarkupQuery.Markup.Assembly
import MarkupQuery.Markup.Tidy
import MarkupQuery.Markup.Token.Exact

namespace MarkupQuery.Markup

def smallAttributes (attributes : List (String × AttributeValue)) :
    List (String × AttributeValue) :=
  (lastOfNames (attributes.map fun a => (Exact.nameOf a.1.toList, a.2.content))).map
    fun a => (a.1, .text a.2)

mutual

def small : Tree → Tree
  | .element name attributes children =>
    .element (Exact.nameOf name.text.toList) (smallAttributes attributes) (smallAll children)
  | .doctype s => .doctype (shortened s)
  | t => t

def smallAll : List Tree → List Tree
  | [] => []
  | t :: ts => small t :: smallAll ts

end

def Document.ofTrees (ts : List Tree) : Document := ⟨.html, tidyAll .html false (smallAll ts)⟩

end MarkupQuery.Markup
