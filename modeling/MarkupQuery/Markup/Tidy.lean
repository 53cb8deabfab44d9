import MarkupQuery.Markup.Tree

namespace MarkupQuery.Markup

open Text

def shortened (s : String) : String :=
  if s.toList.all isGap then (if s.toList.contains '\n' then "\n" else " ") else s

def keepsGaps (dialect : Dialect) (name : String) : Bool :=
  dialect == .html && (name == "pre" || name == "textarea")

def wordAttributes : List (String × List String) :=
  [("class", []), ("accesskey", []), ("dropzone", []), ("rel", ["a", "link", "area"]),
    ("rev", ["a", "link"]), ("headers", ["td", "th"]), ("accept-charset", ["form"]),
    ("archive", ["object"]), ("sizes", ["icon"]), ("sandbox", ["iframe"]), ("for", ["output"])]

def holdsWords (element name : String) : Bool :=
  match wordAttributes.lookup name with
  | some [] => true
  | some elements => elements.contains element
  | none => false

def tidyAttribute (dialect : Dialect) (element : String) :
    String × AttributeValue → String × AttributeValue
  | (name, value) =>
    if dialect == .html && holdsWords element name then (name, .words (blankWords value.content))
    else (name, value)

def tidyText (kept : Bool) (s : String) : String := if kept then s else shortened s

mutual

def tidy (dialect : Dialect) (kept : Bool) : Tree → Tree
  | .text s => .text (tidyText kept s)
  | .comment s => .comment (tidyText kept s)
  | .doctype s => .doctype s
  | .instruction s => .instruction (tidyText kept s)
  | .element name attributes children =>
    .element name (attributes.map (tidyAttribute dialect name))
      (tidyAll dialect (kept || keepsGaps dialect name) children)

def tidyAll (dialect : Dialect) (kept : Bool) : List Tree → List Tree
  | [] => []
  | t :: ts =>
    match t with
    | .text s =>
      if s.isEmpty then tidyAll dialect kept ts
      else .text (tidyText kept s) :: tidyAll dialect kept ts
    | t => tidy dialect kept t :: tidyAll dialect kept ts

end

end MarkupQuery.Markup
