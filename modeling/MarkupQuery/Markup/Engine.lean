import MarkupQuery.Markup.Completion
import MarkupQuery.Markup.Content
import MarkupQuery.Markup.Namespace
import MarkupQuery.Markup.Tidy
import MarkupQuery.Markup.Token.Completing
import MarkupQuery.Markup.Token.Xml
import MarkupQuery.Markup.Written
import MarkupQuery.Trace

namespace MarkupQuery.Markup

inductive Engine
  | completing
  | exact
  | standard
  | xml
  deriving DecidableEq, Repr

namespace Engine

def name : Engine → String
  | completing => "lxml"
  | exact => "html.parser"
  | standard => "html5lib"
  | xml => "xml"

def all : List Engine := [completing, exact, standard, xml]

def ofName? (s : String) : Option Engine := all.find? fun e => e.name == s

def otherNames : List (String × Engine) :=
  [("lxml-html", completing), ("html", completing), ("fast", completing),
    ("permissive", completing), ("strict", exact), ("lxml-xml", xml)]

def isAvailable (e : Engine) : Bool := e != standard

def usable? (s : String) : Option Engine :=
  ((ofName? s).or (otherNames.lookup s)).filter isAvailable

-- The document that markup is. A byte order mark is part of a text only where it is taken exactly
-- as it is written.
def read (e : Engine) (content : Content) : Document :=
  match e with
  | completing =>
    let cs := withoutMark (content.source .html).text.toList
    ⟨.html, tidyAll .html false (completed (Completing.tokens cs))⟩
  | xml =>
    let cs := withoutMark (content.source .xml).text.toList
    ⟨.xml, tidyAll .xml false (Xml.documentTrees (Xml.tokens cs))⟩
  | _ =>
    let source := content.source .html
    ⟨.html, tidyAll .html false (assembled (Exact.tokens source.charset source.text.toList))⟩

end Engine

def source : String := "pseudo_select.query.document"

def load {β : Type} (engine : String) (content : Content) : Traced β Document := do
  Traced.report .debug source
    ("Разбор HTML (" ++ toString content.size ++ " символов), парсер: " ++ engine)
  match Engine.usable? engine with
  | some e => return e.read content
  | none => Traced.fail .unknownParser

end MarkupQuery.Markup
