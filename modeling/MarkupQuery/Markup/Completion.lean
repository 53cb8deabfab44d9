import MarkupQuery.Markup.Builder
import MarkupQuery.Markup.Token

/-! From tokens to whole HTML documents: elements that are missing are opened, and elements that
cannot go on are closed. All elements lie in the head or the body of an `html` element. -/

namespace MarkupQuery.Markup

open Text

def emptyNames : List String :=
  ["area", "base", "basefont", "br", "col", "frame", "hr", "img", "input", "isindex", "link",
    "meta", "param"]

def headNames : List String := ["script", "style", "meta", "link", "title", "base"]

def framesetNames : List String := ["noframes", "frame", "frameset"]

def headings : List String := ["h1", "h2", "h3", "h4", "h5", "h6"]

def enders (name : String) : List String :=
  match name with
  | "a" => ["a", "fieldset", "table", "td", "th"]
  | "address" => ["dd", "dl", "dt", "form", "li", "ul"]
  | "b" => ["center", "p", "td", "th"]
  | "big" | "s" | "small" | "strike" | "tt" => ["p"]
  | "caption" | "col" => ["col", "colgroup", "tbody", "tfoot", "thead", "tr"]
  | "colgroup" => ["colgroup", "tbody", "tfoot", "thead", "tr"]
  | "dd" => ["dt"]
  | "dir" => ["dd", "dl", "dt", "form", "ul"]
  | "dl" => ["form", "li"]
  | "dt" => ["dd", "dl"]
  | "font" => ["center", "td", "th"]
  | "form" => ["form"]
  | "h1" | "h2" | "h3" | "h4" | "h5" | "h6" => ["fieldset", "form", "li", "p", "table"]
  | "head" =>
    ["a", "abbr", "acronym", "address", "b", "bdo", "big", "blockquote", "body", "br", "center",
      "cite", "code", "dd", "dfn", "dir", "div", "dl", "dt", "em", "fieldset", "font", "form",
      "frameset", "hr", "i", "iframe", "img", "kbd", "li", "listing", "map", "menu", "ol", "p",
      "pre", "q", "s", "samp", "small", "span", "strike", "strong", "sub", "sup", "table", "tt",
      "u", "ul", "var", "xmp"] ++ headings
  | "i" => ["center", "p"]
  | "legend" => ["fieldset"]
  | "li" => ["li"]
  | "listing" | "pre" | "xmp" => ["dd", "dl", "dt", "fieldset", "form", "li", "table", "ul"]
  | "menu" => ["dd", "dl", "dt", "form", "ul"]
  | "ol" => ["form", "ul"]
  | "option" => ["optgroup", "option"]
  | "p" =>
    ["address", "blockquote", "body", "caption", "center", "col", "colgroup", "dd", "dir", "div",
      "dl", "dt", "fieldset", "form", "frameset", "head", "hr", "li", "listing", "menu", "ol", "p",
      "pre", "table", "tbody", "td", "tfoot", "th", "title", "tr", "ul", "xmp"] ++ headings
  | "script" => ["noscript"]
  | "span" => ["td", "th"]
  | "style" | "title" => ["body", "frameset"]
  | "tbody" => ["tbody", "tfoot"]
  | "td" | "th" => ["tbody", "td", "tfoot", "th", "tr"]
  | "tfoot" => ["tbody"]
  | "thead" => ["tbody", "tfoot"]
  | "tr" => ["tbody", "tfoot", "tr"]
  | "u" => ["p", "td", "th"]
  | "ul" => ["address", "form", "menu", "ol", "pre"]
  | _ => []

def rank (name : String) : Nat :=
  match name with
  | "div" => 150
  | "td" | "th" => 160
  | "tr" => 170
  | "thead" | "tbody" | "tfoot" => 180
  | "table" => 190
  | "head" | "body" => 200
  | "html" => 220
  | _ => 100

inductive Stage
  | outset
  | head
  | body
  deriving DecidableEq, Repr

structure Completion where
  builder : Builder
  stage : Stage
  passed : Nat

namespace Completion

def start : Completion := ⟨.start, .outset, 0⟩

def stageAfter (stage : Stage) (name : String) : Stage :=
  match name with
  | "head" => if stage = .outset then .head else stage
  | "body" => .body
  | _ => stage

def enter (c : Completion) (name : String) (attributes : List (String × String)) : Completion :=
  { c with builder := c.builder.enter name attributes, stage := stageAfter c.stage name }

def leave (c : Completion) : Completion := { c with builder := c.builder.leave }

def closeEnded (c : Completion) (name : String) : Completion :=
  let ended := c.builder.frames.takeWhile fun f => (enders f.name).contains name
  { c with builder := c.builder.leaveMany ended.length }

def openSection (c : Completion) (name : String) : Completion :=
  if c.builder.frames.length ≤ 1 && headNames.contains name then
    if c.stage = .outset then c.enter "head" [] else c
  else if framesetNames.contains name || c.stage = .body || c.builder.isOpen "body" ||
      c.builder.isOpen "head" then c
  else c.enter "body" []

def openAround (c : Completion) (name : String) : Completion :=
  if name == "html" then c
  else
    let c := if c.builder.frames.isEmpty then c.enter "html" [] else c
    if name == "body" || name == "head" then c else c.openSection name

def isMisplaced (c : Completion) (name : String) : Bool :=
  match name with
  | "html" => !c.builder.frames.isEmpty
  | "head" => c.builder.frames.length != 1
  | "body" => c.builder.isOpen "body"
  | _ => false

def opening (c : Completion) (name : String) (attributes : List (String × String))
    (isClosed : Bool) : Completion :=
  let c := (c.closeEnded name).openAround name
  if c.isMisplaced name then { c with passed := c.passed + 1 }
  else
    let c := c.enter name attributes
    if isClosed || emptyNames.contains name then c.leave else c

def outerNames : List String := ["html", "head", "body"]

def closing (c : Completion) (name : String) : Completion :=
  if 0 < c.passed && outerNames.contains name then { c with passed := c.passed - 1 }
  else
    let inside := c.builder.frames.takeWhile fun f => f.name != name
    if inside.length < c.builder.frames.length && inside.all fun f => rank f.name ≤ rank name then
      { c with builder := c.builder.leaveMany (inside.length + 1) }
    else c

def isOutside (c : Completion) : Bool :=
  match c.builder.current? with
  | none => true
  | some name => name == "html" || name == "head"

def write (c : Completion) (cs : List Char) : Completion :=
  if cs.isEmpty then c else { c with builder := c.builder.text (String.ofList cs) }

def text (c : Completion) (cs : List Char) : Completion :=
  if c.isOutside then
    let c := c.write (cs.takeWhile isGap)
    match cs.dropWhile isGap with
    | [] => c
    | rest =>
      let c := if c.builder.current? == some "head" then c.closeEnded "p" else c
      (c.openAround "p").write rest
  else c.write cs

def take (c : Completion) : Token → Completion
  | .text s | .section s => c.text s.toList
  | .comment s => { c with builder := c.builder.add (.comment s) }
  | .doctype s => { c with builder := c.builder.add (.doctype s) }
  | .instruction s => { c with builder := c.builder.add (.instruction s) }
  | .opening name attributes isClosed => c.opening name attributes isClosed
  | .closing name => c.closing name

end Completion

def completed (ts : List Token) : List Tree := (ts.foldl Completion.take .start).builder.finish

end MarkupQuery.Markup
