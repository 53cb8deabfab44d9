import MarkupQuery.Markup.Builder
import MarkupQuery.Markup.Tidy
import MarkupQuery.Markup.Token

/-! From tokens to trees, where every tag counts as it is written. -/

namespace MarkupQuery.Markup

def voidNames : List String :=
  ["area", "base", "basefont", "bgsound", "br", "col", "command", "embed", "frame", "hr", "image",
    "img", "input", "isindex", "keygen", "link", "menuitem", "meta", "nextid", "param", "source",
    "spacer", "track", "wbr"]

-- Trees under construction, with the elements that were closed without a closing tag: for each of
-- them one closing tag counts for nothing.
structure Assembly where
  builder : Builder
  spent : List String

namespace Assembly

def start : Assembly := ⟨.start, []⟩

def close (a : Assembly) (name : String) : Assembly :=
  if a.spent.contains name then { a with spent := a.spent.erase name }
  else { a with builder := a.builder.leaveNamed name }

def take (a : Assembly) : Token → Assembly
  | .text s => { a with builder := a.builder.text s }
  | .comment s => { a with builder := a.builder.add (.comment s) }
  | .doctype s => { a with builder := a.builder.add (.doctype (shortened s)) }
  | .instruction s => { a with builder := a.builder.add (.instruction s) }
  | .section s => { a with builder := a.builder.add (.text (shortened s)) }
  | .closing name => a.close name
  | .opening name attributes isClosed =>
    let opened := a.builder.enter name (lastOfNames attributes)
    if isClosed then { a with builder := opened }.close name
    else if voidNames.contains name then ⟨opened.leave, name :: a.spent⟩
    else { a with builder := opened }

end Assembly

def assembled (ts : List Token) : List Tree := (ts.foldl Assembly.take .start).builder.finish

end MarkupQuery.Markup
