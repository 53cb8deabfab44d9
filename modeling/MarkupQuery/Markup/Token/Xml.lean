import MarkupQuery.Markup.Reference
import MarkupQuery.Markup.Token

namespace MarkupQuery.Markup.Xml

open Text

def reference : Reader (List Char) := fun cs =>
  match numericCode cs with
  | some (n, rest) =>
    if isNoCode n then some ([], skipSemicolon rest) else some ([Char.ofNat n], skipSemicolon rest)
  | none =>
    let name := cs.takeWhile fun c => c != ';' && c != '&' && c != '<' && !isGap c
    match cs.drop name.length with
    | ';' :: rest =>
      let name := String.ofList name
      some (if coreEntities.contains name then (entity? name).getD [] else [], rest)
    | _ => none

def piece : Reader (List Char)
  | [] => none
  | '&' :: cs => (reference cs).or (some ([], cs))
  | c :: cs => some ([c], cs)

def resolved (cs : List Char) : String := String.ofList (many piece cs).1.flatten

def value : Reader (List Char)
  | '"' :: cs => splitAtFirst? ['"'] cs
  | '\'' :: cs => splitAtFirst? ['\''] cs
  | _ => none

def withSpace (c : Char) : Char := if isGap c then ' ' else c

def isTagChar (c : Char) : Bool := !isGap c && c != '/' && c != '>'

def isAttributeChar (c : Char) : Bool := isTagChar c && c != '='

def attributeReader : Reader (String × String) := fun cs =>
  let cs := skipGaps cs
  let name := cs.takeWhile isAttributeChar
  if name.isEmpty then none
  else
    match skipGaps (cs.drop name.length) with
    | '=' :: rest =>
      (value (skipGaps rest)).map fun (value, rest) =>
        ((String.ofList name, resolved (value.map withSpace)), rest)
    | _ => none

def openingTag : Reader (List Token) := fun cs =>
  let name := String.ofList (cs.takeWhile isTagChar)
  let (attributes, rest) := many attributeReader (cs.dropWhile isTagChar)
  let (last, rest) := splitAtFirst ['>'] rest
  some ([.opening name (firstOfNames attributes) (last.contains '/')], rest)

def afterDoctype (isInner : Bool) : List Char → List Char
  | [] => []
  | c :: cs =>
    if c == '>' && !isInner then cs
    else afterDoctype (if c == '[' then true else if c == ']' then false else isInner) cs

def declaration (cs : List Char) : List Token × List Char :=
  match skipPrefix? "[CDATA[".toList cs with
  | some rest =>
    let (inside, rest) := splitAtFirst "]]>".toList rest
    (textTokens (String.ofList inside), rest)
  | none =>
    if isDoctype cs then ([.doctype (doctypeText (cs.drop 7))], afterDoctype false cs)
    else ([], (splitAtFirst ['>'] cs).2)

def instructionTokens (cs : List Char) : List Token :=
  let target := cs.takeWhile fun c => !isGap c
  if target == "xml".toList then []
  else [.instruction (String.ofList (target ++ ' ' :: skipGaps (cs.drop target.length)))]

def token : Reader (List Token) := fun cs =>
  match cs with
  | [] => none
  | '<' :: '!' :: '-' :: '-' :: rest =>
    let (inside, rest) := splitAtFirst "-->".toList rest
    some ([.comment (String.ofList inside)], rest)
  | '<' :: '!' :: rest => some (declaration rest)
  | '<' :: '?' :: rest =>
    let (inside, rest) := splitAtFirst ['?', '>'] rest
    some (instructionTokens inside, rest)
  | '<' :: '/' :: rest =>
    let (inside, rest) := splitAtFirst ['>'] rest
    some ([.closing (String.ofList (inside.takeWhile isTagChar))], rest)
  | '<' :: rest => openingTag rest
  | cs =>
    let run := cs.takeWhile (· != '<')
    some (textTokens (resolved run), cs.drop run.length)

def tokens (cs : List Char) : List Token := (many token (unified cs)).1.flatten

end MarkupQuery.Markup.Xml
