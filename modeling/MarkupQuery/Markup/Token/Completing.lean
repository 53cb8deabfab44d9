import MarkupQuery.Markup.Reference
import MarkupQuery.Markup.Token

namespace MarkupQuery.Markup.Completing

open Text

def withoutNull (c : Char) : Char := if c.toNat = 0 then replacement else c

def nameOf (cs : List Char) : String := lowered (String.ofList cs)

-- A reference after its ampersand. In an attribute, a name without semicolon is none if the word
-- goes on or an equals sign follows.
def reference (inAttribute : Bool) : Reader (List Char) := fun cs =>
  match numericCode cs with
  | some (n, rest) => some ([charOfCode n], skipSemicolon rest)
  | none =>
    match named? cs with
    | some (chars, isClosed, rest) =>
      if inAttribute && !isClosed && rest.head?.any fun c => c.isAlphanum || c == '=' then none
      else some (chars, rest)
    | none => none

def piece (inAttribute : Bool) : Reader (List Char)
  | [] => none
  | '&' :: cs => (reference inAttribute cs).or (some (['&'], cs))
  | c :: cs => some ([c], cs)

def resolved (inAttribute : Bool) (cs : List Char) : String :=
  String.ofList (many (piece inAttribute) cs).1.flatten

def isTagChar (c : Char) : Bool := !isGap c && c != '/' && c != '>'

def isAttributeChar (c : Char) : Bool := isTagChar c && c != '='

def skipSlashes : List Char → List Char
  | [] => []
  | c :: cs =>
    if isGap c || (c == '/' && cs.head? != some '>') then skipSlashes cs else c :: cs

def value : List Char → List Char × List Char
  | '"' :: cs => splitAtFirst ['"'] cs
  | '\'' :: cs => splitAtFirst ['\''] cs
  | cs =>
    let isBare := fun c => !isGap c && c != '>'
    (cs.takeWhile isBare, cs.dropWhile isBare)

def assigned (cs : List Char) : List Char × List Char :=
  match skipGaps cs with
  | '=' :: rest => value (skipGaps rest)
  | _ => ([], cs)

def attributeReader : Reader (String × String) := fun cs =>
  match skipSlashes cs with
  | [] => none
  | c :: cs =>
    if c == '/' || c == '>' then none
    else
      let name := c :: cs.takeWhile isAttributeChar
      let (value, rest) := assigned (cs.dropWhile isAttributeChar)
      some ((nameOf name, resolved true value), rest)

inductive Content
  | referring
  | plain
  | script
  | endless
  deriving DecidableEq, Repr

def contents : List (String × Content) :=
  [("title", .referring), ("textarea", .referring), ("script", .script), ("style", .plain),
    ("iframe", .plain), ("noembed", .plain), ("noframes", .plain), ("xmp", .plain),
    ("plaintext", .endless)]

def startsTag (lead : List Char) (name : String) (cs : List Char) : Bool :=
  match skipPrefix? lead cs with
  | some rest =>
    (rest.take name.length).map lowerAscii == name.toList &&
      (rest.drop name.length).head?.any fun c => !isTagChar c
  | none => false

def isOpening (name : String) (cs : List Char) : Bool := startsTag ['<'] name cs

def isClosing (name : String) (cs : List Char) : Bool := startsTag ['<', '/'] name cs

def splitContent (name : String) : List Char → List Char × List Char
  | [] => ([], [])
  | c :: cs =>
    if isClosing name (c :: cs) then ([], c :: cs)
    else
      let (inside, rest) := splitContent name cs
      (c :: inside, rest)

inductive ScriptDepth
  | script
  | comment
  | inner
  deriving DecidableEq, Repr

def ScriptDepth.after (depth : ScriptDepth) (cs : List Char) : ScriptDepth :=
  match depth with
  | .script => if "<!--".toList.isPrefixOf cs then .comment else .script
  | .comment =>
    if "-->".toList.isPrefixOf cs then .script
    else if isOpening "script" cs then .inner
    else .comment
  | .inner =>
    if "-->".toList.isPrefixOf cs then .script
    else if isClosing "script" cs then .comment
    else .inner

def splitScript (depth : ScriptDepth) : List Char → List Char × List Char
  | [] => ([], [])
  | c :: cs =>
    if depth ≠ .inner && isClosing "script" (c :: cs) then ([], c :: cs)
    else
      let (inside, rest) := splitScript (depth.after (c :: cs)) cs
      (c :: inside, rest)

def contentTokens (name : String) (cs : List Char) : List Token × List Char :=
  match contents.lookup name with
  | some .referring =>
    let (inside, rest) := splitContent name cs
    (textTokens (resolved false inside), rest)
  | some .plain =>
    let (inside, rest) := splitContent name cs
    (textTokens (String.ofList inside), rest)
  | some .script =>
    let (inside, rest) := splitScript .script cs
    (textTokens (String.ofList inside), rest)
  | some .endless => (textTokens (String.ofList cs), [])
  | none => ([], cs)

def openingTag : Reader (List Token) := fun cs =>
  let name := nameOf (cs.takeWhile isTagChar)
  let (attributes, rest) := many attributeReader (cs.dropWhile isTagChar)
  let attributes := firstOfNames attributes
  match skipSlashes rest with
  | '/' :: '>' :: rest => some ([.opening name attributes true], rest)
  | '>' :: rest =>
    let (tokens, rest) := contentTokens name rest
    some (.opening name attributes false :: tokens, rest)
  | rest => some ([], rest)

def bogusComment (cs : List Char) : List Token × List Char :=
  let (inside, rest) := splitAtFirst ['>'] cs
  ([.comment (String.ofList inside)], rest)

def closingTag (cs : List Char) : List Token × List Char :=
  if cs.head? == some '>' then ([], cs.drop 1)
  else if cs.head?.any isAsciiLetter then
    let (_, rest) := many attributeReader (cs.dropWhile isTagChar)
    ([.closing (nameOf (cs.takeWhile isTagChar))], (splitAtFirst ['>'] rest).2)
  else bogusComment cs

def splitComment : List Char → List Char × List Char
  | [] => ([], [])
  | '-' :: '-' :: '>' :: rest => ([], rest)
  | '-' :: '-' :: '!' :: '>' :: rest => ([], rest)
  | c :: cs =>
    let (inside, rest) := splitComment cs
    (c :: inside, rest)

def comment (cs : List Char) : List Token × List Char :=
  match cs with
  | '>' :: rest => ([.comment ""], rest)
  | '-' :: '>' :: rest => ([.comment ""], rest)
  | cs =>
    let (inside, rest) := splitComment cs
    ([.comment (String.ofList inside)], rest)

def declaration (cs : List Char) : List Token × List Char :=
  if isDoctype cs then
    let (inside, rest) := splitAtFirst ['>'] cs
    ([.doctype (doctypeText (inside.drop 7))], rest)
  else bogusComment cs

def isMarkup (c : Char) : Bool := isAsciiLetter c || c == '/' || c == '!' || c == '?'

def textRun : List Char → List Char
  | [] => []
  | [c] => [c]
  | c :: d :: cs => if c == '<' && isMarkup d then [] else c :: textRun (d :: cs)

def token : Reader (List Token) := fun cs =>
  match cs with
  | [] => none
  | '<' :: '!' :: '-' :: '-' :: rest => some (comment rest)
  | '<' :: '!' :: rest => some (declaration rest)
  | '<' :: '?' :: rest => some (bogusComment ('?' :: rest))
  | '<' :: '/' :: d :: rest => some (closingTag (d :: rest))
  | '<' :: c :: rest =>
    if isAsciiLetter c then openingTag (c :: rest)
    else
      let run := textRun cs
      some (textTokens (resolved false run), cs.drop run.length)
  | cs =>
    let run := textRun cs
    some (textTokens (resolved false run), cs.drop run.length)

def prologToken : Reader (List Token) := fun cs =>
  match skipGaps cs with
  | '<' :: '!' :: rest => token ('<' :: '!' :: rest)
  | '<' :: '?' :: rest => token ('<' :: '?' :: rest)
  | _ => none

def tokens (cs : List Char) : List Token :=
  let (prolog, rest) := many prologToken ((unified cs).map withoutNull)
  prolog.flatten ++ (many token (skipGaps rest)).1.flatten

end MarkupQuery.Markup.Completing
