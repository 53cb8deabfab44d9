import MarkupQuery.Markup.Charset
import MarkupQuery.Markup.Reference
import MarkupQuery.Markup.Token
import MarkupQuery.Text.Case

/-! The tokens of HTML that is taken exactly as it is written. Names are put into small letters of
all scripts. A construct that the text ends in is left over at first and is read as text when it
is known that nothing follows. -/

namespace MarkupQuery.Markup.Exact

open Text

def nameOf (cs : List Char) : String := String.ofList (smallName false cs)

-- The character of a code in a text: a single byte is read in the charset of the document if it is
-- none of the common Western ones.
def charOfCode (charset : Option Charset) (n : Nat) : Char :=
  if 256 ≤ n || (n < 128 || 160 ≤ n) then if isNoCode n then replacement else Char.ofNat n
  else
    match controlMeanings.lookup n with
    | some m => Char.ofNat m
    | none => ((charset.bind (·.char? n)).getD (Char.ofNat n))

def isVoidCode (n : Nat) : Bool :=
  (1 ≤ n && n ≤ 8) || n == 0xB || (0xE ≤ n && n ≤ 0x1F) || n == 0x7F ||
    (0xFDD0 ≤ n && n ≤ 0xFDEF) || n % 0x10000 == 0xFFFE || n % 0x10000 == 0xFFFF

def attributeCode (n : Nat) : List Char :=
  if isNoCode n then [replacement] else if isVoidCode n then [] else [Markup.charOfCode n]

def valuePiece : Reader (List Char)
  | [] => none
  | '&' :: cs =>
    match numericCode cs with
    | some (n, rest) => some (attributeCode n, skipSemicolon rest)
    | none =>
      match named? cs with
      | some (chars, _, rest) => some (chars, rest)
      | none => some (['&'], cs)
  | c :: cs => some ([c], cs)

def valueOf (cs : List Char) : String := String.ofList (many valuePiece cs).1.flatten

def isTagChar (c : Char) : Bool := !isGap c && c != '/' && c != '>' && c.toNat != 0

def isAttributeChar (c : Char) : Bool := !isBlank c && c != '/' && c != '=' && c != '>'

def skipSlashes : List Char → List Char
  | [] => []
  | c :: cs =>
    if isBlank c || (c == '/' && cs.head? != some '>') then skipSlashes cs else c :: cs

def value : Reader (List Char)
  | '"' :: cs => splitAtFirst? ['"'] cs
  | '\'' :: cs => splitAtFirst? ['\''] cs
  | cs =>
    let isBare := fun c => !isBlank c && c != '>'
    some (cs.takeWhile isBare, cs.dropWhile isBare)

def assigned (cs : List Char) : List Char × List Char :=
  match trimStart cs with
  | '=' :: rest => (value (trimStart (rest.dropWhile (· == '=')))).getD ([], cs)
  | _ => ([], cs)

def attributeReader : Reader (String × String)
  | [] => none
  | c :: cs =>
    if isBlank c || c == '/' || c == '>' then none
    else
      let name := c :: cs.takeWhile isAttributeChar
      let (value, rest) := assigned (cs.dropWhile isAttributeChar)
      some ((nameOf name, valueOf value), skipSlashes rest)

inductive Step
  | go (tokens : List Token) (raw : Option String) (rest : List Char)
  | stop (tokens : List Token) (rest : List Char)

def rawNames : List String := ["script", "style"]

def openingTag? (cs : List Char) : Option Step :=
  let name := nameOf (cs.takeWhile isTagChar)
  let (attributes, rest) := many attributeReader (skipSlashes (cs.dropWhile isTagChar))
  match rest with
  | '>' :: rest =>
    some (.go [.opening name attributes false] (rawNames.find? (· == name)) rest)
  | '/' :: '>' :: rest => some (.go [.opening name attributes true] none rest)
  | _ => none

def isPlainChar (c : Char) : Bool :=
  c.isAlphanum || c == '-' || c == '.' || c == ':' || c == '_'

def closingTag? (cs : List Char) : Option Step := do
  let (inside, rest) ← splitAtFirst? ['>'] cs
  let named (name : List Char) := Step.go [.closing (nameOf (name.takeWhile isTagChar))] none rest
  if inside.head?.any isAsciiLetter then return named inside
  else if (trimStart inside).head?.any isAsciiLetter && (trim inside).all isPlainChar then
    return named (trimStart inside)
  else if inside.isEmpty then return .go [] none rest
  else return .go [.comment (String.ofList inside)] none rest

def commentEnd? : List Char → Option (List Char × List Char)
  | [] => none
  | c :: cs =>
    match skipPrefix? ['-', '-'] (c :: cs) with
    | some rest =>
      match trimStart rest with
      | '>' :: rest => some ([], rest)
      | _ => (commentEnd? cs).map fun (before, rest) => (c :: before, rest)
    | none => (commentEnd? cs).map fun (before, rest) => (c :: before, rest)

def declaration? (cs : List Char) : Option Step :=
  match skipPrefix? "[CDATA[".toList cs with
  | some rest =>
    (splitAtFirst? "]]>".toList rest).map fun (inside, rest) =>
      .go [.section (String.ofList inside)] none rest
  | none =>
    (splitAtFirst? ['>'] cs).map fun (inside, rest) =>
      if isDoctype inside then .go [.doctype (String.ofList (inside.drop 8))] none rest
      else .go [.comment (String.ofList inside)] none rest

def markup? (cs : List Char) : Option Step :=
  match cs with
  | '/' :: rest => closingTag? rest
  | '!' :: '-' :: '-' :: rest =>
    (commentEnd? rest).map fun (inside, rest) => .go [.comment (String.ofList inside)] none rest
  | '!' :: rest => declaration? rest
  | '?' :: rest =>
    (splitAtFirst? ['>'] rest).map fun (inside, rest) =>
      .go [.instruction (String.ofList inside)] none rest
  | c :: rest =>
    if isAsciiLetter c then openingTag? cs else some (.go [.text "<"] none (c :: rest))
  | [] => none

def isMarkup (c : Char) : Bool := isAsciiLetter c || c == '/' || c == '!' || c == '?'

def textSize (cs : List Char) : Nat :=
  match splitAtFirst? ['>'] cs with
  | some (inside, _) => inside.length + 1
  | none =>
    match splitAtFirst? ['<'] cs with
    | some (inside, _) => inside.length
    | none => 0

def numericStep (charset : Option Charset) (cs : List Char) : Step :=
  match numericCode cs with
  | some (n, c :: rest) =>
    if isHexDigit c then .stop [] ('&' :: cs)
    else .go [.text (String.singleton (charOfCode charset n))] none (skipSemicolon (c :: rest))
  | _ => .stop [] ('&' :: cs)

def numericOrStop (charset : Option Charset) (cs : List Char) : Step :=
  match numericStep charset cs with
  | .stop _ _ => if cs.contains ';' then .stop [.text "&#"] (cs.drop 1) else .stop [] ('&' :: cs)
  | step => step

def isNameChar (c : Char) : Bool := c.isAlphanum || c == '-' || c == '.'

-- A name that is known stands for its characters whether or not a semicolon follows; one that is
-- not known loses its semicolon.
def meaningOf (name : String) : String :=
  match entity? name with
  | some chars => String.ofList chars
  | none => "&" ++ name

def referenceName? (cs : List Char) : Option (List Char × List Char) :=
  let run := cs.takeWhile isNameChar
  match cs.drop run.length with
  | _ :: _ => some (run, cs.drop run.length)
  | [] =>
    let name := (run.reverse.dropWhile Char.isAlphanum).drop 1 |>.reverse
    if name.isEmpty then none else some (name, cs.drop name.length)

def namedStep (closing : Bool) (cs : List Char) : Step :=
  match cs with
  | [] => .stop [] ['&']
  | c :: rest =>
    if isAsciiLetter c then
      match referenceName? cs with
      | some (name, rest) =>
        .go [.text (meaningOf (String.ofList name))] none (skipSemicolon rest)
      | none => if closing && rest.isEmpty then .stop [] cs else .stop [] ('&' :: cs)
    else .go [.text "&"] none cs

def step (charset : Option Charset) (closing : Bool) (cs : List Char) : Step :=
  match cs with
  | '<' :: rest =>
    match markup? rest with
    | some s => s
    | none =>
      if closing && !rest.isEmpty then
        let n := textSize rest + 1
        .go [.text (String.ofList (cs.take n))] none (cs.drop n)
      else .stop [] cs
  | '&' :: '#' :: rest => numericOrStop charset ('#' :: rest)
  | '&' :: rest => namedStep closing rest
  | cs =>
    let run := cs.takeWhile fun c => c != '<' && c != '&'
    .go (textTokens (String.ofList run)) none (cs.drop run.length)

def rawEnd? (name : String) (cs : List Char) : Option (List Char) := do
  let rest ← skipPrefix? ['<', '/'] cs
  let rest := trimStart rest
  if (rest.take name.length).map lowerAscii == name.toList then
    match trimStart (rest.drop name.length) with
    | '>' :: rest => some rest
    | _ => none
  else none

def splitRaw? (name : String) : List Char → Option (List Char × List Char)
  | [] => none
  | c :: cs =>
    match rawEnd? name (c :: cs) with
    | some rest => some ([], rest)
    | none => (splitRaw? name cs).map fun (inside, rest) => (c :: inside, rest)

def run (charset : Option Charset) (closing : Bool) (raw : Option String) (cs : List Char) :
    List Token × Option String × List Char :=
  match raw with
  | some name =>
    match splitRaw? name cs with
    | some (inside, rest) =>
      if rest.length < cs.length then
        let (tokens, left) := run charset closing none rest
        (textTokens (String.ofList inside) ++ .closing name :: tokens, left)
      else ([], raw, cs)
    | none => ([], raw, cs)
  | none =>
    if cs.isEmpty then ([], none, [])
    else
      match step charset closing cs with
      | .stop tokens rest => (tokens, none, rest)
      | .go tokens raw rest =>
        if rest.length < cs.length then
          let (more, left) := run charset closing raw rest
          (tokens ++ more, left)
        else (tokens, none, cs)
termination_by cs.length

-- The tokens of a whole text. The content of an element whose content is not markup is lost if the
-- element is not closed.
def tokens (source : Option Charset) (cs : List Char) : List Token :=
  let (first, raw, rest) := run source false none cs
  let (second, raw, rest) := run source true raw rest
  first ++ second ++ if raw.isNone then textTokens (String.ofList rest) else []

end MarkupQuery.Markup.Exact
