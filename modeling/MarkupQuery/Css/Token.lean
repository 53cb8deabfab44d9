import MarkupQuery.Css.Selector
import MarkupQuery.Text.Case
import MarkupQuery.Text.Digit
import MarkupQuery.Text.Letter
import MarkupQuery.Text.Reading

namespace MarkupQuery.Css

open Text

inductive Group
  | anyOf
  | noneOf
  | has
  deriving DecidableEq, Repr

inductive Opening
  | group (group : Group)
  -- As the group `anyOf`, but no place of the list may be empty.
  | strict
  -- States that no element is in, whatever the list says.
  | nothing
  | nth (step offset : Int) (fromEnd : Bool)
  deriving DecidableEq, Repr

inductive Token
  -- Can only stand first in its compound.
  | leading (simple : Option Simple)
  | simple (simple : Option Simple)
  | combinator (combinator : Combinator)
  | comma
  | opening (opening : Opening)
  | closing
  -- The list in which it stands is for HTML documents only.
  | onlyHtml
  -- A pseudo-element or an at-rule.
  | unsupported

def isNameStart (c : Char) : Bool :=
  ('a' ≤ c && c ≤ 'z') || ('A' ≤ c && c ≤ 'Z') || c == '_' || 0xA0 ≤ c.toNat

def isNameChar (c : Char) : Bool := isNameStart c || isAsciiDigit c || c == '-'

def replacement : Char := Char.ofNat 0xFFFD

inductive Letter
  | char (c : Char)
  | noChar
  | beyond
  deriving DecidableEq, Repr

def Letter.ofCode (n : Nat) : Letter :=
  if n = 0 then .char replacement
  else if 0x10FFFF < n then .beyond
  else if 0xD800 ≤ n && n ≤ 0xDFFF then .noChar
  else .char (Char.ofNat n)

inductive Spelling
  | text (content : String)
  | unmatched
  | beyond
  deriving DecidableEq, Repr

namespace Spelling

def cons (l : Letter) (s : Spelling) : Spelling :=
  match l, s with
  | .beyond, _ | _, .beyond => .beyond
  | .noChar, _ | _, .unmatched => .unmatched
  | .char c, .text t => .text (String.singleton c ++ t)

def ofLetters (ls : List Letter) : Spelling := ls.foldr cons (.text "")

def simple? (s : Spelling) (make : String → Simple) : Option Simple :=
  match s with
  | text t => some (make t)
  | unmatched => some .nothing
  | beyond => none

def texts? : List Spelling → Option (List String)
  | [] => some []
  | text t :: ss => (texts? ss).map (t :: ·)
  | unmatched :: ss => texts? ss
  | beyond :: _ => none

end Spelling

-- What is left after the end of a comment.
def commentEnd? : List Char → Option (List Char)
  | '*' :: '/' :: cs => some cs
  | _ :: cs => commentEnd? cs
  | [] => none

def space : Reader Bool
  | '/' :: '*' :: cs => (commentEnd? cs).map fun rest => (false, rest)
  | c :: cs => if isGap c then some (true, cs) else none
  | [] => none

def skipSpace (cs : List Char) : List Char := (many space cs).2

def skipSeparation? (cs : List Char) : Option (List Char) :=
  let (gaps, rest) := many space cs
  if gaps.any id then some rest else none

def closingLength : List Char → Nat
  | [] => 0
  | c :: cs => if (skipSpace (c :: cs)).isEmpty then cs.length + 1 else closingLength cs

def skipGap : List Char → List Char
  | '\r' :: '\n' :: cs => cs
  | c :: cs => if isGap c then cs else c :: cs
  | [] => []

def isLineBreak (c : Char) : Bool := c == '\n' || c == '\r' || c == '\x0c'

def codeDigits (cs : List Char) : List Char :=
  (cs.take 6).takeWhile fun c => (hexDigitValue? c).isSome

-- The letter that an escape stands for, read after the backslash. A backslash at the end, or before
-- a line feed at the end, stands for the replacement character.
def escaped : Reader Letter := fun cs =>
  match codeDigits cs, cs with
  | [], [] => some (.char replacement, [])
  | [], ['\n'] => some (.char replacement, ['\n'])
  | [], c :: rest => if isLineBreak c then none else some (.char c, rest)
  | ds, cs =>
    some (.ofCode (ofHexDigits (ds.filterMap hexDigitValue?)), skipGap (cs.drop ds.length))

def letterOr (accept : Char → Bool) : Reader Letter
  | '\\' :: cs => escaped cs
  | c :: cs => if accept c then some (.char c, cs) else none
  | [] => none

def identifier : Reader Spelling := fun cs =>
  let (lead, rest) := match cs with
    | '-' :: '-' :: rest => (['-', '-'], rest)
    | '-' :: rest => (['-'], rest)
    | rest => ([], rest)
  let lead := lead.map Letter.char
  if lead.length = 2 then
    let (name, rest) := many (letterOr isNameChar) rest
    some (.ofLetters (lead ++ name), rest)
  else do
    let (l, rest) ← letterOr isNameStart rest
    let (name, rest) := many (letterOr isNameChar) rest
    return (.ofLetters (lead ++ l :: name), rest)

-- A piece of a quoted text, in which no code is followed by a line break. An escaped line break
-- stands for nothing, but at the end of the text an escaped line feed is kept after a replacement
-- character.
def quotedPiece (quote : Char) : Reader (List Letter)
  | '\\' :: '\r' :: '\n' :: cs => some ([], cs)
  | '\\' :: c :: cs =>
    if c == '\n' && cs.head? == some quote then some ([.char replacement, .char '\n'], cs)
    else if isLineBreak c then some ([], cs)
    else if ((c :: cs).drop (codeDigits (c :: cs)).length).head?.any isLineBreak then none
    else (escaped (c :: cs)).map fun (l, rest) => ([l], rest)
  | c :: cs => if c == quote || c == '\\' || isLineBreak c then none else some ([.char c], cs)
  | [] => none

def quotedValue (quote : Char) : Reader Spelling := fun cs =>
  let (pieces, rest) := many (quotedPiece quote) cs
  match rest with
  | c :: rest => if c == quote then some (.ofLetters pieces.flatten, rest) else none
  | [] => none

def value : Reader Spelling
  | '"' :: cs => quotedValue '"' cs
  | '\'' :: cs => quotedValue '\'' cs
  | cs => identifier cs

def values : Reader (List Spelling) := fun cs => do
  let (v, rest) ← value cs
  let next : Reader Spelling := fun cs =>
    match skipSpace cs with
    | ',' :: rest => value (skipSpace rest)
    | _ => none
  let (vs, rest) := many next rest
  return (v :: vs, rest)

-- The part of a name before the bar.
def namePrefix : Reader Spelling
  | '|' :: cs => some (.text "", cs)
  | '*' :: '|' :: cs => some (.text "*", cs)
  | cs => do
    let (s, rest) ← identifier cs
    match rest with
    | '|' :: rest => return (s, rest)
    | _ => none

def qualified (name : Reader Spelling) : Reader (Spelling × Spelling) := fun cs =>
  (do
    let (space, rest) ← namePrefix cs
    let (s, rest) ← name rest
    return ((space, s), rest)) <|>
  (name cs).map fun (s, rest) => ((.text "*", s), rest)

def comparison : Reader (Option AttributeRelation)
  | '=' :: cs => some (some .equal, cs)
  | '!' :: '=' :: cs => some (none, cs)
  | '~' :: '=' :: cs => some (some .word, cs)
  | '|' :: '=' :: cs => some (some .dash, cs)
  | '^' :: '=' :: cs => some (some .start, cs)
  | '$' :: '=' :: cs => some (some .finish, cs)
  | '*' :: '=' :: cs => some (some .part, cs)
  | _ => none

-- The letters that differ from `i` or `s` in case or form only are flags too, but of them only `i`
-- itself makes case be ignored.
def caseFlag : List Char → Option Bool × List Char
  | c :: cs =>
    if c == 'i' || c == 'I' then (some true, cs)
    else if foldCase c == 'i' || foldCase c == 's' then (some false, cs)
    else (none, c :: cs)
  | [] => (none, [])

def attributeSimple? (name : Spelling × Spelling) (value : Spelling)
    (relation : Option AttributeRelation) (ignoreCase : Option Bool) : Option Simple :=
  match name.1, name.2, value with
  | .beyond, _, _ | _, .beyond, _ | _, _, .beyond => none
  | .text space, .text name, .text value =>
    match relation with
    | some r => some (.attribute ⟨.ofText space, name, r, value, ignoreCase⟩)
    | none =>
      some (.noneOf [.compound [.attribute ⟨.ofText space, name, .equal, value, ignoreCase⟩]])
  | _, _, _ => some (if relation.isNone then .noneOf [] else .nothing)

def bracketed : Reader (Option Simple) := fun cs => do
  let (name, rest) ← qualified identifier (skipSpace cs)
  match skipSpace rest with
  | ']' :: rest => return (attributeSimple? name (.text "") (some .present) none, rest)
  | rest =>
    let (relation, rest) ← comparison rest
    let (value, rest) ← value (skipSpace rest)
    let (ignoreCase, rest) := caseFlag (skipSpace rest)
    match skipSpace rest with
    | ']' :: rest => return (attributeSimple? name value relation ignoreCase, rest)
    | _ => none

def typeSimple? (name : Spelling × Spelling) : Option Simple :=
  match name.1, name.2 with
  | .beyond, _ | _, .beyond => none
  | .text space, .text name =>
    some (.type (.ofText space) (if name == "*" then none else some name))
  | _, _ => some .nothing

def typeName : Reader Spelling
  | '*' :: cs => some (.text "*", cs)
  | cs => identifier cs

def typeSelector : Reader (Option Simple) := fun cs =>
  (qualified typeName cs).map fun (name, rest) => (typeSimple? name, rest)

def digits (cs : List Char) : List Char × List Char :=
  (cs.takeWhile isAsciiDigit, cs.dropWhile isAsciiDigit)

def natOfDigits (ds : List Char) : Nat := ofDigits (ds.map asciiDigitValue)

def sign : List Char → Option (Int × List Char)
  | '-' :: cs => some (-1, cs)
  | '+' :: cs => some (1, cs)
  | _ => none

def formulaOffset (cs : List Char) : Int × List Char :=
  match sign (skipSpace cs) with
  | some (s, rest) =>
    match digits (skipSpace rest) with
    | ([], _) => (0, cs)
    | (ds, rest) => (s * natOfDigits ds, rest)
  | none => (0, cs)

def isFormulaLetter (c : Char) : Bool := c == 'n' || c == 'N'

def formula : Reader (Int × Int) := fun cs =>
  match cs.map lowerAscii with
  | 'e' :: 'v' :: 'e' :: 'n' :: _ => some ((2, 0), cs.drop 4)
  | 'o' :: 'd' :: 'd' :: _ => some ((2, 1), cs.drop 3)
  | _ =>
    let (s, rest) := (sign cs).getD (1, cs)
    match digits rest with
    | ([], c :: rest) =>
      if isFormulaLetter c then
        let (offset, rest) := formulaOffset rest
        some ((s, offset), rest)
      else none
    | ([], []) => none
    | (ds, c :: rest) =>
      if isFormulaLetter c then
        let (offset, rest) := formulaOffset rest
        some ((s * natOfDigits ds, offset), rest)
      else some ((0, s * natOfDigits ds), c :: rest)
    | (ds, []) => some ((0, s * natOfDigits ds), [])

def emptyStates : List String :=
  ["active", "autofill", "current", "focus", "focus-visible", "focus-within", "future", "host",
    "hover", "local-link", "past", "paused", "playing", "target", "target-within", "user-invalid",
    "visited"]

def states : List (String × State) :=
  [("any-link", .link), ("checked", .checked), ("default", .default), ("disabled", .disabled),
    ("enabled", .enabled), ("in-range", .inRange), ("indeterminate", .indeterminate),
    ("link", .link), ("muted", .muted), ("open", .open), ("optional", .optional),
    ("out-of-range", .outOfRange), ("placeholder-shown", .placeholderShown),
    ("read-only", .readOnly), ("read-write", .readWrite), ("required", .required)]

def plainPseudo? (name : String) : Option (List Token) :=
  let simples (ss : List Simple) : Option (List Token) := some (ss.map fun s => .simple (some s))
  match name with
  | "root" => simples [.root]
  | "scope" => simples [.scope]
  | "empty" => simples [.empty]
  | "first-child" => simples [.nth 0 1 false false]
  | "last-child" => simples [.nth 0 1 true false]
  | "only-child" => simples [.nth 0 1 false false, .nth 0 1 true false]
  | "first-of-type" => simples [.nth 0 1 false true]
  | "last-of-type" => simples [.nth 0 1 true true]
  | "only-of-type" => simples [.nth 0 1 false true, .nth 0 1 true true]
  | "defined" => some [.onlyHtml, .simple (some (.state .defined))]
  | name =>
    match states.lookup name with
    | some s => simples [.state s]
    | none => if emptyStates.contains name then simples [.nothing] else none

def opening? (name : String) : Option Opening :=
  match name with
  | "is" | "where" => some (.group .anyOf)
  | "not" => some (.group .noneOf)
  | "has" => some (.group .has)
  | "matches" | "contains" | "-soup-contains" | "-soup-contains-own" => some .strict
  | "current" | "host" | "host-context" => some .nothing
  | _ => none

def closed (ts : List Token) (cs : List Char) : Option (List Token × List Char) :=
  match skipSpace cs with
  | ')' :: rest => some (ts, rest)
  | _ => none

def nthChild (fromEnd : Bool) : Reader (List Token) := fun cs => do
  let ((step, offset), rest) ← formula cs
  closed [.simple (some (.nth step offset fromEnd false))] rest <|> do
    let rest ← skipSeparation? rest
    match rest.map lowerAscii with
    | 'o' :: 'f' :: _ =>
      let rest ← skipSeparation? (rest.drop 2)
      return ([.opening (.nth step offset fromEnd)], rest)
    | _ => none

def nthOfType (fromEnd : Bool) : Reader (List Token) := fun cs => do
  let ((step, offset), rest) ← formula cs
  closed [.simple (some (.nth step offset fromEnd true))] rest

def ofValues (make : List String → Simple) : Reader (List Token) := fun cs => do
  let (vs, rest) ← values cs
  closed [.simple ((Spelling.texts? vs).map make)] rest

def directed : Reader (List Token) := fun cs =>
  match cs.map lowerAscii with
  | 'l' :: 't' :: 'r' :: _ =>
    closed [.onlyHtml, .simple (some (.direction .leftToRight))] (cs.drop 3)
  | 'r' :: 't' :: 'l' :: _ =>
    closed [.onlyHtml, .simple (some (.direction .rightToLeft))] (cs.drop 3)
  | _ => none

def opened (name : String) : Reader (List Token) := fun cs =>
  (opening? name).map fun o => ([.opening o], cs)

def called (name : String) : Reader (List Token) := fun cs =>
  match name with
  | "nth-child" => nthChild false cs
  | "nth-last-child" => nthChild true cs
  | "nth-of-type" => nthOfType false cs
  | "nth-last-of-type" => nthOfType true cs
  | "lang" => ofValues .language cs
  | "dir" => directed cs
  | "contains" | "-soup-contains" => ofValues (.contains false) cs <|> opened name cs
  | "-soup-contains-own" => ofValues (.contains true) cs <|> opened name cs
  | _ => opened name cs

def knownPseudo (name : String) : Reader (List Token)
  | '(' :: rest => called name (skipSpace rest)
  | rest => (plainPseudo? name).map fun ts => (ts, rest)

def pseudo : Reader (List Token) := fun cs => do
  let (name, rest) ← identifier cs
  match name with
  | .text name => knownPseudo (lowered name) rest
  | .unmatched => none
  | .beyond => return ([.simple none], rest)

def separator : Reader (List Token) := fun cs =>
  match skipSpace cs with
  | ')' :: rest => some ([.closing], rest)
  | ',' :: rest => some ([.comma], skipSpace rest)
  | '>' :: rest => some ([.combinator .child], skipSpace rest)
  | '+' :: rest => some ([.combinator .next], skipSpace rest)
  | '~' :: rest => some ([.combinator .later], skipSpace rest)
  | _ => (skipSeparation? cs).map fun rest => ([.combinator .descendant], rest)

def token : Reader (List Token) := fun cs =>
  match cs with
  | ':' :: ':' :: cs => (identifier cs).map fun (_, rest) => ([.unsupported], rest)
  | ':' :: cs => pseudo cs
  | '@' :: c :: cs =>
    if c == 'p' || c == 'P' then (identifier cs).map fun (_, rest) => ([.unsupported], rest)
    else none
  | '&' :: cs => some ([.simple (some .scope)], cs)
  | '#' :: cs => (identifier cs).map fun (name, rest) => ([.simple (name.simple? .id)], rest)
  | '.' :: cs => (identifier cs).map fun (name, rest) => ([.simple (name.simple? .className)], rest)
  | '[' :: cs => (bracketed cs).map fun (a, rest) => ([.simple a], rest)
  | cs =>
    match typeSelector cs with
    | some (type, rest) => some ([.leading type], rest)
    | none => separator cs

def tokenBefore (n : Nat) : Reader (List Token) := fun cs =>
  if cs.length ≤ n then none else token cs

def tokens (cs : List Char) : List Token × Bool :=
  let n := closingLength cs
  let (ts, rest) := many (tokenBefore n) (skipSpace cs)
  (ts.flatten, rest.length ≤ n)

end MarkupQuery.Css
