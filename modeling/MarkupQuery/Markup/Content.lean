import MarkupQuery.Markup.Charset
import MarkupQuery.Markup.Tree
import MarkupQuery.Text.Reading

/-! Markup as it is given, a text or bytes. Bytes are read in the charset that they declare, if it
is known and fits all of them, else as UTF-8. -/

namespace MarkupQuery.Markup

open Text

inductive Content
  | text (content : String)
  | bytes (content : ByteArray)

structure Source where
  text : String
  charset : Option Charset

def isValueEnd (c : Char) : Bool :=
  c == ' ' || c == '/' || c == ';' || c == '\'' || c == '"' || c == '>'

def isQuote (c : Char) : Bool := c == '"' || c == '\''

def skipSpaces (cs : List Char) : List Char := cs.dropWhile fun c => isGap c || c == '\x0b'

def afterKeyword? (word : String) (cs : List Char) : Option (List Char) :=
  if (cs.take word.length).map lowerAscii == word.toList then some (cs.drop word.length) else none

def firstOf? {α : Type} (read : List Char → Option α) : List Char → Option α
  | [] => none
  | c :: cs => (read (c :: cs)).or (firstOf? read cs)

def lastOf? {α : Type} (read : List Char → Option α) : List Char → Option α
  | [] => none
  | c :: cs => (lastOf? read cs).or (read (c :: cs))

def charsetValue? (cs : List Char) : Option String := do
  let rest ← afterKeyword? "charset" cs
  match skipSpaces rest with
  | '=' :: rest =>
    let rest := skipSpaces rest
    let rest := if rest.head?.any isQuote then rest.drop 1 else rest
    let name := rest.takeWhile fun c => !isValueEnd c
    if name.length < rest.length then some (String.ofList name) else none
  | _ => none

def metaCharset? : List Char → Option String
  | '<' :: cs => do
    let rest ← afterKeyword? "meta" (skipSpaces cs)
    let inside := rest.takeWhile (· != '>')
    lastOf? charsetValue? ((inside ++ (rest.drop inside.length).take 1).drop 1)
  | _ => none

def encodingValue? (cs : List Char) : Option String := do
  let rest ← afterKeyword? "encoding=" cs
  if rest.head?.any isQuote then
    let name := (rest.drop 1).takeWhile fun c => !isQuote c
    let rest := rest.drop (name.length + 2)
    (firstOf? (skipPrefix? ['?', '>']) rest).map fun _ => String.ofList name
  else none

def instructionCharset? (cs : List Char) : Option String :=
  match skipSpaces cs with
  | '<' :: '?' :: rest => lastOf? encodingValue? (rest.takeWhile (· != '\n'))
  | _ => none

def declaredCharset? (dialect : Dialect) (cs : List Char) : Option Charset :=
  let name := (instructionCharset? (cs.take 1024)).or
    (if dialect == .html then firstOf? metaCharset? (cs.take (max 2048 (cs.length / 20))) else none)
  name.bind charset?

def byteOrderMark : List UInt8 := [0xEF, 0xBB, 0xBF]

def sourceOfBytes (dialect : Dialect) (bytes : ByteArray) : Source :=
  let bs := bytes.toList
  if bs.take 3 == byteOrderMark then
    ⟨(String.fromUTF8? (bytes.extract 3 bytes.size)).getD "", some .utf8⟩
  else
    let declared := declaredCharset? dialect (bs.map fun b => Char.ofNat b.toNat)
    match declared, declared.bind (·.decode? bytes) with
    | some charset, some s => ⟨s, some charset⟩
    | _, _ => ⟨(String.fromUTF8? bytes).getD "", some .utf8⟩

namespace Content

def size : Content → Nat
  | text s => s.length
  | bytes b => b.size

def source (dialect : Dialect) : Content → Source
  | text s => ⟨s, none⟩
  | bytes b => sourceOfBytes dialect b

end Content

def withoutMark (cs : List Char) : List Char :=
  match cs with
  | c :: rest => if c.toNat == 0xFEFF then rest else cs
  | [] => []

end MarkupQuery.Markup
