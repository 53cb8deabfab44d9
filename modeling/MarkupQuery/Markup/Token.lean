import MarkupQuery.Text.Blank
import MarkupQuery.Text.Letter
import MarkupQuery.Text.Reading

namespace MarkupQuery.Markup

open Text

inductive Token
  | text (content : String)
  | comment (content : String)
  | doctype (content : String)
  | instruction (content : String)
  | section (content : String)
  | opening (name : String) (attributes : List (String × String)) (isClosed : Bool)
  | closing (name : String)
  deriving DecidableEq, Repr

def splitAtFirst? (stop : List Char) : List Char → Option (List Char × List Char)
  | [] => none
  | c :: cs =>
    match skipPrefix? stop (c :: cs) with
    | some rest => some ([], rest)
    | none => (splitAtFirst? stop cs).map fun (before, rest) => (c :: before, rest)

def splitAtFirst (stop cs : List Char) : List Char × List Char :=
  (splitAtFirst? stop cs).getD (cs, [])

def isAsciiLetter (c : Char) : Bool := ('a' ≤ c && c ≤ 'z') || ('A' ≤ c && c ≤ 'Z')

def firstOfNames : List (String × String) → List (String × String)
  | [] => []
  | a :: as => a :: (firstOfNames as).filter (·.1 != a.1)

def lastOfNames : List (String × String) → List (String × String)
  | [] => []
  | a :: as =>
    let as := lastOfNames as
    (a.1, (as.lookup a.1).getD a.2) :: as.filter (·.1 != a.1)

def literal : Reader String
  | '"' :: cs => (splitAtFirst? ['"'] cs).map fun (inside, rest) => (String.ofList inside, rest)
  | '\'' :: cs => (splitAtFirst? ['\''] cs).map fun (inside, rest) => (String.ofList inside, rest)
  | _ => none

def identifiersText (cs : List Char) : String :=
  let keyword := String.ofList ((cs.take 6).map Char.toUpper)
  match keyword, literal (skipGaps (cs.drop 6)) with
  | "PUBLIC", some (publicId, rest) =>
    match literal (skipGaps rest) with
    | some (systemId, _) => " PUBLIC \"" ++ publicId ++ "\" \"" ++ systemId ++ "\""
    | none => " PUBLIC \"" ++ publicId ++ "\""
  | "SYSTEM", some (systemId, _) => " SYSTEM \"" ++ systemId ++ "\""
  | _, _ => ""

def doctypeText (cs : List Char) : String :=
  let cs := skipGaps cs
  let name := cs.takeWhile fun c => !isGap c && c != '>' && c != '['
  String.ofList name ++ identifiersText (skipGaps (cs.drop name.length))

def textTokens (s : String) : List Token := if s.isEmpty then [] else [.text s]

def unified : List Char → List Char
  | [] => []
  | '\r' :: '\n' :: cs => '\n' :: unified cs
  | '\r' :: cs => '\n' :: unified cs
  | c :: cs => c :: unified cs

def isDoctype (cs : List Char) : Bool := (cs.take 7).map lowerAscii == "doctype".toList

end MarkupQuery.Markup
