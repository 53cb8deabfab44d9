import MarkupQuery.Text.Blank

namespace MarkupQuery.Text

abbrev Reader (α : Type) := List Char → Option (α × List Char)

def many {α : Type} (item : Reader α) (cs : List Char) : List α × List Char :=
  match item cs with
  | some (a, rest) =>
    if rest.length < cs.length then
      let (as, rest) := many item rest
      (a :: as, rest)
    else ([], cs)
  | none => ([], cs)
termination_by cs.length

def skipGaps (cs : List Char) : List Char := cs.dropWhile isGap

def skipPrefix? : List Char → List Char → Option (List Char)
  | [], cs => some cs
  | _ :: _, [] => none
  | p :: ps, c :: cs => if p == c then skipPrefix? ps cs else none

end MarkupQuery.Text
