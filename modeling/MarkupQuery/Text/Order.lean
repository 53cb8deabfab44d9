namespace MarkupQuery.Text

def codesLe : List Char → List Char → Bool
  | [], _ => true
  | _ :: _, [] => false
  | c :: cs, d :: ds => c.toNat < d.toNat || (c == d && codesLe cs ds)

def textLe (s t : String) : Bool := codesLe s.toList t.toList

def sortTexts (ss : List String) : List String := ss.mergeSort textLe

end MarkupQuery.Text
