import MarkupQuery.Fault
import MarkupQuery.Json.Value

namespace MarkupQuery.Json

abbrev Checked (α : Type) := Except (List Issue) α

def Checked.issue {α : Type} (location : List Key) (mismatch : Mismatch) : Checked α :=
  .error [⟨location, mismatch⟩]

def Checked.and {α β : Type} : Checked α → Checked β → Checked (α × β)
  | .ok a, .ok b => .ok (a, b)
  | .ok _, .error bs => .error bs
  | .error as, .ok _ => .error as
  | .error as, .error bs => .error (as ++ bs)

def Checked.fault {α : Type} : Checked α → Except Fault α
  | .ok a => .ok a
  | .error issues => .error (.invalid issues)

def textAt (location : List Key) : Json → Checked String
  | text s => .ok s
  | _ => .issue location .notText

def itemsAt (location : List Key) (i : Nat) : List Json → Checked (List String)
  | [] => .ok []
  | v :: vs =>
    ((textAt (location ++ [.index i]) v).and (itemsAt location (i + 1) vs)).map fun p => p.1 :: p.2

def textsAt (location : List Key) : Json → Checked (List String)
  | list vs => itemsAt location 0 vs
  | _ => .issue location .notList

def optionalTextsAt (location : List Key) : Option Json → Checked (Option (List String))
  | none => .ok none
  | some null => .ok none
  | some v => (textsAt location v).map some

def membersAt (location : List Key) : List (String × Json) → Checked (List (String × String))
  | [] => .ok []
  | (k, v) :: ms =>
    ((textAt (location ++ [.field k]) v).and (membersAt location ms)).map fun p => (k, p.1) :: p.2

def textMembersAt (location : List Key) : Json → Checked (List (String × String))
  | object ms => membersAt location ms
  | _ => .issue location .notDictionary

end MarkupQuery.Json
