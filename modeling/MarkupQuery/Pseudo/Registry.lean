import MarkupQuery.Pseudo.Operation
import MarkupQuery.Text.Order
import MarkupQuery.Trace

namespace MarkupQuery.Pseudo

open Text

abbrev Handler (β : Type) := Library → NodeSet → List Value → Traced β Value

def builtins : List (String × Operation) :=
  [("parent", .parent), ("parents", .parents), ("closest", .closest), ("next", .next),
    ("nextAll", .nextAll), ("prev", .prev), ("prevAll", .prevAll), ("slice", .slice),
    ("siblings", .siblings), ("children", .children), ("contents", .contents),
    ("filter", .filter), ("not", .exclude), ("has", .has), ("first", .first), ("last", .last),
    ("eq", .eq), ("add", .add)]

def builtinNames : List String := builtins.map (·.1)

-- Applies an operation as a pseudo-class. Operations without arguments ignore those of the call, an
-- index is 0 where it is not given, and only a selector is added.
def applyBuiltin (lib : Library) (op : Operation) (s : NodeSet) (arguments : List Value) :
    Except Fault NodeSet :=
  match op, arguments with
  | .contents, _ => op.apply lib s []
  | .first, _ => op.apply lib s []
  | .last, _ => op.apply lib s []
  | .eq, [] => op.apply lib s [.int 0]
  | .eq, [.none] => op.apply lib s [.int 0]
  | .add, [] => op.apply lib s [.none]
  | .add, _ :: _ :: _ => .error .arity
  | op, arguments => op.apply lib s arguments

def Handler.builtin {β : Type} (op : Operation) : Handler β := fun lib s arguments =>
  .ofExcept ((applyBuiltin lib op s arguments).map .set)

structure Registry (β : Type) where
  extras : List (String × Option (Handler β))

namespace Registry

variable {β : Type}

def builtin : Registry β := ⟨[]⟩

def handler? (r : Registry β) (name : String) : Option (Handler β) :=
  match r.extras.lookup name with
  | some h => h
  | none => (builtins.lookup name).map Handler.builtin

def isBuiltin (r : Registry β) : Bool := r.extras.isEmpty

def extraNames (r : Registry β) : List String := sortTexts (firsts (r.extras.map (·.1)))

def names (r : Registry β) : List String :=
  sortTexts (firsts (r.extras.map (·.1) ++ builtinNames))

def overridden (r : Registry β) : List String := r.extraNames.filter builtinNames.contains

def source : String := "pseudo_select.parsers.registry"

def announce {γ : Type} (r : Registry β) : Traced γ Unit :=
  if r.overridden.isEmpty then .ok ()
  else .report .debug source
    ("Переопределены встроенные псевдо-классы: " ++ quotedList r.overridden)

end Registry

end MarkupQuery.Pseudo
