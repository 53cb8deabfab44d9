import MarkupQuery.Extraction.Config

namespace MarkupQuery.Extraction

abbrev Record := List (String × String)

abbrev Memory := List (String × String)

def fill (repeated : List String) (memory : Memory) : Record → Record × Memory
  | [] => ([], memory)
  | (name, text) :: fields =>
    if repeated.contains name then
      if text.isEmpty then
        let (filled, memory') := fill repeated memory fields
        ((name, (memory.lookup name).getD "") :: filled, memory')
      else
        let (filled, memory') := fill repeated ((name, text) :: memory) fields
        ((name, text) :: filled, memory')
    else
      let (filled, memory') := fill repeated memory fields
      ((name, text) :: filled, memory')

def blankNames (names : List String) (r : Record) : List String :=
  names.filter fun name => ((r.lookup name).getD "").isEmpty

end MarkupQuery.Extraction
