import MarkupQuery.Settings

namespace MarkupQuery

structure Logging where
  root : Level
  formats : List String
  levels : List (String × Level)
  deriving DecidableEq, Repr

namespace Logging

def lineFormat : String := "%(asctime)s - %(name)s - %(levelname)s - %(message)s"

def noisyLoggers : List String := ["bs4", "soupsieve"]

def initial : Logging := ⟨.warning, [], []⟩

def level? (l : Logging) (logger : String) : Option Level := l.levels.lookup logger

def opened (l : Logging) : Logging :=
  if l.formats.isEmpty then { l with root := .info, formats := [lineFormat] } else l

def quieted (l : Logging) : Logging :=
  { l with levels := noisyLoggers.foldl (fun levels name => assign name .warning levels) l.levels }

def configure (l : Logging) (s : Settings) : Logging :=
  if s.verbose then { l.opened.quieted with root := .debug } else { l.opened with root := s.level }

end Logging

end MarkupQuery
