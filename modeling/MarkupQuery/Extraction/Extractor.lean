import MarkupQuery.Extraction.Record
import MarkupQuery.Markup.Engine
import MarkupQuery.Pseudo.Evaluation
import MarkupQuery.Settings

namespace MarkupQuery.Extraction

open Markup Pseudo Text

structure Extractor (β : Type) where
  config : Config
  registry : Registry β
  engine : Engine

namespace Extractor

variable {β : Type}

def source : String := "pseudo_select.handlers.table_handler.TableRecordExtractor"

def create (config : Config) (registry : Registry β) (engine : Engine) :
    Traced β (Extractor β) := do
  if config.unknownNames.isEmpty then return ⟨config, registry, engine⟩
  else
    Traced.report .warning source
      ("Поля " ++ quotedList config.unknownNames ++
        " указаны в skip_if_blank/repeat_if_blank, но отсутствуют в fields")
    return ⟨config, registry, engine⟩

variable (x : Extractor β) (lib : Library) (home : Nat)

def readField (row : Node) (field : String × String) : Traced β (String × String) := do
  let found ← Pseudo.resolve lib home x.registry field.2 (.node row)
  return (field.1, trimmed (found.text lib))

def readRow (row : Node) : Traced β Record := Traced.each (x.readField lib home row) x.config.fields

def readRows (memory : Memory) : List Node → Traced β (List Record)
  | [] => .ok []
  | row :: rows => do
    let raw ← x.readRow lib home row
    let (record, memory) := fill (x.config.repeatIfBlank.getD []) memory raw
    let blank := blankNames (x.config.skipIfBlank.getD []) record
    if blank.isEmpty then
      let records ← readRows memory rows
      return record :: records
    else
      Traced.report .debug source ("Строка пропущена, пустые поля: " ++ quotedList blank)
      readRows memory rows

def extract : Traced β (List Record) := do
  let rows ← Pseudo.resolve lib home x.registry x.config.rows .none
  Traced.report .debug source
    ("Найдено строк по селектору " ++ quoted x.config.rows ++ ": " ++ toString rows.size)
  let records ← x.readRows lib home [] rows.nodes
  Traced.report .debug source ("Извлечено записей: " ++ toString records.length)
  return records

def extractContent (content : Content) (others : List Document) : Traced β (List Record) := do
  let document ← Markup.load x.engine.name content
  x.extract ⟨document :: others⟩ 0

end Extractor

end MarkupQuery.Extraction
