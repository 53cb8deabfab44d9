import MarkupQuery.Json.Reader
import MarkupQuery.Json.Writer
import MarkupQuery.Loader.Session
import MarkupQuery.Settings

namespace MarkupQuery

open Extraction Files Text

namespace Loader

def settingsName : String := "extractor_config.json"

def extractorsName : String := "extractors.json"

def source : String := "pseudo_select.config.loader"

def report (level : Level) (message : String) : Session Unit :=
  Session.traced (.report level source message)

def create (disk : Disk) (directory : Path) : Except Fault Workspace :=
  (disk.makeDirectories directory).map fun disk => ⟨disk, directory, []⟩

def unifyLines : List Char → List Char
  | [] => []
  | '\r' :: '\n' :: cs => '\n' :: unifyLines cs
  | c :: cs => (if c == '\r' then '\n' else c) :: unifyLines cs

def pathOr (path : Option Path) (name : String) : Session Path := do
  let w ← Session.workspace
  return path.getD (w.loader.directory.join name)

def readJson (path : Path) : Session Json := do
  let w ← Session.workspace
  let text ← Session.ofExcept (w.disk.read path)
  match Json.read (String.ofList (unifyLines text.toList)) with
  | .ok v => return v
  | .error (.json fault) =>
    report .error ("Ошибка парсинга JSON в " ++ path.toText ++ ": " ++ fault.message)
    Session.ofExcept (.error (.json fault))
  | .error fault => Session.ofExcept (.error fault)

def writeJson (path : Path) (v : Json) : Session Unit := do
  let w ← Session.workspace
  let disk ← Session.ofExcept (w.disk.write path v.render)
  Session.setDisk disk
  report .debug ("Конфигурация сохранена в " ++ path.toText)

def loadSettings (path : Option Path) : Session Settings := do
  let path ← pathOr path settingsName
  let w ← Session.workspace
  if w.disk.holds path then
    let v ← readJson path
    let settings ← Session.ofExcept (Settings.ofJson v)
    report .info ("Настройки загружены из " ++ path.toText)
    return settings
  else
    report .warning ("Файл настроек не найден: " ++ path.toText)
    report .info "Создаю настройки по умолчанию"
    let settings := { Settings.default with directory := w.loader.directory.toText }
    writeJson path settings.toJson
    return settings

def entriesOf : Json → Except Fault (List (String × Json))
  | .object ms =>
    match ms.lookup "extractors" with
    | none => .ok []
    | some (.object entries) => .ok entries
    | some _ => .error .noMembers
  | _ => .error .noMembers

def addEntries (known : List (String × Config)) : List (String × Json) →
    Session (List (String × Config))
  | [] => return known
  | (name, v) :: entries => do
    let config ← Session.ofExcept (Config.ofJson v)
    if !config.unknownNames.isEmpty then
      report .warning ("Конфигурация " ++ name ++ ": поля " ++ quotedList config.unknownNames ++
        " указаны в политике пустых значений, но отсутствуют в fields")
    let known := assign name config known
    Session.remember known
    addEntries known entries

def loadExtractors (path : Option Path) : Session (List (String × Config)) := do
  let path ← pathOr path extractorsName
  let w ← Session.workspace
  if w.disk.holds path then
    let v ← readJson path
    Session.remember []
    let entries ← Session.ofExcept (entriesOf v)
    let known ← addEntries [] entries
    report .info ("Загружено конфигураций извлечения: " ++ toString known.length)
    return known
  else
    report .warning ("Файл конфигураций извлечения не найден: " ++ path.toText)
    Session.remember []
    return []

def ensureKnown : Session (List (String × Config)) := do
  let w ← Session.workspace
  if w.loader.known.isEmpty then loadExtractors none else return w.loader.known

def getExtractor (name : String) : Session (Option Config) := do
  let known ← ensureKnown
  return known.lookup name

def fileOf (known : List (String × Config)) : Json :=
  .object [("extractors", .object (known.map fun k => (k.1, k.2.stored)))]

-- Gives a name a configuration and writes all that are known to a file. If none are known, the file
-- is loaded first.
def saveExtractor (name : String) (config : Config) (path : Option Path) : Session Config := do
  let path ← pathOr path extractorsName
  let w ← Session.workspace
  if w.loader.known.isEmpty && w.disk.holds path then
    let _ ← loadExtractors (some path)
  let w ← Session.workspace
  let known := w.loader.known
  report .debug
    ((if known.any (·.1 == name) then "Обновлена" else "Добавлена") ++
      " конфигурация извлечения " ++ name)
  Session.remember (assign name config known)
  writeJson path (fileOf (assign name config known))
  return config

def saveValue (name : String) (v : Json) (path : Option Path) : Session Config := do
  let config ← Session.ofExcept (Config.ofJson v)
  saveExtractor name config path

end Loader

end MarkupQuery
