import MarkupQuery.Markup.Engine
import MarkupQuery.Schema.Basic
import MarkupQuery.Settings

namespace MarkupQuery.Schema

open Markup

def dialect : String × Json := ("$schema", .text "http://json-schema.org/draft-2020-12/schema#")

def title (s : String) : String × Json := ("title", .text s)

def description (s : String) : String × Json := ("description", .text s)

def defaultNote (v : Json) : String × Json := ("default", v)

def ofProperties (notes : List (String × Json)) (properties : List (String × Schema))
    (required : List String) (others : Others Schema) : Schema :=
  ⟨notes, [.object], none, none, none, some properties, required, others⟩

def choice (notes : List (String × Json)) (choices : List String) : Schema :=
  { ofKinds notes [.string] with choices := some choices }

def filled (notes : List (String × Json)) : Schema :=
  { ofKinds notes [.string] with minLength := some 1 }

def textList (notes : List (String × Json)) : Schema :=
  { ofKinds notes [.array, .null] with items := some (ofKinds [] [.string]) }

def settings : Schema :=
  let own := MarkupQuery.Settings.default
  ofProperties
    [dialect, title "Extractor Settings", description "Настройки окружения экстрактора",
      ("additionalProperties", .bool true)]
    [("parser", choice [defaultNote (.text own.engine.name),
        description "Построитель дерева BeautifulSoup"] (Engine.all.map Engine.name)),
      ("log_level", choice [defaultNote (.text own.level.name),
        description "Уровень логирования"] (Level.all.map Level.name)),
      ("verbose", ofKinds [defaultNote (.bool own.verbose), description "Подробный вывод"]
        [.boolean]),
      ("config_dir", ofKinds [defaultNote (.text own.directory),
        description "Директория с конфигурационными файлами"] [.string])]
    [] .free

def extraction : Schema :=
  ofProperties
    [dialect, title "Extraction Configuration",
      description "Конфигурация извлечения записей из таблицы"]
    [("rows", filled [description "Селектор строк"]),
      ("fields", { ofKinds [description "Селекторы полей относительно строки"] [.object] with
        others := .each (filled []) }),
      ("skip_if_blank",
        textList [description "Поля, при пустом значении которых строка пропускается"]),
      ("repeat_if_blank", textList
        [description "Поля, пустое значение которых заменяется последним непустым"])]
    ["rows", "fields"] .forbidden

def extractors : Schema :=
  ofProperties
    [dialect, title "Extractors Configuration File",
      description "Файл именованных конфигураций извлечения"]
    [("extractors", { ofKinds [] [.object] with others := .each extraction })]
    ["extractors"] .free

end MarkupQuery.Schema
