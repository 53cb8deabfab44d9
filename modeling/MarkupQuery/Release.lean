namespace MarkupQuery.Release

def version : String := "1.0.0"

def exportedNames : List String :=
  ["ConfigLoader", "Document", "ExtractionConfig", "ExtractorSettings", "MissingContextError",
    "NodeSet", "PSEUDOS", "PseudoSelectorError", "SelectorSyntaxError", "TableRecordExtractor",
    "UnknownPseudoError", "extract", "load", "parse_pseudo", "resolve", "setup_logging",
    "tokenize"]

end MarkupQuery.Release
