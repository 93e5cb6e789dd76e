import SnapshotSuite.Document.Printer
/-!
# Compiler configurations

The document that a compiler is run with, and what can be read off it. A setting is read where it
stands and only if it has the right type.
-/

namespace SnapshotSuite

/-- A merged compiler configuration. -/
structure Configuration where
  /-- The document that is handed to the compiler. -/
  document : Document

namespace Configuration

/-- Equality of configurations, the order of fields left out. -/
def same (a b : Configuration) : Bool :=
  a.document.same b.document

/-- The text that is handed to the compiler. -/
def text (configuration : Configuration) : String :=
  configuration.document.pretty

/-- The name of the parser. -/
def parser? (configuration : Configuration) : Option String :=
  (configuration.document.at? ["jsc", "parser", "syntax"]).bind Document.string?

/-- Whether typed markup is parsed. -/
def tsx? (configuration : Configuration) : Option Bool :=
  (configuration.document.at? ["jsc", "parser", "tsx"]).bind Document.bool?

/-- Whether untyped markup is parsed. -/
def jsx? (configuration : Configuration) : Option Bool :=
  (configuration.document.at? ["jsc", "parser", "jsx"]).bind Document.bool?

/-- The markup runtime. -/
def runtime? (configuration : Configuration) : Option String :=
  (configuration.document.at? ["jsc", "transform", "react", "runtime"]).bind Document.string?

/-- The function that makes elements. -/
def pragma? (configuration : Configuration) : Option String :=
  (configuration.document.at? ["jsc", "transform", "react", "pragma"]).bind Document.string?

/-- The component that makes fragments. -/
def pragmaFrag? (configuration : Configuration) : Option String :=
  (configuration.document.at? ["jsc", "transform", "react", "pragmaFrag"]).bind Document.string?

/-- The path and the payload of a plugin entry: an array of two items, the first a text. -/
def pluginEntry? : Document → Option (String × Document)
  | .array [.string path, payload] => some (path, payload)
  | _ => none

/-- The paths and payloads of the plugins that the compiler is to run. -/
def plugins (configuration : Configuration) : List (String × Document) :=
  (((configuration.document.at? ["jsc", "experimental", "plugins"]).bind Document.items?).getD
    []).filterMap pluginEntry?

end Configuration

end SnapshotSuite
