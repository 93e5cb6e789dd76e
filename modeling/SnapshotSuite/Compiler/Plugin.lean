import SnapshotSuite.Compiler.Configuration
import SnapshotSuite.Compiler.SourceKind
import SnapshotSuite.Tree.Path
/-!
# Plugins and the configurations that run them

`Plugin.configure` merges three sources into the configuration for one input: what the extension of
the input implies, the overrides of the host, and the payload for the plugin. Overrides win field
by field at the root, in `jsc`, in its parser, in its transform and in the transform's markup
settings; where one of these is no object it is passed over. The plugin entry is never merged: it
is the only one, whatever the overrides say.
-/

namespace SnapshotSuite

/-- A compiled plugin, by its path. -/
structure Plugin where
  /-- The path as it stands in configurations. -/
  path : String
deriving DecidableEq, Repr

/-- A path that is no text, shown with its faults replaced. -/
structure PathNotText where
  /-- The path with U+FFFD for each fault. -/
  shown : String
deriving DecidableEq, Repr

/-- The message for a path that is no text. -/
def PathNotText.message (error : PathNotText) : String :=
  "plugin path is not valid UTF-8: " ++ error.shown

namespace Plugin

/-- The plugin at a path given as bytes. A path has to be a text to stand in a document. -/
def ofBytes (path : Bytes) : Except PathNotText Plugin :=
  match Utf8.text? path with
  | some text => .ok ⟨text⟩
  | none => .error ⟨Utf8.lossyText path⟩

/-- The plugin in a file seen from a directory, whose path may be no text. -/
def inDirectory (directory : Bytes) (file : Path) : Except PathNotText Plugin :=
  ofBytes (Path.joinBytes directory file)

/-- The parser settings that a kind of source implies. -/
def parserDefaults (kind : SourceKind) : Fields :=
  [("syntax", .string kind.parser), ("tsx", .bool kind.allowsTsx), ("jsx", .bool kind.allowsJsx)]

/-- The markup settings of the classic runtime. -/
def reactDefaults : Fields :=
  [("runtime", .string "classic"), ("pragma", .string "createElement"),
    ("pragmaFrag", .string "Fragment")]

/-- The experimental settings: this plugin alone, with its payload or an empty one. -/
def entry (plugin : Plugin) (payload : Option Document) : Document :=
  .object [("plugins", .array [.array [.string plugin.path, payload.getD (.object [])]])]

/-- The configuration for an input with an extension. -/
def configure (plugin : Plugin) (extension : String) (host payload : Option Document) :
    Configuration :=
  let root := (host.bind Document.fields?).getD []
  let jsc := Document.objectAt root "jsc"
  let parser := Document.objectAt jsc "parser"
  let transform := Document.objectAt jsc "transform"
  let react := Document.objectAt transform "react"
  let kind := SourceKind.ofExtension extension
  let react := Fields.overlay reactDefaults react
  let transform := Fields.insert "react" (.object react) (Fields.overlay [] transform)
  let jsc := Fields.overlay (Fields.overlay [] jsc)
    [("parser", .object (Fields.overlay (parserDefaults kind) parser)),
      ("transform", .object transform), ("experimental", plugin.entry payload)]
  ⟨.object (Fields.insert "jsc" (.object jsc) (Fields.overlay [] root))⟩

end Plugin

end SnapshotSuite
