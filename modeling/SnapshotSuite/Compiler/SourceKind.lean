/-!
# Kinds of source

The extension of an input file decides how it is parsed.
-/

namespace SnapshotSuite

/-- What an input file holds, by its extension. -/
inductive SourceKind where
  /-- TypeScript, from `.ts`. -/
  | typeScript
  /-- TypeScript with markup, from `.tsx`. -/
  | tsx
  /-- Script from `.js`, which may hold markup. -/
  | javaScript
  /-- Script with markup, from `.jsx`. -/
  | jsx
  /-- Any other extension: script without markup. -/
  | other
deriving DecidableEq, Repr

namespace SourceKind

/-- The kind for an extension, which may have one leading dot. -/
def ofExtension (extension : String) : SourceKind :=
  match extension.toList with
  | ['.', 't', 's'] | ['t', 's'] => .typeScript
  | ['.', 't', 's', 'x'] | ['t', 's', 'x'] => .tsx
  | ['.', 'j', 's'] | ['j', 's'] => .javaScript
  | ['.', 'j', 's', 'x'] | ['j', 's', 'x'] => .jsx
  | _ => .other

/-- Whether the TypeScript parser is needed. -/
def isTypeScript : SourceKind → Bool
  | .typeScript | .tsx => true
  | _ => false

/-- The name of the parser. -/
def parser (kind : SourceKind) : String :=
  if kind.isTypeScript then "typescript" else "ecmascript"

/-- Whether typed markup is parsed. -/
def allowsTsx (kind : SourceKind) : Bool :=
  kind == .tsx

/-- Whether untyped markup is parsed. -/
def allowsJsx : SourceKind → Bool
  | .javaScript | .jsx => true
  | _ => false

end SourceKind

end SnapshotSuite
