import SnapshotSuite.Proofs.Compiler.FixedPoint

/-!
# The order of keys in a configuration

Every object that a configuration is built of has the keys of two lists, those of the second list
behind those of the first. Where settings have defaults, the keys of the defaults come first. Where
settings are put into the overrides, the keys of the overrides come first, and a setting that is put
in the place of something else stands where that stood, whatever it was.
-/

namespace SnapshotSuite

namespace Document

variable {host : Option Document} {level : List String} {fields : Fields}

/-- The keys of the object that stands behind a list of keys, in order; no keys if none stands
there. -/
def keysAt (host : Option Document) (level : List String) : List String :=
  Fields.keys (fieldsAt host level)

lemma keysAt_of_object (h : host.bind (·.at? level) = some (.object fields)) :
    keysAt host level = Fields.keys fields := by
  rw [keysAt, fieldsAt, h]
  rfl

/-- What is no object has no keys. -/
lemma keysAt_eq_nil (h : ∀ fields, host.bind (·.at? level) ≠ some (.object fields)) :
    keysAt host level = [] := by
  rw [keysAt, fieldsAt]
  cases hlevel : host.bind (·.at? level) with
  | none => rfl
  | some document =>
    cases document with
    | object fields => exact absurd hlevel (h fields)
    | null | bool | number | string | array => rfl

/-- An object stands behind a list of keys, and its own keys are those of another list, in order and
none of them twice. -/
def HasKeys (document : Document) (level keys : List String) : Prop :=
  ∃ fields, document.at? level = some (.object fields) ∧ Fields.keys fields = keys ∧
    Fields.Unique fields

end Document

namespace Plugin

open Document

variable (plugin : Plugin) (extension : String) {host : Option Document}
  (payload : Option Document)

section Levels

variable (hhost : ∀ document ∈ host, document.UniqueKeys)
include hhost

lemma keys_parserFields :
    Fields.keys (parserFields extension host) =
      Fields.joinKeys ["syntax", "tsx", "jsx"] (keysAt host ["jsc", "parser"]) :=
  Fields.keys_overlay (unique_fieldsAt hhost _) _

lemma keys_reactFields :
    Fields.keys (reactFields host) =
      Fields.joinKeys ["runtime", "pragma", "pragmaFrag"]
        (keysAt host ["jsc", "transform", "react"]) :=
  Fields.keys_overlay (unique_fieldsAt hhost _) _

lemma keys_transformFields :
    Fields.keys (transformFields host) =
      Fields.joinKeys (keysAt host ["jsc", "transform"]) ["react"] := by
  rw [transformFields, Fields.keys_insert_eq_joinKeys,
    Fields.overlay_nil_left (unique_fieldsAt hhost _), keysAt]

lemma keys_jscFields :
    Fields.keys (jscFields plugin extension host payload) =
      Fields.joinKeys (keysAt host ["jsc"]) ["parser", "transform", "experimental"] := by
  rw [jscFields, Fields.overlay_nil_left (unique_fieldsAt hhost _)]
  exact Fields.keys_overlay (by simp [Fields.Unique]) _

lemma keys_rootFields :
    Fields.keys (rootFields plugin extension host payload) =
      Fields.joinKeys (keysAt host []) ["jsc"] := by
  rw [rootFields, Fields.keys_insert_eq_joinKeys,
    Fields.overlay_nil_left (unique_fieldsAt hhost _), keysAt]

end Levels

/-- Every object that a configuration is built of has no key twice, and its keys are in this order:
those of the parser and of the markup settings are the keys of the defaults and then the others of
the overrides; those of the transform, of `jsc` and of the root are the keys of the overrides and then
the settings that the overrides lack, and a setting that they have, of whatever type, stays in its
place. Overrides that are no object, or stand inside something that is none, have no keys. -/
theorem configure_key_order (plugin : Plugin) (extension : String)
    (host payload : Option Document) (hhost : ∀ document ∈ host, document.UniqueKeys) :
    let document := (plugin.configure extension host payload).document
    document.HasKeys ["jsc", "parser"]
        (Fields.joinKeys ["syntax", "tsx", "jsx"] (keysAt host ["jsc", "parser"])) ∧
      document.HasKeys ["jsc", "transform", "react"]
        (Fields.joinKeys ["runtime", "pragma", "pragmaFrag"]
          (keysAt host ["jsc", "transform", "react"])) ∧
      document.HasKeys ["jsc", "transform"]
        (Fields.joinKeys (keysAt host ["jsc", "transform"]) ["react"]) ∧
      document.HasKeys ["jsc"]
        (Fields.joinKeys (keysAt host ["jsc"]) ["parser", "transform", "experimental"]) ∧
      document.HasKeys [] (Fields.joinKeys (keysAt host []) ["jsc"]) ∧
      document.HasKeys ["jsc", "experimental"] ["plugins"] ∧
      (∀ level fields, host.bind (·.at? level) = some (.object fields) →
        keysAt host level = Fields.keys fields) ∧
      ∀ level, (∀ fields, host.bind (·.at? level) ≠ some (.object fields)) →
        keysAt host level = [] := by
  intro document
  refine ⟨?parser, ?react, ?transform, ?jsc, ?root, ?entry, fun _ _ => keysAt_of_object,
    fun _ => keysAt_eq_nil⟩
  case parser =>
    exact ⟨_, at?_parser_eq plugin extension payload hhost, keys_parserFields extension hhost,
      unique_parserFields extension host⟩
  case react =>
    exact ⟨_, at?_react_eq plugin extension payload hhost, keys_reactFields hhost,
      unique_reactFields host⟩
  case transform =>
    exact ⟨_, at?_transform_eq plugin extension payload hhost, keys_transformFields hhost,
      unique_transformFields host⟩
  case jsc =>
    exact ⟨_, at?_jsc_eq plugin extension payload hhost,
      keys_jscFields plugin extension payload hhost,
      unique_jscFields plugin extension host payload⟩
  case root =>
    exact ⟨_, congrArg some (document_configure plugin extension host payload),
      keys_rootFields plugin extension payload hhost,
      unique_rootFields plugin extension host payload⟩
  case entry =>
    exact ⟨_, at?_experimental plugin extension host payload, rfl, by simp [Fields.Unique]⟩

/-- Settings in the midst of overrides, one of them in the place of a number, and new ones behind
them. -/
theorem configure_key_order_of_odd_overrides :
    let host : Document := .object [("jsc", .object [("target", .string "es5"),
        ("transform", .object [("react", .number (.integer 5)), ("hidden", .null)]),
        ("parser", .object [("dynamicImport", .bool true), ("tsx", .bool false)])]),
      ("minify", .bool true)]
    let document := ((⟨"plugin.wasm"⟩ : Plugin).configure ".ts" (some host) none).document
    host.UniqueKeys ∧ document.HasKeys [] ["jsc", "minify"] ∧
      document.HasKeys ["jsc"] ["target", "transform", "parser", "experimental"] ∧
      document.HasKeys ["jsc", "parser"] ["syntax", "tsx", "jsx", "dynamicImport"] ∧
      document.HasKeys ["jsc", "transform"] ["react", "hidden"] ∧
      document.HasKeys ["jsc", "transform", "react"] ["runtime", "pragma", "pragmaFrag"] := by
  intro host document
  have hunique : host.UniqueKeys := by
    simp [host, Fields.Unique, Fields.keys, UniqueKeys.null, UniqueKeys.bool, UniqueKeys.number,
      UniqueKeys.string]
  obtain ⟨hparser, hreact, htransform, hjsc, hroot, -⟩ :=
    configure_key_order ⟨"plugin.wasm"⟩ ".ts" (some host) none (by simpa using hunique)
  exact ⟨hunique, hroot, hjsc, hparser, htransform, hreact⟩

end Plugin

end SnapshotSuite
