import Mathlib.Data.List.Basic
import SnapshotSuite.Compiler.Plugin
import SnapshotSuite.Proofs.Document.Fields

/-!
# What a merged configuration has at each key

A configuration is built level by level: the root, `jsc`, and in it the parser, the transform and
the markup settings of the transform. `Document.fieldsAt` are the overrides of one level, and the
fields of each level are read off them key by key. What stands in the way of a level without being
an object gives no overrides there, and nothing else comes of it.
-/

namespace SnapshotSuite

namespace Document

variable {document : Document} {host : Option Document} {key : String} {keys : List String}

lemma at?_concat (document : Document) (keys : List String) (key : String) :
    document.at? (keys ++ [key]) = (document.at? keys).bind (·.get? key) := by
  induction keys generalizing document with
  | nil =>
    change (document.get? key).bind some = document.get? key
    exact Option.bind_fun_some _
  | cons first keys ih =>
    change (document.get? first).bind (·.at? (keys ++ [key])) =
      ((document.get? first).bind (·.at? keys)).bind (·.get? key)
    rw [Option.bind_assoc]
    exact congrArg _ (funext fun value => ih value)

/-- Behind an object stand its fields. -/
lemma at?_of_object {fields : Fields} (h : document.at? keys = some (.object fields))
    (key : String) : document.at? (keys ++ [key]) = Fields.get? fields key := by
  rw [at?_concat, h]
  rfl

lemma UniqueKeys.at? (h : UniqueKeys document) {value : Document}
    (hvalue : document.at? keys = some value) : UniqueKeys value := by
  induction keys generalizing document with
  | nil =>
    obtain rfl := Option.some.inj hvalue
    exact h
  | cons first keys ih =>
    obtain ⟨inner, hinner, hrest⟩ := Option.bind_eq_some_iff.mp hvalue
    exact ih (h.get? hinner) hrest

/-- The fields of the object that stands behind a list of keys; no fields if none stands there. -/
def fieldsAt (host : Option Document) (keys : List String) : Fields :=
  ((host.bind (·.at? keys)).bind fields?).getD []

lemma get?_getD_fields? (document : Option Document) (key : String) :
    Fields.get? ((document.bind fields?).getD []) key = document.bind (·.get? key) := by
  cases document with
  | none => rfl
  | some document => cases document <;> rfl

/-- The value at a key of a level is the one behind the keys of the level and that key. -/
lemma get?_fieldsAt (host : Option Document) (keys : List String) (key : String) :
    Fields.get? (fieldsAt host keys) key = host.bind (·.at? (keys ++ [key])) := by
  rw [fieldsAt, get?_getD_fields?, Option.bind_assoc]
  exact congrArg _ (funext fun document => (at?_concat document keys key).symm)

lemma objectAt_fieldsAt (host : Option Document) (keys : List String) (key : String) :
    objectAt (fieldsAt host keys) key = fieldsAt host (keys ++ [key]) := by
  rw [objectAt, get?_fieldsAt, fieldsAt]

lemma unique_fieldsAt (hhost : ∀ document ∈ host, document.UniqueKeys) (keys : List String) :
    Fields.Unique (fieldsAt host keys) := by
  cases hlevel : host.bind (·.at? keys) with
  | none => simp [fieldsAt, hlevel, Fields.Unique]
  | some level =>
    obtain ⟨document, hdocument, hat⟩ := Option.bind_eq_some_iff.mp hlevel
    have hunique : level.UniqueKeys := (hhost document hdocument).at? hat
    cases hfields : level.fields? with
    | none => simp [fieldsAt, hlevel, hfields, Fields.Unique]
    | some fields => simpa [fieldsAt, hlevel, hfields] using hunique.unique hfields

end Document

namespace Plugin

open Document

variable (plugin : Plugin) (extension : String) (host payload : Option Document)

/-! ### The levels -/

/-- The parser settings of a configuration. -/
def parserFields : Fields :=
  Fields.overlay (parserDefaults (SourceKind.ofExtension extension))
    (fieldsAt host ["jsc", "parser"])

/-- The markup settings of a configuration. -/
def reactFields : Fields :=
  Fields.overlay reactDefaults (fieldsAt host ["jsc", "transform", "react"])

/-- The transform settings of a configuration. -/
def transformFields : Fields :=
  Fields.insert "react" (.object (reactFields host))
    (Fields.overlay [] (fieldsAt host ["jsc", "transform"]))

/-- The compiler settings of a configuration. -/
def jscFields : Fields :=
  Fields.overlay (Fields.overlay [] (fieldsAt host ["jsc"]))
    [("parser", .object (parserFields extension host)),
      ("transform", .object (transformFields host)), ("experimental", plugin.entry payload)]

/-- All fields of a configuration. -/
def rootFields : Fields :=
  Fields.insert "jsc" (.object (jscFields plugin extension host payload))
    (Fields.overlay [] (fieldsAt host []))

lemma document_configure :
    (plugin.configure extension host payload).document =
      .object (rootFields plugin extension host payload) := by
  have hroot : (host.bind fields?).getD [] = fieldsAt host [] := by
    rw [fieldsAt]
    cases host <;> rfl
  simp only [configure, hroot, objectAt_fieldsAt, List.nil_append, List.cons_append]
  rfl

/-! ### The fields of each level -/

variable {extension host payload}

section Unique

variable (hhost : ∀ document ∈ host, document.UniqueKeys) (key : String)

include hhost

/-- Overrides laid over nothing are the overrides. -/
lemma get?_overlay_nil_fieldsAt (keys : List String) :
    Fields.get? (Fields.overlay [] (fieldsAt host keys)) key =
      host.bind (·.at? (keys ++ [key])) := by
  rw [Fields.get?_overlay (unique_fieldsAt hhost keys), get?_fieldsAt, Fields.get?_nil,
    Option.or_none]

lemma get?_parserFields (extension : String) :
    Fields.get? (parserFields extension host) key =
      (host.bind (·.at? ["jsc", "parser", key])).or
        (Fields.get? (parserDefaults (SourceKind.ofExtension extension)) key) := by
  rw [parserFields, Fields.get?_overlay (unique_fieldsAt hhost _), get?_fieldsAt]
  rfl

lemma get?_reactFields :
    Fields.get? (reactFields host) key =
      (host.bind (·.at? ["jsc", "transform", "react", key])).or
        (Fields.get? reactDefaults key) := by
  rw [reactFields, Fields.get?_overlay (unique_fieldsAt hhost _), get?_fieldsAt]
  rfl

lemma get?_transformFields :
    Fields.get? (transformFields host) key =
      if key = "react" then some (.object (reactFields host))
      else host.bind (·.at? ["jsc", "transform", key]) := by
  rw [transformFields, Fields.get?_insert, get?_overlay_nil_fieldsAt hhost]
  rfl

lemma get?_jscFields (extension : String) (payload : Option Document) :
    Fields.get? (jscFields plugin extension host payload) key =
      if key = "experimental" then some (plugin.entry payload)
      else if key = "transform" then some (.object (transformFields host))
      else if key = "parser" then some (.object (parserFields extension host))
      else host.bind (·.at? ["jsc", key]) := by
  rw [jscFields, Fields.overlay_cons, Fields.overlay_cons, Fields.overlay_cons, Fields.overlay_nil,
    Fields.get?_insert, Fields.get?_insert, Fields.get?_insert, get?_overlay_nil_fieldsAt hhost]
  rfl

lemma get?_rootFields (extension : String) (payload : Option Document) :
    Fields.get? (rootFields plugin extension host payload) key =
      if key = "jsc" then some (.object (jscFields plugin extension host payload))
      else host.bind (·.get? key) := by
  rw [rootFields, Fields.get?_insert, get?_overlay_nil_fieldsAt hhost]
  congr 1
  exact congrArg _ (funext fun document => at?_concat document [] key)

/-! ### The levels in the document -/

variable (extension payload)

lemma at?_jsc_eq :
    (plugin.configure extension host payload).document.at? ["jsc"] =
      some (.object (jscFields plugin extension host payload)) := by
  have hroot : (plugin.configure extension host payload).document.at? [] =
      some (.object (rootFields plugin extension host payload)) :=
    congrArg some (document_configure plugin extension host payload)
  exact (at?_of_object hroot "jsc").trans (get?_rootFields plugin hhost "jsc" extension payload)

lemma at?_parser_eq :
    (plugin.configure extension host payload).document.at? ["jsc", "parser"] =
      some (.object (parserFields extension host)) :=
  (at?_of_object (at?_jsc_eq plugin extension payload hhost) "parser").trans
    (get?_jscFields plugin hhost "parser" extension payload)

lemma at?_transform_eq :
    (plugin.configure extension host payload).document.at? ["jsc", "transform"] =
      some (.object (transformFields host)) :=
  (at?_of_object (at?_jsc_eq plugin extension payload hhost) "transform").trans
    (get?_jscFields plugin hhost "transform" extension payload)

lemma at?_react_eq :
    (plugin.configure extension host payload).document.at? ["jsc", "transform", "react"] =
      some (.object (reactFields host)) :=
  (at?_of_object (at?_transform_eq plugin extension payload hhost) "react").trans
    (get?_transformFields hhost "react")

end Unique

/-! ### Defaults -/

/-- The extension without its leading dot, if it has one. -/
def bareExtension (extension : String) : String :=
  match extension.toList with
  | '.' :: name => String.ofList name
  | name => String.ofList name

/-- What an extension implies for a key of the parser settings. -/
def parserDefault? (extension key : String) : Option Document :=
  let bare := bareExtension extension
  if key = "syntax" then
    some (.string (if bare ∈ ["ts", "tsx"] then "typescript" else "ecmascript"))
  else if key = "tsx" then some (.bool (bare = "tsx"))
  else if key = "jsx" then some (.bool (bare ∈ ["js", "jsx"]))
  else none

/-- The markup setting that stands at a key without overrides. -/
def reactDefault? (key : String) : Option Document :=
  if key = "runtime" then some (.string "classic")
  else if key = "pragma" then some (.string "createElement")
  else if key = "pragmaFrag" then some (.string "Fragment")
  else none

/-- The kind of a source depends on its bare extension. -/
lemma ofExtension_eq (extension : String) :
    SourceKind.ofExtension extension =
      if bareExtension extension = "ts" then .typeScript
      else if bareExtension extension = "tsx" then .tsx
      else if bareExtension extension = "js" then .javaScript
      else if bareExtension extension = "jsx" then .jsx
      else .other := by
  have hbare : extension.toList = (bareExtension extension).toList ∨
      extension.toList = '.' :: (bareExtension extension).toList := by
    unfold bareExtension
    split
    · next h => exact .inr (by rw [h, String.toList_ofList])
    · exact .inl (by rw [String.toList_ofList])
  split_ifs with hts htsx hjs hjsx
  · rcases hbare with h | h <;> simp [SourceKind.ofExtension, h, hts]
  · rcases hbare with h | h <;> simp [SourceKind.ofExtension, h, htsx]
  · rcases hbare with h | h <;> simp [SourceKind.ofExtension, h, hjs]
  · rcases hbare with h | h <;> simp [SourceKind.ofExtension, h, hjsx]
  · unfold SourceKind.ofExtension
    split
    · next h => exact absurd (by simp [bareExtension, h]) hts
    · next h => exact absurd (by simp [bareExtension, h]) hts
    · next h => exact absurd (by simp [bareExtension, h]) htsx
    · next h => exact absurd (by simp [bareExtension, h]) htsx
    · next h => exact absurd (by simp [bareExtension, h]) hjs
    · next h => exact absurd (by simp [bareExtension, h]) hjs
    · next h => exact absurd (by simp [bareExtension, h]) hjsx
    · next h => exact absurd (by simp [bareExtension, h]) hjsx
    · rfl

lemma get?_parserDefaults (extension key : String) :
    Fields.get? (parserDefaults (SourceKind.ofExtension extension)) key =
      parserDefault? extension key := by
  have hparser : (SourceKind.ofExtension extension).parser =
      if bareExtension extension ∈ ["ts", "tsx"] then "typescript" else "ecmascript" := by
    rw [ofExtension_eq]
    split_ifs <;> simp_all [SourceKind.parser, SourceKind.isTypeScript]
  have htsx : (SourceKind.ofExtension extension).allowsTsx =
      decide (bareExtension extension = "tsx") := by
    rw [ofExtension_eq]
    split_ifs <;> simp_all [SourceKind.allowsTsx]
  have hjsx : (SourceKind.ofExtension extension).allowsJsx =
      decide (bareExtension extension ∈ ["js", "jsx"]) := by
    rw [ofExtension_eq]
    split_ifs <;> simp_all [SourceKind.allowsJsx]
  rw [parserDefaults, hparser, htsx, hjsx, Fields.get?_cons, Fields.get?_cons, Fields.get?_cons,
    Fields.get?_nil]
  rfl

lemma get?_reactDefaults (key : String) :
    Fields.get? reactDefaults key = reactDefault? key := by
  rw [reactDefaults, Fields.get?_cons, Fields.get?_cons, Fields.get?_cons, Fields.get?_nil]
  rfl

/-- What a merged configuration has at each key of its five levels. The levels are objects whatever
the overrides are. A key that the merge does not set has the value of the overrides, where they lead
to one; in the parser and the markup settings it has its default otherwise. -/
theorem configure_at_each_key (plugin : Plugin) (extension : String)
    (host payload : Option Document) (hhost : ∀ document ∈ host, document.UniqueKeys) :
    let document := (plugin.configure extension host payload).document
    (∀ level ∈ [[], ["jsc"], ["jsc", "parser"], ["jsc", "transform"],
          ["jsc", "transform", "react"]],
        ∃ fields, document.at? level = some (.object fields)) ∧
      (∀ key ≠ "jsc", document.get? key = host.bind (·.get? key)) ∧
      (∀ key ∉ ["parser", "transform", "experimental"],
        document.at? ["jsc", key] = host.bind (·.at? ["jsc", key])) ∧
      (∀ key ≠ "react",
        document.at? ["jsc", "transform", key] = host.bind (·.at? ["jsc", "transform", key])) ∧
      (∀ key, document.at? ["jsc", "parser", key] =
        (host.bind (·.at? ["jsc", "parser", key])).or (parserDefault? extension key)) ∧
      ∀ key, document.at? ["jsc", "transform", "react", key] =
        (host.bind (·.at? ["jsc", "transform", "react", key])).or (reactDefault? key) := by
  intro document
  have hroot : document.at? [] = _ :=
    congrArg some (document_configure plugin extension host payload)
  have hjsc : document.at? ["jsc"] = _ := at?_jsc_eq plugin extension payload hhost
  have hparser : document.at? ["jsc", "parser"] = _ := at?_parser_eq plugin extension payload hhost
  have htransform : document.at? ["jsc", "transform"] = _ :=
    at?_transform_eq plugin extension payload hhost
  have hreact : document.at? ["jsc", "transform", "react"] = _ :=
    at?_react_eq plugin extension payload hhost
  refine ⟨?_, fun key hkey => ?_, fun key hkey => ?_, fun key hkey => ?_, fun key => ?_,
    fun key => ?_⟩
  · simp [hroot, hjsc, hparser, htransform, hreact]
  · refine (at?_concat document [] key).symm.trans ((at?_of_object hroot key).trans ?_)
    rw [get?_rootFields plugin hhost, if_neg hkey]
  · simp only [List.mem_cons, List.not_mem_nil, or_false, not_or] at hkey
    refine (at?_of_object hjsc key).trans ?_
    rw [get?_jscFields plugin hhost, if_neg hkey.2.2, if_neg hkey.2.1, if_neg hkey.1]
  · refine (at?_of_object htransform key).trans ?_
    rw [get?_transformFields hhost, if_neg hkey]
  · refine (at?_of_object hparser key).trans ?_
    rw [get?_parserFields hhost, get?_parserDefaults]
  · refine (at?_of_object hreact key).trans ?_
    rw [get?_reactFields hhost, get?_reactDefaults]

/-- Overrides with a parser setting of the wrong type and a transform that is no object. -/
theorem configure_at_each_key_of_odd_overrides :
    let host : Document := .object [("minify", .bool true), ("jsc", .object
      [("parser", .object [("jsx", .null)]), ("transform", .number (.integer 42))])]
    let document := ((⟨"plugin.wasm"⟩ : Plugin).configure ".tsx" (some host) none).document
    host.UniqueKeys ∧ document.get? "minify" = some (.bool true) ∧
      document.at? ["jsc", "parser", "jsx"] = some .null ∧
      document.at? ["jsc", "parser", "tsx"] = some (.bool true) ∧
      document.at? ["jsc", "transform", "react", "pragma"] = some (.string "createElement") := by
  intro host document
  have hunique : host.UniqueKeys := by
    simp [host, Fields.Unique, Fields.keys, UniqueKeys.null, UniqueKeys.bool, UniqueKeys.number]
  obtain ⟨-, hroot, -, -, hparser, hreact⟩ :=
    configure_at_each_key ⟨"plugin.wasm"⟩ ".tsx" (some host) none (by simpa using hunique)
  exact ⟨hunique, hroot "minify" (by decide), hparser "jsx", hparser "tsx", hreact "pragma"⟩

end Plugin

end SnapshotSuite
