import SnapshotSuite.Proofs.Compiler.Entry
import SnapshotSuite.Proofs.Document.Overlay

/-!
# Configurations as overrides

A configuration that is given as overrides decides everything but the plugin entry. Its levels have
no key twice and begin with the keys of the defaults, so each level laid over the defaults is what
it was, and every setting that is set anew stands where it stood.
-/

namespace SnapshotSuite

namespace Document

variable {fields inner : Fields} {key : String}

lemma objectAt_of_get? (h : Fields.get? fields key = some (.object inner)) :
    objectAt fields key = inner := by
  rw [objectAt, h]
  rfl

end Document

namespace Plugin

open Document

variable (plugin second : Plugin) (extension other : String)
  (host payload payload' : Option Document)

/-! ### No level has a key twice -/

lemma unique_parserFields : Fields.Unique (parserFields extension host) :=
  Fields.unique_overlay (by simp [parserDefaults, Fields.Unique]) _

lemma unique_reactFields : Fields.Unique (reactFields host) :=
  Fields.unique_overlay (by simp [reactDefaults, Fields.Unique]) _

lemma unique_transformFields : Fields.Unique (transformFields host) :=
  Fields.unique_insert (Fields.unique_overlay_nil _) _ _

lemma unique_jscFields : Fields.Unique (jscFields plugin extension host payload) :=
  Fields.unique_overlay (Fields.unique_overlay_nil _) _

lemma unique_rootFields : Fields.Unique (rootFields plugin extension host payload) :=
  Fields.unique_insert (Fields.unique_overlay_nil _) _ _

/-! ### The levels of a configuration as overrides -/

lemma fieldsAt_nil_configure :
    fieldsAt (some (plugin.configure extension host payload).document) [] =
      rootFields plugin extension host payload := by
  rw [document_configure]
  rfl

lemma fieldsAt_jsc_configure :
    fieldsAt (some (plugin.configure extension host payload).document) ["jsc"] =
      jscFields plugin extension host payload := by
  rw [← List.nil_append ["jsc"], ← objectAt_fieldsAt, fieldsAt_nil_configure]
  refine objectAt_of_get? ?_
  rw [rootFields, Fields.get?_insert, if_pos rfl]

lemma get?_parser_jscFields :
    Fields.get? (jscFields plugin extension host payload) "parser" =
      some (.object (parserFields extension host)) := by
  rw [jscFields_eq, Fields.get?_insert, if_neg (by decide), Fields.get?_insert, if_neg (by decide),
    Fields.get?_insert, if_pos rfl]

lemma get?_transform_jscFields :
    Fields.get? (jscFields plugin extension host payload) "transform" =
      some (.object (transformFields host)) := by
  rw [jscFields_eq, Fields.get?_insert, if_neg (by decide), Fields.get?_insert, if_pos rfl]

lemma get?_react_transformFields :
    Fields.get? (transformFields host) "react" = some (.object (reactFields host)) := by
  rw [transformFields, Fields.get?_insert, if_pos rfl]

lemma fieldsAt_parser_configure :
    fieldsAt (some (plugin.configure extension host payload).document) ["jsc", "parser"] =
      parserFields extension host := by
  refine (objectAt_fieldsAt _ ["jsc"] "parser").symm.trans ?_
  rw [fieldsAt_jsc_configure]
  exact objectAt_of_get? (get?_parser_jscFields plugin extension host payload)

lemma fieldsAt_transform_configure :
    fieldsAt (some (plugin.configure extension host payload).document) ["jsc", "transform"] =
      transformFields host := by
  refine (objectAt_fieldsAt _ ["jsc"] "transform").symm.trans ?_
  rw [fieldsAt_jsc_configure]
  exact objectAt_of_get? (get?_transform_jscFields plugin extension host payload)

lemma fieldsAt_react_configure :
    fieldsAt (some (plugin.configure extension host payload).document)
        ["jsc", "transform", "react"] =
      reactFields host := by
  refine (objectAt_fieldsAt _ ["jsc", "transform"] "react").symm.trans ?_
  rw [fieldsAt_transform_configure]
  exact objectAt_of_get? (get?_react_transformFields host)

/-! ### Each level, built once more -/

/-- The parser settings already have every default in its place, so no extension adds anything. -/
lemma parserFields_configure :
    parserFields other (some (plugin.configure extension host payload).document) =
      parserFields extension host := by
  rw [parserFields, fieldsAt_parser_configure]
  exact Fields.overlay_eq_of_prefix (unique_parserFields extension host)
    (Fields.keys_prefix_keys_overlay (parserDefaults (SourceKind.ofExtension extension)) _)

lemma reactFields_configure :
    reactFields (some (plugin.configure extension host payload).document) = reactFields host := by
  rw [reactFields, fieldsAt_react_configure]
  exact Fields.overlay_eq_of_prefix (unique_reactFields host)
    (Fields.keys_prefix_keys_overlay reactDefaults _)

lemma transformFields_configure :
    transformFields (some (plugin.configure extension host payload).document) =
      transformFields host := by
  rw [transformFields, reactFields_configure, fieldsAt_transform_configure,
    Fields.overlay_nil_left (unique_transformFields host)]
  exact Fields.insert_of_get?_eq_some (get?_react_transformFields host)

/-- In `jsc` the parser and the transform are already what they are set to, and the entry of the
first plugin gives way to that of the second. -/
lemma jscFields_configure :
    jscFields second other (some (plugin.configure extension host payload).document) payload' =
      jscFields second extension host payload' := by
  rw [jscFields_eq, parserFields_configure, transformFields_configure, fieldsAt_jsc_configure,
    Fields.overlay_nil_left (unique_jscFields plugin extension host payload),
    Fields.insert_of_get?_eq_some (get?_parser_jscFields plugin extension host payload),
    Fields.insert_of_get?_eq_some (get?_transform_jscFields plugin extension host payload),
    jscFields_eq, Fields.insert_insert, ← jscFields_eq]

lemma rootFields_configure :
    rootFields second other (some (plugin.configure extension host payload).document) payload' =
      rootFields second extension host payload' := by
  rw [rootFields, jscFields_configure, fieldsAt_nil_configure,
    Fields.overlay_nil_left (unique_rootFields plugin extension host payload), rootFields,
    Fields.insert_insert, ← rootFields]

/-- With a configuration as overrides, whatever plugin and payload it was made for, the outcome is
that of the overrides and the extension it was made from, field for field and in the same order. A
new extension has no effect. For the plugin and the payload that it was made for, a configuration is
therefore its own outcome. -/
theorem configure_configured (first second : Plugin) (extension other : String)
    (host payload payload' : Option Document) :
    let resolved := (first.configure extension host payload).document
    (second.configure other (some resolved) payload').document =
        (second.configure extension host payload').document ∧
      (second.configure other (some resolved) payload').text =
        (second.configure extension host payload').text ∧
      (first.configure other (some resolved) payload).document = resolved := by
  intro resolved
  have hagain : ∀ (plugin : Plugin) (payload' : Option Document),
      (plugin.configure other (some resolved) payload').document =
        (plugin.configure extension host payload').document := by
    intro plugin payload'
    rw [document_configure, document_configure,
      rootFields_configure first plugin extension other host payload payload']
  refine ⟨hagain second payload', ?_, hagain first payload⟩
  rw [Configuration.text, Configuration.text, hagain second payload']

end Plugin

end SnapshotSuite
