import SnapshotSuite.Proofs.Compiler.Merge

/-!
# The plugin entry stands apart

The experimental settings of a configuration hold the plugin with its payload and nothing else, and
no override reaches them. Nor do they reach anything: `Document.replaceAt` puts a value in the place
of another and leaves all fields where they are, and with any one value in the place of the
experimental settings the configurations of two plugins, or for two payloads, are the same.
-/

namespace SnapshotSuite

namespace Fields

variable {key : String} {change : Document → Document}

/-- Changes the value at a key where it stands. -/
def mapAt (key : String) (change : Document → Document) (fields : Fields) : Fields :=
  fields.map fun field => (field.1, if field.1 = key then change field.2 else field.2)

/-- To set a key and to change it is to set it to the changed value. The old value is gone. -/
lemma mapAt_insert (key : String) (change : Document → Document) (value : Document)
    (fields : Fields) :
    mapAt key change (insert key value fields) =
      insert key (change value) (mapAt key change fields) := by
  induction fields with
  | nil => simp [insert, mapAt]
  | cons field fields ih =>
    obtain ⟨first, old⟩ := field
    by_cases hfirst : first = key
    · simp [insert, mapAt, hfirst]
    · rw [insert, if_neg hfirst]
      simp only [mapAt, List.map_cons, if_neg hfirst] at ih ⊢
      rw [ih, insert, if_neg hfirst]

end Fields

namespace Document

/-- The document with a value in the place of what stands behind a list of keys. The keys of every
object stay, and so does their order. -/
def replaceAt : Document → List String → Document → Document
  | _, [], value => value
  | .object fields, key :: keys, value => .object (Fields.mapAt key (replaceAt · keys value) fields)
  | document, _ :: _, _ => document

/-- To replace something behind a key that was set last is to set the key to the outcome. -/
lemma replaceAt_insert (key : String) (old : Document) (fields : Fields) (keys : List String)
    (value : Document) :
    (Document.object (Fields.insert key old fields)).replaceAt (key :: keys) value =
      .object (Fields.insert key (old.replaceAt keys value)
        (Fields.mapAt key (replaceAt · keys value) fields)) := by
  rw [replaceAt, Fields.mapAt_insert]

end Document

namespace Plugin

open Document

variable (plugin other : Plugin) (extension : String) (host payload payload' : Option Document)

/-- The three settings that are set in `jsc`, one after the other. -/
lemma jscFields_eq :
    jscFields plugin extension host payload =
      Fields.insert "experimental" (plugin.entry payload)
        (Fields.insert "transform" (.object (transformFields host))
          (Fields.insert "parser" (.object (parserFields extension host))
            (Fields.overlay [] (fieldsAt host ["jsc"])))) := rfl

/-- Behind `jsc` stand the compiler settings, whatever the overrides have there. -/
lemma at?_jsc_fields :
    (plugin.configure extension host payload).document.at? ["jsc"] =
      some (.object (jscFields plugin extension host payload)) := by
  have hroot : (plugin.configure extension host payload).document.at? [] =
      some (.object (rootFields plugin extension host payload)) :=
    congrArg some (document_configure plugin extension host payload)
  refine (at?_of_object hroot "jsc").trans ?_
  rw [rootFields, Fields.get?_insert, if_pos rfl]

/-- The experimental settings are set last, so they are the entry of the plugin. -/
lemma at?_experimental :
    (plugin.configure extension host payload).document.at? ["jsc", "experimental"] =
      some (plugin.entry payload) := by
  refine (at?_of_object (at?_jsc_fields plugin extension host payload) "experimental").trans ?_
  rw [jscFields_eq, Fields.get?_insert, if_pos rfl]

lemma at?_plugins :
    (plugin.configure extension host payload).document.at? ["jsc", "experimental", "plugins"] =
      some (.array [.array [.string plugin.path, payload.getD (.object [])]]) :=
  at?_of_object (at?_experimental plugin extension host payload) "plugins"

lemma plugins_configure :
    (plugin.configure extension host payload).plugins =
      [(plugin.path, payload.getD (.object []))] := by
  rw [Configuration.plugins, at?_plugins]
  rfl

/-- A value in the place of the experimental settings hides the plugin and its payload. -/
lemma replaceAt_experimental (value : Document) :
    (other.configure extension host payload').document.replaceAt ["jsc", "experimental"] value =
      (plugin.configure extension host payload).document.replaceAt
        ["jsc", "experimental"] value := by
  rw [document_configure, document_configure, rootFields, rootFields, replaceAt_insert,
    replaceAt_insert, jscFields_eq, jscFields_eq, replaceAt_insert, replaceAt_insert]
  rfl

/-- The experimental settings of a configuration hold one entry, that of the plugin with its payload
as it was given, and so does the list of plugins read off the configuration. Neither depends on the
extension or on the overrides. The plugin and the payload in turn have no effect elsewhere: with any
value in the place of the experimental settings, the configurations are the same in all fields and
their order. -/
theorem entry_isolated (plugin other : Plugin) (extension extension' : String)
    (host host' payload payload' : Option Document) :
    let configuration := plugin.configure extension host payload
    (configuration.document.at? ["jsc", "experimental"] =
        some (.object [("plugins",
          .array [.array [.string plugin.path, payload.getD (.object [])]])]) ∧
      configuration.plugins = [(plugin.path, payload.getD (.object []))]) ∧
    ((plugin.configure extension' host' payload).document.at? ["jsc", "experimental"] =
        configuration.document.at? ["jsc", "experimental"] ∧
      (plugin.configure extension' host' payload).plugins = configuration.plugins) ∧
    ∀ value, (other.configure extension host payload').document.replaceAt
        ["jsc", "experimental"] value =
      configuration.document.replaceAt ["jsc", "experimental"] value := by
  intro configuration
  have hentry := at?_experimental plugin extension host payload
  have hplugins := plugins_configure plugin extension host payload
  refine ⟨⟨hentry, hplugins⟩, ⟨?_, ?_⟩, fun value => ?_⟩
  · exact (at?_experimental plugin extension' host' payload).trans hentry.symm
  · exact (plugins_configure plugin extension' host' payload).trans hplugins.symm
  · exact replaceAt_experimental plugin other extension host payload payload' value

end Plugin

end SnapshotSuite
