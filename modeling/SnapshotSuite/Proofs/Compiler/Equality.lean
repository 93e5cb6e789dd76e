import SnapshotSuite.Proofs.Compiler.FixedPoint
import SnapshotSuite.Proofs.Document.Equality

/-!
# Configurations from equal documents

The order of the fields in the overrides and in the payload has an effect on the order of the fields
in a configuration, and on nothing else. At each level equal overrides give equal values at every key,
and the settings that are put in are equal as soon as those one level further in are.
-/

namespace SnapshotSuite

namespace Document

variable {document other : Document} {host host' : Option Document}

/-- Equal documents have equal values behind every list of keys. -/
lemma sameOptional_at? (hdocument : document.UniqueKeys) (hother : other.UniqueKeys)
    (h : document.same other = true) (keys : List String) :
    SameOptional (document.at? keys) (other.at? keys) := by
  induction keys generalizing document other with
  | nil => exact .some h
  | cons key keys ih =>
    refine (sameOptional_get? hdocument hother h key).bind fun value hvalue value' hvalue' hsame => ?_
    exact ih (hdocument.get? hvalue) (hother.get? hvalue') hsame

/-- Equal overrides, or none in either case, have equal values behind every list of keys. -/
lemma sameOptional_bind_at? (hhost : ∀ document ∈ host, document.UniqueKeys)
    (hhost' : ∀ document ∈ host', document.UniqueKeys) (h : SameOptional host host')
    (keys : List String) : SameOptional (host.bind (·.at? keys)) (host'.bind (·.at? keys)) :=
  h.bind fun document hdocument other hother hsame =>
    sameOptional_at? (hhost document hdocument) (hhost' other hother) hsame keys

end Document

namespace Plugin

open Document

variable {plugin : Plugin} {extension : String} {host host' payload payload' : Option Document}

lemma same_parserDefaults (kind : SourceKind) :
    Fields.Same (parserDefaults kind) (parserDefaults kind) := by
  refine Fields.same_self ?_
  simp [parserDefaults, same]

lemma same_reactDefaults : Fields.Same reactDefaults reactDefaults := by
  refine Fields.same_self ?_
  simp [reactDefaults, same]

/-- The entries of a plugin are equal if the payloads are. -/
lemma same_entry (plugin : Plugin) (hpayload : SameOptional payload payload') :
    (plugin.entry payload).same (plugin.entry payload') = true := by
  have hvalue : (payload.getD (.object [])).same (payload'.getD (.object [])) = true := by
    cases hpayload with
    | some hsame => exact hsame
    | none => rfl
  simp [entry, same, sameFields, sameItems, Fields.get?_cons, hvalue]

section Levels

variable (hhost : ∀ document ∈ host, document.UniqueKeys)
  (hhost' : ∀ document ∈ host', document.UniqueKeys) (hsame : SameOptional host host')
include hhost hhost' hsame

lemma same_parserFields (extension : String) :
    Fields.Same (parserFields extension host) (parserFields extension host') := by
  intro key
  rw [get?_parserFields hhost, get?_parserFields hhost']
  exact (sameOptional_bind_at? hhost hhost' hsame _).or (same_parserDefaults _ key)

lemma same_reactFields : Fields.Same (reactFields host) (reactFields host') := by
  intro key
  rw [get?_reactFields hhost, get?_reactFields hhost']
  exact (sameOptional_bind_at? hhost hhost' hsame _).or (same_reactDefaults key)

lemma same_transformFields : Fields.Same (transformFields host) (transformFields host') := by
  intro key
  rw [get?_transformFields hhost, get?_transformFields hhost']
  split_ifs with hreact
  · exact .some ((same_object_iff (unique_reactFields host) (unique_reactFields host')).mpr
      (same_reactFields hhost hhost' hsame))
  · exact sameOptional_bind_at? hhost hhost' hsame _

lemma same_jscFields (plugin : Plugin) (extension : String)
    (hpayload : SameOptional payload payload') :
    Fields.Same (jscFields plugin extension host payload)
      (jscFields plugin extension host' payload') := by
  intro key
  rw [get?_jscFields plugin hhost, get?_jscFields plugin hhost']
  split_ifs with hexperimental htransform hparser
  · exact .some (same_entry plugin hpayload)
  · exact .some ((same_object_iff (unique_transformFields host) (unique_transformFields host')).mpr
      (same_transformFields hhost hhost' hsame))
  · exact .some ((same_object_iff (unique_parserFields extension host)
      (unique_parserFields extension host')).mpr
        (same_parserFields hhost hhost' hsame extension))
  · exact sameOptional_bind_at? hhost hhost' hsame _

lemma same_rootFields (plugin : Plugin) (extension : String)
    (hpayload : SameOptional payload payload') :
    Fields.Same (rootFields plugin extension host payload)
      (rootFields plugin extension host' payload') := by
  intro key
  rw [get?_rootFields plugin hhost, get?_rootFields plugin hhost']
  split_ifs with hjsc
  · exact .some ((same_object_iff (unique_jscFields plugin extension host payload)
      (unique_jscFields plugin extension host' payload')).mpr
        (same_jscFields hhost hhost' hsame plugin extension hpayload))
  · exact hsame.bind fun document hdocument other hother h =>
      sameOptional_get? (hhost document hdocument) (hhost' other hother) h key

end Levels

/-- Configurations are equal if they are made for one plugin and one extension from overrides and
payloads that are equal, or absent in both cases. The order of fields makes no difference, at any
depth. -/
theorem same_configure (plugin : Plugin) (extension : String)
    (host host' payload payload' : Option Document)
    (hhost : ∀ document ∈ host, document.UniqueKeys)
    (hhost' : ∀ document ∈ host', document.UniqueKeys)
    (hsame : SameOptional host host') (hpayload : SameOptional payload payload') :
    (plugin.configure extension host payload).same
      (plugin.configure extension host' payload') = true := by
  rw [Configuration.same, document_configure, document_configure,
    same_object_iff (unique_rootFields plugin extension host payload)
      (unique_rootFields plugin extension host' payload')]
  exact same_rootFields hhost hhost' hsame plugin extension hpayload

/-- Overrides and payloads with their fields in two orders give equal configurations of different
texts. -/
theorem same_configure_of_reordered :
    let host : Document := .object [("minify", .bool true),
      ("jsc", .object [("target", .string "es5"), ("parser", .object [("jsx", .null)])])]
    let host' : Document := .object [("jsc", .object [("parser", .object [("jsx", .null)]),
      ("target", .string "es5")]), ("minify", .bool true)]
    let payload : Document := .object [("a", .number (.integer 1)), ("b", .array [])]
    let payload' : Document := .object [("b", .array []), ("a", .number (.integer 1))]
    let plugin : Plugin := ⟨"plugin.wasm"⟩
    let configuration := plugin.configure ".ts" (some host) (some payload)
    let configuration' := plugin.configure ".ts" (some host') (some payload')
    host.UniqueKeys ∧ host'.UniqueKeys ∧ host.same host' = true ∧ payload.same payload' = true ∧
      configuration.same configuration' = true ∧ configuration.text ≠ configuration'.text := by
  intro host host' payload payload' plugin configuration configuration'
  have hunique : host.UniqueKeys ∧ host'.UniqueKeys := by
    simp [host, host', Fields.Unique, Fields.keys, UniqueKeys.null, UniqueKeys.bool,
      UniqueKeys.string]
  have hsame : host.same host' = true := by decide +kernel
  have hpayload : payload.same payload' = true := by decide +kernel
  refine ⟨hunique.1, hunique.2, hsame, hpayload, ?_, by decide +kernel⟩
  exact same_configure plugin ".ts" (some host) (some host') (some payload) (some payload')
    (by simpa using hunique.1) (by simpa using hunique.2) (.some hsame) (.some hpayload)

end Plugin

end SnapshotSuite
