import SnapshotSuite.Proofs.Compiler.Entry
import SnapshotSuite.Proofs.Compiler.FixedPoint
import SnapshotSuite.Proofs.Document.Equality
import SnapshotSuite.Proofs.Text.Utf8

/-!
# The path of a plugin

A path is given as bytes, and stands in configurations as a text. Bytes that are no text are refused;
others are the bytes of the text that every configuration of the plugin holds. So configurations that
are equal, whatever else they are made from, are those of one path.
-/

namespace SnapshotSuite

namespace Plugin

open Document

variable {plugin other : Plugin} {bytes : Bytes}

lemma ofBytes_eq_ok_iff : ofBytes bytes = .ok plugin ↔ Utf8.bytesOf plugin.path = bytes := by
  rw [← Utf8.text?_eq_some_iff, ofBytes]
  obtain ⟨path⟩ := plugin
  cases Utf8.text? bytes <;> simp

/-- A path is taken exactly if it is a text. -/
lemma exists_ofBytes_iff : (∃ plugin, ofBytes bytes = .ok plugin) ↔ Utf8.IsText bytes := by
  constructor
  · rintro ⟨plugin, h⟩
    exact ⟨plugin.path, ofBytes_eq_ok_iff.mp h⟩
  · rintro ⟨path, h⟩
    exact ⟨⟨path⟩, ofBytes_eq_ok_iff.mpr h⟩

/-- A path that is no text is shown with its faults replaced. -/
lemma ofBytes_of_not_isText (h : ¬Utf8.IsText bytes) :
    ofBytes bytes = .error ⟨Utf8.lossyText bytes⟩ := by
  rw [ofBytes, Utf8.text?_eq_none_iff.mpr h]

/-- Equal entries are those of one path. -/
lemma path_eq_of_same_entry {payload payload' : Option Document}
    (h : (plugin.entry payload).same (other.entry payload') = true) : plugin.path = other.path := by
  simp only [entry, same, sameFields, sameItems, Fields.get?_cons, if_pos, Bool.and_eq_true,
    beq_iff_eq] at h
  obtain ⟨-, ⟨⟨hpath, -⟩, -⟩, -⟩ := h
  exact hpath

/-- Equal configurations run one plugin. The plugin entry stands behind two keys that no overrides
reach, so the equality of the documents is followed down to it. -/
lemma path_eq_of_same {extension extension' : String} {host host' payload payload' : Option Document}
    (h : (plugin.configure extension host payload).same
      (other.configure extension' host' payload') = true) : plugin.path = other.path := by
  rw [Configuration.same, document_configure, document_configure,
    same_object_iff (unique_rootFields plugin extension host payload)
      (unique_rootFields other extension' host' payload')] at h
  have hjsc := h "jsc"
  rw [rootFields, rootFields, Fields.get?_insert, Fields.get?_insert, if_pos rfl, if_pos rfl] at hjsc
  cases hjsc with
  | some hjsc =>
    rw [same_object_iff (unique_jscFields plugin extension host payload)
      (unique_jscFields other extension' host' payload')] at hjsc
    have hentry := hjsc "experimental"
    rw [jscFields_eq, jscFields_eq, Fields.get?_insert, if_pos rfl, Fields.get?_insert,
      if_pos rfl] at hentry
    cases hentry with
    | some hentry => exact path_eq_of_same_entry hentry

/-- A path is taken exactly if its bytes are valid UTF-8, and refused with an error that shows it
otherwise. What is taken stands in the only plugin entry of every configuration, byte for byte.
Configurations for two different paths are never equal, and a path that a lossy decoding would change
is in none. -/
theorem ofBytes_verbatim (bytes : Bytes) :
    ((∃ plugin, ofBytes bytes = .ok plugin) ↔ bytes.toByteArray.IsValidUTF8) ∧
      (∀ plugin, ofBytes bytes = .ok plugin → ∀ extension host payload, ∃ path,
        (plugin.configure extension host payload).plugins = [(path, payload.getD (.object []))] ∧
          Utf8.bytesOf path = bytes) ∧
      (¬bytes.toByteArray.IsValidUTF8 → ∃ error, ofBytes bytes = .error error ∧
        error.message = "plugin path is not valid UTF-8: " ++ Utf8.lossyText bytes) ∧
      (∀ bytes' plugin plugin', ofBytes bytes = .ok plugin → ofBytes bytes' = .ok plugin' →
        bytes ≠ bytes' → ∀ extension extension' host host' payload payload',
          (plugin.configure extension host payload).same
            (plugin'.configure extension' host' payload') = false) ∧
      (Utf8.bytesOf (Utf8.lossyText bytes) ≠ bytes → ∀ plugin, ofBytes bytes ≠ .ok plugin) := by
  refine ⟨?taken, ?embedded, ?refused, ?distinct, ?lossy⟩
  case taken => rw [exists_ofBytes_iff, Utf8.isText_iff_isValidUTF8]
  case embedded =>
    intro plugin h extension host payload
    exact ⟨plugin.path, plugins_configure plugin extension host payload, ofBytes_eq_ok_iff.mp h⟩
  case refused =>
    intro h
    rw [← Utf8.isText_iff_isValidUTF8] at h
    exact ⟨_, ofBytes_of_not_isText h, rfl⟩
  case distinct =>
    intro bytes' plugin plugin' h h' hne extension extension' host host' payload payload'
    refine Bool.eq_false_iff.mpr fun hsame => hne ?_
    rw [← ofBytes_eq_ok_iff.mp h, ← ofBytes_eq_ok_iff.mp h', path_eq_of_same hsame]
  case lossy =>
    intro hlossy plugin h
    refine hlossy ?_
    rw [← ofBytes_eq_ok_iff.mp h, Utf8.lossyText_bytesOf]

/-- A path with a letter of two bytes stands in a configuration as it is, next to overrides that name
another plugin. Paths with an overlong slash, a surrogate, a sequence that is cut off or a value past
the last code point are refused. -/
theorem ofBytes_verbatim_samples :
    let host : Document := .object [("jsc", .object [("experimental", .object [("plugins",
      .array [.array [.string "other.wasm", .null]])])])]
    (∃ plugin path, ofBytes [0x2F, 0xC3, 0xBC, 0x2E, 0x77] = .ok plugin ∧
      (plugin.configure ".js" (some host) none).plugins = [(path, .object [])] ∧
      Utf8.bytesOf path = [0x2F, 0xC3, 0xBC, 0x2E, 0x77]) ∧
    ∀ bytes ∈ ([[0xC0, 0xAF], [0xED, 0xA0, 0x80], [0xE2, 0x82], [0xF4, 0x90, 0x80, 0x80]] :
      List Bytes), ∃ error, ofBytes bytes = .error error ∧
        error.message = "plugin path is not valid UTF-8: " ++ Utf8.lossyText bytes := by
  intro host
  refine ⟨?taken, ?refused⟩
  case taken =>
    obtain ⟨htaken, hembedded, -⟩ := ofBytes_verbatim [0x2F, 0xC3, 0xBC, 0x2E, 0x77]
    obtain ⟨plugin, hplugin⟩ := htaken.mpr (by decide +kernel)
    obtain ⟨path, hplugins, hpath⟩ := hembedded plugin hplugin ".js" (some host) none
    exact ⟨plugin, path, hplugin, hplugins, hpath⟩
  case refused =>
    have hinvalid : ∀ bytes ∈ ([[0xC0, 0xAF], [0xED, 0xA0, 0x80], [0xE2, 0x82],
        [0xF4, 0x90, 0x80, 0x80]] : List Bytes), ¬bytes.toByteArray.IsValidUTF8 := by
      decide +kernel
    intro bytes hbytes
    obtain ⟨-, -, hrefused, -⟩ := ofBytes_verbatim bytes
    exact hrefused (hinvalid bytes hbytes)

end Plugin

end SnapshotSuite
