import SnapshotSuite.Proofs.Compiler.FixedPoint
import SnapshotSuite.Proofs.Document.RoundTrip
import SnapshotSuite.Proofs.Fixture.Loading
import SnapshotSuite.Proofs.Text.Utf8

/-!
# Configurations read back from their texts

A configuration has the overrides at their own levels and the payload five levels further in. If
both are documents of whole numbers, the text of the configuration is read back unless the payload
is so deep that five levels more are too many. `Document.Rereadable` collects what the overrides and
the payload have to satisfy, level by level, for the configuration to be read back.
-/

namespace SnapshotSuite

namespace Document

variable {room : Nat} {document value : Document} {fields : Fields} {key : String}
  {keys : List String} {host : Option Document}

/-- A document of whole numbers without a repeated key, in which no more containers stand inside
one another than there is room for. -/
structure Rereadable (room : Nat) (document : Document) : Prop where
  uniqueKeys : document.UniqueKeys
  integral : document.Integral
  depth_le : document.depth ≤ room

lemma Rereadable.mono {more : Nat} (h : Rereadable room document) (hle : room ≤ more) :
    Rereadable more document :=
  ⟨h.uniqueKeys, h.integral, h.depth_le.trans hle⟩

lemma rereadable_string (room : Nat) (text : String) : Rereadable room (.string text) :=
  ⟨.string text, .string text, Nat.zero_le room⟩

lemma rereadable_bool (room : Nat) (value : Bool) : Rereadable room (.bool value) :=
  ⟨.bool value, .bool value, Nat.zero_le room⟩

lemma rereadable_array {items : List Document} (h : ∀ item ∈ items, Rereadable room item) :
    Rereadable (room + 1) (.array items) where
  uniqueKeys := .array fun item hitem => (h item hitem).uniqueKeys
  integral := .array fun item hitem => (h item hitem).integral
  depth_le := depth_array_le_iff.mpr fun item hitem => (h item hitem).depth_le

lemma rereadable_object (hunique : Fields.Unique fields)
    (h : ∀ field ∈ fields, Rereadable room field.2) : Rereadable (room + 1) (.object fields) where
  uniqueKeys := .object hunique fun field hfield => (h field hfield).uniqueKeys
  integral := .object fun field hfield => (h field hfield).integral
  depth_le := depth_object_le_iff.mpr fun field hfield => (h field hfield).depth_le

/-- The fields of an object have one level less to fit. -/
lemma Rereadable.of_mem (h : Rereadable (room + 1) (.object fields)) :
    ∀ field ∈ fields, Rereadable room field.2 := by
  intro field hfield
  refine ⟨?_, ?_, ?_⟩
  · exact (uniqueKeys_object_iff.mp h.uniqueKeys).2 field hfield
  · cases h.integral with
    | object hfields => exact hfields field hfield
  · exact depth_object_le_iff.mp h.depth_le field hfield

lemma Rereadable.get? (h : Rereadable (room + 1) document)
    (hvalue : document.get? key = some value) : Rereadable room value := by
  cases document with
  | object fields => exact h.of_mem _ (Fields.mem_of_get?_eq_some hvalue)
  | null | bool | number | string | array => cases hvalue

lemma Rereadable.at? (h : Rereadable (room + keys.length) document)
    (hvalue : document.at? keys = some value) : Rereadable room value := by
  induction keys generalizing document with
  | nil =>
    obtain rfl := Option.some.inj hvalue
    exact h
  | cons key keys ih =>
    obtain ⟨inner, hinner, hrest⟩ := Option.bind_eq_some_iff.mp hvalue
    exact ih (h.get? hinner) hrest

/-- The overrides of a level have as many levels less to fit as there are keys before them. -/
lemma rereadable_of_mem_fieldsAt {room' : Nat} (h : ∀ document ∈ host, Rereadable room document)
    (hroom : room' + 1 + keys.length = room) :
    ∀ field ∈ fieldsAt host keys, Rereadable room' field.2 := by
  subst hroom
  cases hlevel : host.bind (·.at? keys) with
  | none => simp [fieldsAt, hlevel]
  | some level =>
    obtain ⟨document, hdocument, hat⟩ := Option.bind_eq_some_iff.mp hlevel
    have hrereadable : Rereadable (room' + 1) level := (h document hdocument).at? hat
    cases level with
    | object fields => simpa [fieldsAt, hlevel, fields?] using hrereadable.of_mem
    | null | bool | number | string | array => simp [fieldsAt, hlevel, fields?]

end Document

namespace Plugin

open Document

variable {plugin : Plugin} {extension : String} {host payload : Option Document} {room : Nat}

/-- The entry of a plugin has the payload three levels further in. -/
lemma rereadable_entry (plugin : Plugin)
    (hpayload : ∀ document ∈ payload, Rereadable (room + 1) document) :
    Rereadable (room + 4) (plugin.entry payload) := by
  have hvalue : Rereadable (room + 1) (payload.getD (.object [])) := by
    cases payload with
    | none => exact rereadable_object List.nodup_nil (by simp)
    | some document => exact hpayload document rfl
  refine rereadable_object (by simp [Fields.Unique]) ?_
  simp only [List.forall_mem_singleton]
  refine rereadable_array ?_
  simp only [List.forall_mem_singleton]
  refine rereadable_array ?_
  simp only [List.forall_mem_cons, List.not_mem_nil, false_imp_iff, implies_true, and_true]
  exact ⟨rereadable_string _ plugin.path, hvalue⟩

section Levels

variable (hhost : ∀ document ∈ host, Rereadable (room + 6) document)
include hhost

lemma rereadable_parserFields (extension : String) :
    Rereadable (room + 4) (.object (parserFields extension host)) := by
  refine rereadable_object (unique_parserFields _ _) (Fields.forall_mem_overlay ?_ ?_)
  · simp [parserDefaults, rereadable_string, rereadable_bool]
  · exact rereadable_of_mem_fieldsAt hhost rfl

lemma rereadable_reactFields : Rereadable (room + 3) (.object (reactFields host)) := by
  refine rereadable_object (unique_reactFields _) (Fields.forall_mem_overlay ?_ ?_)
  · simp [reactDefaults, rereadable_string]
  · exact rereadable_of_mem_fieldsAt hhost rfl

lemma rereadable_transformFields : Rereadable (room + 4) (.object (transformFields host)) := by
  refine rereadable_object (unique_transformFields _) (Fields.forall_mem_insert ?_ ?_)
  · exact rereadable_reactFields hhost
  · exact Fields.forall_mem_overlay_nil (rereadable_of_mem_fieldsAt hhost rfl)

lemma rereadable_jscFields (plugin : Plugin) (extension : String)
    (hpayload : ∀ document ∈ payload, Rereadable (room + 1) document) :
    Rereadable (room + 5) (.object (jscFields plugin extension host payload)) := by
  refine rereadable_object (unique_jscFields _ _ _ _) ?_
  rw [jscFields_eq]
  refine Fields.forall_mem_insert (rereadable_entry plugin hpayload) ?_
  refine Fields.forall_mem_insert (rereadable_transformFields hhost) ?_
  refine Fields.forall_mem_insert (rereadable_parserFields hhost extension) ?_
  exact Fields.forall_mem_overlay_nil (rereadable_of_mem_fieldsAt hhost rfl)

/-- A configuration can be read back if there is room for the overrides, and for the payload five
levels further in. -/
lemma rereadable_configure (plugin : Plugin) (extension : String)
    (hpayload : ∀ document ∈ payload, Rereadable (room + 1) document) :
    Rereadable (room + 6) (plugin.configure extension host payload).document := by
  rw [document_configure]
  refine rereadable_object (unique_rootFields _ _ _ _) (Fields.forall_mem_insert ?_ ?_)
  · exact rereadable_jscFields hhost plugin extension hpayload
  · exact Fields.forall_mem_overlay_nil (rereadable_of_mem_fieldsAt hhost rfl)

end Levels

/-- The payload lies five levels inside the configuration. -/
lemma depth_add_five_le_depth_configure (plugin : Plugin) (extension : String)
    (host : Option Document) (document : Document) :
    document.depth + 5 ≤ (plugin.configure extension host (some document)).document.depth := by
  have hplugins := depth_add_length_le (at?_plugins plugin extension host (some document))
  have hentry : document.depth + 2 ≤
      (array [array [string plugin.path, (some document).getD (.object [])]]).depth := by
    simp [depth, depthItems]
  simp only [List.length_cons, List.length_nil] at hplugins
  omega

/-- The overrides and the payload of a fixture are read from texts, so they have unique keys and are
not too deep. -/
lemma rereadable_of_readOptional {w : Workspace} {path : Path} {document : Option Document}
    (h : Fixture.readOptional w path = .ok document)
    (hintegral : ∀ value ∈ document, value.Integral) :
    ∀ value ∈ document, Rereadable maxDepth value := fun value hvalue =>
  ⟨Fixture.uniqueKeys_of_readOptional h value hvalue, hintegral value hvalue,
    Fixture.depth_le_of_readOptional h value hvalue⟩

/-- With overrides and a payload as they are read from files, in which all numbers are whole numbers
of 64 bits, the text of a configuration holds the configuration: the same fields in the same order,
the same texts and the same numbers. The exception is a payload of more than 122 containers inside
one another, which stands too deep in the configuration for the text to be read at all. -/
theorem read_text_configure (plugin : Plugin) (extension : String) {w w' : Workspace}
    {path path' : Path} {host payload : Option Document}
    (hhost : Fixture.readOptional w path = .ok host)
    (hpayload : Fixture.readOptional w' path' = .ok payload)
    (hhostIntegral : ∀ document ∈ host, document.Integral)
    (hpayloadIntegral : ∀ document ∈ payload, document.Integral) :
    let configuration := plugin.configure extension host payload
    ((∀ document ∈ payload, document.depth ≤ 122) →
      Document.read configuration.text = .ok configuration.document) ∧
    ∀ document ∈ payload, 122 < document.depth →
      ∃ error, Document.read configuration.text = .error error ∧ error.cause = .tooDeep := by
  intro configuration
  have hhost := rereadable_of_readOptional hhost hhostIntegral
  have hpayload := rereadable_of_readOptional hpayload hpayloadIntegral
  constructor
  · intro hdepth
    have hshallow : ∀ document ∈ payload, Rereadable (121 + 1) document := fun document hdocument =>
      ⟨(hpayload document hdocument).uniqueKeys, (hpayload document hdocument).integral,
        hdepth document hdocument⟩
    have hconfiguration : Rereadable (121 + 6) configuration.document :=
      rereadable_configure hhost plugin extension hshallow
    exact read_pretty hconfiguration.integral hconfiguration.uniqueKeys hconfiguration.depth_le
  · rintro document rfl hdeep
    have hroomy : ∀ document ∈ host, Rereadable (126 + 6) document := fun document hdocument =>
      (hhost document hdocument).mono (by decide)
    have hconfiguration := rereadable_configure hroomy plugin extension hpayload
    have htooDeep : maxDepth < document.depth + 5 := Nat.add_lt_add_right hdeep 5
    exact exists_read_write_eq_error spaced_pretty hconfiguration.integral
      hconfiguration.uniqueKeys
      (htooDeep.trans_le (depth_add_five_le_depth_configure plugin extension host document))

end Plugin

/-! ### The deepest payload -/

namespace Document

/-- So many arrays, each the only item of the next one. -/
def nested : Nat → Document
  | 0 => .null
  | n + 1 => .array [nested n]

lemma rereadable_nested (n : Nat) : Rereadable n (nested n) := by
  induction n with
  | zero => exact ⟨.null, .null, Nat.le_refl 0⟩
  | succ n ih => exact rereadable_array (List.forall_mem_singleton.mpr ih)

lemma depth_nested (n : Nat) : (nested n).depth = n := by
  induction n with
  | zero => rfl
  | succ n ih => simp [nested, depth, depthItems, ih]

/-- Overrides with a text that needs escapes and with the greatest number of 64 bits. -/
def marked : Document :=
  .object [("mark", .string "\"\\\n"), ("limit", .number (.integer 0xFFFFFFFFFFFFFFFF))]

lemma rereadable_marked : Rereadable maxDepth marked := by
  have hflat : Rereadable (0 + 1) marked := by
    refine rereadable_object (by simp [Fields.Unique]) ?_
    simp only [List.forall_mem_cons, List.not_mem_nil, false_imp_iff, implies_true, and_true]
    exact ⟨rereadable_string 0 _, .number _, .number (by decide) (by decide), Nat.le_refl 0⟩
  exact hflat.mono (by decide)

end Document

/-- A workspace with one file, which holds a document. -/
def Workspace.holding (document : Document) : Workspace where
  tree := ⟨[(["config.json"], .file (Utf8.bytesOf document.pretty))], []⟩
  cwd := []

lemma Fixture.readOptional_holding {document : Document}
    (h : document.Rereadable Document.maxDepth) :
    readOptional (.holding document) "config.json" = .ok (some document) := by
  have hnode : (Workspace.holding document).node? "config.json" =
      some (.file (Utf8.bytesOf document.pretty)) := rfl
  have hread : Document.read document.pretty = .ok document :=
    Document.read_pretty h.integral h.uniqueKeys h.depth_le
  simp [readOptional_eq, hnode, hread]

/-- The text is read back with a payload of 122 containers inside one another, and too deep with one
of 123. -/
theorem Plugin.read_text_configure_nested :
    Document.read ((Plugin.mk "p.wasm").configure ".tsx" (some .marked)
        (some (.nested 122))).text =
      .ok ((Plugin.mk "p.wasm").configure ".tsx" (some .marked) (some (.nested 122))).document ∧
    ∃ error, Document.read ((Plugin.mk "p.wasm").configure ".tsx" (some .marked)
        (some (.nested 123))).text = .error error ∧ error.cause = .tooDeep := by
  have hhost := Fixture.readOptional_holding Document.rereadable_marked
  have hpayload : ∀ n ≤ Document.maxDepth,
      Fixture.readOptional (.holding (.nested n)) "config.json" = .ok (some (.nested n)) :=
    fun n hn => Fixture.readOptional_holding ((Document.rereadable_nested n).mono hn)
  have hhostIntegral : ∀ document ∈ some Document.marked, document.Integral := by
    rintro _ ⟨⟩
    exact Document.rereadable_marked.integral
  have hpayloadIntegral : ∀ n, ∀ document ∈ some (Document.nested n), document.Integral := by
    rintro n _ ⟨⟩
    exact (Document.rereadable_nested n).integral
  constructor
  · refine (Plugin.read_text_configure ⟨"p.wasm"⟩ ".tsx" hhost (hpayload 122 (by decide))
      hhostIntegral (hpayloadIntegral 122)).1 ?_
    rintro _ ⟨⟩
    exact (Document.depth_nested 122).le
  · refine (Plugin.read_text_configure ⟨"p.wasm"⟩ ".tsx" hhost (hpayload 123 (by decide))
      hhostIntegral (hpayloadIntegral 123)).2 _ rfl ?_
    rw [Document.depth_nested]
    decide

end SnapshotSuite
