import SnapshotSuite.Proofs.Document.RoundTrip
import SnapshotSuite.Proofs.Fixture.Input

/-!
# The first fault of a fixture

Loading looks for the input, then at the overrides and then at the payload, and reports the first
fault on that way. A document may be missing, but one that is there has to be a text and to be well
formed. Nothing else in the tree is looked at, so two trees with the same inputs and the same
documents load the same fixture.
-/

namespace SnapshotSuite

namespace Fixture

open Workspace

variable {w w' : Workspace} {base path : Path} {dir : FixtureDir} {fixture : Fixture}
  {name : String} {error : FixtureError} {document : Option Document}

/-! ### The input -/

/-- Why a directory has no input: it cannot be listed, no file is called like one, or several are. -/
inductive InputFault (w : Workspace) (base : Path) : FixtureError → Prop
  | access {cause : AccessError} (hentries : w.entries base = .error cause) :
      InputFault w base (.access base cause)
  | missing (hbase : w.isDirectory base = true) (hinputs : inputs w base = ∅) :
      InputFault w base (.missingInput base)
  | ambiguous {names : List String} (hbase : w.isDirectory base = true)
      (hinputs : (inputs w base).Nontrivial) (hnames : ListsInOrder names (inputs w base)) :
      InputFault w base (.ambiguousInput base names)

/-- A directory with exactly one input. -/
structure HasInput (w : Workspace) (base : Path) (name : String) : Prop where
  isDirectory : w.isDirectory base = true
  inputs_eq : inputs w base = {name}

lemma inputName_eq_error_iff : inputName w base = .error error ↔ InputFault w base error := by
  constructor
  · intro h
    by_cases hbase : w.isDirectory base = true
    · obtain ⟨hnone, hinput⟩ | ⟨name, -, hinput⟩ | ⟨names, hmore, hlists, hinput⟩ :=
        inputName_cases hbase
      · obtain rfl := Except.error.inj (hinput.symm.trans h)
        exact .missing hbase hnone
      · cases hinput.symm.trans h
      · obtain rfl := Except.error.inj (hinput.symm.trans h)
        exact .ambiguous hbase hmore hlists
    · unfold inputName at h
      split at h
      · next cause hentries =>
        obtain rfl := Except.error.inj h
        exact .access hentries
      · next hentries => exact absurd (isDirectory_of_entries hentries) hbase
  · rintro (hentries | ⟨hbase, hnone⟩ | ⟨hbase, hmore, hlists⟩)
    · rw [inputName, hentries]
    · exact (inputName_eq_missing_iff hbase).mpr ⟨rfl, hnone⟩
    · exact (inputName_eq_ambiguous_iff hbase).mpr ⟨rfl, hmore, hlists⟩

lemma inputName_eq_ok_iff_hasInput : inputName w base = .ok name ↔ HasInput w base name := by
  constructor
  · intro h
    have hbase : w.isDirectory base = true := by
      unfold inputName at h
      split at h
      · cases h
      · next hentries => exact isDirectory_of_entries hentries
    exact ⟨hbase, (inputName_eq_ok_iff_inputs hbase).mp h⟩
  · exact fun ⟨hbase, hinputs⟩ => (inputName_eq_ok_iff_inputs hbase).mpr hinputs

/-! ### The documents -/

/-- Why a file does not hold a document: its content is no text, or the text is no document. -/
inductive DocumentFault (w : Workspace) (path : Path) : FixtureError → Prop
  | notText {content : Bytes} (hnode : w.node? path = some (.file content))
      (htext : ¬Utf8.IsText content) : DocumentFault w path (.access path .notText)
  | malformed {text : String} {cause : Document.ReadError}
      (hnode : w.node? path = some (.file (Utf8.bytesOf text)))
      (hread : Document.read text = .error cause) :
      DocumentFault w path (.invalidDocument path cause)

/-- What an optional document is: nothing where no regular file stands, and otherwise what the text
in the file is read as. -/
inductive HoldsDocument (w : Workspace) (path : Path) : Option Document → Prop
  | absent (hfile : w.isFile path = false) : HoldsDocument w path none
  | present {text : String} {document : Document}
      (hnode : w.node? path = some (.file (Utf8.bytesOf text)))
      (hread : Document.read text = .ok document) : HoldsDocument w path (some document)

/-- An optional document has a fault or is what it should be. -/
lemma documentFault_or_holdsDocument (w : Workspace) (path : Path) :
    (∃ error, DocumentFault w path error) ∨ ∃ document, HoldsDocument w path document := by
  by_cases hfile : w.isFile path = true
  · obtain ⟨content, hnode⟩ := isFile_iff.mp hfile
    by_cases htext : Utf8.IsText content
    · obtain ⟨text, rfl⟩ := htext
      cases hread : Document.read text with
      | error cause => exact .inl ⟨_, .malformed hnode hread⟩
      | ok document => exact .inr ⟨_, .present hnode hread⟩
    · exact .inl ⟨_, .notText hnode htext⟩
  · exact .inr ⟨none, .absent (by simpa using hfile)⟩

lemma readOptional_eq_error (h : DocumentFault w path error) :
    readOptional w path = .error error := by
  rw [readOptional_eq]
  cases h with
  | notText hnode htext => simp [hnode, Utf8.text?_eq_none_iff.mpr htext]
  | malformed hnode hread => simp [hnode, hread]

lemma readOptional_eq_ok (h : HoldsDocument w path document) :
    readOptional w path = .ok document := by
  cases h with
  | absent hfile => rw [readOptional, if_neg (by simp [hfile])]
  | present hnode hread => simp [readOptional_eq, hnode, hread]

lemma readOptional_eq_ok_iff :
    readOptional w path = .ok document ↔ HoldsDocument w path document := by
  refine ⟨fun h => ?_, readOptional_eq_ok⟩
  obtain ⟨error, hfault⟩ | ⟨held, hheld⟩ := documentFault_or_holdsDocument w path
  · cases (readOptional_eq_error hfault).symm.trans h
  · obtain rfl : held = document := Except.ok.inj ((readOptional_eq_ok hheld).symm.trans h)
    exact hheld

/-! ### The whole fixture -/

/-- The fixture is what stands in its directory: the only input with its extension, and the documents
in the two files. -/
structure StandsIn (w : Workspace) (dir : FixtureDir) (fixture : Fixture) : Prop where
  directory : fixture.dir = dir
  input : ∃ name, HasInput w dir.path name ∧ fixture.inputPath = Path.join dir.path name ∧
    HasExtension name fixture.extension
  host : HoldsDocument w (Path.join dir.path ".swcrc") fixture.host
  payload : HoldsDocument w (Path.join dir.path "config.json") fixture.payload

/-- What can be loaded is what stands in the directory. -/
lemma load_eq_ok_iff_standsIn : load w dir = .ok fixture ↔ fixture.StandsIn w dir := by
  rw [load_eq_ok_iff]
  constructor
  · rintro ⟨hdir, ⟨name, hname, hinput, hextension⟩, hhost, hpayload⟩
    have hone := inputName_eq_ok_iff_hasInput.mp hname
    have hmem : name ∈ inputs w dir.path := hone.inputs_eq ▸ Set.mem_singleton name
    exact ⟨hdir, ⟨name, hone, hinput, hasExtension_iff.mpr ⟨hmem.2.2, hextension.symm⟩⟩,
      readOptional_eq_ok_iff.mp hhost, readOptional_eq_ok_iff.mp hpayload⟩
  · rintro ⟨hdir, ⟨name, hname, hinput, hextension⟩, hhost, hpayload⟩
    exact ⟨hdir, ⟨name, inputName_eq_ok_iff_hasInput.mpr hname, hinput,
      (hasExtension_iff.mp hextension).2.symm⟩, readOptional_eq_ok_iff.mpr hhost,
      readOptional_eq_ok_iff.mpr hpayload⟩

/-! ### Two workspaces -/

/-- The path leads to a regular file of one content in both workspaces, or to none in either. -/
def SameFile (w w' : Workspace) (path : Path) : Prop :=
  ∀ content, w'.node? path = some (.file content) ↔ w.node? path = some (.file content)

lemma readOptional_eq_of_sameFile (h : SameFile w w' path) :
    readOptional w' path = readOptional w path := by
  by_cases hfile : w.isFile path = true
  · obtain ⟨content, hnode⟩ := isFile_iff.mp hfile
    exact readOptional_congr (((h content).mpr hnode).trans hnode.symm)
  · have hfile' : ¬w'.isFile path = true := fun hfile' => by
      obtain ⟨content, hnode⟩ := isFile_iff.mp hfile'
      exact hfile (isFile_iff.mpr ⟨content, (h content).mp hnode⟩)
    rw [readOptional, readOptional, if_neg hfile, if_neg hfile']

lemma inputName_eq_of_inputs_eq (hbase : w.isDirectory base = true)
    (hbase' : w'.isDirectory base = true) (h : inputs w' base = inputs w base) :
    inputName w' base = inputName w base := by
  obtain ⟨hnone, hinput⟩ | ⟨name, hone, hinput⟩ | ⟨names, hmore, hlists, hinput⟩ :=
    inputName_cases hbase
  · rw [hinput, inputName_eq_missing_iff hbase']
    exact ⟨rfl, h.trans hnone⟩
  · rw [hinput, inputName_eq_ok_iff_inputs hbase']
    exact h.trans hone
  · rw [hinput, inputName_eq_ambiguous_iff hbase', h]
    exact ⟨rfl, hmore, hlists⟩

/-! ### Loading -/

/-- Loading reports the first fault there is: one of the input, else one of the overrides, else one of
the payload. Without a fault it succeeds, and each document is what its file holds: absent where
there is no regular file, and present even if it is `null`. One of these cases always applies. What
loading gives depends on the inputs of the directory and on the two documents alone: two workspaces
that have these in common give the same, whatever else they differ in. -/
theorem load_first_fault (w : Workspace) (dir : FixtureDir) :
    (∀ error, InputFault w dir.path error → load w dir = .error error) ∧
      (∀ name, HasInput w dir.path name →
        (∀ error, DocumentFault w dir.hostPath error → load w dir = .error error) ∧
        ∀ host, HoldsDocument w dir.hostPath host →
          (∀ error, DocumentFault w dir.payloadPath error → load w dir = .error error) ∧
          ∀ payload, HoldsDocument w dir.payloadPath payload →
            load w dir = .ok
              ⟨dir, Path.join dir.path name, dottedExtension name, host, payload⟩) ∧
      ((∃ error, InputFault w dir.path error) ∨ ∃ name, HasInput w dir.path name) ∧
      (∀ path, (∃ error, DocumentFault w path error) ∨ ∃ document, HoldsDocument w path document) ∧
      ∀ w' : Workspace, w.isDirectory dir.path = true → w'.isDirectory dir.path = true →
        inputs w' dir.path = inputs w dir.path → SameFile w w' dir.hostPath →
        SameFile w w' dir.payloadPath → load w' dir = load w dir := by
  refine ⟨fun error hinput => ?input, fun name hname => ⟨fun error hhost => ?host,
    fun host hhost => ⟨fun error hpayload => ?payload, fun payload hpayload => ?loaded⟩⟩,
    ?inputs, documentFault_or_holdsDocument w, ?agreement⟩
  case input =>
    rw [load, inputName_eq_error_iff.mpr hinput]
    rfl
  case host =>
    rw [load, inputName_eq_ok_iff_hasInput.mpr hname, readOptional_eq_error hhost]
    rfl
  case payload =>
    rw [load, inputName_eq_ok_iff_hasInput.mpr hname, readOptional_eq_ok hhost,
      readOptional_eq_error hpayload]
    rfl
  case loaded =>
    rw [load, inputName_eq_ok_iff_hasInput.mpr hname, readOptional_eq_ok hhost,
      readOptional_eq_ok hpayload]
    rfl
  case inputs =>
    cases hinput : inputName w dir.path with
    | error error => exact .inl ⟨error, inputName_eq_error_iff.mp hinput⟩
    | ok name => exact .inr ⟨name, inputName_eq_ok_iff_hasInput.mp hinput⟩
  case agreement =>
    intro w' hdir hdir' hinputs hhost hpayload
    rw [load, load, inputName_eq_of_inputs_eq hdir hdir' hinputs,
      readOptional_eq_of_sameFile hhost, readOptional_eq_of_sameFile hpayload]

end Fixture

/-- A tree with a fixture whose overrides are `null` and whose payload is a directory, and with a
fixture whose overrides are no text and whose payload is no document. -/
def Workspace.documented : Workspace where
  tree := ⟨[(["a"], .directory), (["input.ts", "a"], .file (Utf8.bytesOf "1")),
    ([".swcrc", "a"], .file (Utf8.bytesOf "null")), (["config.json", "a"], .directory),
    (["b"], .directory), (["input.js", "b"], .file []), ([".swcrc", "b"], .file [0xFF]),
    (["config.json", "b"], .file [])], []⟩
  cwd := []

/-- A tree with the first of these fixtures, of another input, with a snapshot, without a payload and
with more files. -/
def Workspace.redocumented : Workspace where
  tree := ⟨[(["README", "a"], .file (Utf8.bytesOf "2")), (["a"], .directory),
    ([".swcrc", "a"], .file (Utf8.bytesOf "null")), (["output.js", "a"], .file []),
    (["input.ts", "a"], .file (Utf8.bytesOf "2")), (["input.js", "a"], .directory)], []⟩
  cwd := []

/-- Overrides that are `null` are present, a directory is no payload, the first of two faults counts,
and the two trees give the same fixture. -/
theorem Fixture.load_first_fault_samples :
    load .documented ⟨"a", "a"⟩ = .ok ⟨⟨"a", "a"⟩, "a/input.ts", ".ts", some .null, none⟩ ∧
      load .documented ⟨"b", "b"⟩ = .error (.access "b/.swcrc" .notText) ∧
      load .redocumented ⟨"a", "a"⟩ = load .documented ⟨"a", "a"⟩ := by
  have ha : inputs .documented "a" = {"input.ts"} := inputs_eq_singleton (by decide +kernel)
  have ha' : inputs .redocumented "a" = {"input.ts"} := inputs_eq_singleton (by decide +kernel)
  have hb : inputs .documented "b" = {"input.js"} := inputs_eq_singleton (by decide +kernel)
  have hdir : Workspace.documented.isDirectory "a" = true := by decide +kernel
  have hdir' : Workspace.redocumented.isDirectory "a" = true := by decide +kernel
  have hhost : Workspace.documented.node? "a/.swcrc" = some (.file (Utf8.bytesOf "null")) := by
    decide +kernel
  have hhost' : Workspace.redocumented.node? "a/.swcrc" = some (.file (Utf8.bytesOf "null")) := by
    decide +kernel
  have htext : Document.null.pretty = "null" := by decide +kernel
  have hread : Document.read "null" = .ok .null :=
    htext ▸ Document.read_pretty .null .null (Nat.zero_le _)
  refine ⟨?loaded, ?refused, ?same⟩
  case loaded =>
    obtain ⟨-, hload, -⟩ := load_first_fault .documented ⟨"a", "a"⟩
    have hpayload : Workspace.documented.isFile "a/config.json" = false := by decide +kernel
    exact ((hload "input.ts" ⟨hdir, ha⟩).2 _ (.present hhost hread)).2 _ (.absent hpayload)
  case refused =>
    obtain ⟨-, hload, -⟩ := load_first_fault .documented ⟨"b", "b"⟩
    have hnode : Workspace.documented.node? "b/.swcrc" = some (.file [0xFF]) := by decide +kernel
    have htext : ¬Utf8.IsText [0xFF] := Utf8.text?_eq_none_iff.mp (by decide +kernel)
    exact (hload "input.js" ⟨by decide +kernel, hb⟩).1 _ (.notText hnode htext)
  case same =>
    obtain ⟨-, -, -, -, hagree⟩ := load_first_fault .documented ⟨"a", "a"⟩
    have hpayload : Workspace.documented.node? "a/config.json" = some .directory := by
      decide +kernel
    have hpayload' : Workspace.redocumented.node? "a/config.json" = none := by decide +kernel
    refine hagree .redocumented hdir hdir' (ha'.trans ha.symm) (fun content => ?_) fun content => ?_
    · exact iff_of_eq (congrArg (· = _) (hhost'.trans hhost.symm))
    · exact iff_of_false (fun h => nomatch hpayload'.symm.trans h)
        fun h => nomatch hpayload.symm.trans h

end SnapshotSuite
