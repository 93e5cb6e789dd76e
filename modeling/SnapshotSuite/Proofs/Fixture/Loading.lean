import SnapshotSuite.Fixture.Loading
import SnapshotSuite.Proofs.Document.Reading
import SnapshotSuite.Proofs.Fixture.Discovery

/-!
# What loading a fixture reads

The input of a fixture and its two documents are never called like a snapshot. Loading therefore
gives the same in two workspaces that differ in snapshots only, and the bytes of the input are the
same in both.
-/

namespace SnapshotSuite

namespace Fixture

open Workspace

variable {w w' : Workspace} {base path : Path} {dir : FixtureDir} {fixture : Fixture}
  {name : String}

/-- A document is read off what its path leads to. -/
lemma readOptional_eq :
    readOptional w path =
      match w.node? path with
      | some (.file content) =>
        match Utf8.text? content with
        | none => .error (.access path .notText)
        | some text =>
          match Document.read text with
          | .error cause => .error (.invalidDocument path cause)
          | .ok document => .ok (some document)
      | _ => .ok none := by
  unfold readOptional
  by_cases hfile : w.isFile path = true
  · obtain ⟨content, hnode⟩ := isFile_iff.mp hfile
    have hbytes := readBytes_eq_ok_iff.mpr hnode
    cases htext : Utf8.text? content with
    | none => simp [hfile, hnode, readText, hbytes, htext, bind, Except.bind, throw, throwThe,
        MonadExceptOf.throw]
    | some text =>
      cases hread : Document.read text <;>
        simp [hfile, hnode, readText, hbytes, htext, hread, bind, Except.bind, pure, Except.pure]
  · rw [if_neg hfile]
    split
    · next hnode => exact absurd (isFile_iff.mpr ⟨_, hnode⟩) hfile
    · rfl

lemma readOptional_congr (h : w'.node? path = w.node? path) :
    readOptional w' path = readOptional w path := by
  rw [readOptional_eq, readOptional_eq, h]

/-- The input of a directory is its only candidate. -/
lemma inputName_eq (hbase : w.isDirectory base = true) :
    inputName w base =
      match candidates w base (w.tree.names (w.place base)) with
      | [] => .error (.missingInput base)
      | [name] => .ok name
      | names => .error (.ambiguousInput base names) := by
  have hentries := entries_eq_ok hbase
  unfold inputName
  split
  · next cause h => cases hentries.symm.trans h
  · next names h =>
    obtain rfl := Except.ok.inj (hentries.symm.trans h)
    rfl

lemma inputName_eq_ok_iff (hbase : w.isDirectory base = true) :
    inputName w base = .ok name ↔ candidates w base (w.tree.names (w.place base)) = [name] := by
  rw [inputName_eq hbase]
  split
  · next hnone => simp [hnone]
  · next other hone => simp [hone]
  · next hmore => simpa using hmore name

/-- The candidates are the files of the directory whose name without its extension is `input`. -/
lemma mem_candidates_iff (name : String) (hnamed : w.tree.WellNamed)
    (hbase : w.isDirectory base = true) :
    name ∈ candidates w base (w.tree.names (w.place base)) ↔
      Path.IsName name ∧ Path.stem name = "input" ∧ w.isFile (Path.join base name) = true := by
  rw [candidates, mem_sortNames, List.mem_filter, Bool.and_eq_true, beq_iff_eq]
  constructor
  · rintro ⟨hmem, hfile, hstem⟩
    exact ⟨hnamed.isName hmem, hstem, hfile⟩
  · rintro ⟨hname, hstem, hfile⟩
    obtain ⟨content, hnode⟩ := isFile_iff.mp hfile
    have hat := (node?_eq_some_iff.mp hnode).2
    rw [place_join (toList_ne_nil_of_isDirectory hbase) hname] at hat
    exact ⟨by simp [Tree.mem_names_iff, hat], hfile, hstem⟩

/-- No entry called other than `output.js` is at the place of a snapshot. -/
lemma place_join_not_mem (hbase : w.isDirectory base = true) (hname : Path.IsName name)
    (hne : name ≠ "output.js") : w.place (Path.join base name) ∉ snapshotPlaces := by
  rw [place_join (toList_ne_nil_of_isDirectory hbase) hname]
  simpa [snapshotPlaces] using hne

lemma ne_snapshot_of_stem (hstem : Path.stem name = "input") : name ≠ "output.js" := by
  rintro rfl
  revert hstem
  decide

section Agreement

variable (hagrees : AgreesOff snapshotPlaces w w') (hnamed : w.tree.WellNamed)
  (hnamed' : w'.tree.WellNamed)

include hagrees hnamed hnamed'

/-- Two workspaces that differ in snapshots only have the same candidates for an input. -/
lemma candidates_eq (hbase : w.isDirectory base = true) :
    candidates w' base (w'.tree.names (w'.place base)) =
      candidates w base (w.tree.names (w.place base)) := by
  have hbase' := (hagrees.isDirectory_eq base).trans hbase
  refine sortNames_eq_of_mem_iff (Tree.nodup_names.filter _) (Tree.nodup_names.filter _)
    fun name => ?_
  have hmem := mem_candidates_iff name hnamed hbase
  have hmem' := mem_candidates_iff name hnamed' hbase'
  rw [candidates, mem_sortNames] at hmem hmem'
  rw [hmem, hmem', and_congr_right_iff]
  intro hname
  rw [and_congr_right_iff]
  intro hstem
  have hnode := hagrees.node?_eq (place_join_not_mem hbase hname (ne_snapshot_of_stem hstem))
  rw [isFile_iff, isFile_iff, hnode]

/-- Loading does not see snapshots. -/
lemma load_eq (hdir : w.isDirectory dir.path = true) : load w' dir = load w dir := by
  have hdir' := (hagrees.isDirectory_eq dir.path).trans hdir
  have hhost : readOptional w' dir.hostPath = readOptional w dir.hostPath :=
    readOptional_congr (hagrees.node?_eq (place_join_not_mem hdir (by decide) (by decide)))
  have hpayload : readOptional w' dir.payloadPath = readOptional w dir.payloadPath :=
    readOptional_congr (hagrees.node?_eq (place_join_not_mem hdir (by decide) (by decide)))
  rw [load, load, inputName_eq hdir, inputName_eq hdir',
    candidates_eq hagrees hnamed hnamed' hdir, hhost, hpayload]

end Agreement

/-- The fixture has the input, the overrides and the payload that its directory holds. -/
structure IsReadFrom (w : Workspace) (dir : FixtureDir) (fixture : Fixture) : Prop where
  directory : fixture.dir = dir
  input : ∃ name, inputName w dir.path = .ok name ∧ fixture.inputPath = Path.join dir.path name ∧
    fixture.extension = dottedExtension name
  host : readOptional w dir.hostPath = .ok fixture.host
  payload : readOptional w dir.payloadPath = .ok fixture.payload

/-- What loading comes to: the error of the input, of the overrides or of the payload, or the
fixture that the three make. -/
lemma load_cases (w : Workspace) (dir : FixtureDir) :
    (∃ error, load w dir = .error error ∧
      (inputName w dir.path = .error error ∨ readOptional w dir.hostPath = .error error ∨
        readOptional w dir.payloadPath = .error error)) ∨
      ∃ fixture, load w dir = .ok fixture ∧ IsReadFrom w dir fixture := by
  unfold load
  cases hname : inputName w dir.path with
  | error error => exact .inl ⟨error, rfl, .inl rfl⟩
  | ok name =>
    cases hhost : readOptional w dir.hostPath with
    | error error => exact .inl ⟨error, rfl, .inr (.inl rfl)⟩
    | ok host =>
      cases hpayload : readOptional w dir.payloadPath with
      | error error => exact .inl ⟨error, rfl, .inr (.inr rfl)⟩
      | ok payload => exact .inr ⟨_, rfl, rfl, ⟨name, hname, rfl, rfl⟩, hhost, hpayload⟩

/-- A fixture can be loaded exactly if its input and both documents can be read. -/
theorem load_eq_ok_iff : load w dir = .ok fixture ↔ IsReadFrom w dir fixture := by
  constructor
  · intro h
    obtain ⟨error, hload, -⟩ | ⟨loaded, hload, hread⟩ := load_cases w dir
    · cases hload.symm.trans h
    · cases hload.symm.trans h
      exact hread
  · rintro ⟨hdir, ⟨name, hname, hinput, hextension⟩, hhost, hpayload⟩
    cases fixture
    dsimp only at hdir hinput hextension hhost hpayload
    subst hdir hinput hextension
    simp only [load, hname, hhost, hpayload, bind, Except.bind, pure, Except.pure]

/-- The input of a loaded fixture is a file of its directory, and no snapshot. -/
lemma exists_input_of_load (hnamed : w.tree.WellNamed) (hdir : w.isDirectory dir.path = true)
    (h : load w dir = .ok fixture) :
    ∃ content, w.readBytes fixture.inputPath = .ok content ∧
      w.place fixture.inputPath ∉ snapshotPlaces := by
  obtain ⟨name, hinput, hpath, -⟩ := (load_eq_ok_iff.mp h).input
  have hcandidates := (inputName_eq_ok_iff hdir).mp hinput
  obtain ⟨hname, hstem, hfile⟩ := (mem_candidates_iff name hnamed hdir).mp
    (hcandidates ▸ List.mem_singleton_self name)
  obtain ⟨content, hnode⟩ := isFile_iff.mp hfile
  rw [hpath]
  exact ⟨content, readBytes_eq_ok_iff.mpr hnode,
    place_join_not_mem hdir hname (ne_snapshot_of_stem hstem)⟩

/-- Only a directory holds a fixture that can be loaded. -/
lemma isDirectory_of_load (h : load w dir = .ok fixture) : w.isDirectory dir.path = true := by
  obtain ⟨name, hname, -⟩ := (load_eq_ok_iff.mp h).input
  unfold inputName at hname
  split at hname
  · cases hname
  · next names hentries => exact isDirectory_of_entries hentries

/-- An optional document that is there was read from a text. -/
lemma exists_read_of_readOptional {document : Option Document}
    (h : readOptional w path = .ok document) :
    ∀ value ∈ document, ∃ text, Document.read text = .ok value := by
  unfold readOptional at h
  split_ifs at h
  · split at h
    · cases h
    · next text _ =>
      split at h
      · cases h
      · next value hvalue =>
        obtain rfl := Except.ok.inj h
        rintro _ ⟨⟩
        exact ⟨text, hvalue⟩
  · obtain rfl := Except.ok.inj h
    rintro _ ⟨⟩

lemma uniqueKeys_of_readOptional {document : Option Document}
    (h : readOptional w path = .ok document) : ∀ value ∈ document, value.UniqueKeys := by
  intro value hvalue
  obtain ⟨text, hread⟩ := exists_read_of_readOptional h value hvalue
  exact Document.uniqueKeys_of_read hread

lemma depth_le_of_readOptional {document : Option Document}
    (h : readOptional w path = .ok document) :
    ∀ value ∈ document, value.depth ≤ Document.maxDepth := by
  intro value hvalue
  obtain ⟨text, hread⟩ := exists_read_of_readOptional h value hvalue
  exact Document.depth_le_of_read hread

/-- No object of the documents of a loaded fixture has a key twice. -/
theorem uniqueKeys_of_load (h : load w dir = .ok fixture) :
    (∀ document ∈ fixture.host, document.UniqueKeys) ∧
      ∀ document ∈ fixture.payload, document.UniqueKeys := by
  have hread := load_eq_ok_iff.mp h
  exact ⟨uniqueKeys_of_readOptional hread.host, uniqueKeys_of_readOptional hread.payload⟩

end Fixture

end SnapshotSuite
