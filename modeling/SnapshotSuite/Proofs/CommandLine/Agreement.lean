import SnapshotSuite.Proofs.CommandLine.Lookup
import SnapshotSuite.Proofs.CommandLine.Running
import SnapshotSuite.Proofs.Suite.Calls
import SnapshotSuite.Proofs.Suite.Isolation

/-!
# What is printed is what the compiler gets

The configuration of a fixture is put together twice: once to print it, from the name of the
fixture, and once in a run, from the list of all fixtures. Both ways lead to the same directory and
to the same document, or to the same error.
-/

namespace SnapshotSuite

open Workspace

/-- A plugin seen from a directory whose path is a text has a text for its path. -/
lemma Plugin.exists_inDirectory (directory : String) (file : Path) :
    ∃ plugin, Plugin.inDirectory (Utf8.bytesOf directory) file = .ok plugin := by
  have hpath : ∃ path, Path.joinBytes (Utf8.bytesOf directory) file = Utf8.bytesOf path := by
    unfold Path.joinBytes
    dsimp only
    split_ifs
    · exact ⟨file, rfl⟩
    · exact ⟨directory ++ file, (Utf8.bytesOf_append _ _).symm⟩
    · exact ⟨directory ++ "/" ++ file, by rw [Utf8.bytesOf_append, Utf8.bytesOf_append]⟩
  obtain ⟨path, hpath⟩ := hpath
  exact ⟨⟨path⟩, by rw [inDirectory, hpath, ofBytes, Utf8.text?_bytesOf]⟩

namespace Settings

variable {settings : Settings} {surroundings : Surroundings} {fixtures : Option Path}
  {filter : Option String} {w : Workspace} {dir : FixtureDir} {dirs : List FixtureDir}
  {plugin : Plugin} {error : FixtureError} {fixture : Fixture}

/-! ### The two ways to a configuration -/

lemma resolve_of_load_error
    (hnamed : FixtureDir.named w (settings.root fixtures) dir.name = .ok dir)
    (hload : Fixture.load w dir = .error error) :
    settings.resolve surroundings dir.name fixtures w = ⟨"", [], .error (.fixture error), w⟩ := by
  have hconfiguration :
      settings.configuration surroundings dir.name fixtures w = .error (.fixture error) := by
    unfold configuration
    simp only [hnamed, hload, bind, Except.bind, Except.mapError]
  unfold resolve
  rw [hconfiguration]

lemma resolve_of_load_ok
    (hnamed : FixtureDir.named w (settings.root fixtures) dir.name = .ok dir)
    (hload : Fixture.load w dir = .ok fixture)
    (hplugin : settings.plugin surroundings = .ok plugin) :
    settings.resolve surroundings dir.name fixtures w =
      ⟨(plugin.configure fixture.extension fixture.host fixture.payload).text ++ "\n", [], .ok (),
        w⟩ := by
  have hconfiguration : settings.configuration surroundings dir.name fixtures w =
      .ok (plugin.configure fixture.extension fixture.host fixture.payload) := by
    unfold configuration
    simp only [hnamed, hload, hplugin, bind, Except.bind, Except.mapError, pure, Except.pure]
  unfold resolve
  rw [hconfiguration]

/-- For every fixture that is found, its name leads back to it, and what is printed for that name is
what a run does with the fixture. If the fixture cannot be loaded, both end in the same error.
Otherwise the text that is printed is the text of the configuration file of the only call that the
fixture makes, with one line end. This holds of the fixture alone, whatever programs do. In a run
over all fixtures or over those that a filter selects, a fixture ends as it would end alone after
those before it, and if programs leave the tree alone these make no difference. -/
theorem resolve_agrees_with_run (settings : Settings) (surroundings : Surroundings)
    (fixtures : Option Path) (filter : Option String) (mode : Mode) {directory : String}
    (hdirectory : surroundings.directory = Utf8.bytesOf directory) (hnamed : w.tree.WellNamed)
    (hdiscover : discover w (settings.root fixtures) = .ok dirs) (hdir : dir ∈ dirs) :
    FixtureDir.named w (settings.root fixtures) dir.name = .ok dir ∧
    ∃ plugin, settings.prepare surroundings w fixtures filter = .ok (select filter dirs, plugin) ∧
      let suite := settings.suite surroundings plugin mode
      let resolved := settings.resolve surroundings dir.name fixtures w
      let outcomes := (suite.run (select filter dirs) (w, ())).1
      (∀ i : Nat, (select filter dirs)[i]? = some dir → outcomes[i]? =
        some (suite.runFixture dir (suite.run ((select filter dirs).take i) (w, ())).2).1) ∧
      suite.calls (select filter dirs) (w, ()) = outcomes.filterMap Outcome.call ∧
      (∀ error, Fixture.load w dir = .error error →
        resolved = ⟨"", [], .error (.fixture error), w⟩ ∧
        suite.runFixture dir (w, ()) = (⟨dir.name, none, .error error⟩, w, ()) ∧
        (surroundings.child.LeavesTree settings.compiler.program → ∀ i : Nat, (select filter dirs)[i]? = some dir →
          outcomes[i]? = some ⟨dir.name, none, .error error⟩)) ∧
      ∀ fixture, Fixture.load w dir = .ok fixture → ∃ configuration,
        resolved = ⟨(settings.compiler.invocation fixture.inputPath surroundings.configPath
          configuration).configText ++ "\n", [], .ok (), w⟩ ∧
        suite.calls [dir] (w, ()) = [⟨fixture.inputPath, configuration⟩] ∧
        (surroundings.child.LeavesTree settings.compiler.program → ∀ i : Nat, (select filter dirs)[i]? = some dir →
          ∃ outcome, outcomes[i]? = some outcome ∧
            outcome.call = some ⟨fixture.inputPath, configuration⟩) := by
  have hname := FixtureDir.named_of_mem hdiscover hdir
  obtain ⟨plugin, hfile⟩ := Plugin.exists_inDirectory directory settings.pluginFile
  have hplugin : settings.plugin surroundings = .ok plugin := by
    rw [Settings.plugin, hdirectory, hfile]
    rfl
  refine ⟨hname, plugin, prepare_eq_ok hdiscover hplugin filter, ?_⟩
  intro suite resolved outcomes
  have hcompiler : surroundings.child.LeavesTree settings.compiler.program → suite.compiler.LeavesTree :=
    fun hchild => leavesTree_suite hchild plugin mode
  have hselected : ∀ other ∈ select filter dirs, other.IsBelow w (settings.root fixtures) := by
    obtain ⟨keeps, hselect⟩ := select_eq_filter filter
    intro other hother
    rw [hselect] at hother
    exact isBelow_of_discover? hnamed (discover_eq_ok_iff.mp hdiscover) other
      (List.mem_of_mem_filter hother)
  refine ⟨fun i hi => Suite.getElem?_run hi _, suite.calls_eq_filterMap _ _,
    fun error hload => ⟨?_, ?_, ?_⟩, fun fixture hload =>
      ⟨(suite.call fixture).configuration, ?_, ?_, ?_⟩⟩
  · exact resolve_of_load_error hname hload
  · exact Suite.runFixture_of_load_error hload ()
  · intro hchild i hi
    exact Suite.getElem?_run_of_load_error (hcompiler hchild) hnamed hselected hi hload ()
  · exact resolve_of_load_ok hname hload hplugin
  · have hcall := suite.call_runFixture_of_load_ok hload ()
    rw [Suite.calls_eq_filterMap, Suite.run_cons, Suite.run_nil,
      List.filterMap_cons_some hcall, List.filterMap_nil]
    rfl
  · intro hchild i hi
    exact Suite.exists_getElem?_run_of_load_ok (hcompiler hchild) hnamed hselected hi hload ()

end Settings

/-- In the small suite one fixture has no input, for a run as for its name, and for another one what
is printed is the text of what the compiler gets. -/
theorem Settings.resolve_agrees_with_run_sample :
    let settings : Settings := default
    Workspace.sample.tree.WellNamed ∧ discover .sample "suite" = .ok FixtureDir.samples ∧
      (settings.resolve .sample "b" (some "suite") .sample).result =
        .error (.fixture (.missingInput "suite/b")) ∧
      (∃ plugin, ((settings.suite .sample plugin .assert).run FixtureDir.samples
        (.sample, ())).1[1]? = some ⟨"b", none, .error (.missingInput "suite/b")⟩) ∧
      ∃ plugin configuration,
        (settings.resolve .sample "a" (some "suite") .sample).output = configuration.text ++ "\n" ∧
        (settings.suite .sample plugin .assert).calls [⟨"a", "suite/a"⟩] (.sample, ()) =
          [⟨"suite/a/input.js", configuration⟩] := by
  intro settings
  have hdiscover : discover .sample (settings.root (some "suite")) = .ok FixtureDir.samples :=
    discover_eq_ok_iff.mpr discover?_sample
  have hdirectory : Surroundings.sample.directory = Utf8.bytesOf "/work" := rfl
  have hagrees := fun (dir : FixtureDir) (hdir : dir ∈ FixtureDir.samples) =>
    Settings.resolve_agrees_with_run settings .sample (some "suite") none .assert hdirectory
      wellNamed_sample hdiscover hdir
  refine ⟨wellNamed_sample, hdiscover, ?_, ?_, ?_⟩
  · obtain ⟨-, plugin, -, -, -, herror, -⟩ := hagrees ⟨"b", "suite/b"⟩ (by decide)
    rw [(herror _ Fixture.load_sample_error).1]
  · obtain ⟨-, plugin, -, -, -, herror, -⟩ := hagrees ⟨"b", "suite/b"⟩ (by decide)
    exact ⟨plugin, (herror _ Fixture.load_sample_error).2.2 (Surroundings.leavesTree_sample _) 1 rfl⟩
  · obtain ⟨-, plugin, -, -, -, -, hfixture⟩ := hagrees ⟨"a", "suite/a"⟩ (by decide)
    obtain ⟨configuration, hresolve, hcalls, -⟩ := hfixture _ Suite.load_sample
    exact ⟨plugin, configuration, by rw [hresolve]; rfl, hcalls⟩

end SnapshotSuite
