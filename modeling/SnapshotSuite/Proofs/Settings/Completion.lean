import Mathlib.Logic.Function.Basic
import Mathlib.Tactic.Lemma
import SnapshotSuite.Proofs.Tree.Walk
import SnapshotSuite.Settings.Loading
import SnapshotSuite.Suite.Error

/-!
# Settings are completed one by one

A table need not give every setting. Each of the four is what the table gives for it, and its own
default where the table gives nothing; the others make no difference to it, and neither does anything
else that stands in the table. A table is refused exactly if it gives a value of the wrong type.
-/

namespace SnapshotSuite

/-- A list of texts, as it is written. -/
def Toml.ofTexts (texts : List String) : Toml.Value :=
  .array (texts.map .string)

namespace Settings

section Setting

variable {α : Type} {fallback value other : α} {written : α → Toml.Value}
  {given : Option Toml.Value}

/-- What one setting comes to: the value that is given, or the default if none is. -/
def Settles (fallback : α) (written : α → Toml.Value) (given : Option Toml.Value) (value : α) :
    Prop :=
  given = some (written value) ∨ given = none ∧ value = fallback

/-- What is given for a setting has the right type, if anything is given. -/
def Fits (written : α → Toml.Value) (given : Option Toml.Value) : Prop :=
  ∀ v, given = some v → ∃ value, v = written value

/-- A setting comes to something exactly if what is given has the right type. -/
lemma exists_settles_iff : (∃ value, Settles fallback written given value) ↔ Fits written given := by
  constructor
  · rintro ⟨value, rfl | ⟨rfl, -⟩⟩ v hv
    · exact ⟨value, (Option.some.inj hv).symm⟩
    · cases hv
  · intro h
    cases given with
    | none => exact ⟨fallback, .inr ⟨rfl, rfl⟩⟩
    | some v =>
      obtain ⟨value, rfl⟩ := h v rfl
      exact ⟨value, .inl rfl⟩

end Setting

variable {given given' program args : Option Toml.Value} {fallback text : String}
  {defaults texts : List String} {items : List Toml.Value} {command : Command}
  {table table' : Toml.Table} {settings : Settings}

/-! ### Texts and lists of texts -/

lemma asText?_eq_some_iff {v : Toml.Value} : asText? v = some text ↔ v = .string text := by
  cases v <;> simp [asText?]

lemma text?_eq_some_iff : text? fallback given = some text ↔ Settles fallback .string given text := by
  unfold text? Settles
  split
  · simp [eq_comm]
  · simp
  · simp_all

/-- A list is one of texts exactly if each item is a text. -/
lemma mapM_asText?_eq_some_iff : items.mapM asText? = some texts ↔ items = texts.map .string := by
  induction items generalizing texts with
  | nil => cases texts <;> simp
  | cons item items ih =>
    cases texts with
    | nil => simp [List.mapM_cons, Option.bind_eq_some_iff]
    | cons text texts => simp [List.mapM_cons, Option.bind_eq_some_iff, asText?_eq_some_iff, ih]

lemma texts?_eq_some_iff :
    texts? defaults given = some texts ↔ Settles defaults Toml.ofTexts given texts := by
  unfold texts? Settles Toml.ofTexts
  split
  · simp [eq_comm]
  · simp [mapM_asText?_eq_some_iff]
  · simp_all

/-! ### The command -/

/-- The two parts of a command that a table gives: by their keys, or by their places in a list. What
else stands in the command is no part of it. -/
inductive Parts : Option Toml.Value → Option Toml.Value → Option Toml.Value → Prop where
  /-- No command is given, so no part is. -/
  | absent : Parts none none none
  /-- The parts stand at their keys. -/
  | keyed (fields : Toml.Table) :
    Parts (some (.table fields)) (fields.lookup "program") (fields.lookup "args")
  /-- The parts are the first two items. -/
  | listed (items : List Toml.Value) : Parts (some (.array items)) items[0]? items[1]?

lemma ofParts?_eq_some_iff :
    ofParts? program args = some command ↔
      Settles defaultCompiler.program .string program command.program ∧
        Settles defaultCompiler.args Toml.ofTexts args command.args := by
  rw [← text?_eq_some_iff, ← texts?_eq_some_iff]
  unfold ofParts?
  cases text? defaultCompiler.program program <;> cases texts? defaultCompiler.args args <;>
    cases command <;> simp

/-- A command is made of its parts. -/
lemma command?_of_parts (h : Parts given program args) : command? given = ofParts? program args := by
  cases h <;> rfl

/-- What has no parts is no command. A date is left out. -/
lemma exists_parts_of_command? (hdate : ∀ literal, given ≠ some (.dateTime literal))
    (h : command? given = some command) : ∃ program args, Parts given program args := by
  match given, h with
  | none, _ => exact ⟨_, _, .absent⟩
  | some (.table fields), _ => exact ⟨_, _, .keyed fields⟩
  | some (.array items), _ => exact ⟨_, _, .listed items⟩
  | some (.dateTime literal), _ => exact absurd rfl (hdate literal)

lemma command?_eq_some_iff (hdate : ∀ literal, given ≠ some (.dateTime literal)) :
    command? given = some command ↔ ∃ program args, Parts given program args ∧
      Settles defaultCompiler.program .string program command.program ∧
        Settles defaultCompiler.args Toml.ofTexts args command.args := by
  simp only [← ofParts?_eq_some_iff]
  constructor
  · intro h
    obtain ⟨program, args, hparts⟩ := exists_parts_of_command? hdate h
    exact ⟨program, args, hparts, command?_of_parts hparts ▸ h⟩
  · rintro ⟨program, args, hparts, h⟩
    rwa [command?_of_parts hparts]

/-! ### The table -/

/-- The settings complete a table: each of the four is what the table gives for it, or its own
default. -/
structure Completes (table : Toml.Table) (settings : Settings) : Prop where
  /-- The directory of the fixtures. -/
  fixturesDir : Settles "tests/fixtures" .string (table.lookup "fixtures_dir") settings.fixturesDir
  /-- The plugin. -/
  pluginFile : Settles "swc_plugin_import_jsx_pragma.wasm" .string (table.lookup "plugin_file")
    settings.pluginFile
  /-- The program and the arguments of the command. -/
  compiler : ∃ program args, Parts (table.lookup "backend") program args ∧
    Settles "npx" .string program settings.compiler.program ∧
      Settles ["swc", Command.inputPlaceholder, "--config-file", Command.configPlaceholder,
        "--no-swcrc"] Toml.ofTexts args settings.compiler.args

/-- Every setting that the table gives has the right type. -/
structure WellTyped (table : Toml.Table) : Prop where
  /-- The directory of the fixtures is a text. -/
  fixturesDir : Fits .string (table.lookup "fixtures_dir")
  /-- The plugin is a text. -/
  pluginFile : Fits .string (table.lookup "plugin_file")
  /-- The command is a table or a list; its program is a text and its arguments are texts. -/
  compiler : ∃ program args, Parts (table.lookup "backend") program args ∧
    Fits .string program ∧ Fits Toml.ofTexts args

/-- Two tables give the same settings. The commands may be given in different ways as long as they
have the same parts. -/
structure GivesSame (table table' : Toml.Table) : Prop where
  /-- The same is given for the directory of the fixtures. -/
  fixturesDir : table'.lookup "fixtures_dir" = table.lookup "fixtures_dir"
  /-- The same is given for the plugin. -/
  pluginFile : table'.lookup "plugin_file" = table.lookup "plugin_file"
  /-- The same is given for the command, or commands of the same parts are. -/
  compiler : table'.lookup "backend" = table.lookup "backend" ∨ ∃ program args,
    Parts (table.lookup "backend") program args ∧ Parts (table'.lookup "backend") program args

lemma exists_completes_iff : (∃ settings, Completes table settings) ↔ WellTyped table := by
  constructor
  · rintro ⟨settings, hfixtures, hplugin, program, args, hparts, hprogram, hargs⟩
    exact ⟨exists_settles_iff.mp ⟨_, hfixtures⟩, exists_settles_iff.mp ⟨_, hplugin⟩, program, args,
      hparts, exists_settles_iff.mp ⟨_, hprogram⟩, exists_settles_iff.mp ⟨_, hargs⟩⟩
  · rintro ⟨hfixtures, hplugin, program, args, hparts, hprogram, hargs⟩
    obtain ⟨fixturesDir, hfixturesDir⟩ := exists_settles_iff.mpr hfixtures
    obtain ⟨pluginFile, hpluginFile⟩ := exists_settles_iff.mpr hplugin
    obtain ⟨programText, hprogramText⟩ := exists_settles_iff.mpr hprogram
    obtain ⟨argTexts, hargTexts⟩ := exists_settles_iff.mpr hargs
    exact ⟨⟨fixturesDir, pluginFile, programText, argTexts⟩, hfixturesDir, hpluginFile, program, args,
      hparts, hprogramText, hargTexts⟩

/-- Reading a table completes it. -/
lemma ofTable?_eq_some_iff (hdate : ∀ literal, table.lookup "backend" ≠ some (.dateTime literal)) :
    ofTable? table = some settings ↔ Completes table settings := by
  have hparts : ofTable? table = some settings ↔
      text? (default : Settings).fixturesDir (table.lookup "fixtures_dir") =
          some settings.fixturesDir ∧
        text? (default : Settings).pluginFile (table.lookup "plugin_file") =
          some settings.pluginFile ∧
        command? (table.lookup "backend") = some settings.compiler := by
    unfold ofTable?
    cases text? (default : Settings).fixturesDir (table.lookup "fixtures_dir") <;>
      cases text? (default : Settings).pluginFile (table.lookup "plugin_file") <;>
      cases command? (table.lookup "backend") <;> cases settings <;> simp
  rw [hparts, text?_eq_some_iff, text?_eq_some_iff, command?_eq_some_iff hdate]
  exact ⟨fun ⟨hfixtures, hplugin, hcompiler⟩ => ⟨hfixtures, hplugin, hcompiler⟩,
    fun ⟨hfixtures, hplugin, hcompiler⟩ => ⟨hfixtures, hplugin, hcompiler⟩⟩

/-- Tables that give the same are read alike. -/
lemma ofTable?_eq_of_givesSame (h : GivesSame table table') : ofTable? table' = ofTable? table := by
  have hcompiler : command? (table'.lookup "backend") = command? (table.lookup "backend") := by
    rcases h.compiler with heq | ⟨program, args, hparts, hparts'⟩
    · rw [heq]
    · rw [command?_of_parts hparts, command?_of_parts hparts']
  unfold ofTable?
  rw [h.fixturesDir, h.pluginFile, hcompiler]

/-! ### What stands in a table besides -/

/-- The second table has one thing more than the first, and that names no setting: another key, another
key in the command, or an item behind the second in a command that is a list. -/
inductive Pads : Toml.Table → Toml.Table → Prop where
  /-- Another key of the table. -/
  | key (before after : Toml.Table) (entry : String × Toml.Value)
    (hentry : entry.1 ∉ ["fixtures_dir", "plugin_file", "backend"]) :
    Pads (before ++ after) (before ++ entry :: after)
  /-- Another key of the command. -/
  | commandKey (before after front back : Toml.Table) (entry : String × Toml.Value)
    (hentry : entry.1 ∉ ["program", "args"]) :
    Pads (before ++ ("backend", .table (front ++ back)) :: after)
      (before ++ ("backend", .table (front ++ entry :: back)) :: after)
  /-- Another item of the command. -/
  | commandItem (before after : Toml.Table) (items : List Toml.Value) (item : Toml.Value)
    (hitems : 2 ≤ items.length) :
    Pads (before ++ ("backend", .array items) :: after)
      (before ++ ("backend", .array (items ++ [item])) :: after)

section Lookup

variable {before after : Toml.Table} {key other : String} {v v' : Toml.Value}

/-- An entry of another key makes no difference to a lookup. -/
lemma lookup_append_cons_of_ne (h : key ≠ other) :
    (before ++ (other, v) :: after).lookup key = (before ++ after).lookup key := by
  rw [List.lookup_append, List.lookup_append, List.lookup_cons, beq_eq_false_iff_ne.mpr h]

/-- Commands of the same parts can be put for each other. -/
lemma givesSame_of_parts (hparts : Parts (some v) program args)
    (hparts' : Parts (some v') program args) :
    GivesSame (before ++ ("backend", v) :: after) (before ++ ("backend", v') :: after) where
  fixturesDir := by
    rw [lookup_append_cons_of_ne (by decide), lookup_append_cons_of_ne (by decide)]
  pluginFile := by
    rw [lookup_append_cons_of_ne (by decide), lookup_append_cons_of_ne (by decide)]
  compiler := by
    rw [List.lookup_append, List.lookup_append, List.lookup_cons_self, List.lookup_cons_self]
    cases before.lookup "backend" with
    | some given => exact .inl rfl
    | none => exact .inr ⟨program, args, hparts, hparts'⟩

end Lookup

/-- What names no setting makes no difference to what is given. -/
lemma Pads.givesSame (h : Pads table table') : GivesSame table table' := by
  cases h with
  | key before after entry hentry =>
    have hne : ∀ key ∈ ["fixtures_dir", "plugin_file", "backend"], key ≠ entry.1 :=
      fun key hkey heq => hentry (heq ▸ hkey)
    exact ⟨lookup_append_cons_of_ne (hne _ (by decide)), lookup_append_cons_of_ne (hne _ (by decide)),
      .inl (lookup_append_cons_of_ne (hne _ (by decide)))⟩
  | commandKey before after front back entry hentry =>
    have hne : ∀ key ∈ ["program", "args"], key ≠ entry.1 :=
      fun key hkey heq => hentry (heq ▸ hkey)
    have hparts := Parts.keyed (front ++ entry :: back)
    rw [lookup_append_cons_of_ne (hne _ (by decide)),
      lookup_append_cons_of_ne (hne _ (by decide))] at hparts
    exact givesSame_of_parts (.keyed _) hparts
  | commandItem before after items item hitems =>
    have hparts := Parts.listed (items ++ [item])
    rw [List.getElem?_append_left (by omega), List.getElem?_append_left (by omega)] at hparts
    exact givesSame_of_parts (.listed _) hparts

/-! ### The file -/

/-- A file that holds a table gives the settings of the table. -/
lemma ofFile_eq {w : Workspace} {path : Path} (hread : w.readText path = .ok text)
    (htable : Toml.read? text = some table) :
    ofFile w path =
      match ofTable? table with
      | some settings => .ok settings
      | none => .error .malformed := by
  rw [ofFile, if_pos (Workspace.isPresent_of_readText hread), hread]
  cases hsettings : ofTable? table <;> simp only [htable, Option.bind_some, hsettings]

/-- A table is accepted exactly if everything that it gives for a setting has the right type, and then
each of the four settings is what the table gives for it or its own default. What names no setting is
passed over, and two tables that give the same are read alike. A file that holds the table gives the
settings of the table, or is refused as a malformed configuration; the words of that error are those in
front of the colon, and what the reader of tables says behind it is not modelled. A date in place of
the command is left out. -/
theorem ofTable?_completes (table : Toml.Table)
    (hdate : ∀ literal, table.lookup "backend" ≠ some (.dateTime literal)) :
    (∀ settings, ofTable? table = some settings ↔ Completes table settings) ∧
      ((∃ settings, ofTable? table = some settings) ↔ WellTyped table) ∧
      (∀ table', Pads table table' → ofTable? table' = ofTable? table) ∧
      (∀ table', GivesSame table table' → ofTable? table' = ofTable? table) ∧
      ∀ (w : Workspace) (path : Path) (text : String), w.readText path = .ok text →
        Toml.read? text = some table →
        (∀ settings, ofFile w path = .ok settings ↔ Completes table settings) ∧
          (¬WellTyped table → ofFile w path = .error .malformed) ∧
          ∀ error, ofFile w path = .error error → (SuiteError.settings error).message =
            "Configuration error: " ++ "Failed to parse configuration" := by
  have hcompletes : ∀ settings, ofTable? table = some settings ↔ Completes table settings :=
    fun settings => ofTable?_eq_some_iff hdate
  have htyped : (∃ settings, ofTable? table = some settings) ↔ WellTyped table := by
    simp only [hcompletes, exists_completes_iff]
  refine ⟨hcompletes, htyped, fun table' h => ofTable?_eq_of_givesSame h.givesSame,
    fun table' h => ofTable?_eq_of_givesSame h, fun w path text hread htable => ?_⟩
  have hfile := ofFile_eq hread htable
  refine ⟨fun settings => ?_, fun hwrong => ?_, fun error herror => ?_⟩
  · rw [← hcompletes, hfile]
    cases ofTable? table <;> simp
  · rw [hfile, Option.eq_none_iff_forall_ne_some.mpr fun settings h => hwrong (htyped.mp ⟨settings, h⟩)]
  · rw [hfile] at herror
    cases hsettings : ofTable? table with
    | some settings => simp [hsettings] at herror
    | none =>
      obtain rfl : .malformed = error := by simpa [hsettings] using herror
      rfl

/-- A table that gives the program of the command and nothing else. -/
def programOnly : Toml.Table :=
  [("backend", .table [("program", .string "swc")])]

/-- The settings with that program. -/
def withProgram : Settings :=
  { (default : Settings) with compiler := { defaultCompiler with program := "swc" } }

lemma completes_programOnly : Completes programOnly withProgram where
  fixturesDir := .inr ⟨rfl, rfl⟩
  pluginFile := .inr ⟨rfl, rfl⟩
  compiler := ⟨_, _, .keyed [("program", .string "swc")], .inl rfl, .inr ⟨rfl, rfl⟩⟩

/-- A table that gives only the program of the command takes the defaults for the rest, the arguments
of the command included, and a key that names no setting is passed over. A program that is no text is
refused. An empty file gives the defaults. -/
theorem ofTable?_completes_samples :
    ofTable? programOnly = some withProgram ∧
      ofTable? (programOnly ++ [("title", .bool true)]) = some withProgram ∧
      ofTable? [("backend", .array [.bool true])] = none ∧
      ofFile ⟨⟨[(["jsxsnap.toml"], .file [])], []⟩, []⟩ "jsxsnap.toml" = .ok default := by
  obtain ⟨hcompletes, -, hpads, -⟩ := ofTable?_completes programOnly (by simp [programOnly])
  obtain ⟨-, htyped, -⟩ := ofTable?_completes [("backend", .array [.bool true])] (by simp)
  obtain ⟨-, -, -, -, hfile⟩ := ofTable?_completes [] (by simp)
  refine ⟨(hcompletes _).mpr completes_programOnly, ?padded, ?refused, ?file⟩
  case padded =>
    have htitle : Pads (programOnly ++ []) (programOnly ++ [("title", .bool true)]) :=
      .key programOnly [] ("title", .bool true) (by decide)
    rw [hpads _ htitle, hcompletes]
    exact completes_programOnly
  case refused =>
    refine Option.eq_none_iff_forall_ne_some.mpr fun settings h => ?_
    obtain ⟨-, -, program, args, hparts, hprogram, -⟩ := htyped.mp ⟨settings, h⟩
    cases hparts with
    | listed items =>
      obtain ⟨text, htext⟩ := hprogram (.bool true) rfl
      cases htext
  case file =>
    have hempty : Toml.read? "" = some [] := by cbv
    exact ((hfile _ _ "" (by decide +kernel) hempty).1 _).mpr
      ⟨.inr ⟨rfl, rfl⟩, .inr ⟨rfl, rfl⟩, none, none, .absent, .inr ⟨rfl, rfl⟩, .inr ⟨rfl, rfl⟩⟩

end Settings

end SnapshotSuite
