import Courtship.Proofs.Settings.Merging

/-! The order of layers. A setting is what the last layer says that sets it, whatever the layers
before that one say of it, and whatever any layer says of other settings. -/

namespace Courtship

/-! ## Layers start with a key -/

theorem Toml.path_eq_cons (text : String) : ∃ s rest, Toml.path text = .key s :: rest := by
  cases hpath : path? text with
  | none => exact ⟨text, [], by simp [path, hpath]⟩
  | some steps =>
    rw [path, hpath, Option.getD_some]
    simp only [path?, readPathKey, Option.bind_eq_bind, Option.bind_eq_some_iff] at hpath
    obtain ⟨⟨step, r⟩, hstep, hsteps⟩ := hpath
    obtain ⟨rest, -, rfl⟩ := Option.map_eq_some_iff.mp hsteps
    split at hstep
    next => cases hstep
    next => cases hstep; exact ⟨_, rest, rfl⟩

namespace Layer

theorem isRooted_empty : empty.IsRooted := by simp [IsRooted, empty]

theorem isRooted_ofTable (es : List (String × Toml)) : (ofTable es).IsRooted := by
  intro a ha
  obtain ⟨⟨name, v⟩, -, rfl⟩ := List.mem_map.mp ha
  exact Toml.path_eq_cons name

theorem variablePath?_eq_path {name : String} {path : List Toml.Step}
    (h : variablePath? name = some path) : ∃ inner, path = Toml.path inner := by
  simp only [variablePath?] at h
  split at h
  next => exact ⟨_, (Option.some.inj h).symm⟩
  next => cases h

theorem isRooted_ofVariables (bindings : List (String × String)) :
    (ofVariables bindings).IsRooted := by
  intro a ha
  obtain ⟨⟨name, text⟩, -, hplace⟩ := List.mem_filterMap.mp ha
  obtain ⟨path, hpath, rfl⟩ := Option.map_eq_some_iff.mp hplace
  obtain ⟨inner, rfl⟩ := variablePath?_eq_path hpath
  exact Toml.path_eq_cons inner

theorem isRooted_ofDatabaseUrl (url : String) : (ofDatabaseUrl url).IsRooted := by
  simp [IsRooted, ofDatabaseUrl]

theorem hasSections_ofDatabaseUrl (url : String) : (ofDatabaseUrl url).HasSections := by
  simp [HasSections, ofDatabaseUrl, Toml.keepsSections]

theorem lowered_names : lowered "database" = "database" ∧ lowered "url" = "url" := by
  decide +kernel

theorem writes_ofDatabaseUrl (url : String) (f : Setting) :
    (ofDatabaseUrl url).assignments.flatMap f.writes =
      if f = .databaseUrl then [([], .string url)] else [] := by
  cases f <;>
    simp [ofDatabaseUrl, Setting.writes, lowered_names, Setting.sectionName, Setting.name]

theorem value?_ofDatabaseUrl (url : String) :
    (ofDatabaseUrl url).value? .databaseUrl = some (.string url) := by
  rw [value?, writes_ofDatabaseUrl]
  simp [Toml.given, Toml.setAt, Toml.isEmpty]

/-- A database's URL changes itself and nothing else. -/
theorem ofToml?_databaseUrl {layers : List Layer} (hrooted : ∀ l ∈ layers, l.IsRooted)
    (hsections : ∀ l ∈ layers, l.HasSections) {st : Settings}
    (h : ofToml? (merged layers) = some st) (url : String) :
    ofToml? (merged (layers ++ [ofDatabaseUrl url])) =
      some { st with database := { st.database with url := some url } } := by
  have hroot := (merged_spec hrooted hsections).1
  obtain ⟨hsectioned, hvalues⟩ :=
    run_assignments (isRooted_ofDatabaseUrl url) (hasSections_ofDatabaseUrl url) hroot
  have hmerged : merged (layers ++ [ofDatabaseUrl url]) =
      (ofDatabaseUrl url).assignments.foldl (fun root a => Toml.setAt a.2 a.1 root)
        (merged layers) := by
    rw [merged, List.foldl_append]
    rfl
  rw [hmerged]
  refine (ofToml?_settings hsectioned _).mpr fun f => ?_
  rw [hvalues, writes_ofDatabaseUrl]
  by_cases hf : f = .databaseUrl
  · subst hf
    rfl
  · have hread := (ofToml?_settings hroot st).mp h f
    rw [if_neg hf, Toml.afterWrites, List.foldl_nil, hread]
    cases f <;> first | rfl | exact absurd rfl hf

end Layer

/-! ## The layers of a program -/

namespace Surroundings

variable (s : Surroundings)

def fileLayers? : Option (List Layer) := do
  let defaults ← s.layer? "config/default" false
  let overrides ← s.layer? "config/local" false
  some [defaults, overrides]

/-- From the first one to the last. -/
def layers? : Option (List Layer) :=
  s.fileLayers?.map fun files => files ++ [s.variableLayer, s.databaseUrlLayer]

def layersFrom? (path : String) : Option (List Layer) :=
  (s.layer? path true).map fun file => [file, s.variableLayer]

theorem settings?_eq :
    s.settings? = s.layers?.bind fun layers => ofToml? (Layer.merged layers) := by
  unfold settings? layers? fileLayers?
  cases s.layer? "config/default" false <;> cases s.layer? "config/local" false <;> rfl

theorem settingsFrom?_eq (path : String) : s.settingsFrom? path =
    (s.layersFrom? path).bind fun layers => ofToml? (Layer.merged layers) := by
  unfold settingsFrom? layersFrom?
  cases s.layer? path true <;> rfl

theorem isRooted_of_layer? {path : String} {required : Bool} {l : Layer}
    (h : s.layer? path required = some l) : l.IsRooted := by
  unfold layer? at h
  split at h
  next =>
    split at h
    next => cases h
    next => cases h; exact Layer.isRooted_empty
  next =>
    obtain ⟨es, -, rfl⟩ := Option.map_eq_some_iff.mp h
    exact Layer.isRooted_ofTable es

theorem isRooted_databaseUrlLayer : s.databaseUrlLayer.IsRooted := by
  unfold databaseUrlLayer
  cases s.valueOf? "DATABASE_URL" with
  | none => exact Layer.isRooted_empty
  | some url => exact Layer.isRooted_ofDatabaseUrl url

theorem isRooted_variableLayer : s.variableLayer.IsRooted := Layer.isRooted_ofVariables _

theorem isRooted_of_layers? {layers : List Layer} (h : s.layers? = some layers) :
    ∀ l ∈ layers, l.IsRooted := by
  obtain ⟨files, hfiles, rfl⟩ := Option.map_eq_some_iff.mp h
  simp only [fileLayers?, Option.bind_eq_bind, Option.bind_eq_some_iff, Option.some.injEq] at hfiles
  obtain ⟨defaults, hdefaults, overrides, hoverrides, rfl⟩ := hfiles
  simpa using ⟨s.isRooted_of_layer? hdefaults, s.isRooted_of_layer? hoverrides,
    s.isRooted_variableLayer, s.isRooted_databaseUrlLayer⟩

theorem isRooted_of_layersFrom? {path : String} {layers : List Layer}
    (h : s.layersFrom? path = some layers) : ∀ l ∈ layers, l.IsRooted := by
  obtain ⟨file, hfile, rfl⟩ := Option.map_eq_some_iff.mp h
  simpa using ⟨s.isRooted_of_layer? hfile, s.isRooted_variableLayer⟩

/-! ## Without a variable -/

/-- The same, but for a variable that is not set. -/
def unset (name : String) : Surroundings :=
  { s with bindings := s.bindings.filter fun v => v.1 ≠ name }

theorem settingVariables_unset :
    (s.unset "DATABASE_URL").settingVariables = s.settingVariables := by
  have hother : Layer.variablePath? "DATABASE_URL" = none := by decide +kernel
  unfold settingVariables unset
  rw [List.filter_filter]
  congr 1
  refine List.filter_congr fun v _ => ?_
  by_cases hv : v.1 = "DATABASE_URL" <;> simp [hv, hother]

theorem variableLayer_unset : (s.unset "DATABASE_URL").variableLayer = s.variableLayer := by
  rw [variableLayer, settingVariables_unset, variableLayer]

theorem databaseUrlLayer_unset : (s.unset "DATABASE_URL").databaseUrlLayer = .empty := by
  have hnone : (s.unset "DATABASE_URL").valueOf? "DATABASE_URL" = none := by
    simp [valueOf?, unset]
  rw [databaseUrlLayer, hnone]
  rfl

theorem layers?_unset : (s.unset "DATABASE_URL").layers? =
    s.fileLayers?.map fun files => files ++ [s.variableLayer, .empty] := by
  rw [layers?, variableLayer_unset, databaseUrlLayer_unset]
  rfl

/-- Where no layer gives a section a value that is no table. -/
def HasSections : Prop := ∀ layers, s.layers? = some layers → ∀ l ∈ layers, l.HasSections

variable {s}

theorem settings?_of_unset {url : String} {st : Settings}
    (hurl : s.valueOf? "DATABASE_URL" = some url) (hsections : s.HasSections)
    (h : (s.unset "DATABASE_URL").settings? = some st) :
    s.settings? = some { st with database := { st.database with url := some url } } := by
  rw [settings?_eq, layers?_unset] at h
  obtain ⟨without, hwithout, hread⟩ := Option.bind_eq_some_iff.mp h
  obtain ⟨files, hfiles, rfl⟩ := Option.map_eq_some_iff.mp hwithout
  -- without its variable the last layer says nothing
  have hmerged : Layer.merged (files ++ [s.variableLayer, .empty]) =
      Layer.merged (files ++ [s.variableLayer]) := by
    simp [Layer.merged, Layer.laidOver, Layer.empty]
  have hlayers : s.layers? = some (files ++ [s.variableLayer] ++ [Layer.ofDatabaseUrl url]) := by
    simp [layers?, hfiles, databaseUrlLayer, hurl]
  rw [settings?_eq, hlayers]
  exact Layer.ofToml?_databaseUrl
    (fun l hl => s.isRooted_of_layers? hlayers l (List.mem_append_left _ hl))
    (fun l hl => hsections _ hlayers l (List.mem_append_left _ hl)) (hmerged ▸ hread) url

end Surroundings

/-! ## Which layer decides -/

/-- Where every section is a table, each setting is read from what the last layer says that sets
it, and is its default if none does. -/
def DecidedByLast (layers? : Option (List Layer)) (settings? : Option Settings) : Prop :=
  ∀ st, settings? = some st → ∃ layers, layers? = some layers ∧
    ((∀ l ∈ layers, l.HasSections) →
      ∀ f : Setting, f.of? (Layer.lastValue? layers f) = some (f.get st))

theorem decidedByLast_bind {layers? : Option (List Layer)}
    (hrooted : ∀ layers, layers? = some layers → ∀ l ∈ layers, l.IsRooted) :
    DecidedByLast layers? (layers?.bind fun layers => ofToml? (Layer.merged layers)) := by
  intro st h
  obtain ⟨layers, hlayers, hread⟩ := Option.bind_eq_some_iff.mp h
  exact ⟨layers, hlayers, fun hsections =>
    Layer.of?_lastValue? (hrooted layers hlayers) hsections hread⟩

namespace Surroundings

theorem decidedByLast_settings? (s : Surroundings) : DecidedByLast s.layers? s.settings? := by
  rw [settings?_eq]
  exact decidedByLast_bind fun layers => s.isRooted_of_layers?

theorem decidedByLast_settingsFrom? (s : Surroundings) (path : String) :
    DecidedByLast (s.layersFrom? path) (s.settingsFrom? path) := by
  rw [settingsFrom?_eq]
  exact decidedByLast_bind fun layers => s.isRooted_of_layersFrom?

theorem url_of_settings? {s : Surroundings} {url : String} {st : Settings}
    (hurl : s.valueOf? "DATABASE_URL" = some url) (hsections : s.HasSections)
    (h : s.settings? = some st) : st.database.url = some url := by
  obtain ⟨layers, hlayers, hdecided⟩ := s.decidedByLast_settings? st h
  have hread := hdecided (hsections layers hlayers) .databaseUrl
  obtain ⟨files, -, rfl⟩ := Option.map_eq_some_iff.mp hlayers
  simpa [Layer.lastValue?, Layer.value?_ofDatabaseUrl, databaseUrlLayer, hurl, Setting.of?,
    Setting.get, Setting.read?, Toml.Slot.optional, ofToml?, Toml.text?, eq_comm] using hread

theorem settingsFrom?_congr {s other : Surroundings} {path : String}
    (hfiles : ∀ p ∈ [path, path ++ ".toml"], other.file? p = s.file? p)
    (hvariables : other.settingVariables = s.settingVariables) :
    other.settingsFrom? path = s.settingsFrom? path := by
  have hbare := hfiles path (by simp)
  have htoml := hfiles (path ++ ".toml") (by simp)
  simp only [settingsFrom?, layer?, document, variableLayer, hbare, htoml, hvariables]

/-- **The last layer decides.** Where no layer gives a section a value that is no table, each
setting is read from what the last layer says that sets it, and is its default if none does. A URL
in `DATABASE_URL`, even one with no text, is the database's URL and changes nothing else. The
settings of a single file come from that file and the variables in the same way, and depend on no
other file and not on `DATABASE_URL`. -/
theorem last_layer_decides (s : Surroundings) :
    DecidedByLast s.layers? s.settings? ∧
      (s.HasSections → ∀ url, s.valueOf? "DATABASE_URL" = some url →
        (∀ st, s.settings? = some st → st.database.url = some url) ∧
          ∀ st, (s.unset "DATABASE_URL").settings? = some st →
            s.settings? = some { st with database := { st.database with url := some url } }) ∧
      ∀ path, DecidedByLast (s.layersFrom? path) (s.settingsFrom? path) ∧
        (s.unset "DATABASE_URL").settingsFrom? path = s.settingsFrom? path ∧
        ∀ other : Surroundings, (∀ p ∈ [path, path ++ ".toml"], other.file? p = s.file? p) →
          other.settingVariables = s.settingVariables →
          other.settingsFrom? path = s.settingsFrom? path := by
  refine ⟨s.decidedByLast_settings?, fun hsections url hurl => ⟨fun st => ?_, fun st => ?_⟩,
    fun path => ⟨s.decidedByLast_settingsFrom? path, ?_, fun other => ?_⟩⟩
  · exact url_of_settings? hurl hsections
  · exact settings?_of_unset hurl hsections
  · exact settingsFrom?_congr (fun p _ => rfl) s.settingVariables_unset
  · exact settingsFrom?_congr

/-- Surroundings with these texts for the two files of a program. -/
def ofFiles (defaults overrides : String) (bindings : List (String × String)) : Surroundings where
  files := [("config/default.toml", defaults), ("config/local.toml", overrides)]
  bindings := bindings

/-- Both files, a variable and a URL with no text. -/
def layered : Surroundings :=
  ofFiles "[server]\nhost = \"a\"\nport = 9\n" "[server]\nport = 7\n"
    [("LUME__LOGGING__LEVEL", "debug"), ("DATABASE_URL", "")]

theorem layered_read :
    layered.layers? = some
        [.ofTable [("server", .table [("host", .string "a"), ("port", .int 9)])],
          .ofTable [("server", .table [("port", .int 7)])],
          ⟨[([.key "logging", .key "level"], .string "debug")]⟩, .ofDatabaseUrl ""] ∧
      (layered.unset "DATABASE_URL").settings? =
        some { server := { host := "a", port := 7 }, logging := { level := "debug" } } ∧
      layered.layersFrom? "config/local" = some
        [.ofTable [("server", .table [("port", .int 7)])],
          ⟨[([.key "logging", .key "level"], .string "debug")]⟩] ∧
      layered.settingsFrom? "config/local" =
        some { server := { port := 7 }, logging := { level := "debug" } } := by
  decide +kernel

theorem last_layer_decides_layered :
    layered.HasSections ∧
      (layered.unset "DATABASE_URL").settings? =
        some { server := { host := "a", port := 7 }, logging := { level := "debug" } } ∧
      (∃ layers, layered.layers? = some layers ∧
        ∀ f : Setting, f.of? (Layer.lastValue? layers f) = some (f.get
          { server := { host := "a", port := 7 }, database := { url := some "" },
            logging := { level := "debug" } })) ∧
      ∃ layers, layered.layersFrom? "config/local" = some layers ∧
        ∀ f : Setting, f.of? (Layer.lastValue? layers f) =
          some (f.get { server := { port := 7 }, logging := { level := "debug" } }) := by
  obtain ⟨hall, hwithout, hfrom, hsingle⟩ := layered_read
  have hsections : layered.HasSections := by
    intro layers hlayers
    obtain rfl := Option.some.inj (hall.symm.trans hlayers)
    decide
  obtain ⟨hload, hurl, hloadFrom⟩ := last_layer_decides layered
  have hset := (hurl hsections "" rfl).2 _ hwithout
  obtain ⟨layers, hlayers, hdecided⟩ := hload _ hset
  obtain ⟨single, hlayersFrom, hdecidedFrom⟩ := (hloadFrom "config/local").1 _ hsingle
  refine ⟨hsections, hwithout, ⟨layers, hlayers, hdecided (hsections layers hlayers)⟩,
    single, hlayersFrom, hdecidedFrom ?_⟩
  obtain rfl := Option.some.inj (hfrom.symm.trans hlayersFrom)
  decide

/-! ## Arrays and empty tables -/

/-- A file with an array for a section. -/
def arrayed : Surroundings :=
  ofFiles "[logging]\nformat = \"text\"\n" "logging = [\"info\"]\n" []

/-- A file with an empty table for a setting. -/
def emptied : Surroundings := ofFiles "[server]\nport = 9000\n" "[server]\nport = \x7b\x7d\n" []

/-- An array for a section drops what an earlier layer says in it, and an empty table leaves what
an earlier layer says, although it is no port. -/
theorem array_drops_and_empty_table_keeps :
    (arrayed.layers? = some [.ofTable [("logging", .table [("format", .string "text")])],
        .ofTable [("logging", .array [.string "info"])], .empty, .empty] ∧
      (arrayed.layers?.bind fun layers => Layer.lastValue? layers .logFormat) =
        some (.string "text") ∧
      arrayed.settings? = some { logging := { format := "json" } }) ∧
    emptied.layers? = some [.ofTable [("server", .table [("port", .int 9000)])],
        .ofTable [("server", .table [("port", .table [])])], .empty, .empty] ∧
      Setting.port.read? (.table []) = none ∧
      emptied.settings? = some { server := { port := 9000 } } := by
  decide +kernel

end Surroundings

end Courtship
