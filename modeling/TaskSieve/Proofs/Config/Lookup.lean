import TaskSieve.Config.Files

/-!
# The configuration that applies to a directory

The search takes whatever stands in a place for a configuration, and only a
file can be loaded.  So a directory with one of the names hides the files after
it, and it is told as missing.  Where the search finds a file, or nothing, the
result is that of the nearest file: its configuration, an error about what is
in it, or the defaults.
-/

namespace TaskSieve

/-- Whether a path leads to a file. -/
def Files.hasFile (files : Files) (path : String) : Bool :=
  match files path with
  | .nowhere _ => false
  | .directory => false
  | .file _ => true

/-- Whether an error is about what is in a file: no text, no document, or a
setting that is refused. -/
def ConfigError.isOfContent : ConfigError → Bool
  | .notFound _ => false
  | .invalid _ _ => true
  | .toml => true
  | .yaml => true
  | .notText => true

/-- An outcome that, if it is an error, is one about what is in a file. -/
def ConfigError.OnlyOfContent {α : Type} (outcome : Except ConfigError α) :
    Prop :=
  ∀ error, outcome = .error error → error.isOfContent = true

namespace ConfigError.OnlyOfContent

variable {α β : Type}

theorem ok (value : α) : OnlyOfContent (.ok value) := by
  rintro error ⟨⟩

theorem error {fault : ConfigError} (ofContent : fault.isOfContent = true) :
    OnlyOfContent (.error fault : Except ConfigError α) := by
  rintro other ⟨⟩
  exact ofContent

theorem bind {first : Except ConfigError α} {next : α → Except ConfigError β}
    (firstOnly : OnlyOfContent first)
    (nextOnly : ∀ value, OnlyOfContent (next value)) :
    OnlyOfContent (first >>= next) := by
  cases first with
  | error fault => exact .error (firstOnly fault rfl)
  | ok value => exact nextOnly value

theorem map {outcome : Except ConfigError α} (only : OnlyOfContent outcome)
    (change : α → β) : OnlyOfContent (outcome.map change) := by
  cases outcome with
  | error fault => exact .error (only fault rfl)
  | ok value => exact .ok (change value)

theorem ite {condition : Prop} [Decidable condition]
    {first second : Except ConfigError α} (firstOnly : OnlyOfContent first)
    (secondOnly : OnlyOfContent second) :
    OnlyOfContent (if condition then first else second) := by
  split
  · exact firstOnly
  · exact secondOnly

end ConfigError.OnlyOfContent

open ConfigError

/-! ### Checks refuse settings and nothing else -/

theorem PredictorSettings.check_onlyOfContent (settings : PredictorSettings) :
    OnlyOfContent settings.check := by
  unfold check
  split
  · exact .error rfl
  · exact .ite (.error rfl) (.ite (.error rfl) (.ok _))

theorem BackstopSettings.check_onlyOfContent (settings : BackstopSettings) :
    OnlyOfContent settings.check :=
  .ite (.error rfl) (.ite (.error rfl) (.ok _))

theorem checkThreshold_onlyOfContent (field : String) (threshold : Binary64) :
    OnlyOfContent (checkThreshold field threshold) :=
  .ite (.ok _) (.error rfl)

theorem PolicySettings.check_onlyOfContent (index : Nat)
    (settings : PolicySettings) : OnlyOfContent (settings.check index) := by
  apply OnlyOfContent.ite (.error rfl)
  apply OnlyOfContent.ite (.error rfl)
  split
  · exact .error rfl
  · exact .ok _

theorem checkPolicies_onlyOfContent (index : Nat)
    (policies : List PolicySettings) :
    OnlyOfContent (checkPolicies index policies) := by
  induction policies generalizing index with
  | nil => exact .ok _
  | cons policy rest induction =>
      rw [checkPolicies]
      cases checked : policy.check index with
      | error fault =>
          exact .error (policy.check_onlyOfContent index fault checked)
      | ok _ => exact induction (index + 1)

namespace Config

theorem check_onlyOfContent (config : Config) : OnlyOfContent config.check :=
  config.predictor.check_onlyOfContent.bind fun _ =>
    config.backstop.check_onlyOfContent.bind fun _ =>
      (checkThreshold_onlyOfContent _ _).bind fun _ =>
        checkPolicies_onlyOfContent 0 config.policies

theorem ofToml_onlyOfContent (text : String) : OnlyOfContent (ofToml text) := by
  unfold ofToml
  split
  · split
    · exact .ok _
    · exact .error rfl
  · exact .error rfl

theorem ofYaml_onlyOfContent (text : String) : OnlyOfContent (ofYaml text) := by
  unfold ofYaml
  split
  · split
    · exact .ok _
    · exact .error rfl
  · exact .error rfl

variable {files : Files} {start path : String}

/-- What is not a file is told as missing. -/
theorem load_of_not_file (noFile : files.hasFile path = false) :
    load files path = .error (.notFound path) := by
  unfold Files.hasFile at noFile
  cases found : files path with
  | nowhere fault => simp [load, Files.read, found, bind, Except.bind]
  | directory => simp [load, Files.read, found, bind, Except.bind]
  | file content => simp [found] at noFile

/-- The configuration that is written in a text, as its path tells how, if it
passes the check. -/
def ofText (path text : String) : Except ConfigError Config :=
  (if Path.extension? path == some "toml" then ofToml text else ofYaml text) >>=
    fun config =>
    config.check >>= fun _ => .ok config

theorem ofText_onlyOfContent (path text : String) :
    OnlyOfContent (ofText path text) := by
  apply OnlyOfContent.bind
  · exact .ite (ofToml_onlyOfContent text) (ofYaml_onlyOfContent text)
  · intro config
    exact config.check_onlyOfContent.bind fun _ => .ok _

/-- A file is loaded by reading its content as a text. -/
theorem load_of_file {content : ByteArray}
    (found : files path = .file content) :
    load files path =
      match Utf8.decode? content with
      | some text => ofText path text
      | none => .error .notText := by
  cases decoded : Utf8.decode? content with
  | none => simp [load, Files.read, found, decoded, bind, Except.bind]
  | some text =>
      have isText : files.read path = .ok text := by
        simp [Files.read, found, decoded]
      simp only [load, isText, ofText]
      split
      · rfl
      · rfl

theorem exists_content_of_hasFile (isFile : files.hasFile path = true) :
    ∃ content, files path = .file content := by
  unfold Files.hasFile at isFile
  cases found : files path with
  | nowhere fault => simp [found] at isFile
  | directory => simp [found] at isFile
  | file content => exact ⟨content, rfl⟩

/-- A file that does not load is refused for what is in it. -/
theorem load_onlyOfContent (isFile : files.hasFile path = true) :
    OnlyOfContent (load files path) := by
  obtain ⟨content, found⟩ := exists_content_of_hasFile isFile
  rw [load_of_file found]
  split
  · exact ofText_onlyOfContent path _
  · exact .error rfl

/-- The nearest file on the search path. -/
def nearestFile? (files : Files) (start : String) : Option String :=
  (searchPath start).find? files.hasFile

/-- The configuration in the nearest file, and where it is, or the defaults. -/
def ofNearestFile (files : Files) (start : String) :
    Except ConfigError (Config × Option String) :=
  match nearestFile? files start with
  | some path => (load files path).map fun config => (config, some path)
  | none => .ok ({}, none)

theorem ofNearestFile_onlyOfContent (files : Files) (start : String) :
    OnlyOfContent (ofNearestFile files start) := by
  unfold ofNearestFile
  cases nearest : nearestFile? files start with
  | none => exact .ok _
  | some path =>
      have isFile : files.hasFile path = true := List.find?_some nearest
      exact (load_onlyOfContent isFile).map _

theorem hasEntry_of_hasFile (isFile : files.hasFile path = true) :
    files.hasEntry path = true := by
  obtain ⟨content, found⟩ := exists_content_of_hasFile isFile
  rw [Files.hasEntry, found]

/-- If the search finds a file, then this is the nearest one. -/
theorem nearestFile?_of_find? (found : find? files start = some path)
    (isFile : files.hasFile path = true) :
    nearestFile? files start = some path := by
  obtain ⟨_, front, back, split, fail⟩ := List.find?_eq_some_iff_append.mp found
  refine List.find?_eq_some_iff_append.mpr ⟨isFile, front, back, split, ?_⟩
  intro other before
  have nothing : ¬ files.hasEntry other = true := by
    simpa using fail other before
  simpa using fun isOther => nothing (hasEntry_of_hasFile isOther)

theorem nearestFile?_of_find?_none (found : find? files start = none) :
    nearestFile? files start = none := by
  rw [nearestFile?, List.find?_eq_none]
  intro other listed isFile
  exact List.find?_eq_none.mp found other listed (hasEntry_of_hasFile isFile)

theorem loadOrDefault_of_find? (found : find? files start = some path) :
    loadOrDefault files start = (load files path).map fun config =>
      (config, some path) := by
  rw [loadOrDefault, found]

/-- As long as the search finds a file or nothing, the result is that of the
nearest file. -/
theorem loadOrDefault_eq_ofNearestFile
    (isFile :
      ∀ path, find? files start = some path → files.hasFile path = true) :
    loadOrDefault files start = ofNearestFile files start := by
  cases found : find? files start with
  | none =>
      rw [loadOrDefault, ofNearestFile, found, nearestFile?_of_find?_none found]
  | some path =>
      rw [loadOrDefault_of_find? found, ofNearestFile,
        nearestFile?_of_find? found (isFile path found)]

theorem eq_directory_of_find? (found : find? files start = some path)
    (noFile : files.hasFile path = false) : files path = .directory := by
  have present : files.hasEntry path = true := List.find?_some found
  unfold Files.hasEntry at present
  unfold Files.hasFile at noFile
  cases leads : files path with
  | nowhere fault => simp [leads] at present
  | directory => rfl
  | file content => simp [leads] at noFile

/-- A place is told as missing exactly when the search finds a directory
there. -/
theorem loadOrDefault_eq_notFound_iff :
    loadOrDefault files start = .error (.notFound path) ↔
      find? files start = some path ∧ files path = .directory := by
  constructor
  · intro fails
    cases found : find? files start with
    | none => simp [loadOrDefault, found] at fails
    | some other =>
        rw [loadOrDefault_of_find? found] at fails
        cases isFile : files.hasFile other with
        | true =>
            have ofContent := (load_onlyOfContent isFile).map _ _ fails
            cases ofContent
        | false =>
            rw [load_of_not_file isFile] at fails
            cases fails
            exact ⟨rfl, eq_directory_of_find? found isFile⟩
  · rintro ⟨found, leads⟩
    have noFile : files.hasFile path = false := by simp [Files.hasFile, leads]
    rw [loadOrDefault_of_find? found, load_of_not_file noFile]
    rfl

/-- The nearest file gives its configuration or an error about what is in it,
and without one the defaults apply; nothing is told as missing.  The
configuration that is looked up is that of the nearest file exactly when no
directory is found before it.  A directory that is found is told as missing, and
nothing else is. -/
theorem loadOrDefault_of_nearestFile (files : Files) (start : String) :
    OnlyOfContent (ofNearestFile files start) ∧
    (loadOrDefault files start = ofNearestFile files start ↔
      ∀ path, find? files start = some path → files.hasFile path = true) ∧
    ∀ path, loadOrDefault files start = .error (.notFound path) ↔
      find? files start = some path ∧ files path = .directory := by
  have never := ofNearestFile_onlyOfContent files start
  refine ⟨never, ⟨?_, loadOrDefault_eq_ofNearestFile⟩,
    fun path => loadOrDefault_eq_notFound_iff⟩
  intro same path found
  cases isFile : files.hasFile path with
  | true => rfl
  | false =>
      have missing : loadOrDefault files start = .error (.notFound path) :=
        loadOrDefault_eq_notFound_iff.mpr
          ⟨found, eq_directory_of_find? found isFile⟩
      have ofContent := never _ (same ▸ missing)
      cases ofContent

/-- A directory with the name of a configuration is told as missing, although
there is no file and the defaults would apply. -/
theorem loadOrDefault_not_of_nearestFile :
    let files := (FileTree.directory [("gantry.toml", .directory [])]).files
    loadOrDefault files "/" = .error (.notFound "/gantry.toml") ∧
      ofNearestFile files "/" = .ok ({}, none) := by
  intro files
  have found : find? files "/" = some "/gantry.toml" := by decide
  have noFile : nearestFile? files "/" = none := by decide
  constructor
  · exact loadOrDefault_eq_notFound_iff.mpr ⟨found, rfl⟩
  · rw [ofNearestFile, noFile]

end Config

end TaskSieve
