import Rtun.Grants

/-!
# Loading and saving the configuration file

A save writes a sibling temporary file and renames it over the target. The disk
is what these two functions can see of the file system: the target and the
temporary file. A file system `Fs` also keeps every state that the disk has
passed through, so that a law can speak about a process that dies at any point.

Each system call of a save has an outcome chosen from outside: directory
creation, the temporary write, which may stop after any prefix, and the rename,
which replaces its target as a whole or not at all. The text layer is given: all
that is asked of it is that the text of a configuration, below the comment that
a save puts in front, reads back as that configuration.
-/

namespace Rtun

/-- What reading a path finds. -/
inductive Content where
  | missing
  | bytes (content : ByteArray)
  | unreadable (reason : String)

/-- The target and the temporary file beside it. -/
structure Disk where
  file : Content
  tmp : Option ByteArray

/-- A disk and the states it has passed through, the latest first. -/
structure Fs where
  disk : Disk
  past : List Disk

/-- Where the configuration is kept, and how messages name the places. -/
structure ConfigPath where
  display : String
  parent : Option String
  tmp : String

/-- `config.toml` in the state directory, with the extension replaced for the
temporary file. -/
def configPath (stateDir : String) : ConfigPath :=
  { display := stateDir ++ "/config.toml", parent := some stateDir,
    tmp := stateDir ++ "/config.toml.tmp" }

/-- The text layer between configurations and documents. -/
structure Toml where
  toStringPretty : Config → Fallible String
  fromStr : String → Fallible Config

/-- The comment that a save puts in front of the document. -/
def fileHeader : String :=
  "# rtun configuration. Managed by the admin UI; safe to hand-edit while\n" ++
    "# rtun is not running, and re-read on the next start.\n\n"

/-- The law assumed of the text layer: comments are skipped, and the text of a
configuration reads back as that configuration. -/
def Toml.ReadsBack (toml : Toml) : Prop :=
  ∀ config text, toml.toStringPretty config = .ok text →
    toml.fromStr (fileHeader ++ text) = .ok config

/-- The outcomes of the system calls of one save: nothing, or the reason of a
failure. A failed write has not opened the temporary file, or has written the
first bytes up to the given count. -/
structure Outcomes where
  createDirAll : Option String
  write : Option (Option Nat × String)
  rename : Option String

/-- Every system call succeeds. -/
def Outcomes.success : Outcomes := { createDirAll := none, write := none, rename := none }

namespace Fs

/-- A file system whose history starts here. -/
def start (disk : Disk) : Fs := { disk, past := [] }

/-- The states of the disk so far, the current one first. -/
def states (fs : Fs) : List Disk := fs.disk :: fs.past

def enter (fs : Fs) (disk : Disk) : Fs := { disk, past := fs.states }

/-- Truncate the temporary file and write the bytes one by one up to a count. -/
def writeTmp (fs : Fs) (content : ByteArray) : Nat → Fs
  | 0 => fs.enter { fs.disk with tmp := some ByteArray.empty }
  | count + 1 =>
      let before := fs.writeTmp content count
      before.enter { before.disk with tmp := some (content.extract 0 (count + 1)) }

/-- `fs::write` on the temporary file. -/
def write (fs : Fs) (content : ByteArray) : Option (Option Nat × String) → Fallible Unit × Fs
  | none => (.ok (), (fs.writeTmp content content.size).enter { fs.disk with tmp := some content })
  | some (none, reason) => (.error (.message reason), fs)
  | some (some count, reason) => (.error (.message reason), fs.writeTmp content count)

/-- `fs::rename` of the temporary file onto the target: all at once or not at
all. -/
def rename (fs : Fs) : Option String → Fallible Unit × Fs
  | some reason => (.error (.message reason), fs)
  | none =>
      match fs.disk.tmp with
      | none => (.error (.message "No such file or directory (os error 2)"), fs)
      | some content => (.ok (), fs.enter { file := .bytes content, tmp := none })

end Fs

/-- The text that a save writes for a configuration. -/
def fileBody (toml : Toml) (config : Config) : Fallible String := do
  let text ← Fallible.withContext (toml.toStringPretty config) "serialising config"
  pure (fileHeader ++ text)

/-- A missing file is an empty configuration, not an error. -/
def load (toml : Toml) (path : ConfigPath) (disk : Disk) : Fallible Config :=
  match disk.file with
  | .missing => .ok Config.default
  | .unreadable reason =>
      Fallible.withContext (.error (.message reason)) ("reading " ++ path.display)
  | .bytes content =>
      match String.fromUTF8? content with
      | none => Fallible.withContext (.error (.message "stream did not contain valid UTF-8"))
          ("reading " ++ path.display)
      | some document => do
          let config ← Fallible.withContext (toml.fromStr document) ("parsing " ++ path.display)
          Fallible.withContext config.validate ("in " ++ path.display)
          pure config

/-- Check, create the directory, write the temporary file, rename it over the
target. -/
def save (toml : Toml) (path : ConfigPath) (config : Config) (outcomes : Outcomes) (fs : Fs) :
    Fallible Unit × Fs :=
  match Fallible.withContext config.validate "refusing to write an invalid config" with
  | .error failure => (.error failure, fs)
  | .ok () =>
    match path.parent with
    | none => (.error (.message "config path has no parent directory"), fs)
    | some dir =>
      match outcomes.createDirAll with
      | some reason => (.error (.within ("creating " ++ dir) (.message reason)), fs)
      | none =>
        match fileBody toml config with
        | .error failure => (.error failure, fs)
        | .ok body =>
          match fs.write body.toByteArray outcomes.write with
          | (.error failure, fs) => (.error (failure.within ("writing " ++ path.tmp)), fs)
          | (.ok (), fs) =>
            match fs.rename outcomes.rename with
            | (.error failure, fs) => (.error (failure.within ("replacing " ++ path.display)), fs)
            | (.ok (), fs) => (.ok (), fs)

/-- A disk whose target holds what a save writes for this well-formed
configuration. -/
def Holds (toml : Toml) (disk : Disk) (config : Config) : Prop :=
  config.WellFormed ∧
    ∃ body, fileBody toml config = .ok body ∧ disk.file = .bytes body.toByteArray

/-- Only the target decides what a load returns. -/
theorem load_congr (toml : Toml) (path : ConfigPath) (left right : Disk)
    (same : left.file = right.file) : load toml path left = load toml path right := by
  simp only [load, same]

/-- A string is what its own bytes decode to. -/
theorem fromUTF8_toByteArray (text : String) : String.fromUTF8? text.toByteArray = some text := by
  simp only [String.fromUTF8?, dif_pos text.isValidUTF8]
  rfl

/-- A file whose text is that of a configuration is loaded exactly if it is
valid. -/
theorem load_document (toml : Toml) (path : ConfigPath) (disk : Disk) (document : String)
    (config loaded : Config) (stored : disk.file = .bytes document.toByteArray)
    (parsed : toml.fromStr document = .ok config) :
    load toml path disk = .ok loaded ↔ config.validate = .ok () ∧ config = loaded := by
  simp only [load, stored, fromUTF8_toByteArray, parsed, Fallible.withContext_ok]
  refine (Fallible.check_bind_ok_iff _ _ _).trans (and_congr (Fallible.withContext_ok_iff _ _ _) ?_)
  exact ⟨Except.ok.inj, congrArg Except.ok⟩

/-- Loading a file that a save wrote gives the saved configuration. -/
theorem load_of_holds (toml : Toml) (path : ConfigPath) (disk : Disk) (config : Config)
    (readsBack : toml.ReadsBack) (holds : Holds toml disk config) :
    load toml path disk = .ok config := by
  obtain ⟨wellFormed, body, serialised, stored⟩ := holds
  obtain ⟨text, written, rfl⟩ : ∃ text, toml.toStringPretty config = .ok text ∧
      fileHeader ++ text = body := by
    simpa [fileBody, Fallible.bind_ok_iff, pure, Except.pure] using serialised
  have parsed : toml.fromStr (fileHeader ++ text) = .ok config := readsBack config text written
  rw [load_document toml path disk _ config config stored parsed]
  exact ⟨config.validate_ok_iff.mpr wellFormed, rfl⟩

/-- A configuration with one shared offer. -/
def sshOffered : Config :=
  { Config.default with
    serve := { shared := [{ proto := .tcp, port := 22, name := "ssh", enabled := true }], peers := [] } }

/-- Its document. -/
def sshText : String :=
  "[serve]\npeers = []\n\n[[serve.shared]]\nproto = \"tcp\"\nport = 22\nname = \"ssh\"\n" ++
    "enabled = true\n\n[connect]\nbindings = []\n"

/-- A text layer that knows this one configuration and its document. -/
def sshToml : Toml where
  toStringPretty config :=
    if config = sshOffered then .ok sshText else .error (.message "unsupported value")
  fromStr document :=
    if document = fileHeader ++ sshText then .ok sshOffered else .error (.message "TOML parse error")

/-- The one document that it prints is read back as its configuration. -/
theorem sshToml_readsBack : sshToml.ReadsBack := by
  intro config text written
  have known : config = sshOffered ∧ sshText = text := by
    by_cases same : config = sshOffered
    · simp only [sshToml, if_pos same] at written
      exact ⟨same, Except.ok.inj written⟩
    · simp only [sshToml, if_neg same] at written
      cases written
  obtain ⟨rfl, rfl⟩ := known
  simp only [sshToml, if_true]

/-- Whatever a load returns is well formed. -/
theorem load_wellFormed (toml : Toml) (path : ConfigPath) (disk : Disk) (config : Config)
    (loaded : load toml path disk = .ok config) : config.WellFormed := by
  unfold load at loaded
  split at loaded
  · obtain rfl : Config.default = config := Except.ok.inj loaded
    exact Config.default_wellFormed
  · simp at loaded
  · split at loaded
    · simp at loaded
    · obtain ⟨parsed, _, rest⟩ := (Fallible.bind_ok_iff _ _ _).mp loaded
      obtain ⟨valid, same⟩ := (Fallible.check_bind_ok_iff _ _ _).mp rest
      obtain rfl : parsed = config := Except.ok.inj same
      exact parsed.validate_ok_iff.mp ((Fallible.withContext_ok_iff _ _ _).mp valid)

/-- Nothing on the way from one file system to the other touched the target. -/
structure Fs.Quiet (before after : Fs) : Prop where
  file : after.disk.file = before.disk.file
  passed : ∀ disk ∈ after.states, disk ∈ before.states ∨ disk.file = before.disk.file

/-- Doing nothing leaves the file alone. -/
theorem Fs.Quiet.refl (fs : Fs) : fs.Quiet fs :=
  ⟨rfl, fun _ member => Or.inl member⟩

/-- Entering a state with the same target keeps a quiet history quiet. -/
theorem Fs.Quiet.enter {before after : Fs} (quiet : before.Quiet after) (disk : Disk)
    (same : disk.file = before.disk.file) : before.Quiet (after.enter disk) := by
  refine ⟨same, ?_⟩
  intro entered member
  rcases List.mem_cons.mp member with rfl | earlier
  · exact Or.inr same
  · exact quiet.passed entered earlier

/-- Writing the temporary file, to any length, leaves the target alone
throughout. -/
theorem Fs.quiet_writeTmp (fs : Fs) (content : ByteArray) (count : Nat) :
    fs.Quiet (fs.writeTmp content count) := by
  induction count with
  | zero => exact (Fs.Quiet.refl fs).enter _ rfl
  | succ count inductionHypothesis => exact inductionHypothesis.enter _ inductionHypothesis.file

/-- Writing the temporary file leaves the file itself alone, whether it succeeds,
fails or stops part way. -/
theorem Fs.quiet_write (fs : Fs) (content : ByteArray) (outcome : Option (Option Nat × String)) :
    fs.Quiet (fs.write content outcome).2 := by
  match outcome with
  | none => exact (fs.quiet_writeTmp content content.size).enter _ rfl
  | some (none, _) => exact Fs.Quiet.refl fs
  | some (some count, _) => exact fs.quiet_writeTmp content count

/-- A successful write leaves the whole content in the temporary file. -/
theorem Fs.write_ok (fs after : Fs) (content : ByteArray) (outcome : Option (Option Nat × String))
    (written : fs.write content outcome = (.ok (), after)) : after.disk.tmp = some content := by
  match outcome with
  | none =>
    obtain ⟨_, rfl⟩ := Prod.mk.inj written
    rfl
  | some (none, _) => simp [Fs.write] at written
  | some (some _, _) => simp [Fs.write] at written

/-- What a save may do to the target: a failed one leaves it alone, a successful
one leaves the text of a well-formed configuration, and every state of the disk on
the way has one of the two, whatever the temporary file holds. -/
structure SaveEffect (toml : Toml) (config : Config) (before : Fs) (result : Fallible Unit × Fs) :
    Prop where
  failed : ∀ failure, result.1 = .error failure → result.2.disk.file = before.disk.file
  saved : result.1 = .ok () → Holds toml result.2.disk config
  passed : ∀ disk ∈ result.2.states,
    disk ∈ before.states ∨ disk.file = before.disk.file ∨ Holds toml disk config

/-- A failure before the rename: everything so far was quiet. -/
theorem SaveEffect.of_quiet (toml : Toml) (config : Config) (before after : Fs) (failure : Failure)
    (quiet : before.Quiet after) : SaveEffect toml config before (.error failure, after) := by
  refine ⟨fun _ _ => quiet.file, ?_, ?_⟩
  · intro impossible
    cases impossible
  · intro disk member
    rcases quiet.passed disk member with earlier | same
    · exact Or.inl earlier
    · exact Or.inr (Or.inl same)

/-- The rename is the single step that changes the target. -/
theorem SaveEffect.of_rename (toml : Toml) (config : Config) (before after : Fs) (body : String)
    (wellFormed : config.WellFormed) (serialised : fileBody toml config = .ok body)
    (quiet : before.Quiet after) :
    SaveEffect toml config before
      (.ok (), after.enter { file := .bytes body.toByteArray, tmp := none }) := by
  have holds : Holds toml { file := .bytes body.toByteArray, tmp := none } config :=
    ⟨wellFormed, body, serialised, rfl⟩
  refine ⟨?_, fun _ => holds, ?_⟩
  · intro failure impossible
    cases impossible
  · intro disk member
    rcases List.mem_cons.mp member with rfl | earlier
    · exact Or.inr (Or.inr holds)
    · rcases quiet.passed disk earlier with known | same
      · exact Or.inl known
      · exact Or.inr (Or.inl same)

/-- Every save has the effect that is promised of it. The cases follow the steps
of the function; each early return leaves by `SaveEffect.of_quiet`. -/
theorem save_effect (toml : Toml) (path : ConfigPath) (config : Config) (outcomes : Outcomes)
    (fs : Fs) : SaveEffect toml config fs (save toml path config outcomes fs) := by
  have unchanged (failure : Failure) : SaveEffect toml config fs (.error failure, fs) :=
    SaveEffect.of_quiet toml config fs fs failure (Fs.Quiet.refl fs)
  unfold save
  split
  · exact unchanged _
  · rename_i checked
    have valid : config.validate = .ok () := (Fallible.withContext_ok_iff _ _ _).mp checked
    split
    · exact unchanged _
    · split
      · exact unchanged _
      · split
        · exact unchanged _
        · rename_i body serialised
          have quiet : fs.Quiet (fs.write body.toByteArray outcomes.write).2 :=
            fs.quiet_write body.toByteArray outcomes.write
          split
          · rename_i failure after written
            rw [written] at quiet
            exact SaveEffect.of_quiet toml config fs after _ quiet
          · rename_i after written
            rw [written] at quiet
            have whole : after.disk.tmp = some body.toByteArray :=
              fs.write_ok after body.toByteArray outcomes.write written
            cases outcome : outcomes.rename with
            | some reason => exact SaveEffect.of_quiet toml config fs after _ quiet
            | none =>
              simp only [Fs.rename, whole]
              exact SaveEffect.of_rename toml config fs after body
                (config.validate_ok_iff.mp valid) serialised quiet

/-- When every system call succeeds, a save succeeds exactly if the configuration
is valid. -/
theorem save_success_iff (toml : Toml) (path : ConfigPath) (config : Config) (fs : Fs)
    (dir body : String) (inDir : path.parent = some dir)
    (serialised : fileBody toml config = .ok body) :
    (save toml path config .success fs).1 = .ok () ↔ config.validate = .ok () := by
  cases checked : config.validate with
  | error failure => simp [save, checked]
  | ok =>
    simp [save, checked, inDir, serialised, Outcomes.success, Fs.write, Fs.rename, Fs.enter]

end Rtun
