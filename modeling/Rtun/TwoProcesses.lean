import Rtun.Entries
import Rtun.Run
import Rtun.Seeding
import Rtun.Shared

/-!
# Two processes on one configuration file

A serving and a connecting process started on the same state directory. Each loads
the file, seeds it from its flags with a save if that changed anything, and then
saves one successful edit after the other. A save writes the whole configuration
from the process's own copy, through a temporary file whose name both share; the
lock on the write path is one of the process, not of the file.

Files are modeled by their inodes: an open file stays the same file when its name is
moved. A save is three system calls: open and truncate, write, rename.
-/

namespace Rtun.TwoProcesses

open Run

/-- The inodes, and those that the two names in the state directory refer to. -/
structure Files where
  inodes : List ByteArray
  target : Option Nat
  tmp : Option Nat

namespace Files

/-- The state directory before the processes start. -/
def start (file tmp : Option ByteArray) : Files :=
  match file, tmp with
  | none, none => { inodes := [], target := none, tmp := none }
  | some content, none => { inodes := [content], target := some 0, tmp := none }
  | none, some garbage => { inodes := [garbage], target := none, tmp := some 0 }
  | some content, some garbage => { inodes := [content, garbage], target := some 0, tmp := some 1 }

/-- What the two names read as. -/
def disk (files : Files) : Disk :=
  { file :=
      match files.target.bind (fun inode => files.inodes[inode]?) with
      | none => .missing
      | some content => .bytes content,
    tmp := files.tmp.bind (fun inode => files.inodes[inode]?) }

/-- Open the temporary file for writing: it is created, or truncated if it
exists. -/
def openTmp (files : Files) : Nat × Files :=
  match files.tmp with
  | some inode => (inode, { files with inodes := files.inodes.set inode ByteArray.empty })
  | none =>
      (files.inodes.length,
        { files with inodes := files.inodes ++ [ByteArray.empty], tmp := some files.inodes.length })

/-- Write bytes at the beginning of an open file. -/
def write (files : Files) (fd : Nat) (bytes : ByteArray) : Files :=
  match files.inodes[fd]? with
  | none => files
  | some old =>
      { files with inodes := files.inodes.set fd (bytes ++ old.extract bytes.size old.size) }

/-- Bytes written to an empty file are its content. -/
theorem write_over_empty (bytes : ByteArray) :
    bytes ++ ByteArray.empty.extract bytes.size ByteArray.empty.size = bytes := by
  simp [ByteArray.extract_eq_empty_iff.mpr]

/-- Rename the temporary file onto the target, if it is there. -/
def rename (files : Files) : Option Files :=
  files.tmp.map (fun inode => { files with target := some inode, tmp := none })

end Files

/-- One save: whether it is that of the startup, the copy it started from, the
configuration it writes, and its text. -/
structure Save where
  seeding : Bool
  copy : Config
  next : Config
  body : String

/-- Where a process is: the in-memory copy it runs on, and how far its save is. -/
inductive Stage where
  | starting
  | running (copy : Config)
  | saving (save : Save)
  | opened (save : Save) (fd : Nat)
  | written (save : Save) (fd : Nat)
  | exited

/-- The flags of the two commands. -/
structure Flags where
  allow : List EndpointId
  offered : List UInt16 × List UInt16
  maps : List PortMap × List PortMap

def Flags.seed (flags : Flags) (config : Config) : Role → Config × Bool
  | .serve => config.seedFromFlags flags.allow flags.offered.1 flags.offered.2
  | .connect => config.seedBindings flags.maps.1 flags.maps.2

/-- The two processes and their files, and what has been committed: for an entry
that some save has changed, the content that the last such save gave it. -/
structure State where
  stages : Role → Stage
  files : Files
  committed : EntryKey → Option (Option Entry)

/-- The next system call of one process, or the next admin edit it accepts. -/
inductive Action where
  | load (role : Role)
  | edit (role : Role) (edit : Edit Unit)
  | openTmp (role : Role)
  | write (role : Role)
  | rename (role : Role)

def State.enter (state : State) (role : Role) (stage : Stage) : State :=
  { state with stages := fun other => if other = role then stage else state.stages other }

/-- The entries that a save changes are committed as it wrote them. -/
def State.commit (state : State) (save : Save) : State :=
  { state with
    committed := fun key =>
      if save.copy.entry key = save.next.entry key then state.committed key
      else some (save.next.entry key) }

/-- Begin a save: the checks come before the first system call. -/
def begin (toml : Toml) (seeding : Bool) (copy next : Config) : Option Save :=
  match next.validate, fileBody toml next with
  | .ok (), .ok body => some { seeding, copy, next, body }
  | _, _ => none

/-- A save that fails ends a process that is starting; a running one keeps its
copy. -/
def Save.failed (save : Save) : Stage := if save.seeding then .exited else .running save.copy

def step (toml : Toml) (path : ConfigPath) (flags : Flags) (state : State) (action : Action) :
    Option State :=
  match action with
  | .load role =>
      match state.stages role, load toml path state.files.disk with
      | .starting, .ok loaded =>
          let seeded := flags.seed loaded role
          if seeded.2 then
            match begin toml true loaded seeded.1 with
            | none => some (state.enter role .exited)
            | some save => some (state.enter role (.saving save))
          else some (state.enter role (.running loaded))
      | .starting, .error _ => some (state.enter role .exited)
      | _, _ => none
  | .edit role edit =>
      match state.stages role with
      | .running copy =>
          match edit copy with
          | .error _ => none
          | .ok ((), next) =>
            (begin toml false copy next).map (fun save => state.enter role (.saving save))
      | _ => none
  | .openTmp role =>
      match state.stages role with
      | .saving save =>
          let opened := state.files.openTmp
          some { state.enter role (.opened save opened.1) with files := opened.2 }
      | _ => none
  | .write role =>
      match state.stages role with
      | .opened save fd =>
          some { state.enter role (.written save fd) with
            files := state.files.write fd save.body.toByteArray }
      | _ => none
  | .rename role =>
      match state.stages role with
      | .written save _ =>
          match state.files.rename with
          | none => some (state.enter role save.failed)
          | some files => some { (state.enter role (.running save.next)).commit save with files }
      | _ => none

def initial (file tmp : Option ByteArray) : State :=
  { stages := fun _ => .starting, files := Files.start file tmp, committed := fun _ => none }

/-- Every committed entry is in the file as it was committed. -/
def Kept (toml : Toml) (path : ConfigPath) (state : State) : Prop :=
  ∀ key content, state.committed key = some content →
    ∃ config, load toml path state.files.disk = .ok config ∧ config.entry key = content

/-- The process has the temporary file open, or has yet to rename it. -/
def Stage.midSave : Stage → Bool
  | .opened .. | .written .. => true
  | _ => false

/-- Where a save starts, no other is under way, and the copy it started from
agrees with the file on every entry that it does not change. -/
def StartsLevel (toml : Toml) (path : ConfigPath) (state : State) : Action → Prop
  | .openTmp role =>
      (∀ other, (state.stages other).midSave = false) ∧
        ∀ save config, state.stages role = .saving save →
          load toml path state.files.disk = .ok config →
            ∀ key, save.copy.entry key = save.next.entry key →
              config.entry key = save.copy.entry key
  | _ => True

/-- The save that a process is engaged in. -/
def Stage.save : Stage → Option Save
  | .saving save | .opened save _ | .written save _ => some save
  | _ => none

/-- The names refer to inodes that exist, and not both to one. -/
structure Files.Sound (files : Files) : Prop where
  target : ∀ inode, files.target = some inode → inode < files.inodes.length
  tmp : ∀ inode, files.tmp = some inode →
    inode < files.inodes.length ∧ files.target ≠ some inode

/-- The invariant. A process in the middle of a save is alone there, has its own
bytes under the temporary name, and will write every committed entry that it
leaves alone as it was committed. -/
structure Safe (toml : Toml) (path : ConfigPath) (state : State) : Prop where
  kept : Kept toml path state
  files : state.files.Sound
  saves : ∀ role save, (state.stages role).save = some save →
    save.next.WellFormed ∧ fileBody toml save.next = .ok save.body
  alone : ∀ role other, (state.stages role).midSave = true → (state.stages other).midSave = true →
    role = other
  opened : ∀ role save fd, state.stages role = .opened save fd →
    state.files.tmp = some fd ∧ state.files.inodes[fd]? = some ByteArray.empty
  written : ∀ role save fd, state.stages role = .written save fd →
    state.files.tmp = some fd ∧ state.files.inodes[fd]? = some save.body.toByteArray
  level : ∀ role save, (state.stages role).midSave = true → (state.stages role).save = some save →
    ∀ key content, state.committed key = some content →
      save.copy.entry key = save.next.entry key → save.next.entry key = content

/-- A process that enters a stage leaves the other one where it is. -/
@[simp] theorem enter_stages (state : State) (role other : Role) (stage : Stage) :
    (state.enter role stage).stages other = if other = role then stage else state.stages other := rfl

/-- What begins as a save writes the text of a well-formed configuration. -/
theorem begin_some (toml : Toml) (seeding : Bool) (copy next : Config) (save : Save)
    (begun : begin toml seeding copy next = some save) :
    save.next.WellFormed ∧ fileBody toml save.next = .ok save.body := by
  unfold begin at begun
  split at begun
  · rename_i body valid serialised
    cases begun
    exact ⟨next.validate_ok_iff.mp valid, serialised⟩
  · cases begun

/-- A process that moves outside the system calls of a save disturbs nothing. -/
theorem Safe.enter {toml : Toml} {path : ConfigPath} {state : State} (safe : Safe toml path state)
    (role : Role) (stage : Stage) (outside : stage.midSave = false)
    (begun : ∀ save, stage.save = some save →
      save.next.WellFormed ∧ fileBody toml save.next = .ok save.body) :
    Safe toml path (state.enter role stage) := by
  have before (other : Role) (later : Stage) (mid : later.midSave = true)
      (there : (state.enter role stage).stages other = later) :
      state.stages other = later := by
    rw [enter_stages] at there
    split at there
    · rw [← there, outside] at mid
      cases mid
    · exact there
  refine ⟨safe.kept, safe.files, ?_, ?_, ?_, ?_, ?_⟩
  · intro other save has
    rw [enter_stages] at has
    split at has
    · exact begun save has
    · exact safe.saves other save has
  · intro first second firstMid secondMid
    have one := before first _ firstMid rfl
    have two := before second _ secondMid rfl
    exact safe.alone first second (one ▸ firstMid) (two ▸ secondMid)
  · intro other save fd there
    exact safe.opened other save fd (before other _ rfl there)
  · intro other save fd there
    exact safe.written other save fd (before other _ rfl there)
  · intro other save mid has
    have same := before other _ mid rfl
    exact safe.level other save (same ▸ mid) (same ▸ has)

/-- In the beginning no process runs and nothing has been committed, whatever is
in the file. -/
theorem safe_initial (toml : Toml) (path : ConfigPath) (file tmp : Option ByteArray) :
    Safe toml path (initial file tmp) := by
  have names : (Files.start file tmp).Sound := by
    cases file <;> cases tmp <;> constructor <;> simp [Files.start]
  constructor <;> simp [initial, Kept, Stage.save, Stage.midSave, names]

/-- Opening the temporary file leaves the target as it reads, and the temporary
file empty. -/
theorem Files.openTmp_spec (files : Files) (sound : files.Sound) :
    files.openTmp.2.Sound ∧ files.openTmp.2.disk.file = files.disk.file ∧
      files.openTmp.2.tmp = some files.openTmp.1 ∧
      files.openTmp.2.inodes[files.openTmp.1]? = some ByteArray.empty := by
  cases named : files.tmp with
  | some inode =>
    obtain ⟨inside, notTarget⟩ := sound.tmp inode named
    have opened : files.openTmp =
        (inode, { files with inodes := files.inodes.set inode ByteArray.empty }) := by
      simp only [openTmp, named]
    rw [opened]
    refine ⟨⟨?_, ?_⟩, ?_, named, ?_⟩
    · intro other same
      simpa using sound.target other same
    · intro other same
      simpa using sound.tmp other same
    · cases target : files.target with
      | none => simp [disk, target]
      | some other =>
        have differs : inode ≠ other := fun same => notTarget (same ▸ target)
        simp [disk, target, List.getElem?_set, differs]
    · simp [inside]
  | none =>
    have opened : files.openTmp = (files.inodes.length,
        { files with inodes := files.inodes ++ [ByteArray.empty],
                     tmp := some files.inodes.length }) := by
      simp only [openTmp, named]
    rw [opened]
    refine ⟨⟨?_, ?_⟩, ?_, rfl, ?_⟩
    · intro other same
      have inside : other < files.inodes.length := sound.target other same
      simp only [List.length_append, List.length_singleton]
      omega
    · intro other same
      obtain rfl : files.inodes.length = other := Option.some.inj same
      refine ⟨by simp, ?_⟩
      intro target
      exact absurd (sound.target _ target) (Nat.lt_irrefl _)
    · cases target : files.target with
      | none => simp [disk, target]
      | some other =>
        have inside : other < files.inodes.length := sound.target other target
        simp [disk, target, List.getElem?_append_left inside]
    · simp

/-- Writing to a file that is not the target leaves the target as it reads. -/
theorem Files.write_spec (files : Files) (sound : files.Sound) (fd : Nat) (bytes : ByteArray)
    (named : files.tmp = some fd) (empty : files.inodes[fd]? = some ByteArray.empty) :
    (files.write fd bytes).Sound ∧ (files.write fd bytes).disk.file = files.disk.file ∧
      (files.write fd bytes).tmp = some fd ∧ (files.write fd bytes).inodes[fd]? = some bytes := by
  obtain ⟨inside, notTarget⟩ := sound.tmp fd named
  have written : files.write fd bytes = { files with inodes := files.inodes.set fd bytes } := by
    simp only [write, empty, write_over_empty]
  rw [written]
  refine ⟨⟨?_, ?_⟩, ?_, named, ?_⟩
  · intro other same
    simpa using sound.target other same
  · intro other same
    simpa using sound.tmp other same
  · cases target : files.target with
    | none => simp [disk, target]
    | some other =>
      have differs : fd ≠ other := fun same => notTarget (same ▸ target)
      simp [disk, target, List.getElem?_set, differs]
  · simp [inside]

/-- The renamed file is the target. -/
theorem Files.rename_spec (files : Files) (sound : files.Sound) (fd : Nat) (bytes : ByteArray)
    (named : files.tmp = some fd) (content : files.inodes[fd]? = some bytes) :
    ∃ after, files.rename = some after ∧ after.Sound ∧ after.disk.file = .bytes bytes := by
  obtain ⟨inside, _⟩ := sound.tmp fd named
  refine ⟨{ files with target := some fd, tmp := none }, by simp [rename, named], ⟨?_, ?_⟩, ?_⟩
  · intro other same
    obtain rfl : fd = other := Option.some.inj same
    exact inside
  · intro other same
    cases same
  · simp [disk, content]

/-- A save that starts alone and level with the file keeps the invariant. -/
theorem Safe.openTmp {toml : Toml} {path : ConfigPath} {state : State} (safe : Safe toml path state)
    (role : Role) (save : Save) (there : state.stages role = .saving save)
    (level : StartsLevel toml path state (.openTmp role)) :
    Safe toml path { state.enter role (.opened save state.files.openTmp.1) with
      files := state.files.openTmp.2 } := by
  obtain ⟨nobody, agrees⟩ := level
  obtain ⟨sound, sameFile, named, empty⟩ := state.files.openTmp_spec safe.files
  have sameLoad : load toml path state.files.openTmp.2.disk = load toml path state.files.disk :=
    load_congr toml path _ _ sameFile
  have only (other : Role) (later : Stage) (mid : later.midSave = true)
      (found : (state.enter role (.opened save state.files.openTmp.1)).stages other = later) :
      other = role ∧ later = .opened save state.files.openTmp.1 := by
    rw [enter_stages] at found
    split at found
    · rename_i same
      exact ⟨same, found.symm⟩
    · rw [← found, nobody other] at mid
      cases mid
  have ownSave : save.next.WellFormed ∧ fileBody toml save.next = .ok save.body :=
    safe.saves role save (by rw [there]; rfl)
  refine ⟨?_, sound, ?_, ?_, ?_, ?_, ?_⟩
  · intro key content committed
    rw [sameLoad]
    exact safe.kept key content committed
  · intro other held has
    rw [enter_stages] at has
    split at has
    · obtain rfl : save = held := Option.some.inj has
      exact ownSave
    · exact safe.saves other held has
  · intro first second firstMid secondMid
    exact (only first _ firstMid rfl).1.trans (only second _ secondMid rfl).1.symm
  · intro other held fd found
    obtain ⟨_, same⟩ := only other _ rfl found
    obtain ⟨rfl, rfl⟩ := Stage.opened.inj same
    exact ⟨named, empty⟩
  · intro other held fd found
    obtain ⟨_, same⟩ := only other _ rfl found
    cases same
  · intro other held mid has key content committed unchanged
    obtain ⟨_, same⟩ := only other _ mid rfl
    rw [same] at has
    obtain rfl : save = held := Option.some.inj has
    obtain ⟨config, loaded, current⟩ := safe.kept key content committed
    exact (unchanged.symm.trans (agrees save config there loaded key unchanged).symm).trans current

/-- Writing the text keeps the invariant. -/
theorem Safe.write {toml : Toml} {path : ConfigPath} {state : State} (safe : Safe toml path state)
    (role : Role) (save : Save) (fd : Nat) (there : state.stages role = .opened save fd) :
    Safe toml path { state.enter role (.written save fd) with
      files := state.files.write fd save.body.toByteArray } := by
  obtain ⟨named, empty⟩ := safe.opened role save fd there
  obtain ⟨sound, sameFile, stillNamed, content⟩ :=
    state.files.write_spec safe.files fd save.body.toByteArray named empty
  have sameLoad : load toml path (state.files.write fd save.body.toByteArray).disk =
      load toml path state.files.disk := load_congr toml path _ _ sameFile
  have mid : (state.stages role).midSave = true := by rw [there]; rfl
  have own : (state.stages role).save = some save := by rw [there]; rfl
  have only (other : Role) (later : Stage) (laterMid : later.midSave = true)
      (found : (state.enter role (.written save fd)).stages other = later) :
      other = role ∧ later = .written save fd := by
    rw [enter_stages] at found
    split at found
    · rename_i same
      exact ⟨same, found.symm⟩
    · rename_i differs
      exact absurd (safe.alone other role (found ▸ laterMid) mid) differs
  refine ⟨?_, sound, ?_, ?_, ?_, ?_, ?_⟩
  · intro key committed isCommitted
    rw [sameLoad]
    exact safe.kept key committed isCommitted
  · intro other held has
    rw [enter_stages] at has
    split at has
    · obtain rfl : save = held := Option.some.inj has
      exact safe.saves role save own
    · exact safe.saves other held has
  · intro first second firstMid secondMid
    exact (only first _ firstMid rfl).1.trans (only second _ secondMid rfl).1.symm
  · intro other held index found
    obtain ⟨_, same⟩ := only other _ rfl found
    cases same
  · intro other held index found
    obtain ⟨_, same⟩ := only other _ rfl found
    obtain ⟨rfl, rfl⟩ := Stage.written.inj same
    exact ⟨stillNamed, content⟩
  · intro other held laterMid has
    obtain ⟨_, same⟩ := only other _ laterMid rfl
    rw [same] at has
    obtain rfl : save = held := Option.some.inj has
    exact safe.level role save mid own

/-- The rename commits the save: what it changed is in the file as it wrote it,
and what it left alone is in the file as it was committed before. -/
theorem Safe.rename {toml : Toml} {path : ConfigPath} {state : State} (safe : Safe toml path state)
    (readsBack : toml.ReadsBack) (role : Role) (save : Save) (fd : Nat)
    (there : state.stages role = .written save fd) :
    ∃ files, state.files.rename = some files ∧
      Safe toml path { (state.enter role (.running save.next)).commit save with files } := by
  obtain ⟨named, content⟩ := safe.written role save fd there
  obtain ⟨files, renamed, sound, target⟩ :=
    state.files.rename_spec safe.files fd save.body.toByteArray named content
  have mid : (state.stages role).midSave = true := by rw [there]; rfl
  have own : (state.stages role).save = some save := by rw [there]; rfl
  obtain ⟨wellFormed, serialised⟩ := safe.saves role save own
  have loaded : load toml path files.disk = .ok save.next :=
    load_of_holds toml path files.disk save.next readsBack ⟨wellFormed, save.body, serialised, target⟩
  have nobody (other : Role) (later : Stage) (laterMid : later.midSave = true)
      (found : (state.enter role (.running save.next)).stages other = later) : False := by
    rw [enter_stages] at found
    split at found
    · rw [← found] at laterMid
      cases laterMid
    · rename_i differs
      exact differs (safe.alone other role (found ▸ laterMid) mid)
  refine ⟨files, renamed, ?_, sound, ?_, ?_, ?_, ?_, ?_⟩
  · intro key written committed
    refine ⟨save.next, loaded, ?_⟩
    by_cases unchanged : save.copy.entry key = save.next.entry key
    · have before : state.committed key = some written := by
        simpa only [State.commit, State.enter, if_pos unchanged] using committed
      exact safe.level role save mid own key written before unchanged
    · simpa only [State.commit, if_neg unchanged, Option.some.injEq] using committed
  · intro other held has
    have elsewhere : (state.stages other).save = some held := by
      change ((state.enter role (.running save.next)).stages other).save = some held at has
      rw [enter_stages] at has
      split at has
      · cases has
      · exact has
    exact safe.saves other held elsewhere
  · intro first second firstMid
    exact (nobody first _ firstMid rfl).elim
  · intro other held index found
    exact (nobody other _ rfl found).elim
  · intro other held index found
    exact (nobody other _ rfl found).elim
  · intro other held laterMid
    exact (nobody other _ laterMid rfl).elim

/-- The step lemma. -/
theorem Safe.step {toml : Toml} {path : ConfigPath} {flags : Flags} {state next : State}
    (safe : Safe toml path state) (readsBack : toml.ReadsBack) (action : Action)
    (level : StartsLevel toml path state action)
    (taken : TwoProcesses.step toml path flags state action = some next) : Safe toml path next := by
  have nothing (stage : Stage) (none : stage.save = none) (save : Save) (has : stage.save = some save) :
      save.next.WellFormed ∧ fileBody toml save.next = .ok save.body := by
    rw [none] at has
    cases has
  cases action with
  | load role =>
    simp only [TwoProcesses.step] at taken
    split at taken
    · rename_i loaded _ _
      split at taken
      · split at taken
        · cases taken
          exact safe.enter role .exited rfl (nothing .exited rfl)
        · rename_i save begun
          cases taken
          refine safe.enter role (.saving save) rfl ?_
          intro held has
          obtain rfl : save = held := Option.some.inj has
          exact begin_some toml true _ _ save begun
      · cases taken
        exact safe.enter role (.running loaded) rfl (nothing (.running loaded) rfl)
    · cases taken
      exact safe.enter role .exited rfl (nothing .exited rfl)
    · cases taken
  | edit role edit =>
    simp only [TwoProcesses.step] at taken
    split at taken
    · split at taken
      · cases taken
      · obtain ⟨save, begun, rfl⟩ := Option.map_eq_some_iff.mp taken
        refine safe.enter role (.saving save) rfl ?_
        intro held has
        obtain rfl : save = held := Option.some.inj has
        exact begin_some toml false _ _ save begun
    · cases taken
  | openTmp role =>
    simp only [TwoProcesses.step] at taken
    split at taken
    · rename_i save there
      cases taken
      exact safe.openTmp role save there level
    · cases taken
  | write role =>
    simp only [TwoProcesses.step] at taken
    split at taken
    · rename_i save fd there
      cases taken
      exact safe.write role save fd there
    · cases taken
  | rename role =>
    simp only [TwoProcesses.step] at taken
    split at taken
    · rename_i save fd there
      obtain ⟨files, renamed, after⟩ := safe.rename readsBack role save fd there
      rw [renamed] at taken
      cases taken
      exact after
    · cases taken

/-- In every run in which each save starts alone and level with the file, what one
process has committed stays in the file until an edit of the same entry. -/
theorem committed_entries_kept (toml : Toml) (readsBack : toml.ReadsBack) (path : ConfigPath)
    (flags : Flags) (file tmp : Option ByteArray) (actions : List Action) (last : State)
    (meets : Meets (step toml path flags) (StartsLevel toml path) (initial file tmp) actions)
    (reached : run (step toml path flags) (initial file tmp) actions = some last) :
    Kept toml path last :=
  (invariant_of_meets (step toml path flags) (StartsLevel toml path) (Safe toml path)
    (fun _ action _ safe level taken => safe.step readsBack action level taken)
    (initial file tmp) last actions (safe_initial toml path file tmp) meets reached).kept

/-- One binding of the connecting role, alone and next to an offer of the serving
role. -/
def webBinding : Binding :=
  { proto := .tcp, localPort := 8080, remotePort := 80, name := "web", enabled := true }

def webBound : Config := { Config.default with connect := { bindings := [webBinding] } }

def bothSections : Config := { sshOffered with connect := { bindings := [webBinding] } }

def webText : String :=
  "[serve]\nshared = []\npeers = []\n\n[[connect.bindings]]\nproto = \"tcp\"\nlocal = 8080\n" ++
    "remote = 80\nname = \"web\"\nenabled = true\n"

def bothText : String :=
  "[serve]\npeers = []\n\n[[serve.shared]]\nproto = \"tcp\"\nport = 22\nname = \"ssh\"\n" ++
    "enabled = true\n\n[[connect.bindings]]\nproto = \"tcp\"\nlocal = 8080\nremote = 80\n" ++
      "name = \"web\"\nenabled = true\n"

/-- A text layer that knows the configurations of the runs below and their
documents. -/
def sectionsToml : Toml where
  toStringPretty config :=
    if config = sshOffered then .ok sshText
    else if config = webBound then .ok webText
    else if config = bothSections then .ok bothText
    else .error (.message "unsupported value")
  fromStr document :=
    if document = fileHeader ++ sshText then .ok sshOffered
    else if document = fileHeader ++ webText then .ok webBound
    else if document = fileHeader ++ bothText then .ok bothSections
    else .error (.message "TOML parse error")

/-- Each of the three documents is read back as its configuration, since no two of
them are alike. -/
theorem sectionsToml_readsBack : sectionsToml.ReadsBack := by
  have webDiffers : fileHeader ++ webText ≠ fileHeader ++ sshText := by decide +kernel
  have bothDiffers : fileHeader ++ bothText ≠ fileHeader ++ sshText := by decide +kernel
  have bothFromWeb : fileHeader ++ bothText ≠ fileHeader ++ webText := by decide +kernel
  intro config text written
  simp only [sectionsToml] at written ⊢
  split at written
  · rename_i same
    cases written
    rw [if_pos rfl, same]
  · split at written
    · rename_i same
      cases written
      rw [if_neg webDiffers, if_pos rfl, same]
    · split at written
      · rename_i same
        cases written
        rw [if_neg bothDiffers, if_neg bothFromWeb, if_pos rfl, same]
      · cases written

/-- Edits that add one entry to what is there. -/
def offerSsh : Edit Unit := fun config =>
  .ok ((), { config with serve := { config.serve with
    shared := config.serve.shared ++ sshOffered.serve.shared } })

def bindWeb : Edit Unit := fun config =>
  .ok ((), { config with connect := { bindings := config.connect.bindings ++ [webBinding] } })

def noFlags : Flags := { allow := [], offered := ([], []), maps := ([], []) }

/-- A process saves an edit. -/
def saves (role : Role) (edit : Edit Unit) : List Action :=
  [.edit role edit, .openTmp role, .write role, .rename role]

/-- A file that was empty when the text of a sample configuration was written to
it is loaded as that configuration. -/
theorem sections_load (disk : Disk) (config : Config) (body : String)
    (valid : config.validate = .ok ()) (serialised : fileBody sectionsToml config = .ok body)
    (stored : disk.file = .bytes (body.toByteArray ++
      ByteArray.empty.extract body.toByteArray.size ByteArray.empty.size)) :
    load sectionsToml (configPath "/var/lib/rtun") disk = .ok config := by
  rw [Files.write_over_empty] at stored
  exact load_of_holds sectionsToml _ disk config sectionsToml_readsBack
    ⟨config.validate_ok_iff.mp valid, body, serialised, stored⟩

/-- A process that starts runs on what it loads, unless its flags add to it. -/
theorem step_load {toml : Toml} {path : ConfigPath} {flags : Flags} {state : State} {role : Role}
    {config : Config} (starting : state.stages role = .starting)
    (loaded : load toml path state.files.disk = .ok config)
    (nothing : (flags.seed config role).2 = false) :
    step toml path flags state (.load role) = some (state.enter role (.running config)) := by
  simp [step, starting, loaded, nothing]

/-- The connecting process loads what the serving process has saved, and saves in
turn. -/
def afterServe : State :=
  (run (step sectionsToml (configPath "/var/lib/rtun") noFlags) (initial none none)
    (.load .serve :: saves .serve offerSsh)).getD (initial none none)

/-- The second process loads after the first one has committed its offer, and the
offer is kept. -/
theorem fresh_copy_keeps_offer :
    ∃ last, run (step sectionsToml (configPath "/var/lib/rtun") noFlags) (initial none none)
        ((.load .serve :: saves .serve offerSsh) ++ (.load .connect :: saves .connect bindWeb)) =
          some last ∧ Kept sectionsToml (configPath "/var/lib/rtun") last := by
  have first : run (step sectionsToml (configPath "/var/lib/rtun") noFlags) (initial none none)
      (.load .serve :: saves .serve offerSsh) = some afterServe := rfl
  have loaded : load sectionsToml (configPath "/var/lib/rtun") afterServe.files.disk =
      .ok sshOffered := sections_load _ sshOffered (fileHeader ++ sshText) rfl rfl rfl
  have loads : step sectionsToml (configPath "/var/lib/rtun") noFlags afterServe (.load .connect) =
      some (afterServe.enter .connect (.running sshOffered)) := step_load rfl loaded rfl
  obtain ⟨last, second⟩ : ∃ last, run (step sectionsToml (configPath "/var/lib/rtun") noFlags)
      (afterServe.enter .connect (.running sshOffered)) (saves .connect bindWeb) = some last :=
    ⟨_, rfl⟩
  have reached := (run_append (step sectionsToml (configPath "/var/lib/rtun") noFlags)
    (initial none none) last _ (.load .connect :: saves .connect bindWeb)).mpr
      ⟨afterServe, first, (run_cons_some _ _ _ _ _).mpr ⟨_, loads, second⟩⟩
  have firstLevel : Meets (step sectionsToml (configPath "/var/lib/rtun") noFlags)
      (StartsLevel sectionsToml (configPath "/var/lib/rtun")) (initial none none)
      (.load .serve :: saves .serve offerSsh) := by
    apply meets_cons rfl trivial
    apply meets_cons rfl trivial
    refine meets_cons rfl ⟨fun other => by cases other <;> rfl, ?_⟩
      (meets_cons rfl trivial (meets_cons rfl trivial trivial))
    intro save config there found key _
    obtain rfl := Stage.saving.inj there
    obtain rfl : Config.default = config := Except.ok.inj found
    rfl
  have secondLevel : Meets (step sectionsToml (configPath "/var/lib/rtun") noFlags)
      (StartsLevel sectionsToml (configPath "/var/lib/rtun")) afterServe
      (.load .connect :: saves .connect bindWeb) := by
    apply meets_cons loads trivial
    apply meets_cons rfl trivial
    refine meets_cons rfl ⟨fun other => by cases other <;> rfl, ?_⟩
      (meets_cons rfl trivial (meets_cons rfl trivial trivial))
    intro save config there found key _
    obtain rfl := Stage.saving.inj there
    have same : load sectionsToml (configPath "/var/lib/rtun") afterServe.files.disk = .ok config :=
      found
    rw [loaded] at same
    obtain rfl : sshOffered = config := Except.ok.inj same
    rfl
  refine ⟨last, reached, ?_⟩
  exact committed_entries_kept sectionsToml sectionsToml_readsBack (configPath "/var/lib/rtun")
    noFlags none none _ last ((meets_append _ _ _ afterServe _ _ first).mpr ⟨firstLevel, secondLevel⟩)
    reached

/-- Both processes have loaded before either saves: the second save drops the
entry of the other section that the first one committed. -/
theorem stale_copy_drops_offer :
    ∃ last, run (step sectionsToml (configPath "/var/lib/rtun") noFlags) (initial none none)
        ([.load .serve, .load .connect] ++ saves .serve offerSsh ++ saves .connect bindWeb) =
          some last ∧ ¬ Kept sectionsToml (configPath "/var/lib/rtun") last := by
  refine ⟨_, rfl, ?_⟩
  intro kept
  obtain ⟨config, loaded, content⟩ := kept (.shared .tcp 22) (some (.offer "ssh" true)) rfl
  rw [sections_load _ webBound (fileHeader ++ webText) rfl rfl rfl] at loaded
  obtain rfl : webBound = config := Except.ok.inj loaded
  cases content

end Rtun.TwoProcesses
