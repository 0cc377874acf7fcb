import Rtun.Failure
import Rtun.Framing
import Rtun.Writers

/-!
# The identity of a machine

The identity is a secret key, generated once and kept in a file: regenerating it would
invalidate the allowlist of every peer. Any number of commands can be started on one state
directory, at any time, and each of them can fail or be killed between any two system
calls. Each first looks for the file, and reads it if it is there; a command that does not
find it generates a key and creates the file, which on Unix fails if the file exists by
then. Nobody but the user removes the file, and here nobody does.
-/

namespace Rtun.Identity

open Framing Run Writers

/-- `SecretKey::from_bytes` and `to_bytes`: a key is its 32 bytes. -/
structure SecretKey where
  bytes : Bytes
  size : bytes.length = 32
deriving DecidableEq

def SecretKey.fromBytes (bytes : Bytes) : Option SecretKey :=
  if size : bytes.length = 32 then some { bytes, size } else none

/-- How messages name the state directory and the file in it. -/
structure Paths where
  dir : String
  path : String

def pathsIn (stateDir : String) : Paths := { dir := stateDir, path := stateDir ++ "/secret.key" }

/-- The variants of `write_key`. -/
inductive Platform where
  | unix
  | other
deriving DecidableEq

/-- Where `load_or_create_key` is. The value is a key, and making one is
generating it. -/
abbrev Stage : Type := Writers.Stage Failure SecretKey

/-- The next system call of a command, with its outcome, or its end. -/
abbrev Event : Type := Writers.Event SecretKey

/-- The file, with the commands that were started. -/
abbrev State : Type := Writers.State UInt8 Stage

abbrev Action : Type := Writers.Action Event

def failed (failure : Failure) : Stage := .returned (.error failure)

/-- What the whole file is taken for. -/
def loaded (paths : Paths) (content : Bytes) : Fallible SecretKey :=
  match SecretKey.fromBytes content with
  | none => .error (.message (paths.path ++ ": not a 32-byte key; delete it to regenerate"))
  | some key => .ok key

/-- One system call of one command: the file and the stage that it leaves. -/
def call (platform : Platform) (paths : Paths) (file : Option Bytes) (stage : Stage) (event : Event) :
    Option (Option Bytes × Stage) :=
  match event, stage with
  | .find, .looking => some (file, if file.isSome then .opened else .missing)
  | .readFails reason, .looking | .readFails reason, .opened =>
      some (file, failed (.within ("reading " ++ paths.path) (.message reason)))
  | .read, .opened => file.map (fun content => (file, .returned (loaded paths content)))
  | .createDirAll, .missing => some (file, .making)
  | .createDirAllFails reason, .missing =>
      some (file, failed (.within ("creating " ++ paths.dir) (.message reason)))
  | .create key, .making =>
      if platform = .unix ∧ file.isSome = true then
        some (file, failed (.within ("creating " ++ paths.path) (.message "File exists (os error 17)")))
      else some (some [], .writing key 0)
  | .createFails reason, .making =>
      some (file, failed (.within ("creating " ++ paths.path) (.message reason)))
  | .write count, .writing key done =>
      if 0 < count ∧ done + count ≤ 32 then
        some (file.map (fun content => overwrite 0 content done ((key.bytes.drop done).take count)),
          if done + count = 32 then .returned (.ok key) else .writing key (done + count))
      else none
  | .writeFails reason, .writing _ _ =>
      -- On Unix the error of `write_all` has no context.
      some (file, failed (if platform = .unix then .message reason
        else .within ("creating " ++ paths.path) (.message reason)))
  | .kill, .returned _ | .kill, .killed => none
  | .kill, _ => some (file, .killed)
  | _, _ => none

/-- A command is started, or makes its next system call. -/
def step (platform : Platform) (paths : Paths) : State → Action → Option State :=
  Writers.step .looking (call platform paths)

/-- Exactly the 32 bytes of a key are taken for it. -/
theorem SecretKey.fromBytes_some_iff (bytes : Bytes) (key : SecretKey) :
    SecretKey.fromBytes bytes = some key ↔ key.bytes = bytes := by
  unfold SecretKey.fromBytes
  split
  · rw [Option.some.injEq]
    constructor
    · rintro rfl
      rfl
    · rintro rfl
      rfl
  · rename_i size
    simp only [reduceCtorEq, false_iff]
    rintro rfl
    exact size key.size

/-- Only the bytes of a key are taken for it. -/
theorem loaded_ok_iff (paths : Paths) (content : Bytes) (key : SecretKey) :
    loaded paths content = .ok key ↔ key.bytes = content := by
  rw [← SecretKey.fromBytes_some_iff]
  unfold loaded
  cases SecretKey.fromBytes content <;> simp

/-- What the stage of a command says about the file. -/
def Agrees (file : Option Bytes) (stage : Stage) : Prop :=
  stage.Holds (fun key done => done < 32 ∧ file = some (key.bytes.take done))
    (fun key => file = some key.bytes)

/-- Every command agrees with the file, and at most one writes it. -/
abbrev Sound (state : State) : Prop := Writers.Sound Agrees Writers.Stage.writes state

/-- What a system call does: it moves a command to a stage that says nothing about
the file, it reads the file, it creates the file, or it writes the next part of a
key. -/
inductive Calls (platform : Platform) (paths : Paths) (file : Option Bytes) (stage : Stage) :
    Event → Option Bytes → Stage → Prop where
  | moved (event : Event) (next : Stage) (neutral : next.neutral = true) :
      Calls platform paths file stage event file next
  | read (content : Bytes) (present : file = some content) :
      Calls platform paths file stage .read file (.returned (loaded paths content))
  | created (key : SecretKey) (free : platform = .unix → file.isSome = false) :
      Calls platform paths file stage (.create key) (some []) (.writing key 0)
  | wrote (count done : Nat) (key : SecretKey) (writing : stage = .writing key done)
      (positive : 0 < count) (inside : done + count ≤ 32) :
      Calls platform paths file stage (.write count)
        (file.map (fun content => overwrite 0 content done ((key.bytes.drop done).take count)))
        (if done + count = 32 then .returned (.ok key) else .writing key (done + count))

/-- Every call that a process makes is one of these, with what it found. -/
theorem call_calls {platform : Platform} {paths : Paths} {file after : Option Bytes}
    {stage next : Stage} {event : Event}
    (taken : call platform paths file stage event = some (after, next)) :
    Calls platform paths file stage event after next := by
  unfold call at taken
  split at taken
  · cases taken
    refine .moved _ _ ?_
    split <;> rfl
  · cases taken
    exact .moved _ _ rfl
  · cases taken
    exact .moved _ _ rfl
  · obtain ⟨content, present, same⟩ := Option.map_eq_some_iff.mp taken
    obtain ⟨rfl, rfl⟩ := Prod.mk.inj same
    exact .read content present
  · cases taken
    exact .moved _ _ rfl
  · cases taken
    exact .moved _ _ rfl
  · split at taken
    · cases taken
      exact .moved _ _ rfl
    · rename_i possible
      cases taken
      refine .created _ fun isUnix => ?_
      simpa [isUnix] using possible
  · cases taken
    exact .moved _ _ rfl
  · rename_i count key done
    simp only [Option.ite_none_right_eq_some, Option.some.injEq, Prod.mk.injEq] at taken
    obtain ⟨⟨positive, inside⟩, rfl, rfl⟩ := taken
    exact .wrote count done key rfl positive inside
  · cases taken
    exact .moved _ _ rfl
  · cases taken
  · cases taken
  · cases taken
    exact .moved _ _ rfl
  · cases taken

/-- Without a file nobody writes one or has one. -/
theorem neutral_of_agrees {stage : Stage} (agrees : Agrees none stage) :
    stage.neutral = true := by
  cases stage with
  | writing key done => cases agrees.2
  | returned outcome =>
    cases outcome with
    | ok key => cases agrees
    | error failure => rfl
  | _ => rfl

/-- While a command writes the file, every other one is neutral: none has read a
whole key. -/
theorem others_neutral {state : State} (sound : Sound state) {index : Nat} {key : SecretKey}
    {done : Nat} (present : state.processes[index]? = some (.writing key done)) (other : Nat)
    (stage : Stage) (different : other ≠ index) (there : state.processes[other]? = some stage) :
    stage.neutral = true := by
  have own : done < 32 ∧ state.file = some (key.bytes.take done) := sound.agrees index _ present
  have agrees := sound.agrees other stage there
  have quiet := sound.others_quiet present rfl other stage different there
  cases stage with
  | writing second more => cases quiet
  | returned outcome =>
    cases outcome with
    | error failure => rfl
    | ok second =>
      have whole : state.file = some second.bytes := agrees
      have partly : second.bytes = key.bytes.take done :=
        Option.some.inj (whole.symm.trans own.2)
      have short := congrArg List.length partly
      rw [second.size, List.length_take, key.size] at short
      omega
  | _ => rfl

/-- The step lemma, on Unix: nobody creates the file over another one. -/
theorem sound_step {paths : Paths} {state next : State} {action : Action} (sound : Sound state)
    (taken : step .unix paths state action = some next) : Sound next := by
  cases action with
  | start =>
    cases taken
    exact sound.started trivial rfl
  | call index event =>
    obtain ⟨stage, file, after, present, called, rfl⟩ :=
      (step_call_some_iff _ _ _ _ _ _).mp taken
    cases call_calls called with
    | moved _ _ neutral =>
      refine sound.moved present (Stage.holds_of_neutral neutral) ?_
        fun other second _ there => sound.agrees other second there
      intro writes
      rw [Stage.writes_of_neutral neutral] at writes
      cases writes
    | read content isContent =>
      refine sound.moved present ?_ (fun writes => by cases writes)
        fun other second _ there => sound.agrees other second there
      cases outcome : loaded paths content with
      | error failure => trivial
      | ok key => exact isContent.trans (congrArg some ((loaded_ok_iff _ _ _).mp outcome).symm)
    | created key free =>
      have absent : state.file = none :=
        Option.isNone_iff_eq_none.mp (Option.isSome_eq_false_iff.mp (free rfl))
      have neutral (other : Nat) (second : Stage) (there : state.processes[other]? = some second) :
          second.neutral = true :=
        neutral_of_agrees (absent ▸ sound.agrees other second there)
      exact sound.moved present ⟨by decide, rfl⟩
        (fun _ => Or.inr fun other second there => Stage.writes_of_neutral (neutral other second there))
        fun other second _ there => Stage.holds_of_neutral (neutral other second there)
    | wrote count done key writing positive inside =>
      subst writing
      obtain ⟨_, partly⟩ : done < 32 ∧ state.file = some (key.bytes.take done) :=
        sound.agrees index _ present
      have written : state.file.map (fun content =>
          overwrite 0 content done ((key.bytes.drop done).take count)) =
            some (key.bytes.take (done + count)) := by
        rw [partly, Option.map_some, overwrite_next 0 key.bytes done count (key.size ▸ inside)]
      rw [written]
      refine sound.moved present ?_ (fun _ => Or.inl rfl) fun other second different there =>
        Stage.holds_of_neutral (others_neutral sound present other second different there)
      split
      · rename_i complete
        rw [complete, List.take_of_length_le (Nat.le_of_eq key.size)]
        rfl
      · rename_i incomplete
        exact ⟨by omega, rfl⟩

/-- A file that is there is not created again, and nobody who does not write it
begins to. -/
theorem call_leaves {paths : Paths} {content : Bytes} {stage next : Stage} {event : Event}
    {file : Option Bytes} (quiet : stage.writes = false)
    (called : call .unix paths (some content) stage event = some (file, next)) :
    file = some content ∧ next.writes = false := by
  cases call_calls called with
  | moved _ _ neutral => exact ⟨rfl, Stage.writes_of_neutral neutral⟩
  | read => exact ⟨rfl, rfl⟩
  | created key free => cases free rfl
  | wrote count done key writing =>
    subst writing
    cases quiet

/-- The identity of a machine is one, on Unix: in every run of any number of
commands, whoever returns a key returns the one that is in the file; a whole key
in the file is kept, and is the only one that is returned from then on; and after
a first start that did not get to write the whole key no command succeeds, so that
none makes up another key. -/
theorem one_identity (paths : Paths) (file : Option Bytes) (earlier actions : List Action)
    (middle last : State) (before : run (step .unix paths) (initial file) earlier = some middle)
    (reached : run (step .unix paths) middle actions = some last) :
    (∀ (index : Nat) (key : SecretKey), last.processes[index]? = some (.returned (.ok key)) →
      last.file = some key.bytes) ∧
    (∀ key : SecretKey, middle.file = some key.bytes → last.file = some key.bytes ∧
      ∀ (index : Nat) (other : SecretKey), last.processes[index]? = some (.returned (.ok other)) →
        other = key) ∧
    ∀ content, middle.file = some content → content.length ≠ 32 →
      (∀ stage ∈ middle.processes, stage.writes = false) → last.file = some content ∧
        ∀ (index : Nat) (key : SecretKey),
          last.processes[index]? ≠ some (.returned (.ok key)) := by
  have sound (start : State) (actions : List Action) (state : State) (whole : Sound start)
      (ran : run (step .unix paths) start actions = some state) : Sound state :=
    invariant_of_run (step .unix paths) Sound (fun state action _ sound taken => sound_step sound taken)
      start state actions whole ran
  have soundMiddle : Sound middle := sound _ earlier middle (sound_initial file) before
  have soundLast : Sound last := sound middle actions last soundMiddle reached
  have kept (content : Bytes) (present : middle.file = some content)
      (quiet : ∀ (index : Nat) (stage : Stage), middle.processes[index]? = some stage →
        stage.writes = false) : last.file = some content :=
    (Settled.run (fun _ stage => stage.writes = false) (fun _ => True) (fun _ => rfl)
      (fun _ _ _ _ _ calm _ called => call_leaves calm called) ⟨present, quiet⟩
      (fun _ _ _ => trivial) reached).file
  have inFile (index : Nat) (key : SecretKey)
      (there : last.processes[index]? = some (.returned (.ok key))) : last.file = some key.bytes :=
    soundLast.agrees index _ there
  refine ⟨inFile, ?_, ?_⟩
  · intro key whole
    have quiet (index : Nat) (stage : Stage) (there : middle.processes[index]? = some stage) :
        stage.writes = false := by
      by_contra writes
      cases stage with
      | writing second done =>
        obtain ⟨short, partly⟩ : done < 32 ∧ middle.file = some (second.bytes.take done) :=
          soundMiddle.agrees index _ there
        have length := congrArg List.length (Option.some.inj (whole.symm.trans partly))
        rw [key.size, List.length_take, second.size] at length
        omega
      | _ => exact writes rfl
    have stays := kept _ whole quiet
    refine ⟨stays, fun index other there => ?_⟩
    have same := Option.some.inj ((inFile index other there).symm.trans stays)
    exact Option.some.inj (((SecretKey.fromBytes_some_iff _ other).mpr same).symm.trans
      ((SecretKey.fromBytes_some_iff _ key).mpr rfl))
  · intro content broken size quiet
    have stays := kept _ broken fun index stage there => quiet stage (List.mem_of_getElem? there)
    refine ⟨stays, fun index key there => size ?_⟩
    rw [← Option.some.inj ((inFile index key there).symm.trans stays), key.size]

/-- A key whose bytes are all the same. -/
def keyOf (byte : UInt8) : SecretKey := { bytes := List.replicate 32 byte, size := rfl }

/-- Both commands look before either creates the file. The second one loses, and a
third one reads too early. -/
def raced : List Action :=
  [.start, .start, .call 0 .find, .call 1 .find, .call 0 .createDirAll, .call 1 .createDirAll,
    .call 0 (.create (keyOf 7)), .call 1 (.create (keyOf 8)), .call 0 (.write 20), .start,
    .call 2 .find, .call 2 .read, .call 0 (.write 12)]

/-- The key in the file is that of the process that created it, once it has
written all of it, and it is the one that a fourth process reads. -/
theorem raced_identity :
    ∃ middle last, run (step .unix (pathsIn "/var/lib/rtun")) (initial none) raced = some middle ∧
      run (step .unix (pathsIn "/var/lib/rtun")) middle [.start, .call 3 .find, .call 3 .read] =
        some last ∧
      middle.file = some (keyOf 7).bytes ∧ last.file = some (keyOf 7).bytes ∧
      last.processes[3]? = some (.returned (.ok (keyOf 7))) := by
  refine ⟨_, _, rfl, rfl, rfl, ?_, rfl⟩
  exact ((one_identity (pathsIn "/var/lib/rtun") none raced [.start, .call 3 .find, .call 3 .read] _ _
    rfl rfl).2.1 (keyOf 7) rfl).1

/-- Elsewhere the file is created over another one: whatever two keys are
generated, two first starts can both succeed, each with its own, and the file
keeps the later one. -/
theorem overlapping_starts_disagree (paths : Paths) (first second : SecretKey) :
    ∃ last, run (step .other paths) (initial none)
        [.start, .start, .call 0 .find, .call 1 .find, .call 0 .createDirAll, .call 1 .createDirAll,
          .call 0 (.create first), .call 0 (.write 32), .call 1 (.create second),
          .call 1 (.write 32)] = some last ∧
      last.processes = [.returned (.ok first), .returned (.ok second)] ∧
      last.file = some second.bytes := by
  have whole (key : SecretKey) : overwrite 0 [] 0 (key.bytes.take 32) = key.bytes := by
    have next := overwrite_next 0 key.bytes 0 32 (Nat.le_of_eq (by rw [key.size]))
    rw [List.take_zero, List.drop_zero, Nat.zero_add] at next
    exact next.trans (List.take_of_length_le (Nat.le_of_eq key.size))
  refine ⟨_, rfl, rfl, ?_⟩
  exact congrArg some (whole second)

end Rtun.Identity
