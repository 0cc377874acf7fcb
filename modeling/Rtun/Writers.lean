import Rtun.Run
import Rtun.Slots

/-!
# A file that several processes write in parts

Processes are started at any time on one file. A call of one of them moves it to another
stage and may leave another content of the file. Whether a content is there is part of it: a
file can be missing. Two rules serve the developments on top. What the stages say about the
file stays true if every call keeps it true, as long as at most one process writes. And a
content that nobody is about to touch stays.

The stages and the calls at the end are those of a process that looks for a value in the file
and, where it finds none, makes one and writes it there in as many parts as it takes.
-/

namespace Rtun.Writers

open Run

universe u v w
variable {α : Type u} {σ : Type v} {ε : Type w}

/-- The file, and the processes in the order in which they were started. -/
structure State (α : Type u) (σ : Type v) where
  file : Option (List α)
  processes : List σ

inductive Action (ε : Type w) where
  | start
  | call (index : Nat) (event : ε)

/-- A process is started, or makes its next call. -/
def step (fresh : σ) (call : Option (List α) → σ → ε → Option (Option (List α) × σ))
    (state : State α σ) : Action ε → Option (State α σ)
  | .start => some { state with processes := state.processes ++ [fresh] }
  | .call index event =>
      match state.processes[index]? with
      | none => none
      | some stage =>
          (call state.file stage event).map (fun left =>
            { file := left.1, processes := state.processes.set index left.2 })

/-- The file as the first process finds it. -/
def initial (file : Option (List α)) : State α σ := { file, processes := [] }

/-- Write at an offset. What lies between the end of the file and the offset is
filled. -/
def overwrite (filler : α) (content : List α) (offset : Nat) (chunk : List α) : List α :=
  content.take offset ++ List.replicate (offset - content.length) filler ++ chunk ++
    content.drop (offset + chunk.length)

/-- The next chunk goes to the end of what was written before it. -/
theorem overwrite_next (filler : α) (whole : List α) (done count : Nat)
    (inside : done + count ≤ whole.length) :
    overwrite filler (whole.take done) done ((whole.drop done).take count) =
      whole.take (done + count) := by
  have length : (whole.take done).length = done := by
    rw [List.length_take]
    omega
  have before : (whole.take done).take done = whole.take done :=
    List.take_of_length_le (Nat.le_of_eq length)
  have after (more : Nat) : (whole.take done).drop (done + more) = [] :=
    List.drop_of_length_le (by omega)
  rw [overwrite, before, after, length, Nat.sub_self, List.replicate_zero, List.append_nil,
    List.append_nil, List.take_add]

/-- What a call leaves: the stage of its process and the file. -/
theorem step_call_some_iff (fresh : σ)
    (call : Option (List α) → σ → ε → Option (Option (List α) × σ)) (state next : State α σ)
    (index : Nat) (event : ε) :
    step fresh call state (.call index event) = some next ↔
      ∃ stage file after, state.processes[index]? = some stage ∧
        call state.file stage event = some (file, after) ∧
        next = { file, processes := state.processes.set index after } := by
  cases present : state.processes[index]? with
  | none => simp [step, present]
  | some stage =>
    simp only [step, present, Option.map_eq_some_iff, Prod.exists, Option.some.injEq]
    constructor
    · rintro ⟨file, after, called, rfl⟩
      exact ⟨stage, file, after, rfl, called, rfl⟩
    · rintro ⟨_, file, after, rfl, called, rfl⟩
      exact ⟨file, after, called, rfl⟩

/-- Every process agrees with the file, and at most one writes it. -/
structure Sound (Agrees : Option (List α) → σ → Prop) (writes : σ → Bool) (state : State α σ) :
    Prop where
  agrees : ∀ (index : Nat) (stage : σ), state.processes[index]? = some stage →
    Agrees state.file stage
  alone : ∀ (index other : Nat) (stage second : σ), state.processes[index]? = some stage →
    state.processes[other]? = some second → writes stage = true → writes second = true →
    index = other

section Agreement

variable {Agrees : Option (List α) → σ → Prop} {writes : σ → Bool}

/-- In the beginning no process runs, and the file is as it was found. -/
theorem sound_initial (file : Option (List α)) : Sound Agrees writes (initial file) := by
  constructor
  · intro index stage present
    cases present
  · intro index other stage second present
    cases present

/-- A process that has just been started does not write. -/
theorem Sound.started {state : State α σ} (sound : Sound Agrees writes state) {fresh : σ}
    (agrees : Agrees state.file fresh) (quiet : writes fresh = false) :
    Sound Agrees writes { state with processes := state.processes ++ [fresh] } := by
  constructor
  · intro index stage there
    rcases (Slots.get_push_iff _ _ _ _).mp there with before | ⟨_, rfl⟩
    · exact sound.agrees index stage before
    · exact agrees
  · have old (index : Nat) (stage : σ) (there : (state.processes ++ [fresh])[index]? = some stage)
        (writing : writes stage = true) : state.processes[index]? = some stage := by
      rcases (Slots.get_push_iff _ _ _ _).mp there with before | ⟨_, rfl⟩
      · exact before
      · rw [quiet] at writing
        cases writing
    intro index other stage second there₁ there₂ writes₁ writes₂
    exact sound.alone index other stage second (old index stage there₁ writes₁)
      (old other second there₂ writes₂) writes₁ writes₂

/-- A process moves to a stage that agrees with the file as it is now, and so do
all others. If it writes from now on, it did before or nobody did. -/
theorem Sound.moved {state : State α σ} (sound : Sound Agrees writes state) {index : Nat}
    {stage next : σ} {file : Option (List α)} (present : state.processes[index]? = some stage)
    (agrees : Agrees file next) (begins : writes next = true → writes stage = true ∨
      ∀ (other : Nat) (second : σ), state.processes[other]? = some second → writes second = false)
    (others : ∀ (other : Nat) (second : σ), other ≠ index →
      state.processes[other]? = some second → Agrees file second) :
    Sound Agrees writes { file, processes := state.processes.set index next } := by
  constructor
  · intro other second there
    rcases (Slots.get_set_iff _ _ _ _ _ _ present).mp there with ⟨rfl, rfl⟩ | ⟨different, before⟩
    · exact agrees
    · exact others other second different before
  · have alone (other : Nat) (second : σ) (before : state.processes[other]? = some second)
        (nextWrites : writes next = true) (secondWrites : writes second = true) :
        other = index := by
      rcases begins nextWrites with same | none
      · exact sound.alone other index second stage before present secondWrites same
      · rw [none other second before] at secondWrites
        cases secondWrites
    intro first second stage₁ stage₂ there₁ there₂ writes₁ writes₂
    rcases (Slots.get_set_iff _ _ _ _ _ _ present).mp there₁ with ⟨rfl, rfl⟩ | ⟨_, before₁⟩ <;>
      rcases (Slots.get_set_iff _ _ _ _ _ _ present).mp there₂ with ⟨rfl, rfl⟩ | ⟨_, before₂⟩
    · rfl
    · exact (alone second stage₂ before₂ writes₁ writes₂).symm
    · exact alone first stage₁ before₁ writes₂ writes₁
    · exact sound.alone first second stage₁ stage₂ before₁ before₂ writes₁ writes₂

/-- While one process writes, no other does. -/
theorem Sound.others_quiet {state : State α σ} (sound : Sound Agrees writes state) {index : Nat}
    {stage : σ} (present : state.processes[index]? = some stage) (writing : writes stage = true)
    (other : Nat) (second : σ) (different : other ≠ index)
    (there : state.processes[other]? = some second) : writes second = false := by
  cases quiet : writes second with
  | false => rfl
  | true => exact absurd (sound.alone other index second stage there present quiet writing) different

end Agreement

/-- Where a process is that looks for a value: about to open the file, with the
file open, about to create its directory, about to make a value and create the
file, writing the value, of which this much is written, returned, or killed. -/
inductive Stage (φ : Type v) (κ : Type w) where
  | looking
  | opened
  | missing
  | making
  | writing (value : κ) (done : Nat)
  | returned (outcome : Except φ κ)
  | killed

/-- The next system call of such a process, with its outcome, or its end. What a
new value is made from comes with the call that creates the file. -/
inductive Event (ε : Type w) where
  | find
  | readFails (reason : String)
  | read
  | createDirAll
  | createDirAllFails (reason : String)
  | create (source : ε)
  | createFails (reason : String)
  | write (count : Nat)
  | writeFails (reason : String)
  | kill

namespace Stage

variable {φ : Type v} {κ : Type w}

/-- The process is writing the file. -/
def writes : Stage φ κ → Bool
  | .writing _ _ => true
  | _ => false

/-- A stage that neither writes nor has succeeded says nothing about the file. -/
def neutral : Stage φ κ → Bool
  | .writing _ _ | .returned (.ok _) => false
  | _ => true

/-- What a stage says, given what is said of a process that writes this much of a
value, and of one that has returned a value. -/
def Holds (writing : κ → Nat → Prop) (returned : κ → Prop) : Stage φ κ → Prop
  | .writing value done => writing value done
  | .returned (.ok value) => returned value
  | _ => True

/-- A stage in which a process neither writes nor has returned promises
nothing. -/
theorem holds_of_neutral {writing : κ → Nat → Prop} {returned : κ → Prop} {stage : Stage φ κ}
    (neutral : stage.neutral = true) : stage.Holds writing returned := by
  unfold Holds
  split
  · cases neutral
  · cases neutral
  · trivial

/-- And it is none in which it writes. -/
theorem writes_of_neutral {stage : Stage φ κ} (neutral : stage.neutral = true) :
    stage.writes = false := by
  cases stage <;> first | rfl | cases neutral

/-- What does not write says the same of any file, if what is said of a value that
was returned has nothing to do with the file. -/
theorem holds_of_quiet {writing other : κ → Nat → Prop} {returned : κ → Prop} {stage : Stage φ κ}
    (holds : stage.Holds writing returned) (quiet : stage.writes = false) :
    stage.Holds other returned := by
  cases stage with
  | writing value done => cases quiet
  | returned outcome =>
    cases outcome with
    | ok value => exact holds
    | error failure => trivial
  | _ => trivial

end Stage

/-- The file has this content, and no process is about to change it. -/
structure Settled (content : List α) (Calm : Nat → σ → Prop) (state : State α σ) : Prop where
  file : state.file = some content
  calm : ∀ (index : Nat) (stage : σ), state.processes[index]? = some stage → Calm index stage

/-- A settled content stays, through every run of calls that leave it and leave
their processes calm. -/
theorem Settled.run {content : List α} (Calm : Nat → σ → Prop) (allowed : ε → Prop) {fresh : σ}
    {call : Option (List α) → σ → ε → Option (Option (List α) × σ)}
    (starts : ∀ index, Calm index fresh)
    (stays : ∀ index stage event file next, Calm index stage → allowed event →
      call (some content) stage event = some (file, next) → file = some content ∧ Calm index next)
    {state last : State α σ} (settled : Settled content Calm state) {actions : List (Action ε)}
    (permitted : ∀ index event, .call index event ∈ actions → allowed event)
    (reached : run (step fresh call) state actions = some last) : Settled content Calm last := by
  have condition := meets_of_mem (step fresh call)
    (fun _ action => ∀ index event, action = .call index event → allowed event) state actions
    (fun action member _ index event same => permitted index event (same ▸ member))
  refine invariant_of_meets (step fresh call) _ (Settled content Calm) ?_ state last actions settled
    condition reached
  intro state action next settled fine taken
  cases action with
  | start =>
    cases taken
    refine ⟨settled.file, fun index stage there => ?_⟩
    rcases (Slots.get_push_iff _ _ _ _).mp there with before | ⟨_, rfl⟩
    · exact settled.calm index stage before
    · exact starts index
  | call index event =>
    obtain ⟨stage, file, after, present, called, rfl⟩ :=
      (step_call_some_iff _ _ _ _ _ _).mp taken
    obtain ⟨same, calm⟩ := stays index stage event file after (settled.calm index stage present)
      (fine index event rfl) (settled.file ▸ called)
    refine ⟨same, fun other second there => ?_⟩
    rcases (Slots.get_set_iff _ _ _ _ _ _ present).mp there with ⟨rfl, rfl⟩ | ⟨_, before⟩
    · exact calm
    · exact settled.calm other second before

end Rtun.Writers
