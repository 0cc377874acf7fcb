import Rtun.Persistence
import Rtun.Runtime
import Rtun.Watch

/-!
# The live, shared configuration

One writer path and many readers: every edit goes through `Shared.mutate`, which
applies it to a copy, validates, persists, and only then publishes a new snapshot
on the watch channel. An edit that fails at any of these steps leaves the running
configuration as it was.

The law of the writer path is about the pair of the published snapshot and the
file: they agree whenever no edit is in progress, and a process that dies in the
middle of an edit leaves a file that loads as the old or as the new configuration.
-/

namespace Rtun

universe u
variable {τ : Type}

/-- An edit closure: it works on its own copy of the configuration, so a failed
edit leaves nothing behind. -/
abbrev Edit (τ : Type) : Type := Config → Fallible (τ × Config)

/-- What the admin surface and the data plane share: where the configuration
is kept, the role, the channel that publishes the snapshots, and the runtime
facts. -/
structure Shared where
  path : ConfigPath
  role : Role
  tx : Watch.Channel Config
  runtime : Runtime
  started : Instant

namespace Shared

def new (config : Config) (path : ConfigPath) (role : Role) (now : Instant) : Shared :=
  { path, role, tx := Watch.Channel.new config, runtime := Runtime.empty, started := now }

/-- The current snapshot. -/
def config (shared : Shared) : Config := shared.tx.value

/-- What a call to `mutate` leaves: its result, the shared state and the disk with
the states it has passed through during the call. -/
structure Mutated (τ : Type) where
  result : Fallible τ
  shared : Shared
  fs : Fs

/-- Apply the edit to a copy, validate it, write it to disk, and only then publish
it. -/
def mutate (shared : Shared) (toml : Toml) (edit : Edit τ) (outcomes : Outcomes) (disk : Disk) :
    Mutated τ :=
  match edit shared.config with
  | .error failure => { result := .error failure, shared, fs := .start disk }
  | .ok (out, next) =>
    match next.validate with
    | .error failure => { result := .error failure, shared, fs := .start disk }
    | .ok () =>
      match save toml shared.path next outcomes (.start disk) with
      | (.error failure, fs) =>
          { result := .error (failure.within ("persisting " ++ shared.path.display)), shared, fs }
      | (.ok (), fs) =>
          { result := .ok out, shared := { shared with tx := shared.tx.sendReplace next }, fs }

/-- The running configuration is what a restart would load. -/
def Agrees (shared : Shared) (toml : Toml) (disk : Disk) : Prop :=
  load toml shared.path disk = .ok shared.config

/-- An edit with the outcomes that the system calls of its save will have. -/
structure Attempt (τ : Type) where
  edit : Edit τ
  outcomes : Outcomes

/-- A run of edits one after the other, successes and failures mixed. -/
def mutateAll (toml : Toml) : Shared → Disk → List (Attempt τ) → Shared × Disk
  | shared, disk, [] => (shared, disk)
  | shared, disk, attempt :: rest =>
      let done := shared.mutate toml attempt.edit attempt.outcomes disk
      mutateAll toml done.shared done.fs.disk rest

/-- What one call may do to the snapshot, to the file, and to the file of a
process that dies during the call. -/
structure AllOrNothing (toml : Toml) (shared : Shared) (edit : Edit τ) (done : Mutated τ) : Prop where
  rejected : ∀ failure, done.result = .error failure →
    done.shared = shared ∧ load toml shared.path done.fs.disk = .ok shared.config
  committed : ∀ out, done.result = .ok out →
    ∃ next, edit shared.config = .ok (out, next) ∧ next.validate = .ok () ∧
      done.shared = { shared with tx := shared.tx.sendReplace next } ∧
      load toml shared.path done.fs.disk = .ok next
  died : ∀ disk ∈ done.fs.states,
    load toml shared.path disk = .ok shared.config ∨
      ∃ out next, edit shared.config = .ok (out, next) ∧ load toml shared.path disk = .ok next

/-- A call that fails before anything is written. -/
theorem AllOrNothing.of_untouched (toml : Toml) (shared : Shared) (edit : Edit τ) (disk : Disk)
    (failure : Failure) (agrees : shared.Agrees toml disk) :
    AllOrNothing toml shared edit { result := .error failure, shared, fs := .start disk } := by
  refine ⟨fun _ _ => ⟨rfl, agrees⟩, ?_, ?_⟩
  · intro out impossible
    cases impossible
  · intro passed member
    obtain rfl : passed = disk := List.mem_singleton.mp member
    exact Or.inl agrees

/-- Every call is all or nothing. The effect of the save carries the argument: as
long as the target is untouched it still loads as the old snapshot, and once it is
replaced it loads as the new one. -/
theorem mutate_allOrNothing (toml : Toml) (readsBack : toml.ReadsBack) (shared : Shared)
    (edit : Edit τ) (outcomes : Outcomes) (disk : Disk) (agrees : shared.Agrees toml disk) :
    AllOrNothing toml shared edit (shared.mutate toml edit outcomes disk) := by
  unfold mutate
  split
  · exact AllOrNothing.of_untouched toml shared edit disk _ agrees
  · rename_i out next edited
    split
    · exact AllOrNothing.of_untouched toml shared edit disk _ agrees
    · rename_i valid
      have effect : SaveEffect toml next (.start disk)
          (save toml shared.path next outcomes (.start disk)) :=
        save_effect toml shared.path next outcomes (.start disk)
      have untouched (later : Disk) (same : later.file = disk.file) :
          load toml shared.path later = .ok shared.config :=
        (load_congr toml shared.path later disk same).trans agrees
      have passed : ∀ state ∈ (save toml shared.path next outcomes (.start disk)).2.states,
          load toml shared.path state = .ok shared.config ∨
            ∃ out next, edit shared.config = .ok (out, next) ∧
              load toml shared.path state = .ok next := by
        intro state member
        rcases effect.passed state member with initially | same | holds
        · obtain rfl : state = disk := List.mem_singleton.mp initially
          exact Or.inl agrees
        · exact Or.inl (untouched state same)
        · exact Or.inr ⟨out, next, edited, load_of_holds toml shared.path state next readsBack holds⟩
      split
      · rename_i failure fs saved
        rw [saved] at effect passed
        refine ⟨fun _ _ => ⟨rfl, untouched fs.disk (effect.failed failure rfl)⟩, ?_, passed⟩
        intro out impossible
        cases impossible
      · rename_i fs saved
        rw [saved] at effect passed
        refine ⟨?_, ?_, passed⟩
        · intro failure impossible
          cases impossible
        · intro returned same
          obtain rfl : out = returned := Except.ok.inj same
          exact ⟨next, edited, valid, rfl,
            load_of_holds toml shared.path fs.disk next readsBack (effect.saved rfl)⟩

/-- The step lemma of a run of edits: a call keeps the snapshot and the file in
agreement. -/
theorem mutate_agrees (toml : Toml) (readsBack : toml.ReadsBack) (shared : Shared)
    (edit : Edit τ) (outcomes : Outcomes) (disk : Disk) (agrees : shared.Agrees toml disk) :
    (shared.mutate toml edit outcomes disk).shared.Agrees toml
      (shared.mutate toml edit outcomes disk).fs.disk := by
  have done : AllOrNothing toml shared edit (shared.mutate toml edit outcomes disk) :=
    mutate_allOrNothing toml readsBack shared edit outcomes disk agrees
  cases returned : (shared.mutate toml edit outcomes disk).result with
  | error failure =>
    obtain ⟨same, loaded⟩ := done.rejected failure returned
    rw [Agrees, same]
    exact loaded
  | ok out =>
    obtain ⟨next, _, _, same, loaded⟩ := done.committed out returned
    rw [Agrees, same]
    exact loaded

/-- Whatever succeeds and fails along the way, the running configuration and the
file agree after every run of edits. -/
theorem mutateAll_agrees (toml : Toml) (readsBack : toml.ReadsBack) (shared : Shared) (disk : Disk)
    (attempts : List (Attempt τ)) (agrees : shared.Agrees toml disk) :
    (mutateAll toml shared disk attempts).1.Agrees toml (mutateAll toml shared disk attempts).2 := by
  induction attempts generalizing shared disk with
  | nil => exact agrees
  | cons attempt rest inductionHypothesis =>
    exact inductionHypothesis _ _
      (mutate_agrees toml readsBack shared attempt.edit attempt.outcomes disk agrees)

/-- Edits are all or nothing, in memory and on disk. From a running configuration
that a restart would load, after any run of edits the two still agree, and there
each further call either fails and changes neither, or succeeds and makes both the
validated result of its closure; a process that dies at any point of it leaves a
file that loads as the old or as the new configuration. -/
theorem edits_all_or_nothing (toml : Toml) (readsBack : toml.ReadsBack) (shared : Shared)
    (disk : Disk) (agrees : shared.Agrees toml disk) (attempts : List (Attempt τ)) :
    (mutateAll toml shared disk attempts).1.Agrees toml (mutateAll toml shared disk attempts).2 ∧
      ∀ (edit : Edit τ) (outcomes : Outcomes),
        AllOrNothing toml (mutateAll toml shared disk attempts).1 edit
          ((mutateAll toml shared disk attempts).1.mutate toml edit outcomes
            (mutateAll toml shared disk attempts).2) := by
  have reached := mutateAll_agrees toml readsBack shared disk attempts agrees
  exact ⟨reached, fun edit outcomes =>
    mutate_allOrNothing toml readsBack _ edit outcomes _ reached⟩

/-- A first edit on a machine without a file: the offer is published, and the file
it leaves loads as the new configuration. -/
theorem first_offer_all_or_nothing :
    let shared := Shared.new Config.default (configPath "/var/lib/rtun") .serve 0
    let attempt : Attempt Unit := ⟨fun _ => .ok ((), sshOffered), .success⟩
    let after := mutateAll sshToml shared { file := .missing, tmp := none } [attempt]
    after.1.config = sshOffered ∧ after.1.Agrees sshToml after.2 := by
  refine ⟨rfl, ?_⟩
  have agrees : (Shared.new Config.default (configPath "/var/lib/rtun") .serve 0).Agrees sshToml
      { file := .missing, tmp := none } := rfl
  exact (edits_all_or_nothing sshToml sshToml_readsBack _ _ agrees
    [(⟨fun _ => .ok ((), sshOffered), .success⟩ : Attempt Unit)]).1

end Shared

end Rtun
