import Mathlib.Data.List.Infix
import Mathlib.Data.PNat.Basic

/-!
# Byte streams and copying between them

A pipe carries values in one direction and in order, as a TCP or QUIC stream does. It is
kept as what was taken out of it and what was put in and not taken out yet, so that
nothing can be taken that was not put in. There is room in it for some values that were
not taken yet, and a writer that finds it full waits for the reader. Its writer gives it
up by finishing it, which the reader notices once it has taken everything, or by resetting
it, after which nothing more is taken.

A copier moves what it takes from one pipe to another: it takes some of what is there as
far as its buffer has room, holds it, puts some of what it holds into the target, and
finishes the target when the source has been taken to its end. `Copies` is the law of a
copier that is at work, and `Relayed` what is left of it when the copier is gone.
-/

namespace Rtun

universe u
variable {α : Type u}

/-- How the writer of a pipe gave it up. -/
inductive Ending where
  | finished
  | reset
deriving DecidableEq

/-- One direction of a stream. -/
structure Pipe (α : Type u) where
  capacity : ℕ+
  received : List α
  unread : List α
  ending : Option Ending
deriving DecidableEq

namespace Pipe

def empty (capacity : ℕ+) : Pipe α := { capacity, received := [], unread := [], ending := none }

/-- Everything that was ever put in. -/
def written (pipe : Pipe α) : List α := pipe.received ++ pipe.unread

/-- Put values in, as many as there is room for. A pipe that was given up accepts
none. -/
def put (pipe : Pipe α) (values : List α) : Option (Pipe α) :=
  if pipe.ending = none ∧ pipe.unread.length + values.length ≤ pipe.capacity then
    some { pipe with unread := pipe.unread ++ values }
  else none

/-- Take out some of what is there, in order. -/
def take (pipe : Pipe α) (count : Nat) : Option (List α × Pipe α) :=
  if count ≤ pipe.unread.length ∧ pipe.ending ≠ some .reset then
    some (pipe.unread.take count,
      { pipe with
        received := pipe.received ++ pipe.unread.take count, unread := pipe.unread.drop count })
  else none

/-- Give the pipe up. The first ending stays. -/
def giveUp (pipe : Pipe α) (ending : Ending) : Pipe α :=
  { pipe with ending := some (pipe.ending.getD ending) }

/-- The reader has taken everything and sees the end. -/
def atEnd (pipe : Pipe α) : Bool := pipe.ending = some .finished && pipe.unread.isEmpty

/-- What was taken is the beginning of what was put in, in every pipe: the reader
sees the values in their order, none of them twice and none left out. -/
theorem received_prefix (pipe : Pipe α) : pipe.received <+: pipe.written :=
  List.prefix_append _ _

/-- The reader sees the end of a pipe that was finished, and only when nothing is
left in it. -/
theorem atEnd_iff (pipe : Pipe α) :
    pipe.atEnd = true ↔ pipe.ending = some .finished ∧ pipe.unread = [] := by
  simp [atEnd]

/-- Giving a pipe up takes back nothing that was read. -/
@[simp] theorem giveUp_received (pipe : Pipe α) (ending : Ending) :
    (pipe.giveUp ending).received = pipe.received := rfl

/-- What is still to be read stays where it is; whether it can be read depends on
how the pipe was given up. -/
@[simp] theorem giveUp_unread (pipe : Pipe α) (ending : Ending) :
    (pipe.giveUp ending).unread = pipe.unread := rfl

/-- So giving a pipe up changes nothing of what was put in. -/
@[simp] theorem giveUp_written (pipe : Pipe α) (ending : Ending) :
    (pipe.giveUp ending).written = pipe.written := rfl

/-- Putting values in takes nothing out, and works only before the pipe is given
up and while there is room. -/
theorem put_some_iff (pipe next : Pipe α) (values : List α) :
    pipe.put values = some next ↔
      (pipe.ending = none ∧ pipe.unread.length + values.length ≤ pipe.capacity) ∧
        next = { pipe with unread := pipe.unread ++ values } := by
  simp only [put, Option.ite_none_right_eq_some, Option.some.injEq]
  exact and_congr_right fun _ => eq_comm

/-- A pipe that has been read has room for the first of the values, since its
capacity is positive. So a writer waits only while there is something to read. -/
theorem put_first {pipe : Pipe α} (unended : pipe.ending = none) (drained : pipe.unread = [])
    (values : List α) :
    pipe.put (values.take 1) = some { pipe with unread := pipe.unread ++ values.take 1 } := by
  refine (pipe.put_some_iff _ _).mpr ⟨⟨unended, ?_⟩, rfl⟩
  calc pipe.unread.length + (values.take 1).length
      ≤ 0 + 1 := Nat.add_le_add (by rw [drained]; rfl) (List.length_take_le 1 values)
    _ ≤ pipe.capacity := pipe.capacity.pos

/-- What a step of the reader takes is the first part of what was there. It may
take less than there is, and nothing at all once the pipe was reset. -/
theorem take_some_iff (pipe next : Pipe α) (count : Nat) (values : List α) :
    pipe.take count = some (values, next) ↔
      (count ≤ pipe.unread.length ∧ pipe.ending ≠ some .reset) ∧
        values = pipe.unread.take count ∧
        next = { pipe with received := pipe.received ++ values, unread := pipe.unread.drop count } := by
  unfold take
  split
  · rename_i possible
    simp only [Option.some.injEq, Prod.mk.injEq, possible, ne_eq, not_false_eq_true, and_self, true_and]
    constructor
    · rintro ⟨rfl, rfl⟩
      exact ⟨rfl, rfl⟩
    · rintro ⟨rfl, rfl⟩
      exact ⟨rfl, rfl⟩
  · rename_i impossible
    simp [impossible]

/-- What the reader sees of the writer's steps: nothing is taken, and an end that
was seen stays. -/
structure WrittenTo (before after : Pipe α) : Prop where
  received : after.received = before.received
  ended : before.atEnd = true → after.atEnd = true

/-- What the writer sees of the reader's steps: nothing is put in or given up, and
what was taken stays so. -/
structure TakenFrom (before after : Pipe α) : Prop where
  written : after.written = before.written
  ending : after.ending = before.ending
  received : before.received <+: after.received

/-- The reader sees nothing when its writer does nothing. It is the case of every
step of the system in which the writer has no part. -/
theorem WrittenTo.refl (pipe : Pipe α) : pipe.WrittenTo pipe := ⟨rfl, id⟩

/-- Nor does the writer when its reader does nothing, which is the case of the
steps in which the reader has no part. -/
theorem TakenFrom.refl (pipe : Pipe α) : pipe.TakenFrom pipe := ⟨rfl, rfl, List.prefix_refl _⟩

/-- What is taken in one go after the other is taken in one: the steps of a reader
add up, so whole runs can be treated as one of them. -/
theorem TakenFrom.trans {first second third : Pipe α} (before : first.TakenFrom second)
    (after : second.TakenFrom third) : first.TakenFrom third :=
  ⟨after.written.trans before.written, after.ending.trans before.ending,
    before.received.trans after.received⟩

/-- Putting values in is all that a reader can see of a put. An end that it has
seen rules one out. -/
theorem writtenTo_of_put {pipe next : Pipe α} {values : List α}
    (put : pipe.put values = some next) : pipe.WrittenTo next := by
  obtain ⟨⟨unended, _⟩, rfl⟩ := (pipe.put_some_iff next values).mp put
  refine ⟨rfl, fun ended => ?_⟩
  rw [atEnd_iff, unended] at ended
  cases ended.1

/-- Giving a pipe up is a step of the writer; since the first ending stays, an end
that was seen is not taken back. -/
theorem writtenTo_giveUp (pipe : Pipe α) (ending : Ending) : pipe.WrittenTo (pipe.giveUp ending) := by
  refine ⟨rfl, fun ended => ?_⟩
  rw [atEnd_iff] at ended ⊢
  exact ⟨by rw [giveUp, ended.1]; rfl, ended.2⟩

/-- Taking values out is a step of the reader: it moves them from one part of the
pipe to the other. -/
theorem takenFrom_of_take {pipe next : Pipe α} {count : Nat} {values : List α}
    (took : pipe.take count = some (values, next)) : pipe.TakenFrom next := by
  obtain ⟨_, rfl, rfl⟩ := (pipe.take_some_iff next count values).mp took
  refine ⟨?_, rfl, List.prefix_append _ _⟩
  simp only [written, List.append_assoc, List.take_append_drop]

end Pipe

/-- The state of a copier: the size of its buffer, what it has taken and not put
yet, and whether it has finished the target. -/
structure Copier (α : Type u) where
  buffer : ℕ+
  held : List α
  done : Bool
deriving DecidableEq

/-- What a copier does next. -/
inductive CopyStep where
  | fetch (count : Nat)
  | flush (count : Nat)
  | shut

/-- The step takes from the source; the others give to the target. -/
def CopyStep.fetches : CopyStep → Bool
  | .fetch _ => true
  | _ => false

namespace Copier

/-- A copier that has done nothing yet. -/
def fresh (buffer : ℕ+) : Copier α := { buffer, held := [], done := false }

/-- One step, with the copier, the source and the target that it leaves. -/
def step (copier : Copier α) (source target : Pipe α) : CopyStep →
    Option (Copier α × Pipe α × Pipe α)
  | .fetch count =>
      if copier.done || copier.buffer < copier.held.length + count then none
      else (source.take count).map (fun (values, source) =>
        ({ copier with held := copier.held ++ values }, source, target))
  | .flush count =>
      if copier.done then none
      else (target.put (copier.held.take count)).map (fun target =>
        ({ copier with held := copier.held.drop count }, source, target))
  | .shut =>
      if !copier.done && copier.held.isEmpty && source.atEnd then
        some ({ copier with done := true }, source, target.giveUp .finished)
      else none

/-- A copier takes from its source and gives to its target, and does nothing else
to them. -/
theorem step_sides {copier after : Copier α} {source target source' target' : Pipe α}
    {action : CopyStep} (taken : copier.step source target action = some (after, source', target')) :
    source.TakenFrom source' ∧ target.WrittenTo target' := by
  cases action with
  | fetch count =>
    simp only [step, Option.ite_none_left_eq_some, Option.map_eq_some_iff, Prod.exists,
      Prod.mk.injEq] at taken
    obtain ⟨_, values, next, took, rfl, rfl, rfl⟩ := taken
    exact ⟨Pipe.takenFrom_of_take took, .refl _⟩
  | flush count =>
    simp only [step, Option.ite_none_left_eq_some, Option.map_eq_some_iff, Prod.mk.injEq] at taken
    obtain ⟨_, next, put, rfl, rfl, rfl⟩ := taken
    exact ⟨.refl _, Pipe.writtenTo_of_put put⟩
  | shut =>
    simp only [step, Option.ite_none_right_eq_some, Option.some.injEq, Prod.mk.injEq] at taken
    obtain ⟨_, rfl, rfl, rfl⟩ := taken
    exact ⟨.refl _, target.writtenTo_giveUp .finished⟩

/-- A copier that holds nothing can take one of the values that are there. Its
buffer is not empty, so there is always room for one. -/
theorem fetch_of_running {copier : Copier α} {source target next : Pipe α} {values : List α}
    (running : copier.done = false) (nothing : copier.held = [])
    (took : source.take 1 = some (values, next)) :
    copier.step source target (.fetch 1) = some ({ copier with held := values }, next, target) := by
  have room : ¬ (copier.buffer : ℕ) < 1 := Nat.not_lt.mpr copier.buffer.pos
  simp [step, running, took, nothing, room]

/-- A copier that is at work puts into its target whatever the target accepts.
What does not fit stays in its buffer for a later step. -/
theorem flush_of_running {copier : Copier α} {source target next : Pipe α} (count : Nat)
    (running : copier.done = false) (put : target.put (copier.held.take count) = some next) :
    copier.step source target (.flush count) =
      some ({ copier with held := copier.held.drop count }, source, next) := by
  simp [step, running, put]

/-- A copier that has put everything and sees the end of its source finishes its
target. -/
theorem shut_of_atEnd {copier : Copier α} {source target : Pipe α} (running : copier.done = false)
    (nothing : copier.held = []) (ended : source.atEnd = true) :
    copier.step source target .shut =
      some ({ copier with done := true }, source, target.giveUp .finished) := by
  simp [step, running, nothing, ended]

/-- Finishing the target is still to be done. -/
def remaining (copier : Copier α) : Nat := if copier.done then 0 else 1

/-- A step that changes something takes values out of the source or puts values
into the target, or it finishes the target. -/
theorem step_counts {copier after : Copier α} {source target source' target' : Pipe α}
    {action : CopyStep} (taken : copier.step source target action = some (after, source', target'))
    (changed : (after, source', target') ≠ (copier, source, target)) :
    ∃ fetched flushed : Nat,
      source.unread.length = source'.unread.length + fetched ∧
      copier.held.length + fetched = after.held.length + flushed ∧
      target'.unread.length = target.unread.length + flushed ∧
      (0 < fetched + flushed ∧ after.remaining = copier.remaining ∨
        after.remaining < copier.remaining) := by
  cases action with
  | fetch count =>
    simp only [step, Option.ite_none_left_eq_some, Option.map_eq_some_iff, Prod.exists,
      Prod.mk.injEq] at taken
    obtain ⟨_, values, next, took, rfl, rfl, rfl⟩ := taken
    obtain ⟨⟨enough, _⟩, rfl, rfl⟩ := (Pipe.take_some_iff source next count values).mp took
    refine ⟨count, 0, ?_, ?_, rfl, Or.inl ⟨?_, rfl⟩⟩
    · rw [List.length_drop]
      omega
    · rw [List.length_append, List.length_take_of_le enough]
      rfl
    · refine Nat.pos_of_ne_zero fun none => changed ?_
      obtain rfl : count = 0 := none
      simp
  | flush count =>
    simp only [step, Option.ite_none_left_eq_some, Option.map_eq_some_iff, Prod.mk.injEq] at taken
    obtain ⟨_, next, put, rfl, rfl, rfl⟩ := taken
    obtain ⟨_, rfl⟩ := (Pipe.put_some_iff target next _).mp put
    refine ⟨0, min count copier.held.length, rfl, ?_, ?_, Or.inl ⟨?_, rfl⟩⟩
    · rw [List.length_drop]
      omega
    · rw [List.length_append, List.length_take]
    · refine Nat.pos_of_ne_zero fun none => changed ?_
      have nothing : copier.held.take count = [] := by
        rw [← List.length_eq_zero_iff, List.length_take, ← none, Nat.zero_add]
      have all : copier.held.drop count = copier.held := by
        conv_rhs => rw [← List.take_append_drop count copier.held, nothing, List.nil_append]
      rw [nothing, all, List.append_nil]
  | shut =>
    simp only [step, Option.ite_none_right_eq_some, Bool.and_eq_true, Bool.not_eq_true',
      Option.some.injEq, Prod.mk.injEq] at taken
    obtain ⟨⟨⟨running, _⟩, _⟩, rfl, rfl, rfl⟩ := taken
    exact ⟨0, 0, rfl, rfl, rfl, Or.inr (by simp [remaining, running])⟩

/-- The steps that a copier and those after it may have ahead of them, if a value
that was put into the target has this many. -/
def left (onward : Nat) (copier : Copier α) (source target : Pipe α) : Nat :=
  (onward + 2) * source.unread.length + (onward + 1) * copier.held.length +
    onward * target.unread.length + copier.remaining

/-- A step of a copier that changes anything is one of these: it lessens what is
left to be done. The measure weighs a value more the further it has to go. -/
theorem step_left (onward : Nat) {copier after : Copier α} {source target source' target' : Pipe α}
    {action : CopyStep} (taken : copier.step source target action = some (after, source', target')) :
    (after, source', target') = (copier, source, target) ∨
      after.left onward source' target' < copier.left onward source target := by
  refine or_iff_not_imp_left.mpr fun changed => ?_
  obtain ⟨fetched, flushed, fromSource, held, toTarget, progress⟩ := step_counts taken changed
  have moved := congrArg (onward * ·) held
  simp only [left, fromSource, toTarget, Nat.add_mul, Nat.mul_add] at moved ⊢
  omega

/-- Nothing that the copier can do changes anything. -/
def Idle (copier : Copier α) (source target : Pipe α) : Prop :=
  ∀ action next, copier.step source target action = some next → next = (copier, source, target)

/-- A copier that is done has no step left, whatever its source and target do: it
has read its source to the end and finished its target. -/
theorem idle_of_done {copier : Copier α} (done : copier.done = true) (source target : Pipe α) :
    copier.Idle source target := by
  intro action next taken
  cases action <;> simp [step, done] at taken

end Copier

/-- What arrived at the target is the beginning of the lead and of what was taken
from the source after the part that was skipped. -/
def Relayed (skipped : Nat) (lead : List α) (source target : Pipe α) : Prop :=
  target.written <+: lead ++ source.received.drop skipped

/-- The law of a copier at work: the target has the lead and all that was taken
after the skipped part, except for what is held, and it is finished exactly when
the copier is done, which it is only after the end of the source. -/
structure Copies (skipped : Nat) (lead : List α) (source target : Pipe α) (copier : Copier α) :
    Prop where
  begun : skipped ≤ source.received.length
  content : target.written ++ copier.held = lead ++ source.received.drop skipped
  running : copier.done = false → target.ending = none
  done : copier.done = true → source.atEnd = true ∧ copier.held = [] ∧ target.ending = some .finished

namespace Copies

variable {skipped : Nat} {lead : List α} {source target : Pipe α} {copier : Copier α}

/-- A copier starts with a target that has the lead and nothing else, and from a
source of which others have taken the first part. -/
theorem fresh {buffer : ℕ+} (begun : source.received.length = skipped) (led : target.written = lead)
    (unended : target.ending = none) : Copies skipped lead source target (Copier.fresh buffer) := by
  refine ⟨Nat.le_of_eq begun.symm, ?_, fun _ => unended, ?_⟩
  · rw [led, ← begun, List.drop_length]
    rfl
  · intro done
    cases done

/-- What is left when the copier is gone: the target has a beginning of what the
source has brought, even if the copier was cut off with values in its buffer. -/
theorem relayed (copies : Copies skipped lead source target copier) :
    Relayed skipped lead source target :=
  ⟨copier.held, copies.content⟩

/-- The step lemma: whatever a copier does, it keeps to its law. What it has
put into the target and what it holds are together what it has taken from the
source. -/
theorem step (copies : Copies skipped lead source target copier) {action : CopyStep}
    {after : Copier α} {source' target' : Pipe α}
    (taken : copier.step source target action = some (after, source', target')) :
    Copies skipped lead source' target' after := by
  cases action with
  | fetch count =>
    simp only [Copier.step, Option.ite_none_left_eq_some, Bool.or_eq_true, not_or,
      Option.map_eq_some_iff, Prod.exists, Prod.mk.injEq] at taken
    obtain ⟨⟨running, _⟩, values, next, took, rfl, rfl, rfl⟩ := taken
    obtain ⟨_, rfl, rfl⟩ := (Pipe.take_some_iff source next count values).mp took
    refine ⟨?_, ?_, copies.running, fun done => absurd done running⟩
    · rw [List.length_append]
      exact Nat.le_add_right_of_le copies.begun
    · rw [List.drop_append_of_le_length copies.begun, ← List.append_assoc, ← List.append_assoc,
        copies.content]
  | flush count =>
    simp only [Copier.step, Option.ite_none_left_eq_some, Option.map_eq_some_iff,
      Prod.mk.injEq] at taken
    obtain ⟨running, next, put, rfl, rfl, rfl⟩ := taken
    obtain ⟨⟨unended, _⟩, rfl⟩ := (Pipe.put_some_iff target next _).mp put
    refine ⟨copies.begun, ?_, fun _ => unended, fun done => absurd done running⟩
    have moved : target.written ++ copier.held.take count ++ copier.held.drop count =
        target.written ++ copier.held := by
      rw [List.append_assoc, List.take_append_drop]
    rw [← copies.content, ← moved]
    simp only [Pipe.written, List.append_assoc]
  | shut =>
    simp only [Copier.step, Option.ite_none_right_eq_some, Bool.and_eq_true, Bool.not_eq_true',
      List.isEmpty_iff, Option.some.injEq, Prod.mk.injEq] at taken
    obtain ⟨⟨⟨running, nothing⟩, ended⟩, rfl, rfl, rfl⟩ := taken
    have unended := copies.running running
    refine ⟨copies.begun, copies.content, (fun undone => by cases undone), fun _ => ?_⟩
    exact ⟨ended, nothing, by rw [Pipe.giveUp, unended]; rfl⟩

/-- The writer of the source does not disturb a copier, which has to do only with
what was taken. What is put in meanwhile is for its later steps. -/
theorem source_written (copies : Copies skipped lead source target copier) {source' : Pipe α}
    (written : source.WrittenTo source') : Copies skipped lead source' target copier :=
  ⟨written.received ▸ copies.begun, written.received ▸ copies.content, copies.running,
    fun done => (copies.done done).imp_left written.ended⟩

/-- Nor does the reader of the target, who takes away nothing of what was written;
it makes room in the target and no more. -/
theorem target_taken (copies : Copies skipped lead source target copier) {target' : Pipe α}
    (taken : target.TakenFrom target') : Copies skipped lead source target' copier :=
  ⟨copies.begun, taken.written ▸ copies.content, taken.ending ▸ copies.running,
    taken.ending ▸ copies.done⟩

/-- A target that was given up has been finished by its copier, since no one else
writes to it while the copier is at work. -/
theorem done_of_ended (copies : Copies skipped lead source target copier) {ending : Ending}
    (ended : target.ending = some ending) : copier.done = true := by
  by_contra undone
  have running := copies.running (Bool.not_eq_true _ ▸ undone)
  rw [running] at ended
  cases ended

/-- A copier that is done has moved the whole source: it stops at the end of the
source only, and with an empty buffer. -/
theorem complete (copies : Copies skipped lead source target copier) (done : copier.done = true) :
    target.written = lead ++ source.written.drop skipped := by
  obtain ⟨ended, nothing, _⟩ := copies.done done
  have drained := (source.atEnd_iff.mp ended).2
  have content := copies.content
  rw [nothing, List.append_nil] at content
  rw [content, Pipe.written, drained, List.append_nil]

/-- An idle copier whose target has been read has moved everything: the target has
room, so nothing is held, and so there was room for what the source still had.
What was done to the source is done to the target. -/
theorem idle (copies : Copies skipped lead source target copier) (idle : copier.Idle source target)
    (read : target.unread = []) (intact : source.ending ≠ some .reset) :
    source.unread = [] ∧ target.written = lead ++ source.written.drop skipped ∧
      target.ending = source.ending ∧ (source.ending = some .finished → copier.done = true) := by
  cases running : copier.done with
  | true =>
    obtain ⟨ended, _, finished⟩ := copies.done running
    obtain ⟨sourceEnd, drained⟩ := source.atEnd_iff.mp ended
    exact ⟨drained, copies.complete running, finished.trans sourceEnd.symm, fun _ => rfl⟩
  | false =>
    have unended := copies.running running
    have nothing : copier.held = [] := by
      have flushed := idle _ _ (Copier.flush_of_running 1 running
        (Pipe.put_first unended read copier.held))
      have same := congrArg (fun next => next.1.held.length) flushed
      simp only [List.length_drop] at same
      exact List.eq_nil_of_length_eq_zero (by omega)
    have drained : source.unread = [] := by
      by_contra more
      have first : 1 ≤ source.unread.length := List.length_pos_iff.mpr more
      have fetched := idle _ _ (Copier.fetch_of_running running nothing
        ((source.take_some_iff _ _ _).mpr ⟨⟨first, intact⟩, rfl, rfl⟩))
      have same := congrArg (fun next => next.2.1.unread.length) fetched
      simp only [List.length_drop] at same
      omega
    have onward : source.ending ≠ some .finished := by
      intro finished
      have shut := idle _ _ (Copier.shut_of_atEnd running nothing
        (source.atEnd_iff.mpr ⟨finished, drained⟩))
      have same := congrArg (fun next => next.1.done) shut
      rw [running] at same
      cases same
    have opened : source.ending = none := by
      cases ending : source.ending with
      | none => rfl
      | some how =>
        cases how with
        | finished => exact absurd ending onward
        | reset => exact absurd ending intact
    refine ⟨drained, ?_, unended.trans opened.symm, fun finished => absurd finished onward⟩
    have content := copies.content
    rw [nothing, List.append_nil] at content
    rw [content, Pipe.written, drained, List.append_nil]

/-- A copier never resets its target. A reset is what a task leaves behind when it
fails, and then its copier is gone. -/
theorem intact (copies : Copies skipped lead source target copier) :
    target.ending ≠ some .reset := by
  intro reset
  obtain ⟨_, _, finished⟩ := copies.done (copies.done_of_ended reset)
  rw [finished] at reset
  cases reset

end Copies

/-- What is taken from the source later changes nothing for what has arrived: the
target still has a beginning of it. -/
theorem Relayed.source_taken {skipped : Nat} {lead : List α} {source source' target : Pipe α}
    (relayed : Relayed skipped lead source target) (taken : source.TakenFrom source') :
    Relayed skipped lead source' target :=
  List.IsPrefix.trans relayed
    ((List.prefix_append_right_inj lead).mpr (taken.received.drop skipped))

/-- Two relays in a row, the second of which skips what the first one led with,
pass on the beginning of what was taken from the source. -/
theorem Relayed.through {lead : List α} {source middle target : Pipe α}
    (first : Relayed 0 lead source middle) (second : Relayed lead.length [] middle target) :
    target.written <+: source.received := by
  have taken : middle.received <+: lead ++ source.received :=
    middle.received_prefix.trans first
  have skipped : middle.received.drop lead.length <+: source.received := by
    simpa using List.IsPrefix.drop taken lead.length
  exact List.IsPrefix.trans second skipped

end Rtun
