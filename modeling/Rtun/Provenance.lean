import Mathlib.Data.Set.Basic
import Rtun.Access
import Rtun.Startup
import Rtun.TokenGate

/-!
# Where access comes from

One process after the other runs on a state directory. Each loads the file, seeds it from its
flags, serves admin requests, and can be killed in between any two things that it does to the
disk. An access is a peer with a protocol and a port that it may reach. What a life of a
process may add to the accesses, and what it may take from them, is bounded by the flags and
by the requests that present the token; the bounds of several lives add up.
-/

namespace Rtun

universe u

/-- A set changes by no more than this. -/
structure ChangesWithin {α : Type u} (gains losses before after : Set α) : Prop where
  gained : after ⊆ before ∪ gains
  lost : before ⊆ after ∪ losses

namespace ChangesWithin

variable {α : Type u} {gains losses more less before middle after : Set α}

/-- Where nothing changes, nothing has to be accounted for, whatever the bounds
are. -/
theorem refl (before : Set α) : ChangesWithin gains losses before before :=
  ⟨Set.subset_union_left, Set.subset_union_left⟩

/-- The bounds of two changes, one after the other, are those of both. So a
history can be bounded step by step. -/
theorem trans (first : ChangesWithin gains losses before middle)
    (second : ChangesWithin gains losses middle after) :
    ChangesWithin gains losses before after := by
  constructor
  · intro element present
    rcases second.gained present with earlier | gained
    · exact first.gained earlier
    · exact Or.inr gained
  · intro element present
    rcases first.lost present with later | lost
    · exact second.lost later
    · exact Or.inr lost

/-- What is accounted for by less is accounted for by more: bounds may always be
widened to a common one. -/
theorem mono (change : ChangesWithin gains losses before after) (gained : gains ⊆ more)
    (lost : losses ⊆ less) : ChangesWithin more less before after :=
  ⟨change.gained.trans (Set.union_subset_union_right _ gained),
    change.lost.trans (Set.union_subset_union_right _ lost)⟩

/-- What is the same but for some elements changes within them. An edit that is
known by its frame is bounded in this way. -/
theorem of_iff (same : ∀ element, element ∉ gains → (element ∈ after ↔ element ∈ before)) :
    ChangesWithin gains gains before after := by
  constructor
  · intro element present
    by_cases excepted : element ∈ gains
    · exact Or.inr excepted
    · exact Or.inl ((same element excepted).mp present)
  · intro element present
    by_cases excepted : element ∈ gains
    · exact Or.inr excepted
    · exact Or.inl ((same element excepted).mpr present)

end ChangesWithin

/-- Who may reach what. -/
abbrev AccessTriple : Type := EndpointId × Proto × UInt16

def Config.accesses (config : Config) : Set AccessTriple :=
  { access | config.Reach access.1 access.2.1 access.2.2 }

/-- What the flags name: all accesses of the allowed peers, and the offered ports
for everyone. -/
def Cmd.names : Cmd → Set AccessTriple
  | .serve tcp udp allow _ => { access | access.1 ∈ allow ∨ access.2 ∈ flagged tcp udp }
  | .connect .. => ∅

/-- What a request names: an offer to everyone, an offer to one peer, or all of a
peer's accesses. -/
def Mutation.names (layers : Layers) (request : Mutation) : Set AccessTriple :=
  { access | request.offer = some (none, access.2) ∨
      request.ScopedTo layers access.1 ∧
        ∀ peer key, request.offer = some (peer, key) → key = access.2 }

/-- What a request that arrives may change: it presents the token, it is no GET,
and its body is a request for this access. -/
def Arrival.names (layers : Layers) (arrival : Arrival) : Set AccessTriple :=
  { access | ∃ request : Mutation, Presents arrival.req arrival.token ∧ arrival.req.method ≠ .get ∧
      endpoint layers arrival.req.method arrival.req.path arrival.req.body =
        .mutate (request.handled layers) ∧
      access ∈ request.names layers }

/-- A request that is performed changes no other access than those that it
names. -/
theorem Change.changesWithin {layers : Layers} {request : Mutation} {before after : Config}
    (change : Change layers request before after) :
    ChangesWithin (request.names layers) (request.names layers) before.accesses after.accesses := by
  refine ChangesWithin.of_iff ?_
  rintro ⟨id, proto, port⟩ unnamed
  rw [Mutation.names, Set.mem_ofPred_eq, not_or] at unnamed
  cases change with
  | peers named names noOffer shared others =>
    have differs : id ≠ named := by
      rintro rfl
      refine unnamed.2 ⟨names, fun peer key isOffer => ?_⟩
      rw [noOffer] at isOffer
      cases isOffer
    exact Config.reach_congr before after id proto port (others id differs) (by rw [shared])
  | sharedOffers proto' port' named peers only =>
    have differs : (proto, port) ≠ (proto', port') := fun same => unnamed.1 (same ▸ named)
    exact Config.reach_congr before after id proto port (peers id) (only proto port differs)
  | ownOffers text proto' port' owned owner offers named parsed shared others found edited only =>
    by_cases same : id = owned
    · subst same
      refine (Change.ownOffers text proto' port' id owner offers named parsed shared others found
        edited only).other_offer (some text) (proto', port') named id proto port ?_
      intro sameKey
      refine unnamed.2 ⟨⟨text, request.peerText_of_offer _ _ named, parsed⟩, fun peer key isOffer => ?_⟩
      obtain ⟨_, rfl⟩ := Prod.mk.inj (Option.some.inj (isOffer.symm.trans named))
      exact sameKey.symm
    · exact Config.reach_congr before after id proto port (others id same) (by rw [shared])
  | bindings edits serve =>
    exact Config.reach_congr before after id proto port (by rw [Config.peer, serve]; rfl) (by rw [serve])

/-- Seeding adds no other access than what the flags name, and takes none away,
since it never changes an entry that is there. -/
theorem Cmd.seed_changesWithin (cmd : Cmd) (config : Config) :
    ChangesWithin cmd.names ∅ config.accesses (cmd.seed config).1.accesses := by
  cases cmd with
  | connect tcp udp admin =>
    obtain ⟨bindings, seeded, _⟩ := config.seedBindings_adds tcp udp
    have same (id : EndpointId) (proto : Proto) (port : UInt16) :
        (config.seedBindings tcp udp).1.Reach id proto port ↔ config.Reach id proto port := by
      rw [seeded]
      exact Config.reach_congr config _ id proto port rfl Iff.rfl
    exact ChangesWithin.of_iff fun access _ => same access.1 access.2.1 access.2.2
  | serve tcp udp allow admin =>
    obtain ⟨offers, peers, seeded, addsOffers, addsPeers⟩ := config.seedFromFlags_adds allow tcp udp
    have looked (id : EndpointId) : (config.seedFromFlags allow tcp udp).1.peer id =
        (config.peer id).or (peers.find? (fun peer => peer.id == id)) := by
      rw [seeded]
      exact List.find?_append
    have shared (proto : Proto) (port : UInt16) :
        Grants (config.seedFromFlags allow tcp udp).1.serve.shared proto port ↔
          Grants config.serve.shared proto port ∨ Grants offers proto port := by
      rw [seeded]
      exact grants_append config.serve.shared offers proto port
    constructor
    · rintro ⟨id, proto, port⟩ reached
      obtain ⟨peer, found, enabled, granted⟩ := (Config.reach_iff _ _ _ _).mp reached
      by_cases named : id ∈ allow ∨ (proto, port) ∈ flagged tcp udp
      · exact Or.inr named
      · rw [not_or] at named
        have noPeer : peers.find? (fun peer => peer.id == id) = none := by
          refine List.find?_eq_none.mpr fun added member same => named.1 ?_
          obtain ⟨flag, isFlag, rfl⟩ := addsPeers.origin added member
          obtain rfl : flag = id := by simpa [peerFor] using same
          exact isFlag
        have noOffer : ¬ Grants offers proto port := by
          rintro ⟨added, member, _, rfl, rfl⟩
          obtain ⟨flag, isFlag, rfl⟩ := addsOffers.origin added member
          exact named.2 isFlag
        change (config.seedFromFlags allow tcp udp).1.peer id = some peer at found
        rw [looked, noPeer, Option.or_none] at found
        refine Or.inl ((Config.reach_iff _ _ _ _).mpr ⟨peer, found, enabled, ?_⟩)
        exact granted.imp_left fun either => ((shared proto port).mp either).resolve_right noOffer
    · rintro ⟨id, proto, port⟩ reached
      obtain ⟨peer, found, enabled, granted⟩ := (Config.reach_iff _ _ _ _).mp reached
      refine Or.inl ((Config.reach_iff _ _ _ _).mpr ⟨peer, ?_, enabled, ?_⟩)
      · exact (looked id).trans (by rw [show config.peer id = some peer from found, Option.some_or])
      · exact granted.imp_left fun own => (shared proto port).mpr (Or.inl own)

/-- A request that gets as far as a handler presents the token, and is no GET. So
every access gained by an edit goes back to someone who knew it. -/
theorem routed_mutate (layers : Layers) (token : String) (req : Request)
    (handled : Fallible (Edit Unit)) (reached : routed layers token req = .mutate handled) :
    Presents req token ∧ req.method ≠ .get ∧
      endpoint layers req.method req.path req.body = .mutate handled := by
  have presented : presentedToken req = some token :=
    ((reaches_iff layers token req).mp ⟨handled, reached⟩).2.1
  have atEndpoint : endpoint layers req.method req.path req.body = .mutate handled := by
    unfold routed at reached
    split at reached
    · cases reached
    · rw [presented] at reached
      dsimp only at reached
      split at reached
      · cases reached
      · split at reached
        · cases reached
        · exact reached
  refine ⟨(presentedToken_some_iff req token).mp presented, fun isGet => ?_, atEndpoint⟩
  exact endpoint_get layers req.path req.body handled (isGet ▸ atEndpoint)

/-- A call of `mutate` never changes which file the process saves to, so all lives
share one file. -/
theorem Shared.mutate_path {τ : Type} (shared : Shared) (toml : Toml) (edit : Edit τ)
    (outcomes : Outcomes) (disk : Disk) :
    (shared.mutate toml edit outcomes disk).shared.path = shared.path := by
  unfold mutate
  split
  · rfl
  · split
    · rfl
    · split <;> rfl

/-- A request on a running configuration that is on the disk. Whatever the disk
passes through, it holds a configuration that differs within what the request
names, and in the end the one that is running. -/
theorem History.serve_within (layers : Layers) (readsBack : layers.toml.ReadsBack) (history : History)
    (arrival : Arrival) (agrees : history.shared.Agrees layers.toml history.disk) :
    (history.serve layers arrival).shared.path = history.shared.path ∧
      (history.serve layers arrival).shared.Agrees layers.toml (history.serve layers arrival).disk ∧
      (∃ passed, (history.serve layers arrival).disks = passed ++ history.disks ∧
        (history.serve layers arrival).disk ∈ passed ∧
        ∀ disk ∈ passed, ∃ config, load layers.toml history.shared.path disk = .ok config ∧
          ChangesWithin (arrival.names layers) (arrival.names layers)
            history.shared.config.accesses config.accesses) := by
  have same (fs : Fs) (untouched : fs = .start history.disk) : ∀ disk ∈ fs.states, ∃ config,
      load layers.toml history.shared.path disk = .ok config ∧
        ChangesWithin (arrival.names layers) (arrival.names layers)
          history.shared.config.accesses config.accesses := by
    subst untouched
    intro disk member
    obtain rfl : disk = history.disk := List.mem_singleton.mp member
    exact ⟨_, agrees, ChangesWithin.refl _⟩
  simp only [serve]
  unfold route
  split
  · exact ⟨rfl, agrees, _, rfl, List.mem_cons_self, same _ rfl⟩
  · exact ⟨rfl, agrees, _, rfl, List.mem_cons_self, same _ rfl⟩
  · rename_i handled reached
    obtain ⟨presents, notGet, atEndpoint⟩ := routed_mutate _ _ _ _ reached
    obtain ⟨request, rfl⟩ := endpoint_mutation _ _ _ _ _ atEndpoint
    cases isEdit : request.handled layers with
    | error failure => exact ⟨rfl, agrees, _, rfl, List.mem_cons_self, same _ rfl⟩
    | ok edit =>
      have submitted : (submit layers history.shared (.ok edit) arrival.outcomes history.disk).shared =
          (history.shared.mutate layers.toml edit arrival.outcomes history.disk).shared ∧
          (submit layers history.shared (.ok edit) arrival.outcomes history.disk).fs =
            (history.shared.mutate layers.toml edit arrival.outcomes history.disk).fs := by
        simp only [submit]
        split <;> exact ⟨rfl, rfl⟩
      dsimp only
      rw [submitted.1, submitted.2]
      refine ⟨history.shared.mutate_path _ _ _ _,
        Shared.mutate_agrees _ readsBack _ edit arrival.outcomes _ agrees, _, rfl,
        List.mem_cons_self, ?_⟩
      intro disk passed
      have outcome := (Shared.mutate_allOrNothing layers.toml readsBack history.shared edit
        arrival.outcomes history.disk agrees).died disk passed
      rcases outcome with before | ⟨out, next, edited, after⟩
      · exact ⟨_, before, ChangesWithin.refl _⟩
      · have valid : next.validate = .ok () :=
          (Config.validate_ok_iff next).mpr (load_wellFormed _ _ _ _ after)
        have change := (performed_change layers request history.shared.config next
          ⟨edit, isEdit, edited, valid⟩).changesWithin
        have named : request.names layers ⊆ arrival.names layers :=
          fun access isNamed => ⟨request, presents, notGet, isEdit ▸ atEndpoint, isNamed⟩
        exact ⟨next, after, change.mono named named⟩

/-- This disk is loaded as a configuration whose accesses differ from the first
within bounds. -/
def LoadsWithin (toml : Toml) (path : ConfigPath) (gains losses first : Set AccessTriple)
    (disk : Disk) : Prop :=
  ∃ config, load toml path disk = .ok config ∧ ChangesWithin gains losses first config.accesses

/-- A file that is accounted for by less is accounted for by more, as for the
accesses of a configuration. -/
theorem LoadsWithin.mono {toml : Toml} {path : ConfigPath}
    {gains losses more less first : Set AccessTriple} {disk : Disk}
    (loads : LoadsWithin toml path gains losses first disk) (gained : gains ⊆ more)
    (lost : losses ⊆ less) : LoadsWithin toml path more less first disk :=
  ⟨loads.choose, loads.choose_spec.1, loads.choose_spec.2.mono gained lost⟩

/-- A startup that finds a configuration: through all states of the disk it stays
within what its flags name, and if it gets as far as the shared state, this is
what is on the disk. -/
theorem start_within (toml : Toml) (readsBack : toml.ReadsBack) (cmd : Cmd) (path : ConfigPath)
    (outcomes : Outcomes) (endpointBound : Fallible Unit) (now : Instant) (disk : Disk)
    (initial : Config) (loaded : load toml path disk = .ok initial) :
    let started := start toml cmd path outcomes endpointBound now disk
    (∀ passed ∈ started.2.states, LoadsWithin toml path cmd.names ∅ initial.accesses passed) ∧
      ∀ shared, started.1 = .ok shared → shared.path = path ∧
        shared.Agrees toml started.2.disk := by
  have seeds := cmd.seed_changesWithin initial
  have untouched : ∀ passed ∈ (Fs.start disk).states,
      LoadsWithin toml path cmd.names ∅ initial.accesses passed := by
    intro passed member
    obtain rfl : passed = disk := List.mem_singleton.mp member
    exact ⟨initial, loaded, ChangesWithin.refl _⟩
  have found : (∀ passed ∈ (loadSeeded toml cmd path outcomes disk).2.states,
        LoadsWithin toml path cmd.names ∅ initial.accesses passed) ∧
      ∀ config, (loadSeeded toml cmd path outcomes disk).1 = .ok config →
        load toml path (loadSeeded toml cmd path outcomes disk).2.disk = .ok config := by
    unfold loadSeeded
    rw [loaded]
    dsimp only
    split
    · have effect := save_effect toml path (cmd.seed initial).1 outcomes (.start disk)
      constructor
      · intro passed member
        rcases effect.passed passed member with initially | same | holds
        · exact untouched passed initially
        · exact ⟨initial, (load_congr toml path passed disk same).trans loaded, ChangesWithin.refl _⟩
        · exact ⟨_, load_of_holds toml path passed _ readsBack holds, seeds⟩
      · intro config isOk
        cases saved : (save toml path (cmd.seed initial).1 outcomes (.start disk)).1 with
        | error failure =>
          rw [saved] at isOk
          cases isOk
        | ok _ =>
          rw [saved] at isOk
          cases isOk
          exact load_of_holds toml path _ _ readsBack (effect.saved saved)
    · rename_i unchanged
      have same := cmd.seed_unchanged initial (Bool.eq_false_of_not_eq_true unchanged)
      refine ⟨untouched, fun config isOk => ?_⟩
      cases isOk
      rw [same]
      exact loaded
  obtain ⟨passes, holds⟩ := found
  intro started
  rcases seeded : loadSeeded toml cmd path outcomes disk with ⟨result, fs⟩
  rw [seeded] at passes holds
  simp only [started, start, seeded]
  cases result with
  | error failure => exact ⟨passes, fun shared isOk => by cases isOk⟩
  | ok config =>
    dsimp only
    split
    · exact ⟨passes, fun shared isOk => by cases isOk⟩
    · refine ⟨passes, fun shared isOk => ?_⟩
      cases endpointBound with
      | error failure => cases isOk
      | ok _ =>
        cases isOk
        exact ⟨rfl, holds config rfl⟩

/-- A life of a process: its command, the outcomes on its way to the shared state,
and the requests that it then serves. -/
structure Life where
  cmd : Cmd
  outcomes : Outcomes
  endpointBound : Fallible Unit
  now : Instant
  arrivals : List Arrival

namespace Life

/-- What has happened by the end of a life, if it got as far as the shared
state. -/
def history (layers : Layers) (path : ConfigPath) (disk : Disk) (life : Life) : Option History :=
  match start layers.toml life.cmd path life.outcomes life.endpointBound life.now disk with
  | (.error _, _) => none
  | (.ok shared, fs) => some (life.arrivals.foldl (History.serve layers) (History.begin shared fs))

/-- The states of the disk, in any of which the process can be killed. -/
def disks (layers : Layers) (path : ConfigPath) (disk : Disk) (life : Life) : List Disk :=
  match life.history layers path disk with
  | none => (start layers.toml life.cmd path life.outcomes life.endpointBound life.now disk).2.states
  | some history => history.disks

/-- The configurations that were running. -/
def published (layers : Layers) (path : ConfigPath) (disk : Disk) (life : Life) : List Config :=
  match life.history layers path disk with
  | none => []
  | some history => history.published

/-- What the requests of a life name. -/
def edited (layers : Layers) (life : Life) : Set AccessTriple :=
  { access | ∃ arrival ∈ life.arrivals, access ∈ arrival.names layers }

end Life

/-- One life after the other, each killed somewhere, and the disk that they
leave. -/
inductive Lives (layers : Layers) (path : ConfigPath) : Disk → List Life → Disk → Prop where
  | none (disk : Disk) : Lives layers path disk [] disk
  | cons {disk middle last : Disk} (life : Life) (others : List Life)
      (killed : middle ∈ life.disks layers path disk) (later : Lives layers path middle others last) :
      Lives layers path disk (life :: others) last

/-- While a role runs, what runs is on the disk, and has always been within
bounds. -/
structure History.Within (layers : Layers) (path : ConfigPath)
    (gains losses first : Set AccessTriple) (history : History) : Prop where
  samePath : history.shared.path = path
  agrees : history.shared.Agrees layers.toml history.disk
  listed : history.disk ∈ history.disks
  disks : ∀ disk ∈ history.disks, LoadsWithin layers.toml path gains losses first disk
  published : ∀ config ∈ history.published, ChangesWithin gains losses first config.accesses

/-- What is on the disk is what a load of it gives: the next life starts from it,
within the bounds of those before. -/
theorem LoadsWithin.of_loaded {toml : Toml} {path : ConfigPath}
    {gains losses first : Set AccessTriple} {disk : Disk} {config : Config}
    (loads : LoadsWithin toml path gains losses first disk)
    (loaded : load toml path disk = .ok config) : ChangesWithin gains losses first config.accesses := by
  obtain ⟨other, isOther, change⟩ := loads
  obtain rfl : config = other := Except.ok.inj (loaded.symm.trans isOther)
  exact change

/-- The step lemma: a request stays within bounds that cover what it names,
whether it succeeds, fails or is killed on the way. -/
theorem History.Within.serve {layers : Layers} (readsBack : layers.toml.ReadsBack)
    {path : ConfigPath} {gains losses first : Set AccessTriple} {history : History}
    (within : history.Within layers path gains losses first) (arrival : Arrival)
    (gained : arrival.names layers ⊆ gains) (lost : arrival.names layers ⊆ losses) :
    (history.serve layers arrival).Within layers path gains losses first := by
  obtain ⟨samePath, agrees, passed, disks, here, loads⟩ :=
    history.serve_within layers readsBack arrival within.agrees
  have before : ChangesWithin gains losses first history.shared.config.accesses :=
    (within.disks _ within.listed).of_loaded (within.samePath ▸ within.agrees)
  have passing : ∀ disk ∈ passed, LoadsWithin layers.toml path gains losses first disk := by
    intro disk member
    obtain ⟨config, loaded, change⟩ := loads disk member
    exact ⟨config, within.samePath ▸ loaded, before.trans (change.mono gained lost)⟩
  have running : load layers.toml path (history.serve layers arrival).disk =
      .ok (history.serve layers arrival).shared.config := by
    rw [← within.samePath, ← samePath]
    exact agrees
  refine ⟨samePath.trans within.samePath, agrees, ?_, ?_, ?_⟩
  · rw [disks]
    exact List.mem_append_left _ here
  · rw [disks]
    intro disk member
    exact (List.mem_append.mp member).elim (passing disk) (within.disks disk)
  · intro config member
    rcases List.mem_cons.mp member with rfl | earlier
    · exact (passing _ here).of_loaded running
    · exact within.published config earlier

/-- The run lemma, over the requests of one life in the order of their arrival,
within bounds that cover them all. -/
theorem History.Within.serveAll {layers : Layers} (readsBack : layers.toml.ReadsBack)
    {path : ConfigPath} {gains losses first : Set AccessTriple} (arrivals : List Arrival)
    (gained : ∀ arrival ∈ arrivals, arrival.names layers ⊆ gains)
    (lost : ∀ arrival ∈ arrivals, arrival.names layers ⊆ losses) (history : History)
    (within : history.Within layers path gains losses first) :
    (arrivals.foldl (History.serve layers) history).Within layers path gains losses first := by
  induction arrivals generalizing history with
  | nil => exact within
  | cons arrival rest inductionHypothesis =>
    exact inductionHypothesis (fun other member => gained other (List.mem_cons_of_mem _ member))
      (fun other member => lost other (List.mem_cons_of_mem _ member)) _
      (within.serve readsBack arrival (gained arrival List.mem_cons_self)
        (lost arrival List.mem_cons_self))

/-- A life that finds a configuration stays within what its flags and its requests
name. -/
theorem Life.within (layers : Layers) (readsBack : layers.toml.ReadsBack) (path : ConfigPath)
    (disk : Disk) (life : Life) (initial : Config)
    (loaded : load layers.toml path disk = .ok initial) :
    (∀ passed ∈ life.disks layers path disk, LoadsWithin layers.toml path
      (life.cmd.names ∪ life.edited layers) (life.edited layers) initial.accesses passed) ∧
    ∀ config ∈ life.published layers path disk, ChangesWithin
      (life.cmd.names ∪ life.edited layers) (life.edited layers) initial.accesses
        config.accesses := by
  obtain ⟨passes, runs⟩ := start_within layers.toml readsBack life.cmd path life.outcomes
    life.endpointBound life.now disk initial loaded
  have started : ∀ passed ∈ (start layers.toml life.cmd path life.outcomes life.endpointBound
      life.now disk).2.states, LoadsWithin layers.toml path
        (life.cmd.names ∪ life.edited layers) (life.edited layers) initial.accesses passed :=
    fun passed member => (passes passed member).mono Set.subset_union_left (Set.empty_subset _)
  rcases result : start layers.toml life.cmd path life.outcomes life.endpointBound life.now disk
    with ⟨outcome, fs⟩
  rw [result] at started runs
  cases outcome with
  | error failure =>
    simp only [disks, published, history, result]
    exact ⟨started, fun config member => by cases member⟩
  | ok shared =>
    obtain ⟨samePath, agrees⟩ := runs shared rfl
    have begun : (History.begin shared fs).Within layers path
        (life.cmd.names ∪ life.edited layers) (life.edited layers) initial.accesses := by
      refine ⟨samePath, agrees, List.mem_cons_self, started, fun config member => ?_⟩
      obtain rfl : config = shared.config := List.mem_singleton.mp member
      exact (started _ List.mem_cons_self).of_loaded (samePath ▸ agrees)
    have named : ∀ arrival ∈ life.arrivals, arrival.names layers ⊆ life.edited layers :=
      fun arrival member access isNamed => ⟨arrival, member, isNamed⟩
    have ends := begun.serveAll readsBack life.arrivals
      (fun arrival member => (named arrival member).trans Set.subset_union_right) named
    simp only [disks, published, history, result]
    exact ⟨ends.disks, ends.published⟩

/-- What the flags and the requests of some lives name. -/
def flaggedBy (lives : List Life) : Set AccessTriple :=
  { access | ∃ life ∈ lives, access ∈ life.cmd.names }

def editedBy (layers : Layers) (lives : List Life) : Set AccessTriple :=
  { access | ∃ life ∈ lives, access ∈ life.edited layers }

/-- The flags of a list of lives are those of the first life and those of the
others. -/
theorem flaggedBy_cons (life : Life) (others : List Life) :
    flaggedBy (life :: others) = life.cmd.names ∪ flaggedBy others := by
  ext access
  simp [flaggedBy]

/-- So are the accesses that its requests have named. -/
theorem editedBy_cons (layers : Layers) (life : Life) (others : List Life) :
    editedBy layers (life :: others) = life.edited layers ∪ editedBy layers others := by
  ext access
  simp [editedBy]

/-- The bounds of all lives so far are those of what is on the disk. It is an
induction on the lives, each beginning with what the last has left. -/
theorem Lives.within {layers : Layers} (readsBack : layers.toml.ReadsBack) {path : ConfigPath}
    {first last : Disk} {lives : List Life} (lived : Lives layers path first lives last)
    (initial : Config) (loaded : load layers.toml path first = .ok initial) :
    LoadsWithin layers.toml path (flaggedBy lives ∪ editedBy layers lives) (editedBy layers lives)
      initial.accesses last := by
  induction lived generalizing initial with
  | none disk => exact ⟨initial, loaded, ChangesWithin.refl _⟩
  | cons life others killed later inductionHypothesis =>
    obtain ⟨middle, isMiddle, change⟩ :=
      (life.within layers readsBack path _ initial loaded).1 _ killed
    obtain ⟨final, isFinal, rest⟩ := inductionHypothesis middle isMiddle
    refine ⟨final, isFinal, ?_⟩
    rw [flaggedBy_cons, editedBy_cons]
    exact (change.mono (Set.union_subset_union Set.subset_union_left Set.subset_union_left)
      Set.subset_union_left).trans
        (rest.mono (Set.union_subset_union Set.subset_union_right Set.subset_union_right)
          Set.subset_union_right)

/-- Every access is accounted for. Through any number of lives of a process on one
directory, each with any flags, requests and failures, and killed at any point,
the file can be loaded; a peer reaches a port that it did not reach in the
beginning only if flags name the peer or the port, or a request that presented the
token names the access; and it loses one only by such a request. The same holds of
everything that ever runs. -/
theorem every_access_accounted (layers : Layers) (readsBack : layers.toml.ReadsBack)
    (path : ConfigPath) (first last : Disk) (lives : List Life)
    (lived : Lives layers path first lives last) (initial : Config)
    (loaded : load layers.toml path first = .ok initial) :
    (∃ final, load layers.toml path last = .ok final ∧
      ChangesWithin (flaggedBy lives ∪ editedBy layers lives) (editedBy layers lives)
        initial.accesses final.accesses) ∧
    ∀ (life : Life) (config : Config), config ∈ life.published layers path last →
      ChangesWithin (flaggedBy (life :: lives) ∪ editedBy layers (life :: lives))
        (editedBy layers (life :: lives)) initial.accesses config.accesses := by
  obtain ⟨final, isFinal, change⟩ := lived.within readsBack initial loaded
  refine ⟨⟨final, isFinal, change⟩, fun life config running => ?_⟩
  have own := (life.within layers readsBack path last final isFinal).2 config running
  rw [flaggedBy_cons, editedBy_cons]
  exact (change.mono (Set.union_subset_union Set.subset_union_right Set.subset_union_right)
    Set.subset_union_right).trans
      (own.mono (Set.union_subset_union Set.subset_union_left Set.subset_union_left)
        Set.subset_union_left)

/-- SSH is offered by a request, and the process is killed after the file was
replaced. -/
def sshOffering : Life :=
  { cmd := .serve [] [] [] (some "7000"), outcomes := .success, endpointBound := .ok (), now := 0,
    arrivals := [{ token := "5c3e", id := "", req := basicCredentialsPost, now := 1,
                   outcomes := .success }] }

/-- One life, in which a request offers SSH and the process is killed: SSH is all
that the next one can find in the file that was not there before. -/
theorem ssh_offer_accounted :
    ∃ last, Lives sampleLayers (configPath "/var/lib/rtun") { file := .missing, tmp := none }
        [sshOffering] last ∧
      load sampleLayers.toml (configPath "/var/lib/rtun") last = .ok sshOffered ∧
      sshOffered.accesses ⊆ Config.default.accesses ∪
        (flaggedBy [sshOffering] ∪ editedBy sampleLayers [sshOffering]) := by
  have lived : Lives sampleLayers (configPath "/var/lib/rtun") { file := .missing, tmp := none }
      [sshOffering] { file := .bytes (fileHeader ++ sshText).toByteArray, tmp := none } :=
    .cons sshOffering [] List.mem_cons_self (.none _)
  obtain ⟨⟨final, loaded, change⟩, _⟩ := every_access_accounted sampleLayers sshToml_readsBack
    (configPath "/var/lib/rtun") _ _ _ lived Config.default rfl
  have isSsh : load sampleLayers.toml (configPath "/var/lib/rtun")
      { file := .bytes (fileHeader ++ sshText).toByteArray, tmp := none } = .ok sshOffered :=
    load_of_holds sshToml (configPath "/var/lib/rtun")
      { file := .bytes (fileHeader ++ sshText).toByteArray, tmp := none } sshOffered
      sshToml_readsBack ⟨(Config.validate_ok_iff _).mp rfl, _, rfl, rfl⟩
  obtain rfl : sshOffered = final := Except.ok.inj (isSsh.symm.trans loaded)
  exact ⟨_, lived, isSsh, change.gained⟩

end Rtun
