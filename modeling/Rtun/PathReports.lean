import Rtun.Run
import Rtun.Runtime

/-!
# The path that is shown for a connected peer

Both roles list the peer of a connection that forms and have its path reported, once on
establishment and from then on by a task: on every path event and once a minute. The serving
side lists the peer first. The connecting side reports first, and a report for a peer that is
not listed is dropped. A peer has one connection at a time here.
-/

namespace Rtun.PathReports

open Run

/-- The address of the far end of a path. -/
structure TransportAddr where
  isRelay : Bool
  text : String

def pathKind (addr : TransportAddr) : String :=
  if addr.isRelay then "relayed" else "direct"

/-- One path of a connection. The round trip time is in nanoseconds. -/
structure Path where
  remoteAddr : TransportAddr
  isSelected : Bool
  rtt : Nat

/-- What `path_events` yields: another path was selected, or something else. -/
inductive PathEvent where
  | selected (remoteAddr : TransportAddr)
  | other

/-- Record the selected path, if there is one. -/
def logSelected (runtime : Runtime) (id : EndpointId) (paths : List Path) : Runtime :=
  match paths.find? (fun path => path.isSelected) with
  | some path =>
      runtime.peerPath id (pathKind path.remoteAddr) (some path.remoteAddr.text)
        (some (path.rtt / 1000000))
  | none => runtime

/-- The branch of the task for an event. -/
def onEvent (runtime : Runtime) (id : EndpointId) (event : PathEvent) : Runtime :=
  match event with
  | .selected remoteAddr => runtime.peerPath id (pathKind remoteAddr) (some remoteAddr.text) none
  | .other => runtime

/-- Which role runs: `serve::run`, or `connect::run` with the peer it dials. -/
inductive Side where
  | serve
  | connect (peer : EndpointId)

/-- A connection that is held: whether `peer_connected` was called for it, whether
`report_path` was, and what has been reported for it, which is nothing where no
path was selected. -/
structure Link where
  listed : Bool
  watched : Bool
  reports : List (Option PathInfo)

/-- What the reports for a connection last said of its path. -/
def latest (reports : List (Option PathInfo)) : Option PathInfo :=
  (reports.filterMap id).getLast?

structure State where
  runtime : Runtime
  links : Table EndpointId Link
  now : Instant

/-- What happens next, to the connection of a peer. -/
inductive Action where
  | elapse (nanos : Nat)
  | establish (peer : EndpointId)
  | peerConnected (peer : EndpointId)
  | reportPath (peer : EndpointId) (paths : List Path)
  | pathEvent (peer : EndpointId) (event : PathEvent)
  | heartbeat (peer : EndpointId) (paths : List Path)
  | peerDisconnected (peer : EndpointId)

/-- What a call of `log_selected` reports. -/
def selectedInfo (paths : List Path) : Option PathInfo :=
  (paths.find? (fun path => path.isSelected)).map (fun path =>
    { path := pathKind path.remoteAddr, addr := some path.remoteAddr.text,
      rttMs := some (path.rtt / 1000000) })

/-- What an event reports; another event than a selection is no report. -/
def eventInfo : PathEvent → List (Option PathInfo)
  | .selected remoteAddr =>
      [some { path := pathKind remoteAddr, addr := some remoteAddr.text, rttMs := none }]
  | .other => []

/-- The connecting side only dials its peer. -/
def Side.dials : Side → EndpointId → Bool
  | .serve, _ => true
  | .connect target, peer => decide (peer = target)

/-- The serving side lists the peer first. -/
def Side.lists : Side → Link → Bool
  | .serve, link => !link.listed
  | .connect _, link => !link.listed && link.watched

/-- The connecting side reports first. -/
def Side.watches : Side → Link → Bool
  | .serve, link => !link.watched && link.listed
  | .connect _, link => !link.watched

/-- A report was made for the connection of a peer. -/
def State.reported (state : State) (peer : EndpointId) (link : Link) (runtime : Runtime)
    (made : List (Option PathInfo)) : State :=
  { state with
    runtime, links := state.links.insert peer { link with
      watched := true, reports := link.reports ++ made } }

def step (side : Side) (state : State) (action : Action) : Option State :=
  match action with
  | .elapse nanos => some { state with now := state.now + nanos }
  | .establish peer =>
      if side.dials peer = true ∧ state.links.lookup peer = none then
        some { state with
          links := state.links.insert peer { listed := false, watched := false, reports := [] } }
      else none
  | .peerConnected peer =>
      (state.links.lookup peer).bind (fun link =>
        if side.lists link then
          some { state with
            runtime := state.runtime.peerConnected peer state.now,
            links := state.links.insert peer { link with listed := true } }
        else none)
  | .reportPath peer paths =>
      (state.links.lookup peer).bind (fun link =>
        if side.watches link then
          some (state.reported peer link (logSelected state.runtime peer paths) [selectedInfo paths])
        else none)
  | .pathEvent peer event =>
      (state.links.lookup peer).bind (fun link =>
        if link.watched then
          some (state.reported peer link (onEvent state.runtime peer event) (eventInfo event))
        else none)
  | .heartbeat peer paths =>
      (state.links.lookup peer).bind (fun link =>
        if link.watched then
          some (state.reported peer link (logSelected state.runtime peer paths) [selectedInfo paths])
        else none)
  | .peerDisconnected peer =>
      (state.links.lookup peer).bind (fun link =>
        if link.listed && link.watched then
          some { state with
            runtime := state.runtime.peerDisconnected peer, links := state.links.erase peer }
        else none)

def initial : State := { runtime := Runtime.empty, links := ∅, now := 0 }

/-- The entry of a peer whose connection is held is that of the latest report for
it, and the path is only "pending" as long as no report had one selected. -/
def Shown (state : State) : Prop :=
  ∀ peer link, state.links.lookup peer = some link → link.listed = true →
    (∃ live ∈ state.runtime.livePeers state.now, live.id = peer.text) ∧
    ∀ live ∈ state.runtime.livePeers state.now, live.id = peer.text →
      (∀ info, latest link.reports = some info → live.path = info.path ∧ live.addr = info.addr) ∧
      (live.path = "pending" ↔ ∀ report ∈ link.reports, report = none)

/-- When the peer is listed, no path has been selected in a report for its
connection. -/
def unreported (state : State) : Action → Bool
  | .peerConnected peer =>
      (state.links.lookup peer).all (fun link => link.reports.all (fun report => report.isNone))
  | _ => true

/-- A report names the kind of its path. -/
def Named (info : PathInfo) : Prop := info.path = "relayed" ∨ info.path = "direct"

/-- `path_kind` knows two kinds of path and has a word for each. Neither of them
is "pending", the word that stands for a path that is not known yet. -/
theorem pathKind_named (addr : TransportAddr) :
    pathKind addr = "relayed" ∨ pathKind addr = "direct" := by
  unfold pathKind
  split
  · exact Or.inl rfl
  · exact Or.inr rfl

/-- What `log_selected` does is what it reports: without a selected path it leaves
the table alone, and with one it writes what it says of it under the peer. -/
theorem logSelected_cases (runtime : Runtime) (peer : EndpointId) (paths : List Path) :
    (selectedInfo paths = none ∧ logSelected runtime peer paths = runtime) ∨
      ∃ info, selectedInfo paths = some info ∧ Named info ∧
        logSelected runtime peer paths = runtime.peerPath peer info.path info.addr info.rttMs := by
  unfold logSelected selectedInfo
  cases paths.find? (fun path => path.isSelected) with
  | none => exact Or.inl ⟨rfl, rfl⟩
  | some path => exact Or.inr ⟨_, rfl, pathKind_named path.remoteAddr, rfl⟩

/-- What the task does on an event is what it reports. Only the events that name a
path reach the table, and each of them says the same there as in the log. -/
theorem onEvent_cases (runtime : Runtime) (peer : EndpointId) (event : PathEvent) :
    (eventInfo event = [] ∧ onEvent runtime peer event = runtime) ∨
      ∃ info, eventInfo event = [some info] ∧ Named info ∧
        onEvent runtime peer event = runtime.peerPath peer info.path info.addr info.rttMs := by
  cases event with
  | selected remoteAddr => exact Or.inr ⟨_, rfl, pathKind_named remoteAddr, rfl⟩
  | other => exact Or.inl ⟨rfl, rfl⟩

/-- The steps, by what they do: a report either says nothing of the path, or names
it. -/
inductive Moves (side : Side) (state : State) : Action → State → Prop where
  | elapsed (nanos : Nat) :
      Moves side state (.elapse nanos) { state with now := state.now + nanos }
  | established (peer : EndpointId) (idle : state.links.lookup peer = none) :
      Moves side state (.establish peer) { state with
        links := state.links.insert peer { listed := false, watched := false, reports := [] } }
  | listed (peer : EndpointId) (link : Link) (held : state.links.lookup peer = some link)
      (lists : side.lists link = true) :
      Moves side state (.peerConnected peer) { state with
        runtime := state.runtime.peerConnected peer state.now,
        links := state.links.insert peer { link with listed := true } }
  | silent (action : Action) (peer : EndpointId) (link : Link) (made : List (Option PathInfo))
      (held : state.links.lookup peer = some link) (other : ∀ peer, action ≠ .peerConnected peer)
      (watches : link.watched = true ∨ side.watches link = true)
      (nothing : ∀ report ∈ made, report = none) :
      Moves side state action (state.reported peer link state.runtime made)
  | named (action : Action) (peer : EndpointId) (link : Link) (info : PathInfo)
      (held : state.links.lookup peer = some link) (other : ∀ peer, action ≠ .peerConnected peer)
      (watches : link.watched = true ∨ side.watches link = true) (isNamed : Named info) :
      Moves side state action (state.reported peer link
        (state.runtime.peerPath peer info.path info.addr info.rttMs) [some info])
  | disconnected (peer : EndpointId) (link : Link) (held : state.links.lookup peer = some link) :
      Moves side state (.peerDisconnected peer) { state with
        runtime := state.runtime.peerDisconnected peer, links := state.links.erase peer }

/-- A call of `log_selected` is one of the two kinds of reports: one that names a
path, and one that says nothing and leaves the entry as it is. -/
theorem logged_moves {side : Side} {state : State} {action : Action} {peer : EndpointId}
    {link : Link} (paths : List Path) (held : state.links.lookup peer = some link)
    (other : ∀ peer, action ≠ .peerConnected peer)
    (watches : link.watched = true ∨ side.watches link = true) :
    Moves side state action
      (state.reported peer link (logSelected state.runtime peer paths) [selectedInfo paths]) := by
  rcases logSelected_cases state.runtime peer paths with ⟨none, same⟩ | ⟨info, some, isNamed, same⟩
  · rw [none, same]
    exact .silent action peer link [.none] held other watches (by simp)
  · rw [some, same]
    exact .named action peer link info held other watches isNamed

/-- Every step is one of these moves, with what `step` has checked before it. It
is the one lemma that takes the steps apart; the invariant is proved by cases on
the move. -/
theorem step_moves {side : Side} {state next : State} {action : Action}
    (taken : step side state action = some next) : Moves side state action next := by
  cases action with
  | elapse nanos =>
    cases taken
    exact .elapsed nanos
  | establish peer =>
    simp only [step, Option.ite_none_right_eq_some, Option.some.injEq] at taken
    obtain ⟨⟨_, idle⟩, rfl⟩ := taken
    exact .established peer idle
  | peerConnected peer =>
    simp only [step, Option.bind_eq_some_iff, Option.ite_none_right_eq_some,
      Option.some.injEq] at taken
    obtain ⟨link, held, lists, rfl⟩ := taken
    exact .listed peer link held lists
  | reportPath peer paths =>
    simp only [step, Option.bind_eq_some_iff, Option.ite_none_right_eq_some,
      Option.some.injEq] at taken
    obtain ⟨link, held, watches, rfl⟩ := taken
    exact logged_moves paths held (by simp) (Or.inr watches)
  | pathEvent peer event =>
    simp only [step, Option.bind_eq_some_iff, Option.ite_none_right_eq_some,
      Option.some.injEq] at taken
    obtain ⟨link, held, watched, rfl⟩ := taken
    rcases onEvent_cases state.runtime peer event with ⟨none, same⟩ | ⟨info, some, isNamed, same⟩
    · rw [none, same]
      exact .silent _ peer link [] held (by simp) (Or.inl watched) (by simp)
    · rw [some, same]
      exact .named _ peer link info held (by simp) (Or.inl watched) isNamed
  | heartbeat peer paths =>
    simp only [step, Option.bind_eq_some_iff, Option.ite_none_right_eq_some,
      Option.some.injEq] at taken
    obtain ⟨link, held, watched, rfl⟩ := taken
    exact logged_moves paths held (by simp) (Or.inl watched)
  | peerDisconnected peer =>
    simp only [step, Option.bind_eq_some_iff, Option.ite_none_right_eq_some,
      Option.some.injEq] at taken
    obtain ⟨link, held, _, rfl⟩ := taken
    exact .disconnected peer link held

/-- The condition on `peer_connected` for a connection that is held: its path task
has not reported anything yet. -/
theorem unreported_iff {state : State} {peer : EndpointId} {link : Link}
    (held : state.links.lookup peer = some link) :
    unreported state (.peerConnected peer) = true ↔ ∀ report ∈ link.reports, report = none := by
  simp [unreported, held]

/-- On every other action the condition asks nothing: it is about the moment at
which a peer is listed, and whether a report was made for it before. -/
theorem unreported_other {state : State} {action : Action}
    (other : ∀ peer, action ≠ .peerConnected peer) : unreported state action = true := by
  cases action with
  | peerConnected peer => exact absurd rfl (other peer)
  | _ => rfl

/-- There is no latest report when none of the reports has named a path. This is
the case in which the table has to say "pending". -/
theorem latest_eq_none_iff (reports : List (Option PathInfo)) :
    latest reports = none ↔ ∀ report ∈ reports, report = none := by
  rw [latest, List.getLast?_eq_none_iff, List.filterMap_eq_nil_iff]
  rfl

/-- Reports that say nothing of the path leave what was last said: an event
without a selected path does not take back the path that is shown. -/
theorem latest_silent (reports made : List (Option PathInfo))
    (nothing : ∀ report ∈ made, report = none) : latest (reports ++ made) = latest reports := by
  have noneMade : made.filterMap id = [] := List.filterMap_eq_nil_iff.mpr nothing
  rw [latest, List.filterMap_append, noneMade, List.append_nil, latest]

/-- A report that names a path is the latest one, whatever was reported before it.
The table is overwritten in the same way. -/
theorem latest_named (reports : List (Option PathInfo)) (info : PathInfo) :
    latest (reports ++ [some info]) = some info := by
  simp [latest]

/-- What the latest report said is one of the reports, so that whatever holds of
all reports, such as that their path has a name, holds of it. -/
theorem latest_mem {reports : List (Option PathInfo)} {info : PathInfo}
    (said : latest reports = some info) : some info ∈ reports := by
  obtain ⟨report, member, same⟩ := List.mem_filterMap.mp (List.mem_of_getLast? said)
  exact same ▸ member

/-- The entry that a connection should have. -/
def Link.info (link : Link) : Option PathInfo :=
  if link.listed then some ((latest link.reports).getD PathInfo.default) else none

/-- Every entry is the one that the connection of its peer should have. -/
structure Current (state : State) : Prop where
  entries : ∀ peer, state.runtime.infoOf peer = (state.links.lookup peer).bind Link.info
  named : ∀ peer link info, state.links.lookup peer = some link → some info ∈ link.reports →
    Named info

/-- In the beginning nothing is connected, so there is nothing to show: no peer is
listed and no report has been made. -/
theorem current_initial : Current initial := by
  constructor
  · intro peer
    rfl
  · intro peer link info held
    cases held

/-- A path that is named is neither empty nor "pending". A listed peer that shows
a path therefore shows one that was reported, and not the word for a missing
report. -/
theorem Named.ne {info : PathInfo} (isNamed : Named info) :
    info.path ≠ "" ∧ info.path ≠ "pending" := by
  rcases isNamed with path | path <;> rw [path] <;> decide

/-- The invariant gives the property: what the state view shows of a peer is what
its path task reported last, and `pending` if it has not reported. -/
theorem Current.shown {state : State} (current : Current state) : Shown state := by
  intro peer link held listed
  have entry := current.entries peer
  rw [held, Option.bind_some, Link.info, listed, if_pos rfl] at entry
  obtain ⟨present, entries⟩ := Runtime.shown_of_infoOf entry state.now
  refine ⟨present, fun live member isPeer => ?_⟩
  obtain ⟨path, addr⟩ := entries live member isPeer
  rw [← latest_eq_none_iff, path, addr]
  cases said : latest link.reports with
  | none => simp [PathInfo.default]
  | some info =>
    have isNamed := (current.named peer link info held (latest_mem said)).ne
    simp [isNamed]

/-- A link that is written, with an entry that it should have, and what is
reported for it. -/
theorem Current.write {state : State} (current : Current state) (peer : EndpointId) (link : Link)
    (runtime : Runtime) (own : runtime.infoOf peer = link.info)
    (others : ∀ other, other ≠ peer → runtime.infoOf other = state.runtime.infoOf other)
    (named : ∀ info, some info ∈ link.reports → Named info) :
    Current { state with runtime, links := state.links.insert peer link } := by
  constructor
  · intro other
    rw [Table.lookup_insert_cases]
    split
    · rename_i same
      rw [same]
      exact own
    · rename_i differs
      rw [others other differs]
      exact current.entries other
  · intro other found info held
    rw [Table.lookup_insert_cases] at held
    split at held
    · cases held
      exact named info
    · exact current.named other found info held

/-- The step lemma: entries stay current as long as a peer is listed before the
first report with a path for its connection. -/
theorem Current.kept {side : Side} {state next : State} {action : Action} (current : Current state)
    (early : unreported state action = true) (taken : step side state action = some next) :
    Current next := by
  cases step_moves taken with
  | elapsed nanos => exact ⟨current.entries, current.named⟩
  | established peer idle =>
    have noEntry := current.entries peer
    rw [idle] at noEntry
    exact current.write peer _ state.runtime noEntry (fun _ _ => rfl) (by simp)
  | listed peer link held lists =>
    have silent := (latest_eq_none_iff link.reports).mpr ((unreported_iff held).mp early)
    have noEntry := current.entries peer
    rw [held, Option.bind_some, Link.info] at noEntry
    refine current.write peer _ _ ?_ ?_ (fun info => current.named peer link info held)
    · rw [Runtime.infoOf_peerConnected, if_pos rfl, noEntry]
      cases link.listed <;> simp [Link.info, silent]
    · intro other differs
      rw [Runtime.infoOf_peerConnected, if_neg differs]
  | silent _ peer link made held _ _ nothing =>
    have entry := current.entries peer
    rw [held, Option.bind_some] at entry
    refine current.write peer _ state.runtime ?_ (fun _ _ => rfl) ?_
    · rw [entry]
      simp [Link.info, latest_silent _ _ nothing]
    · intro info member
      rcases List.mem_append.mp member with before | isMade
      · exact current.named peer link info held before
      · cases nothing _ isMade
  | named _ peer link info held _ _ isNamed =>
    have entry := current.entries peer
    rw [held, Option.bind_some] at entry
    refine current.write peer _ _ ?_ ?_ ?_
    · rw [Runtime.infoOf_peerPath, if_pos rfl, entry]
      cases listed : link.listed <;> simp [Link.info, listed, latest_named]
    · intro other differs
      rw [Runtime.infoOf_peerPath, if_neg differs]
    · intro found member
      rcases List.mem_append.mp member with before | isMade
      · exact current.named peer link found held before
      · simp only [List.mem_singleton, Option.some.injEq] at isMade
        exact isMade ▸ isNamed
  | disconnected peer link held =>
    constructor
    · intro other
      rw [Runtime.infoOf_peerDisconnected, Table.lookup_erase_cases]
      split
      · rfl
      · exact current.entries other
    · intro other found info held
      rw [Table.lookup_erase_cases] at held
      split at held
      · cases held
      · exact current.named other found info held

/-- A side lists a connection at most once, so one that it is about to list is not
listed yet. -/
theorem Side.lists_unlisted {side : Side} {link : Link} (lists : side.lists link = true) :
    link.listed = false := by
  cases side <;> simp_all [Side.lists]

/-- A peer that is listed as it should be had nothing reported yet: its new entry
is empty. -/
theorem Current.needed {side : Side} {state next : State} {action : Action}
    (current : Current state) (taken : step side state action = some next) (shown : Shown next) :
    unreported state action = true := by
  cases step_moves taken with
  | listed peer link held lists =>
    rw [unreported_iff held]
    have noEntry := current.entries peer
    rw [held, Option.bind_some, Link.info, Side.lists_unlisted lists] at noEntry
    have fresh : (state.runtime.peerConnected peer state.now).infoOf peer =
        some PathInfo.default := by
      rw [Runtime.infoOf_peerConnected, if_pos rfl, noEntry]
      rfl
    obtain ⟨⟨live, member, isPeer⟩, entries⟩ := Runtime.shown_of_infoOf fresh state.now
    obtain ⟨_, expected⟩ := shown peer { link with listed := true }
      (AList.lookup_insert _) rfl
    exact (expected live member isPeer).2.mp (entries live member isPeer).1
  | silent _ _ _ _ _ other | named _ _ _ _ _ other => exact unreported_other other
  | elapsed | established | disconnected => rfl

/-- In every run of either role, the entry of every peer is that of the latest
report for its connection if and only if no peer is listed after a report with a
path for its connection. -/
theorem shown_iff_unreported (side : Side) (actions : List Action) (last : State)
    (reached : run (step side) initial actions = some last) :
    Always (step side) Shown initial actions ↔
      Meets (step side) (fun state action => unreported state action = true) initial actions :=
  always_iff_meets_of_invariant (step side) Current Shown _
    (fun _ current => current.shown)
    (fun _ _ _ current taken early => current.kept early taken)
    (fun _ _ _ current taken shown => current.needed taken shown)
    initial last actions current_initial reached

/-- On the serving side nothing is reported for a connection before its peer is
listed. -/
def ListedFirst (state : State) : Prop :=
  ∀ peer link, state.links.lookup peer = some link → link.listed = false →
    link.watched = false ∧ link.reports = []

/-- The step lemma of the serving side: `peer_connected` comes before the path
task is spawned, so no report ever meets a peer that is not listed. -/
theorem ListedFirst.kept {state next : State} {action : Action} (listedFirst : ListedFirst state)
    (taken : step .serve state action = some next) : ListedFirst next := by
  have written (runtime : Runtime) (peer : EndpointId) (link : Link)
      (own : link.listed = false → link.watched = false ∧ link.reports = []) :
      ListedFirst { state with runtime, links := state.links.insert peer link } := by
    intro other found held unlisted
    rw [Table.lookup_insert_cases] at held
    split at held
    · cases held
      exact own unlisted
    · exact listedFirst other found held unlisted
  have isListed {peer : EndpointId} {link : Link} (held : state.links.lookup peer = some link)
      (watches : link.watched = true ∨ Side.serve.watches link = true) : link.listed ≠ false := by
    intro unlisted
    have unwatched := (listedFirst peer link held unlisted).1
    simp [Side.watches, unlisted, unwatched] at watches
  cases step_moves taken with
  | elapsed nanos => exact listedFirst
  | established peer idle => exact written _ peer _ (fun _ => ⟨rfl, rfl⟩)
  | listed peer link held lists => exact written _ peer _ (fun unlisted => by cases unlisted)
  | silent _ peer link made held _ watches _ | named _ peer link made held _ watches _ =>
    exact written _ peer _ (fun unlisted => (isListed held watches unlisted).elim)
  | disconnected peer link held =>
    intro other found stillHeld
    rw [Table.lookup_erase_cases] at stillHeld
    split at stillHeld
    · cases stillHeld
    · exact listedFirst other found stillHeld

/-- The serving side always shows the latest report: it lists the peer before it
asks for the path, so the condition under which the connecting side does the same
holds in each of its runs. -/
theorem serving_side_shown (actions : List Action) (last : State)
    (reached : run (step .serve) initial actions = some last) :
    Always (step .serve) Shown initial actions := by
  have listedFirst : ListedFirst initial := by
    intro peer link held
    cases held
  have early : Meets (step .serve) (fun state action => unreported state action = true)
      initial actions := by
    refine meets_of_invariant (step .serve) ListedFirst (fun _ _ => True) _
      (fun _ _ _ invariant taken => invariant.kept taken) ?_ initial last actions listedFirst
      reached (meets_of_forall _ _ (fun _ _ => trivial) _ _)
    intro state action next invariant taken _
    cases step_moves taken with
    | listed peer link held lists =>
      rw [unreported_iff held, (invariant peer link held (Side.lists_unlisted lists)).2]
      simp
    | silent _ _ _ _ _ other | named _ _ _ _ _ other => exact unreported_other other
    | elapsed | established | disconnected => rfl
  exact always_of_meets (step .serve) Current Shown _ (fun _ current => current.shown)
    (fun _ _ _ current holds taken => current.kept holds taken) initial actions current_initial early

/-- The desktop that is dialed. -/
def desktop : EndpointId := { key := 2 }

def relay : TransportAddr := { isRelay := true, text := "relay:https://relay.example./" }

def lan : TransportAddr := { isRelay := false, text := "ip:192.168.1.8:61393" }

/-- No path is selected yet when the connection forms: the relay is, and then the
direct path. -/
def upgraded : List Action :=
  [.establish desktop, .reportPath desktop [⟨relay, false, 0⟩], .peerConnected desktop,
    .pathEvent desktop (.selected relay), .pathEvent desktop (.selected lan),
    .heartbeat desktop [⟨relay, false, 0⟩, ⟨lan, true, 3000000⟩], .peerDisconnected desktop,
    .establish desktop, .reportPath desktop [], .peerConnected desktop]

/-- A connection starts relayed and becomes direct: both are shown, one after the
other. -/
theorem upgraded_shown : Always (step (.connect desktop)) Shown initial upgraded := by
  obtain ⟨last, reached⟩ : ∃ last, run (step (.connect desktop)) initial upgraded = some last :=
    ⟨_, rfl⟩
  exact (shown_iff_unreported (.connect desktop) upgraded last reached).mpr (by decide)

/-- A path is selected when the connection forms, so it is reported first. -/
def dialedDirect : List Action :=
  [.establish desktop, .reportPath desktop [⟨lan, true, 3000000⟩], .peerConnected desktop]

/-- The connecting side reports before it lists the peer: the path that was there
from the start is dropped, and the peer is shown as pending. -/
theorem established_path_dropped :
    ∃ last, run (step (.connect desktop)) initial dialedDirect = some last ∧
      (last.runtime.livePeers last.now).map (fun live => (live.id, live.path)) =
        [(desktop.text, "pending")] ∧
      ¬ Shown last ∧ ¬ Always (step (.connect desktop)) Shown initial dialedDirect := by
  obtain ⟨last, reached, pending, link, held, listed, made⟩ :
      ∃ last, run (step (.connect desktop)) initial dialedDirect = some last ∧
        (last.runtime.livePeers last.now).map (fun live => (live.id, live.path)) =
          [(desktop.text, "pending")] ∧
        ∃ link, last.links.lookup desktop = some link ∧ link.listed = true ∧
          ¬ ∀ report ∈ link.reports, report = none :=
    ⟨_, rfl, rfl, _, rfl, rfl, by decide⟩
  have wrong : ¬ Shown last := by
    intro shown
    obtain ⟨⟨live, member, isPeer⟩, entries⟩ := shown desktop link held listed
    have inList : (live.id, live.path) ∈ [(desktop.text, "pending")] :=
      pending ▸ List.mem_map_of_mem member
    have path : live.path = "pending" := congrArg Prod.snd (List.mem_singleton.mp inList)
    exact made ((entries live member isPeer).2.mp path)
  exact ⟨last, reached, pending, wrong,
    fun always => wrong (last_of_always _ Shown initial last dialedDirect always reached)⟩

end Rtun.PathReports
