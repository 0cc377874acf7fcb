import Rtun.Route
import Rtun.Seeding

/-!
# Starting a role and editing it

The startup of the two roles, up to the shared state, and the admin requests that
follow. A history keeps every snapshot that was published and every state that the
disk passed through, so that a law can speak about all of them at once.
-/

namespace Rtun

/-- The subcommands that run a role, with the flags that decide what is run. -/
inductive Cmd where
  | serve (tcp udp : List UInt16) (allow : List EndpointId) (admin : Option String)
  | connect (tcp udp : List PortMap) (admin : Option String)

namespace Cmd

def role : Cmd → Role
  | .serve .. => .serve
  | .connect .. => .connect

/-- The flags seed what the file lacks. -/
def seed (config : Config) : Cmd → Config × Bool
  | .serve tcp udp allow _ => config.seedFromFlags allow tcp udp
  | .connect tcp udp _ => config.seedBindings tcp udp

/-- A role with nothing to do and no way to be given something is refused. -/
def refusal (config : Config) : Cmd → Option String
  | .serve _ _ _ admin =>
      if config.serve.peers.isEmpty && admin.isNone then
        some ("no peers allowlisted: pass --allow <ENDPOINT_ID>, " ++
          "or --admin <PORT> to add one from the web UI")
      else none
  | .connect _ _ admin =>
      if config.connect.bindings.isEmpty && admin.isNone then
        some ("no local ports to bind: pass --tcp/--udp LOCAL:REMOTE, " ++
          "or --admin <PORT> to add one from the web UI")
      else none

end Cmd

/-- Load, seed, and save if the seeding changed anything. -/
def loadSeeded (toml : Toml) (cmd : Cmd) (path : ConfigPath) (outcomes : Outcomes) (disk : Disk) :
    Fallible Config × Fs :=
  match load toml path disk with
  | .error failure => (.error failure, .start disk)
  | .ok loaded =>
      let seeded := cmd.seed loaded
      if seeded.2 then
        let saved := save toml path seeded.1 outcomes (.start disk)
        (saved.1.map (fun _ => seeded.1), saved.2)
      else (.ok seeded.1, .start disk)

/-- The startup of a role up to its shared state. Whether the endpoint can be
bound is decided outside. -/
def start (toml : Toml) (cmd : Cmd) (path : ConfigPath) (outcomes : Outcomes)
    (endpointBound : Fallible Unit) (now : Instant) (disk : Disk) : Fallible Shared × Fs :=
  match loadSeeded toml cmd path outcomes disk with
  | (.error failure, fs) => (.error failure, fs)
  | (.ok config, fs) =>
      match cmd.refusal config with
      | some message => (.error (.message message), fs)
      | none => (endpointBound.map (fun _ => Shared.new config path cmd.role now), fs)

/-- A request as it arrives: the token and id of the admin surface, the moment,
and the outcomes that a save on its behalf will have. -/
structure Arrival where
  token : String
  id : String
  req : Request
  now : Instant
  outcomes : Outcomes

/-- What has happened so far, the latest first. -/
structure History where
  shared : Shared
  disk : Disk
  published : List Config
  disks : List Disk

/-- The history when the shared state has just been created. -/
def History.begin (shared : Shared) (fs : Fs) : History :=
  { shared, disk := fs.disk, published := [shared.config], disks := fs.states }

/-- Serve one request and record what it leaves. -/
def History.serve (layers : Layers) (history : History) (arrival : Arrival) : History :=
  let admin : Admin := { shared := history.shared, token := arrival.token, id := arrival.id }
  let served := route layers admin arrival.req arrival.now arrival.outcomes history.disk
  { shared := served.shared, disk := served.fs.disk,
    published := served.shared.config :: history.published,
    disks := served.fs.states ++ history.disks }

/-- What the file may contain: what was there, or the text of a well-formed
configuration. -/
def Written (toml : Toml) (original : Content) (disk : Disk) : Prop :=
  disk.file = original ∨ ∃ config, Holds toml disk config

/-- Every snapshot ever published is well formed, and so is every content that the
file was ever given. -/
structure History.WellFormed (toml : Toml) (original : Content) (history : History) : Prop where
  current : history.shared.config.WellFormed
  published : ∀ config ∈ history.published, config.WellFormed
  onDisk : Written toml original history.disk
  disks : ∀ disk ∈ history.disks, Written toml original disk

/-- A disk that nothing has touched has passed through one state only. -/
theorem written_start {toml : Toml} {original : Content} {disk : Disk}
    (before : Written toml original disk) :
    ∀ passed ∈ (Fs.start disk).states, Written toml original passed := by
  intro passed member
  obtain rfl : passed = disk := List.mem_singleton.mp member
  exact before

/-- A save takes the file from one written content to another. -/
theorem SaveEffect.written {toml : Toml} {config : Config} {disk : Disk} {original : Content}
    {result : Fallible Unit × Fs} (effect : SaveEffect toml config (.start disk) result)
    (before : Written toml original disk) :
    ∀ passed ∈ result.2.states, Written toml original passed := by
  intro passed member
  rcases effect.passed passed member with initially | same | holds
  · obtain rfl : passed = disk := List.mem_singleton.mp initially
    exact before
  · rcases before with untouched | ⟨old, body, written⟩
    · exact Or.inl (same.trans untouched)
    · obtain ⟨text, serialised, stored⟩ := written
      exact Or.inr ⟨old, body, text, serialised, same.trans stored⟩
  · exact Or.inr ⟨config, holds⟩

/-- A call to `mutate` publishes a well-formed configuration or none, and gives
the file no other content than the text of one. -/
theorem Shared.mutate_wellFormed {τ : Type} (shared : Shared) (toml : Toml) (edit : Edit τ)
    (outcomes : Outcomes) (disk : Disk) (original : Content)
    (running : shared.config.WellFormed) (before : Written toml original disk) :
    (shared.mutate toml edit outcomes disk).shared.config.WellFormed ∧
      ∀ passed ∈ (shared.mutate toml edit outcomes disk).fs.states,
        Written toml original passed := by
  have untouched := written_start before
  unfold mutate
  split
  · exact ⟨running, untouched⟩
  · rename_i out next edited
    split
    · exact ⟨running, untouched⟩
    · rename_i valid
      have written := (save_effect toml shared.path next outcomes (.start disk)).written before
      split
      · rename_i failure fs saved
        rw [saved] at written
        exact ⟨running, written⟩
      · rename_i fs saved
        rw [saved] at written
        exact ⟨next.validate_ok_iff.mp valid, written⟩

/-- When seeding reports no change, the configuration is the loaded one. -/
theorem Cmd.seed_unchanged (cmd : Cmd) (config : Config) (unchanged : (cmd.seed config).2 = false) :
    (cmd.seed config).1 = config := by
  cases cmd with
  | serve tcp udp allow admin =>
    obtain ⟨before, peers⟩ := seedMissing_unchanged _ _ config.serve.peers _ allow unchanged
    obtain ⟨earlier, udpOffers⟩ := seedMissing_unchanged _ _ _ _ udp before
    obtain ⟨_, tcpOffers⟩ := seedMissing_unchanged _ _ config.serve.shared _ tcp earlier
    have shared : (seedOffers .udp (seedOffers .tcp (config.serve.shared, false) tcp) udp).1 =
        config.serve.shared := udpOffers.trans tcpOffers
    have listed : (seedPeers (config.serve.peers,
        (seedOffers .udp (seedOffers .tcp (config.serve.shared, false) tcp) udp).2) allow).1 =
          config.serve.peers := peers
    simp only [Cmd.seed, Config.seedFromFlags, shared, listed]
  | connect tcp udp admin =>
    obtain ⟨before, udpMaps⟩ := seedMissing_unchanged _ _ _ _ udp unchanged
    obtain ⟨_, tcpMaps⟩ := seedMissing_unchanged _ _ config.connect.bindings _ tcp before
    have bound : (seedMaps .udp (seedMaps .tcp (config.connect.bindings, false) tcp) udp).1 =
        config.connect.bindings := udpMaps.trans tcpMaps
    simp only [Cmd.seed, Config.seedBindings, bound]

/-- Loading and seeding give a well-formed configuration: a loaded one is checked,
and one that the flags changed is checked by its save. -/
theorem loadSeeded_wellFormed (toml : Toml) (cmd : Cmd) (path : ConfigPath) (outcomes : Outcomes)
    (disk : Disk) (config : Config) (fs : Fs)
    (seeded : loadSeeded toml cmd path outcomes disk = (.ok config, fs)) :
    config.WellFormed ∧ ∀ passed ∈ fs.states, Written toml disk.file passed := by
  have untouched : ∀ passed ∈ (Fs.start disk).states, Written toml disk.file passed :=
    written_start (Or.inl rfl)
  unfold loadSeeded at seeded
  split at seeded
  · cases (Prod.mk.inj seeded).1
  · rename_i loaded found
    have loadedWellFormed : loaded.WellFormed := load_wellFormed toml path disk loaded found
    cases changed : (cmd.seed loaded).2 with
    | false =>
      simp only [changed, Bool.false_eq_true, if_false, Prod.mk.injEq, Except.ok.injEq,
        cmd.seed_unchanged loaded changed] at seeded
      obtain ⟨rfl, rfl⟩ := seeded
      exact ⟨loadedWellFormed, untouched⟩
    | true =>
      simp only [changed, if_true, Prod.mk.injEq] at seeded
      obtain ⟨returned, rfl⟩ := seeded
      have effect := save_effect toml path (cmd.seed loaded).1 outcomes (.start disk)
      cases result : (save toml path (cmd.seed loaded).1 outcomes (.start disk)).1 with
      | error failure =>
        rw [result] at returned
        cases returned
      | ok _ =>
        rw [result] at returned
        obtain rfl : (cmd.seed loaded).1 = config := Except.ok.inj returned
        exact ⟨(effect.saved result).1, effect.written (Or.inl rfl)⟩

/-- The startup reaches a shared state only with a well-formed configuration. -/
theorem start_wellFormed (toml : Toml) (cmd : Cmd) (path : ConfigPath) (outcomes : Outcomes)
    (endpointBound : Fallible Unit) (now : Instant) (disk : Disk) (shared : Shared) (fs : Fs)
    (started : start toml cmd path outcomes endpointBound now disk = (.ok shared, fs)) :
    (History.begin shared fs).WellFormed toml disk.file := by
  unfold start at started
  split at started
  · cases (Prod.mk.inj started).1
  · rename_i config seededFs seeded
    obtain ⟨wellFormed, written⟩ :=
      loadSeeded_wellFormed toml cmd path outcomes disk config seededFs seeded
    split at started
    · cases (Prod.mk.inj started).1
    · obtain ⟨returned, rfl⟩ := Prod.mk.inj started
      cases endpointBound with
      | error failure => cases returned
      | ok _ =>
        obtain rfl : Shared.new config path cmd.role now = shared := Except.ok.inj returned
        refine ⟨wellFormed, ?_, written _ List.mem_cons_self, written⟩
        intro published member
        obtain rfl : published = config := List.mem_singleton.mp member
        exact wellFormed

/-- Whatever is done with a request, it leaves a well-formed snapshot and no other
contents of the file than texts of well-formed configurations. -/
theorem route_wellFormed (layers : Layers) (admin : Admin) (req : Request) (now : Instant)
    (outcomes : Outcomes) (disk : Disk) (original : Content)
    (running : admin.shared.config.WellFormed) (before : Written layers.toml original disk) :
    (route layers admin req now outcomes disk).shared.config.WellFormed ∧
      ∀ passed ∈ (route layers admin req now outcomes disk).fs.states,
        Written layers.toml original passed := by
  have untouched := written_start before
  unfold route
  split
  · exact ⟨running, untouched⟩
  · exact ⟨running, untouched⟩
  · rename_i handled reached
    cases handled with
    | error failure => exact ⟨running, untouched⟩
    | ok edit =>
      have mutated := admin.shared.mutate_wellFormed layers.toml edit outcomes disk original
        running before
      simp only [submit]
      split <;> exact mutated

/-- The step lemma: a request leaves a well-formed history well formed. -/
theorem History.serve_wellFormed (layers : Layers) (original : Content) (history : History)
    (arrival : Arrival) (wellFormed : history.WellFormed layers.toml original) :
    (history.serve layers arrival).WellFormed layers.toml original := by
  obtain ⟨running, written⟩ := route_wellFormed layers
    { shared := history.shared, token := arrival.token, id := arrival.id } arrival.req arrival.now
    arrival.outcomes history.disk original wellFormed.current wellFormed.onDisk
  refine ⟨running, ?_, written _ List.mem_cons_self, ?_⟩
  · intro config member
    rcases List.mem_cons.mp member with rfl | earlier
    · exact running
    · exact wellFormed.published config earlier
  · intro disk member
    rcases List.mem_append.mp member with passed | earlier
    · exact written disk passed
    · exact wellFormed.disks disk earlier

/-- Through every sequence of requests a well-formed history stays well formed. -/
theorem History.serveAll_wellFormed (layers : Layers) (original : Content) (history : History)
    (arrivals : List Arrival) (wellFormed : history.WellFormed layers.toml original) :
    (arrivals.foldl (History.serve layers) history).WellFormed layers.toml original := by
  induction arrivals generalizing history with
  | nil => exact wellFormed
  | cons arrival rest inductionHypothesis =>
    exact inductionHypothesis _ (history.serve_wellFormed layers original arrival wellFormed)

/-- Validation accepts exactly the well-formed configurations, and from every
startup that gets as far as the shared state, through every sequence of admin
requests, each published snapshot and each content given to the file is well
formed. -/
theorem every_configuration_wellFormed (layers : Layers) (cmd : Cmd) (path : ConfigPath)
    (outcomes : Outcomes) (endpointBound : Fallible Unit) (now : Instant) (disk : Disk)
    (shared : Shared) (fs : Fs)
    (started : start layers.toml cmd path outcomes endpointBound now disk = (.ok shared, fs))
    (arrivals : List Arrival) :
    (∀ config : Config, config.validate = .ok () ↔ config.WellFormed) ∧
      (arrivals.foldl (History.serve layers) (History.begin shared fs)).WellFormed layers.toml
        disk.file := by
  refine ⟨Config.validate_ok_iff, ?_⟩
  have initially : (History.begin shared fs).WellFormed layers.toml disk.file :=
    start_wellFormed layers.toml cmd path outcomes endpointBound now disk shared fs started
  exact History.serveAll_wellFormed layers disk.file _ arrivals initially

/-- A cold start with an admin surface, and a request that offers a port. -/
theorem cold_start_wellFormed :
    let shared := Shared.new Config.default (configPath "/var/lib/rtun") .serve 0
    let arrival : Arrival :=
      { token := "5c3e", id := "", req := basicCredentialsPost, now := 1, outcomes := .success }
    let history := (History.begin shared (.start { file := .missing, tmp := none })).serve
      sampleLayers arrival
    history.WellFormed sampleLayers.toml .missing ∧
      history.shared.config.serve.shared.map Offer.key = [(.tcp, 22)] := by
  constructor
  · exact (every_configuration_wellFormed sampleLayers (.serve [] [] [] (some "7000"))
      (configPath "/var/lib/rtun") .success (.ok ()) 0 { file := .missing, tmp := none } _ _ rfl
      [{ token := "5c3e", id := "", req := basicCredentialsPost, now := 1, outcomes := .success }]).2
  · rfl

end Rtun
