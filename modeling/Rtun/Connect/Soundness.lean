import Rtun.Connect.Forwarders

/-!
# What every run of the forwarders keeps

Each generation has a table of its own, whose log only grows. A datagram in flight is
framed with the id that the log of its generation has for its source and port, as long
as no counter has wrapped. Nothing relates the ids of two generations.
-/

namespace Rtun.Connect

open Framing

/-- Generations are added and their logs grow; nothing is taken back. -/
def Grows (before after : List Generation) : Prop :=
  ∀ (index : Nat) (generation : Generation), before[index]? = some generation →
    ∃ later added, after[index]? = some later ∧ later.log = generation.log ++ added

/-- No counter has wrapped: each table has opened fewer than 2^32 sessions. -/
def FewSessions (generations : List Generation) : Prop :=
  ∀ generation ∈ generations, generation.log.length < UInt32.size

instance (generations : List Generation) : Decidable (FewSessions generations) :=
  inferInstanceAs (Decidable (∀ generation ∈ generations, generation.log.length < UInt32.size))

/-- The datagram carries the id that its generation has logged for its source and
for the port that it names. -/
def Framed (generations : List Generation) (bytes : Bytes) (origin : Origin) : Prop :=
  ∃ id payload generation, decodeDatagram bytes = some (id, origin.mapped, payload) ∧
    generations[origin.generation]? = some generation ∧
    keyOf generation.log id = some (origin.src, origin.mapped)

/-- Nothing new is the least that can be added. -/
theorem Grows.refl (generations : List Generation) : Grows generations generations :=
  fun _ generation present => ⟨generation, [], present, (List.append_nil _).symm⟩

/-- Replacing a generation by one with a longer log. -/
theorem Grows.set (generations : List Generation) (index : Nat) (before after : Generation)
    (added : List Key) (present : generations[index]? = some before)
    (longer : after.log = before.log ++ added) : Grows generations (generations.set index after) := by
  intro other generation found
  by_cases same : other = index
  · subst same
    obtain rfl : before = generation := Option.some.inj (present.symm.trans found)
    exact ⟨after, added, Slots.get_set_self _ _ _ _ present, longer⟩
  · exact ⟨generation, [], (Slots.get_set_iff _ _ _ _ _ _ present).mpr (Or.inr ⟨same, found⟩),
      (List.append_nil _).symm⟩

/-- Every step lets the generations grow. -/
theorem effect_grows {checks : Bool} {state next : State} {action : Action}
    (effect : Effect checks state action next) : Grows state.generations next.generations := by
  cases effect with
  | quiet _ _ generations => exact generations ▸ Grows.refl _
  | respawned _ _ _ generations =>
    intro index generation found
    refine ⟨{ generation with told := true }, [], ?_, (List.append_nil _).symm⟩
    rw [generations]
    exact (Slots.get_push_iff _ _ _ _).mpr (Or.inl (by simp [found]))
  | calmed _ _ index before after present calms generations =>
    rw [generations]
    exact Grows.set _ _ before after [] present (by rw [calms.log, List.append_nil])
  | received index handle generation forwarder src payload _ present listed generations =>
    rw [generations]
    exact Grows.set _ _ generation _ [] present (List.append_nil _).symm
  | forwarded index handle _ generation forwarder origin _ _ _ _ present _ _ _ generations =>
    rw [generations]
    by_cases known : (generation.sessions.byKey.lookup
        (origin.src, forwarder.map.remotePort)).isSome = true
    · exact Grows.set _ _ generation _ [] present (by simp [logAfter, known])
    · exact Grows.set _ _ generation _ [(origin.src, forwarder.map.remotePort)] present
        (by simp [logAfter, known])
  | got index generation _ _ _ present generations =>
    rw [generations]
    exact Grows.set _ _ generation _ [] present (List.append_nil _).symm
  | routed index generation _ _ _ _ _ _ _ _ _ present _ _ _ generations =>
    rw [generations]
    exact Grows.set _ _ generation _ [] present (List.append_nil _).symm
  | handedOver index _ generation _ _ _ _ _ present _ generations =>
    rw [generations]
    exact Grows.set _ _ generation _ [] present (List.append_nil _).symm

/-- If no counter has wrapped later, none has wrapped before. -/
theorem FewSessions.before {before after : List Generation} (few : FewSessions after)
    (grows : Grows before after) : FewSessions before := by
  intro generation member
  obtain ⟨index, present⟩ := List.getElem?_of_mem member
  obtain ⟨later, added, found, longer⟩ := grows index generation present
  have bound : later.log.length < UInt32.size := few later (List.mem_of_getElem? found)
  rw [longer, List.length_append] at bound
  omega

/-- A framed datagram stays framed. -/
theorem Framed.later {before after : List Generation} {bytes : Bytes} {origin : Origin}
    (framed : Framed before bytes origin) (grows : Grows before after) :
    Framed after bytes origin := by
  obtain ⟨id, payload, generation, decoded, present, known⟩ := framed
  obtain ⟨later, added, found, longer⟩ := grows origin.generation generation present
  refine ⟨id, payload, later, decoded, found, ?_⟩
  rw [longer]
  exact keyOf_append generation.log added id _ known

/-- Two datagrams of one generation with one id have one source and name one
port. -/
theorem Framed.unique {generations : List Generation} {bytes other : Bytes}
    {origin source : Origin} (framed : Framed generations bytes origin)
    (framed' : Framed generations other source) (same : origin.generation = source.generation)
    {id : UInt32} {port port' : UInt16} {payload payload' : Bytes}
    (decoded : decodeDatagram bytes = some (id, port, payload))
    (decoded' : decodeDatagram other = some (id, port', payload')) :
    origin.src = source.src ∧ port = port' := by
  obtain ⟨_, _, generation, header, present, known⟩ := framed
  obtain ⟨_, _, generation', header', present', known'⟩ := framed'
  rw [decoded, Option.some.injEq, Prod.mk.injEq, Prod.mk.injEq] at header
  rw [decoded', Option.some.injEq, Prod.mk.injEq, Prod.mk.injEq] at header'
  obtain ⟨rfl, rfl, _⟩ := header
  obtain ⟨rfl, rfl, _⟩ := header'
  rw [same, present'] at present
  cases present
  rw [known'] at known
  obtain ⟨sameSrc, samePort⟩ := Prod.mk.inj (Option.some.inj known)
  exact ⟨sameSrc.symm, samePort.symm⟩

/-- The invariant of every run in which no counter wraps. -/
structure Sound (state : State) : Prop where
  logged : ∀ (index : Nat) (generation : Generation), state.generations[index]? = some generation →
    generation.sessions.Logged generation.log
  held : ∀ (index : Nat) (generation : Generation) (handle : Nat) (forwarder : Forwarder),
    state.generations[index]? = some generation →
    generation.forwarders[handle]? = some forwarder →
    ∀ origin payload, forwarder.stage = .received origin payload →
      origin.generation = index ∧ origin.mapped = forwarder.map.remotePort
  outbox : ∀ sent ∈ state.outbox, Framed state.generations sent.1 sent.2

/-- What was spawned has received nothing yet. -/
theorem spawned_receiving (listeners : Listeners) (handle : Nat) (forwarder : Forwarder)
    (listed : (spawnForwarders listeners).forwarders[handle]? = some forwarder) :
    forwarder.stage = .receiving := by
  simp only [spawnForwarders, List.getElem?_map, Option.map_eq_some_iff] at listed
  obtain ⟨_, _, rfl⟩ := listed
  rfl

/-- In the beginning there is one generation, with an empty table, no forwarders
and nothing under way. -/
theorem sound_initial (channel : Watch.Channel Config) (receiver : Watch.Receiver)
    (listeners : Listeners) (runtime : Runtime) (now : Instant) :
    Sound (initial channel receiver listeners runtime now) := by
  have only (index : Nat) (generation : Generation)
      (present : [spawnForwarders listeners][index]? = some generation) :
      generation = spawnForwarders listeners := by
    have member := List.mem_of_getElem? present
    exact List.mem_singleton.mp member
  refine ⟨?_, ?_, fun sent member => absurd member List.not_mem_nil⟩
  · intro index generation present
    rw [only index generation present]
    exact logged_empty
  · intro index generation handle forwarder present listed origin payload stage
    rw [only index generation present] at listed
    rw [spawned_receiving listeners handle forwarder listed] at stage
    cases stage

/-- What a step makes of one generation. -/
inductive Becomes (checks : Bool) (state : State) (index : Nat) (before : Generation) :
    Action → Generation → Prop where
  | same (action : Action) : Becomes checks state index before action before
  | told : Becomes checks state index before .respawn { before with told := true }
  | calmed (action : Action) (after : Generation) (calms : Calms state.now before after) :
      Becomes checks state index before action after
  | received (handle : Nat) (forwarder : Forwarder) (src : SocketAddr) (payload : Bytes)
      (listed : before.forwarders[handle]? = some forwarder) :
      Becomes checks state index before (.receive index handle src payload) { before with
        forwarders := before.forwarders.set handle { forwarder with
          stage := .received
            { generation := index, src, mapped := forwarder.map.remotePort,
              bound := state.listeners.remoteOf forwarder.sock forwarder.map.localPort } payload } }
  | forwarded (handle : Nat) (accepted : Bool) (forwarder : Forwarder) (origin : Origin)
      (id : UInt32) (sessions : Sessions) (listed : before.forwarders[handle]? = some forwarder)
      (minted : before.sessions.idFor checks origin.src forwarder.map.remotePort forwarder.sock
        state.now = some (id, sessions)) :
      Becomes checks state index before (.forward index handle accepted) { before with
        sessions,
        log := logAfter before.sessions before.log (origin.src, forwarder.map.remotePort),
        forwarders := before.forwarders.set handle { forwarder with stage := .receiving } }
  | got (bytes : Bytes) (via : Nat) :
      Becomes checks state index before (.read index bytes via)
        { before with inbound := .got bytes via }
  | routed (bytes : Bytes) (via : Nat) (id : UInt32) (port : UInt16) (payload : Bytes) (sock : Nat)
      (src : SocketAddr) (sessions : Sessions) (held : before.inbound = .got bytes via)
      (decoded : decodeDatagram bytes = some (id, port, payload))
      (route : before.sessions.replyRoute id state.now = some ((sock, src), sessions)) :
      Becomes checks state index before (.route index)
        { before with sessions, inbound := .routed sock src payload via }
  | handedOver (delivered : Bool) :
      Becomes checks state index before (.handOver index delivered)
        { before with inbound := .reading }

/-- Every generation of the next state comes from one of this state, or was just
spawned. -/
theorem generation_origin {checks : Bool} {state next : State} {action : Action}
    (effect : Effect checks state action next) (index : Nat) (generation : Generation)
    (present : next.generations[index]? = some generation) :
    (∃ before, state.generations[index]? = some before ∧
        Becomes checks state index before action generation) ∨
      generation = spawnForwarders state.listeners := by
  -- One generation becomes another, and the rest stay the same.
  have replaced (at' : Nat) (before after : Generation)
      (known : state.generations[at']? = some before)
      (generations : next.generations = state.generations.set at' after)
      (becomes : Becomes checks state at' before action after) :
      ∃ before, state.generations[index]? = some before ∧
        Becomes checks state index before action generation := by
    rw [generations] at present
    rcases (Slots.get_set_iff _ _ _ _ _ _ known).mp present with ⟨rfl, rfl⟩ | ⟨_, same⟩
    · exact ⟨before, known, becomes⟩
    · exact ⟨generation, same, .same _⟩
  cases effect with
  | quiet _ _ generations => exact Or.inl ⟨generation, generations ▸ present, .same _⟩
  | respawned _ _ _ generations =>
    rw [generations] at present
    rcases (Slots.get_push_iff _ _ _ _).mp present with mapped | ⟨_, rfl⟩
    · rw [List.getElem?_map, Option.map_eq_some_iff] at mapped
      obtain ⟨before, known, rfl⟩ := mapped
      exact Or.inl ⟨before, known, .told⟩
    · exact Or.inr rfl
  | calmed _ _ at' before after known calms generations =>
    exact Or.inl (replaced at' before after known generations (.calmed _ after calms))
  | received at' handle before forwarder src payload _ known listed generations =>
    exact Or.inl (replaced at' before _ known generations
      (.received handle forwarder src payload listed))
  | forwarded at' handle accepted before forwarder origin _ id sessions _ known listed _ minted
      generations =>
    exact Or.inl (replaced at' before _ known generations
      (.forwarded handle accepted forwarder origin id sessions listed minted))
  | got at' before bytes via _ known generations =>
    exact Or.inl (replaced at' before _ known generations (.got bytes via))
  | routed at' before bytes via id port payload sock src sessions _ known held decoded route
      generations =>
    exact Or.inl (replaced at' before _ known generations
      (.routed bytes via id port payload sock src sessions held decoded route))
  | handedOver at' delivered before _ _ _ _ _ known _ generations =>
    exact Or.inl (replaced at' before _ known generations (.handedOver delivered))

/-- A forwarder that holds a datagram held it before, or has just received it. -/
theorem held_origin {checks : Bool} {state next : State} {action : Action}
    (effect : Effect checks state action next) (index : Nat) (generation : Generation)
    (present : next.generations[index]? = some generation) (handle : Nat) (forwarder : Forwarder)
    (listed : generation.forwarders[handle]? = some forwarder) (origin : Origin) (payload : Bytes)
    (stage : forwarder.stage = .received origin payload) :
    (∃ before, state.generations[index]? = some before ∧
        before.forwarders[handle]? = some forwarder) ∨
      action = .receive index handle origin.src payload ∧ origin.generation = index ∧
        origin.mapped = forwarder.map.remotePort ∧
        ∃ before receiver, state.generations[index]? = some before ∧
          before.forwarders[handle]? = some receiver ∧ receiver.map = forwarder.map ∧
          origin.bound = state.listeners.remoteOf receiver.sock receiver.map.localPort := by
  rcases generation_origin effect index generation present with ⟨before, known, becomes⟩ | rfl
  · cases becomes with
    | calmed _ after calms =>
      rcases calms.forwarders handle forwarder listed with stays | finished
      · exact Or.inl ⟨before, known, stays⟩
      · cases finished.symm.trans stage
    | received slot receiver src bytes there =>
      rcases (Slots.get_set_iff _ _ _ _ _ _ there).mp listed with ⟨rfl, rfl⟩ | ⟨_, other⟩
      · obtain ⟨rfl, rfl⟩ := Forwarding.received.inj stage
        exact Or.inr ⟨rfl, rfl, rfl, before, receiver, known, there, rfl, rfl⟩
      · exact Or.inl ⟨before, known, other⟩
    | forwarded slot _ sender _ _ _ there =>
      rcases (Slots.get_set_iff _ _ _ _ _ _ there).mp listed with ⟨_, rfl⟩ | ⟨_, other⟩
      · cases stage
      · exact Or.inl ⟨before, known, other⟩
    | _ => exact Or.inl ⟨_, known, listed⟩
  · cases (spawned_receiving _ handle forwarder listed).symm.trans stage

/-- A datagram in flight was sent before, or a forwarder that held it has just
framed it with the id that the table of its generation gave it. -/
theorem outbox_origin {checks : Bool} {state next : State} {action : Action}
    (effect : Effect checks state action next) (sent : Bytes × Origin)
    (member : sent ∈ next.outbox) :
    sent ∈ state.outbox ∨
      ∃ (index : Nat) (before after : Generation) (handle : Nat) (forwarder : Forwarder)
        (payload : Bytes) (id : UInt32) (sessions : Sessions),
        state.generations[index]? = some before ∧ before.forwarders[handle]? = some forwarder ∧
          forwarder.stage = .received sent.2 payload ∧
          before.sessions.idFor checks sent.2.src forwarder.map.remotePort forwarder.sock state.now =
            some (id, sessions) ∧
          next.generations[index]? = some after ∧
          after.log = logAfter before.sessions before.log
            (sent.2.src, forwarder.map.remotePort) ∧
          sent.1 = encodeDatagram id forwarder.map.remotePort payload := by
  cases effect with
  | quiet _ _ _ outbox => exact Or.inl (outbox ▸ member)
  | respawned _ outbox => exact Or.inl (outbox ▸ member)
  | calmed _ _ _ _ _ _ _ _ outbox => exact Or.inl (outbox ▸ member)
  | received _ _ _ _ _ _ _ _ _ _ outbox => exact Or.inl (outbox ▸ member)
  | got _ _ _ _ _ _ _ outbox => exact Or.inl (outbox ▸ member)
  | routed _ _ _ _ _ _ _ _ _ _ _ _ _ _ _ _ outbox => exact Or.inl (outbox ▸ member)
  | handedOver _ _ _ _ _ _ _ _ _ _ _ outbox => exact Or.inl (outbox ▸ member)
  | forwarded index handle accepted before forwarder origin payload id sessions _ known listed stage
      minted generations outbox =>
    rw [outbox] at member
    rcases List.mem_append.mp member with earlier | added
    · exact Or.inl earlier
    · cases accepted with
      | false => exact absurd added List.not_mem_nil
      | true =>
        obtain rfl := List.mem_singleton.mp added
        have found := Slots.get_set_self state.generations index before { before with
          sessions,
          log := logAfter before.sessions before.log (origin.src, forwarder.map.remotePort),
          forwarders := before.forwarders.set handle { forwarder with stage := .receiving } } known
        rw [← generations] at found
        exact Or.inr ⟨index, before, _, handle, forwarder, payload, id, sessions, known, listed,
          stage, minted, found, rfl, rfl⟩

namespace Sound

variable {checks : Bool} {state next : State} {action : Action}

/-- The table of a generation follows its log as long as the counter does not
wrap: `id_for` extends the log, and nothing else touches the ids. -/
theorem logged_step (sound : Sound state) (effect : Effect checks state action next)
    (few : FewSessions next.generations) (index : Nat) (generation : Generation)
    (present : next.generations[index]? = some generation) :
    generation.sessions.Logged generation.log := by
  rcases generation_origin effect index generation present with ⟨before, known, becomes⟩ | rfl
  · have logged : before.sessions.Logged before.log := sound.logged index before known
    cases becomes with
    | calmed _ after calms =>
      rw [calms.log]
      rcases calms.sessions with same | reaped
      · rw [same]
        exact logged
      · rw [reaped]
        exact logged.reap state.now
    | forwarded _ _ _ _ _ _ _ minted =>
      exact (logged.idFor (few _ (List.mem_of_getElem? present)) minted).1
    | routed _ _ _ _ _ _ _ _ _ _ route => exact (logged.replyRoute route).1
    | _ => exact logged
  · exact logged_empty

/-- A forwarder holds what it has received itself, which is mapped to the remote
port that it was spawned with. -/
theorem held_step (sound : Sound state) (effect : Effect checks state action next) (index : Nat)
    (generation : Generation) (handle : Nat) (forwarder : Forwarder)
    (present : next.generations[index]? = some generation)
    (listed : generation.forwarders[handle]? = some forwarder) (origin : Origin) (payload : Bytes)
    (stage : forwarder.stage = .received origin payload) :
    origin.generation = index ∧ origin.mapped = forwarder.map.remotePort := by
  rcases held_origin effect index generation present handle forwarder listed origin payload stage with
    ⟨before, known, there⟩ | ⟨_, own, mapped, _⟩
  · exact sound.held index before handle forwarder known there origin payload stage
  · exact ⟨own, mapped⟩

/-- A frame is put out with the id that the log of its generation has for the key,
and generations only grow, so that stays true of it. -/
theorem outbox_step (sound : Sound state) (effect : Effect checks state action next)
    (few : FewSessions next.generations) (sent : Bytes × Origin) (member : sent ∈ next.outbox) :
    Framed next.generations sent.1 sent.2 := by
  rcases outbox_origin effect sent member with
    earlier | ⟨index, before, after, handle, forwarder, payload, id, sessions, known, listed, stage,
      minted, found, log, bytes⟩
  · exact (sound.outbox sent earlier).later (effect_grows effect)
  · obtain ⟨own, mapped⟩ := sound.held index before handle forwarder known listed sent.2 payload stage
    have bound : (logAfter before.sessions before.log
        (sent.2.src, forwarder.map.remotePort)).length < UInt32.size :=
      log ▸ few after (List.mem_of_getElem? found)
    have key := ((sound.logged index before known).idFor bound minted).2
    refine ⟨id, payload, after, ?_, own ▸ found, ?_⟩
    · rw [mapped, bytes]
      exact decode_encode id forwarder.map.remotePort payload
    · rw [mapped, log]
      exact key

/-- The step lemma: every step after which no counter has wrapped keeps the
invariant. -/
theorem step (sound : Sound state) (effect : Effect checks state action next)
    (few : FewSessions next.generations) : Sound next where
  logged := sound.logged_step effect few
  held := sound.held_step effect
  outbox := sound.outbox_step effect few

end Sound

/-- A forwarder receives only on a listener whose binding still has the remote
port that the forwarder was spawned with. -/
def receivesWhereBound (state : State) (action : Action) : Bool :=
  match action with
  | .receive index handle _ _ =>
      ((state.generations[index]?).bind (fun generation => generation.forwarders[handle]?)).all
        (fun forwarder => state.listeners.remoteOf forwarder.sock forwarder.map.localPort ==
          some forwarder.map.remotePort)
  | _ => true

/-- The remote port that a datagram is sent to is that of its binding at its
reception. -/
def Origin.Current (origin : Origin) : Prop := origin.bound = some origin.mapped

/-- Every datagram that a forwarder holds or has sent was received where it was
bound. -/
structure Current (state : State) : Prop where
  held : ∀ (index : Nat) (generation : Generation) (handle : Nat) (forwarder : Forwarder),
    state.generations[index]? = some generation →
    generation.forwarders[handle]? = some forwarder →
    ∀ origin payload, forwarder.stage = .received origin payload → origin.Current
  outbox : ∀ sent ∈ state.outbox, sent.2.Current

/-- In the beginning nothing is held and nothing sent, so nothing has missed an
edit. -/
theorem current_initial (channel : Watch.Channel Config) (receiver : Watch.Receiver)
    (listeners : Listeners) (runtime : Runtime) (now : Instant) :
    Current (initial channel receiver listeners runtime now) := by
  refine ⟨?_, fun sent member => absurd member List.not_mem_nil⟩
  intro index generation handle forwarder present listed origin payload stage
  obtain rfl := List.mem_singleton.mp (List.mem_of_getElem? present)
  rw [spawned_receiving listeners handle forwarder listed] at stage
  cases stage

/-- The step lemma. -/
theorem Current.step {checks : Bool} {state next : State} {action : Action}
    (current : Current state) (condition : receivesWhereBound state action = true)
    (effect : Effect checks state action next) : Current next := by
  constructor
  · intro index generation handle forwarder present listed origin payload stage
    rcases held_origin effect index generation present handle forwarder listed origin payload stage
      with ⟨before, known, there⟩ | ⟨rfl, _, mapped, before, receiver, known, there, sameMap, bound⟩
    · exact current.held index before handle forwarder known there origin payload stage
    · have still : state.listeners.remoteOf receiver.sock receiver.map.localPort =
          some receiver.map.remotePort := by
        simpa [receivesWhereBound, known, there] using condition
      rw [Origin.Current, bound, still, mapped, sameMap]
  · intro sent member
    rcases outbox_origin effect sent member with
      earlier | ⟨index, before, _, handle, forwarder, payload, _, _, known, listed, stage, _⟩
    · exact current.outbox sent earlier
    · exact current.held index before handle forwarder known listed sent.2 payload stage

/-- `pump_udp_in` holds nothing. -/
def Inbound.free : Inbound → Prop
  | .got .. | .routed .. => False
  | _ => True

/-- What was spawned has read nothing yet. -/
theorem spawned_free (listeners : Listeners) : (spawnForwarders listeners).inbound.free := by
  simp only [spawnForwarders]
  split <;> trivial

/-- What `pump_udp_in` of a generation holds was held before, or has just been
read, or has just been routed by the table of the same generation. -/
theorem inbound_origin {checks : Bool} {state next : State} {action : Action}
    (effect : Effect checks state action next) (index : Nat) (generation : Generation)
    (present : next.generations[index]? = some generation) :
    (∃ before, state.generations[index]? = some before ∧ generation.inbound = before.inbound) ∨
      generation.inbound.free ∨
      (∃ bytes via, action = .read index bytes via ∧ generation.inbound = .got bytes via) ∨
      action = .route index ∧ ∃ before bytes via id port payload sock src sessions,
        state.generations[index]? = some before ∧ before.inbound = .got bytes via ∧
          decodeDatagram bytes = some (id, port, payload) ∧
          before.sessions.replyRoute id state.now = some ((sock, src), sessions) ∧
          generation.inbound = .routed sock src payload via := by
  rcases generation_origin effect index generation present with ⟨before, known, becomes⟩ | rfl
  · cases becomes with
    | calmed _ after calms =>
      rcases calms.inbound with stays | reads | finished
      · exact Or.inl ⟨before, known, stays⟩
      · exact Or.inr (Or.inl (by rw [reads]; trivial))
      · exact Or.inr (Or.inl (by rw [finished]; trivial))
    | got bytes via => exact Or.inr (Or.inr (Or.inl ⟨bytes, via, rfl, rfl⟩))
    | routed bytes via id port payload sock src sessions held decoded route =>
      exact Or.inr (Or.inr (Or.inr ⟨rfl, before, bytes, via, id, port, payload, sock, src, sessions,
        known, held, decoded, route, rfl⟩))
    | handedOver => exact Or.inr (Or.inl trivial)
    | _ => exact Or.inl ⟨_, known, rfl⟩
  · exact Or.inr (Or.inl (spawned_free state.listeners))

/-- A reply was handed over before, or a generation has just done so. -/
theorem handed_origin {checks : Bool} {state next : State} {action : Action}
    (effect : Effect checks state action next) (handed : Handed) (member : handed ∈ next.handed) :
    handed ∈ state.handed ∨ ∃ (index : Nat) (generation : Generation),
      state.generations[index]? = some generation ∧
        generation.inbound = .routed handed.sock handed.src handed.payload handed.via := by
  cases effect with
  | quiet _ _ _ _ same => exact Or.inl (same ▸ member)
  | respawned _ _ same => exact Or.inl (same ▸ member)
  | calmed _ _ _ _ _ _ _ _ _ same => exact Or.inl (same ▸ member)
  | received _ _ _ _ _ _ _ _ _ _ _ same => exact Or.inl (same ▸ member)
  | forwarded _ _ _ _ _ _ _ _ _ _ _ _ _ _ _ _ same => exact Or.inl (same ▸ member)
  | got _ _ _ _ _ _ _ _ same => exact Or.inl (same ▸ member)
  | routed _ _ _ _ _ _ _ _ _ _ _ _ _ _ _ _ _ same => exact Or.inl (same ▸ member)
  | handedOver index delivered generation sock src payload via _ known held _ _ handed' =>
    rw [handed'] at member
    rcases List.mem_append.mp member with earlier | added
    · exact Or.inl earlier
    · cases delivered with
      | false => exact absurd added List.not_mem_nil
      | true =>
        obtain rfl := List.mem_singleton.mp added
        exact Or.inr ⟨index, generation, known, held⟩

end Rtun.Connect
