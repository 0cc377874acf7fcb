import Rtun.Serve.Pump

/-!
# What every run of a served connection keeps

Where the sessions, sockets and reply tasks of the next state come from, and the
invariant that ties them together: a session under an id has a socket that was
opened for a datagram with that id, a socket carries only such datagrams, and each
datagram that is carried was admitted by the configuration consulted for it.

Nothing here relates the port of a datagram to the port of the socket that carries
it, except for the datagram that opened the socket.
-/

namespace Rtun.Serve

universe u
variable {τ : Type u}

open Framing Run

/-- The datagram that a socket was opened for. -/
def State.opener (state : State τ) (sock : Nat) : Option (Admitted τ) :=
  (state.sockets[sock]?).map Socket.opener

/-- The datagram that the pump holds after its check. -/
def Pump.datagram : Pump τ → Option (Admitted τ)
  | .granted datagram | .opening datagram | .spawned datagram _ _ | .sending datagram _ =>
      some datagram
  | _ => none

/-- The datagram decodes as recorded, and the configuration consulted grants its
port. -/
def Admitted.Valid (peer : EndpointId) (datagram : Admitted τ) : Prop :=
  decodeDatagram datagram.bytes = some (datagram.id, datagram.port, datagram.payload) ∧
    datagram.consulted.reaches peer .udp datagram.port = true

/-- What the check admits is valid: the datagram decodes, its port is granted to
the peer, and its bytes are those that were read. -/
theorem valid_of_consult (peer : EndpointId) (config : Config) (tag : τ) (bytes : Bytes)
    (datagram : Admitted τ) (passed : consult peer config tag bytes = some datagram) :
    datagram.Valid peer ∧ datagram.tag = tag ∧ datagram.bytes = bytes := by
  unfold consult at passed
  split at passed
  · cases passed
  · rename_i id port payload decoded
    split at passed
    · rename_i reached
      cases passed
      exact ⟨⟨decoded, reached⟩, rfl, rfl⟩
    · cases passed

/-- What is found after some reply tasks have been told to abort: the same tasks,
and those that were named are marked. -/
theorem abortAll_get (handles : List Nat) (replies : List Reply) (handle : Nat) :
    (abortAll handles replies)[handle]? = (replies[handle]?).map
      (fun reply => if handle ∈ handles then { reply with told := true } else reply) := by
  simp [abortAll]

/-- A session of the next state was there before, or it is the one being
inserted. -/
theorem session_origin {peer : EndpointId} {state next : State τ} {action : Action τ}
    (effect : Effect peer state action next) (id : UInt32) (session : Session)
    (present : next.sessions.lookup id = some session) :
    (∃ before, state.sessions.lookup id = some before ∧
        session = { before with last := session.last }) ∨
      ∃ datagram sock reply, state.pump = .spawned datagram sock reply ∧ id = datagram.id ∧
        session = { sock, reply, last := state.now, port := datagram.port } ∧
        next.pump = .sending datagram sock ∧ next.sockets = state.sockets := by
  cases effect with
  | quiet _ _ sessions => exact Or.inl ⟨session, sessions ▸ present, rfl⟩
  | found datagram known held =>
    exact Or.inl (Sessions.lookup_touched state.sessions datagram.id id state.now session present)
  | answered handle reply =>
    exact Or.inl (Sessions.lookup_touched state.sessions reply.id id state.now session present)
  | inserted datagram sock reply held =>
    simp only [State.insert, Table.lookup_insert_cases] at present
    by_cases same : id = datagram.id
    · rw [if_pos same] at present
      exact Or.inr ⟨datagram, sock, reply, held, same, (Option.some.inj present).symm, rfl, rfl⟩
    · rw [if_neg same] at present
      exact Or.inl ⟨session, present, rfl⟩
  | dropped _ keep =>
    simp only [State.retain, Table.lookup_retain, Option.filter_eq_some_iff] at present
    exact Or.inl ⟨session, present.1, rfl⟩
  | _ => exact Or.inl ⟨session, present, rfl⟩

/-- A socket of the next state was there before, perhaps carrying one datagram
more, or it has just been opened. -/
theorem socket_origin {peer : EndpointId} {state next : State τ} {action : Action τ}
    (effect : Effect peer state action next) (sock : Nat) (socket : Socket τ)
    (present : next.sockets[sock]? = some socket) :
    (∃ before, state.sockets[sock]? = some before ∧ socket.opener = before.opener ∧
        socket.port = before.port ∧
        (socket.carried = before.carried ∨
          ∃ datagram, state.pump = .sending datagram sock ∧
            socket.carried = before.carried ++ [datagram])) ∨
      ∃ datagram, state.pump = .opening datagram ∧
        socket = { port := datagram.port, opener := datagram, carried := [] } := by
  cases effect with
  | quiet _ _ _ sockets => exact Or.inl ⟨socket, sockets ▸ present, rfl, rfl, Or.inl rfl⟩
  | opened datagram held =>
    rcases (Slots.get_push_iff _ _ _ _).mp present with known | ⟨_, rfl⟩
    · exact Or.inl ⟨socket, known, rfl, rfl, Or.inl rfl⟩
    · exact Or.inr ⟨datagram, held, rfl⟩
  | delivered datagram index before held known =>
    rcases (Slots.get_set_iff _ _ _ _ _ _ known).mp present with ⟨rfl, rfl⟩ | ⟨_, other⟩
    · exact Or.inl ⟨before, known, rfl, rfl, Or.inr ⟨datagram, held, rfl⟩⟩
    · exact Or.inl ⟨socket, other, rfl, rfl, Or.inl rfl⟩
  | _ => exact Or.inl ⟨socket, present, rfl, rfl, Or.inl rfl⟩

/-- A reply task of the next state was there before, or it has just been
spawned. -/
theorem reply_origin {peer : EndpointId} {state next : State τ} {action : Action τ}
    (effect : Effect peer state action next) (handle : Nat) (reply : Reply)
    (present : next.replies[handle]? = some reply) :
    (∃ before, state.replies[handle]? = some before ∧
        reply = { before with stage := reply.stage, told := reply.told }) ∨
      ∃ datagram, state.pump = .opening datagram ∧
        next.opener state.sockets.length = some datagram ∧
        reply = { sock := state.sockets.length, id := datagram.id, port := datagram.port,
                  stage := .receiving, told := false } := by
  have advanced (index : Nat) (old : Reply) (stage : Stage) (known : state.replies[index]? = some old)
      (found : (state.replies.set index { old with stage })[handle]? = some reply) :
      ∃ before, state.replies[handle]? = some before ∧
        reply = { before with stage := reply.stage, told := reply.told } := by
    rcases (Slots.get_set_iff _ _ _ _ _ _ known).mp found with ⟨rfl, rfl⟩ | ⟨_, other⟩
    · exact ⟨old, known, rfl⟩
    · exact ⟨reply, other, rfl⟩
  have aborted (handles : List Nat)
      (found : (abortAll handles state.replies)[handle]? = some reply) :
      ∃ before, state.replies[handle]? = some before ∧
        reply = { before with stage := reply.stage, told := reply.told } := by
    rw [abortAll_get, Option.map_eq_some_iff] at found
    obtain ⟨before, known, rfl⟩ := found
    refine ⟨before, known, ?_⟩
    split <;> rfl
  cases effect with
  | quiet _ _ _ _ replies => exact Or.inl ⟨reply, replies ▸ present, rfl⟩
  | opened datagram held =>
    rcases (Slots.get_push_iff _ _ _ _).mp present with known | ⟨_, rfl⟩
    · exact Or.inl ⟨reply, known, rfl⟩
    · exact Or.inr ⟨datagram, held, by simp [State.opener], rfl⟩
  | inserted => exact Or.inl (aborted _ present)
  | dropped => exact Or.inl (aborted _ present)
  | received index old payload known => exact Or.inl (advanced index old _ known present)
  | failed index old known => exact Or.inl (advanced index old _ known present)
  | answered index old payload accepted known => exact Or.inl (advanced index old _ known present)
  | ended index old known => exact Or.inl (advanced index old _ known present)
  | _ => exact Or.inl ⟨reply, present, rfl⟩

/-- A socket keeps the datagram it was opened for. The record is never
overwritten, so it can be referred to at any later time. -/
theorem opener_kept {peer : EndpointId} {state next : State τ} {action : Action τ}
    (effect : Effect peer state action next) (sock : Nat) (datagram : Admitted τ)
    (opened : state.opener sock = some datagram) : next.opener sock = some datagram := by
  obtain ⟨socket, present, rfl⟩ := Option.map_eq_some_iff.mp opened
  cases effect with
  | quiet _ _ _ sockets => simp [State.opener, sockets, present]
  | opened added held =>
    have stays : (state.sockets ++ [{ port := added.port, opener := added, carried := [] }])[sock]? =
        some socket := (Slots.get_push_iff _ _ _ _).mpr (Or.inl present)
    simp [State.opener, stays]
  | delivered sent index before held known =>
    by_cases same : sock = index
    · subst same
      obtain rfl : socket = before := Option.some.inj (present.symm.trans known)
      simp [State.opener, Slots.get_set_self _ _ _ _ known]
    · have stays := (Slots.get_set_iff state.sockets index sock before
        { before with carried := before.carried ++ [sent] } socket known).mpr (Or.inr ⟨same, present⟩)
      simp [State.opener, stays]
  | _ => exact opened

/-- A pump that stayed where it was or holds nothing holds what it held before, so
nothing new has to be shown of it. -/
theorem Pump.datagram_of_settled (before after : Pump τ) (datagram : Admitted τ)
    (settled : after = before ∨ after.idle) (held : after.datagram = some datagram) :
    after = before := by
  rcases settled with same | idle
  · exact same
  · cases after <;> simp [Pump.datagram] at held <;> exact idle.elim

/-- The datagram that the pump holds was held before, or has just passed the
check. -/
theorem datagram_origin {peer : EndpointId} {state next : State τ} {action : Action τ}
    (effect : Effect peer state action next) (datagram : Admitted τ)
    (held : next.pump.datagram = some datagram) :
    state.pump.datagram = some datagram ∨ ∃ tag bytes, state.pump = .received tag bytes ∧
      consult peer state.channel.value tag bytes = some datagram := by
  cases effect with
  | quiet _ _ _ _ _ _ _ settled =>
    have same := Pump.datagram_of_settled state.pump next.pump datagram settled held
    exact Or.inl (same ▸ held)
  | admitted tag bytes admitted was passed =>
    obtain rfl : admitted = datagram := Option.some.inj held
    exact Or.inr ⟨tag, bytes, was, passed⟩
  | dropped _ _ pump _ settled =>
    have same := Pump.datagram_of_settled state.pump pump datagram settled held
    exact Or.inl (same ▸ held)
  | read | delivered => cases held
  | found _ _ was | missing _ was | opened _ was | inserted _ _ _ was =>
    exact Or.inl (by rw [was]; exact held)
  | _ => exact Or.inl held

/-- A datagram whose socket waits to be inserted waited before, or the socket was
opened for it just now. -/
theorem spawned_origin {peer : EndpointId} {state next : State τ} {action : Action τ}
    (effect : Effect peer state action next) {datagram : Admitted τ} {sock reply : Nat}
    (held : next.pump = .spawned datagram sock reply) :
    state.pump = .spawned datagram sock reply ∨ next.opener sock = some datagram := by
  have holds : next.pump.datagram = some datagram := by
    rw [held]
    rfl
  cases effect with
  | quiet _ _ _ _ _ _ _ settled =>
    exact Or.inl ((Pump.datagram_of_settled _ _ datagram settled holds).symm.trans held)
  | dropped _ _ pump _ settled =>
    exact Or.inl ((Pump.datagram_of_settled _ _ datagram settled holds).symm.trans held)
  | opened added was =>
    obtain ⟨rfl, rfl, rfl⟩ : added = datagram ∧ state.sockets.length = sock ∧
        state.replies.length = reply := by simpa using held
    exact Or.inr (by simp [State.opener])
  | read | admitted | found | missing | inserted | delivered => cases held
  | _ => exact Or.inl held

/-- A datagram that is about to be sent was so before, or has found the session of
its id, or its own socket has just been inserted. -/
theorem sending_origin {peer : EndpointId} {state next : State τ} {action : Action τ}
    (effect : Effect peer state action next) {datagram : Admitted τ} {sock : Nat}
    (held : next.pump = .sending datagram sock) :
    state.pump = .sending datagram sock ∨
      (∃ session, action = .touch ∧ state.pump = .granted datagram ∧
        state.sessions.lookup datagram.id = some session ∧ session.sock = sock) ∨
      ∃ reply, state.pump = .spawned datagram sock reply := by
  have holds : next.pump.datagram = some datagram := by
    rw [held]
    rfl
  cases effect with
  | quiet _ _ _ _ _ _ _ settled =>
    exact Or.inl ((Pump.datagram_of_settled _ _ datagram settled holds).symm.trans held)
  | dropped _ _ pump _ settled =>
    exact Or.inl ((Pump.datagram_of_settled _ _ datagram settled holds).symm.trans held)
  | found touched session was present =>
    obtain ⟨rfl, isSock⟩ : touched = datagram ∧ session.sock = sock := by simpa using held
    exact Or.inr (Or.inl ⟨session, rfl, was, present, isSock⟩)
  | inserted added index reply was =>
    obtain ⟨rfl, rfl⟩ : added = datagram ∧ index = sock := by simpa using held
    exact Or.inr (Or.inr ⟨reply, was⟩)
  | read | admitted | missing | opened | delivered => cases held
  | _ => exact Or.inl held

/-- What was sent was sent before, or was about to be sent on a socket that is
there. -/
theorem sent_origin {peer : EndpointId} {state next : State τ} {action : Action τ}
    (effect : Effect peer state action next) {sent : Sent τ} (member : sent ∈ next.sent) :
    sent ∈ state.sent ∨ ∃ socket, state.pump = .sending sent.datagram sent.sock ∧
      state.sockets[sent.sock]? = some socket ∧ socket.port = sent.port := by
  cases effect with
  | quiet _ _ _ _ _ _ unchanged => exact Or.inl (unchanged ▸ member)
  | delivered datagram sock socket held present =>
    rcases List.mem_append.mp member with earlier | added
    · exact Or.inl earlier
    · obtain rfl := List.mem_singleton.mp added
      exact Or.inr ⟨socket, held, present, rfl⟩
  | _ => exact Or.inl member

/-- The invariant of every run. -/
structure Sound (peer : EndpointId) (state : State τ) : Prop where
  held : ∀ datagram, state.pump.datagram = some datagram → datagram.Valid peer
  sockets : ∀ (sock : Nat) (socket : Socket τ), state.sockets[sock]? = some socket →
    socket.opener.Valid peer ∧ socket.port = socket.opener.port ∧
      ∀ datagram ∈ socket.carried, datagram.Valid peer ∧ datagram.id = socket.opener.id
  sessions : ∀ id session, state.sessions.lookup id = some session →
    ∃ opener, state.opener session.sock = some opener ∧ opener.id = id ∧ opener.port = session.port
  inserting : ∀ datagram sock reply, state.pump = .spawned datagram sock reply →
    state.opener sock = some datagram
  sending : ∀ datagram sock, state.pump = .sending datagram sock →
    ∃ opener, state.opener sock = some opener ∧ opener.id = datagram.id
  replies : ∀ (handle : Nat) (reply : Reply), state.replies[handle]? = some reply →
    ∃ opener, state.opener reply.sock = some opener ∧ opener.id = reply.id
  outbox : ∀ outgoing ∈ state.outbox, ∃ opener port payload,
    state.opener outgoing.sock = some opener ∧
      decodeDatagram outgoing.bytes = some (opener.id, port, payload)
  sent : ∀ sent ∈ state.sent, sent.datagram.Valid peer ∧
    ∃ opener, state.opener sent.sock = some opener ∧ opener.port = sent.port

/-- A new connection has nothing to be unsound about: no datagram was read, no
socket opened and nothing sent. -/
theorem sound_initial (peer : EndpointId) (channel : Watch.Channel Config) (now : Instant) :
    Sound peer (initial channel now : State τ) := by
  constructor <;> simp [initial, Pump.datagram]

namespace Sound

variable {peer : EndpointId} {state next : State τ} {action : Action τ}

/-- The datagram that the pump holds was decoded and found granted by the step
that admitted it, and no later step touches it. -/
theorem held_step (sound : Sound peer state) (effect : Effect peer state action next)
    (datagram : Admitted τ) (held : next.pump.datagram = some datagram) : datagram.Valid peer := by
  rcases datagram_origin effect datagram held with before | ⟨tag, bytes, _, passed⟩
  · exact sound.held datagram before
  · exact (valid_of_consult peer _ tag bytes datagram passed).1

/-- A socket is opened for a datagram that was found granted, on the port of that
datagram, and carries nothing under another id. Sending adds one datagram to one
socket. -/
theorem sockets_step (sound : Sound peer state) (effect : Effect peer state action next)
    (sock : Nat) (socket : Socket τ) (present : next.sockets[sock]? = some socket) :
    socket.opener.Valid peer ∧ socket.port = socket.opener.port ∧
      ∀ datagram ∈ socket.carried, datagram.Valid peer ∧ datagram.id = socket.opener.id := by
  rcases socket_origin effect sock socket present with
    ⟨before, known, opener, port, carried⟩ | ⟨datagram, held, rfl⟩
  · obtain ⟨valid, samePort, all⟩ := sound.sockets sock before known
    rw [opener, port]
    refine ⟨valid, samePort, ?_⟩
    rcases carried with same | ⟨added, held, longer⟩
    · rw [same]
      exact all
    · intro datagram member
      rw [longer] at member
      rcases List.mem_append.mp member with earlier | last
      · exact all datagram earlier
      · obtain rfl := List.mem_singleton.mp last
        obtain ⟨owner, opened, sameId⟩ := sound.sending datagram sock held
        obtain rfl : before.opener = owner := by simpa [State.opener, known] using opened
        exact ⟨sound.held datagram (by rw [held]; rfl), sameId.symm⟩
  · have valid : datagram.Valid peer := sound.held datagram (by rw [held]; rfl)
    exact ⟨valid, rfl, fun other member => absurd member List.not_mem_nil⟩

/-- A session is inserted with the id and the port that its socket was opened for.
Sweeps and passes over the table take sessions away and change none. -/
theorem sessions_step (sound : Sound peer state) (effect : Effect peer state action next)
    (id : UInt32) (session : Session) (present : next.sessions.lookup id = some session) :
    ∃ opener, next.opener session.sock = some opener ∧ opener.id = id ∧
      opener.port = session.port := by
  rcases session_origin effect id session present with
    ⟨before, known, same⟩ | ⟨datagram, sock, reply, held, rfl, rfl, _⟩
  · obtain ⟨opener, opened, sameId, samePort⟩ := sound.sessions id before known
    rw [same]
    exact ⟨opener, opener_kept effect before.sock opener opened, sameId, samePort⟩
  · exact ⟨datagram, opener_kept effect sock datagram (sound.inserting datagram sock reply held),
      rfl, rfl⟩

/-- Between opening a socket and inserting its session the pump keeps the datagram
that the socket was opened for, which cannot change meanwhile. -/
theorem inserting_step (sound : Sound peer state) (effect : Effect peer state action next)
    (datagram : Admitted τ) (sock reply : Nat) (held : next.pump = .spawned datagram sock reply) :
    next.opener sock = some datagram := by
  rcases spawned_origin effect held with before | opened
  · exact opener_kept effect sock datagram (sound.inserting datagram sock reply before)
  · exact opened

/-- What the pump is about to send goes to the socket that it has found under the
id of the datagram, or has just inserted there. -/
theorem sending_step (sound : Sound peer state) (effect : Effect peer state action next)
    (datagram : Admitted τ) (sock : Nat) (held : next.pump = .sending datagram sock) :
    ∃ opener, next.opener sock = some opener ∧ opener.id = datagram.id := by
  have opened : ∃ opener, state.opener sock = some opener ∧ opener.id = datagram.id := by
    rcases sending_origin effect held with before | ⟨session, _, _, present, rfl⟩ | ⟨reply, was⟩
    · exact sound.sending datagram sock before
    · obtain ⟨opener, opened, sameId, _⟩ := sound.sessions datagram.id session present
      exact ⟨opener, opened, sameId⟩
    · exact ⟨datagram, sound.inserting datagram sock reply was, rfl⟩
  obtain ⟨opener, opened, sameId⟩ := opened
  exact ⟨opener, opener_kept effect sock opener opened, sameId⟩

/-- A reply task is spawned for the socket and the id of the session that is being
opened, and keeps both for as long as it runs. -/
theorem replies_step (sound : Sound peer state) (effect : Effect peer state action next)
    (handle : Nat) (reply : Reply) (present : next.replies[handle]? = some reply) :
    ∃ opener, next.opener reply.sock = some opener ∧ opener.id = reply.id := by
  rcases reply_origin effect handle reply present with
    ⟨before, known, same⟩ | ⟨datagram, held, opened, rfl⟩
  · obtain ⟨opener, opened, sameId⟩ := sound.replies handle before known
    rw [same]
    exact ⟨opener, opener_kept effect before.sock opener opened, sameId⟩
  · exact ⟨datagram, opened, rfl⟩

/-- A reply task frames what it has received under the id of its socket, so
whoever decodes it is told the id that the socket was opened for. -/
theorem outbox_step (sound : Sound peer state) (effect : Effect peer state action next)
    (outgoing : Outgoing) (member : outgoing ∈ next.outbox) :
    ∃ opener port payload, next.opener outgoing.sock = some opener ∧
      decodeDatagram outgoing.bytes = some (opener.id, port, payload) := by
  have kept (earlier : outgoing ∈ state.outbox) : ∃ opener port payload,
      next.opener outgoing.sock = some opener ∧
        decodeDatagram outgoing.bytes = some (opener.id, port, payload) := by
    obtain ⟨opener, port, payload, opened, decoded⟩ := sound.outbox outgoing earlier
    exact ⟨opener, port, payload, opener_kept effect outgoing.sock opener opened, decoded⟩
  cases effect with
  | quiet _ _ _ _ _ outbox => exact kept (outbox ▸ member)
  | answered handle reply payload accepted present held =>
    rcases List.mem_append.mp member with earlier | added
    · exact kept earlier
    · cases accepted with
      | false => exact absurd added List.not_mem_nil
      | true =>
        obtain rfl := List.mem_singleton.mp added
        obtain ⟨opener, opened, sameId⟩ := sound.replies handle reply present
        refine ⟨opener, reply.port, payload, opened, ?_⟩
        rw [sameId]
        exact decode_encode reply.id reply.port payload
  | _ => exact kept member

/-- A datagram was sent to a port on the socket that had been opened for this
port, and it had been granted when it was admitted. -/
theorem sent_step (sound : Sound peer state) (effect : Effect peer state action next)
    (sent : Sent τ) (member : sent ∈ next.sent) : sent.datagram.Valid peer ∧
      ∃ opener, next.opener sent.sock = some opener ∧ opener.port = sent.port := by
  rcases sent_origin effect member with earlier | ⟨socket, held, present, port⟩
  · obtain ⟨valid, opener, opened, samePort⟩ := sound.sent sent earlier
    exact ⟨valid, opener, opener_kept effect sent.sock opener opened, samePort⟩
  · have opened : state.opener sent.sock = some socket.opener := by simp [State.opener, present]
    refine ⟨sound.held sent.datagram (by rw [held]; rfl), socket.opener,
      opener_kept effect sent.sock socket.opener opened, ?_⟩
    rw [← port]
    exact (sound.sockets sent.sock socket present).2.1.symm

/-- The step lemma: every step keeps the invariant. It is assembled from one lemma
for each place where a datagram can be. -/
theorem step (sound : Sound peer state) (effect : Effect peer state action next) :
    Sound peer next where
  held := sound.held_step effect
  sockets := sound.sockets_step effect
  sessions := sound.sessions_step effect
  inserting := sound.inserting_step effect
  sending := sound.sending_step effect
  replies := sound.replies_step effect
  outbox := sound.outbox_step effect
  sent := sound.sent_step effect

end Sound

/-- A datagram that finds a session goes to the port that the session was opened
for, whatever port it names. -/
theorem touch_sends {peer : EndpointId} {state : State τ} (sound : Sound peer state)
    {datagram : Admitted τ} (held : state.pump = .granted datagram) {session : Session}
    (present : state.sessions.lookup datagram.id = some session) :
    ∃ last, run (step peer) state [.touch, .send true] = some last ∧
      { datagram, sock := session.sock, port := session.port } ∈ last.sent := by
  obtain ⟨opener, opened, _, samePort⟩ := sound.sessions datagram.id session present
  obtain ⟨socket, found, rfl⟩ := Option.map_eq_some_iff.mp opened
  have port : socket.port = session.port :=
    (sound.sockets session.sock socket found).2.1.trans samePort
  have touched : state.sessions.touch datagram.id state.now =
      some (session.sock, state.sessions.touched datagram.id state.now) :=
    (Sessions.touch_some_iff _ _ _ _ _).mpr ⟨session, present, rfl, rfl⟩
  simp [run, step, pumpStep, held, touched, found, port]

/-- Every datagram that is about to be sent on a socket, or was sent on one, is
related to the datagram that the socket was opened for. -/
structure Matched (related : Admitted τ → Admitted τ → Prop) (state : State τ) : Prop where
  sending : ∀ datagram sock, state.pump = .sending datagram sock →
    ∃ opener, state.opener sock = some opener ∧ related opener datagram
  carried : ∀ (sock : Nat) (socket : Socket τ), state.sockets[sock]? = some socket →
    ∀ datagram ∈ socket.carried, related socket.opener datagram
  sent : ∀ sent ∈ state.sent,
    ∃ opener, state.opener sent.sock = some opener ∧ related opener sent.datagram

/-- In the beginning there are no sockets, so nothing is carried by a wrong
one. -/
theorem matched_initial (related : Admitted τ → Admitted τ → Prop)
    (channel : Watch.Channel Config) (now : Instant) :
    Matched related (initial channel now : State τ) := by
  constructor <;> simp [initial]

/-- The datagram of a touch is related to the one that the session it finds was
opened for. -/
def FindsRelated (related : Admitted τ → Admitted τ → Prop) (state : State τ) (action : Action τ) :
    Prop :=
  ∀ datagram session opener, action = .touch → state.pump = .granted datagram →
    state.sessions.lookup datagram.id = some session →
      state.opener session.sock = some opener → related opener datagram

namespace Matched

variable {peer : EndpointId} {related : Admitted τ → Admitted τ → Prop} {state next : State τ}
  {action : Action τ}

/-- If what is found under an id was opened for a related datagram, what is about
to be sent is related to the opener of its socket. A session that was just
inserted is the datagram's own. -/
theorem sending_step (matched : Matched related state) (sound : Sound peer state)
    (reflexive : ∀ datagram, related datagram datagram) (finds : FindsRelated related state action)
    (effect : Effect peer state action next) (datagram : Admitted τ) (sock : Nat)
    (held : next.pump = .sending datagram sock) :
    ∃ opener, next.opener sock = some opener ∧ related opener datagram := by
  have opened : ∃ opener, state.opener sock = some opener ∧ related opener datagram := by
    rcases sending_origin effect held with before | ⟨session, isTouch, was, present, rfl⟩ | ⟨reply, was⟩
    · exact matched.sending datagram sock before
    · obtain ⟨opener, opened, _⟩ := sound.sessions datagram.id session present
      exact ⟨opener, opened, finds datagram session opener isTouch was present opened⟩
    · exact ⟨datagram, sound.inserting datagram sock reply was, reflexive datagram⟩
  obtain ⟨opener, opened, holds⟩ := opened
  exact ⟨opener, opener_kept effect sock opener opened, holds⟩

/-- So everything that a socket ever carries is related to the datagram it was
opened for. -/
theorem carried_step (matched : Matched related state) (effect : Effect peer state action next)
    (sock : Nat) (socket : Socket τ) (present : next.sockets[sock]? = some socket)
    (datagram : Admitted τ) (member : datagram ∈ socket.carried) :
    related socket.opener datagram := by
  rcases socket_origin effect sock socket present with
    ⟨before, known, opener, _, carried⟩ | ⟨opened, _, rfl⟩
  · rw [opener]
    rcases carried with same | ⟨added, held, longer⟩
    · exact matched.carried sock before known datagram (same ▸ member)
    · rw [longer] at member
      rcases List.mem_append.mp member with earlier | last
      · exact matched.carried sock before known datagram earlier
      · obtain rfl := List.mem_singleton.mp last
        obtain ⟨owner, opened, holds⟩ := matched.sending datagram sock held
        obtain rfl : before.opener = owner := by simpa [State.opener, known] using opened
        exact holds
  · exact absurd member List.not_mem_nil

/-- And so is everything that is recorded as sent, which is what the callers of
this module ask for. -/
theorem sent_step (matched : Matched related state) (effect : Effect peer state action next)
    (sent : Sent τ) (member : sent ∈ next.sent) :
    ∃ opener, next.opener sent.sock = some opener ∧ related opener sent.datagram := by
  have opened : ∃ opener, state.opener sent.sock = some opener ∧ related opener sent.datagram := by
    rcases sent_origin effect member with earlier | ⟨socket, held, _, _⟩
    · exact matched.sent sent earlier
    · exact matched.sending sent.datagram sent.sock held
  obtain ⟨opener, opened, holds⟩ := opened
  exact ⟨opener, opener_kept effect sent.sock opener opened, holds⟩

/-- The step lemma: only a touch that finds a session can put a datagram and the
socket of another one together. -/
theorem step (matched : Matched related state) (sound : Sound peer state)
    (reflexive : ∀ datagram, related datagram datagram) (finds : FindsRelated related state action)
    (effect : Effect peer state action next) : Matched related next where
  sending := matched.sending_step sound reflexive finds effect
  carried := matched.carried_step effect
  sent := matched.sent_step effect

end Matched

/-- What holds of every datagram that was read holds of those that the pump holds,
that sockets were opened for, and that were sent. -/
structure Tagged (holds : τ → Bytes → Prop) (state : State τ) : Prop where
  received : ∀ tag bytes, state.pump = .received tag bytes → holds tag bytes
  held : ∀ datagram, state.pump.datagram = some datagram → holds datagram.tag datagram.bytes
  openers : ∀ (sock : Nat) (socket : Socket τ), state.sockets[sock]? = some socket →
    holds socket.opener.tag socket.opener.bytes
  sent : ∀ sent ∈ state.sent, holds sent.datagram.tag sent.datagram.bytes

/-- In the beginning nothing has been read, so no tag is wrong, whatever is asked
of the tags. -/
theorem tagged_initial (holds : τ → Bytes → Prop) (channel : Watch.Channel Config) (now : Instant) :
    Tagged holds (initial channel now : State τ) := by
  constructor <;> simp [initial, Pump.datagram]

namespace Tagged

variable {peer : EndpointId} {holds : τ → Bytes → Prop} {state next : State τ} {action : Action τ}

/-- A datagram comes with its tag when it is read, and what holds of the two then
is what the run was told. -/
theorem received_step (tagged : Tagged holds state) (effect : Effect peer state action next)
    (reads : ∀ tag bytes, action = .read tag bytes → holds tag bytes) (tag : τ) (bytes : Bytes)
    (held : next.pump = .received tag bytes) : holds tag bytes := by
  cases effect with
  | quiet _ _ _ _ _ _ _ settled =>
    rcases settled with same | idle
    · exact tagged.received tag bytes (same ▸ held)
    · rw [held] at idle
      exact idle.elim
  | dropped _ _ pump _ settled =>
    rcases settled with same | idle
    · exact tagged.received tag bytes (same ▸ held)
    · obtain rfl : pump = .received tag bytes := held
      exact idle.elim
  | read tag' bytes' =>
    obtain ⟨rfl, rfl⟩ := Pump.received.inj held
    exact reads tag' bytes' rfl
  | admitted | found | missing | opened | inserted | delivered => cases held
  | _ => exact tagged.received tag bytes held

/-- Decoding and admitting a datagram changes neither its tag nor its bytes, so
the pump holds what was read. -/
theorem held_step (tagged : Tagged holds state) (effect : Effect peer state action next)
    (datagram : Admitted τ) (held : next.pump.datagram = some datagram) :
    holds datagram.tag datagram.bytes := by
  rcases datagram_origin effect datagram held with before | ⟨tag, bytes, was, passed⟩
  · exact tagged.held datagram before
  · obtain ⟨_, rfl, rfl⟩ := valid_of_consult peer _ tag bytes datagram passed
    exact tagged.received datagram.tag datagram.bytes was

/-- A socket remembers the datagram that it was opened for, with its tag, and the
reply tasks take it from there. -/
theorem openers_step (tagged : Tagged holds state) (effect : Effect peer state action next)
    (sock : Nat) (socket : Socket τ) (present : next.sockets[sock]? = some socket) :
    holds socket.opener.tag socket.opener.bytes := by
  rcases socket_origin effect sock socket present with ⟨before, known, opener, _⟩ | ⟨opened, was, rfl⟩
  · rw [opener]
    exact tagged.openers sock before known
  · exact tagged.held opened (by rw [was]; rfl)

/-- What is sent carries the tag that it was read with, however long it was held
in between. -/
theorem sent_step (tagged : Tagged holds state) (effect : Effect peer state action next)
    (sent : Sent τ) (member : sent ∈ next.sent) :
    holds sent.datagram.tag sent.datagram.bytes := by
  rcases sent_origin effect member with earlier | ⟨_, held, _⟩
  · exact tagged.sent sent earlier
  · exact tagged.held sent.datagram (by rw [held]; rfl)

/-- The step lemma: it is enough that what is read has the property. From the
reading on, tags and bytes stay together. -/
theorem step (tagged : Tagged holds state) (effect : Effect peer state action next)
    (reads : ∀ tag bytes, action = .read tag bytes → holds tag bytes) : Tagged holds next where
  received := tagged.received_step effect reads
  held := tagged.held_step effect
  openers := tagged.openers_step effect
  sent := tagged.sent_step effect

/-- A weaker property: what is known of the tags at one time may be loosened
later, as when the other side has gone on. -/
theorem mono {weaker : τ → Bytes → Prop} (tagged : Tagged holds state)
    (implies : ∀ tag bytes, holds tag bytes → weaker tag bytes) : Tagged weaker state where
  received := fun tag bytes was => implies tag bytes (tagged.received tag bytes was)
  held := fun datagram was => implies _ _ (tagged.held datagram was)
  openers := fun sock socket present => implies _ _ (tagged.openers sock socket present)
  sent := fun sent member => implies _ _ (tagged.sent sent member)

end Tagged

end Rtun.Serve
