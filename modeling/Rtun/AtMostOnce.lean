import Rtun.Ledger
import Rtun.ReplyIsolation

/-!
# Datagrams arrive at most once

Between the listeners of the connecting side and the local services of the serving side a
datagram passes through many places: a forwarder holds it, then it is in flight, then the
pump holds it while it is checked and a session is found or opened for it. A reply passes
through as many on its way back. At each place it can be dropped. What every step keeps is
the ledger of all these places and of what has come out of them.
-/

namespace Rtun.Tunnel

open Connect Framing Ledger Run

/-- A datagram as it was received: the generation of its forwarder, its source and
its payload. -/
abbrev Content := Nat × SocketAddr × Bytes

/-- A reply as it was received: the session socket and the payload. -/
abbrev Answer := Nat × Bytes

def contentOf (origin : Origin) (payload : Bytes) : Content :=
  (origin.generation, origin.src, payload)

/-- The payload of a datagram on the wire. -/
def payloadOf (bytes : Bytes) : List Bytes :=
  (decodeDatagram bytes).toList.map (fun (_, _, payload) => payload)

/-- The payload of a frame is the payload it was made of. -/
@[simp] theorem payloadOf_encode (id : UInt32) (port : UInt16) (payload : Bytes) :
    payloadOf (encodeDatagram id port payload) = [payload] := by
  simp [payloadOf]

/-- What an outgoing forwarder holds. -/
def waiting : Forwarding → List Content
  | .received origin payload => [contentOf origin payload]
  | .receiving | .ended => []

/-- What the forwarders of a generation hold. -/
def forwarding (generation : Generation) : List Content :=
  generation.forwarders.flatMap (fun forwarder => waiting forwarder.stage)

/-- What is on the wire to the serving side, or was read from there. -/
def framed (origin : Origin) (bytes : Bytes) : List Content :=
  (payloadOf bytes).map (contentOf origin)

/-- What `pump_udp` holds. -/
def pumping : Serve.Pump Origin → List Content
  | .received origin bytes => framed origin bytes
  | .granted datagram | .opening datagram | .spawned datagram _ _ | .sending datagram _ =>
      [contentOf datagram.tag datagram.payload]
  | .starting | .selecting | .revoking _ | .stopped => []

/-- What a reply task holds. -/
def answering (reply : Serve.Reply) : List Answer :=
  match reply.stage with
  | .received payload => [(reply.sock, payload)]
  | .receiving | .ended => []

/-- What is on the wire to the connecting side, or was read from there. -/
def answered (via : Nat) (bytes : Bytes) : List Answer :=
  (payloadOf bytes).map (fun payload => (via, payload))

/-- What `pump_udp_in` holds. -/
def routing : Inbound → List Answer
  | .got bytes via => answered via bytes
  | .routed _ _ payload via => [(via, payload)]
  | .absent | .reading | .ended => []

/-- What the `pump_udp_in` of a generation holds. -/
def returning (generation : Generation) : List Answer := routing generation.inbound

/-- The datagrams on the connecting side and on the wire. -/
def nearUp (near : Connect.State) : List Content :=
  near.generations.flatMap forwarding ++
    near.outbox.flatMap (fun (bytes, origin) => framed origin bytes)

/-- The datagrams on the serving side, and those that were given to a local
service. -/
def farUp (far : Serve.State Origin) : List Content :=
  pumping far.pump ++ far.sent.map (fun sent => contentOf sent.datagram.tag sent.datagram.payload)

/-- The replies on the serving side and on the wire. -/
def farDown (far : Serve.State Origin) : List Answer :=
  far.replies.flatMap answering ++
    far.outbox.flatMap (fun reply => answered reply.sock reply.bytes)

/-- The replies on the connecting side, and those that were given to a local
source. -/
def nearDown (near : Connect.State) : List Answer :=
  near.generations.flatMap returning ++
    near.handed.map (fun handed => (handed.via, handed.payload))

/-- What a forwarder receives from a local source. -/
def receivedBy : Connect.Action → List Content
  | .receive generation _ src payload => [(generation, src, payload)]
  | _ => []

/-- What a reply task receives from a local service. The task and its socket have
the same handle. -/
def repliedBy : Serve.Action Origin → List Answer
  | .receive handle payload => [(handle, payload)]
  | _ => []

/-- What a step brings to the serving side from the wire. -/
def arrivedBy : Serve.Action Origin → List Content
  | .read origin bytes => framed origin bytes
  | _ => []

/-- What a step brings to the connecting side from the wire. -/
def returnedBy : Connect.Action → List Answer
  | .read _ bytes via => answered via bytes
  | _ => []

/-- A forwarder that takes a step exchanges what it holds. -/
theorem forwarding_exchanged {generations next : List Generation} {index handle : Nat}
    {before after : Generation} {forwarder : Forwarder} {stage : Forwarding}
    (overwritten : next = generations.set index after)
    (present : generations[index]? = some before)
    (listed : before.forwarders[handle]? = some forwarder)
    (forwarders : after.forwarders = before.forwarders.set handle { forwarder with stage })
    (value : Content) :
    (next.flatMap forwarding).count value + (waiting forwarder.stage).count value =
      (generations.flatMap forwarding).count value + (waiting stage).count value := by
  have outer := count_flatMap_set forwarding overwritten present value
  have inner := count_flatMap_set (fun forwarder => waiting forwarder.stage) forwarders listed value
  simp only [forwarding] at outer inner ⊢
  omega

/-- New forwarders hold nothing, and those that are told to abort hold what they
held, so a respawn changes nothing of what the generations hold. -/
theorem flatMap_respawned {γ : Type} (part : Generation → List γ) (generations : List Generation)
    (listeners : Listeners) (told : ∀ generation, part { generation with told := true } = part generation)
    (spawned : part (spawnForwarders listeners) = []) :
    (generations.map (fun generation : Generation => { generation with told := true }) ++
        [spawnForwarders listeners]).flatMap part = generations.flatMap part := by
  rw [List.flatMap_append, List.flatMap_map, List.flatMap_singleton, spawned, List.append_nil]
  simp only [told]

/-- On the connecting side a datagram comes from a local source only. -/
theorem nearUp_conserved {checks : Bool} {near next : Connect.State} {action : Connect.Action}
    (effect : Connect.Effect checks near action next) (value : Content) :
    (nearUp next).count value ≤ (nearUp near).count value + (receivedBy action).count value := by
  unfold nearUp
  simp only [List.count_append]
  cases effect with
  | quiet _ _ generations outbox =>
    rw [generations, outbox]
    omega
  | respawned _ outbox _ generations =>
    have spawned : forwarding (spawnForwarders near.listeners) = [] := by
      simp [forwarding, spawnForwarders, waiting, List.flatMap_map]
    rw [generations, outbox, flatMap_respawned forwarding _ _ (fun _ => rfl) spawned]
    omega
  | calmed _ _ index before after present calms generations outbox =>
    have fewer : (forwarding after).count value ≤ (forwarding before).count value := by
      refine count_flatMap_le _ before.forwarders after.forwarders ?_ value
      intro handle forwarder listed
      rcases calms.forwarders handle forwarder listed with same | ended
      · exact Or.inr ⟨forwarder, same, rfl⟩
      · exact Or.inl (by rw [ended]; rfl)
    have balance := count_flatMap_set forwarding generations present value
    rw [outbox]
    omega
  | received index handle generation forwarder src payload _ present listed generations outbox =>
    have balance := forwarding_exchanged generations present listed rfl value
    rw [outbox]
    simp only [waiting, contentOf, receivedBy] at balance ⊢
    omega
  | forwarded index handle accepted generation forwarder origin payload id sessions _ present
      listed held _ generations outbox =>
    have balance := forwarding_exchanged generations present listed rfl value
    rw [outbox, List.flatMap_append, List.count_append]
    simp only [held, waiting, List.count_nil] at balance
    cases accepted with
    | false => simp; omega
    | true => simp [framed]; omega
  | got index generation bytes via _ present generations outbox
  | routed index generation bytes via _ _ _ _ _ _ _ present _ _ _ generations outbox
  | handedOver index _ generation _ _ _ _ _ present _ generations outbox =>
    have balance := count_flatMap_set forwarding generations present value
    rw [outbox]
    simp only [forwarding] at balance ⊢
    omega

/-- A step that puts nothing of a generation forward may drop what it was bringing
back, and brings back nothing more. -/
theorem returning_calmed {now : Instant} {before after : Generation}
    (calms : Connect.Calms now before after) (value : Answer) :
    (returning after).count value ≤ (returning before).count value := by
  unfold returning
  rcases calms.inbound with same | reading | ended
  · rw [same]
  · rw [reading]
    exact Nat.zero_le _
  · rw [ended]
    exact Nat.zero_le _

/-- On the connecting side a reply comes from the wire only. -/
theorem nearDown_conserved {checks : Bool} {near next : Connect.State} {action : Connect.Action}
    (effect : Connect.Effect checks near action next) (value : Answer) :
    (nearDown next).count value ≤ (nearDown near).count value + (returnedBy action).count value := by
  unfold nearDown
  simp only [List.count_append]
  cases effect with
  | quiet _ _ generations _ handed =>
    rw [generations, handed]
    omega
  | respawned _ _ handed generations =>
    have spawned : returning (spawnForwarders near.listeners) = [] := by
      unfold returning spawnForwarders
      split <;> rfl
    rw [generations, handed, flatMap_respawned returning _ _ (fun _ => rfl) spawned]
    omega
  | calmed _ _ index before after present calms generations _ handed =>
    have fewer := returning_calmed calms value
    have balance := count_flatMap_set returning generations present value
    rw [handed]
    omega
  | received index _ generation _ _ _ _ present _ generations _ handed
  | forwarded index _ _ generation _ _ _ _ _ _ present _ _ _ generations _ handed =>
    have balance := count_flatMap_set returning generations present value
    rw [handed]
    simp only [returning] at balance ⊢
    omega
  | got index generation bytes via _ present generations _ handed =>
    have balance := count_flatMap_set returning generations present value
    have taken : returning { generation with inbound := .got bytes via } = answered via bytes := rfl
    rw [taken] at balance
    rw [handed, returnedBy]
    omega
  | routed index generation bytes via id port payload sock src sessions _ present got decoded _
      generations _ handed =>
    have balance := count_flatMap_set returning generations present value
    have before : returning generation = [(via, payload)] := by
      simp [returning, got, routing, answered, payloadOf, decoded]
    have after : returning { generation with sessions, inbound := .routed sock src payload via } =
        [(via, payload)] := rfl
    rw [before, after] at balance
    rw [handed]
    omega
  | handedOver index delivered generation sock src payload via _ present routed generations _
      handed =>
    have balance := count_flatMap_set returning generations present value
    have before : returning generation = [(via, payload)] := by rw [returning, routed, routing]
    have after : returning { generation with inbound := .reading } = [] := rfl
    rw [before, after, List.count_nil] at balance
    rw [handed, List.map_append, List.count_append]
    cases delivered with
    | false => simp; omega
    | true => simp; omega

/-- On the serving side a datagram comes from the wire only. -/
theorem farUp_conserved {peer : EndpointId} {far next : Serve.State Origin}
    {action : Serve.Action Origin} (effect : Serve.Effect peer far action next) (value : Content) :
    (farUp next).count value ≤ (farUp far).count value + (arrivedBy action).count value := by
  have idle (pump : Serve.Pump Origin) (settled : pump.idle) : pumping pump = [] := by
    cases pump with
    | starting | selecting | revoking _ | stopped => rfl
    | _ => exact settled.elim
  unfold farUp
  simp only [List.count_append]
  cases effect with
  | quiet _ _ _ _ _ _ sent pump =>
    rw [sent]
    rcases pump with same | settled
    · rw [same]
      omega
    · rw [idle _ settled, List.count_nil]
      omega
  | read origin bytes =>
    simp only [pumping, arrivedBy]
    omega
  | admitted origin bytes datagram held passed =>
    obtain ⟨⟨decoded, _⟩, rfl, rfl⟩ := Serve.valid_of_consult peer _ origin bytes datagram passed
    simp only [pumping, held, framed, payloadOf, decoded, Option.toList_some, List.map_cons,
      List.map_nil]
    omega
  | found datagram _ held | missing datagram held | opened datagram held
  | inserted datagram _ _ held =>
    simp only [pumping, held, Serve.State.insert]
    omega
  | delivered datagram sock socket held _ =>
    simp only [pumping, held, List.map_append, List.map_cons, List.map_nil, List.count_append,
      List.count_nil]
    omega
  | dropped _ keep pump link settled =>
    simp only [Serve.State.retain]
    rcases settled with same | settled
    · rw [same]
      omega
    · rw [idle _ settled, List.count_nil]
      omega
  | received | failed | answered | ended =>
    simp only [Serve.State.advance]
    omega

/-- Each socket is opened together with its reply task, so that both have one
handle. -/
structure Numbered (far : Serve.State Origin) : Prop where
  alike : far.sockets.length = far.replies.length
  handles : ∀ (handle : Nat) (reply : Serve.Reply), far.replies[handle]? = some reply →
    reply.sock = handle

/-- The step lemma: datagrams are numbered as they come in, so no two that are
under way have the same number. -/
theorem Numbered.step {peer : EndpointId} {far next : Serve.State Origin}
    {action : Serve.Action Origin} (numbered : Numbered far)
    (effect : Serve.Effect peer far action next) : Numbered next := by
  have told (handles : List Nat) :
      far.sockets.length = (Serve.abortAll handles far.replies).length ∧
        ∀ (handle : Nat) (reply : Serve.Reply),
          (Serve.abortAll handles far.replies)[handle]? = some reply → reply.sock = handle := by
    refine ⟨by simpa [Serve.abortAll] using numbered.alike, fun handle reply listed => ?_⟩
    rw [Serve.abortAll_get, Option.map_eq_some_iff] at listed
    obtain ⟨before, present, rfl⟩ := listed
    have same := numbered.handles handle before present
    split <;> exact same
  have advanced (handle : Nat) (reply : Serve.Reply) (stage : Serve.Stage)
      (present : far.replies[handle]? = some reply) : Numbered (far.advance handle reply stage) := by
    refine ⟨by simpa [Serve.State.advance] using numbered.alike, fun other found listed => ?_⟩
    rcases (Slots.get_set_iff _ _ _ _ _ _ present).mp listed with ⟨rfl, rfl⟩ | ⟨_, before⟩
    · exact numbered.handles other reply present
    · exact numbered.handles other found before
  cases effect with
  | quiet _ _ _ sockets replies =>
    exact ⟨by rw [sockets, replies, numbered.alike], replies ▸ numbered.handles⟩
  | read | admitted | found | missing => exact ⟨numbered.alike, numbered.handles⟩
  | opened datagram held =>
    refine ⟨by simpa using numbered.alike, fun handle reply listed => ?_⟩
    rcases (Slots.get_push_iff _ _ _ _).mp listed with before | ⟨rfl, rfl⟩
    · exact numbered.handles handle reply before
    · exact numbered.alike
  | inserted datagram sock reply held => exact ⟨(told _).1, (told _).2⟩
  | delivered datagram sock socket _ _ => exact ⟨by simpa using numbered.alike, numbered.handles⟩
  | dropped _ keep => exact ⟨(told _).1, (told _).2⟩
  | received handle reply payload present _ => exact advanced handle reply _ present
  | failed handle reply present => exact advanced handle reply _ present
  | answered handle reply payload accepted present _ =>
    have moved := advanced handle reply .receiving present
    exact ⟨moved.alike, moved.handles⟩
  | ended handle reply present _ => exact advanced handle reply _ present

/-- On the serving side a reply comes from a local service only. -/
theorem farDown_conserved {peer : EndpointId} {far next : Serve.State Origin}
    {action : Serve.Action Origin} (numbered : Numbered far)
    (effect : Serve.Effect peer far action next) (value : Answer) :
    (farDown next).count value ≤ (farDown far).count value + (repliedBy action).count value := by
  have told (handles : List Nat) :
      ((Serve.abortAll handles far.replies).flatMap answering).count value ≤
        (far.replies.flatMap answering).count value := by
    refine count_flatMap_le answering far.replies _ (fun handle reply listed => ?_) value
    rw [Serve.abortAll_get, Option.map_eq_some_iff] at listed
    obtain ⟨before, present, rfl⟩ := listed
    refine Or.inr ⟨before, present, ?_⟩
    split <;> rfl
  have advanced (handle : Nat) (reply : Serve.Reply) (stage : Serve.Stage)
      (present : far.replies[handle]? = some reply) :=
    count_flatMap_set answering (rfl : (far.advance handle reply stage).replies = _) present value
  unfold farDown
  simp only [List.count_append]
  cases effect with
  | quiet _ _ _ _ replies outbox =>
    rw [replies, outbox]
    omega
  | read | admitted | found | missing | delivered => exact Nat.le_add_right _ _
  | opened datagram held =>
    rw [List.flatMap_append]
    simp [answering]
  | inserted datagram sock reply held =>
    have fewer := told ((far.sessions.lookup datagram.id).toList.map Serve.Session.reply)
    simp only [Serve.State.insert]
    omega
  | dropped _ keep =>
    have fewer := told ((far.sessions.dropped keep).map Serve.Session.reply)
    simp only [Serve.State.retain]
    omega
  | received handle reply payload present waiting =>
    have balance := advanced handle reply (.received payload) present
    have before : answering reply = [] := by rw [answering, waiting]
    have after : answering { reply with stage := .received payload } = [(handle, payload)] := by
      rw [answering, numbered.handles handle reply present]
    rw [before, after] at balance
    simp only [Serve.State.advance, repliedBy, List.count_nil] at balance ⊢
    omega
  | failed handle reply present | ended handle reply present =>
    have balance := advanced handle reply .ended present
    have after : answering { reply with stage := .ended } = [] := rfl
    rw [after] at balance
    simp only [Serve.State.advance, List.count_nil] at balance ⊢
    omega
  | answered handle reply payload accepted present held =>
    have balance := advanced handle reply .receiving present
    have before : answering reply = [(reply.sock, payload)] := by rw [answering, held]
    have after : answering { reply with stage := .receiving } = [] := rfl
    rw [before, after] at balance
    simp only [Serve.State.advance, List.count_nil] at balance ⊢
    rw [List.flatMap_append, List.count_append]
    cases accepted with
    | false => simp; omega
    | true => simp [answered]; omega

/-- What the local sources send. -/
def received : Action → List Content
  | .near own => receivedBy own
  | _ => []

/-- What the local services reply. -/
def replied : Action → List Answer
  | .far own => repliedBy own
  | _ => []

/-- A step is one of either side that reads nothing, or takes what it reads out of
the outbox of the other side. -/
theorem step_cases {checks : Bool} {peer : EndpointId} {state next : State} {action : Action}
    (taken : step checks peer state action = some next) :
    (∃ own near, action = .near own ∧ returnedBy own = [] ∧
      Connect.Effect checks state.near own near ∧ next = { state with near }) ∨
    (∃ own far, action = .far own ∧ arrivedBy own = [] ∧
      Serve.Effect peer state.far own far ∧ next = { state with far }) ∨
    (∃ index bytes origin far, action = .arrive index ∧
      state.near.outbox[index]? = some (bytes, origin) ∧
      Serve.Effect peer state.far (.read origin bytes) far ∧
      next = { near := { state.near with outbox := state.near.outbox.eraseIdx index }, far }) ∨
    (∃ index generation reply near, action = .answer index generation ∧
      state.far.outbox[index]? = some reply ∧
      Connect.Effect checks state.near (.read generation reply.bytes reply.sock) near ∧
      next = { near, far := { state.far with outbox := state.far.outbox.eraseIdx index } }) := by
  unfold step at taken
  split at taken
  · cases taken
  · cases taken
  · rename_i own notRead
    obtain ⟨near, moved, rfl⟩ := Option.map_eq_some_iff.mp taken
    refine Or.inl ⟨own, near, rfl, ?_, Connect.step_effect checks _ _ own moved, rfl⟩
    cases own with
    | read generation bytes via => exact (notRead generation bytes via rfl).elim
    | _ => rfl
  · rename_i own notRead
    obtain ⟨far, moved, rfl⟩ := Option.map_eq_some_iff.mp taken
    refine Or.inr (Or.inl ⟨own, far, rfl, ?_, Serve.step_effect peer _ _ own moved, rfl⟩)
    cases own with
    | read origin bytes => exact (notRead origin bytes rfl).elim
    | _ => rfl
  · rename_i index
    split at taken
    · cases taken
    · rename_i bytes origin found
      obtain ⟨far, moved, rfl⟩ := Option.map_eq_some_iff.mp taken
      exact Or.inr (Or.inr (Or.inl ⟨index, bytes, origin, far, rfl, found,
        Serve.step_effect peer _ _ _ moved, rfl⟩))
  · rename_i index generation
    split at taken
    · cases taken
    · rename_i reply found
      obtain ⟨near, moved, rfl⟩ := Option.map_eq_some_iff.mp taken
      exact Or.inr (Or.inr (Or.inr ⟨index, generation, reply, near, rfl, found,
        Connect.step_effect checks _ _ _ moved, rfl⟩))

/-- The step lemma for the way to the serving side. -/
theorem up_conserved (checks : Bool) (peer : EndpointId) :
    Conserves (step checks peer) (fun _ => True) (fun state => nearUp state.near ++ farUp state.far)
      received := by
  refine ⟨fun _ _ _ _ _ => trivial, ?_⟩
  intro state action next _ taken value
  simp only [List.count_append]
  rcases step_cases taken with ⟨own, near, rfl, _, effect, rfl⟩ | ⟨own, far, rfl, none, effect, rfl⟩ |
    ⟨index, bytes, origin, far, rfl, found, effect, rfl⟩ |
    ⟨index, generation, reply, near, rfl, found, effect, rfl⟩
  · have counted := nearUp_conserved effect value
    simp only [received]
    omega
  · have counted := farUp_conserved effect value
    simp only [none, List.count_nil] at counted ⊢
    omega
  · have counted := farUp_conserved effect value
    have left := count_flatMap_eraseIdx (fun (bytes, origin) => framed origin bytes) found value
    simp only [nearUp, List.count_append, arrivedBy] at counted left ⊢
    omega
  · have counted := nearUp_conserved effect value
    simp only [receivedBy, List.count_nil, farUp] at counted ⊢
    omega

/-- The step lemma for the way back. -/
theorem down_conserved (checks : Bool) (peer : EndpointId) :
    Conserves (step checks peer) (fun state => Numbered state.far)
      (fun state => farDown state.far ++ nearDown state.near) replied := by
  constructor
  · intro state action next numbered taken
    rcases step_cases taken with ⟨_, _, _, _, _, rfl⟩ | ⟨_, _, _, _, effect, rfl⟩ |
      ⟨_, _, _, _, _, _, effect, rfl⟩ | ⟨_, _, _, _, _, _, _, rfl⟩
    · exact numbered
    · exact numbered.step effect
    · exact numbered.step effect
    · exact ⟨numbered.alike, numbered.handles⟩
  · intro state action next numbered taken value
    simp only [List.count_append]
    rcases step_cases taken with ⟨own, near, rfl, none, effect, rfl⟩ | ⟨own, far, rfl, _, effect, rfl⟩ |
      ⟨index, bytes, origin, far, rfl, found, effect, rfl⟩ |
      ⟨index, generation, reply, near, rfl, found, effect, rfl⟩
    · have counted := nearDown_conserved effect value
      simp only [none, List.count_nil] at counted ⊢
      omega
    · have counted := farDown_conserved numbered effect value
      simp only [replied]
      omega
    · have counted := farDown_conserved numbered effect value
      simp only [repliedBy, List.count_nil, nearDown] at counted ⊢
      omega
    · have counted := nearDown_conserved effect value
      have left := count_flatMap_eraseIdx (fun (reply : Serve.Outgoing) =>
        answered reply.sock reply.bytes) found value
      simp only [farDown, List.count_append, returnedBy] at counted left ⊢
      omega

/-- Nothing is doubled or made up on either way: in every run, counted with
multiplicity, the payloads that local services are given are among the ones that
the forwarders received from the same source, and the payloads that local sources
are given are among the ones that were received on the same session socket. This
holds across edits, respawned forwarders, reused session ids and any delay or
loss. -/
theorem datagrams_at_most_once (checks : Bool) (peer : EndpointId)
    (channel : Watch.Channel Config) (receiver : Watch.Receiver) (listeners : Listeners)
    (runtime : Runtime) (now : Instant) (farChannel : Watch.Channel Config) (farNow : Instant)
    (actions : List Action) (last : State)
    (reached : run (step checks peer)
      (initial channel receiver listeners runtime now farChannel farNow) actions = some last) :
    (last.far.sent.map (fun sent => contentOf sent.datagram.tag sent.datagram.payload)).Subperm
        (actions.flatMap received) ∧
      (last.near.handed.map (fun handed => (handed.via, handed.payload))).Subperm
        (actions.flatMap replied) := by
  constructor
  · have nothing : nearUp (Connect.initial channel receiver listeners runtime now) = [] := by
      simp [nearUp, Connect.initial, forwarding, spawnForwarders, waiting, List.flatMap_map]
    have within := (up_conserved checks peer).subperm _ last actions trivial
      (by rw [initial, nothing]; rfl) reached
    refine List.Subperm.trans (List.Sublist.subperm ?_) within
    exact ((List.sublist_append_right _ _).trans (List.sublist_append_right _ _))
  · have nothing : nearDown (Connect.initial channel receiver listeners runtime now) = [] := by
      unfold nearDown Connect.initial returning spawnForwarders
      cases listeners.udp.isEmpty <;> rfl
    have within := (down_conserved checks peer).subperm _ last actions
      ⟨rfl, fun _ _ impossible => by cases impossible⟩ (by rw [initial, nothing]; rfl) reached
    refine List.Subperm.trans (List.Sublist.subperm ?_) within
    exact ((List.sublist_append_right _ _).trans (List.sublist_append_right _ _))

/-- A source sends the same payload twice, the second of which is lost, and is
answered. -/
def queryTwice : List Action :=
  .far .subscribe :: forwardOpening 0 (localSource 40000) [1, 2] ++
    [.near (.receive 0 0 (localSource 40000) [1, 2]), .near (.forward 0 0 false)] ++ replyTo 0 0 [3]

/-- A query is sent twice and answered once, while one of the two datagrams is
lost: what was given to either side was sent to it. -/
theorem query_at_most_once :
    ∃ last, run (step true laptop) (established [udpBinding 5353 53]) queryTwice = some last ∧
      last.near.handed.length = 1 ∧
      (last.far.sent.map (fun sent => contentOf sent.datagram.tag sent.datagram.payload)).Subperm
        [(0, localSource 40000, [1, 2]), (0, localSource 40000, [1, 2])] := by
  have evaluated : (run (step true laptop) (established [udpBinding 5353 53]) queryTwice).map
      (fun last => last.near.handed.length) = some 1 := by decide +kernel
  obtain ⟨last, reached, handed⟩ := Option.map_eq_some_iff.mp evaluated
  refine ⟨last, reached, handed, ?_⟩
  exact (datagrams_at_most_once true laptop (Watch.Channel.new (bindings [udpBinding 5353 53]))
    { seen := 0 } (listening [udpBinding 5353 53]).listeners
    (listening [udpBinding 5353 53]).runtime 0 (Watch.Channel.new (offering true)) 0 queryTwice last
    reached).1

end Rtun.Tunnel
