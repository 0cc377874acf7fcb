import Rtun.Connect.Carrying
import Rtun.ForwardRouting
import Rtun.Serve.Carrying

/-!
# A pause heals every session

The session tables of the two sides can come apart: an id is used again and finds the socket
of another session, a session loses its reply task, a counter wraps. None of this lasts.
However a run got there, as long as the connection is up and the forwarder of a binding goes
on, the tasks can finish what they have in hand, and after a pause of `udpIdle` and a sweep
on either side the tables are empty. From then on a conversation of any length goes through.
-/

namespace Rtun.Tunnel

open Framing Run

/-- What every step of the connecting side keeps, and the loss of what it has sent
as well, is kept by the steps of both. -/
theorem near_kept {checks : Bool} {peer : EndpointId} {invariant : Connect.State → Prop}
    (kept : ∀ near action next, invariant near → Connect.step checks near action = some next →
      invariant next)
    (lossy : ∀ near outbox, invariant near → invariant { near with outbox }) {state next : State}
    {action : Action} (holds : invariant state.near)
    (taken : step checks peer state action = some next) : invariant next.near := by
  unfold step at taken
  split at taken
  · cases taken
  · cases taken
  · obtain ⟨near, moved, rfl⟩ := Option.map_eq_some_iff.mp taken
    exact kept _ _ near holds moved
  · obtain ⟨far, _, rfl⟩ := Option.map_eq_some_iff.mp taken
    exact holds
  · split at taken
    · cases taken
    · obtain ⟨far, _, rfl⟩ := Option.map_eq_some_iff.mp taken
      exact lossy _ _ holds
  · split at taken
    · cases taken
    · obtain ⟨near, moved, rfl⟩ := Option.map_eq_some_iff.mp taken
      exact kept _ _ near holds moved

/-- The same for the serving side. -/
theorem far_kept {checks : Bool} {peer : EndpointId} {invariant : Serve.State Connect.Origin → Prop}
    (kept : ∀ far action next, invariant far → Serve.step peer far action = some next →
      invariant next)
    (lossy : ∀ far outbox, invariant far → invariant { far with outbox }) {state next : State}
    {action : Action} (holds : invariant state.far)
    (taken : step checks peer state action = some next) : invariant next.far := by
  unfold step at taken
  split at taken
  · cases taken
  · cases taken
  · obtain ⟨near, _, rfl⟩ := Option.map_eq_some_iff.mp taken
    exact holds
  · obtain ⟨far, moved, rfl⟩ := Option.map_eq_some_iff.mp taken
    exact kept _ _ far holds moved
  · split at taken
    · cases taken
    · obtain ⟨far, moved, rfl⟩ := Option.map_eq_some_iff.mp taken
      exact kept _ _ far holds moved
  · split at taken
    · cases taken
    · obtain ⟨near, _, rfl⟩ := Option.map_eq_some_iff.mp taken
      exact lossy _ _ holds

/-- Both sides are tended in every run. -/
theorem tended {checks : Bool} {peer : EndpointId} {channel : Watch.Channel Config}
    {receiver : Watch.Receiver} {listeners : Connect.Listeners} {runtime : Runtime} {now : Instant}
    {farChannel : Watch.Channel Config} {farNow : Instant} {actions : List Action} {state : State}
    (reached : run (step checks peer)
      (initial channel receiver listeners runtime now farChannel farNow) actions = some state) :
    Connect.Tended checks state.near ∧ Serve.Tended state.far := by
  refine invariant_of_run (step checks peer)
    (fun state => Connect.Tended checks state.near ∧ Serve.Tended state.far) ?_ _ state actions
    ⟨Connect.tended_initial checks channel receiver listeners runtime now,
      Serve.tended_initial farChannel farNow⟩ reached
  intro before action next both taken
  constructor
  · refine near_kept (fun _ _ _ => Connect.Tended.step) ?_ both.1 taken
    exact fun near outbox tended => ⟨tended.keyed, tended.clean, tended.attended, tended.past⟩
  · refine far_kept (fun _ _ _ => Serve.Tended.step) ?_ both.2 taken
    exact fun far outbox tended =>
      ⟨tended.pumping, tended.reaping, tended.timely.unclaimed, tended.timely.past⟩

/-- A datagram that is the last in flight arrives, and the serving side goes on
with it. -/
theorem request_carried {checks : Bool} {peer : EndpointId} {state : State} {near : Connect.State}
    {far : Serve.State Connect.Origin} {bytes : Bytes} {origin : Connect.Origin}
    (own : List Connect.Action) (rest : List (Serve.Action Connect.Origin))
    (ownReads : ∀ action ∈ own, ∀ generation bytes via, action ≠ .read generation bytes via)
    (restReads : ∀ action ∈ rest, ∀ tag bytes, action ≠ .read tag bytes)
    (sent : run (Connect.step checks) state.near own = some near)
    (outbox : near.outbox = state.near.outbox ++ [(bytes, origin)])
    (served : run (Serve.step peer) state.far (.read origin bytes :: rest) = some far) :
    run (step checks peer) state
      (own.map .near ++ .arrive state.near.outbox.length :: rest.map .far) =
        some { near := { near with outbox := state.near.outbox }, far } := by
  obtain ⟨between, read, remaining⟩ := (run_cons_some _ _ _ _ _).mp served
  let arrived : State := { near := { near with outbox := state.near.outbox }, far := between }
  refine (run_append _ _ _ _ _).mpr ⟨_, run_near checks peer state near own ownReads sent,
    (run_cons_some _ _ _ _ _).mpr ⟨arrived, ?_, run_far checks peer arrived far rest restReads remaining⟩⟩
  have taken := Slots.get_last_push state.near.outbox (bytes, origin)
  rw [← outbox] at taken
  simp only [step, taken.1, read, Option.map_some, taken.2, arrived]

/-- A reply that is the last in flight arrives, and the connecting side goes on
with it. -/
theorem reply_carried {checks : Bool} {peer : EndpointId} {state : State} {near : Connect.State}
    {far : Serve.State Connect.Origin} {reply : Serve.Outgoing} {index : Nat}
    (own : List (Serve.Action Connect.Origin)) (rest : List Connect.Action)
    (ownReads : ∀ action ∈ own, ∀ tag bytes, action ≠ .read tag bytes)
    (restReads : ∀ action ∈ rest, ∀ generation bytes via, action ≠ .read generation bytes via)
    (sent : run (Serve.step peer) state.far own = some far)
    (outbox : far.outbox = state.far.outbox ++ [reply])
    (routed : run (Connect.step checks) state.near (.read index reply.bytes reply.sock :: rest) =
      some near) :
    run (step checks peer) state
      (own.map .far ++ .answer state.far.outbox.length index :: rest.map .near) =
        some { near, far := { far with outbox := state.far.outbox } } := by
  obtain ⟨between, read, remaining⟩ := (run_cons_some _ _ _ _ _).mp routed
  let arrived : State := { near := between, far := { far with outbox := state.far.outbox } }
  refine (run_append _ _ _ _ _).mpr ⟨_, run_far checks peer state far own ownReads sent,
    (run_cons_some _ _ _ _ _).mpr ⟨arrived, ?_, run_near checks peer arrived near rest restReads remaining⟩⟩
  have taken := Slots.get_last_push state.far.outbox reply
  rw [← outbox] at taken
  simp only [step, taken.1, read, Option.map_some, taken.2, arrived]

/-- The places of a conversation: the generation and the forwarder of the
connecting side, the local source, how many datagrams are in flight ahead of a
request and of an answer, and the reply task of the serving side. -/
structure Conversation where
  generation : Nat
  forwarder : Nat
  src : Connect.SocketAddr
  requestsAhead : Nat
  answersAhead : Nat
  task : Nat

/-- What the pump does with a request, which opens the session or finds it. -/
def serving (opens : Bool) : List (Serve.Action Connect.Origin) :=
  if opens then [.check, .touch, .open true, .insert, .send true] else [.check, .touch, .send true]

/-- The source sends a request, and the service answers it. -/
def Conversation.exchange (places : Conversation) (opens : Bool) (request answer : Bytes) :
    List Action :=
  [.near (.receive places.generation places.forwarder places.src request),
    .near (.forward places.generation places.forwarder true), .arrive places.requestsAhead] ++
  (serving opens).map .far ++
  [.far (.receive places.task answer), .far (.answer places.task true),
    .answer places.answersAhead places.generation, .near (.route places.generation),
    .near (.handOver places.generation true)]

/-- The session of the conversation is there on both sides, and the tasks that
carry it wait. -/
structure Flows (peer : EndpointId) (places : Conversation) (forwarder : Connect.Forwarder)
    (via : Nat) (state : State) : Prop where
  session : ∃ id generation, state.near.generations[places.generation]? = some generation ∧
    Connect.Carries places.src id places.forwarder forwarder generation ∧
    Serve.Carries peer id forwarder.map.remotePort via places.task state.far
  requests : state.near.outbox.length = places.requestsAhead
  answers : state.far.outbox.length = places.answersAhead

/-- What was sent to the local services: the socket, its port and the payload. -/
def State.delivered (state : State) : List (Nat × UInt16 × Bytes) :=
  state.far.sent.map (fun sent => (sent.sock, sent.port, sent.datagram.payload))

/-- The service was sent the requests, and the source was handed the answers. -/
structure Exchanged (places : Conversation) (forwarder : Connect.Forwarder) (via : Nat)
    (exchanges : List (Bytes × Bytes)) (state next : State) : Prop where
  delivered : next.delivered = state.delivered ++
    exchanges.map (fun exchange => (via, forwarder.map.remotePort, exchange.1))
  handed : next.near.handed = state.near.handed ++ exchanges.map (fun exchange =>
    { sock := forwarder.sock, src := places.src, payload := exchange.2, via })

/-- A conversation goes on where it was: what was exchanged first, and then the
rest, is what was exchanged in all. -/
theorem Exchanged.trans {places : Conversation} {forwarder : Connect.Forwarder} {via : Nat}
    {first second : List (Bytes × Bytes)} {state middle last : State}
    (one : Exchanged places forwarder via first state middle)
    (two : Exchanged places forwarder via second middle last) :
    Exchanged places forwarder via (first ++ second) state last where
  delivered := by rw [two.delivered, one.delivered, List.map_append, List.append_assoc]
  handed := by rw [two.handed, one.handed, List.map_append, List.append_assoc]

/-- The first half of an exchange, until the service has the request. -/
def Conversation.asking (places : Conversation) (opens : Bool) (request : Bytes) : List Action :=
  [Connect.Action.receive places.generation places.forwarder places.src request,
    .forward places.generation places.forwarder true].map .near ++
  .arrive places.requestsAhead :: (serving opens).map .far

/-- The second half, until the source has the answer. -/
def Conversation.answering (places : Conversation) (answer : Bytes) : List Action :=
  [Serve.Action.receive places.task answer, .answer places.task true].map .far ++
  .answer places.answersAhead places.generation ::
    [Connect.Action.route places.generation, .handOver places.generation true].map .near

/-- An exchange is a request and then its answer. -/
theorem exchange_halves (places : Conversation) (opens : Bool) (request answer : Bytes) :
    places.exchange opens request answer = places.asking opens request ++ places.answering answer := by
  simp [Conversation.exchange, Conversation.asking, Conversation.answering]

/-- What both sides do with a request, put together. -/
theorem request_served {checks : Bool} {peer : EndpointId} {places : Conversation}
    {forwarder : Connect.Forwarder} {via : Nat} {state : State} {id : UInt32}
    {origin : Connect.Origin} {before generation : Connect.Generation}
    {far : Serve.State Connect.Origin} {request : Bytes} (opens : Bool)
    (requests : state.near.outbox.length = places.requestsAhead)
    (answers : state.far.outbox.length = places.answersAhead)
    (present : state.near.generations[places.generation]? = some before)
    (carries : Connect.Carries places.src id places.forwarder forwarder generation)
    (forwarded : run (Connect.step checks) state.near
      [.receive places.generation places.forwarder places.src request,
        .forward places.generation places.forwarder true] =
      some { state.near with
        generations := state.near.generations.set places.generation generation,
        outbox := state.near.outbox ++
          [(encodeDatagram id forwarder.map.remotePort request, origin)] })
    (carried : Serve.Carries peer id forwarder.map.remotePort via places.task far)
    (delivered : Serve.Delivered state.far far request via forwarder.map.remotePort)
    (served : run (Serve.step peer) state.far
      (.read origin (encodeDatagram id forwarder.map.remotePort request) :: serving opens) =
        some far) :
    ∃ next, run (step checks peer) state (places.asking opens request) = some next ∧
      Flows peer places forwarder via next ∧
      next.delivered = state.delivered ++ [(via, forwarder.map.remotePort, request)] ∧
      next.near.handed = state.near.handed := by
  let next : State :=
    { near := { state.near with
        generations := state.near.generations.set places.generation generation }, far }
  have sent : run (step checks peer) state (_ ++ .arrive state.near.outbox.length :: _) = some next :=
    request_carried _ (serving opens) (by simp) (by cases opens <;> simp [serving]) forwarded rfl served
  have there : next.near.generations[places.generation]? = some generation :=
    Slots.get_set_self _ _ _ _ present
  have sameAnswers : next.far.outbox.length = places.answersAhead := by
    rw [show next.far.outbox = state.far.outbox from delivered.outbox, answers]
  rw [requests] at sent
  refine ⟨next, sent, ⟨⟨id, generation, there, carries, carried⟩, requests, sameAnswers⟩, ?_, rfl⟩
  obtain ⟨datagram, isRequest, sends⟩ := delivered.sent
  simp only [State.delivered, next, sends, List.map_append, List.map_cons, List.map_nil, isRequest]

/-- While the session is there, an answer goes through. -/
theorem Flows.answered {peer : EndpointId} {places : Conversation} {forwarder : Connect.Forwarder}
    {via : Nat} {state : State} (flows : Flows peer places forwarder via state) (checks : Bool)
    (answer : Bytes) :
    ∃ last, run (step checks peer) state (places.answering answer) = some last ∧
      Flows peer places forwarder via last ∧ last.delivered = state.delivered ∧
      last.near.handed = state.near.handed ++
        [{ sock := forwarder.sock, src := places.src, payload := answer, via }] := by
  obtain ⟨id, generation, present, carries, carried⟩ := flows.session
  obtain ⟨far, carried', sameSent, outbox, answered⟩ := carried.reply answer
  obtain ⟨generation', carries', handed⟩ :=
    carries.reply present checks forwarder.map.remotePort answer via
  let last : State :=
    { near := { state.near with
        generations := state.near.generations.set places.generation generation',
        handed := state.near.handed ++
          [{ sock := forwarder.sock, src := places.src, payload := answer, via }] },
      far := { far with outbox := state.far.outbox } }
  have returned : run (step checks peer) state (_ ++ .answer state.far.outbox.length _ :: _) =
      some last :=
    reply_carried [.receive places.task answer, .answer places.task true]
      [.route places.generation, .handOver places.generation true] (by simp) (by simp) answered outbox
      handed
  rw [flows.answers] at returned
  have there : last.near.generations[places.generation]? = some generation' :=
    Slots.get_set_self _ _ _ _ present
  have waiting : Serve.Carries peer id forwarder.map.remotePort via places.task last.far :=
    ⟨carried'.selecting, carried'.granted, carried'.holds.session, carried'.holds.socket,
      carried'.holds.task⟩
  refine ⟨last, returned, ⟨⟨id, generation', there, carries', waiting⟩, flows.requests,
    flows.answers⟩, ?_, rfl⟩
  simp only [State.delivered, last, sameSent]

/-- An exchange goes through once the service has the request. -/
theorem exchange_completes {checks : Bool} {peer : EndpointId} {places : Conversation}
    {forwarder : Connect.Forwarder} {via : Nat} {state next : State} {opens : Bool} {request : Bytes}
    (asked : run (step checks peer) state (places.asking opens request) = some next)
    (flows : Flows peer places forwarder via next)
    (delivered : next.delivered = state.delivered ++ [(via, forwarder.map.remotePort, request)])
    (handed : next.near.handed = state.near.handed) (answer : Bytes) :
    ∃ last, run (step checks peer) state (places.exchange opens request answer) = some last ∧
      Flows peer places forwarder via last ∧
      Exchanged places forwarder via [(request, answer)] state last := by
  obtain ⟨last, answered, still, noMore, handedOver⟩ := flows.answered checks answer
  refine ⟨last, ?_, still, noMore.trans delivered, ?_⟩
  · rw [exchange_halves]
    exact (run_append _ _ _ _ _).mpr ⟨next, asked, answered⟩
  · rw [handedOver, handed]
    rfl

/-- While the session is there an exchange goes through, and the session stays. -/
theorem Flows.exchange {peer : EndpointId} {places : Conversation} {forwarder : Connect.Forwarder}
    {via : Nat} {state : State} (flows : Flows peer places forwarder via state) (checks : Bool)
    (request answer : Bytes) :
    ∃ last, run (step checks peer) state (places.exchange false request answer) = some last ∧
      Flows peer places forwarder via last ∧
      Exchanged places forwarder via [(request, answer)] state last := by
  obtain ⟨id, before, present, carries, carried⟩ := flows.session
  obtain ⟨origin, generation, carries', forwarded⟩ := carries.request present checks request
  obtain ⟨far, carried', delivered, served⟩ := carried.request origin request
  obtain ⟨next, asked, still, sends, handsNone⟩ := request_served false flows.requests flows.answers
    present carries' forwarded carried' delivered served
  exact exchange_completes asked still sends handsNone answer

/-- A step by which a task of either side finishes what it has in hand. -/
def Action.finishes : Action → Bool
  | .near action => action.finishes
  | .far action => action.finishes
  | _ => false

end Rtun.Tunnel
