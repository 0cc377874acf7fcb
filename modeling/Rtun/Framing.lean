import Mathlib.Data.List.Basic

/-!
# Wire framing

A datagram is a big-endian `u32` session id, a big-endian `u16` target port and
the payload. The port travels in each datagram, since a setup message could be
the one that gets lost. A TCP data stream opens with the target port alone.
-/

namespace Rtun.Framing

/-- A byte string, as a buffer or a datagram holds it. -/
abbrev Bytes := List UInt8

/-- The session id and the target port in front of every datagram. -/
def datagramHeader : Nat := 6

/-- `u16::to_be_bytes`: the most significant byte first. -/
def toBeBytes16 (value : UInt16) : Bytes :=
  [UInt8.ofNat (value.toNat / 0x100), UInt8.ofNat value.toNat]

/-- `u32::to_be_bytes`. -/
def toBeBytes32 (value : UInt32) : Bytes :=
  [UInt8.ofNat (value.toNat / 0x1000000), UInt8.ofNat (value.toNat / 0x10000),
    UInt8.ofNat (value.toNat / 0x100), UInt8.ofNat value.toNat]

/-- The number that a big-endian byte string stands for. -/
def fromBeBytes (bytes : Bytes) : Nat :=
  bytes.foldl (fun value byte => value * 0x100 + byte.toNat) 0

/-- Frame one payload for the session and the port it is meant for. -/
def encodeDatagram (session : UInt32) (port : UInt16) (payload : Bytes) : Bytes :=
  toBeBytes32 session ++ toBeBytes16 port ++ payload

/-- Nothing for a datagram shorter than the header: a truncated datagram has no
session to route it to. -/
def decodeDatagram (dg : Bytes) : Option (UInt32 × UInt16 × Bytes) :=
  if dg.length < datagramHeader then none
  else
    let session := UInt32.ofNat (fromBeBytes (dg.take 4))
    let port := UInt16.ofNat (fromBeBytes ((dg.drop 4).take 2))
    some (session, port, dg.drop datagramHeader)

/-- Reading back the two bytes of a port gives the port. -/
theorem fromBeBytes_toBeBytes16 (value : UInt16) :
    UInt16.ofNat (fromBeBytes (toBeBytes16 value)) = value := by
  have bound : value.toNat < 0x10000 := value.toNat_lt
  apply UInt16.toNat_inj.mp
  simp only [fromBeBytes, toBeBytes16, List.foldl_cons, List.foldl_nil, UInt8.toNat_ofNat',
    UInt16.toNat_ofNat']
  omega

/-- Reading back the four bytes of a session id gives the id. -/
theorem fromBeBytes_toBeBytes32 (value : UInt32) :
    UInt32.ofNat (fromBeBytes (toBeBytes32 value)) = value := by
  have bound : value.toNat < 0x100000000 := value.toNat_lt
  apply UInt32.toNat_inj.mp
  simp only [fromBeBytes, toBeBytes32, List.foldl_cons, List.foldl_nil, UInt8.toNat_ofNat',
    UInt32.toNat_ofNat']
  omega

/-- What was framed is what is read: the id, the port and the whole payload, for
payloads of any length. -/
@[simp] theorem decode_encode (session : UInt32) (port : UInt16) (payload : Bytes) :
    decodeDatagram (encodeDatagram session port payload) = some (session, port, payload) := by
  have long : ¬ (encodeDatagram session port payload).length < datagramHeader := by
    simp [encodeDatagram, toBeBytes32, toBeBytes16, datagramHeader]
  have first : (encodeDatagram session port payload).take 4 = toBeBytes32 session := rfl
  have second : ((encodeDatagram session port payload).drop 4).take 2 = toBeBytes16 port := rfl
  have rest : (encodeDatagram session port payload).drop datagramHeader = payload := rfl
  simp only [decodeDatagram, long, if_false, first, second, rest, fromBeBytes_toBeBytes16,
    fromBeBytes_toBeBytes32]

/-- The bytes of a number read from four bytes are those bytes. -/
theorem toBeBytes32_fromBeBytes (first second third fourth : UInt8) :
    toBeBytes32 (UInt32.ofNat (fromBeBytes [first, second, third, fourth])) =
      [first, second, third, fourth] := by
  have bounds : first.toNat < 0x100 ∧ second.toNat < 0x100 ∧ third.toNat < 0x100 ∧
      fourth.toNat < 0x100 := ⟨first.toNat_lt, second.toNat_lt, third.toNat_lt, fourth.toNat_lt⟩
  simp only [toBeBytes32, fromBeBytes, List.foldl_cons, List.foldl_nil, UInt32.toNat_ofNat',
    List.cons.injEq, and_true, ← UInt8.toNat_inj, UInt8.toNat_ofNat']
  omega

/-- The bytes of a number read from two bytes are those bytes. -/
theorem toBeBytes16_fromBeBytes (first second : UInt8) :
    toBeBytes16 (UInt16.ofNat (fromBeBytes [first, second])) = [first, second] := by
  have bounds : first.toNat < 0x100 ∧ second.toNat < 0x100 := ⟨first.toNat_lt, second.toNat_lt⟩
  simp only [toBeBytes16, fromBeBytes, List.foldl_cons, List.foldl_nil, UInt16.toNat_ofNat',
    List.cons.injEq, and_true, ← UInt8.toNat_inj, UInt8.toNat_ofNat']
  omega

/-- A datagram is refused exactly when it is shorter than the header. An empty
payload is no reason to refuse it. -/
theorem decode_none_iff (dg : Bytes) : decodeDatagram dg = none ↔ dg.length < datagramHeader := by
  by_cases short : dg.length < datagramHeader <;> simp [decodeDatagram, short]

/-- A datagram that is long enough is its header and the payload, given byte by
byte so that the numbers can be read off. -/
theorem long_datagram (dg : Bytes) (long : datagramHeader ≤ dg.length) :
    ∃ s₁ s₂ s₃ s₄ p₁ p₂ payload, dg = s₁ :: s₂ :: s₃ :: s₄ :: p₁ :: p₂ :: payload := by
  match dg, long with
  | s₁ :: s₂ :: s₃ :: s₄ :: p₁ :: p₂ :: payload, _ => exact ⟨s₁, s₂, s₃, s₄, p₁, p₂, payload, rfl⟩

/-- Framing what was read gives back the very same bytes, so no two datagrams of
the wire mean the same. -/
theorem encode_decode (dg : Bytes) (session : UInt32) (port : UInt16) (payload : Bytes)
    (decoded : decodeDatagram dg = some (session, port, payload)) :
    encodeDatagram session port payload = dg := by
  have long : datagramHeader ≤ dg.length := by
    have accepted : ¬ dg.length < datagramHeader := by
      rw [← decode_none_iff, decoded]
      simp
    omega
  obtain ⟨s₁, s₂, s₃, s₄, p₁, p₂, rest, rfl⟩ := long_datagram dg long
  rw [decodeDatagram, if_neg (Nat.not_lt.mpr long)] at decoded
  cases decoded
  exact congrArg₂ (· ++ ·) (congrArg₂ (· ++ ·) (toBeBytes32_fromBeBytes s₁ s₂ s₃ s₄)
    (toBeBytes16_fromBeBytes p₁ p₂)) rfl

/-- A slice of a byte string, with its bounds checked: nothing stands for a
panic. -/
def slice (bytes : Bytes) (start stop : Nat) : Option Bytes :=
  if start ≤ stop ∧ stop ≤ bytes.length then some ((bytes.take stop).drop start) else none

/-- `try_into().unwrap()` of a slice into an array of this length. -/
def intoArray (length : Nat) (bytes : Bytes) : Option Bytes :=
  if bytes.length = length then some bytes else none

/-- `decode_datagram` with every slice and every conversion checked. -/
def decodeChecked (dg : Bytes) : Option (Option (UInt32 × UInt16 × Bytes)) :=
  if dg.length < datagramHeader then some none
  else do
    let session ← intoArray 4 (← slice dg 0 4)
    let port ← intoArray 2 (← slice dg 4 6)
    let payload ← slice dg datagramHeader dg.length
    some (some (UInt32.ofNat (fromBeBytes session), UInt16.ofNat (fromBeBytes port), payload))

/-- No check fails, for a datagram of any length: the length is tested before the
slices are taken. -/
theorem decodeChecked_eq (dg : Bytes) : decodeChecked dg = some (decodeDatagram dg) := by
  by_cases short : dg.length < datagramHeader
  · rw [decodeChecked, decodeDatagram, if_pos short, if_pos short]
  · obtain ⟨s₁, s₂, s₃, s₄, p₁, p₂, payload, rfl⟩ := long_datagram dg (Nat.le_of_not_lt short)
    rw [decodeChecked, decodeDatagram, if_neg short, if_neg short]
    simp [slice, intoArray, datagramHeader]

/-- `write_all`: the bytes follow what the stream carries already. -/
def writeAll (stream bytes : Bytes) : Bytes := stream ++ bytes

/-- `read_exact`: the bytes asked for, and what stays unread; nothing if the
stream ends before. -/
def readExact (count : Nat) (unread : Bytes) : Option (Bytes × Bytes) :=
  if unread.length < count then none else some (unread.take count, unread.drop count)

/-- Open a TCP data stream with the target port. -/
def writeTargetPort (stream : Bytes) (port : UInt16) : Bytes := writeAll stream (toBeBytes16 port)

def readTargetPort (unread : Bytes) : Option (UInt16 × Bytes) := do
  let (bytes, rest) ← readExact 2 unread
  some (UInt16.ofNat (fromBeBytes bytes), rest)

/-- A stream is read as the port it was opened with, and what follows stays
unread. -/
theorem read_write_port (port : UInt16) (following : Bytes) :
    readTargetPort (writeAll (writeTargetPort [] port) following) = some (port, following) := by
  have long : ¬ (writeAll (writeTargetPort [] port) following).length < 2 := by
    simp [writeAll, writeTargetPort, toBeBytes16]
  have first : (writeAll (writeTargetPort [] port) following).take 2 = toBeBytes16 port := rfl
  have rest : (writeAll (writeTargetPort [] port) following).drop 2 = following := rfl
  simp only [readTargetPort, readExact, long, if_false, first, rest, Option.bind_eq_bind,
    Option.bind_some, fromBeBytes_toBeBytes16]

/-- A port is read exactly from the two bytes that it is written as, and what
comes after them is left for the copiers. -/
theorem readTargetPort_some_iff (unread rest : Bytes) (port : UInt16) :
    readTargetPort unread = some (port, rest) ↔ unread = toBeBytes16 port ++ rest := by
  constructor
  · intro read
    match unread, read with
    | first :: second :: others, read =>
      simp only [readTargetPort, readExact, List.length_cons, Option.bind_eq_bind] at read
      rw [if_neg (by omega)] at read
      cases read
      exact congrArg (· ++ others) (toBeBytes16_fromBeBytes first second).symm
  · rintro rfl
    exact read_write_port port rest

/-- Two bytes are enough for a port, and fewer are not. -/
theorem readTargetPort_isSome_iff (unread : Bytes) :
    (readTargetPort unread).isSome = true ↔ 2 ≤ unread.length := by
  by_cases short : unread.length < 2
  · simp [readTargetPort, readExact, short]
  · simp [readTargetPort, readExact, short, Nat.not_lt.mp short]

/-- The wire format is a bijection on its image: what is framed is what is read, a
datagram is refused exactly when it is shorter than the header and is otherwise
the frame of what is read from it, no slice is out of range, and a stream gives
back its port and its rest. -/
theorem wire_bijection :
    (∀ session port payload,
      decodeDatagram (encodeDatagram session port payload) = some (session, port, payload)) ∧
    (∀ dg, (decodeDatagram dg = none ↔ dg.length < 6) ∧
      (∀ session port payload, decodeDatagram dg = some (session, port, payload) →
        encodeDatagram session port payload = dg) ∧
      decodeChecked dg = some (decodeDatagram dg)) ∧
    ∀ port following,
      readTargetPort (writeAll (writeTargetPort [] port) following) = some (port, following) :=
  ⟨decode_encode, fun dg => ⟨decode_none_iff dg, encode_decode dg, decodeChecked_eq dg⟩,
    read_write_port⟩

end Rtun.Framing
