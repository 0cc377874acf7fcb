import Rtun.Decimal
import Rtun.Startup
import Rtun.Text

/-!
# Port maps on the command line

The connecting side is told its bindings as texts of the form `LOCAL:REMOTE`. Which texts
are accepted, and for which part one is refused, is decided by what the parts stand for. No
port map that is accepted has port 0, so the bindings that are seeded from the command line
can be written; the ports of the serving side are not checked before that.
-/

namespace Rtun

open Text

/-- `str::parse::<u16>`. -/
def parsePort (text : List Char) : Option UInt16 :=
  (Decimal.parse UInt16.size text).map UInt16.ofNat

namespace PortMap

def expected (text : String) : Failure :=
  .message ("`" ++ text ++ "`: expected LOCAL:REMOTE, e.g. 2222:22")

def notPort (text which : String) : Failure :=
  .message ("`" ++ text ++ "`: " ++ which ++ " port must be 1-65535")

/-- One part of a port map. -/
def parsePart (text : String) (part : List Char) (which : String) : Fallible UInt16 :=
  match parsePort part with
  | none => .error (notPort text which)
  | some port => if port = 0 then .error (notPort text which) else .ok port

def fromStr (text : String) : Fallible PortMap :=
  match splitOnce ':' text.toList with
  | none => .error (expected text)
  | some (first, second) => do
      let localPort ← parsePart text first "local"
      let remotePort ← parsePart text second "remote"
      pure { localPort, remotePort }

def display (map : PortMap) : String :=
  toString map.localPort.toNat ++ ":" ++ toString map.remotePort.toNat

end PortMap

/-- The part of a text stands for a port that can be used. -/
def StandsFor (part : List Char) (port : UInt16) : Prop :=
  (∃ numeral, (part = numeral ∨ part = '+' :: numeral) ∧ Decimal.Numeral numeral port.toNat) ∧
    port ≠ 0

/-- Rust parses as a port what is a decimal numeral of at most 65535, with any
number of zeros and one plus sign in front. -/
theorem parsePort_some_iff (part : List Char) (port : UInt16) :
    parsePort part = some port ↔
      ∃ numeral, (part = numeral ∨ part = '+' :: numeral) ∧ Decimal.Numeral numeral port.toNat := by
  rw [parsePort, Option.map_eq_some_iff]
  constructor
  · rintro ⟨number, parsed, rfl⟩
    obtain ⟨numeral, front, stands, inRange⟩ :=
      (Decimal.parse_some_iff _ _ (by decide) _).mp parsed
    exact ⟨numeral, front, by rwa [UInt16.toNat_ofNat_of_lt' inRange]⟩
  · rintro ⟨numeral, front, stands⟩
    exact ⟨port.toNat, (Decimal.parse_some_iff _ _ (by decide) _).mpr
      ⟨numeral, front, stands, port.toNat_lt⟩, UInt16.ofNat_toNat⟩

/-- A part of a port map is accepted if it stands for a port, whichever of the two
parts it is. -/
theorem parsePart_ok_iff (text : String) (part : List Char) (which : String) (port : UInt16) :
    PortMap.parsePart text part which = .ok port ↔ StandsFor part port := by
  rw [StandsFor, ← parsePort_some_iff]
  unfold PortMap.parsePart
  split
  · rename_i notNumber
    simp [notNumber]
  · rename_i found isFound
    rw [isFound, Option.some.injEq]
    split
    · rename_i zero
      simp only [reduceCtorEq, false_iff, not_and, not_not]
      rintro rfl
      exact zero
    · rename_i usable
      rw [Except.ok.injEq]
      constructor
      · rintro rfl
        exact ⟨rfl, usable⟩
      · exact And.left

/-- The only failure of a part is that it is not a port, and its message names the
part and the whole text. -/
theorem parsePart_error_iff (text : String) (part : List Char) (which : String) (failure : Failure) :
    PortMap.parsePart text part which = .error failure ↔
      (¬ ∃ port, StandsFor part port) ∧ failure = PortMap.notPort text which := by
  have either : (∃ port, PortMap.parsePart text part which = .ok port) ∨
      PortMap.parsePart text part which = .error (PortMap.notPort text which) := by
    unfold PortMap.parsePart
    split
    · exact Or.inr rfl
    · split
      · exact Or.inr rfl
      · exact Or.inl ⟨_, rfl⟩
  simp only [← parsePart_ok_iff text part which]
  rcases either with ⟨port, isPort⟩ | refused
  · simp [isPort]
  · simp [refused, eq_comm]

/-- Nothing that stands for a port has a colon in it, so a second colon in a map
is an error of its remote part. -/
theorem StandsFor.noColon {part : List Char} {port : UInt16} (stands : StandsFor part port) :
    ':' ∉ part := by
  obtain ⟨⟨numeral, front, _, reads⟩, _⟩ := stands
  have noColon : ':' ∉ numeral := fun member => absurd (reads.digits ':' member) (by decide)
  rcases front with rfl | rfl
  · exact noColon
  · rw [List.mem_cons, not_or]
    exact ⟨by decide, noColon⟩

namespace PortMap

/-- A text with a colon is parsed by its two parts, the local one first. It is
split at the first colon that it has. -/
theorem fromStr_split (text : String) (first second : List Char)
    (whole : text.toList = first ++ ':' :: second) (front : ':' ∉ first) :
    fromStr text = (do
      let localPort ← parsePart text first "local"
      let remotePort ← parsePart text second "remote"
      pure { localPort, remotePort }) := by
  rw [fromStr, (splitOnce_some_iff ':' text.toList first second).mpr ⟨whole, front⟩]

/-- Without a colon nothing is parsed. -/
theorem fromStr_whole (text : String) (noColon : ':' ∉ text.toList) :
    fromStr text = .error (expected text) := by
  cases parts : splitOnce ':' text.toList with
  | none => rw [fromStr, parts]
  | some parts' =>
    obtain ⟨whole, _⟩ := (splitOnce_some_iff ':' text.toList parts'.1 parts'.2).mp parts
    refine absurd ?_ noColon
    rw [whole]
    exact List.mem_append_right _ List.mem_cons_self

/-- The two parts are accepted together exactly if each stands for a port. What
they stand for is the map. -/
theorem parts_ok_iff (text : String) (map : PortMap) (first second : List Char) :
    (do
      let localPort ← parsePart text first "local"
      let remotePort ← parsePart text second "remote"
      pure { localPort, remotePort } : Fallible PortMap) = .ok map ↔
        StandsFor first map.localPort ∧ StandsFor second map.remotePort := by
  rw [Fallible.bind_ok_iff]
  simp only [Fallible.bind_ok_iff, parsePart_ok_iff, pure, Except.pure, Except.ok.injEq]
  constructor
  · rintro ⟨localPort, isLocal, remotePort, isRemote, rfl⟩
    exact ⟨isLocal, isRemote⟩
  · rintro ⟨isLocal, isRemote⟩
    exact ⟨_, isLocal, _, isRemote, rfl⟩

/-- They are refused for the first one that does not: the remote part is not
looked at before the local one is a port. -/
theorem parts_error_iff (text : String) (failure : Failure) (first second : List Char) :
    (do
      let localPort ← parsePart text first "local"
      let remotePort ← parsePart text second "remote"
      pure { localPort, remotePort } : Fallible PortMap) = .error failure ↔
        (¬ ∃ port, StandsFor first port) ∧ failure = notPort text "local" ∨
          (∃ port, StandsFor first port) ∧ (¬ ∃ port, StandsFor second port) ∧
            failure = notPort text "remote" := by
  cases isFirst : parsePart text first "local" with
  | error refused =>
    obtain ⟨noPort, rfl⟩ := (parsePart_error_iff _ _ _ _).mp isFirst
    simp [noPort, bind, Except.bind, eq_comm]
  | ok localPort =>
    have port : ∃ port, StandsFor first port := ⟨localPort, (parsePart_ok_iff _ _ _ _).mp isFirst⟩
    cases isSecond : parsePart text second "remote" with
    | error refused =>
      obtain ⟨noPort, rfl⟩ := (parsePart_error_iff _ _ _ _).mp isSecond
      simp [port, noPort, bind, Except.bind, eq_comm]
    | ok remotePort =>
      have also : ∃ port, StandsFor second port :=
        ⟨remotePort, (parsePart_ok_iff _ _ _ _).mp isSecond⟩
      simp [port, also, bind, Except.bind, pure, Except.pure]

/-- The parts of a text at its first colon are its only ones, so a text stands for
one map at most. -/
theorem parts_unique {text : String} {first second first' second' : List Char}
    (whole : text.toList = first ++ ':' :: second) (front : ':' ∉ first)
    (whole' : text.toList = first' ++ ':' :: second') (front' : ':' ∉ first') :
    first = first' ∧ second = second' := by
  have parts := (splitOnce_some_iff ':' text.toList first second).mpr ⟨whole, front⟩
  rw [(splitOnce_some_iff ':' text.toList first' second').mpr ⟨whole', front'⟩] at parts
  cases parts
  exact ⟨rfl, rfl⟩

/-- A text is accepted exactly if it is two usable ports with a colon between
them. -/
theorem fromStr_ok_iff (text : String) (map : PortMap) :
    fromStr text = .ok map ↔ ∃ first second, text.toList = first ++ ':' :: second ∧
      StandsFor first map.localPort ∧ StandsFor second map.remotePort := by
  by_cases colon : ':' ∈ text.toList
  · obtain ⟨first, second, whole, front⟩ := List.eq_append_cons_of_mem colon
    rw [fromStr_split text first second whole front, parts_ok_iff]
    constructor
    · exact fun holds => ⟨first, second, whole, holds⟩
    · rintro ⟨first', second', whole', isFirst, isSecond⟩
      obtain ⟨rfl, rfl⟩ := parts_unique whole front whole' isFirst.noColon
      exact ⟨isFirst, isSecond⟩
  · rw [fromStr_whole text colon]
    simp only [reduceCtorEq, false_iff, not_exists, not_and]
    intro first second whole
    rw [whole] at colon
    exact absurd (List.mem_append_right _ List.mem_cons_self) colon

/-- Which texts are port maps, and what is said of the others. A text is accepted
exactly if it is two ports with a colon between them; it is refused for want of a
colon, for its local part, or for its remote part, in this order. A port map is
read as it is displayed exactly if neither of its ports is 0. -/
theorem parsed_exactly (text : String) (map : PortMap) :
    (fromStr text = .ok map ↔ ∃ first second, text.toList = first ++ ':' :: second ∧
      StandsFor first map.localPort ∧ StandsFor second map.remotePort) ∧
    (∀ failure, fromStr text = .error failure ↔
      (':' ∉ text.toList ∧ failure = expected text) ∨
      ∃ first second, text.toList = first ++ ':' :: second ∧ ':' ∉ first ∧
        ((¬ ∃ port, StandsFor first port) ∧ failure = notPort text "local" ∨
          (∃ port, StandsFor first port) ∧ (¬ ∃ port, StandsFor second port) ∧
            failure = notPort text "remote")) ∧
    (fromStr map.display = .ok map ↔ map.localPort ≠ 0 ∧ map.remotePort ≠ 0) := by
  refine ⟨fromStr_ok_iff text map, fun failure => ?_, ?_⟩
  · by_cases colon : ':' ∈ text.toList
    · obtain ⟨first, second, whole, front⟩ := List.eq_append_cons_of_mem colon
      rw [fromStr_split text first second whole front, parts_error_iff]
      constructor
      · exact fun refused => Or.inr ⟨first, second, whole, front, refused⟩
      · rintro (⟨noColon, _⟩ | ⟨first', second', whole', front', refused⟩)
        · exact absurd colon noColon
        · obtain ⟨rfl, rfl⟩ := parts_unique whole front whole' front'
          exact refused
    · rw [fromStr_whole text colon]
      constructor
      · rintro ⟨⟩
        exact Or.inl ⟨colon, rfl⟩
      · rintro (⟨_, rfl⟩ | ⟨first, second, whole, _⟩)
        · rfl
        · rw [whole] at colon
          exact absurd (List.mem_append_right _ List.mem_cons_self) colon
  · have written : map.display.toList =
        Nat.toDigits 10 map.localPort.toNat ++ ':' :: Nat.toDigits 10 map.remotePort.toNat := by
      simp [display]
    have stands (port : UInt16) (usable : port ≠ 0) : StandsFor (Nat.toDigits 10 port.toNat) port :=
      ⟨⟨_, Or.inl rfl, Decimal.numeral_toDigits port.toNat⟩, usable⟩
    rw [fromStr_ok_iff]
    constructor
    · rintro ⟨_, _, _, isLocal, isRemote⟩
      exact ⟨isLocal.2, isRemote.2⟩
    · rintro ⟨localPort, remotePort⟩
      exact ⟨_, _, written, stands _ localPort, stands _ remotePort⟩

/-- A port with a sign and zeros in front. -/
example : fromStr "+02222:22" = .ok { localPort := 2222, remotePort := 22 } := by decide

end PortMap

/-- Texts of port maps, with the maps that they are parsed as. -/
def Parsed (texts : List String) (maps : List PortMap) : Prop :=
  List.Forall₂ (fun text map => PortMap.fromStr text = .ok map) texts maps

/-- None of the ports of a map that was parsed is 0: the parser refuses that for
both parts. -/
theorem Parsed.usable {texts : List String} {maps : List PortMap} (parsed : Parsed texts maps) :
    ∀ map ∈ maps, map.localPort ≠ 0 ∧ map.remotePort ≠ 0 := by
  induction parsed with
  | nil =>
    intro map member
    cases member
  | cons isMap _ inductionHypothesis =>
    rw [List.forall_mem_cons]
    obtain ⟨_, _, _, isLocal, isRemote⟩ := (PortMap.fromStr_ok_iff _ _).mp isMap
    exact ⟨⟨isLocal.2, isRemote.2⟩, inductionHypothesis⟩

/-- Seeding leaves a list empty exactly if it was and no flag adds to it. -/
theorem Adds.append_eq_nil_iff {α β κ : Type} {key : α → κ} {entry : β → α} {before added : List α}
    {flags : List β} (adds : Adds key entry before flags added) :
    before ++ added = [] ↔ before = [] ∧ flags = [] := by
  constructor
  · intro empty
    refine ⟨(List.append_eq_nil_iff.mp empty).1, List.eq_nil_iff_forall_not_mem.mpr ?_⟩
    intro flag isFlag
    have covered := adds.covered flag isFlag
    rw [empty] at covered
    cases covered
  · rintro ⟨rfl, rfl⟩
    refine List.eq_nil_iff_forall_not_mem.mpr fun element member => ?_
    obtain ⟨flag, isFlag, _⟩ := adds.origin element member
    cases isFlag

namespace Listening

inductive IpAddr where
  | v4 (octets : List UInt8)
  | v6 (segments : List UInt16)
deriving DecidableEq

/-- `Ipv4Addr::LOCALHOST`. -/
def IpAddr.localhost : IpAddr := .v4 [127, 0, 0, 1]

structure SocketAddr where
  ip : IpAddr
  port : UInt16
deriving DecidableEq

/-- The admin listener address, given the parser of socket addresses. A bare port
means loopback. -/
def adminAddr (parseSocketAddr : String → Except String SocketAddr) (spec : String) :
    Fallible SocketAddr :=
  match parsePort spec.toList with
  | some port => do
      checkPort port "admin"
      pure { ip := .localhost, port }
  | none =>
      match parseSocketAddr spec with
      | .error reason =>
          .error (.within ("`" ++ spec ++ "`: expected PORT or IP:PORT, e.g. 7000") (.message reason))
      | .ok addr => do
          checkPort addr.port "admin"
          pure addr

/-- The admin surface never listens on port 0, and off loopback only if the text
names an address. -/
theorem adminAddr_ok_iff (parseSocketAddr : String → Except String SocketAddr) (spec : String)
    (addr : SocketAddr) :
    adminAddr parseSocketAddr spec = .ok addr ↔
      addr.ip = .localhost ∧ StandsFor spec.toList addr.port ∨
        parsePort spec.toList = none ∧ parseSocketAddr spec = .ok addr ∧ addr.port ≠ 0 := by
  unfold adminAddr
  split
  · rename_i port isPort
    rw [Fallible.check_bind_ok_iff, checkPort_ok_iff, StandsFor, ← parsePort_some_iff, isPort]
    obtain ⟨ip, addrPort⟩ := addr
    simp only [pure, Except.pure, Except.ok.injEq, SocketAddr.mk.injEq, Option.some.injEq, reduceCtorEq,
      false_and, or_false]
    constructor
    · rintro ⟨usable, rfl, rfl⟩
      exact ⟨rfl, rfl, usable⟩
    · rintro ⟨rfl, rfl, usable⟩
      exact ⟨usable, rfl, rfl⟩
  · rename_i notPort
    have noPort : ¬ StandsFor spec.toList addr.port := by
      rintro ⟨stands, _⟩
      rw [← parsePort_some_iff, notPort] at stands
      cases stands
    simp only [noPort, and_false, false_or, notPort, true_and]
    cases parsed : parseSocketAddr spec with
    | error reason => simp
    | ok found =>
      dsimp only
      rw [Fallible.check_bind_ok_iff, checkPort_ok_iff]
      simp only [pure, Except.pure, Except.ok.injEq]
      constructor
      · rintro ⟨usable, rfl⟩
        exact ⟨rfl, usable⟩
      · rintro ⟨rfl, usable⟩
        exact ⟨usable, rfl⟩

end Listening

end Rtun
