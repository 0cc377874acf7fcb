import Rtun.Identity
import Rtun.TokenGate

/-!
# The token of the admin surface

The token is minted once and kept in a file, so that a browser tab outlives a restart. Any
number of starts can look for it, at any time, and each of them can fail or be killed between
any two system calls. A start takes what the file holds, unless that is no text or only white
space; otherwise it truncates the file and writes a new token into it. A start can be killed
in the middle of that, and a part of a token is a token like any other.
-/

namespace Rtun.AdminToken

open Framing Run Text Writers
open Identity (Paths Platform)

def pathsIn (stateDir : String) : Paths := { dir := stateDir, path := stateDir ++ "/admin.token" }

/-- `rand::random`: 128 bits. -/
structure Random where
  bytes : Bytes
  size : bytes.length = 16

/-- `format!("{b:02x}")`. -/
def hexByte (byte : UInt8) : List Char :=
  [Nat.digitChar (byte.toNat / 16), Nat.digitChar (byte.toNat % 16)]

def mintToken (random : Random) : String := String.ofList (random.bytes.flatMap hexByte)

/-- `fs::read_to_string`, of what the file holds. -/
def decode (content : Bytes) : Option String := String.fromUTF8? content.toByteArray

/-- A present, non-empty token is reused. -/
def reused (content : Bytes) : Option String :=
  (decode content).bind (fun text =>
    if trim text.toList = [] then none else some (String.ofList (trim text.toList)))

/-- Where `load_or_create_token` is. The value is a token, and making one is
minting it. -/
abbrev Stage : Type := Writers.Stage Failure String

/-- The next system call of a start, with its outcome, or its end. -/
abbrev Event : Type := Writers.Event Random

/-- The file, with the starts so far. -/
abbrev State : Type := Writers.State UInt8 Stage

abbrev Action : Type := Writers.Action Event

def failed (failure : Failure) : Stage := .returned (.error failure)

/-- One system call of one start: the file and the stage that it leaves. -/
def call (platform : Platform) (paths : Paths) (file : Option Bytes) (stage : Stage) (event : Event) :
    Option (Option Bytes × Stage) :=
  match event, stage with
  | .find, .looking => some (file, if file.isSome then .opened else .missing)
  -- Whatever keeps the file from being read, a token is minted in its place.
  | .readFails _, .looking | .readFails _, .opened => some (file, .missing)
  | .read, .opened =>
      file.map (fun content =>
        (file, match reused content with
          | some token => .returned (.ok token)
          | none => .missing))
  | .createDirAll, .missing => some (file, .making)
  | .createDirAllFails reason, .missing =>
      some (file, failed (.within ("creating " ++ paths.dir) (.message reason)))
  | .create random, .making => some (some [], .writing (mintToken random) 0)
  | .createFails reason, .making =>
      some (file, failed (.within ("creating " ++ paths.path) (.message reason)))
  | .write count, .writing token done =>
      if 0 < count ∧ done + count ≤ (asBytes token).length then
        some (file.map (fun content =>
            overwrite 0 content done (((asBytes token).drop done).take count)),
          if done + count = (asBytes token).length then .returned (.ok token)
          else .writing token (done + count))
      else none
  | .writeFails reason, .writing _ _ =>
      -- On Unix the error of `write_all` has no context.
      some (file, failed (if platform = .unix then .message reason
        else .within ("creating " ++ paths.path) (.message reason)))
  | .kill, .returned _ | .kill, .killed => none
  | .kill, _ => some (file, .killed)
  | _, _ => none

/-- The process looks for the token once more, or makes its next system call. -/
def step (platform : Platform) (paths : Paths) : State → Action → Option State :=
  Writers.step .looking (call platform paths)

/-- This much of a minted token. -/
def beginning (random : Random) (count : Nat) : String :=
  String.ofList ((mintToken random).toList.take count)

/-- A minted token consists of hexadecimal digits. None of them is a space or a
control character, so trimming leaves the token and a header can carry it. -/
theorem digit_of_mem_mintToken (random : Random) (char : Char)
    (member : char ∈ (mintToken random).toList) : ∃ value < 16, char = Nat.digitChar value := by
  rw [mintToken, String.toList_ofList] at member
  obtain ⟨byte, _, digit⟩ := List.mem_flatMap.mp member
  have bound := byte.toNat_lt
  rcases List.mem_cons.mp digit with rfl | last
  · exact ⟨_, by omega, rfl⟩
  · exact ⟨_, by omega, List.mem_singleton.mp last⟩

/-- Every digit is visible, is no white space, and does not end a query
parameter. -/
theorem digit_plain : ∀ value < 16, (0x20 ≤ (Nat.digitChar value).toNat ∧
    (Nat.digitChar value).toNat < 0x7f) ∧ isWhitespace (Nat.digitChar value) = false ∧
    Nat.digitChar value ≠ '&' := by
  decide

/-- Whatever beginning of a minted token is left by an interrupted write, its
characters are printable ASCII, not white space and not the separator of a
query. -/
theorem plain_of_mem_beginning (random : Random) (count : Nat) (char : Char)
    (member : char ∈ (beginning random count).toList) :
    (0x20 ≤ char.toNat ∧ char.toNat < 0x7f) ∧ isWhitespace char = false ∧ char ≠ '&' := by
  rw [beginning, String.toList_ofList] at member
  obtain ⟨value, small, rfl⟩ := digit_of_mem_mintToken random char (List.mem_of_mem_take member)
  exact digit_plain value small

/-- A minted token has two digits for each of its sixteen random bytes, which
`{:02x}` pads with a zero where it has to. -/
theorem length_mintToken (random : Random) : (mintToken random).toList.length = 32 := by
  have pairs (bytes : Bytes) : (bytes.flatMap hexByte).length = 2 * bytes.length := by
    induction bytes with
    | nil => rfl
    | cons byte rest inductionHypothesis =>
      rw [List.flatMap_cons, List.length_append, inductionHypothesis, List.length_cons]
      exact Nat.add_comm 2 _
  rw [mintToken, String.toList_ofList, pairs, random.size]

/-- A digit is one byte long, so the file of a whole token is 32 bytes long, and a
write that has reached this length has nothing left to do. -/
theorem length_asBytes (random : Random) : (asBytes (mintToken random)).length = 32 := by
  rw [asBytes_ascii, List.length_map, length_mintToken]
  intro char member
  obtain ⟨value, small, rfl⟩ := digit_of_mem_mintToken random char member
  exact Nat.lt_succ_of_lt (digit_plain value small).1.2

/-- What is written of a text is read back as this text: `read_to_string` decodes
the bytes that `write_all` was given. -/
theorem decode_asBytes (text : String) : decode (asBytes text) = some text := by
  have bytes : (asBytes text).toByteArray = text.toByteArray := by
    apply ByteArray.ext
    rw [List.data_toByteArray, asBytes, Array.toArray_toList]
  rw [decode, bytes, String.fromUTF8?, dif_pos text.isValidUTF8]
  rfl

/-- A part of a minted token is reused, unless nothing of it was written.
`load_or_create_token` asks for text that is not empty, and not for 32 digits. -/
theorem reused_beginning (random : Random) (count : Nat) (positive : 0 < count) :
    reused (asBytes (beginning random count)) = some (beginning random count) := by
  have trimmed : trim (beginning random count).toList = (beginning random count).toList :=
    trim_of_visible _ fun char member => (plain_of_mem_beginning random count char member).2.1
  have nonempty : (beginning random count).toList ≠ [] := by
    intro empty
    have length := congrArg List.length empty
    rw [beginning, String.toList_ofList, List.length_take, length_mintToken, List.length_nil] at length
    omega
  rw [reused, decode_asBytes, Option.bind_some, trimmed, if_neg nonempty, String.ofList_toList]

/-- An empty file has no token, so it is replaced. This is what a start that was
killed right after the truncation leaves. -/
theorem reused_empty : reused [] = none := by
  have empty := decode_asBytes ""
  rw [reused, show ([] : Bytes) = asBytes "" from rfl, empty]
  rfl

/-- What is taken from a file is trimmed, and not empty. Nothing more is asked of
it, so a token that the user has put there is taken as well. -/
theorem reused_some_iff (content : Bytes) (token : String) :
    reused content = some token ↔ ∃ text, decode content = some text ∧
      token.toList = trim text.toList ∧ token ≠ "" := by
  rw [reused, Option.bind_eq_some_iff]
  refine exists_congr fun text => and_congr_right fun _ => ?_
  split
  · rename_i blank
    rw [blank]
    simp only [reduceCtorEq, false_iff, not_and, not_not]
    intro empty
    exact String.toList_inj.mp empty
  · rename_i present
    rw [Option.some.injEq]
    constructor
    · rintro rfl
      rw [String.toList_ofList]
      exact ⟨rfl, fun empty => present (by rw [← String.toList_ofList (l := trim text.toList), empty]; rfl)⟩
    · rintro ⟨same, _⟩
      rw [← same, String.ofList_toList]

/-- Other than for the page, a request is admitted exactly when it presents the
token, and has an `Authorization` header if it is not a GET. -/
theorem admitted_iff (layers : Layers) (admin : Admin) (req : Request)
    (notPage : ¬ (req.method = .get ∧ (req.path = "/" ∨ req.path = "/index.html"))) (now : Instant)
    (outcomes : Outcomes) (disk : Disk) :
    (route layers admin req now outcomes disk).response.status ≠ 401 ↔
      presentedToken req = some admin.token ∧
        (req.method = .get ∨ req.authorization.isSome = true) := by
  have refusing (response : Response) (decided : routed layers admin.token req = .respond response) :
      (route layers admin req now outcomes disk).response = response := by
    rw [route, decided]
  cases presented : presentedToken req with
  | none =>
    have refused := refusing (err 401 "missing token") (by simp only [routed, if_neg notPage, presented])
    simp [refused, err, jsonResponse]
  | some given =>
    by_cases right : given = admin.token
    · subst right
      have accepted : tokenEq admin.token admin.token = true := (tokenEq_iff _ _).mpr rfl
      by_cases forged : req.method ≠ .get ∧ req.authorization.isNone = true
      · have refused := refusing (err 401 "mutations require the Authorization header") (by
          simp only [routed, if_neg notPage, presented, accepted, if_pos forged, Bool.true_eq_false,
            if_false])
        obtain ⟨notGet, none⟩ := forged
        rw [Option.isNone_iff_eq_none] at none
        simp [refused, err, jsonResponse, notGet, none]
      · have decided : routed layers admin.token req = endpoint layers req.method req.path req.body := by
          simp only [routed, if_neg notPage, presented, accepted, if_neg forged, Bool.true_eq_false,
            if_false]
        have fine : req.method = .get ∨ req.authorization.isSome = true := by
          by_cases isGet : req.method = .get
          · exact Or.inl isGet
          · refine Or.inr (Option.isSome_iff_ne_none.mpr fun none => forged ⟨isGet, ?_⟩)
            exact Option.isNone_iff_eq_none.mpr none
        refine iff_of_true ?_ ⟨rfl, fine⟩
        unfold route
        split
        · rename_i response answered
          exact endpoint_not_refusing layers _ _ _ response (decided ▸ answered)
        · exact (by decide : (200 : Nat) ≠ 401)
        · exact submit_not_refusing layers _ _ outcomes disk
    · have wrong : tokenEq given admin.token = false := by
        simpa only [Bool.not_eq_true] using mt (tokenEq_iff given admin.token).mp right
      have refused := refusing (err 401 "bad token") (by
        simp only [routed, if_neg notPage, presented, wrong, if_true])
      simp [refused, err, jsonResponse, right]

/-- A header value of this text is read as text exactly if a header can carry each
character. -/
def sendable (char : Char) : Bool := (0x20 ≤ char.toNat && char.toNat < 0x7f) || char.toNat = 9

/-- The bytes of a text make a header text exactly if each of its characters can
be sent. -/
theorem headerText_asBytes (text : String) :
    headerText (asBytes text) = if text.toList.all sendable then some text.toList else none := by
  by_cases all : text.toList.all sendable = true
  · have small (char : Char) (member : char ∈ text.toList) :
        char.toNat < 0x80 ∧ sendable char = true := by
      have sent := List.all_eq_true.mp all char member
      refine ⟨?_, sent⟩
      simp only [sendable, Bool.or_eq_true, Bool.and_eq_true, decide_eq_true_eq] at sent
      omega
    have code (char : Char) (member : char ∈ text.toList) :
        (UInt8.ofNat char.toNat).toNat = char.toNat :=
      UInt8.toNat_ofNat_of_lt' (Nat.lt_trans (small char member).1 (by decide))
    rw [if_pos all, asBytes_ascii text fun char member => (small char member).1, headerText, if_pos]
    · rw [List.map_map]
      refine congrArg some ((List.map_congr_left (fun char member => ?_)).trans (List.map_id' _))
      rw [Function.comp_apply, code char member, Char.ofNat_toNat]
    · rw [List.all_map, List.all_eq_true]
      intro char member
      have sent := (small char member).2
      simp only [sendable, Bool.or_eq_true, Bool.and_eq_true, decide_eq_true_eq] at sent
      simp only [Function.comp_apply, Bool.or_eq_true, Bool.and_eq_true, decide_eq_true_eq,
        UInt8.le_iff_toNat_le, UInt8.lt_iff_toNat_lt, ← UInt8.toNat_inj, code char member]
      exact sent
  · rw [if_neg all, headerText, if_neg]
    obtain ⟨char, member, notSent⟩ := List.all_eq_false.mp (Bool.not_eq_true _ ▸ all)
    intro readable
    have fits (byte : UInt8) (inText : byte ∈ String.utf8EncodeChar char) :
        (32 ≤ byte.toNat ∧ byte.toNat < 127) ∨ byte.toNat = 9 := by
      have inBytes : byte ∈ asBytes text := by
        rw [asBytes_eq]
        exact List.mem_flatMap.mpr ⟨char, member, inText⟩
      have read := List.all_eq_true.mp readable byte inBytes
      simp only [Bool.or_eq_true, Bool.and_eq_true, decide_eq_true_eq, UInt8.le_iff_toNat_le,
        UInt8.lt_iff_toNat_lt, ← UInt8.toNat_inj] at read
      exact read
    by_cases large : 0x80 ≤ char.toNat
    · obtain ⟨byte, inText, high⟩ := exists_large_byte char large
      have := fits byte inText
      omega
    · have single : String.utf8EncodeChar char = [UInt8.ofNat char.toNat] := by
        have small : char.val ≤ 0x7f := UInt32.le_iff_toNat_le.mpr (Nat.le_of_lt_succ (Nat.not_le.mp large))
        rw [String.utf8EncodeChar_eq_singleton (by simp [Char.utf8Size, small])]
        rfl
      have own := fits _ (single ▸ List.mem_singleton_self _)
      rw [UInt8.toNat_ofNat_of_lt' (Nat.lt_trans (Nat.not_le.mp large) (by decide))] at own
      apply notSent
      simpa only [sendable, Bool.or_eq_true, Bool.and_eq_true, decide_eq_true_eq] using own

/-- The page sends the token in a header. -/
def inHeader (token : String) (req : Request) : Prop :=
  req.authorization = some (asBytes ("Bearer " ++ token))

/-- The raw query of the request, as it arrives, is the parameter `t` with the
token. This is what follows the `?` of the printed address. A browser sends it as
it stands if the token is a minted one; of other texts it would cut or escape
some. -/
def inQuery (token : String) (req : Request) : Prop :=
  req.authorization = none ∧ req.query = some ("t=" ++ token)

/-- The token in the header is presented as it stands exactly if a header can
carry every character of it: of other values the server sees no text at all. -/
theorem presentedToken_inHeader_iff (token : String) (trimmed : trim token.toList = token.toList)
    (req : Request) (sent : inHeader token req) (asked : req.query = none) :
    presentedToken req = some token ↔ token.toList.all sendable = true := by
  have chars : ("Bearer " ++ token).toList = "Bearer ".toList ++ token.toList := String.toList_append
  have prefixed : ("Bearer ".toList ++ token.toList).all sendable = token.toList.all sendable := by
    rw [List.all_append, show "Bearer ".toList.all sendable = true by decide, Bool.true_and]
  by_cases all : token.toList.all sendable = true
  · have usable : bearerToken (asBytes ("Bearer " ++ token)) = some token := by
      refine (bearerToken_some_iff _ _).mpr ⟨token.toList, ?_, ?_⟩
      · rw [headerText_asBytes, chars, if_pos (prefixed.trans all)]
      · rw [trimmed, String.ofList_toList]
    exact iff_of_true (presentedToken_of_bearer req _ token sent usable) all
  · have unusable : req.authorization.bind bearerToken = none := by
      rw [sent, Option.bind_some, bearerToken, headerText_asBytes, chars,
        if_neg (by rw [prefixed]; exact all)]
      rfl
    rw [presentedToken_of_no_bearer req unusable, queryToken, asked]
    simpa using all

/-- The token in the query is presented as it stands exactly if it has no
separator, at which the query is split before anything is compared. -/
theorem presentedToken_inQuery_iff (token : String) (req : Request) (asked : inQuery token req) :
    presentedToken req = some token ↔ '&' ∉ token.toList := by
  have unusable : req.authorization.bind bearerToken = none := by
    rw [asked.1]
    rfl
  have chars : ("t=" ++ token).toList = 't' :: '=' :: token.toList := String.toList_append
  rw [presentedToken_of_no_bearer req unusable, queryToken_some_iff]
  constructor
  · rintro ⟨query, before, rest, isQuery, parts, _⟩ separator
    obtain rfl : "t=" ++ token = query := Option.some.inj (asked.2.symm.trans isQuery)
    refine notMem_of_mem_split '&' ("t=" ++ token).toList ('t' :: '=' :: token.toList) ?_
      (List.mem_cons_of_mem _ (List.mem_cons_of_mem _ separator))
    rw [parts]
    exact List.mem_append_right _ List.mem_cons_self
  · intro absent
    refine ⟨_, [], [], asked.2, ?_, by simp⟩
    rw [chars, split_of_notMem]
    · rfl
    · simpa using absent

/-- The raw query `t` with a token gets in exactly if the token has no `&`, and
only to read. -/
theorem admitted_inQuery_iff (layers : Layers) (admin : Admin) (req : Request)
    (notPage : ¬ (req.method = .get ∧ (req.path = "/" ∨ req.path = "/index.html"))) (now : Instant)
    (outcomes : Outcomes) (disk : Disk) (asked : inQuery admin.token req) :
    (route layers admin req now outcomes disk).response.status ≠ 401 ↔
      req.method = .get ∧ '&' ∉ admin.token.toList := by
  rw [admitted_iff layers admin req notPage now outcomes disk,
    presentedToken_inQuery_iff admin.token req asked, asked.1]
  simp [and_comm]

/-- A header text consists of characters that can be sent: `to_str` refuses a
value with any other, and the request then counts as one without the token. -/
theorem sendable_of_headerText {value : List UInt8} {text : List Char}
    (read : headerText value = some text) (char : Char) (member : char ∈ text) :
    sendable char = true := by
  simp only [headerText, Option.ite_none_right_eq_some, Option.some.injEq] at read
  obtain ⟨visible, rfl⟩ := read
  obtain ⟨byte, inValue, rfl⟩ := List.mem_map.mp member
  have valid : byte.toNat.isValidChar := Or.inl (Nat.lt_trans byte.toNat_lt (by decide))
  have code : (Char.ofNat byte.toNat).toNat = byte.toNat := by
    rw [Char.ofNat, dif_pos valid]
    rfl
  have fits := List.all_eq_true.mp visible byte inValue
  simp only [Bool.or_eq_true, Bool.and_eq_true, decide_eq_true_eq, UInt8.le_iff_toNat_le,
    UInt8.lt_iff_toNat_lt, ← UInt8.toNat_inj] at fits
  simp only [sendable, code, Bool.or_eq_true, Bool.and_eq_true, decide_eq_true_eq]
  exact fits

/-- A request can present a token in no other way than by a header that carries
each character of it, or by a query parameter, which ends at an `&`. -/
theorem presentable (token : String) (req : Request) (presented : presentedToken req = some token) :
    token.toList.all sendable = true ∨ '&' ∉ token.toList := by
  rcases (presentedToken_some_iff req token).mp presented with
    ⟨value, rest, _, read, rfl⟩ | ⟨_, query, before, after, _, parts, _⟩
  · refine Or.inl (List.all_eq_true.mpr fun char member => ?_)
    rw [String.toList_ofList] at member
    exact sendable_of_headerText read char (List.mem_append_right _ (mem_of_mem_trim member))
  · refine Or.inr fun separator => notMem_of_mem_split '&' query.toList ('t' :: '=' :: token.toList) ?_
      (List.mem_cons_of_mem _ (List.mem_cons_of_mem _ separator))
    rw [parts]
    exact List.mem_append_right _ List.mem_cons_self

/-- Who can use a token from the file, whoever wrote it there, for a request to
the API. The page, which sends it in a header, gets in exactly if a header can
carry every character of it. The raw query `t` with the token gets in exactly if
the token has no `&`, and only to read. And a token that is no good for either
lets in no request at all. -/
theorem usable_iff (content : Bytes) (token : String) (taken : reused content = some token)
    (layers : Layers) (admin : Admin) (own : admin.token = token) (req : Request)
    (notPage : ¬ (req.method = .get ∧ (req.path = "/" ∨ req.path = "/index.html"))) (now : Instant)
    (outcomes : Outcomes) (disk : Disk) :
    (inHeader token req → req.query = none →
      ((route layers admin req now outcomes disk).response.status ≠ 401 ↔
        token.toList.all sendable = true)) ∧
    (inQuery token req →
      ((route layers admin req now outcomes disk).response.status ≠ 401 ↔
        req.method = .get ∧ '&' ∉ token.toList)) ∧
    ((route layers admin req now outcomes disk).response.status ≠ 401 →
      token.toList.all sendable = true ∨ '&' ∉ token.toList) := by
  obtain ⟨text, _, isTrim, _⟩ := (reused_some_iff content token).mp taken
  have trimmed : trim token.toList = token.toList := by rw [isTrim, trim_trim]
  subst own
  refine ⟨?_, admitted_inQuery_iff layers admin req notPage now outcomes disk, ?_⟩
  · intro sent asked
    rw [admitted_iff layers admin req notPage now outcomes disk,
      presentedToken_inHeader_iff admin.token trimmed req sent asked, sent]
    simp
  · intro admitted
    exact presentable admin.token req
      ((admitted_iff layers admin req notPage now outcomes disk).mp admitted).1

/-- A user has made up a token with an `&`, and asks for the state with it in the
query. -/
def queryWithOwnToken : Request :=
  { method := .get, path := "/api/state", query := some "t=rock&roll", headers := [],
    body := { upper := some 0, collected := .ok [] } }

def ownAdmin : Admin :=
  { shared := Shared.new Config.default (configPath "/var/lib/rtun") .serve 0, token := "rock&roll",
    id := "" }

/-- The request is refused: the part of the query up to the separator is another
token. -/
theorem own_token_refused :
    (route sampleLayers ownAdmin queryWithOwnToken 0 .success
      { file := .missing, tmp := none }).response.status = 401 := by
  have taken : reused (asBytes "rock&roll") = some "rock&roll" := by decide +kernel
  have refused := ((usable_iff (asBytes "rock&roll") "rock&roll" taken sampleLayers ownAdmin rfl
    queryWithOwnToken (by decide) 0 .success { file := .missing, tmp := none }).2.1 ⟨rfl, rfl⟩).not
  exact not_not.mp (refused.mpr fun usable => usable.2 (by decide))

/-- What the stage of a start says about the file: it is there if it was opened,
and it holds what has been written of a minted token. -/
def Agrees (file : Option Bytes) (stage : Stage) : Prop :=
  (stage = .opened → file.isSome = true) ∧
    stage.Holds (fun token done => (∃ random, token = mintToken random) ∧ done < 32 ∧
      file = some ((asBytes token).take done)) (fun _ => True)

/-- The stages agree with the file, and at most one start writes it. -/
abbrev Sound (state : State) : Prop := Writers.Sound Agrees Writers.Stage.writes state

/-- The file is truncated only while nobody writes it. -/
def apart (state : State) : Action → Bool
  | .call _ (.create _) => state.processes.all (fun stage => !stage.writes)
  | _ => true

/-- What a system call does: it moves a start to a stage that says nothing about
what the file holds, it takes the token from the file, it truncates the file, or
it writes the next part of a token. -/
inductive Calls (file : Option Bytes) (stage : Stage) : Event → Option Bytes → Stage → Prop where
  | moved (event : Event) (next : Stage) (neutral : next.neutral = true)
      (opened : next = .opened → file.isSome = true) : Calls file stage event file next
  | took (content : Bytes) (token : String) (present : file = some content)
      (taken : reused content = some token) : Calls file stage .read file (.returned (.ok token))
  | created (random : Random) :
      Calls file stage (.create random) (some []) (.writing (mintToken random) 0)
  | wrote (count done : Nat) (token : String) (writing : stage = .writing token done)
      (inside : done + count ≤ (asBytes token).length) :
      Calls file stage (.write count)
        (file.map (fun content => overwrite 0 content done (((asBytes token).drop done).take count)))
        (if done + count = (asBytes token).length then .returned (.ok token)
          else .writing token (done + count))

/-- Every system call does one of these. The invariants of the file are proved by
cases on them, so `call` is taken apart only here. -/
theorem call_calls {platform : Platform} {paths : Paths} {file after : Option Bytes}
    {stage next : Stage} {event : Event}
    (called : call platform paths file stage event = some (after, next)) :
    Calls file stage event after next := by
  unfold call at called
  split at called
  · cases called
    refine .moved _ _ ?_ ?_
    · split <;> rfl
    · split
      · rename_i present
        exact fun _ => present
      · exact nofun
  · cases called
    exact .moved _ _ rfl nofun
  · cases called
    exact .moved _ _ rfl nofun
  · obtain ⟨content, present, same⟩ := Option.map_eq_some_iff.mp called
    obtain ⟨rfl, rfl⟩ := Prod.mk.inj same
    cases taken : reused content with
    | none => exact .moved _ _ rfl nofun
    | some token => exact .took content token present taken
  · cases called
    exact .moved _ _ rfl nofun
  · cases called
    exact .moved _ _ rfl nofun
  · cases called
    exact .created _
  · cases called
    exact .moved _ _ rfl nofun
  · rename_i count token done
    simp only [Option.ite_none_right_eq_some, Option.some.injEq, Prod.mk.injEq] at called
    obtain ⟨⟨_, inside⟩, rfl, rfl⟩ := called
    exact .wrote count done token rfl inside
  · cases called
    exact .moved _ _ rfl nofun
  · cases called
  · cases called
  · cases called
    exact .moved _ _ rfl nofun
  · cases called

/-- What a start that writes has written is the beginning of a minted token, and
as long as some of it is missing the file holds exactly this beginning. -/
theorem Agrees.writing {file : Option Bytes} {token : String} {done : Nat}
    (agrees : Agrees file (.writing token done)) :
    (∃ random, token = mintToken random) ∧ done < 32 ∧
      file = some ((asBytes token).take done) :=
  agrees.2

/-- The next part of a token comes after what was written before it, so that the
file grows along the token and never holds anything else. -/
theorem Agrees.wrote {file : Option Bytes} {token : String} {done count : Nat}
    (agrees : Agrees file (.writing token done)) (inside : done + count ≤ (asBytes token).length) :
    file.map (fun content => overwrite 0 content done (((asBytes token).drop done).take count)) =
      some ((asBytes token).take (done + count)) := by
  rw [agrees.writing.2.2, Option.map_some, overwrite_next 0 _ done count inside]

/-- A start that does not write agrees with any file that is there. Only the
writer has something to say of the contents; all others leave them as they are. -/
theorem Agrees.of_quiet {file : Option Bytes} {stage : Stage} (agrees : Agrees file stage)
    (quiet : stage.writes = false) (content : Bytes) : Agrees (some content) stage :=
  ⟨fun _ => rfl, Stage.holds_of_quiet agrees.2 quiet⟩

/-- The step lemma: what the stages say stays true while nobody truncates the file
under a start that writes it. -/
theorem sound_step {platform : Platform} {paths : Paths} {state next : State} {action : Action}
    (sound : Sound state) (alone : apart state action = true)
    (taken : step platform paths state action = some next) : Sound next := by
  cases action with
  | start =>
    cases taken
    exact sound.started ⟨nofun, trivial⟩ rfl
  | call index event =>
    obtain ⟨stage, file, after, present, called, rfl⟩ :=
      (step_call_some_iff _ _ _ _ _ _).mp taken
    have others := fun other second (_ : other ≠ index) there => sound.agrees other second there
    cases call_calls called with
    | moved _ _ neutral opened =>
      refine sound.moved present ⟨opened, Stage.holds_of_neutral neutral⟩ ?_ others
      intro writes
      rw [Stage.writes_of_neutral neutral] at writes
      cases writes
    | took content token isContent reuse =>
      exact sound.moved present ⟨nofun, trivial⟩ (fun writes => by cases writes) others
    | created random =>
      have quiet (other : Nat) (second : Stage) (there : state.processes[other]? = some second) :
          second.writes = false := by
        simpa using List.all_eq_true.mp alone second (List.mem_of_getElem? there)
      exact sound.moved present ⟨nofun, ⟨random, rfl⟩, by decide, rfl⟩ (fun _ => Or.inr quiet)
        fun other second different there =>
          (others other second different there).of_quiet (quiet other second there) _
    | wrote count done token writing inside =>
      subst writing
      have agrees : Agrees state.file (.writing token done) := sound.agrees index _ present
      obtain ⟨⟨random, rfl⟩, _, _⟩ := agrees.writing
      rw [agrees.wrote inside]
      refine sound.moved present ?_ (fun _ => Or.inl rfl) fun other second different there =>
        (others other second different there).of_quiet
          (sound.others_quiet present rfl other second different there) _
      split
      · exact ⟨nofun, trivial⟩
      · rename_i incomplete
        rw [length_asBytes] at inside incomplete
        exact ⟨nofun, ⟨random, rfl⟩, by omega, rfl⟩

/-- Nothing but minted tokens and beginnings of them is in the file or was
returned. -/
structure OwnTokens (state : State) : Prop where
  file : ∀ content, state.file = some content →
    ∃ random count, content = asBytes (beginning random count)
  returned : ∀ (index : Nat) (token : String),
    state.processes[index]? = some (.returned (.ok token)) →
      ∃ random count, 0 < count ∧ token = beginning random count

/-- A token that is taken from the file is a beginning of a minted one, like all
that the file holds, and not empty. -/
theorem OwnTokens.taken {state : State} (own : OwnTokens state) {content : Bytes} {token : String}
    (present : state.file = some content) (taken : reused content = some token) :
    ∃ random count, 0 < count ∧ token = beginning random count := by
  obtain ⟨random, count, rfl⟩ := own.file content present
  by_cases positive : 0 < count
  · rw [reused_beginning random count positive] at taken
    exact ⟨random, count, positive, (Option.some.inj taken).symm⟩
  · obtain rfl : count = 0 := Nat.eq_zero_of_not_pos positive
    rw [show asBytes (beginning random 0) = [] from rfl, reused_empty] at taken
    cases taken

/-- The start may still put another token in the place of the one in the file. -/
def Stage.replaces : Stage → Bool
  | .missing | .making | .writing _ _ => true
  | _ => false

/-- A start that reads the file finds the token in it, and leaves it there. Only a
read that fails makes it mint another, and this is what the condition on the
events rules out. -/
theorem call_leaves {platform : Platform} {paths : Paths} {content : Bytes} {token : String}
    (taken : reused content = some token) {stage next : Stage} {event : Event} {file : Option Bytes}
    (calm : stage.replaces = false) (reads : ∀ reason, event ≠ .readFails reason)
    (called : call platform paths (some content) stage event = some (file, next)) :
    file = some content ∧ next.replaces = false ∧
      ∀ other, next = .returned (.ok other) → other = token := by
  unfold call at called
  split at called
  · cases called
    exact ⟨rfl, rfl, fun other same => by cases same⟩
  · exact absurd rfl (reads _)
  · exact absurd rfl (reads _)
  · rw [Option.map_some, taken] at called
    cases called
    exact ⟨rfl, rfl, fun other same => by cases same; rfl⟩
  · cases calm
  · cases calm
  · cases calm
  · cases calm
  · cases calm
  · cases calm
  · cases called
  · cases called
  · cases called
    exact ⟨rfl, rfl, fun other same => by cases same⟩
  · cases called

/-- How many calls that succeed a start can still make: it finds the file, reads
it, creates the directory and the file, and writes a byte at least of its token at
a time. -/
def Stage.left : Stage → Nat
  | .looking => 36
  | .opened => 35
  | .missing => 34
  | .making => 33
  | .writing _ done => 32 - done
  | .returned _ | .killed => 0

/-- Where a start is that has made this many calls, all of which succeeded: each
took it on, and it has returned a token if none is left. -/
structure Advanced (state : State) (index calls budget : Nat) : Prop where
  stage : ∃ stage, state.processes[index]? = some stage ∧ calls + stage.left ≤ budget ∧
    (stage.left = 0 → ∃ token, stage = .returned (.ok token))

/-- Random bits that are all the same. -/
def bitsOf (byte : UInt8) : Random := { bytes := List.replicate 16 byte, size := rfl }

/-- A third role is started then. It takes the half that is left, while the first
one, which has failed to read the file once, writes a token of its own in two
parts. -/
def unreadable : List Action :=
  [.start, .call 0 .find, .call 0 (.readFails "Permission denied (os error 13)"),
    .call 0 .createDirAll, .start, .call 1 .find, .call 1 .read, .call 0 (.create (bitsOf 0x5c)),
    .call 0 (.write 20)]

end Rtun.AdminToken
