import Rtun.Route

/-!
# What a request learns without the token

A request presents a string in its `Bearer` header, or in the first `t` parameter of its
query when it has no usable header. Unless that string is the token, byte for byte, the
response is the same whatever the configuration and the runtime facts are, and nothing
changes. A header with the exact token passes the check, whatever the query says.
-/

namespace Rtun

open Text

/-- The value of the first parameter of the query that is named `t`. -/
def FirstParameter (req : Request) (value : String) : Prop :=
  ∃ query before rest, req.query = some query ∧
    split '&' query.toList = before ++ ('t' :: '=' :: value.toList) :: rest ∧
    ∀ part ∈ before, ∀ other, part ≠ 't' :: '=' :: other

/-- The request presents this string as its token: in a usable `Bearer` header, or
in the query when there is no usable header. -/
def Presents (req : Request) (presented : String) : Prop :=
  HeaderAuthorises presented req ∨
    (∀ other, ¬ HeaderAuthorises other req) ∧ FirstParameter req presented

/-- A token as it is minted: visible ASCII text without white space around it. -/
structure Minted (token : String) : Prop where
  nonempty : token ≠ ""
  visible : ∀ char ∈ token.toList, 0x20 ≤ char.toNat ∧ char.toNat < 0x7f
  trimmed : trim token.toList = token.toList

/-- Whether all characters are visible, as a test. -/
theorem visible_of_all (text : String)
    (all : text.toList.all (fun char => 0x20 ≤ char.toNat && char.toNat < 0x7f) = true) :
    ∀ char ∈ text.toList, 0x20 ≤ char.toNat ∧ char.toNat < 0x7f := by
  simpa using all

/-- The search for the `t` parameter finds the first part that starts with
`t=`. -/
theorem find_parameter_iff (parts : List (List Char)) (name value : List Char) :
    ((parts.filterMap (splitOnce '=')).find? (fun parameter => parameter.1 == ['t'])) =
        some (name, value) ↔
      name = ['t'] ∧ ∃ before rest, parts = before ++ ('t' :: '=' :: value) :: rest ∧
        ∀ part ∈ before, ∀ other, part ≠ 't' :: '=' :: other := by
  induction parts with
  | nil => simp
  | cons part others inductionHypothesis =>
    by_cases starts : ∃ other, part = 't' :: '=' :: other
    · obtain ⟨other, rfl⟩ := starts
      have parameter : splitOnce '=' ('t' :: '=' :: other) = some (['t'], other) :=
        (splitOnce_some_iff _ _ _ _).mpr ⟨rfl, by decide⟩
      rw [List.filterMap_cons_some parameter, List.find?_cons_of_pos (by simp)]
      constructor
      · intro found
        cases found
        exact ⟨rfl, [], others, rfl, by simp⟩
      · rintro ⟨rfl, before, rest, whole, earlier⟩
        cases before with
        | nil =>
          cases whole
          rfl
        | cons first before =>
          cases whole
          exact absurd rfl (earlier _ List.mem_cons_self other)
    · have skipped : ((part :: others).filterMap (splitOnce '=')).find?
          (fun parameter => parameter.1 == ['t']) =
            (others.filterMap (splitOnce '=')).find? (fun parameter => parameter.1 == ['t']) := by
        cases isParameter : splitOnce '=' part with
        | none => rw [List.filterMap_cons_none isParameter]
        | some parameter =>
          obtain ⟨first, rest⟩ := parameter
          have differs : first ≠ ['t'] := by
            rintro rfl
            exact starts ⟨rest, ((splitOnce_some_iff _ _ _ _).mp isParameter).1⟩
          rw [List.filterMap_cons_some isParameter, List.find?_cons_of_neg (by simpa using differs)]
      rw [skipped, inductionHypothesis]
      refine and_congr_right (fun _ => ⟨?_, ?_⟩)
      · rintro ⟨before, rest, rfl, earlier⟩
        refine ⟨part :: before, rest, rfl, ?_⟩
        intro other member value' isStart
        rcases List.mem_cons.mp member with rfl | later
        · exact starts ⟨value', isStart⟩
        · exact earlier other later value' isStart
      · rintro ⟨before, rest, whole, earlier⟩
        cases before with
        | nil =>
          cases whole
          exact absurd ⟨value, rfl⟩ starts
        | cons first before =>
          cases whole
          exact ⟨before, rest, rfl, fun other member => earlier other (List.mem_cons_of_mem _ member)⟩

/-- The token of the query is its first parameter that is named `t`, up to the
next separator. -/
theorem queryToken_some_iff (req : Request) (value : String) :
    queryToken req = some value ↔ FirstParameter req value := by
  cases asked : req.query with
  | none => simp [queryToken, FirstParameter, asked]
  | some query =>
    have searched : queryToken req = some value ↔
        ∃ name text, ((split '&' query.toList).filterMap (splitOnce '=')).find?
          (fun parameter => parameter.1 == ['t']) = some (name, text) ∧ String.ofList text = value := by
      simp [queryToken, asked, Option.bind_eq_some_iff]
    rw [searched]
    simp only [find_parameter_iff, FirstParameter, asked, Option.some.injEq]
    constructor
    · rintro ⟨_, text, ⟨_, before, rest, whole, earlier⟩, rfl⟩
      exact ⟨query, before, rest, rfl, by rw [String.toList_ofList]; exact whole, earlier⟩
    · rintro ⟨_, before, rest, rfl, whole, earlier⟩
      exact ⟨['t'], value.toList, ⟨rfl, before, rest, whole, earlier⟩, String.ofList_toList⟩

/-- The token that the code takes from a request is the string that it
presents. -/
theorem presentedToken_some_iff (req : Request) (presented : String) :
    presentedToken req = some presented ↔ Presents req presented := by
  cases usable : req.authorization.bind bearerToken with
  | some token =>
    have authorises (other : String) : HeaderAuthorises other req ↔ token = other := by
      rw [headerAuthorises_iff, ← Option.some.injEq, ← usable, Option.bind_eq_some_iff]
    have notQuery : ¬ ∀ other, ¬ HeaderAuthorises other req :=
      fun nobody => nobody token ((authorises token).mpr rfl)
    simp [presentedToken, usable, Presents, authorises]
  | none =>
    have authorises (other : String) : ¬ HeaderAuthorises other req := by
      rw [headerAuthorises_iff, ← Option.bind_eq_some_iff, usable]
      simp
    simp [presentedToken, usable, Presents, authorises, queryToken_some_iff]

/-- Without the token the request is answered before anything is looked at but the
request. -/
theorem routed_without_token (layers : Layers) (token : String) (req : Request)
    (absent : ¬ Presents req token) : ∃ response, routed layers token req = .respond response := by
  have notToken : presentedToken req ≠ some token := mt (presentedToken_some_iff req token).mp absent
  unfold routed
  split
  · exact ⟨_, rfl⟩
  · cases presented : presentedToken req with
    | none => exact ⟨_, rfl⟩
    | some given =>
      have differs : given ≠ token := by
        rintro rfl
        exact notToken presented
      have refused : tokenEq given token = false := by
        simpa only [Bool.not_eq_true] using mt (tokenEq_iff given token).mp differs
      simp only [refused, if_true]
      exact ⟨_, rfl⟩

/-- A header that consists of `Bearer ` and the token is read as the token. -/
theorem headerAuthorises_of_exact (token : String) (minted : Minted token) (req : Request)
    (exact' : req.authorization = some (asBytes ("Bearer " ++ token))) :
    HeaderAuthorises token req := by
  have chars : ("Bearer " ++ token).toList = "Bearer ".toList ++ token.toList := String.toList_append
  have visible : ∀ char ∈ ("Bearer " ++ token).toList, 0x20 ≤ char.toNat ∧ char.toNat < 0x7f := by
    intro char member
    rw [chars, List.mem_append] at member
    rcases member with isBearer | inToken
    · exact visible_of_all "Bearer " (by decide) char isBearer
    · exact minted.visible char inToken
  have bytes := asBytes_ascii ("Bearer " ++ token) (fun char member => by
    have := visible char member
    omega)
  have sameCode : ∀ char ∈ ("Bearer " ++ token).toList,
      (UInt8.ofNat char.toNat).toNat = char.toNat := by
    intro char member
    have := visible char member
    exact UInt8.toNat_ofNat_of_lt' (by rw [UInt8.size]; omega)
  have accepted : ∀ char ∈ ("Bearer " ++ token).toList,
      (32 ≤ UInt8.ofNat char.toNat && UInt8.ofNat char.toNat < 127) = true := by
    intro char member
    have := visible char member
    have code := sameCode char member
    simp only [Bool.and_eq_true, decide_eq_true_eq, UInt8.le_iff_toNat_le, UInt8.lt_iff_toNat_lt, code]
    exact this
  have decoded : headerText (asBytes ("Bearer " ++ token)) = some ("Bearer ".toList ++ token.toList) := by
    have all : (asBytes ("Bearer " ++ token)).all
        (fun byte => (32 ≤ byte && byte < 127) || byte = 9) = true := by
      rw [bytes, List.all_map, List.all_eq_true]
      intro char member
      exact Bool.or_eq_true_iff.mpr (Or.inl (accepted char member))
    rw [headerText, if_pos all, bytes, List.map_map, ← chars]
    refine congrArg some ((List.map_congr_left (fun char member => ?_)).trans (List.map_id' _))
    rw [Function.comp_apply, sameCode char member, Char.ofNat_toNat]
  exact ⟨_, token.toList, exact', decoded, by rw [minted.trimmed, String.ofList_toList]⟩

/-- No endpoint answers that the request is not authorised. -/
theorem endpoint_not_refusing (layers : Layers) (method : Method) (path : String) (body : Body)
    (response : Response) (answered : endpoint layers method path body = .respond response) :
    response.status ≠ 401 := by
  have withBody_not_refusing {β : Type} (fromSlice : List UInt8 → Except String β)
      (handler : β → Fallible (Edit Unit))
      (given : withBody body fromSlice handler = .respond response) : response.status ≠ 401 := by
    unfold withBody at given
    split at given
    · cases given
      decide
    · split at given
      · cases given
        simp [err, jsonResponse]
      · split at given
        · cases given
          simp [err, jsonResponse]
        · cases given
  unfold endpoint at answered
  split at answered
  · cases answered
  all_goals first
    | exact withBody_not_refusing _ _ answered
    | (cases answered; decide)

/-- A request that has got past the gate is answered in some other way than with
401, whatever comes of it. -/
theorem submit_not_refusing (layers : Layers) (shared : Shared) (handled : Fallible (Edit Unit))
    (outcomes : Outcomes) (disk : Disk) :
    (submit layers shared handled outcomes disk).response.status ≠ 401 := by
  unfold submit
  split
  · simp [err, jsonResponse]
  · dsimp only
    split <;> simp [err, ok, jsonResponse]

/-- A request whose header presents the token is not refused for its token. -/
theorem route_of_header (layers : Layers) (admin : Admin) (req : Request)
    (authorises : HeaderAuthorises admin.token req) (now : Instant) (outcomes : Outcomes)
    (disk : Disk) : (route layers admin req now outcomes disk).response.status ≠ 401 := by
  obtain ⟨value, present, usable⟩ := (headerAuthorises_iff _ _).mp authorises
  have presented : presentedToken req = some admin.token :=
    presentedToken_of_bearer req value admin.token present usable
  have accepted : tokenEq admin.token admin.token = true := (tokenEq_iff _ _).mpr rfl
  have decided : routed layers admin.token req =
      if req.method = .get ∧ (req.path = "/" ∨ req.path = "/index.html") then .respond indexPage
      else endpoint layers req.method req.path req.body := by
    simp [routed, presented, accepted, present]
  unfold route
  split
  · rename_i response answered
    rw [decided] at answered
    split at answered
    · cases answered
      exact (by decide : indexPage.status ≠ 401)
    · exact endpoint_not_refusing layers _ _ _ response answered
  · exact (by decide : (200 : Nat) ≠ 401)
  · exact submit_not_refusing layers _ _ outcomes disk

/-- Without the exact token the admin surface reveals and changes nothing. For two
admin states with one token and every request that does not present that token,
the responses are the same and both states stay as they are; and a `Bearer` header
with the exact token is never refused, whatever the query says. -/
theorem nothing_without_token (layers : Layers) (left right : Admin)
    (sameToken : left.token = right.token) (minted : Minted left.token) (req : Request) :
    ((¬ ∃ presented, Presents req presented ∧ asBytes presented = asBytes left.token) →
      ∀ now now' outcomes outcomes' disk disk',
        (route layers left req now outcomes disk).response =
            (route layers right req now' outcomes' disk').response ∧
          (route layers left req now outcomes disk).shared = left.shared ∧
          (route layers right req now' outcomes' disk').shared = right.shared) ∧
    (req.authorization = some (asBytes ("Bearer " ++ left.token)) →
      ∀ now outcomes disk, (route layers left req now outcomes disk).response.status ≠ 401) := by
  constructor
  · intro notPresented now now' outcomes outcomes' disk disk'
    have absent : ¬ Presents req left.token := fun presents => notPresented ⟨_, presents, rfl⟩
    obtain ⟨response, answered⟩ := routed_without_token layers left.token req absent
    have answered' : routed layers right.token req = .respond response := sameToken ▸ answered
    simp only [route, answered, answered', and_self]
  · intro exact' now outcomes disk
    exact route_of_header layers left req (headerAuthorises_of_exact _ minted req exact') now
      outcomes disk

/-- A look at the state with a mistyped token in the header, and the right one in
the query. -/
def mistypedToken : Request :=
  { method := .get, path := "/api/state", query := some "t=5c3e",
    headers := [("authorization", [66, 101, 97, 114, 101, 114, 32, 53, 99, 51, 102])],
    body := { upper := some 0, collected := .ok [] } }

/-- Whether SSH is offered is not seen with it. -/
theorem mistyped_token_sees_nothing :
    let admin (config : Config) : Admin :=
      { shared := Shared.new config (configPath "/var/lib/rtun") .serve 0, token := "5c3e",
        id := laptop.text }
    (route sampleLayers (admin Config.default) mistypedToken 0 .success
        { file := .missing, tmp := none }).response =
      (route sampleLayers (admin sshOffered) mistypedToken 0 .success
        { file := .missing, tmp := none }).response := by
  intro admin
  have notPresented : ¬ ∃ presented, Presents mistypedToken presented ∧
      asBytes presented = asBytes "5c3e" := by
    rintro ⟨presented, presents, same⟩
    have isMistyped : presentedToken mistypedToken = some "5c3f" := by decide
    have given := (presentedToken_some_iff mistypedToken presented).mpr presents
    rw [isMistyped] at given
    cases given
    exact absurd ((asBytes_inj _ _).mp same) (by decide)
  have minted : Minted "5c3e" := ⟨by decide, visible_of_all "5c3e" (by decide), by decide⟩
  exact ((nothing_without_token sampleLayers (admin Config.default) (admin sshOffered) rfl minted
    mistypedToken).1 notPresented 0 0 .success .success _ _).1

end Rtun
