import Rtun.Handlers

/-!
# Routing and authorisation

What the admin surface does with a request: the page is served to anyone, every
other request must present the token, and a request that is not a GET must carry
an `Authorization` header besides. The last check asks only whether the header is
there. The law says which requests reach a mutating handler without the token in
that header.
-/

namespace Rtun

/-- Request bodies are tiny; a cap keeps a stray large one from being buffered. -/
def maxBody : Nat := 64 * 1024

/-- What `route` decides to do with a request: answer it, show the state, or call
a mutating handler. A handler's own failure is that of the text it parses. -/
inductive Routed where
  | respond (response : Response)
  | state
  | mutate (handled : Fallible (Edit Unit))

/-- Read a capped body and hand it to a handler. -/
def withBody {β : Type} (body : Body) (fromSlice : List UInt8 → Except String β)
    (handler : β → Fallible (Edit Unit)) : Routed :=
  if body.upper.getD (UInt64.size - 1) > maxBody then .respond (err 413 "body too large")
  else
    match body.collected with
    | .error reason => .respond (err 400 ("reading body: " ++ reason))
    | .ok bytes =>
        match fromSlice bytes with
        | .error reason => .respond (err 400 ("invalid json: " ++ reason))
        | .ok parsed => .mutate (handler parsed)

/-- The table of endpoints. -/
def endpoint (layers : Layers) (method : Method) (path : String) (body : Body) : Routed :=
  match method, path with
  | .get, "/api/state" => .state
  | .post, "/api/peers" => withBody body layers.peerAdd (addPeer layers)
  | .patch, "/api/peers" => withBody body layers.peerPatch (patchPeer layers)
  | .delete, "/api/peers" => withBody body layers.idRef (delPeer layers)
  | .post, "/api/offers" => withBody body layers.offerAdd (addOffer layers)
  | .patch, "/api/offers" => withBody body layers.offerPatch (patchOffer layers)
  | .delete, "/api/offers" => withBody body layers.offerRef (delOffer layers)
  | .post, "/api/bindings" => withBody body layers.bindingAdd addBinding
  | .patch, "/api/bindings" => withBody body layers.bindingPatch patchBinding
  | .delete, "/api/bindings" => withBody body layers.bindingRef delBinding
  | _, _ => .respond (err 404 "no such endpoint")

/-- The page itself carries no secret. -/
def indexPage : Response :=
  { status := 200,
    headers := [("content-type", "text/html; charset=utf-8"), ("cache-control", "no-store"),
      ("x-content-type-options", "nosniff"), ("referrer-policy", "no-referrer")],
    body := .page }

/-- The decisions of `route`, up to the call of a handler. -/
def routed (layers : Layers) (token : String) (req : Request) : Routed :=
  if req.method = .get ∧ (req.path = "/" ∨ req.path = "/index.html") then .respond indexPage
  else
    match presentedToken req with
    | none => .respond (err 401 "missing token")
    | some presented =>
        if tokenEq presented token = false then .respond (err 401 "bad token")
        else if req.method ≠ .get ∧ req.authorization.isNone then
          .respond (err 401 "mutations require the Authorization header")
        else endpoint layers req.method req.path req.body

/-- A response, with the shared state and the disk that the request leaves. -/
structure Served where
  response : Response
  shared : Shared
  fs : Fs

/-- The common tail of the mutating handlers: mutate, then answer. A rejected edit
is answered with its message. -/
def submit (layers : Layers) (shared : Shared) (handled : Fallible (Edit Unit))
    (outcomes : Outcomes) (disk : Disk) : Served :=
  match handled with
  | .error failure => { response := err 422 failure.display, shared, fs := .start disk }
  | .ok edit =>
      let done := shared.mutate layers.toml edit outcomes disk
      match done.result with
      | .error failure => { response := err 422 failure.display, shared := done.shared, fs := done.fs }
      | .ok () => { response := ok, shared := done.shared, fs := done.fs }

def route (layers : Layers) (admin : Admin) (req : Request) (now : Instant)
    (outcomes : Outcomes) (disk : Disk) : Served :=
  match routed layers admin.token req with
  | .respond response => { response, shared := admin.shared, fs := .start disk }
  | .state => { response := getState admin now, shared := admin.shared, fs := .start disk }
  | .mutate handled => submit layers admin.shared handled outcomes disk

/-- The request reaches one of the nine mutating handlers. -/
def Reaches (layers : Layers) (token : String) (req : Request) : Prop :=
  ∃ handled, routed layers token req = .mutate handled

/-- The request's own `Authorization` header is `Bearer X` with X, trimmed, the
token. -/
def HeaderAuthorises (token : String) (req : Request) : Prop :=
  ∃ value rest, req.authorization = some value ∧
    headerText value = some ("Bearer ".toList ++ rest) ∧ String.ofList (Text.trim rest) = token

/-- The request names a mutating endpoint with an acceptable body, and has an
`Authorization` header that is no usable bearer token next to the right token in
the query. -/
def QueryBypass (layers : Layers) (token : String) (req : Request) : Prop :=
  (∃ handled, endpoint layers req.method req.path req.body = .mutate handled) ∧
    (∃ value, req.authorization = some value ∧ bearerToken value = none) ∧
    queryToken req = some token

/-- A usable bearer value is text that starts with `Bearer `, and the token is the
rest of it, trimmed. -/
theorem bearerToken_some_iff (value : List UInt8) (token : String) :
    bearerToken value = some token ↔
      ∃ rest, headerText value = some ("Bearer ".toList ++ rest) ∧
        String.ofList (Text.trim rest) = token := by
  cases decoded : headerText value with
  | none => simp [bearerToken, decoded]
  | some text =>
    have stripped : bearerToken value = some token ↔
        ∃ rest, Text.stripPrefix "Bearer ".toList text = some rest ∧
          String.ofList (Text.trim rest) = token := by
      simp [bearerToken, decoded, Option.bind_eq_some_iff]
    simp only [stripped, Text.stripPrefix_some_iff, Option.some.injEq]

/-- The header authorises exactly when its bearer token is the admin token. -/
theorem headerAuthorises_iff (token : String) (req : Request) :
    HeaderAuthorises token req ↔
      ∃ value, req.authorization = some value ∧ bearerToken value = some token := by
  simp only [HeaderAuthorises, bearerToken_some_iff]
  constructor
  · rintro ⟨value, rest, present, decoded, same⟩
    exact ⟨value, present, rest, decoded, same⟩
  · rintro ⟨value, present, rest, decoded, same⟩
    exact ⟨value, rest, present, decoded, same⟩

/-- No GET request reaches a mutating handler. -/
theorem endpoint_get (layers : Layers) (path : String) (body : Body)
    (handled : Fallible (Edit Unit)) : endpoint layers .get path body ≠ .mutate handled := by
  unfold endpoint
  split <;> simp_all

/-- What it takes to reach a mutating handler: the endpoint, the token from one of
the two places, and the presence of the header. -/
theorem reaches_iff (layers : Layers) (token : String) (req : Request) :
    Reaches layers token req ↔
      (∃ handled, endpoint layers req.method req.path req.body = .mutate handled) ∧
        presentedToken req = some token ∧ req.authorization.isSome = true := by
  by_cases isGet : req.method = .get
  · have never : ¬ ∃ handled, endpoint layers req.method req.path req.body = .mutate handled := by
      rintro ⟨handled, reached⟩
      rw [isGet] at reached
      exact endpoint_get layers req.path req.body handled reached
    have answered : ¬ Reaches layers token req := by
      rintro ⟨handled, reached⟩
      apply never
      unfold routed at reached
      split at reached
      · cases reached
      · split at reached
        · cases reached
        · simp only [isGet, ne_eq, not_true_eq_false, false_and, if_false] at reached
          split at reached
          · cases reached
          · exact ⟨handled, isGet ▸ reached⟩
    simp only [answered, never, false_and]
  · have notPage : ¬ (req.method = .get ∧ (req.path = "/" ∨ req.path = "/index.html")) :=
      fun page => isGet page.1
    cases presented : presentedToken req with
    | none => simp [Reaches, routed, notPage, presented]
    | some given =>
      by_cases right : given = token
      · subst right
        have accepted : tokenEq given given = true := (tokenEq_iff given given).mpr rfl
        cases header : req.authorization with
        | none => simp [Reaches, routed, presented, accepted, isGet, header]
        | some value => simp [Reaches, routed, presented, accepted, isGet, header]
      · have refused : tokenEq given token = false := by
          simpa only [Bool.not_eq_true] using mt (tokenEq_iff given token).mp right
        simp [Reaches, routed, notPage, presented, refused, right]

/-- Mutations are authorised by the header alone exactly when the request does not
pair an unusable `Authorization` header with the right token in the query.

The presence check passes for a header that `presented_token` cannot use, and then
the token comes from the query. -/
theorem header_authorises_unless_bypassed (layers : Layers) (token : String) (req : Request) :
    (Reaches layers token req → HeaderAuthorises token req) ↔ ¬ QueryBypass layers token req := by
  rw [reaches_iff, headerAuthorises_iff]
  cases present : req.authorization with
  | none => simp [QueryBypass, present]
  | some value =>
    cases usable : bearerToken value with
    | some given =>
      have presented : presentedToken req = some given :=
        presentedToken_of_bearer req value given present usable
      simp [QueryBypass, present, usable, presented]
    | none =>
      have unusable : req.authorization.bind bearerToken = none := by simp [present, usable]
      have presented : presentedToken req = queryToken req :=
        presentedToken_of_no_bearer req unusable
      simp [QueryBypass, present, usable, presented]

/-- A form post that carries basic credentials of its own and the admin token in
the query: its body offers TCP port 22 to every enabled peer. -/
def basicCredentialsPost : Request :=
  { method := .post, path := "/api/offers", query := some "t=5c3e",
    headers := [("authorization", [66, 97, 115, 105, 99, 32, 97, 58, 98])],
    body := { upper := some 38,
              collected := .ok [123, 34, 112, 114, 111, 116, 111, 34, 58, 34, 116, 99, 112, 34, 44,
                34, 112, 111, 114, 116, 34, 58, 50, 50, 44, 34, 110, 97, 109, 101, 34, 58, 34, 115,
                115, 104, 34, 125] } }

/-- The layers as that request meets them: its body reads as the offer it
names. -/
def sampleLayers : Layers :=
  { toml := sshToml,
    parseEndpointId := fun _ => .error "expected 64 hexadecimal digits",
    peerAdd := fun _ => .error "missing field id",
    peerPatch := fun _ => .error "missing field id",
    idRef := fun _ => .error "missing field id",
    offerAdd := fun bytes =>
      if basicCredentialsPost.body.collected = .ok bytes then
        .ok { peer := none, proto := .tcp, port := 22, name := "ssh" }
      else .error "expected value at line 1 column 1",
    offerPatch := fun _ => .error "missing field proto",
    offerRef := fun _ => .error "missing field proto",
    bindingAdd := fun _ => .error "missing field local",
    bindingPatch := fun _ => .error "missing field local",
    bindingRef := fun _ => .error "missing field local" }

/-- The query token alone authorises an edit of the allowlist. -/
theorem query_token_mutates :
    Reaches sampleLayers "5c3e" basicCredentialsPost ∧
      ¬ HeaderAuthorises "5c3e" basicCredentialsPost := by
  have unusable : bearerToken [66, 97, 115, 105, 99, 32, 97, 58, 98] = none := by decide
  constructor
  · rw [reaches_iff]
    refine ⟨⟨_, rfl⟩, ?_, rfl⟩
    decide
  · rw [headerAuthorises_iff]
    rintro ⟨value, present, usable⟩
    obtain rfl : [66, 97, 115, 105, 99, 32, 97, 58, 98] = value := Option.some.inj present
    rw [unusable] at usable
    cases usable

end Rtun
