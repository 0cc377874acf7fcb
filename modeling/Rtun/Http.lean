import Rtun.Text

/-!
# Requests and the admin token

What the admin surface reads of an HTTP request, the token that a request
presents, and the comparison of tokens. A header value is a byte string; it counts
as text only when every byte is a visible ASCII character or a tab. The token comes
from a `Bearer` header, or else from the first `t` parameter of the query.
-/

namespace Rtun

open Text

inductive Method where
  | get
  | post
  | patch
  | delete
  | other (name : String)
deriving DecidableEq

/-- A request body: what is known of its length beforehand, and what collecting it
gives. -/
structure Body where
  upper : Option Nat
  collected : Except String (List UInt8)

/-- A request. Header names are in lower case, as the HTTP layer stores them. -/
structure Request where
  method : Method
  path : String
  query : Option String
  headers : List (String × List UInt8)
  body : Body

namespace Request

/-- The first value of the `Authorization` header, if there is one. -/
def authorization (req : Request) : Option (List UInt8) :=
  (req.headers.find? (fun header => header.1 == "authorization")).map Prod.snd

end Request

/-- `HeaderValue::to_str`: a value is text only if all of it is visible ASCII or
tabs. -/
def headerText (value : List UInt8) : Option (List Char) :=
  if value.all (fun byte => (32 ≤ byte && byte < 127) || byte = 9) then
    some (value.map (fun byte => Char.ofNat byte.toNat))
  else none

/-- The token of a usable header value: text that starts with `Bearer `,
trimmed. -/
def bearerToken (value : List UInt8) : Option String := do
  let text ← headerText value
  let rest ← stripPrefix "Bearer ".toList text
  pure (String.ofList (trim rest))

/-- The value of the first `t` parameter of the query. -/
def queryToken (req : Request) : Option String := do
  let query ← req.query
  let parameters := (split '&' query.toList).filterMap (splitOnce '=')
  let (_, value) ← parameters.find? (fun parameter => parameter.1 == ['t'])
  pure (String.ofList value)

/-- Token from either the `Authorization: Bearer` header or the `t` query
parameter. -/
def presentedToken (req : Request) : Option String :=
  match req.authorization.bind bearerToken with
  | some token => some token
  | none => queryToken req

/-- Compare in constant time: the length first, then every byte without stopping
early. -/
def tokenEq (left right : String) : Bool :=
  let left := asBytes left
  let right := asBytes right
  if left.length ≠ right.length then false
  else (left.zip right).foldl (fun acc pair => acc ||| (pair.1 ^^^ pair.2)) 0 == 0

/-- Accumulating the differences gives zero exactly when there are none. -/
theorem accumulated_zero_iff (pairs : List (UInt8 × UInt8)) (acc : UInt8) :
    pairs.foldl (fun acc pair => acc ||| (pair.1 ^^^ pair.2)) acc = 0 ↔
      acc = 0 ∧ ∀ pair ∈ pairs, pair.1 = pair.2 := by
  induction pairs generalizing acc with
  | nil => simp
  | cons pair rest inductionHypothesis =>
    rw [List.foldl_cons, inductionHypothesis, UInt8.or_eq_zero_iff, UInt8.xor_eq_zero_iff,
      List.forall_mem_cons, and_assoc]

/-- Lists of one length agree at every position exactly when they are equal. -/
theorem zip_agree_iff (left right : List UInt8) (length : left.length = right.length) :
    (∀ pair ∈ left.zip right, pair.1 = pair.2) ↔ left = right := by
  induction left generalizing right with
  | nil =>
    cases right with
    | nil => simp
    | cons byte rest => simp at length
  | cons byte rest inductionHypothesis =>
    cases right with
    | nil => simp at length
    | cons other others =>
      have tailLength : rest.length = others.length := Nat.succ.inj length
      rw [List.zip_cons_cons, List.forall_mem_cons, inductionHypothesis others tailLength,
        List.cons.injEq]

/-- The constant-time comparison is equality of texts. -/
theorem tokenEq_iff (left right : String) : tokenEq left right = true ↔ left = right := by
  rw [← asBytes_inj]
  by_cases length : (asBytes left).length = (asBytes right).length
  · simp only [tokenEq, length, ne_eq, not_true_eq_false, if_false, beq_iff_eq,
      accumulated_zero_iff, true_and]
    exact zip_agree_iff (asBytes left) (asBytes right) length
  · have different : asBytes left ≠ asBytes right := fun same => length (congrArg List.length same)
    simp [tokenEq, length, different]

/-- A usable header decides alone: the query is not consulted. -/
theorem presentedToken_of_bearer (req : Request) (value : List UInt8) (token : String)
    (present : req.authorization = some value) (usable : bearerToken value = some token) :
    presentedToken req = some token := by
  simp [presentedToken, present, usable]

/-- Without a usable header the query decides alone. -/
theorem presentedToken_of_no_bearer (req : Request)
    (unusable : req.authorization.bind bearerToken = none) :
    presentedToken req = queryToken req := by
  simp [presentedToken, unusable]

end Rtun
