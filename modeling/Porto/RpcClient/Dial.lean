import Mathlib.Data.List.Infix

/-!
# Client dial plan

Package `rpcclient`, in `src/pkg/tasks/scheduler.go:238–460` (a second file concatenated
there): `newClient`, `dial`, `dialSetupOpts` and `toErr`. `Config`, its `LoadAuthToken`
and the token's `Expired` are declared outside the sources; the model keeps what these
functions read of them. gRPC, the credentials bundle and the contexts are outside too:
the model computes what `newClient` hands to `grpc.DialContext`, whose own failure is not
modelled. Go strings are byte strings; every pattern here is ASCII, so matching on
characters is matching on bytes.
-/

namespace Porto.RpcClient

/-- `strings.HasPrefix`. -/
def hasPrefix (s pre : String) : Bool := pre.data.isPrefixOf s.data

/-- `strings.Contains` with a one-character substring. -/
def containsChar (s : String) (c : Char) : Bool := s.data.contains c

/-- One `old, new` pair of `strings.NewReplacer`; here every `old` is non-empty. -/
structure Replacement where
  old : String
  new : String
  old_ne : old ≠ ""

/-- `Replace` of the generic `strings.Replacer`: left to right, at each position the first
pair in argument order whose `old` starts there is written as its `new` and skipped
(`skip` counts what is left of it); otherwise the character is copied. -/
def replaceFrom (reps : List Replacement) : Nat → List Char → List Char
  | _, [] => []
  | skip + 1, _ :: cs => replaceFrom reps skip cs
  | 0, c :: cs =>
    match reps.find? (fun r => r.old.data.isPrefixOf (c :: cs)) with
    | some r => r.new.data ++ replaceFrom reps (r.old.length - 1) cs
    | none => c :: replaceFrom reps 0 cs

/-- `(*strings.Replacer).Replace`. -/
def replace (reps : List Replacement) (s : String) : String := ⟨replaceFrom reps 0 s.data⟩

/-- `removePrefix`, `scheduler.go:380`. -/
def removePrefix : List Replacement :=
  [⟨"https://", "", by decide⟩, ⟨"http://", "", by decide⟩,
    ⟨"unixs://", "", by decide⟩, ⟨"unix://", "", by decide⟩]

/-- The target of `dial`, `scheduler.go:400–403`: the schemes removed, and `:443` added
when no `:` is left. -/
def dialTarget (endpoint : String) : String :=
  let target := replace removePrefix endpoint
  if containsChar target ':' then target else target ++ ":443"

/-! ### The replacer -/

section Replace

variable (reps : List Replacement)

/-- Skipping the rest of a match passes over exactly that many characters. -/
theorem replaceFrom_skip (xs ys : List Char) :
    replaceFrom reps xs.length (xs ++ ys) = replaceFrom reps 0 ys := by
  induction xs with
  | nil => rfl
  | cons x xs ih => exact ih

/-- Where no `old` occurs, `Replace` copies its input. -/
theorem replaceFrom_of_no_match {l : List Char} (h : ∀ r ∈ reps, ¬ r.old.data <:+: l) :
    replaceFrom reps 0 l = l := by
  induction l with
  | nil => rfl
  | cons c cs ih =>
    have hnone : reps.find? (fun r => r.old.data.isPrefixOf (c :: cs)) = none :=
      List.find?_eq_none.mpr fun r hr hp =>
        h r hr (List.isPrefixOf_iff_prefix.mp hp).isInfix
    simp only [replaceFrom, hnone, ih fun r hr hi => h r hr (List.infix_cons hi)]

/-- A pair found at the front is written as its `new`, and the scan resumes after it. -/
theorem replaceFrom_match (r : Replacement) (ys : List Char)
    (hr : reps.find? (fun r' => r'.old.data.isPrefixOf (r.old.data ++ ys)) = some r) :
    replaceFrom reps 0 (r.old.data ++ ys) = r.new.data ++ replaceFrom reps 0 ys := by
  obtain ⟨old, new, hne⟩ := r
  match old, hne with
  | ⟨c :: cs⟩, _ =>
    simp only [List.cons_append] at hr ⊢
    simp only [replaceFrom, hr]
    exact congrArg _ (replaceFrom_skip reps cs ys)

end Replace

/-- `removePrefix` strips a leading scheme from an endpoint in which no scheme occurs
again. -/
theorem replace_removePrefix_scheme (scheme rest : String)
    (hs : scheme ∈ ["https://", "http://", "unixs://", "unix://"])
    (hrest : ∀ r ∈ removePrefix, ¬ r.old.data <:+: rest.data) :
    replace removePrefix (scheme ++ rest) = rest := by
  simp only [List.mem_cons, List.mem_singleton, List.not_mem_nil, or_false] at hs
  rcases hs with rfl | rfl | rfl | rfl <;>
  · refine congrArg String.mk ((replaceFrom_match removePrefix ⟨_, "", by decide⟩ rest.data ?_).trans
      (replaceFrom_of_no_match removePrefix hrest))
    simp [removePrefix, List.find?_cons, List.isPrefixOf]

/-- `https://api:8443` loses its scheme and keeps host and port. -/
theorem replace_removePrefix_scheme_https :
    "https://" ∈ ["https://", "http://", "unixs://", "unix://"] ∧
      replace removePrefix ("https://" ++ "api:8443") = "api:8443" :=
  ⟨by decide, replace_removePrefix_scheme "https://" "api:8443" (by decide) (by decide)⟩

/-- What `cfg.LoadAuthToken()` yields when it succeeds, as far as `newClient` reads it. -/
structure AuthToken where
  accessToken : String
  tokenType : String
  expired : Bool
  deriving DecidableEq, Repr

/-- The fields of `Config` that `newClient`, `dial` and `dialSetupOpts` read; `tls` is
`cfg.TLS != nil`, `authToken` is `none` when `LoadAuthToken` returns an error, and the
durations are nanosecond counts. -/
structure Config where
  endpoints : List String
  tls : Bool
  authToken : Option AuthToken
  dialTimeout : Int
  dialKeepAliveTime : Int
  dialKeepAliveTimeout : Int
  deriving DecidableEq, Repr

/-- What `newClient` hands to `grpc.DialContext`: the target and the dial options set. -/
structure DialPlan where
  target : String
  transportTLS : Bool
  perRPCCredentials : Bool
  authorization : Option String
  keepalive : Option (Int × Int)
  block : Bool
  deriving DecidableEq, Repr

/-- `errors.Errorf("at least one Endpoint must is required in client config")`, `:325`. -/
def endpointRequiredMsg : String := "at least one Endpoint must is required in client config"

/-- `errors.Errorf("authorization: token expired")`, `:356`. -/
def tokenExpiredMsg : String := "authorization: token expired"

/-- The value handed to `bundle.UpdateAuthToken`, `scheduler.go:359–362`. -/
def AuthToken.authorization (tok : AuthToken) : String :=
  if tok.tokenType = "" then tok.accessToken else tok.tokenType ++ " " ++ tok.accessToken

/-- The TLS branch is taken, `scheduler.go:347–348`. -/
def Config.secure (cfg : Config) (endpoint : String) : Bool :=
  cfg.tls && (hasPrefix endpoint "https://" || hasPrefix endpoint "unixs://")

/-- The options of `dial` and `dialSetupOpts`, `scheduler.go:383–434`, for a dial to
`endpoint` whose bundle carries `authorization`. -/
def Config.plan (cfg : Config) (endpoint : String) (authorization : Option String) :
    DialPlan where
  target := dialTarget endpoint
  transportTLS := cfg.secure endpoint
  perRPCCredentials := cfg.secure endpoint
  authorization := authorization
  keepalive := if 0 < cfg.dialKeepAliveTime then
    some (cfg.dialKeepAliveTime, cfg.dialKeepAliveTimeout) else none
  block := decide (0 < cfg.dialTimeout)

/-- `newClient`, `scheduler.go:322–378`, up to the call of `grpc.DialContext`. -/
def newClient : Option Config → Except String DialPlan
  | none => .error endpointRequiredMsg
  | some cfg =>
    match cfg.endpoints with
    | [] => .error endpointRequiredMsg
    | endpoint :: _ =>
      if cfg.secure endpoint then
        match cfg.authToken with
        | some tok =>
          if tok.expired then .error tokenExpiredMsg
          else .ok (cfg.plan endpoint (some tok.authorization))
        | none => .ok (cfg.plan endpoint none)
      else .ok (cfg.plan endpoint none)

/-- `New`, `scheduler.go:303–306`. -/
def new (cfg : Option Config) : Except String DialPlan := newClient cfg

/-- `NewFromURL`, `scheduler.go:296–301`: a configuration with only the endpoint set. With
`TLS` nil its `LoadAuthToken` is never called, so the token given here is never read. -/
def newFromURL (url : String) : Except String DialPlan :=
  new (some ⟨[url], false, none, 0, 0, 0⟩)

/-- The gRPC status codes `toErr` tells apart. -/
inductive Code
  | deadlineExceeded
  | canceled
  | other
  deriving DecidableEq, Repr

/-- `toErr`, `scheduler.go:436–450`: a deadline or cancellation error is replaced by the
context's own error when the context has one. -/
def toErr {E : Type} (ctxErr : Option E) : Option (Code × E) → Option E
  | none => none
  | some (.deadlineExceeded, e) | some (.canceled, e) => ctxErr.getD e |> some
  | some (.other, e) => some e

end Porto.RpcClient
