import Microsandbox.Server.Error
import Microsandbox.Http.Request
import Microsandbox.Json

namespace Microsandbox.Server

open Microsandbox.Http Microsandbox.Json

structure Claims where
  «namespace» : String
  deriving DecidableEq, Repr

inductive JwtErrorKind where
  | expiredSignature
  | invalidSignature
  | other (message : String)
  deriving DecidableEq, Repr

structure Env where
  proxyAuthHeader : String
  apiKeyPrefix : String
  decode : String → String → Except JwtErrorKind Claims
  fromSlice : Bytes → Except String Value

structure Config where
  devMode : Bool
  key : Option String
  deriving DecidableEq, Repr

structure AppState where
  config : Config
  deriving DecidableEq, Repr

theorem bind_eq_ok {ε α β : Type} {x : Except ε α} {f : α → Except ε β} {b : β} :
    x >>= f = .ok b ↔ ∃ a, x = .ok a ∧ f a = .ok b := by
  cases x <;> simp [bind, Except.bind]

@[simp] theorem ok_bind {ε α β : Type} (a : α) (f : α → Except ε β) :
    (Except.ok a >>= f) = f a := rfl

@[simp] theorem mapError_eq_ok {ε ε' α : Type} {f : ε → ε'} {x : Except ε α} {a : α} :
    x.mapError f = .ok a ↔ x = .ok a := by
  cases x <;> simp [Except.mapError]

theorem bind_eq_error {ε α β : Type} {x : Except ε α} {f : α → Except ε β} {e : ε} :
    x >>= f = .error e ↔ x = .error e ∨ ∃ a, x = .ok a ∧ f a = .error e := by
  cases x <;> simp [bind, Except.bind]

@[simp] theorem mapError_eq_error {ε ε' α : Type} {f : ε → ε'} {x : Except ε α} {e : ε'} :
    x.mapError f = .error e ↔ ∃ e', x = .error e' ∧ f e' = e := by
  cases x <;> simp [Except.mapError]

@[simp] theorem error_bind {ε α β : Type} (e : ε) (f : α → Except ε β) :
    (Except.error e >>= f) = .error e := rfl

def invalidCredentials (details : String) : ServerError :=
  .authentication (.invalidCredentials details)

def headerToken (authHeader : HeaderValue) : Except ServerError String :=
  match authHeader.toStr with
  | none => .error (invalidCredentials "Invalid authorization header format")
  | some authValue => .ok ((stripPrefix authValue "Bearer ").getD authValue)

def extractApiKeyFromHeaders (env : Env) (headers : HeaderMap) : Except ServerError String :=
  match headers.get env.proxyAuthHeader with
  | some authHeader => headerToken authHeader
  | none =>
      match headers.get "Authorization" with
      | some authHeader => headerToken authHeader
      | none => .error (invalidCredentials "Missing authorization header")

def convertApiKeyToJwt (env : Env) (apiKey : String) : Except ServerError String :=
  match stripPrefix apiKey env.apiKeyPrefix with
  | some jwt => .ok jwt
  | none => .error (invalidCredentials "Invalid API key format: missing prefix")

def getServerKey (state : AppState) : Except ServerError String :=
  match state.config.key with
  | some key => .ok key
  | none => .error (invalidCredentials "Server key not found in configuration")

def JwtErrorKind.message : JwtErrorKind → String
  | .expiredSignature => "Token expired"
  | .invalidSignature => "Invalid token signature"
  | .other e => "Token validation error: " ++ e

def validateToken (env : Env) (apiKey : String) (state : AppState) : Except ServerError Claims := do
  let jwt ← convertApiKeyToJwt env apiKey
  let serverKey ← getServerKey state
  (env.decode jwt serverKey).mapError fun e => .authentication (.invalidToken e.message)

def validateTokenAndNamespace (env : Env) (apiKey requestedNamespace : String) (state : AppState) :
    Except ServerError Claims := do
  let claims ← validateToken env apiKey state
  if claims.«namespace» ≠ requestedNamespace ∧ claims.«namespace» ≠ "*" then
    .error (invalidCredentials
      ("Token does not have access to namespace '" ++ requestedNamespace ++ "'"))
  else .ok claims

def ChosenCredential (env : Env) (headers : HeaderMap) (cred : String) : Prop :=
  ∃ v s, (headers.get env.proxyAuthHeader = some v ∨
      headers.get env.proxyAuthHeader = none ∧ headers.get "Authorization" = some v) ∧
    v.toStr = some s ∧ ((∃ t, s = "Bearer " ++ t ∧ cred = t) ∨ (¬ ∃ t, s = "Bearer " ++ t) ∧ cred = s)

def TokenClaims (env : Env) (state : AppState) (headers : HeaderMap) (c : Claims) : Prop :=
  ∃ cred jwt key, ChosenCredential env headers cred ∧ cred = env.apiKeyPrefix ++ jwt ∧
    state.config.key = some key ∧ env.decode jwt key = .ok c

variable {env : Env} {state : AppState} {headers : HeaderMap} {v : HeaderValue}
  {apiKey cred : String} {c : Claims} {e : ServerError}

theorem headerToken_eq_ok :
    headerToken v = .ok cred ↔ ∃ s, v.toStr = some s ∧ cred = (stripPrefix s "Bearer ").getD s := by
  cases h : v.toStr <;> simp [headerToken, h, eq_comm]

theorem extractApiKeyFromHeaders_eq_ok :
    extractApiKeyFromHeaders env headers = .ok cred ↔ ChosenCredential env headers cred := by
  have hsel : extractApiKeyFromHeaders env headers = .ok cred ↔
      ∃ v, (headers.get env.proxyAuthHeader = some v ∨
        headers.get env.proxyAuthHeader = none ∧ headers.get "Authorization" = some v) ∧
        headerToken v = .ok cred := by
    unfold extractApiKeyFromHeaders
    split
    · simp_all
    · split <;> simp_all
  simp only [hsel, headerToken_eq_ok, stripPrefix_getD_eq, ChosenCredential, exists_and_left]

theorem extractApiKeyFromHeaders_eq_error (h : extractApiKeyFromHeaders env headers = .error e) :
    (∃ d, e = invalidCredentials d) ∧ ¬ ∃ cred, ChosenCredential env headers cred := by
  refine ⟨?_, fun ⟨cred, hc⟩ => by rw [extractApiKeyFromHeaders_eq_ok.mpr hc] at h; cases h⟩
  unfold extractApiKeyFromHeaders headerToken at h
  repeat' split at h
  all_goals cases h
  all_goals exact ⟨_, rfl⟩

theorem convertApiKeyToJwt_eq_ok {jwt : String} :
    convertApiKeyToJwt env apiKey = .ok jwt ↔ apiKey = env.apiKeyPrefix ++ jwt := by
  unfold convertApiKeyToJwt
  cases h : stripPrefix apiKey env.apiKeyPrefix with
  | some r =>
      rw [stripPrefix_eq_some] at h
      subst h
      simp [String.ext_iff]
  | none =>
      simp only [reduceCtorEq, false_iff]
      rintro rfl
      simp [(stripPrefix_eq_some (r := jwt)).mpr rfl] at h

theorem validateToken_eq_ok :
    validateToken env apiKey state = .ok c ↔
      ∃ jwt key, apiKey = env.apiKeyPrefix ++ jwt ∧ state.config.key = some key ∧
        env.decode jwt key = .ok c := by
  simp only [validateToken, bind_eq_ok, convertApiKeyToJwt_eq_ok, getServerKey, mapError_eq_ok]
  cases state.config.key <;> simp

theorem validateToken_eq_error (h : validateToken env apiKey state = .error e) :
    (∃ d, e = invalidCredentials d ∧
      ¬ ∃ jwt key, apiKey = env.apiKeyPrefix ++ jwt ∧ state.config.key = some key) ∨
    ∃ jwt key err, apiKey = env.apiKeyPrefix ++ jwt ∧ state.config.key = some key ∧
      env.decode jwt key = .error err ∧ e = .authentication (.invalidToken err.message) := by
  simp only [validateToken, bind_eq_error, mapError_eq_error] at h
  rcases h with h | ⟨jwt, hjwt, h | ⟨key, hkey, err, herr, rfl⟩⟩
  · have he : e = invalidCredentials "Invalid API key format: missing prefix" := by
      unfold convertApiKeyToJwt at h
      split at h <;> cases h
      rfl
    refine .inl ⟨_, he, fun ⟨jwt, _, hjwt, _⟩ => ?_⟩
    rw [convertApiKeyToJwt_eq_ok.mpr hjwt] at h
    cases h
  · have he : e = invalidCredentials "Server key not found in configuration" := by
      unfold getServerKey at h
      split at h <;> cases h
      rfl
    exact .inl ⟨_, he, fun ⟨_, key, _, hkey⟩ => by simp [getServerKey, hkey] at h⟩
  · unfold getServerKey at hkey
    split at hkey <;> cases hkey
    exact .inr ⟨jwt, _, err, convertApiKeyToJwt_eq_ok.mp hjwt, ‹_›, herr, rfl⟩

theorem tokenClaims_iff :
    TokenClaims env state headers c ↔
      ∃ cred, extractApiKeyFromHeaders env headers = .ok cred ∧ validateToken env cred state = .ok c := by
  simp only [TokenClaims, extractApiKeyFromHeaders_eq_ok, validateToken_eq_ok]
  exact ⟨fun ⟨cred, jwt, key, hc, hj, hk, hd⟩ => ⟨cred, hc, jwt, key, hj, hk, hd⟩,
    fun ⟨cred, hc, jwt, key, hj, hk, hd⟩ => ⟨cred, jwt, key, hc, hj, hk, hd⟩⟩

theorem validateTokenAndNamespace_eq_ok {n : String} :
    validateTokenAndNamespace env apiKey n state = .ok c ↔
      validateToken env apiKey state = .ok c ∧ (c.«namespace» = n ∨ c.«namespace» = "*") := by
  simp only [validateTokenAndNamespace, bind_eq_ok]
  constructor
  · rintro ⟨c', hc', h⟩
    split_ifs at h with hns
    cases h
    exact ⟨hc', by tauto⟩
  · rintro ⟨hc, hns⟩
    exact ⟨c, hc, by rw [if_neg (by tauto)]⟩

end Microsandbox.Server
