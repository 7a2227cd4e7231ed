import Microsandbox.Server.Token

namespace Microsandbox.Server

open Microsandbox.Http Microsandbox.Json

def toBytes : Body → Except ServerError Bytes
  | .data bytes => .ok bytes
  | .streamError e => .error (.internalError ("Failed to read request body: " ++ e))

def invalidJsonRpcRequest (e : String) : ServerError :=
  .validationError (.invalidInput ("Invalid JSON-RPC request: " ++ e))

def parseJsonRpc (env : Env) (bytes : Bytes) : Except ServerError Value :=
  (env.fromSlice bytes).mapError invalidJsonRpcRequest

def methodOf (jsonValue : Value) : String :=
  (jsonValue.getStr "method").getD "unknown"

def extractNamespaceFromJsonRpc (env : Env) (bytes : Bytes) : Except ServerError String := do
  let jsonValue ← parseJsonRpc env bytes
  match jsonValue.get "params" with
  | none => .error (.validationError (.invalidInput "Missing 'params' field in JSON-RPC request"))
  | some params =>
      match params.getStr "namespace" with
      | some ns => .ok ns
      | none => .error (.validationError (.invalidInput
          ("Missing or invalid 'namespace' in params for method '" ++ methodOf jsonValue ++ "'")))

def accessDenied (ns : String) : ServerError :=
  .authorizationError (.accessDenied ("Token does not have access to namespace '" ++ ns ++ "'"))

def checkNamespace (env : Env) (claims : Claims) (bytes : Bytes) : Except ServerError Unit := do
  let namespaceFromRequest ← extractNamespaceFromJsonRpc env bytes
  if claims.«namespace» ≠ namespaceFromRequest then .error (accessDenied namespaceFromRequest)
  else .ok ()

def checkToolCallNamespace (env : Env) (claims : Claims) (bytes : Bytes) :
    Except ServerError Unit := do
  let jsonValue ← parseJsonRpc env bytes
  if methodOf jsonValue = "tools/call" then checkNamespace env claims bytes else .ok ()

def namespaceGate (env : Env) (state : AppState) (bodyCheck : Claims → Bytes → Except ServerError Unit)
    (req : Request) : Except ServerError Request :=
  if state.config.devMode then .ok req
  else do
    let apiKey ← extractApiKeyFromHeaders env req.parts.headers
    let claims ← validateToken env apiKey state
    if claims.«namespace» = "*" then .ok req
    else do
      let bytes ← toBytes req.body
      bodyCheck claims bytes
      .ok ⟨req.parts, .data bytes⟩

def authMiddleware (env : Env) (state : AppState) (req : Request) : Except ServerError Request :=
  namespaceGate env state (checkNamespace env) req

def mcpSmartAuthMiddleware (env : Env) (state : AppState) (req : Request) :
    Except ServerError Request :=
  namespaceGate env state (checkToolCallNamespace env) req

def paramsNamespace (call : Value) : Option String :=
  (call.get "params").bind (·.getStr "namespace")

variable {env : Env} {state : AppState} {check check' : Claims → Bytes → Except ServerError Unit}
  {req r : Request} {body : Body} {bytes : Bytes} {c : Claims} {e : ServerError}

theorem toBytes_eq_ok : toBytes body = .ok bytes ↔ body = .data bytes := by
  cases body <;> simp [toBytes]

theorem methodOf_eq_toolsCall (v : Value) :
    methodOf v = "tools/call" ↔ v.getStr "method" = some "tools/call" := by
  cases h : v.getStr "method" <;> simp [methodOf, h]

theorem extractNamespaceFromJsonRpc_eq_ok {n : String} :
    extractNamespaceFromJsonRpc env bytes = .ok n ↔
      ∃ v, env.fromSlice bytes = .ok v ∧ paramsNamespace v = some n := by
  simp only [extractNamespaceFromJsonRpc, bind_eq_ok, parseJsonRpc, mapError_eq_ok]
  refine exists_congr fun v => and_congr_right fun _ => ?_
  cases hp : v.get "params" with
  | none => simp [paramsNamespace, hp]
  | some params => cases hn : params.getStr "namespace" <;> simp [paramsNamespace, hp, hn]

theorem checkNamespace_eq_ok {u : Unit} :
    checkNamespace env c bytes = .ok u ↔ extractNamespaceFromJsonRpc env bytes = .ok c.«namespace» := by
  simp only [checkNamespace, bind_eq_ok]
  constructor
  · rintro ⟨n, hn, h⟩
    split_ifs at h with hne
    exact not_not.mp hne ▸ hn
  · exact fun h => ⟨_, h, by simp⟩

theorem checkToolCallNamespace_eq_ok {u : Unit} :
    checkToolCallNamespace env c bytes = .ok u ↔ ∃ v, env.fromSlice bytes = .ok v ∧
      (v.getStr "method" = some "tools/call" → paramsNamespace v = some c.«namespace») := by
  simp only [checkToolCallNamespace, bind_eq_ok, parseJsonRpc, mapError_eq_ok, ← methodOf_eq_toolsCall]
  refine exists_congr fun v => and_congr_right fun hv => ?_
  split_ifs with htool
  · simp [checkNamespace_eq_ok, extractNamespaceFromJsonRpc_eq_ok, hv, htool]
  · simp [htool]

theorem namespaceGate_devMode (hdev : state.config.devMode = true) :
    namespaceGate env state check req = .ok req := by
  simp [namespaceGate, hdev]

theorem namespaceGate_eq_ok (hdev : state.config.devMode = false) :
    namespaceGate env state check req = .ok r ↔ r = req ∧
      ∃ cred c, extractApiKeyFromHeaders env req.parts.headers = .ok cred ∧
        validateToken env cred state = .ok c ∧
        (c.«namespace» = "*" ∨ ∃ bytes, req.body = .data bytes ∧ check c bytes = .ok ()) := by
  simp only [namespaceGate, hdev, Bool.false_eq_true, if_false, bind_eq_ok, toBytes_eq_ok]
  constructor
  · rintro ⟨cred, hcred, c, hc, h⟩
    split_ifs at h with hns
    · exact ⟨(Except.ok.inj h).symm, cred, c, hcred, hc, .inl hns⟩
    · simp only [bind_eq_ok, toBytes_eq_ok] at h
      obtain ⟨bytes, hb, u, hu, h⟩ := h
      rw [← hb] at h
      exact ⟨(Except.ok.inj h).symm, cred, c, hcred, hc, .inr ⟨bytes, hb, hu⟩⟩
  · rintro ⟨rfl, cred, c, hcred, hc, h⟩
    refine ⟨cred, hcred, c, hc, ?_⟩
    split_ifs with hns
    · rfl
    · obtain ⟨bytes, hb, hu⟩ := h.resolve_left hns
      simp only [bind_eq_ok, toBytes_eq_ok]
      exact ⟨bytes, hb, (), hu, by rw [← hb]⟩

theorem namespaceGate_forwards_self (h : namespaceGate env state check req = .ok r) : r = req := by
  cases hdev : state.config.devMode
  · exact ((namespaceGate_eq_ok hdev).mp h).1
  · rw [namespaceGate_devMode hdev] at h
    exact (Except.ok.inj h).symm

theorem namespaceGate_mono (hcheck : ∀ c bytes, check c bytes = .ok () → check' c bytes = .ok ())
    (h : namespaceGate env state check req = .ok r) : namespaceGate env state check' req = .ok r := by
  cases hdev : state.config.devMode
  · obtain ⟨rfl, cred, c, hcred, hc, hbody⟩ := (namespaceGate_eq_ok hdev).mp h
    refine (namespaceGate_eq_ok hdev).mpr ⟨rfl, cred, c, hcred, hc, ?_⟩
    exact hbody.imp_right fun ⟨bytes, hb, hu⟩ => ⟨bytes, hb, hcheck c bytes hu⟩
  · rw [namespaceGate_devMode hdev] at h ⊢
    exact h

theorem namespaceGate_congr
    (hcheck : ∀ c bytes, req.body = .data bytes → check c bytes = check' c bytes) :
    namespaceGate env state check req = namespaceGate env state check' req := by
  unfold namespaceGate
  cases hb : req.body with
  | data bytes => simp [toBytes, hcheck _ _ hb]
  | streamError e => simp [toBytes]

theorem toBytes_eq_error :
    toBytes body = .error e ↔
      ∃ m, body = .streamError m ∧ e = .internalError ("Failed to read request body: " ++ m) := by
  cases body <;> simp [toBytes, eq_comm]

def BodyShapeError (env : Env) (bytes : Bytes) (details : String) : Prop :=
  (∃ err, env.fromSlice bytes = .error err ∧ details = "Invalid JSON-RPC request: " ++ err) ∨
  ∃ v, env.fromSlice bytes = .ok v ∧
    (v.get "params" = none ∧ details = "Missing 'params' field in JSON-RPC request" ∨
      ∃ params, v.get "params" = some params ∧ params.getStr "namespace" = none ∧
        details = "Missing or invalid 'namespace' in params for method '" ++ methodOf v ++ "'")

theorem parseJsonRpc_eq_error (h : parseJsonRpc env bytes = .error e) :
    ∃ d, e = .validationError (.invalidInput d) ∧ BodyShapeError env bytes d := by
  obtain ⟨err, herr, rfl⟩ := mapError_eq_error.mp h
  exact ⟨_, rfl, .inl ⟨err, herr, rfl⟩⟩

theorem extractNamespaceFromJsonRpc_eq_error
    (h : extractNamespaceFromJsonRpc env bytes = .error e) :
    ∃ d, e = .validationError (.invalidInput d) ∧ BodyShapeError env bytes d := by
  rcases bind_eq_error.mp h with h | ⟨v, hv, h⟩
  · exact parseJsonRpc_eq_error h
  · have hv : env.fromSlice bytes = .ok v := mapError_eq_ok.mp hv
    split at h
    · cases h
      exact ⟨_, rfl, .inr ⟨v, hv, .inl ⟨‹_›, rfl⟩⟩⟩
    · split at h <;> cases h
      exact ⟨_, rfl, .inr ⟨v, hv, .inr ⟨_, ‹_›, ‹_›, rfl⟩⟩⟩

theorem checkNamespace_eq_error (h : checkNamespace env c bytes = .error e) :
    (∃ d, e = .validationError (.invalidInput d) ∧ BodyShapeError env bytes d) ∨
    ∃ v n, env.fromSlice bytes = .ok v ∧ paramsNamespace v = some n ∧ n ≠ c.«namespace» ∧
      e = accessDenied n := by
  rcases bind_eq_error.mp h with h | ⟨n, hn, h⟩
  · exact .inl (extractNamespaceFromJsonRpc_eq_error h)
  · split_ifs at h with hne
    cases h
    obtain ⟨v, hv, hp⟩ := extractNamespaceFromJsonRpc_eq_ok.mp hn
    exact .inr ⟨v, n, hv, hp, Ne.symm hne, rfl⟩

theorem checkToolCallNamespace_eq_error (h : checkToolCallNamespace env c bytes = .error e) :
    (∃ d, e = .validationError (.invalidInput d) ∧ BodyShapeError env bytes d) ∨
    ∃ v n, env.fromSlice bytes = .ok v ∧ paramsNamespace v = some n ∧ n ≠ c.«namespace» ∧
      e = accessDenied n := by
  rcases bind_eq_error.mp h with h | ⟨_, -, h⟩
  · exact .inl (parseJsonRpc_eq_error h)
  · split_ifs at h
    exact checkNamespace_eq_error h

theorem namespaceGate_eq_error (h : namespaceGate env state check req = .error e) :
    (∃ d, e = invalidCredentials d ∧ ¬ ∃ cred jwt key, ChosenCredential env req.parts.headers cred ∧
      cred = env.apiKeyPrefix ++ jwt ∧ state.config.key = some key) ∨
    (∃ cred jwt key err, ChosenCredential env req.parts.headers cred ∧
      cred = env.apiKeyPrefix ++ jwt ∧ state.config.key = some key ∧ env.decode jwt key = .error err ∧
      e = .authentication (.invalidToken err.message)) ∨
    ∃ c, TokenClaims env state req.parts.headers c ∧ c.«namespace» ≠ "*" ∧
      ((∃ m, req.body = .streamError m ∧ e = .internalError ("Failed to read request body: " ++ m)) ∨
        ∃ bytes, req.body = .data bytes ∧ check c bytes = .error e) := by
  unfold namespaceGate at h
  split_ifs at h
  rcases bind_eq_error.mp h with h | ⟨cred, hcred, h⟩
  · obtain ⟨⟨d, rfl⟩, hno⟩ := extractApiKeyFromHeaders_eq_error h
    exact .inl ⟨d, rfl, fun ⟨cred, _, _, hc, _⟩ => hno ⟨cred, hc⟩⟩
  have hchosen := extractApiKeyFromHeaders_eq_ok.mp hcred
  rcases bind_eq_error.mp h with h | ⟨c, hc, h⟩
  · rcases validateToken_eq_error h with ⟨d, rfl, hno⟩ | ⟨jwt, key, err, hj, hk, hd, rfl⟩
    · refine .inl ⟨d, rfl, fun ⟨cred', jwt, key, hc', hj, hk⟩ => hno ⟨jwt, key, ?_, hk⟩⟩
      rw [← hj, Except.ok.inj ((extractApiKeyFromHeaders_eq_ok.mpr hc').symm.trans hcred)]
    · exact .inr (.inl ⟨cred, jwt, key, err, hchosen, hj, hk, hd, rfl⟩)
  have htoken : TokenClaims env state req.parts.headers c := tokenClaims_iff.mpr ⟨cred, hcred, hc⟩
  split_ifs at h with hns
  rcases bind_eq_error.mp h with h | ⟨bytes, hb, h⟩
  · exact .inr (.inr ⟨c, htoken, hns, .inl (toBytes_eq_error.mp h)⟩)
  rcases bind_eq_error.mp h with h | ⟨_, -, h⟩
  · exact .inr (.inr ⟨c, htoken, hns, .inr ⟨bytes, toBytes_eq_ok.mp hb, h⟩⟩)
  · cases h

end Microsandbox.Server
