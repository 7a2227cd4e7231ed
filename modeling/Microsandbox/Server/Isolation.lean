import Microsandbox.Server.Middleware

namespace Microsandbox.Server

open Microsandbox.Http Microsandbox.Json

def Authorized (env : Env) (state : AppState) (req : Request) : Prop :=
  ∃ c, TokenClaims env state req.parts.headers c ∧
    (c.«namespace» = "*" ∨ ∃ bytes v, req.body = .data bytes ∧ env.fromSlice bytes = .ok v ∧
      paramsNamespace v = some c.«namespace»)

def AuthContract (env : Env) (state : AppState) (req : Request) : Prop :=
  ((∃ r, authMiddleware env state req = .ok r) ↔ Authorized env state req) ∧
  (∀ bytes v n, req.body = .data bytes → env.fromSlice bytes = .ok v → paramsNamespace v = some n →
    ((∃ r, authMiddleware env state req = .ok r) ↔
      ∃ cred c, ChosenCredential env req.parts.headers cred ∧
        validateTokenAndNamespace env cred n state = .ok c)) ∧
  ∀ r, authMiddleware env state req = .ok r → r = req

theorem authMiddleware_eq_ok {env : Env} {state : AppState} {req r : Request}
    (hdev : state.config.devMode = false) :
    authMiddleware env state req = .ok r ↔ r = req ∧ Authorized env state req := by
  simp only [authMiddleware, namespaceGate_eq_ok hdev, checkNamespace_eq_ok,
    extractNamespaceFromJsonRpc_eq_ok, Authorized, tokenClaims_iff, exists_and_left]
  exact and_congr_right fun _ => ⟨fun ⟨cred, hx, c, hc, h⟩ => ⟨c, ⟨cred, hx, hc⟩, h⟩,
    fun ⟨c, ⟨cred, hx, hc⟩, h⟩ => ⟨cred, hx, c, hc, h⟩⟩

theorem body_namespace_iff {env : Env} {req : Request} {bytes : Bytes} {v : Value} {n m : String}
    (hb : req.body = .data bytes) (hv : env.fromSlice bytes = .ok v) (hn : paramsNamespace v = some n) :
    (∃ bytes v, req.body = .data bytes ∧ env.fromSlice bytes = .ok v ∧ paramsNamespace v = some m) ↔
      m = n := by
  constructor
  · rintro ⟨bytes', v', hb', hv', hn'⟩
    obtain rfl := Body.data.inj (hb.symm.trans hb')
    obtain rfl := Except.ok.inj (hv.symm.trans hv')
    exact Option.some.inj (hn'.symm.trans hn)
  · rintro rfl
    exact ⟨bytes, v, hb, hv, hn⟩

theorem authMiddleware_enforces_namespace (env : Env) (state : AppState) (req : Request)
    (hdev : state.config.devMode = false) : AuthContract env state req := by
  refine ⟨by simp [authMiddleware_eq_ok hdev], fun bytes v n hb hv hn => ?_,
    fun r h => namespaceGate_forwards_self h⟩
  simp only [authMiddleware_eq_ok hdev, exists_eq_left, Authorized, body_namespace_iff hb hv hn,
    tokenClaims_iff, extractApiKeyFromHeaders_eq_ok, validateTokenAndNamespace_eq_ok, or_comm,
    ← exists_and_right, and_assoc]
  exact exists_comm

def sampleUri : Uri := ⟨.none, ⟨[]⟩, .slash⟩

def toolCall (ns : String) : Value :=
  .object [("jsonrpc", .string "2.0"), ("id", .number "1"), ("method", .string "tools/call"),
    ("params", .object [("namespace", .string ns)])]

def toolCallText (ns : String) : String :=
  "\x7b\"jsonrpc\":\"2.0\",\"id\":1,\"method\":\"tools/call\",\"params\":\x7b\"namespace\":\"" ++
    ns ++ "\"\x7d\x7d"

def asciiBytes (s : String) : Bytes := s.data.map fun c => c.toNat.toUInt8

def sampleEnv : Env where
  proxyAuthHeader := "Proxy-Authorization"
  apiKeyPrefix := "msb_"
  decode jwt key := if jwt = "token" ∧ key = "secret" then .ok ⟨"tenant"⟩ else .error .invalidSignature
  fromSlice bytes :=
    if bytes = asciiBytes (toolCallText "tenant") then .ok (toolCall "tenant")
    else if bytes = asciiBytes ("[" ++ toolCallText "victim" ++ "]") then .ok (.array [toolCall "victim"])
    else .error "expected value at line 1 column 1"

def sampleState : AppState := ⟨⟨false, some "secret"⟩⟩

def sampleRequest (body : String) : Request :=
  ⟨⟨"POST", sampleUri, ⟨[("authorization", ⟨asciiBytes "Bearer msb_token"⟩)]⟩⟩, .data (asciiBytes body)⟩

theorem authMiddleware_enforces_namespace_sample :
    sampleState.config.devMode = false ∧
      AuthContract sampleEnv sampleState (sampleRequest (toolCallText "tenant")) :=
  ⟨rfl, authMiddleware_enforces_namespace _ _ _ rfl⟩

def carriedCalls : Value → List Value
  | .array items => items
  | v => [v]

theorem mcpSmartAuthMiddleware_passes_batched_tools_call :
    ¬ ∀ (env : Env) (state : AppState) (req r : Request) (cred : String) (c : Claims)
      (bytes : Bytes) (v : Value),
      state.config.devMode = false →
      extractApiKeyFromHeaders env req.parts.headers = .ok cred →
      validateToken env cred state = .ok c → c.«namespace» ≠ "*" →
      mcpSmartAuthMiddleware env state req = .ok r →
      req.body = .data bytes → env.fromSlice bytes = .ok v →
      ∀ call ∈ carriedCalls v, call.getStr "method" = some "tools/call" →
        paramsNamespace call = some c.«namespace» := by
  intro h
  have := h sampleEnv sampleState (sampleRequest ("[" ++ toolCallText "victim" ++ "]"))
    (sampleRequest ("[" ++ toolCallText "victim" ++ "]")) "msb_token" ⟨"tenant"⟩
    (asciiBytes ("[" ++ toolCallText "victim" ++ "]")) (.array [toolCall "victim"])
    rfl rfl rfl (by decide) rfl rfl rfl (toolCall "victim")
    (by simp [carriedCalls]) rfl
  exact absurd this (by decide)

theorem checkToolCallNamespace_of_checkNamespace {env : Env} {c : Claims} {bytes : Bytes}
    (h : checkNamespace env c bytes = .ok ()) : checkToolCallNamespace env c bytes = .ok () := by
  obtain ⟨v, hv, hn⟩ := extractNamespaceFromJsonRpc_eq_ok.mp (checkNamespace_eq_ok.mp h)
  exact checkToolCallNamespace_eq_ok.mpr ⟨v, hv, fun _ => hn⟩

theorem checkToolCallNamespace_eq_checkNamespace {env : Env} {c : Claims} {bytes : Bytes}
    (h : (∃ e, env.fromSlice bytes = .error e) ∨
      ∃ v, env.fromSlice bytes = .ok v ∧ v.getStr "method" = some "tools/call") :
    checkToolCallNamespace env c bytes = checkNamespace env c bytes := by
  rcases h with ⟨e, he⟩ | ⟨v, hv, htool⟩
  · simp [checkToolCallNamespace, checkNamespace, extractNamespaceFromJsonRpc, parseJsonRpc, he,
      Except.mapError]
  · simp [checkToolCallNamespace, parseJsonRpc, hv, Except.mapError,
      (methodOf_eq_toolsCall v).mpr htool]

theorem mcpSmartAuthMiddleware_agrees_with_authMiddleware (env : Env) (state : AppState)
    (req : Request) :
    (∀ r, authMiddleware env state req = .ok r → mcpSmartAuthMiddleware env state req = .ok r) ∧
    ((∀ bytes, req.body = .data bytes → (∃ e, env.fromSlice bytes = .error e) ∨
        ∃ v, env.fromSlice bytes = .ok v ∧ v.getStr "method" = some "tools/call") →
      mcpSmartAuthMiddleware env state req = authMiddleware env state req) :=
  ⟨fun _ h => namespaceGate_mono (fun _ _ => checkToolCallNamespace_of_checkNamespace) h,
    fun h => namespaceGate_congr fun _ bytes hb => checkToolCallNamespace_eq_checkNamespace (h bytes hb)⟩

theorem mcpSmartAuthMiddleware_checks_top_level_tools_call (env : Env) (state : AppState)
    (req r : Request) (cred : String) (c : Claims) (bytes : Bytes) (v : Value)
    (hdev : state.config.devMode = false)
    (hcred : extractApiKeyFromHeaders env req.parts.headers = .ok cred)
    (hc : validateToken env cred state = .ok c) (hns : c.«namespace» ≠ "*")
    (hfwd : mcpSmartAuthMiddleware env state req = .ok r)
    (hbody : req.body = .data bytes) (hv : env.fromSlice bytes = .ok v)
    (htool : v.getStr "method" = some "tools/call") :
    paramsNamespace v = some c.«namespace» := by
  obtain ⟨-, cred', c', hcred', hc', hcheck⟩ := (namespaceGate_eq_ok hdev).mp hfwd
  obtain rfl : cred' = cred := Except.ok.inj (hcred'.symm.trans hcred)
  obtain rfl : c' = c := Except.ok.inj (hc'.symm.trans hc)
  obtain ⟨bytes', hb', hu⟩ := hcheck.resolve_left hns
  obtain rfl : bytes' = bytes := Body.data.inj (hb'.symm.trans hbody)
  obtain ⟨v', hv', himp⟩ := checkToolCallNamespace_eq_ok.mp hu
  obtain rfl : v' = v := Except.ok.inj (hv'.symm.trans hv)
  exact himp htool

theorem mcpSmartAuthMiddleware_checks_top_level_tools_call_sample :
    sampleState.config.devMode = false ∧
    extractApiKeyFromHeaders sampleEnv (sampleRequest (toolCallText "tenant")).parts.headers =
      .ok "msb_token" ∧
    validateToken sampleEnv "msb_token" sampleState = .ok ⟨"tenant"⟩ ∧
    (⟨"tenant"⟩ : Claims).«namespace» ≠ "*" ∧
    mcpSmartAuthMiddleware sampleEnv sampleState (sampleRequest (toolCallText "tenant")) =
      .ok (sampleRequest (toolCallText "tenant")) ∧
    (sampleRequest (toolCallText "tenant")).body = .data (asciiBytes (toolCallText "tenant")) ∧
    sampleEnv.fromSlice (asciiBytes (toolCallText "tenant")) = .ok (toolCall "tenant") ∧
    (toolCall "tenant").getStr "method" = some "tools/call" ∧
    paramsNamespace (toolCall "tenant") = some (⟨"tenant"⟩ : Claims).«namespace» :=
  have h1 : sampleState.config.devMode = false := rfl
  have h2 : extractApiKeyFromHeaders sampleEnv (sampleRequest (toolCallText "tenant")).parts.headers =
      .ok "msb_token" := rfl
  have h3 : validateToken sampleEnv "msb_token" sampleState = .ok ⟨"tenant"⟩ := rfl
  have h4 : (⟨"tenant"⟩ : Claims).«namespace» ≠ "*" := by decide
  have h5 : mcpSmartAuthMiddleware sampleEnv sampleState (sampleRequest (toolCallText "tenant")) =
      .ok (sampleRequest (toolCallText "tenant")) := rfl
  have h7 : sampleEnv.fromSlice (asciiBytes (toolCallText "tenant")) = .ok (toolCall "tenant") := rfl
  have h8 : (toolCall "tenant").getStr "method" = some "tools/call" := rfl
  ⟨h1, h2, h3, h4, h5, rfl, h7, h8, mcpSmartAuthMiddleware_checks_top_level_tools_call _ _ _ _ _ _ _ _
    h1 h2 h3 h4 h5 rfl h7 h8⟩

theorem mcpSmartAuthMiddleware_admits_any_batch (env : Env) (state : AppState) (req : Request)
    (bytes : Bytes) (items : List Value) (hdev : state.config.devMode = false)
    (hbody : req.body = .data bytes) (hv : env.fromSlice bytes = .ok (.array items)) :
    mcpSmartAuthMiddleware env state req = .ok req ↔ ∃ c, TokenClaims env state req.parts.headers c := by
  have hcheck : ∀ c, checkToolCallNamespace env c bytes = .ok () := fun _ =>
    checkToolCallNamespace_eq_ok.mpr ⟨_, hv, by simp⟩
  simp only [mcpSmartAuthMiddleware, namespaceGate_eq_ok hdev, tokenClaims_iff, true_and]
  exact ⟨fun ⟨cred, c, hx, hc, _⟩ => ⟨c, cred, hx, hc⟩,
    fun ⟨c, cred, hx, hc⟩ => ⟨cred, c, hx, hc, .inr ⟨bytes, hbody, hcheck c⟩⟩⟩

theorem mcpSmartAuthMiddleware_admits_any_batch_sample :
    sampleState.config.devMode = false ∧
      (sampleRequest ("[" ++ toolCallText "victim" ++ "]")).body =
        .data (asciiBytes ("[" ++ toolCallText "victim" ++ "]")) ∧
      sampleEnv.fromSlice (asciiBytes ("[" ++ toolCallText "victim" ++ "]")) =
        .ok (.array [toolCall "victim"]) ∧
      (mcpSmartAuthMiddleware sampleEnv sampleState (sampleRequest ("[" ++ toolCallText "victim" ++ "]")) =
          .ok (sampleRequest ("[" ++ toolCallText "victim" ++ "]")) ↔
        ∃ c, TokenClaims sampleEnv sampleState
          (sampleRequest ("[" ++ toolCallText "victim" ++ "]")).parts.headers c) :=
  ⟨rfl, rfl, rfl, mcpSmartAuthMiddleware_admits_any_batch _ _ _ _ _ rfl rfl rfl⟩

end Microsandbox.Server
