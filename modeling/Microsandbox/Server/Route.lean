import Microsandbox.Server.Isolation
import Microsandbox.Http.StripPrefix

namespace Microsandbox.Server

open Microsandbox.Http Microsandbox.Json

inductive Handler where
  | health
  | jsonRpcHandler
  | mcpHandler
  deriving DecidableEq, Repr

inductive Dispatch where
  | handled (handler : Handler) (req : Request)
  | rejected (error : ServerError)
  | methodNotAllowed
  | notFound
  deriving DecidableEq, Repr

def methodRoute (handler : Handler) (methods : List String) (req : Request) : Dispatch :=
  if req.parts.method ∈ methods then .handled handler req else .methodNotAllowed

def layered (middleware : Request → Except ServerError Request) (inner : Request → Dispatch)
    (req : Request) : Dispatch :=
  match middleware req with
  | .ok req => inner req
  | .error e => .rejected e

def loggingMiddleware (next : Request → Dispatch) (req : Request) : Dispatch := next req

def createRouter (env : Env) (state : AppState) : Request → Dispatch :=
  loggingMiddleware fun req =>
    if req.parts.uri.path = "/api/v1/health".toList then
      StripPrefix.call "/api/v1".toList (methodRoute .health ["GET", "HEAD"]) req
    else if req.parts.uri.path = "/api/v1/rpc".toList then
      StripPrefix.call "/api/v1/rpc".toList
        (layered (authMiddleware env state) (methodRoute .jsonRpcHandler ["POST"])) req
    else if req.parts.uri.path = "/mcp".toList then
      StripPrefix.call "/mcp".toList
        (layered (mcpSmartAuthMiddleware env state) (methodRoute .mcpHandler ["POST"])) req
    else .notFound

def nestedPath : Handler → List Char
  | .health => "/health".toList
  | .jsonRpcHandler => ['/']
  | .mcpHandler => ['/']

variable {env : Env} {state : AppState} {middleware : Request → Except ServerError Request}
  {handler handler' h : Handler} {methods : List String} {req r : Request} {e : ServerError}

theorem methodRoute_eq_handled :
    methodRoute handler methods req = .handled handler' r ↔
      handler' = handler ∧ r = req ∧ req.parts.method ∈ methods := by
  unfold methodRoute
  split_ifs with h <;> simp [h, eq_comm, and_comm]

theorem layered_eq_handled :
    layered middleware (methodRoute handler methods) req = .handled h r ↔
      h = handler ∧ middleware req = .ok r ∧ r.parts.method ∈ methods := by
  unfold layered
  split <;> rename_i hm
  · simp only [hm, Except.ok.injEq, methodRoute_eq_handled]
    constructor <;> rintro ⟨rfl, rfl, hmeth⟩ <;> exact ⟨rfl, rfl, hmeth⟩
  · simp [hm]

theorem call_layered_eq_handled {pre : List Char}
    (hfwd : ∀ s r, middleware s = .ok r → r = s) :
    StripPrefix.call pre (layered middleware (methodRoute handler methods)) req = .handled h r ↔
      h = handler ∧ req.parts.method ∈ methods ∧ middleware (StripPrefix.call pre id req) = .ok r := by
  rw [StripPrefix.call_eq_id, layered_eq_handled]
  have hm := (StripPrefix.call_id_parts pre req).1
  constructor
  · rintro ⟨rfl, hr, hmeth⟩
    exact ⟨rfl, hm ▸ hfwd _ _ hr ▸ hmeth, hr⟩
  · rintro ⟨rfl, hmeth, hr⟩
    exact ⟨rfl, hr, (hfwd _ _ hr).symm ▸ hm.symm ▸ hmeth⟩

theorem createRouter_eq_handled :
    createRouter env state req = .handled h r ↔
      (req.parts.uri.path = "/api/v1/health".toList ∧ h = .health ∧
        r = StripPrefix.call "/api/v1".toList id req ∧ req.parts.method ∈ ["GET", "HEAD"]) ∨
      (req.parts.uri.path = "/api/v1/rpc".toList ∧ h = .jsonRpcHandler ∧ req.parts.method = "POST" ∧
        authMiddleware env state (StripPrefix.call "/api/v1/rpc".toList id req) = .ok r) ∨
      (req.parts.uri.path = "/mcp".toList ∧ h = .mcpHandler ∧ req.parts.method = "POST" ∧
        mcpSmartAuthMiddleware env state (StripPrefix.call "/mcp".toList id req) = .ok r) := by
  have hauth : ∀ s r, authMiddleware env state s = .ok r → r = s := fun _ _ => namespaceGate_forwards_self
  have hmcp : ∀ s r, mcpSmartAuthMiddleware env state s = .ok r → r = s :=
    fun _ _ => namespaceGate_forwards_self
  unfold createRouter loggingMiddleware
  dsimp only
  split_ifs with h1 h2 h3
  · simp [StripPrefix.call_eq_id _ (methodRoute _ _), methodRoute_eq_handled, h1]
  · simp [call_layered_eq_handled hauth, h1, h2]
  · simp [call_layered_eq_handled hmcp, h1, h2, h3]
  · simp only [h1, h2, h3, false_and, or_self, reduceCtorEq]

theorem createRouter_handled_stripped (hr : createRouter env state req = .handled h r) :
    StripPrefix.Stripped (nestedPath h) req r := by
  rcases createRouter_eq_handled.mp hr with ⟨hp, rfl, rfl, -⟩ | ⟨hp, rfl, -, hr⟩ | ⟨hp, rfl, -, hr⟩
  · exact StripPrefix.call_id_stripped hp (by decide) rfl rfl
  · exact namespaceGate_forwards_self hr ▸ StripPrefix.call_id_stripped hp (by decide) rfl rfl
  · exact namespaceGate_forwards_self hr ▸ StripPrefix.call_id_stripped hp (by decide) rfl rfl

theorem exists_handled_stripped :
    (∃ r, createRouter env state req = .handled h r ∧ StripPrefix.Stripped (nestedPath h) req r) ↔
      ∃ r, createRouter env state req = .handled h r :=
  ⟨fun ⟨r, hr, _⟩ => ⟨r, hr⟩, fun ⟨r, hr⟩ => ⟨r, hr, createRouter_handled_stripped hr⟩⟩

theorem Authorized.congr (hh : r.parts.headers = req.parts.headers) (hb : r.body = req.body) :
    Authorized env state r ↔ Authorized env state req := by
  unfold Authorized
  rw [hh, hb]

def McpAuthorized (env : Env) (state : AppState) (req : Request) : Prop :=
  ∃ c, TokenClaims env state req.parts.headers c ∧
    (c.«namespace» = "*" ∨ ∃ bytes v, req.body = .data bytes ∧ env.fromSlice bytes = .ok v ∧
      (v.getStr "method" = some "tools/call" → paramsNamespace v = some c.«namespace»))

theorem McpAuthorized.congr (hh : r.parts.headers = req.parts.headers) (hb : r.body = req.body) :
    McpAuthorized env state r ↔ McpAuthorized env state req := by
  unfold McpAuthorized
  rw [hh, hb]

theorem mcpSmartAuthMiddleware_eq_ok (hdev : state.config.devMode = false) :
    mcpSmartAuthMiddleware env state req = .ok r ↔ r = req ∧ McpAuthorized env state req := by
  simp only [mcpSmartAuthMiddleware, namespaceGate_eq_ok hdev, checkToolCallNamespace_eq_ok,
    McpAuthorized, tokenClaims_iff, exists_and_left]
  exact and_congr_right fun _ => ⟨fun ⟨cred, hx, c, hc, h⟩ => ⟨c, ⟨cred, hx, hc⟩, h⟩,
    fun ⟨c, ⟨cred, hx, hc⟩, h⟩ => ⟨cred, hx, c, hc, h⟩⟩

def routedRequest (path : PathAndQuery) (body : String) : Request :=
  ⟨⟨"POST", ⟨.none, ⟨[]⟩, path⟩, (sampleRequest body).parts.headers⟩, .data (asciiBytes body)⟩

def rpcPath : PathAndQuery := ⟨"/api/v1/rpc".toList, rfl⟩

def mcpPath : PathAndQuery := ⟨"/mcp".toList, rfl⟩

theorem createRouter_dispatches_rpc (env : Env) (state : AppState) (req : Request)
    (hdev : state.config.devMode = false) :
    ((∃ r, createRouter env state req = .handled .jsonRpcHandler r) ↔
      req.parts.uri.path = "/api/v1/rpc".toList ∧ req.parts.method = "POST" ∧
        Authorized env state req) ∧
    ∀ r, createRouter env state req = .handled .jsonRpcHandler r → StripPrefix.Stripped ['/'] req r := by
  refine ⟨?_, fun _ hr => createRouter_handled_stripped hr⟩
  obtain ⟨-, hh, hb⟩ := StripPrefix.call_id_parts "/api/v1/rpc".toList req
  simp only [createRouter_eq_handled, authMiddleware_eq_ok hdev, Authorized.congr hh hb, reduceCtorEq,
    false_and, and_false, or_false, false_or, true_and, exists_and_left, exists_eq_left]

theorem createRouter_dispatches_rpc_sample :
    sampleState.config.devMode = false ∧
      createRouter sampleEnv sampleState (routedRequest rpcPath (toolCallText "tenant")) =
        .handled .jsonRpcHandler (routedRequest .slash (toolCallText "tenant")) ∧
      (((∃ r, createRouter sampleEnv sampleState (routedRequest rpcPath (toolCallText "tenant")) =
          .handled .jsonRpcHandler r) ↔
        (routedRequest rpcPath (toolCallText "tenant")).parts.uri.path = "/api/v1/rpc".toList ∧
          (routedRequest rpcPath (toolCallText "tenant")).parts.method = "POST" ∧
          Authorized sampleEnv sampleState (routedRequest rpcPath (toolCallText "tenant"))) ∧
      ∀ r, createRouter sampleEnv sampleState (routedRequest rpcPath (toolCallText "tenant")) =
          .handled .jsonRpcHandler r →
        StripPrefix.Stripped ['/'] (routedRequest rpcPath (toolCallText "tenant")) r) :=
  ⟨rfl, rfl, createRouter_dispatches_rpc _ _ _ rfl⟩

theorem createRouter_dispatches_mcp (env : Env) (state : AppState) (req : Request)
    (hdev : state.config.devMode = false) :
    ((∃ r, createRouter env state req = .handled .mcpHandler r) ↔
      req.parts.uri.path = "/mcp".toList ∧ req.parts.method = "POST" ∧
        McpAuthorized env state req) ∧
    ∀ r, createRouter env state req = .handled .mcpHandler r → StripPrefix.Stripped ['/'] req r := by
  refine ⟨?_, fun _ hr => createRouter_handled_stripped hr⟩
  obtain ⟨-, hh, hb⟩ := StripPrefix.call_id_parts "/mcp".toList req
  simp only [createRouter_eq_handled, mcpSmartAuthMiddleware_eq_ok hdev, McpAuthorized.congr hh hb,
    reduceCtorEq, false_and, and_false, or_false, false_or, true_and, exists_and_left, exists_eq_left]

theorem createRouter_dispatches_mcp_sample :
    sampleState.config.devMode = false ∧
      createRouter sampleEnv sampleState (routedRequest mcpPath (toolCallText "tenant")) =
        .handled .mcpHandler (routedRequest .slash (toolCallText "tenant")) ∧
      (((∃ r, createRouter sampleEnv sampleState (routedRequest mcpPath (toolCallText "tenant")) =
          .handled .mcpHandler r) ↔
        (routedRequest mcpPath (toolCallText "tenant")).parts.uri.path = "/mcp".toList ∧
          (routedRequest mcpPath (toolCallText "tenant")).parts.method = "POST" ∧
          McpAuthorized sampleEnv sampleState (routedRequest mcpPath (toolCallText "tenant"))) ∧
      ∀ r, createRouter sampleEnv sampleState (routedRequest mcpPath (toolCallText "tenant")) =
          .handled .mcpHandler r →
        StripPrefix.Stripped ['/'] (routedRequest mcpPath (toolCallText "tenant")) r) :=
  ⟨rfl, rfl, createRouter_dispatches_mcp _ _ _ rfl⟩

theorem layered_eq_rejected :
    layered middleware (methodRoute handler methods) req = .rejected e ↔ middleware req = .error e := by
  unfold layered methodRoute
  split <;> rename_i hm
  · simp only [hm, reduceCtorEq, iff_false]
    split_ifs <;> simp
  · simp [hm]

theorem createRouter_rejected_cases (h : createRouter env state req = .rejected e) :
    authMiddleware env state (StripPrefix.call "/api/v1/rpc".toList id req) = .error e ∨
      mcpSmartAuthMiddleware env state (StripPrefix.call "/mcp".toList id req) = .error e := by
  unfold createRouter loggingMiddleware at h
  dsimp only at h
  split_ifs at h <;> rw [StripPrefix.call_eq_id] at h
  · unfold methodRoute at h
    split_ifs at h
  · exact .inl (layered_eq_rejected.mp h)
  · exact .inr (layered_eq_rejected.mp h)

theorem createRouter_devMode_passes_through (env : Env) (state : AppState) (req : Request)
    (hdev : state.config.devMode = true) :
    (∀ e, createRouter env state req ≠ .rejected e) ∧
    ((∃ r, createRouter env state req = .handled .jsonRpcHandler r ∧
        StripPrefix.Stripped ['/'] req r) ↔
      req.parts.uri.path = "/api/v1/rpc".toList ∧ req.parts.method = "POST") ∧
    ((∃ r, createRouter env state req = .handled .mcpHandler r ∧
        StripPrefix.Stripped ['/'] req r) ↔
      req.parts.uri.path = "/mcp".toList ∧ req.parts.method = "POST") := by
  refine ⟨fun e he => ?_, exists_handled_stripped.trans ?_, exists_handled_stripped.trans ?_⟩
  · rcases createRouter_rejected_cases he with h | h <;>
      simp [authMiddleware, mcpSmartAuthMiddleware, namespaceGate_devMode hdev] at h
  all_goals
    simp only [createRouter_eq_handled, authMiddleware, mcpSmartAuthMiddleware,
      namespaceGate_devMode hdev, reduceCtorEq, false_and, and_false, or_false, false_or, true_and,
      exists_and_left, Except.ok.injEq, exists_eq', and_true]

theorem createRouter_devMode_passes_through_sample :
    (⟨⟨true, none⟩⟩ : AppState).config.devMode = true ∧
      createRouter sampleEnv ⟨⟨true, none⟩⟩ ⟨⟨"POST", ⟨.none, ⟨[]⟩, rpcPath⟩, ⟨[]⟩⟩, .data []⟩ =
        .handled .jsonRpcHandler ⟨⟨"POST", ⟨.none, ⟨[]⟩, .slash⟩, ⟨[]⟩⟩, .data []⟩ ∧
      ((∀ e, createRouter sampleEnv ⟨⟨true, none⟩⟩ ⟨⟨"POST", ⟨.none, ⟨[]⟩, rpcPath⟩, ⟨[]⟩⟩, .data []⟩ ≠
          .rejected e) ∧
        ((∃ r, createRouter sampleEnv ⟨⟨true, none⟩⟩ ⟨⟨"POST", ⟨.none, ⟨[]⟩, rpcPath⟩, ⟨[]⟩⟩, .data []⟩ =
            .handled .jsonRpcHandler r ∧
          StripPrefix.Stripped ['/'] ⟨⟨"POST", ⟨.none, ⟨[]⟩, rpcPath⟩, ⟨[]⟩⟩, .data []⟩ r) ↔
          (⟨⟨"POST", ⟨.none, ⟨[]⟩, rpcPath⟩, ⟨[]⟩⟩, .data []⟩ : Request).parts.uri.path =
              "/api/v1/rpc".toList ∧
            (⟨⟨"POST", ⟨.none, ⟨[]⟩, rpcPath⟩, ⟨[]⟩⟩, .data []⟩ : Request).parts.method = "POST") ∧
        ((∃ r, createRouter sampleEnv ⟨⟨true, none⟩⟩ ⟨⟨"POST", ⟨.none, ⟨[]⟩, rpcPath⟩, ⟨[]⟩⟩, .data []⟩ =
            .handled .mcpHandler r ∧
          StripPrefix.Stripped ['/'] ⟨⟨"POST", ⟨.none, ⟨[]⟩, rpcPath⟩, ⟨[]⟩⟩, .data []⟩ r) ↔
          (⟨⟨"POST", ⟨.none, ⟨[]⟩, rpcPath⟩, ⟨[]⟩⟩, .data []⟩ : Request).parts.uri.path = "/mcp".toList ∧
            (⟨⟨"POST", ⟨.none, ⟨[]⟩, rpcPath⟩, ⟨[]⟩⟩, .data []⟩ : Request).parts.method = "POST")) :=
  ⟨rfl, rfl, createRouter_devMode_passes_through _ _ _ rfl⟩

end Microsandbox.Server
