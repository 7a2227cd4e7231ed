import Microsandbox.Server.Route

namespace Microsandbox.Server

open Microsandbox.Http Microsandbox.Json

inductive Rejection (env : Env) (state : AppState) (req : Request) : Nat × ErrorResponse → Prop
  | credential :
      (¬ ∃ cred jwt key, ChosenCredential env req.parts.headers cred ∧
        cred = env.apiKeyPrefix ++ jwt ∧ state.config.key = some key) →
      Rejection env state req (401, ⟨"Invalid credentials", some 1001⟩)
  | token {cred jwt key : String} {err : JwtErrorKind} :
      ChosenCredential env req.parts.headers cred → cred = env.apiKeyPrefix ++ jwt →
      state.config.key = some key → env.decode jwt key = .error err →
      Rejection env state req (401, ⟨"Invalid or expired token", some 1004⟩)
  | bodyUnreadable {c : Claims} {m : String} :
      TokenClaims env state req.parts.headers c → c.«namespace» ≠ "*" → req.body = .streamError m →
      Rejection env state req (500, ⟨"Internal server error", some 5002⟩)
  | bodyShape {c : Claims} {bytes : Bytes} {details : String} :
      TokenClaims env state req.parts.headers c → c.«namespace» ≠ "*" → req.body = .data bytes →
      BodyShapeError env bytes details →
      Rejection env state req (400, ⟨details, some 2001⟩)
  | namespaceMismatch {c : Claims} {bytes : Bytes} {v : Value} {n : String} :
      TokenClaims env state req.parts.headers c → c.«namespace» ≠ "*" → req.body = .data bytes →
      env.fromSlice bytes = .ok v → paramsNamespace v = some n → n ≠ c.«namespace» →
      Rejection env state req (403, ⟨"Access denied", some 3001⟩)

def BodyCheckFailure (env : Env) (check : Claims → Bytes → Except ServerError Unit) : Prop :=
  ∀ c bytes e, check c bytes = .error e →
    (∃ d, e = .validationError (.invalidInput d) ∧ BodyShapeError env bytes d) ∨
    ∃ v n, env.fromSlice bytes = .ok v ∧ paramsNamespace v = some n ∧ n ≠ c.«namespace» ∧
      e = accessDenied n

variable {env : Env} {state : AppState} {check : Claims → Bytes → Except ServerError Unit}
  {req s : Request} {e : ServerError}

theorem namespaceGate_rejection (hcheck : BodyCheckFailure env check)
    (h : namespaceGate env state check s = .error e) (hh : s.parts.headers = req.parts.headers)
    (hb : s.body = req.body) : Rejection env state req e.intoResponse := by
  rcases namespaceGate_eq_error h with ⟨d, rfl, hno⟩ | ⟨cred, jwt, key, err, hc, hj, hk, hd, rfl⟩ |
    ⟨c, htoken, hns, ⟨m, hm, rfl⟩ | ⟨bytes, hbytes, hfail⟩⟩
  · exact .credential (hh ▸ hno)
  · exact .token (hh ▸ hc) hj hk hd
  · exact .bodyUnreadable (hh ▸ htoken) hns (hb ▸ hm)
  rcases hcheck c bytes e hfail with ⟨d, rfl, hshape⟩ | ⟨v, n, hv, hn, hne, rfl⟩
  · exact .bodyShape (hh ▸ htoken) hns (hb ▸ hbytes) hshape
  · exact .namespaceMismatch (hh ▸ htoken) hns (hb ▸ hbytes) hv hn hne

theorem createRouter_rejection_response (env : Env) (state : AppState) (req : Request) (e : ServerError)
    (h : createRouter env state req = .rejected e) : Rejection env state req e.intoResponse := by
  rcases createRouter_rejected_cases h with h | h
  · obtain ⟨-, hh, hb⟩ := StripPrefix.call_id_parts "/api/v1/rpc".toList req
    exact namespaceGate_rejection (fun _ _ _ => checkNamespace_eq_error) h hh hb
  · obtain ⟨-, hh, hb⟩ := StripPrefix.call_id_parts "/mcp".toList req
    exact namespaceGate_rejection (fun _ _ _ => checkToolCallNamespace_eq_error) h hh hb

theorem createRouter_rejection_response_sample :
    createRouter sampleEnv sampleState (routedRequest rpcPath ("[" ++ toolCallText "victim" ++ "]")) =
      .rejected (.validationError (.invalidInput "Missing 'params' field in JSON-RPC request")) ∧
    Rejection sampleEnv sampleState (routedRequest rpcPath ("[" ++ toolCallText "victim" ++ "]"))
      (ServerError.validationError
        (.invalidInput "Missing 'params' field in JSON-RPC request")).intoResponse :=
  have h : createRouter sampleEnv sampleState
      (routedRequest rpcPath ("[" ++ toolCallText "victim" ++ "]")) =
      .rejected (.validationError (.invalidInput "Missing 'params' field in JSON-RPC request")) := rfl
  ⟨h, createRouter_rejection_response _ _ _ _ h⟩

end Microsandbox.Server
