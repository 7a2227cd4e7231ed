import Microsandbox.Json

namespace Microsandbox.Portal

open Microsandbox.Json

inductive PortalError where
  | jsonRpc (message : String)
  | methodNotFound (message : String)
  | internal (message : String)
  | parse (message : String)
  deriving DecidableEq, Repr

structure JsonRpcError where
  code : Int
  message : String
  data : Option Value

def PortalError.intoResponse : PortalError → Nat × JsonRpcError
  | .jsonRpc message => (400, ⟨-32600, message, none⟩)
  | .methodNotFound message => (404, ⟨-32601, message, none⟩)
  | .parse message => (400, ⟨-32700, message, none⟩)
  | .internal message => (500, ⟨-32603, message, none⟩)

end Microsandbox.Portal
