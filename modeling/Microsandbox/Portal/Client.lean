import Microsandbox.Portal.Error

namespace Microsandbox.Portal

open Microsandbox.Json

end Microsandbox.Portal
