import Microsandbox.Server.Error
import Microsandbox.Json
import Microsandbox.Http.Uri
import Microsandbox.Http.HostPort
import Microsandbox.Http.Request
import Microsandbox.Http.StripPrefix
import Microsandbox.Server.Token
import Microsandbox.Server.Middleware
import Microsandbox.Server.Isolation
import Microsandbox.Server.Proxy
import Microsandbox.Server.Route
import Microsandbox.Server.Rejection
import Microsandbox.Portal.Error
import Microsandbox.Portal.Client
