import Stepwise.Http.Client

/-! # A client as a collaborator

`Platform.withClient` wires a client as the `http` collaborator of a platform, so that the requests
of steps to servers are the exchanges of the client. The world of such a platform also holds what
happened on the connection. -/

namespace Stepwise

variable {σ : Type}

end Stepwise
