import Intercept.Interceptor
import Intercept.Main
import Intercept.Viewer
import Intercept.Proofs.Session.Teardown
import Intercept.Proofs.Session.Projection
import Intercept.Proofs.Session.Containment
import Intercept.Proofs.Session.Sweep
import Intercept.Proofs.Channel.Delivery
import Intercept.Proofs.Channel.Verdict
import Intercept.Proofs.Channel.Ending
import Intercept.Proofs.Channel.Capability
import Intercept.Proofs.Channel.Acceptance
import Intercept.Proofs.Notice.RoundTrip
import Intercept.Proofs.Notice.Forward
import Intercept.Proofs.Service.Base
import Intercept.Proofs.Service.Reply
import Intercept.Proofs.Outbound
import Intercept.Proofs.Pruner.Runs
import Intercept.Proofs.Pruner.Schedule
import Intercept.Proofs.Pruner.Passes
import Intercept.Proofs.Pruner.Ended
import Intercept.Proofs.Pruner.Shutdown
import Intercept.Proofs.Channel.Neutral
import Intercept.Proofs.Channel.Life
import Intercept.Proofs.Url.Query
import Intercept.Proofs.Base64.Standard
import Intercept.Proofs.Capabilities
import Intercept.Proofs.Payload
import Intercept.Proofs.Service.Requests
import Intercept.Proofs.Viewer.Drops
