import MishProxy.Cellular.FailClosed
import MishProxy.Runtime.PermittingLookup
import MishProxy.Coordination.QuiescedMutation
import MishProxy.Coordination.OwnerCoverage
import MishProxy.MobileData.Compensated
import MishProxy.Session.Unmixed
import MishProxy.Mesh.Sessions
import MishProxy.Probing.Published
import MishProxy.Product.StartedOnce
import MishProxy.Product.StaleReplay
import MishProxy.Product.MeshReplay
import MishProxy.Connecting.HostConnect
import MishProxy.Runtime.Convergence
import MishProxy.Cellular.Selection
import MishProxy.Credentials.External
import MishProxy.Serving.HttpConnect
import MishProxy.Control.Base64
import MishProxy.Control.RemoteResults
import MishProxy.Worker.Enrollment
import MishProxy.Runtime.EffectOrder
import MishProxy.Worker.Reconnect
import MishProxy.Worker.RemoteRotation
