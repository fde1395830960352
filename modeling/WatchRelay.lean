import WatchRelay.Catalog.Board
import WatchRelay.Connection.Heartbeat
import WatchRelay.Connection.Reception
import WatchRelay.Proofs.Catalog.Backlog
import WatchRelay.Proofs.Catalog.Independence
import WatchRelay.Proofs.Connection.Receiving
import WatchRelay.Proofs.Connection.Serial
import WatchRelay.Proofs.Http.Catalog
import WatchRelay.Proofs.Relay.Conservation
import WatchRelay.Proofs.Relay.Lifetimes
import WatchRelay.Proofs.Relay.Ownership
import WatchRelay.Proofs.Relay.Schedule
import WatchRelay.Proofs.Relay.Shutdown
import WatchRelay.Proofs.Session.Closures
import WatchRelay.Proofs.Session.Delivering
import WatchRelay.Proofs.Session.Identity
import WatchRelay.Proofs.Session.Isolation
import WatchRelay.Proofs.Session.Liveness
import WatchRelay.Proofs.Session.Precedence
import WatchRelay.Proofs.Session.Reflected
import WatchRelay.Proofs.Session.Returning
import WatchRelay.Proofs.Session.Subscriptions
import WatchRelay.Proofs.Settings.Limits
import WatchRelay.Proofs.Settings.Nulls
import WatchRelay.Proofs.Settings.Overlays
import WatchRelay.Proofs.Socket.Listening
import WatchRelay.Session.Delivery
