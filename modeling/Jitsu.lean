import Jitsu.Destinations.GoMap
import Jitsu.Destinations.Service
import Jitsu.Destinations.Remove
import Jitsu.Destinations.Create
import Jitsu.Destinations.Ownership
import Jitsu.Destinations.Reconcile
import Jitsu.Destinations.Calls
import Jitsu.Destinations.StagedBatch
import Jitsu.Destinations.Projection
import Jitsu.Destinations.Readers
import Jitsu.Destinations.Lifecycle
import Jitsu.Destinations.Invariants
import Jitsu.Airbyte.Driver
import Jitsu.Storages.Snowflake
import Jitsu.Storages.Store
import Jitsu.Storages.Update
import Jitsu.Handlers.AirbyteVersions
import Jitsu.Handlers.AirbyteRunner
import Jitsu.Metrics.Prometheus
