import Jitsu.Destinations.GoMap

/-! # The destinations service

The reloadable routing service of `package destinations`: for every token it holds the consumers,
storages and destination IDs that events of that token are dispatched to, and on every config
snapshot it reconciles the live destinations with the snapshot (`init`).

* **`Service`** — the fields of the Go struct (`unitsByName`, `loggersUsageByTokenID` and the three
  tokenized collections), plus two fields for the world around it: `nextHandle`, the allocator
  that makes every new storage, queue and logger a fresh pointer, and `events`, the calls made to
  the collaborators (`Create`, `CreateIncomingLogger` and every `Close`), in order.
* **`Service.remove`** — unregister a unit under each of its tokens and close it. A batch unit
  decrements the shared logger of each token; when that logger is missing the Go code dereferences
  a nil `*LoggerUsage`, which the model returns as `none`.
* **`Service.init`** — the deletion pass, then the create pass over the snapshot, then the publish
  of the new entries with `AddAll`. Every `range` loop takes its order from `InitOrders`.
* **`Service.close`** — `Close()`: close every shared logger and every unit, collecting errors.

The collaborators (`storageFactory.Create`, `loggerFactory.CreateIncomingLogger` and the
authorization service) are outside the repository; `Collaborators` gives the answers they return
during one `init` call, and `storageCreate` is `Create` as the spec describes its interface. The
source's `getHash` is not in the files we have: it is a parameter of every definition that
hashes. -/

namespace Jitsu.Destinations

/-- A pointer the service holds: a storage proxy, an event queue or a shared logger. Two handles
are the same object exactly when their ids are equal. -/
structure Handle where
  id : Nat
  deriving DecidableEq, Repr

/-- Modelled from the spec: the `Mode` of a stream destination, `storages.StreamMode`. Every other
mode takes the batch path of `init`. -/
def streamMode : String := "stream"

/-- `storages.DestinationConfig`: the fields the service reads by name, and `settings` for every
other field of the Go struct (connection settings, data layout, ...), which only `getHash` and the
storage factory read. -/
structure DestinationConfig where
  /-- The destination type, used in the log line of a failed `Create`. -/
  type : String
  /-- `stream` or `batch`. -/
  mode : String
  /-- The tokens authorized to write to the destination; resolved to token IDs by `init`. -/
  onlyTokens : List String
  /-- A staged destination is reachable only by dry runs, never by live consumers. -/
  staged : Bool
  /-- Every other field of the config. -/
  settings : List (String × String)
  deriving DecidableEq, Repr

/-- Modelled from the spec: a `Unit`, one live destination. `eventQueue` is present for a stream
destination; `tokenIDs` are the token IDs resolved when the unit was built. `staged` is ghost
state: the `Staged` flag of the config the unit was built from, which no operation reads. -/
structure Unit where
  eventQueue : Option Handle
  storage : Handle
  tokenIDs : List String
  hash : UInt64
  staged : Bool
  deriving DecidableEq, Repr

/-- The handles a unit owns, in the order `Unit.Close` closes them. -/
def Unit.handles (u : Unit) : List Handle := u.storage :: u.eventQueue.toList

/-- `LoggerUsage`: a shared logger and the number of batch units attached to it. -/
structure LoggerUsage where
  logger : Handle
  usage : Int
  deriving DecidableEq, Repr

/-- An `events.Consumer` interface value; `none` is Go's nil. -/
abbrev Consumer := Option Handle

/-- A call the service makes to a collaborator. -/
inductive Event
  /-- `storageFactory.Create(name, config)`, with its storage and queue, or `none` on error. -/
  | create (name : String) (config : DestinationConfig) (result : Option (Handle × Option Handle))
  /-- `loggerFactory.CreateIncomingLogger(tokenID)`. -/
  | createLogger (tokenID : String) (logger : Handle)
  /-- `Close()` on a storage, a queue or a logger. -/
  | close (handle : Handle)
  deriving DecidableEq, Repr

/-- **The service state.** The Go struct's maps, and the allocator and call log of the world it
runs in. -/
structure Service where
  unitsByName : GoMap Unit
  loggersUsageByTokenID : GoMap LoggerUsage
  consumersByTokenID : Tokenized Consumer
  storagesByTokenID : Tokenized Handle
  destinationsIDByTokenID : Tokenized Bool
  /-- The next fresh pointer. -/
  nextHandle : Nat
  /-- Every call made to a collaborator so far, oldest first. -/
  events : List Event

/-- The service `NewService` builds before its first reconciliation. -/
def Service.empty : Service := ⟨∅, ∅, ∅, ∅, ∅, 0, []⟩

/-- What the collaborators answer during one `init` call: the authorization service's
`GetAllIDsByToken` and `GetAllTokenIDs`, and whether `storageFactory.Create` succeeds. -/
structure Collaborators where
  getAllIDsByToken : List String → List String
  getAllTokenIDs : List String
  createOk : String → DestinationConfig → Bool

/-! ## Reads -/

namespace Service

variable (s : Service)

/-- `GetConsumers(tokenID)`: the consumers of the token. -/
def getConsumers (tokenID : String) : List Consumer :=
  ((s.consumersByTokenID.lookup tokenID).getD ∅).entries.map (·.2)

/-- `GetStorageByID(id)`: the storage of the unit named `id`, `none` for `(nil, false)`. -/
def getStorageByID (id : String) : Option Handle :=
  (s.unitsByName.lookup id).map (·.storage)

/-- `GetStorages(tokenID)`: the batch storages of the token. -/
def getStorages (tokenID : String) : List Handle :=
  ((s.storagesByTokenID.lookup tokenID).getD ∅).entries.map (·.2)

/-- Modelled from the spec: `unit.Close()` closes the unit's storage and then its event queue. -/
def closeUnit (unit : Unit) : Service :=
  { s with events := s.events ++ unit.handles.map .close }

/-- The tail of one iteration of `remove`'s token loop, once the consumer map of the token has
been edited: drop that map if it became empty, then delete the name from the storages and the IDs
of the token. -/
def unregister (tokenID name : String) (oldConsumers : GoMap Consumer) : Service :=
  { s with
    consumersByTokenID := s.consumersByTokenID.setOrDelete tokenID oldConsumers
    storagesByTokenID := s.storagesByTokenID.deleteName tokenID name
    destinationsIDByTokenID := s.destinationsIDByTokenID.deleteName tokenID name }

/-- **One iteration of `remove`'s token loop.** A stream unit deletes its queue from the consumers
of the token. A batch unit decrements the token's shared logger and, at zero, deletes it from the
consumers and from `loggersUsageByTokenID` and closes it; when the token has no `LoggerUsage` the
Go code dereferences nil, and the result is `none`. -/
def removeToken (name : String) (unit : Unit) (tokenID : String) : Option Service :=
  let oldConsumers := (s.consumersByTokenID.lookup tokenID).getD ∅
  match unit.eventQueue with
  | some _ => some (s.unregister tokenID name (oldConsumers.erase name))
  | none =>
    match s.loggersUsageByTokenID.lookup tokenID with
    | none => none
    | some loggerUsage =>
      if loggerUsage.usage - 1 = 0 then
        some (unregister { s with
            loggersUsageByTokenID := s.loggersUsageByTokenID.erase tokenID
            events := s.events ++ [.close loggerUsage.logger] }
          tokenID name (oldConsumers.erase tokenID))
      else
        some (unregister { s with
            loggersUsageByTokenID := s.loggersUsageByTokenID.insert tokenID
              { loggerUsage with usage := loggerUsage.usage - 1 } }
          tokenID name oldConsumers)

/-- The token loop of `remove`, over the remaining token IDs. -/
def removeTokens (name : String) (unit : Unit) : Service → List String → Option Service
  | s, [] => some s
  | s, tokenID :: rest => (s.removeToken name unit tokenID).bind (removeTokens name unit · rest)

/-- **`remove(name, unit)`**: unregister the unit under each of its tokens, close it, and delete
it from `unitsByName`. -/
def remove (name : String) (unit : Unit) : Option Service :=
  (s.removeTokens name unit unit.tokenIDs).map fun s =>
    { s.closeUnit unit with unitsByName := s.unitsByName.erase name }

/-- The removals of `init`'s deletion pass, in the order the loop over `toDelete` takes. -/
def removeAll : Service → List (GoMap.Entry Unit) → Option Service
  | s, [] => some s
  | s, e :: rest => (s.remove e.1 e.2).bind (removeAll · rest)

/-! ## `init` -/

/-- The `toDelete` map of `init`: the live units whose names the snapshot lacks. -/
def toDelete (dc : GoMap DestinationConfig) : List (GoMap.Entry Unit) :=
  s.unitsByName.entries.filter fun e => decide (e.1 ∉ dc)

end Service

/-- The config of a destination after the token mapping at the top of `init`'s create loop:
explicit tokens are expanded to token IDs, and an empty list means every known token ID. -/
def Collaborators.resolve (deps : Collaborators) (d : DestinationConfig) : DestinationConfig :=
  { d with onlyTokens :=
      if d.onlyTokens.length > 0 then deps.getAllIDsByToken d.onlyTokens else deps.getAllTokenIDs }

/-- The `newConsumers`, `newStorages` and `newIDs` one `init` call collects and publishes. -/
structure NewMaps where
  consumers : Tokenized Consumer := ∅
  storages : Tokenized Handle := ∅
  ids : Tokenized Bool := ∅

/-- The orders `init`'s two `range` loops take: over `toDelete` and over the snapshot. -/
structure InitOrders where
  toDelete : RangeOrder Unit
  dc : RangeOrder DestinationConfig

namespace Service

variable (s : Service)

/-- The event queue a successful `Create` returns: a fresh one for a stream destination, nil
for every other mode. -/
def createdQueue (cfg : DestinationConfig) : Option Handle :=
  if cfg.mode = streamMode then some ⟨s.nextHandle + 1⟩ else none

/-- Modelled from the spec: `storageFactory.Create(name, config)`. On success it returns a fresh
storage proxy and, for a stream destination, a fresh event queue; on error, nothing. -/
def storageCreate (deps : Collaborators) (name : String) (cfg : DestinationConfig) :
    Option (Handle × Option Handle) × Service :=
  if deps.createOk name cfg then
    let result := some (⟨s.nextHandle⟩, s.createdQueue cfg)
    (result, { s with
      nextHandle := s.nextHandle + 2
      events := s.events ++ [.create name cfg result] })
  else (none, { s with events := s.events ++ [.create name cfg none] })

/-- The "get or create new logger" step of `init`: the token's `LoggerUsage`, made with a fresh
logger from `CreateIncomingLogger` and usage 0 when the token has none. -/
def loggerFor (tokenID : String) : LoggerUsage × Service :=
  match s.loggersUsageByTokenID.lookup tokenID with
  | some loggerUsage => (loggerUsage, s)
  | none =>
    let loggerUsage : LoggerUsage := ⟨⟨s.nextHandle⟩, 0⟩
    (loggerUsage, { s with
      nextHandle := s.nextHandle + 1
      loggersUsageByTokenID := s.loggersUsageByTokenID.insert tokenID loggerUsage
      events := s.events ++ [.createLogger tokenID ⟨s.nextHandle⟩] })

/-- **One iteration of `init`'s token loop** for a unit just built. A staged destination is
skipped. Otherwise the name joins the token's IDs; a stream destination adds its queue as a
consumer under its name; a batch destination increments the token's shared logger, adds that
logger as a consumer under the token ID and its storage under its name. -/
def addToken (name : String) (cfg : DestinationConfig) (eventQueue : Option Handle)
    (storage : Handle) (acc : NewMaps) (tokenID : String) : Service × NewMaps :=
  if cfg.staged then (s, acc)
  else
    let ids := acc.ids.add tokenID name true
    if cfg.mode = streamMode then
      (s, { acc with ids, consumers := acc.consumers.add tokenID name eventQueue })
    else
      let (loggerUsage, s) := s.loggerFor tokenID
      let loggerUsage := { loggerUsage with usage := loggerUsage.usage + 1 }
      ({ s with loggersUsageByTokenID := s.loggersUsageByTokenID.insert tokenID loggerUsage },
        { acc with
          ids
          consumers := acc.consumers.add tokenID tokenID (some loggerUsage.logger)
          storages := acc.storages.add tokenID name storage })

/-- The token loop of `init`, over the remaining token IDs. -/
def addTokens (name : String) (cfg : DestinationConfig) (eventQueue : Option Handle)
    (storage : Handle) : Service → NewMaps → List String → Service × NewMaps
  | s, acc, [] => (s, acc)
  | s, acc, tokenID :: rest =>
    let p := s.addToken name cfg eventQueue storage acc tokenID
    addTokens name cfg eventQueue storage p.1 p.2 rest

/-- The unit `init` registers for a destination built by `Create`. -/
def newUnit (cfg : DestinationConfig) (hash : UInt64) (storage : Handle)
    (eventQueue : Option Handle) : Unit :=
  ⟨eventQueue, storage, cfg.onlyTokens, hash, cfg.staged⟩

/-- **The create step of one destination**, once no live unit holds its name: skip it while its
authorization is empty, call `Create`, and on success register the unit and run the token loop. -/
def createUnit (deps : Collaborators) (name : String) (cfg : DestinationConfig) (hash : UInt64)
    (acc : NewMaps) : Service × NewMaps :=
  if cfg.onlyTokens.length = 0 then (s, acc)
  else
    match s.storageCreate deps name cfg with
    | (none, s) => (s, acc)
    | (some (storage, eventQueue), s) =>
      addTokens name cfg eventQueue storage
        { s with unitsByName := s.unitsByName.insert name (newUnit cfg hash storage eventQueue) }
        acc cfg.onlyTokens

variable (getHash : String → DestinationConfig → UInt64)

/-- **One iteration of `init`'s create loop.** Resolve the tokens and hash the config; keep an
unchanged live unit; remove a changed one; then create the destination. -/
def createOne (deps : Collaborators) (acc : NewMaps) (name : String) (d : DestinationConfig) :
    Option (Service × NewMaps) :=
  let cfg := deps.resolve d
  let hash := getHash name cfg
  match s.unitsByName.lookup name with
  | some unit =>
    if unit.hash = hash then some (s, acc)
    else (s.remove name unit).map fun s => s.createUnit deps name cfg hash acc
  | none => some (s.createUnit deps name cfg hash acc)

/-- The create loop of `init`, over the remaining entries of the snapshot. -/
def createPass (deps : Collaborators) :
    Service → NewMaps → List (GoMap.Entry DestinationConfig) → Option (Service × NewMaps)
  | s, acc, [] => some (s, acc)
  | s, acc, e :: rest =>
    (s.createOne getHash deps acc e.1 e.2).bind fun p => createPass deps p.1 p.2 rest

/-- The last critical section of `init`: `AddAll` of the new entries into the live maps. -/
def publish (acc : NewMaps) : Service :=
  { s with
    consumersByTokenID := s.consumersByTokenID.addAll acc.consumers
    storagesByTokenID := s.storagesByTokenID.addAll acc.storages
    destinationsIDByTokenID := s.destinationsIDByTokenID.addAll acc.ids }

/-- **`init(dc)`**: remove the units the snapshot lacks, create or recreate the destinations of
the snapshot, and publish the new consumers, storages and IDs. `none` when a removal panics. -/
def init (deps : Collaborators) (ord : InitOrders) (dc : GoMap DestinationConfig) :
    Option Service :=
  (s.removeAll (ord.toDelete.arrange (s.toDelete dc))).bind fun s =>
    (s.createPass getHash deps {} (ord.dc.arrange dc.entries)).map fun p => p.1.publish p.2

/-! ## `Close` -/

/-- An error `Close()` collects. -/
inductive CloseError
  /-- `"Error closing logger for token [%s]: %v"`. -/
  | logger (tokenID : String) (err : String)
  /-- `"[%s] Error closing destination unit: %v"`, with the errors of the unit's handles. -/
  | unit (name : String) (errs : List String)
  deriving DecidableEq, Repr

/-- The orders of `Close()`'s two `range` loops. -/
structure CloseOrders where
  loggers : RangeOrder LoggerUsage
  units : RangeOrder Unit

/-- **`Close()`**: close every shared logger, then every unit, and collect every error; no error
stops the loops. `closeErr h` is the error `Close()` on `h` returns. -/
def close (ord : CloseOrders) (closeErr : Handle → Option String) : Service × List CloseError :=
  let loggers := ord.loggers.arrange s.loggersUsageByTokenID.entries
  let units := ord.units.arrange s.unitsByName.entries
  ({ s with events := s.events ++ loggers.map (fun e => .close e.2.logger) ++
      (units.map fun e => e.2.handles.map Event.close).flatten },
    loggers.filterMap (fun e => (closeErr e.2.logger).map (.logger e.1)) ++
      units.filterMap fun e =>
        let errs := e.2.handles.filterMap closeErr
        if errs = [] then none else some (.unit e.1 errs))

end Service

/-! ## Runs -/

/-- **The reachable states of the service**: from the empty service, any sequence of `init`
calls whose collaborators and snapshot satisfy `ok` in the state the call starts from, with any
iteration orders, in which no `init` panics. -/
inductive Reachable (getHash : String → DestinationConfig → UInt64)
    (ok : Service → Collaborators → GoMap DestinationConfig → Prop) : Service → Prop
  | empty : Reachable getHash ok Service.empty
  | init {s s' : Service} (deps : Collaborators) (ord : InitOrders) (dc : GoMap DestinationConfig) :
      Reachable getHash ok s → ok s deps dc → s.init getHash deps ord dc = some s' →
      Reachable getHash ok s'

/-! ## A sample deployment

One token `t`, a stream destination `events` for every token and a batch destination `warehouse`
for `t`, reconciled once from the empty service with every `Create` succeeding. -/

/-- The collaborators of the sample: the authorization service knows the single token ID `t`,
and `Create` always succeeds. -/
def Collaborators.sample : Collaborators := ⟨id, ["t"], fun _ _ => true⟩

/-- Ranging over a map in the order of its entries. -/
def InitOrders.listed : InitOrders := ⟨RangeOrder.listed, RangeOrder.listed⟩

/-- Ranging over a map in the order of its entries. -/
def Service.CloseOrders.listed : Service.CloseOrders := ⟨RangeOrder.listed, RangeOrder.listed⟩

/-- A hash that tells configs apart by the number of their other settings. -/
def sampleHash (_ : String) (cfg : DestinationConfig) : UInt64 := cfg.settings.length.toUInt64

/-- The sample snapshot. -/
def sampleSnapshot : GoMap DestinationConfig :=
  ((∅ : GoMap DestinationConfig).insert "events" ⟨"s3", streamMode, [], false, []⟩).insert
    "warehouse" ⟨"redshift", "batch", ["t"], false, []⟩

theorem init_sample_isSome :
    (Service.empty.init sampleHash .sample .listed sampleSnapshot).isSome := by decide

/-- The service after reconciling the sample snapshot. -/
def sampleState : Service :=
  (Service.empty.init sampleHash .sample .listed sampleSnapshot).get init_sample_isSome

theorem init_sample :
    Service.empty.init sampleHash .sample .listed sampleSnapshot = some sampleState :=
  (Option.some_get init_sample_isSome).symm

theorem reachable_sampleState : Reachable sampleHash (fun _ _ _ => True) sampleState :=
  .init _ _ _ .empty trivial init_sample

example : sampleState.getConsumers "t" = [some ⟨2⟩, some ⟨4⟩] := by decide

/-- The sample's `warehouse` with one setting changed. -/
def warehouseChanged : DestinationConfig := ⟨"redshift", "batch", ["t"], false, [("schema", "v2")]⟩

/-- The sample snapshot with `warehouse` changed. -/
def changedSnapshot : GoMap DestinationConfig := sampleSnapshot.insert "warehouse" warehouseChanged

/-- The sample snapshot without `warehouse`. -/
def droppedSnapshot : GoMap DestinationConfig := sampleSnapshot.erase "warehouse"

end Jitsu.Destinations
