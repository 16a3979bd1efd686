import QuoteGateway.Cache.InMemory
import QuoteGateway.Cache.RedisServer
import QuoteGateway.Feed
import QuoteGateway.Gateway
import QuoteGateway.KeyStore.Database
import QuoteGateway.KeyStore.Seeded

/-!
# A world to run the gateway in

The collaborators of the gateway as one value that every call may change: a cache of one of three
kinds whose calls may fail, a key store, a source of rates, and a clock that moves only by hand.
All calls and events are noted down.
-/

namespace QuoteGateway.Simulation

inductive CacheSite where
  | timed (map : Cache.TimedMap)
  | inMemory (shared : Cache.InMemory.Shared)
  | server (space : Option String) (server : Cache.Redis.Server)
      (replies : List Cache.Redis.Reply)

/-- Answers of a database that do not depend on its content. -/
structure DatabaseFaults where
  find : Option String
  check : Option String

inductive StoreSite where
  | seeded (keys : Table ApiKey)
  | records (keys : Table ApiKey) (find ping : Option Failure)
  | database (rows : Table KeyStore.Database.Row) (faults : DatabaseFaults)

inductive SourceSite where
  | scripted (rates : Except Failure (List FeedRate))
  | feed (feed : Feed) (reply : Net.Url → Feed.Reply)

inductive Note where
  | call (call : Call)
  | command (command : Cache.Redis.Command)
  | query (query : KeyStore.Database.Query)
  | request (url : Net.Url)
  | event (event : Event)
  | errorReply (reply : Feed.ErrorReply)

structure World where
  /-- Nanoseconds on the clock of the cache. -/
  now : Nat
  cache : CacheSite
  /-- The failure of a cache call, after a number of writes. -/
  cacheFault : Nat → Cache.Call → Option Failure
  writes : Nat
  store : StoreSite
  source : SourceSite
  /-- The latest note comes first. -/
  notes : List Note

/-- A run in a world. It ends early where a deadline lies beyond the end of the clock. -/
abbrev Run (α : Type) := StateT World (Except Cache.InMemory.ClockOverflow) α

def note (entry : Note) : Run Unit := modify fun world =>
  { world with notes := entry :: world.notes }

def countWrite (call : Cache.Call) : Run Unit := modify fun world =>
  match call with
  | .write .. => { world with writes := world.writes + 1 }
  | _ => world

/-- The reply of a server to a command: the next one that was set, or else its own. -/
def serverReply (command : Cache.Redis.Command) : Run Cache.Redis.Reply := do
  note (.command command)
  let world ← get
  match world.cache with
  | .server space server (reply :: replies) =>
    set { world with cache := .server space server replies }
    return reply
  | .server space server [] =>
    let (reply, server) := server.answer (world.now / 1000000) command
    set { world with cache := .server space server [] }
    return reply
  | _ => return .nil

def cacheAnswer (call : Cache.Call) : Run (Except Failure call.Result) := do
  let world ← get
  match world.cache with
  | .timed map =>
    let (result, map) := map.answer world.now call
    set { world with cache := .timed map }
    return .ok result
  | .inMemory shared =>
    let (result, shared) := shared.call world.now call
    set { world with cache := .inMemory shared }
    match result with
    | .ok a => return .ok a
    | .error overflow => throw overflow
  | .server space _ _ =>
    (Cache.Redis.perform space call).run (m := Run) serverReply Empty.elim

/-- A call of the cache. A call that fails touches nothing. -/
def performCache (call : Cache.Call) : Run (Except Failure call.Result) := do
  let world ← get
  match world.cache with
  | .server .. => cacheAnswer call
  | _ =>
    note (.call (.cache call))
    countWrite call
    match world.cacheFault world.writes call with
    | some failure => return .error failure
    | none => cacheAnswer call

def databaseAnswer (rows : Table KeyStore.Database.Row) (faults : DatabaseFaults)
    (query : KeyStore.Database.Query) : Run (Except String (Option KeyStore.Database.Row)) := do
  note (.query query)
  match query with
  | .findKey id => return match faults.find with
    | some message => .error message
    | none => .ok (rows.get? id)
  | .check => return match faults.check with
    | some message => .error message
    | none => .ok none

def feedAnswer (reply : Net.Url → Feed.Reply) (url : Net.Url) : Run Feed.Reply := do
  note (.request url)
  return reply url

def orFail {α : Type} (fault : Option Failure) (a : α) : Except Failure α :=
  match fault with
  | some failure => .error failure
  | none => .ok a

/-- A call of any collaborator. -/
def perform : (call : Call) → Run (Except Failure call.Result)
  | .cache call => performCache call
  | .findKey id => do
    match (← get).store with
    | .seeded keys => return .ok (keys.get? id)
    | .records keys find _ =>
      note (.call (.findKey id))
      return orFail find (keys.get? id)
    | .database rows faults =>
      (KeyStore.Database.findKey id).run (m := Run) (databaseAnswer rows faults) Empty.elim
  | .pingStore => do
    match (← get).store with
    | .seeded _ => return .ok ()
    | .records _ _ ping =>
      note (.call .pingStore)
      return orFail ping ()
    | .database rows faults =>
      KeyStore.Database.check.run (m := Run) (databaseAnswer rows faults) Empty.elim
  | .fetchRates bases => do
    match (← get).source with
    | .scripted rates =>
      note (.call (.fetchRates bases))
      return rates
    | .feed feed reply =>
      let rates ← (feed.fetchAll bases).run.run (m := Run) (feedAnswer reply)
        fun event => note (.errorReply event)
      return rates.mapError Feed.Fault.failure

def carryOut {α : Type} (dialogue : Dialogue gatewaySignature α) : Run α :=
  dialogue.run (m := Run) perform fun event => note (.event event)

def advance (duration : Duration) : Run Unit := modify fun world =>
  { world with now := world.now + duration.nanos }

end QuoteGateway.Simulation
