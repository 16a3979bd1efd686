import QuoteGateway.Assembly
import QuoteGateway.Cache.RedisWire
import QuoteGateway.CommandLine
import QuoteGateway.Net.Exchange
import QuoteGateway.Observation
import QuoteGateway.Quote.Loop
import QuoteGateway.Quote.Request
import QuoteGateway.Settings.EnvironmentFile
import Std.Async
import Std.Time.DateTime.Timestamp

/-!
# The program

Connects the gateway to the clock, to files and to servers, and carries out one command. A server
of the cache and the feed of rates are reached over plain connections. There is no connection to a
database, and settings that ask for one are told so at the start.
-/

namespace QuoteGateway.Program

open Std.Async

def wallClock : IO Calendar.Instant := do
  let nanos := (← Std.Time.Timestamp.now).toNanosecondsSinceUnixEpoch.val
  match Calendar.Instant.of? (nanos / 1000000000) (nanos % 1000000000).toNat with
  | some moment => return moment
  | none => throw (IO.userError "the clock shows no moment of the calendar")

/-- A computation that is given up once a deadline has passed or a stop was asked for. -/
abbrev Limited := OptionT IO

def broken {α : Type} (cause : String) : Limited α := OptionT.lift (throw (IO.userError cause))

structure Connection where
  socket : TCP.Socket.Client
  pending : IO.Ref (List UInt8)

def bareHost (host : String) : String :=
  String.ofList (host.toList.filter fun c => c != '[' && c != ']')

def connect (host : String) (port : UInt16) : IO Connection := do
  let addresses ← (DNS.getAddrInfo (bareHost host) "").block
  let mut cause := IO.userError "no address found"
  for address in addresses do
    let target : Std.Net.SocketAddress := match address with
      | .v4 address => .v4 ⟨address, port⟩
      | .v6 address => .v6 ⟨address, port⟩
    try
      let socket ← TCP.Socket.Client.mk
      (socket.connect target).block
      return ⟨socket, ← IO.mkRef []⟩
    catch failed => cause := failed
  throw cause

def largestPiece : UInt64 := 65536

/-- The next piece that comes in before a deadline, or nothing once the connection is closed. -/
def nextPiece (connection : Connection) (deadline : Option Nat) :
    Limited (Option (List UInt8)) := do
  match deadline with
  | none =>
    let piece ← OptionT.lift (connection.socket.recv? largestPiece).block
    return piece.map (·.toList)
  | some deadline =>
    let now ← IO.monoNanosNow
    if deadline ≤ now then failure
    else
      let pause := Std.Time.Millisecond.Offset.ofNat ((deadline - now) / 1000000 + 1)
      let limit ← (Selector.sleep pause).block
      OptionT.mk (Selectable.one #[
        .case (connection.socket.recvSelector largestPiece) fun piece =>
          return some (piece.map (·.toList)),
        .case limit fun _ => return none]).block

partial def readToEnd (connection : Connection) (deadline : Option Nat) :
    Limited (List UInt8) := do
  match ← nextPiece connection deadline with
  | none => return (← connection.pending.get)
  | some piece =>
    connection.pending.modify (· ++ piece)
    readToEnd connection deadline

partial def awaitReply (connection : Connection) (deadline : Option Nat) :
    Limited Cache.Redis.Reply := do
  match Cache.Redis.readReply Cache.Redis.deepestReply (← connection.pending.get) with
  | .whole reply rest =>
    connection.pending.set rest
    return reply
  | .malformed => broken "the server sent no reply"
  | .incomplete =>
    match ← nextPiece connection deadline with
    | none => broken "the server closed the connection"
    | some piece =>
      connection.pending.modify (· ++ piece)
      awaitReply connection deadline

def exchange (connection : Connection) (deadline : Option Nat) (words : List String) :
    Limited Cache.Redis.Reply := do
  (connection.socket.send ⟨(Cache.Redis.writeWords words).toArray⟩).block
  awaitReply connection deadline

inductive CacheLink where
  | inMemory (shared : IO.Ref Cache.InMemory.Shared)
  | server (space : Option String) (connection : Connection)

/-- What the gateway is connected to. -/
structure Site where
  cache : CacheLink
  keys : Table ApiKey
  feed : Option Feed
  /-- When the answers of the cache come too late. -/
  deadline : Option Nat
  /-- Whether operators are told of events. -/
  tells : Bool

def tell (site : Site) (line : Option String) : IO Unit := do
  if site.tells then
    if let some line := line then IO.eprintln line

def performCache (site : Site) (call : Cache.Call) : Limited (Except Failure call.Result) := do
  match site.cache with
  | .inMemory shared =>
    let (result, after) := (← shared.get).call (← IO.monoNanosNow) call
    shared.set after
    match result with
    | .ok a => return .ok a
    | .error _ => broken "a lifetime ends after the end of the clock"
  | .server space connection =>
    let answer (command : Cache.Redis.Command) : Limited Cache.Redis.Reply :=
      exchange connection site.deadline command.words
    OptionT.mk do
      try ((Cache.Redis.perform space call).run (m := Limited) answer Empty.elim).run
      catch failed =>
        return some (.error (.reported .cache (Cache.Redis.intent call ++ toString failed)))

def feedReply (timeout : Duration) (url : Net.Url) : IO Feed.Reply := do
  if url.scheme != "http".toList then return .missing
  try
    let deadline := (← IO.monoNanosNow) + timeout.nanos
    let connection ← connect (String.ofList (url.host.getD [])) (.ofNat (url.portOrDefault 80))
    let text := Net.requestText url Feed.acceptedFormat
    (connection.socket.send text.toUTF8).block
    match (← (readToEnd connection (some deadline)).run).bind Net.Response.read? with
    | some response => return .answered response.code response.body
    | none => return .missing
  catch _ => return .missing

def perform (site : Site) : (call : Call) → Limited (Except Failure call.Result)
  | .cache call => performCache site call
  | .findKey id => return .ok (site.keys.get? id)
  | .pingStore => return .ok ()
  | .fetchRates bases =>
    match site.feed with
    | none => return .ok []
    | some feed => do
      let hear (reply : Feed.ErrorReply) : IO Unit := tell site (some reply.line)
      let rates ← OptionT.lift ((feed.fetchAll bases).run.run (feedReply feed.timeout) hear)
      return rates.mapError Feed.Fault.failure

def hear (site : Site) (event : Event) : Limited Unit := do tell site event.line?

abbrev Starting := ExceptT StartFault IO

def readFile? (name : String) : IO (Option String) := do
  try return some (← IO.FS.readFile name) catch _ => return none

def loadSettings : Starting Settings := do
  let inherited ← Std.Internal.UV.System.osEnviron
  let completing := (← readFile? ".env").getD ""
  let names := Settings.fileNames.flatMap fun name => [name ++ ".toml", name ++ ".json"]
  let files ← names.mapM fun name => return (name, ← readFile? name)
  let environment := Settings.completed inherited.toList completing
  match Settings.load (fun name => (files.lookup name).join) environment with
  | .ok settings => return settings
  | .error cause => throw (.badSettings cause)

def openServer (url : Net.Url) : IO Connection := do
  let port := UInt16.ofNat (url.portOrDefault 6379)
  let connection ← connect (String.ofList (url.host.getD [])) port
  let database := String.ofList (Cache.Redis.pathText url.path)
  if !database.isEmpty then
    let _ ← (exchange connection none ["SELECT", database]).run
  return connection

def openCache (settings : CacheSettings) : Starting CacheLink := do
  match settings.choice with
  | .error fault => throw fault
  | .ok (.inMemory capacity) => return .inMemory (← IO.mkRef (.empty capacity))
  | .ok (.server url space) =>
    ExceptT.mk do
      try return .ok (.server space (← openServer url))
      catch failed => return .error (cacheNotConnected (toString failed))

def openStore (settings : StoreSettings) : Starting (Table ApiKey) := do
  match settings.choice with
  | .error fault => throw fault
  | .ok (.seeded seeds) => return KeyStore.seededKeys seeds
  | .ok (.database ..) => throw (storeNotConnected "this program has no connection to a database")

def makeReady (site : Site) (checks : Start Unit) : Starting Unit := do
  match ← (checks.run.run (perform site) (hear site)).run with
  | some (.error fault) => throw fault
  | _ => return ()

def runQuote (settings : Settings) (apiKey pairs : String) : Starting UInt32 := do
  let cache ← openCache settings.cache
  let site : Site := ⟨cache, .empty, none, none, settings.logging.level != "off"⟩
  makeReady site ensureCacheReachable
  let site := { site with keys := ← openStore settings.store }
  makeReady site ensureStoreReachable
  let started ← IO.monoNanosNow
  let timeout := settings.quote.timeout
  let site := { site with deadline := some (started + timeout.nanos) }
  let work := Request.execute (perform site) (hear site) settings.policy timeout none apiKey pairs
    (← wallClock)
  let result := match ← work.run with
    | some result => result
    | none => Request.conclusion timeout none
  let took := ((← IO.monoNanosNow) - started) / 1000000
  IO.println (Request.document took result).pretty
  return .ofNat (Request.exitCode result)

/-- Waits until a moment. The wait ends at once when a stop is asked for. -/
partial def waitUntil (stops : List (AsyncTask Int)) (moment : Nat) : Limited Unit := do
  for stop in stops do
    if ← IO.hasFinished stop then failure
  let now ← IO.monoNanosNow
  if now < moment then
    IO.sleep (.ofNat (min 50 ((moment - now) / 1000000 + 1)))
    waitUntil stops moment

def largestTicks : Nat := UInt64.size

def runUpdate (settings : Settings) : Starting UInt32 := do
  let cache ← openCache settings.cache
  let site : Site := ⟨cache, .empty, none, none, settings.logging.level != "off"⟩
  makeReady site ensureCacheReachable
  match settings.updaterFeed with
  | .error fault => throw fault
  | .ok feed =>
    let site := { site with feed := some feed }
    let plan := settings.updater.plan
    let stops ← [Signal.sigint, Signal.sigterm].mapM fun signal => do
      (← Signal.Waiter.mk signal false).wait
    let cycle (start : Nat) : Limited Nat := do
      waitUntil stops start
      plan.cycle.run (perform site) (hear site)
      IO.monoNanosNow
    let _ ← (UpdaterLoop.run plan.interval.nanos none cycle largestTicks (← IO.monoNanosNow)).run
    return 0

/-- Says why there is no command: on the standard output where this was asked for. -/
def refuse (refusal : CommandLine.Refusal) : IO UInt32 := do
  for line in refusal.lines do
    if refusal.exitCode = 0 then IO.println line else IO.eprintln line
  return .ofNat refusal.exitCode

def carryOut : CommandLine.Command → Starting UInt32
  | .update => do runUpdate (← loadSettings)
  | .quote apiKey pairs => do runQuote (← loadSettings) apiKey pairs

end QuoteGateway.Program

def main (arguments : List String) : IO UInt32 := do
  match QuoteGateway.CommandLine.parse arguments with
  | .error refusal => QuoteGateway.Program.refuse refusal
  | .ok command =>
    match ← (QuoteGateway.Program.carryOut command).run with
    | .ok code => return code
    | .error fault =>
      IO.eprintln ("Error: " ++ fault.message)
      return 1
