import PoolWatch.Node.Client
import PoolWatch.Relay.Pool
import PoolWatch.Settings.EnvFile
import PoolWatch.Settings.Payer
import PoolWatch.Submit.Direct
import PoolWatch.Trade.Place
import PoolWatch.Watcher.Feed

/-! # The bot

    One run of the watcher from start to end: settings and payer are read,
    the trade history is opened, the channels that were chosen are set up,
    and then the feed is handled until it ends.  The bot watches and keeps
    its records; what to trade is left to a strategy, and it runs with the
    idle one. -/

namespace PoolWatch.Bot

/-! ## Surroundings -/

/-- What a run finds around itself. -/
structure Host where
  epoch : Int64
  processors : Nat
  disk : Disk
  node : Http.Peer Json
  engine : Http.Peer BlockEngine.Request
  relay : Nat → Relay.Link

/-- Why a run ended early. -/
inductive Failure where
  | settings (error : SettingsError)
  | payer (error : PayerError)
  | store (url : String)
  | history (place : String)
  | schema
  | lookupTable (table : Key) (error : ResolveError)
  | feed

/-- What is wrong, without the causes behind it. -/
def Failure.message : Failure → String
  | .settings e => e.message
  | .payer e => e.message
  | .store url => "connect redis " ++ url
  | .history place => "open sqlite db " ++ place
  | .schema => "create trades schema"
  | .lookupTable table _ => "preload lookup table " ++ table.text
  | .feed => Watcher.Feed.brokenText

/-- What a run left behind: where its history is kept and what is in it, if it
    got that far, what was told, and why it ended early. -/
structure Run where
  history : Option (Trade.Place × TradeHistory)
  notices : List Notice
  failure : Option Failure

/-! ## Channels -/

/-- How the client is known to the paid relay. -/
def access (s : Settings) : Relay.Access :=
  ⟨s.relayUrl.getD "", s.relayToken.getD "", s.relayStakedNodes⟩

/-- Connects one worker of the relay's pool; one that cannot be connected yet
    is told of and kept. -/
def connectWorker (s : Settings) (link : Relay.Link) : Relay.Worker × List Notice :=
  match (Relay.connect (access s) link).run.run .new with
  | (.ok _, client) => (⟨link, client⟩, [])
  | (.error e, client) =>
    (⟨link, client⟩,
      [.warn ("relay connect failed, will retry on first send: " ++ e.message)])

/-- The workers from a number on. -/
def connectPool (host : Host) (s : Settings) (first : Nat) : Nat → Relay.Pool × List Notice
  | 0 => ([], [])
  | count + 1 =>
    let (worker, told) := connectWorker s (host.relay first)
    let (pool, more) := connectPool host s (first + 1) count
    (worker :: pool, told ++ more)

/-- Puts the submitter of a channel on a router. -/
def addChannel (host : Host) (s : Settings) (r : Router) : Channel → Router × List Notice
  | .direct => (r.withSubmitter .direct (Direct.submitter host.node), [])
  | .blockEngine =>
    (r.withSubmitter .blockEngine
      (BlockEngine.submitter host.engine (s.engineUrl.getD "") s.engineVariant), [])
  | .paidRelay =>
    let (pool, told) := connectPool host s 0 s.relayConnections.toNat
    (r.withSubmitter .paidRelay (Relay.Pool.submitter (access s) pool), told)

/-- Puts the submitters of several channels on a router. -/
def addChannels (host : Host) (s : Settings) (r : Router) :
    List Channel → Router × List Notice
  | [] => (r, [])
  | c :: rest =>
    let (r, told) := addChannel host s r c
    let (r, more) := addChannels host s r rest
    (r, told ++ more)

/-- The router of the chosen channels. -/
def router (host : Host) (s : Settings) : Router × List Notice :=
  addChannels host s .empty s.channels

/-! ## Running -/

/-- What is told when the store lives in memory only. -/
def memoryNotice : Notice :=
  .warn "REDIS_URL unset, cache and tracking state live in memory only"

/-- What stays the same in a run. -/
def setup (host : Host) (s : Settings) (x : Executor) : Watcher.Setup where
  policy := s.policy
  bot := x.payer
  window := s.window.toNat * 1000
  strategy := .idle
  executor := some x
  epoch := host.epoch

/-- The workers that share the queue: two for each processor, unless set. -/
def crew (host : Host) (s : Settings) : Watcher.Crew :=
  .ofRequest ((s.workers.map UInt64.toNat).getD (2 * host.processors))

/-- Reads the lookup table that transactions are to use, if one is set. -/
def preload (s : Settings) : RegistryM Failure (Option TableAccount) :=
  match s.lookupTable with
  | none => pure none
  | some key => fun registry =>
    let (answer, registry) := Registry.lookupTable key registry
    ((answer.map fun t => some ⟨key, t.addresses⟩).mapError (.lookupTable key), registry)

/-- Runs the watcher over a feed, with a history that is open. -/
def watch (host : Host) (s : Settings) (place : Trade.Place) (seed feed : Bytes) : Run :=
  match preload s ⟨.empty, Node.reader host.node, []⟩ with
  | (.error failure, _) => ⟨some (place, .empty), [memoryNotice], some failure⟩
  | (.ok table, registry) =>
    let (router, told) := router host s
    let start : Watcher.State :=
      { registry
        trades := .empty
        router
        seen := []
        blockhash := .zero
        time := 0
        fired := []
        notices := told.reverse ++ [memoryNotice] }
    let executor : Executor := ⟨seed, ⟨s.tipLamports, table⟩⟩
    let (reading, final) :=
      (Watcher.runFeed (setup host s executor) (crew host s) feed).run start
    ⟨some (place, final.trades), final.notices.reverse,
      if reading.broken then some .feed else none⟩

/-- A run that ended before its history was opened. -/
def stopped (failure : Failure) : Run := ⟨none, [], some failure⟩

/-- Finds the place that the settings name, and opens the history there. -/
def openHistory (disk : Disk) (s : Settings) : Except Failure Trade.Place :=
  match Trade.Place.ofText? s.historyFile with
  | none => .error (.history s.historyFile)
  | some place =>
    match place.check disk with
    | .ok _ => .ok place
    | .error .closed => .error (.history s.historyFile)
    | .error .notHistory => .error .schema

/-- One run of the bot. -/
def run (host : Host) (env : Environment) (feed : Bytes) : Run :=
  match Settings.load env with
  | .error e => stopped (.settings e)
  | .ok s =>
    match Payer.load s host.disk with
    | .error e => stopped (.payer e)
    | .ok seed =>
      match s.storeUrl with
      | some url => stopped (.store url)
      | none =>
        match openHistory host.disk s with
        | .error failure => { stopped failure with notices := [memoryNotice] }
        | .ok place => watch host s place seed feed

/-- The environment of a run: the process's own, and then the file's. -/
def environment (own : Environment) (file : Option String) : Environment :=
  match file with
  | some text => EnvFile.load own text
  | none => own

end PoolWatch.Bot
