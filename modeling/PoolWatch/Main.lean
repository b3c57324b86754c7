import PoolWatch.Program.Bot
import PoolWatch.Program.Inspect
import Std.Time.DateTime.Timestamp

/-! # Command line

    `watch` runs the bot on the standard input; `inspect` says what the
    instructions on the standard input, or in a file, are.  This layer has no
    network: nodes and relays count as out of reach. -/

namespace PoolWatch.Main

/-- Everything on the standard input. -/
partial def readAll (stream : IO.FS.Stream) (got : ByteArray) : IO ByteArray := do
  let chunk ← stream.read 65536
  if chunk.isEmpty then pure got else readAll stream (got ++ chunk)

/-- The names of the variables that settings are read from. -/
def settingNames : List String :=
  ["PAYER_PRIVATE_KEY", "SOLANA_PAYER_KEYPAIR", "RPC_HTTP_URL", "REDIS_URL", "TRADE_DB",
    "RAYDIUM_ALT", "BLOCKENGINE_URL", "BLOCKENGINE_VARIANT", "BLOXROUTE_WS_URL",
    "BLOXROUTE_TOKEN", "BLOXROUTE_POOL_SIZE", "BLOXROUTE_STAKED_RPCS", "WORKERS",
    "DEDUP_WINDOW_SECS", "CHUNK_SPLITTER", "LIQUIDITY_FLOOR_LAMPORTS", "WITHDRAW_SETTLE_MS",
    "WITHDRAW_TRACK_MODE", "RPC_RATE_LIMIT", "TIP_LAMPORTS", "BUY_METHOD", "SELL_METHOD"]

/-- The process's own variables. -/
def ownEnvironment : IO Environment := do
  let found ← settingNames.filterMapM fun name => do
    pure ((← IO.getEnv name).map fun value => (name, value))
  pure fun name => found.lookup name

/-- The bytes of a file, if it is there. -/
def readFile? (path : String) : IO (Option Bytes) := do
  try
    pure (some (← IO.FS.readBinFile path).toList)
  catch _ => pure none

/-- The files at some paths that are there. -/
def filesOf (paths : List String) : IO (List (Path × Bytes)) :=
  paths.filterMapM fun text => do
    pure ((← readFile? text).map fun content => (Path.ofText text, content))

/-- Milliseconds since the epoch. -/
def now : IO Int64 := do
  let stamp ← Std.Time.Timestamp.now
  pure (Int64.ofInt stamp.toMillisecondsSinceUnixEpoch.val)

/-- Runs the bot. -/
def watch : IO UInt32 := do
  let file := (← readFile? ".env").bind Text.Utf8.decode?
  let env := Bot.environment (← ownEnvironment) file
  let historyDirectory :=
    (Path.ofText ((Settings.text? env "TRADE_DB").getD Settings.standard.historyFile)).parent
  let files ← filesOf (Settings.text? env "SOLANA_PAYER_KEYPAIR").toList
  let feed ← readAll (← IO.getStdin) .empty
  let host : Bot.Host :=
    { epoch := ← now
      processors := 1
      disk := .ofLists [historyDirectory] files
      node := .unreachable
      engine := .unreachable
      relay := fun _ => .unreachable }
  let run := Bot.run host env feed.toList
  for notice in run.notices do
    IO.println (notice.severity.name ++ " " ++ notice.text)
  match run.failure with
  | none => pure 0
  | some failure =>
    IO.eprintln ("Error: " ++ failure.message)
    pure 1

/-- Inspects a text. -/
def inspect (text : String) : IO UInt32 := do
  for finding in Inspect.inspect text do
    match finding with
    | .report text => IO.println text
    | .fault text => IO.eprintln text
  pure 0

/-- Inspects bytes, which have to be a text. -/
def inspectBytes (bytes : Bytes) (complaint : String) : IO UInt32 := do
  match Text.Utf8.decode? bytes with
  | some text => inspect text
  | none =>
    IO.eprintln ("Error: " ++ complaint)
    pure 1

end PoolWatch.Main

/-- Runs the command that the arguments name. -/
def main (args : List String) : IO UInt32 := do
  match args with
  | ["inspect"] =>
    let bytes ← PoolWatch.Main.readAll (← IO.getStdin) .empty
    PoolWatch.Main.inspectBytes bytes.toList PoolWatch.Watcher.Feed.brokenText
  | ["inspect", path] =>
    match ← PoolWatch.Main.readFile? path with
    | some bytes => PoolWatch.Main.inspectBytes bytes ("read " ++ path)
    | none =>
      IO.eprintln ("Error: read " ++ path)
      pure 1
  | [] | ["watch"] => PoolWatch.Main.watch
  | _ =>
    IO.eprintln "usage: watch | inspect [file]"
    pure 2
