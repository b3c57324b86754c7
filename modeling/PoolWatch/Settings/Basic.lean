import PoolWatch.Key
import PoolWatch.Submit.BlockEngine
import PoolWatch.Text.Decimal
import PoolWatch.Text.Url
import PoolWatch.Tracking.Status

/-! # Settings

    Each setting has one variable of the environment.  A variable that is
    unset or blank leaves the setting as it is by default, and blanks at the
    ends of a value do not count.  Reading takes the variables in a fixed
    order and stops at the first that does not read; checking then asks
    whether the settings are enough for what was chosen. -/

namespace PoolWatch

/-- The variables of a process. -/
abbrev Environment := String → Option String

/-- How the watcher is to run. -/
structure Settings where
  payerSecret : Option String
  payerFile : Option String
  nodeUrl : String
  storeUrl : Option String
  historyFile : String
  lookupTable : Option Key
  engineUrl : Option String
  engineVariant : BlockEngine.Variant
  relayUrl : Option String
  relayToken : Option String
  relayConnections : UInt64
  relayStakedNodes : Bool
  /-- Two for each processor, unless set. -/
  workers : Option UInt64
  /-- How long a signature is remembered, in seconds. -/
  window : UInt64
  splitter : UInt64
  floor : UInt64
  /-- How long a withdrawal is given to settle, in milliseconds. -/
  settle : UInt64
  withdrawMode : Tracking.Status
  /-- Questions to the node per second. -/
  rateLimit : UInt32
  tipLamports : UInt64
  buyOn : List Channel
  sellOn : List Channel
  deriving DecidableEq

namespace Settings

/-- The settings of an empty environment. -/
def standard : Settings where
  payerSecret := none
  payerFile := none
  nodeUrl := "https://api.mainnet-beta.solana.com"
  storeUrl := none
  historyFile := "trades.db"
  lookupTable := none
  engineUrl := none
  engineVariant := .transaction
  relayUrl := none
  relayToken := none
  relayConnections := 1
  relayStakedNodes := false
  workers := none
  window := 60
  splitter := Tracking.Policy.standard.splitter
  floor := Tracking.Policy.standard.floor
  settle := 500
  withdrawMode := Tracking.Policy.standard.withdrawMode
  rateLimit := 9
  tipLamports := 0
  buyOn := [.direct]
  sellOn := [.direct]

/-- The rules and delays of tracking. -/
def policy (s : Settings) : Tracking.Policy :=
  ⟨s.splitter, s.floor, s.withdrawMode, s.settle.toNat⟩

/-- Every channel that either side of a trade may use, each once after those
    of the buying side. -/
def channels (s : Settings) : List Channel :=
  s.sellOn.foldl (fun all c => if c ∈ all then all else all ++ [c]) s.buyOn

/-- How many workers are asked for on a machine with some processors. -/
def workersOn (s : Settings) (processors : Nat) : Nat :=
  (s.workers.map UInt64.toNat).getD (2 * processors)

end Settings

/-! ## Refusals -/

/-- Why the settings were refused. -/
inductive SettingsError where
  | badNumber (name raw : String) (fault : Text.Decimal.Fault)
  | badFlag (name raw : String)
  | badKey (name raw : String) (fault : KeyFault)
  | badChoice (name choice : String)
  | badChannels (name item : String)
  | noPayer
  | badAddress (name url : String)
  | zero (name : String)
  | missing (channel : Channel) (name : String)
  deriving DecidableEq, Repr

namespace SettingsError

/-- What is wrong, without the causes behind it. -/
def message : SettingsError → String
  | .badNumber name raw fault => "bad " ++ name ++ "=" ++ raw ++ ": " ++ fault.message
  | .badFlag name raw =>
    "bad " ++ name ++ "=" ++ raw ++ ": provided string was not `true` or `false`"
  | .badKey name raw fault => "bad " ++ name ++ "=" ++ raw ++ ": " ++ fault.message
  | .badChoice name choice => "bad " ++ name ++ "=" ++ choice
  | .badChannels name _ => name
  | .noPayer => "missing payer key. set PAYER_PRIVATE_KEY or SOLANA_PAYER_KEYPAIR"
  | .badAddress name url => "bad " ++ name ++ " " ++ url
  | .zero name => name ++ " must be at least 1"
  | .missing channel name => channel.name ++ " channel selected but " ++ name ++ " is unset"

/-- What is wrong, and the cause behind it. -/
def fullMessage (e : SettingsError) : String :=
  match e with
  | .badChannels _ item => e.message ++ ": " ++ Channel.unknownMessage item
  | e => e.message

end SettingsError

namespace Settings

/-! ## Reading -/

/-- What a variable says, as it stands and without the blanks around it; a
    blank one says nothing. -/
def raw? (env : Environment) (name : String) : Option (String × String) :=
  match env name with
  | none => none
  | some raw =>
    let text := Text.trim raw
    if text = "" then none else some (raw, text)

/-- A text. -/
def text? (env : Environment) (name : String) : Option String :=
  (raw? env name).map (·.2)

/-- A natural number of some bits. -/
def number? (bits : Nat) (env : Environment) (name : String) :
    Except SettingsError (Option Nat) :=
  match raw? env name with
  | none => .ok none
  | some (raw, text) =>
    match Text.Decimal.readUnsigned bits text with
    | .ok n => .ok (some n)
    | .error fault => .error (.badNumber name raw fault)

/-- A 64-bit number. -/
def word? (env : Environment) (name : String) : Except SettingsError (Option UInt64) :=
  (number? 64 env name).map (Option.map UInt64.ofNat)

/-- A yes or no. -/
def flag? (env : Environment) (name : String) : Except SettingsError (Option Bool) :=
  match raw? env name with
  | none => .ok none
  | some (_, "true") => .ok (some true)
  | some (_, "false") => .ok (some false)
  | some (raw, _) => .error (.badFlag name raw)

/-- A key. -/
def key? (env : Environment) (name : String) : Except SettingsError (Option Key) :=
  match raw? env name with
  | none => .ok none
  | some (raw, text) =>
    match Key.parse text with
    | .ok k => .ok (some k)
    | .error fault => .error (.badKey name raw fault)

/-- One of some choices, in any letter case. -/
def choice? {α : Type} (ofName? : String → Option α) (env : Environment) (name : String) :
    Except SettingsError (Option α) :=
  match text? env name with
  | none => .ok none
  | some text =>
    let choice := Text.lower text
    match ofName? choice with
    | some a => .ok (some a)
    | none => .error (.badChoice name choice)

/-- A list of channels. -/
def channels? (env : Environment) (name : String) : Except SettingsError (Option (List Channel)) :=
  match text? env name with
  | none => .ok none
  | some text =>
    match Channel.parseList text with
    | .ok cs => .ok (some cs)
    | .error item => .error (.badChannels name item)

/-- The statuses that a drained venue may be given. -/
def withdrawModeOfName? : String → Option Tracking.Status
  | "trigger_only" => some .triggerOnly
  | "both" => some .both
  | _ => none

/-- The settings of an environment. -/
def ofEnvironment (env : Environment) : Except SettingsError Settings := do
  let lookupTable ← key? env "RAYDIUM_ALT"
  let engineVariant ← choice? BlockEngine.Variant.ofName? env "BLOCKENGINE_VARIANT"
  let relayConnections ← word? env "BLOXROUTE_POOL_SIZE"
  let relayStakedNodes ← flag? env "BLOXROUTE_STAKED_RPCS"
  let workers ← word? env "WORKERS"
  let window ← word? env "DEDUP_WINDOW_SECS"
  let splitter ← word? env "CHUNK_SPLITTER"
  let floor ← word? env "LIQUIDITY_FLOOR_LAMPORTS"
  let settle ← word? env "WITHDRAW_SETTLE_MS"
  let withdrawMode ← choice? withdrawModeOfName? env "WITHDRAW_TRACK_MODE"
  let rateLimit ← number? 32 env "RPC_RATE_LIMIT"
  let tipLamports ← word? env "TIP_LAMPORTS"
  let buyOn ← channels? env "BUY_METHOD"
  let sellOn ← channels? env "SELL_METHOD"
  pure
    { payerSecret := text? env "PAYER_PRIVATE_KEY"
      payerFile := text? env "SOLANA_PAYER_KEYPAIR"
      nodeUrl := (text? env "RPC_HTTP_URL").getD standard.nodeUrl
      storeUrl := text? env "REDIS_URL"
      historyFile := (text? env "TRADE_DB").getD standard.historyFile
      lookupTable
      engineUrl := text? env "BLOCKENGINE_URL"
      engineVariant := engineVariant.getD standard.engineVariant
      relayUrl := text? env "BLOXROUTE_WS_URL"
      relayToken := text? env "BLOXROUTE_TOKEN"
      relayConnections := relayConnections.getD standard.relayConnections
      relayStakedNodes := relayStakedNodes.getD standard.relayStakedNodes
      workers
      window := window.getD standard.window
      splitter := splitter.getD standard.splitter
      floor := floor.getD standard.floor
      settle := settle.getD standard.settle
      withdrawMode := withdrawMode.getD standard.withdrawMode
      rateLimit := (rateLimit.map UInt32.ofNat).getD standard.rateLimit
      tipLamports := tipLamports.getD standard.tipLamports
      buyOn := buyOn.getD standard.buyOn
      sellOn := sellOn.getD standard.sellOn }

/-! ## Checking -/

/-- Refuses unless a condition holds. -/
def require (holds : Bool) (error : SettingsError) : Except SettingsError Unit :=
  if holds then .ok () else .error error

/-- An address that a channel needs. -/
def requireAddress (channel : Channel) (name : String) :
    Option String → Except SettingsError Unit
  | none => .error (.missing channel name)
  | some url => require (Text.Url.isAddress url) (.badAddress name url)

/-- What the block engine needs. -/
def checkEngine (s : Settings) : Except SettingsError Unit :=
  requireAddress .blockEngine "BLOCKENGINE_URL" s.engineUrl

/-- What the paid relay needs. -/
def checkRelay (s : Settings) : Except SettingsError Unit := do
  requireAddress .paidRelay "BLOXROUTE_WS_URL" s.relayUrl
  require s.relayToken.isSome (.missing .paidRelay "BLOXROUTE_TOKEN")
  require (0 < s.relayConnections) (.zero "BLOXROUTE_POOL_SIZE")

/-- Whether the settings are enough for what was chosen. -/
def check (s : Settings) : Except SettingsError Unit := do
  require (s.payerSecret.isSome || s.payerFile.isSome) .noPayer
  require (Text.Url.isAddress s.nodeUrl) (.badAddress "RPC_HTTP_URL" s.nodeUrl)
  require (s.workers ≠ some 0) (.zero "WORKERS")
  require (0 < s.splitter) (.zero "CHUNK_SPLITTER")
  require (0 < s.rateLimit) (.zero "RPC_RATE_LIMIT")
  if .blockEngine ∈ s.channels then s.checkEngine
  if .paidRelay ∈ s.channels then s.checkRelay

/-- The settings of an environment, if they are enough. -/
def load (env : Environment) : Except SettingsError Settings := do
  let s ← ofEnvironment env
  s.check
  pure s

end Settings

end PoolWatch
