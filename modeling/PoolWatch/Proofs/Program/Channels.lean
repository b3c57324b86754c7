import PoolWatch.Program.Bot
import PoolWatch.Proofs.Settings.Enough
import PoolWatch.Proofs.Submit.Acceptance

/-! # The channels of a loaded bot

    The router gets a submitter for each channel that either side of a trade
    uses, and for no other (`router_submitter?`).  A submitter is set up with
    the address and the token of the settings, or without one where none is
    set.

    `loaded_complete` says that the second never happens: whatever
    environment the settings were loaded from, each channel that is used has
    all it needs. -/

namespace PoolWatch.Bot

open Settings (Variable)

variable {host : Host} {s : Settings}

/-! ## The router -/

/-- The submitter that a channel is given. -/
def submitterOf (host : Host) (s : Settings) : Channel → Submitter
  | .direct => Direct.submitter host.node
  | .blockEngine => BlockEngine.submitter host.engine (s.engineUrl.getD "") s.engineVariant
  | .paidRelay =>
    Relay.Pool.submitter (access s) (connectPool host s 0 s.relayConnections.toNat).1

theorem addChannel_fst (r : Router) (c : Channel) :
    (addChannel host s r c).1 = r.withSubmitter c (submitterOf host s c) := by
  cases c <;> rfl

theorem addChannels_submitter? (cs : List Channel) (r : Router) (c : Channel) :
    (addChannels host s r cs).1.submitter? c =
      if c ∈ cs then some (submitterOf host s c) else r.submitter? c := by
  induction cs generalizing r with
  | nil => rfl
  | cons first cs ih =>
    show (addChannels host s (addChannel host s r first).1 cs).1.submitter? c = _
    rw [ih, addChannel_fst]
    by_cases hrest : c ∈ cs
    · rw [if_pos hrest, if_pos (List.mem_cons_of_mem _ hrest)]
    · rw [if_neg hrest]
      by_cases hfirst : c = first
      · rw [if_pos (hfirst ▸ List.mem_cons_self ..)]
        show (if c = first then some (submitterOf host s first) else r.submitter? c) = _
        rw [if_pos hfirst, hfirst]
      · rw [if_neg (List.not_mem_cons_of_ne_of_not_mem hfirst hrest)]
        exact if_neg hfirst

/-- A channel has its submitter exactly if it is used. -/
theorem router_submitter? (host : Host) (s : Settings) (c : Channel) :
    (s.Uses c → (router host s).1.submitter? c = some (submitterOf host s c)) ∧
      (¬ s.Uses c → (router host s).1.submitter? c = none) := by
  have hsubmitter : (router host s).1.submitter? c =
      if c ∈ s.channels then some (submitterOf host s c) else none :=
    addChannels_submitter? s.channels .empty c
  constructor
  · intro huse
    exact hsubmitter.trans (if_pos (Settings.mem_channels.2 huse))
  · intro huse
    exact hsubmitter.trans (if_neg fun hmem => huse (Settings.mem_channels.1 hmem))

theorem router_has_iff (host : Host) (s : Settings) (c : Channel) :
    (router host s).1.has c = true ↔ s.Uses c := by
  obtain ⟨hused, hunused⟩ := router_submitter? host s c
  unfold Router.has
  by_cases huse : s.Uses c
  · rw [hused huse]
    exact ⟨fun _ => huse, fun _ => rfl⟩
  · rw [hunused huse]
    exact ⟨nofun, fun h => absurd h huse⟩

/-! ## The pool -/

/-- A worker of the pool: its client was connected once, whether that went
    well or not. -/
def workerOf (access : Relay.Access) (link : Relay.Link) : Relay.Worker :=
  ⟨link, (runOn (Relay.connect access link) .new).2⟩

theorem connectWorker_fst (s : Settings) (link : Relay.Link) :
    (connectWorker s link).1 = workerOf (access s) link := by
  unfold connectWorker workerOf
  split <;> next h => exact congrArg (Relay.Worker.mk link ·.2) h.symm

/-- Each worker of the pool is connected with the settings' access, and has a
    network of its own. -/
theorem connectPool_fst (host : Host) (s : Settings) (first count : Nat) :
    (connectPool host s first count).1 =
      (List.range' first count).map fun i => workerOf (access s) (host.relay i) := by
  induction count generalizing first with
  | zero => rfl
  | succ count ih =>
    show (connectWorker s (host.relay first)).1 :: (connectPool host s (first + 1) count).1 = _
    rw [ih, connectWorker_fst, List.range'_succ, List.map_cons]

/-- The workers of a new pool are sound, which is assumed of a pool where it is
    said what it reports as accepted. -/
theorem isSound_connectPool (host : Host) (s : Settings) (first count : Nat) :
    (connectPool host s first count).1.IsSound := by
  rw [connectPool_fst]
  intro worker hworker
  obtain ⟨i, -, rfl⟩ := List.mem_map.1 hworker
  have hreachable : Relay.Client.Reachable (workerOf (access s) (host.relay i)).client :=
    Relay.moves_connect (access s) (host.relay i) .new
  exact hreachable.isSound

/-! ## Loaded settings -/

/-- What the block engine is set up with is what was set. -/
theorem engine_of_loaded {env : Environment} (hfollows : Variable.engineUrl.Follows env s)
    (henough : s.Enough) (huse : s.Uses .blockEngine) :
    ∃ url, s.engineUrl = some url ∧ url ≠ "" ∧
      submitterOf host s .blockEngine = BlockEngine.submitter host.engine url s.engineVariant := by
  obtain ⟨url, hurl, -⟩ := henough.engineUrl huse
  refine ⟨url, hurl, Settings.ne_empty_of_isReading hfollows hurl, ?_⟩
  unfold submitterOf
  rw [hurl]
  rfl

/-- What the relay is set up with is what was set, and its pool has as many
    workers as were asked for, at least one, each connected with what was set. -/
theorem relay_of_loaded {env : Environment} (hurl : Variable.relayUrl.Follows env s)
    (htoken : Variable.relayToken.Follows env s) (henough : s.Enough) (huse : s.Uses .paidRelay) :
    ∃ url token, s.relayUrl = some url ∧ url ≠ "" ∧ s.relayToken = some token ∧ token ≠ "" ∧
      access s = ⟨url, token, s.relayStakedNodes⟩ ∧ 0 < s.relayConnections.toNat ∧
      (connectPool host s 0 s.relayConnections.toNat).1.map Relay.Worker.link =
        (List.range s.relayConnections.toNat).map host.relay ∧
      submitterOf host s .paidRelay =
        Relay.Pool.submitter ⟨url, token, s.relayStakedNodes⟩
          ((List.range s.relayConnections.toNat).map fun i =>
            workerOf ⟨url, token, s.relayStakedNodes⟩ (host.relay i)) := by
  obtain ⟨url, hrelayUrl, -⟩ := henough.relayUrl huse
  obtain ⟨token, hrelayToken⟩ := Option.isSome_iff_exists.1 (henough.relayToken huse)
  have haccess : access s = ⟨url, token, s.relayStakedNodes⟩ := by
    unfold access
    rw [hrelayUrl, hrelayToken]
    rfl
  refine ⟨url, token, hrelayUrl, Settings.ne_empty_of_isReading hurl hrelayUrl, hrelayToken,
    Settings.ne_empty_of_isReading htoken hrelayToken, haccess,
    UInt64.lt_iff_toNat_lt.1 (henough.relayConnections huse), ?_, ?_⟩
  · rw [connectPool_fst, List.map_map, List.range_eq_range']
    rfl
  · unfold submitterOf
    dsimp only
    rw [connectPool_fst, haccess, List.range_eq_range']

/-- Settings that were accepted are complete.  They are accepted exactly if
    each follows its own variable and they are enough for what was chosen;
    so a setting depends on no other variable.  There is at least one worker,
    and a drained venue goes on in one of two ways.  The router has a
    submitter for exactly the channels that either side uses, and these are
    set up with addresses and tokens that were set and are not empty: so is
    each worker of the relay's pool. -/
theorem loaded_complete (host : Host) (hprocessors : 0 < host.processors) (env : Environment)
    (s : Settings) :
    (Settings.load env = .ok s ↔ (∀ v : Variable, v.Follows env s) ∧ s.Enough) ∧
    (Settings.load env = .ok s →
      (∀ env' s', Settings.load env' = .ok s' →
        ∀ v : Variable, env v.name = env' v.name → v.of s = v.of s') ∧
      0 < s.workersOn host.processors ∧
      (s.withdrawMode = .triggerOnly ∨ s.withdrawMode = .both) ∧
      (∀ c, ((router host s).1.has c = true ↔ c ∈ s.buyOn ∨ c ∈ s.sellOn) ∧
        (c ∈ s.buyOn ∨ c ∈ s.sellOn →
          (router host s).1.submitter? c = some (submitterOf host s c))) ∧
      (.blockEngine ∈ s.buyOn ∨ .blockEngine ∈ s.sellOn →
        ∃ url, s.engineUrl = some url ∧ url ≠ "" ∧ submitterOf host s .blockEngine =
          BlockEngine.submitter host.engine url s.engineVariant) ∧
      (.paidRelay ∈ s.buyOn ∨ .paidRelay ∈ s.sellOn →
        ∃ url token, s.relayUrl = some url ∧ url ≠ "" ∧ s.relayToken = some token ∧
          token ≠ "" ∧ access s = ⟨url, token, s.relayStakedNodes⟩ ∧
          0 < s.relayConnections.toNat ∧
          (connectPool host s 0 s.relayConnections.toNat).1.map Relay.Worker.link =
            (List.range s.relayConnections.toNat).map host.relay ∧
          submitterOf host s .paidRelay =
            Relay.Pool.submitter ⟨url, token, s.relayStakedNodes⟩
              ((List.range s.relayConnections.toNat).map fun i =>
                workerOf ⟨url, token, s.relayStakedNodes⟩ (host.relay i)))) := by
  refine ⟨Settings.load_eq_ok_iff, fun hload => ?_⟩
  obtain ⟨hfollows, henough⟩ := Settings.load_eq_ok_iff.1 hload
  refine ⟨fun env' s' hload' v hsame => ?_, henough.workersOn_pos hprocessors,
    Settings.withdrawMode_of_follows (hfollows .withdrawMode),
    fun c => ⟨router_has_iff host s c, (router_submitter? host s c).1⟩,
    engine_of_loaded (hfollows .engineUrl) henough,
    relay_of_loaded (hfollows .relayUrl) (hfollows .relayToken) henough⟩
  obtain ⟨hfollows', -⟩ := Settings.load_eq_ok_iff.1 hload'
  exact (hfollows v).unique (hfollows' v) hsame

/-- A machine with one processor, alone. -/
def hermit : Host where
  epoch := 0
  processors := 1
  disk := .ofLists [] []
  node := .unreachable
  engine := .unreachable
  relay := fun _ => .unreachable

/-- Buying through the block engine or the relay, selling through the former. -/
def paidEnvironment : Environment := fun name =>
  [("PAYER_PRIVATE_KEY", "secret"), ("BLOCKENGINE_URL", " http://engine "), ("WORKERS", " 3"),
    ("BLOXROUTE_WS_URL", "wss://relay"), ("BLOXROUTE_TOKEN", " token "),
    ("BLOXROUTE_POOL_SIZE", "2"), ("TRADE_DB", "  "), ("BUY_METHOD", "Jito , relay"),
    ("SELL_METHOD", "bundle")].lookup name

/-- What it is loaded as. -/
def paidSettings : Settings :=
  { Settings.standard with
    payerSecret := some "secret"
    engineUrl := some "http://engine"
    relayUrl := some "wss://relay"
    relayToken := some "token"
    relayConnections := 2
    workers := some 3
    buyOn := [.blockEngine, .paidRelay]
    sellOn := [.blockEngine] }

/-- How the relay is reached. -/
def paidAccess : Relay.Access := ⟨"wss://relay", "token", false⟩

/-- A worker whose relay could not be reached so far. -/
def idleWorker : Relay.Worker := ⟨.unreachable, Relay.Client.new.stepped (.connect false)⟩

/-- The block engine and both connections to the relay are set up with the
    addresses and the token of their variables, and nothing is sent to the
    node itself. -/
theorem loaded_complete_paid :
    0 < hermit.processors ∧ Settings.load paidEnvironment = .ok paidSettings ∧
      (∀ v : Variable, v.Follows paidEnvironment paidSettings) ∧
      (router hermit paidSettings).1.submitter? .blockEngine =
        some (BlockEngine.submitter hermit.engine "http://engine" .transaction) ∧
      (router hermit paidSettings).1.submitter? .paidRelay =
        some (Relay.Pool.submitter paidAccess [idleWorker, idleWorker]) ∧
      (router hermit paidSettings).1.has .direct = false := by
  have hprocessors : 0 < hermit.processors := by decide
  have hload : Settings.load paidEnvironment = .ok paidSettings := by
    have hloaded : (Settings.load paidEnvironment).toOption = some paidSettings := by
      decide +kernel
    cases hanswer : Settings.load paidEnvironment with
    | error e =>
      rw [hanswer] at hloaded
      cases hloaded
    | ok s =>
      rw [hanswer] at hloaded
      exact congrArg Except.ok (Option.some.inj hloaded)
  obtain ⟨haccepted, hcomplete⟩ :=
    loaded_complete hermit hprocessors paidEnvironment paidSettings
  obtain ⟨-, -, -, hchannels, hengine, hrelay⟩ := hcomplete hload
  refine ⟨hprocessors, hload, (haccepted.1 hload).1, ?_, ?_, ?_⟩
  · obtain ⟨url, hurl, -, hsubmitter⟩ := hengine (by decide)
    obtain rfl : url = "http://engine" := (Option.some.inj hurl).symm
    rw [(hchannels .blockEngine).2 (by decide), hsubmitter]
    rfl
  · obtain ⟨url, token, hurl, -, htoken, -, -, -, -, hsubmitter⟩ := hrelay (by decide)
    obtain rfl : url = "wss://relay" := (Option.some.inj hurl).symm
    obtain rfl : token = "token" := (Option.some.inj htoken).symm
    -- the address and the token are in order, but nobody takes the connection
    have hhost : Text.Uri.namesHost paidAccess.url = true := by decide +kernel
    have hvalue : Text.Uri.isHeaderValue paidAccess.token = true := by decide +kernel
    have hworker : workerOf paidAccess .unreachable = idleWorker := by
      unfold workerOf
      rw [Relay.runOn_connect, hhost, hvalue]
      rfl
    rw [(hchannels .paidRelay).2 (by decide), hsubmitter]
    show some (Relay.Pool.submitter paidAccess
      [workerOf paidAccess .unreachable, workerOf paidAccess .unreachable]) = _
    rw [hworker]
  · exact Bool.eq_false_iff.2 fun hhas => absurd ((hchannels .direct).1.1 hhas) (by decide)

end PoolWatch.Bot
