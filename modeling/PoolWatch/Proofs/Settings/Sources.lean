import PoolWatch.Proofs.Run
import PoolWatch.Settings.Basic

/-! # Where settings come from

    Each setting has a variable of its own, a way to read its text, and what
    it is when the variable says nothing.  `ofEnvironment_eq_ok_iff` says of
    all settings at once that they are read in this way: reading succeeds
    with some settings exactly when each of them follows its own variable. -/

namespace PoolWatch

namespace Settings

/-! ## Variables -/

/-- The variables, by the settings that they set. -/
inductive Variable where
  | payerSecret
  | payerFile
  | nodeUrl
  | storeUrl
  | historyFile
  | lookupTable
  | engineUrl
  | engineVariant
  | relayUrl
  | relayToken
  | relayConnections
  | relayStakedNodes
  | workers
  | window
  | splitter
  | floor
  | settle
  | withdrawMode
  | rateLimit
  | tipLamports
  | buyOn
  | sellOn
  deriving DecidableEq

/-- What a variable that is set to some text says: nothing if it is blank. -/
def said? (raw : Option String) : Option String :=
  (raw.map Text.trim).filter fun text => text ≠ ""

/-- A natural number of some bits. -/
def naturalOf? (bits : Nat) (text : String) : Option Nat :=
  (Text.Decimal.readUnsigned bits text).toOption

/-- A 64-bit number. -/
def wordOf? (text : String) : Option UInt64 :=
  (naturalOf? 64 text).map UInt64.ofNat

/-- A yes or no. -/
def flagOf? : String → Option Bool
  | "true" => some true
  | "false" => some false
  | _ => none

/-- The channels of a list. -/
def channelsOf? (text : String) : Option (List Channel) :=
  (Channel.parseList text).toOption

namespace Variable

/-- The name of a variable in the environment. -/
def name : Variable → String
  | payerSecret => "PAYER_PRIVATE_KEY"
  | payerFile => "SOLANA_PAYER_KEYPAIR"
  | nodeUrl => "RPC_HTTP_URL"
  | storeUrl => "REDIS_URL"
  | historyFile => "TRADE_DB"
  | lookupTable => "RAYDIUM_ALT"
  | engineUrl => "BLOCKENGINE_URL"
  | engineVariant => "BLOCKENGINE_VARIANT"
  | relayUrl => "BLOXROUTE_WS_URL"
  | relayToken => "BLOXROUTE_TOKEN"
  | relayConnections => "BLOXROUTE_POOL_SIZE"
  | relayStakedNodes => "BLOXROUTE_STAKED_RPCS"
  | workers => "WORKERS"
  | window => "DEDUP_WINDOW_SECS"
  | splitter => "CHUNK_SPLITTER"
  | floor => "LIQUIDITY_FLOOR_LAMPORTS"
  | settle => "WITHDRAW_SETTLE_MS"
  | withdrawMode => "WITHDRAW_TRACK_MODE"
  | rateLimit => "RPC_RATE_LIMIT"
  | tipLamports => "TIP_LAMPORTS"
  | buyOn => "BUY_METHOD"
  | sellOn => "SELL_METHOD"

/-- What the setting of a variable ranges over. -/
abbrev Value : Variable → Type
  | payerSecret | payerFile | storeUrl | engineUrl | relayUrl | relayToken => Option String
  | nodeUrl | historyFile => String
  | lookupTable => Option Key
  | engineVariant => BlockEngine.Variant
  | relayConnections | window | splitter | floor | settle | tipLamports => UInt64
  | relayStakedNodes => Bool
  | workers => Option UInt64
  | withdrawMode => Tracking.Status
  | rateLimit => UInt32
  | buyOn | sellOn => List Channel

/-- The setting of a variable. -/
def of (s : Settings) : (v : Variable) → v.Value
  | payerSecret => s.payerSecret
  | payerFile => s.payerFile
  | nodeUrl => s.nodeUrl
  | storeUrl => s.storeUrl
  | historyFile => s.historyFile
  | lookupTable => s.lookupTable
  | engineUrl => s.engineUrl
  | engineVariant => s.engineVariant
  | relayUrl => s.relayUrl
  | relayToken => s.relayToken
  | relayConnections => s.relayConnections
  | relayStakedNodes => s.relayStakedNodes
  | workers => s.workers
  | window => s.window
  | splitter => s.splitter
  | floor => s.floor
  | settle => s.settle
  | withdrawMode => s.withdrawMode
  | rateLimit => s.rateLimit
  | tipLamports => s.tipLamports
  | buyOn => s.buyOn
  | sellOn => s.sellOn

/-- How the text of a variable is read. -/
def parse? : (v : Variable) → String → Option v.Value
  | payerSecret | payerFile | storeUrl | engineUrl | relayUrl | relayToken =>
    fun text => some (some text)
  | nodeUrl | historyFile => some
  | lookupTable => fun text => (Key.parse? text).map some
  | engineVariant => fun text => BlockEngine.Variant.ofName? (Text.lower text)
  | relayConnections | window | splitter | floor | settle | tipLamports => wordOf?
  | relayStakedNodes => flagOf?
  | workers => fun text => (wordOf? text).map some
  | withdrawMode => fun text => withdrawModeOfName? (Text.lower text)
  | rateLimit => fun text => (naturalOf? 32 text).map UInt32.ofNat
  | buyOn | sellOn => channelsOf?

end Variable

/-- A value is what a text is read as, and the standard one without a text. -/
def IsReading {α : Type} (parse? : String → Option α) (standard : α) : Option String → α → Prop
  | none, value => value = standard
  | some text, value => parse? text = some value

/-- The setting of a variable is what the variable says, or as in the
    standard settings if it says nothing. -/
def Variable.Follows (v : Variable) (env : Environment) (s : Settings) : Prop :=
  IsReading v.parse? (v.of standard) (said? (env v.name)) (v.of s)

/-! ## Readers -/

/-- A reader answers with what a text is read as, and refuses a text that
    cannot be read. -/
inductive Answers {α : Type} (parse? : String → Option α) :
    Option String → Except SettingsError (Option α) → Prop where
  | unset : Answers parse? none (.ok none)
  | read {text : String} {a : α} (h : parse? text = some a) :
    Answers parse? (some text) (.ok (some a))
  | refused {text : String} {e : SettingsError} (h : parse? text = none) :
    Answers parse? (some text) (.error e)

namespace Answers

variable {α β : Type} {parse? : String → Option α} {said : Option String}
  {answer : Except SettingsError (Option α)}

theorem map (h : Answers parse? said answer) (f : α → β) :
    Answers (fun text => (parse? text).map f) said (answer.map (Option.map f)) := by
  cases h with
  | unset => exact .unset
  | read h => exact .read (by rw [h]; rfl)
  | refused h => exact .refused (by rw [h]; rfl)

/-- A setting with a standard value. -/
theorem isReading_iff (h : Answers parse? said answer) {standard value : α} :
    IsReading parse? standard said value ↔ ∃ o, answer = .ok o ∧ o.getD standard = value := by
  cases h with
  | unset =>
    constructor
    · intro hvalue
      exact ⟨none, rfl, Eq.symm hvalue⟩
    · rintro ⟨o, ho, rfl⟩
      obtain rfl := Except.ok.inj ho
      rfl
  | @read text a h =>
    constructor
    · intro hvalue
      exact ⟨some a, rfl, Option.some.inj (h.symm.trans hvalue)⟩
    · rintro ⟨o, ho, rfl⟩
      obtain rfl := Except.ok.inj ho
      exact h
  | refused h =>
    constructor
    · intro hvalue
      rw [IsReading, h] at hvalue
      cases hvalue
    · rintro ⟨o, ho, -⟩
      cases ho

/-- A setting that is left open. -/
theorem isReading_some_iff (h : Answers parse? said answer) {value : Option α} :
    IsReading (fun text => (parse? text).map some) none said value ↔ answer = .ok value := by
  cases h with
  | unset =>
    exact ⟨fun hvalue => congrArg Except.ok (Eq.symm hvalue), fun h => (Except.ok.inj h).symm⟩
  | @read text a h =>
    rw [IsReading, h]
    exact ⟨fun hvalue => congrArg Except.ok (Option.some.inj hvalue),
      fun hvalue => congrArg some (Except.ok.inj hvalue)⟩
  | refused h =>
    rw [IsReading, h]
    exact ⟨nofun, nofun⟩

end Answers

variable {env : Environment} {name : String}

/-- What is kept of a variable beside its text is told in refusals only. -/
theorem raw?_cases (env : Environment) (name : String) :
    (said? (env name) = none ∧ raw? env name = none) ∨
      ∃ raw text, said? (env name) = some text ∧ raw? env name = some (raw, text) := by
  unfold raw?
  cases env name with
  | none => exact .inl ⟨rfl, rfl⟩
  | some raw =>
    have hsaid : said? (some raw) = if Text.trim raw = "" then none else some (Text.trim raw) := by
      unfold said?
      by_cases hblank : Text.trim raw = "" <;> simp [hblank]
    rw [hsaid]
    by_cases hblank : Text.trim raw = ""
    · exact .inl ⟨if_pos hblank, if_pos hblank⟩
    · exact .inr ⟨raw, Text.trim raw, if_neg hblank, if_neg hblank⟩

theorem text?_eq (env : Environment) (name : String) : text? env name = said? (env name) := by
  unfold text?
  rcases raw?_cases env name with ⟨hsaid, hraw⟩ | ⟨raw, text, hsaid, hraw⟩ <;> rw [hsaid, hraw] <;>
    rfl

theorem answers_number (bits : Nat) (env : Environment) (name : String) :
    Answers (naturalOf? bits) (said? (env name)) (number? bits env name) := by
  unfold number?
  rcases raw?_cases env name with ⟨hsaid, hraw⟩ | ⟨raw, text, hsaid, hraw⟩ <;> rw [hsaid, hraw]
  · exact .unset
  · dsimp only
    cases hread : Text.Decimal.readUnsigned bits text with
    | ok n => exact .read (by rw [naturalOf?, hread]; rfl)
    | error fault => exact .refused (by rw [naturalOf?, hread]; rfl)

theorem answers_word (env : Environment) (name : String) :
    Answers wordOf? (said? (env name)) (word? env name) :=
  (answers_number 64 env name).map UInt64.ofNat

theorem answers_flag (env : Environment) (name : String) :
    Answers flagOf? (said? (env name)) (flag? env name) := by
  unfold flag?
  rcases raw?_cases env name with ⟨hsaid, hraw⟩ | ⟨raw, text, hsaid, hraw⟩ <;> rw [hsaid, hraw]
  · exact .unset
  · by_cases hyes : text = "true"
    · subst hyes
      exact .read rfl
    · by_cases hno : text = "false"
      · subst hno
        exact .read rfl
      · -- neither word: both matches fall through
        simp only
        exact .refused (by simp only [flagOf?])

theorem answers_key (env : Environment) (name : String) :
    Answers Key.parse? (said? (env name)) (key? env name) := by
  unfold key?
  rcases raw?_cases env name with ⟨hsaid, hraw⟩ | ⟨raw, text, hsaid, hraw⟩ <;> rw [hsaid, hraw]
  · exact .unset
  · dsimp only
    cases hread : Key.parse text with
    | ok k => exact .read (by rw [Key.parse?, hread]; rfl)
    | error fault => exact .refused (by rw [Key.parse?, hread]; rfl)

theorem answers_choice {α : Type} (ofName? : String → Option α) (env : Environment)
    (name : String) :
    Answers (fun text => ofName? (Text.lower text)) (said? (env name))
      (choice? ofName? env name) := by
  unfold choice?
  rw [text?_eq]
  cases said? (env name) with
  | none => exact .unset
  | some text =>
    dsimp only
    cases hread : ofName? (Text.lower text) with
    | some a => exact .read hread
    | none => exact .refused hread

theorem answers_channels (env : Environment) (name : String) :
    Answers channelsOf? (said? (env name)) (channels? env name) := by
  unfold channels?
  rw [text?_eq]
  cases said? (env name) with
  | none => exact .unset
  | some text =>
    dsimp only
    cases hread : Channel.parseList text with
    | ok cs => exact .read (by rw [channelsOf?, hread]; rfl)
    | error item => exact .refused (by rw [channelsOf?, hread]; rfl)

/-- A text that is left open. -/
theorem isReading_text_iff {value : Option String} :
    IsReading (fun text => some (some text)) none (said? (env name)) value ↔
      text? env name = value := by
  rw [text?_eq]
  cases said? (env name) with
  | none => exact eq_comm
  | some text => exact ⟨fun h => Option.some.inj h, fun h => congrArg some h⟩

/-- A text with a standard. -/
theorem isReading_textD_iff {standard value : String} :
    IsReading some standard (said? (env name)) value ↔
      (text? env name).getD standard = value := by
  rw [text?_eq]
  cases said? (env name) with
  | none => exact eq_comm
  | some text => exact ⟨fun h => Option.some.inj h, fun h => congrArg some h⟩

/-! ## All settings -/

/-- The settings of an environment are the ones that follow their variables,
    each its own. -/
theorem ofEnvironment_eq_ok_iff {s : Settings} :
    ofEnvironment env = .ok s ↔ ∀ v : Variable, v.Follows env s := by
  constructor
  · intro h
    unfold ofEnvironment at h
    obtain ⟨lookupTable, hlookupTable, h⟩ := bind_eq_ok.1 h
    obtain ⟨engineVariant, hengineVariant, h⟩ := bind_eq_ok.1 h
    obtain ⟨relayConnections, hrelayConnections, h⟩ := bind_eq_ok.1 h
    obtain ⟨relayStakedNodes, hrelayStakedNodes, h⟩ := bind_eq_ok.1 h
    obtain ⟨workers, hworkers, h⟩ := bind_eq_ok.1 h
    obtain ⟨window, hwindow, h⟩ := bind_eq_ok.1 h
    obtain ⟨splitter, hsplitter, h⟩ := bind_eq_ok.1 h
    obtain ⟨floor, hfloor, h⟩ := bind_eq_ok.1 h
    obtain ⟨settle, hsettle, h⟩ := bind_eq_ok.1 h
    obtain ⟨withdrawMode, hwithdrawMode, h⟩ := bind_eq_ok.1 h
    obtain ⟨rateLimit, hrateLimit, h⟩ := bind_eq_ok.1 h
    obtain ⟨tipLamports, htipLamports, h⟩ := bind_eq_ok.1 h
    obtain ⟨buyOn, hbuyOn, h⟩ := bind_eq_ok.1 h
    obtain ⟨sellOn, hsellOn, h⟩ := bind_eq_ok.1 h
    obtain rfl := Except.ok.inj h
    intro v
    cases v with
    | payerSecret => exact isReading_text_iff.2 rfl
    | payerFile => exact isReading_text_iff.2 rfl
    | nodeUrl => exact isReading_textD_iff.2 rfl
    | storeUrl => exact isReading_text_iff.2 rfl
    | historyFile => exact isReading_textD_iff.2 rfl
    | lookupTable => exact (answers_key ..).isReading_some_iff.2 hlookupTable
    | engineUrl => exact isReading_text_iff.2 rfl
    | engineVariant => exact (answers_choice ..).isReading_iff.2 ⟨_, hengineVariant, rfl⟩
    | relayUrl => exact isReading_text_iff.2 rfl
    | relayToken => exact isReading_text_iff.2 rfl
    | relayConnections => exact (answers_word ..).isReading_iff.2 ⟨_, hrelayConnections, rfl⟩
    | relayStakedNodes => exact (answers_flag ..).isReading_iff.2 ⟨_, hrelayStakedNodes, rfl⟩
    | workers => exact (answers_word ..).isReading_some_iff.2 hworkers
    | window => exact (answers_word ..).isReading_iff.2 ⟨_, hwindow, rfl⟩
    | splitter => exact (answers_word ..).isReading_iff.2 ⟨_, hsplitter, rfl⟩
    | floor => exact (answers_word ..).isReading_iff.2 ⟨_, hfloor, rfl⟩
    | settle => exact (answers_word ..).isReading_iff.2 ⟨_, hsettle, rfl⟩
    | withdrawMode => exact (answers_choice ..).isReading_iff.2 ⟨_, hwithdrawMode, rfl⟩
    | rateLimit =>
      exact ((answers_number ..).map UInt32.ofNat).isReading_iff.2
        ⟨_, congrArg (Except.map (Option.map UInt32.ofNat)) hrateLimit, rfl⟩
    | tipLamports => exact (answers_word ..).isReading_iff.2 ⟨_, htipLamports, rfl⟩
    | buyOn => exact (answers_channels ..).isReading_iff.2 ⟨_, hbuyOn, rfl⟩
    | sellOn => exact (answers_channels ..).isReading_iff.2 ⟨_, hsellOn, rfl⟩
  · intro h
    have hlookupTable := (answers_key env "RAYDIUM_ALT").isReading_some_iff.1 (h .lookupTable)
    obtain ⟨variant, hvariant, hengineVariant⟩ :=
      (answers_choice BlockEngine.Variant.ofName? env "BLOCKENGINE_VARIANT").isReading_iff.1
        (h .engineVariant)
    obtain ⟨connections, hconnections, hrelayConnections⟩ :=
      (answers_word env "BLOXROUTE_POOL_SIZE").isReading_iff.1 (h .relayConnections)
    obtain ⟨staked, hstaked, hrelayStakedNodes⟩ :=
      (answers_flag env "BLOXROUTE_STAKED_RPCS").isReading_iff.1 (h .relayStakedNodes)
    have hworkers := (answers_word env "WORKERS").isReading_some_iff.1 (h .workers)
    obtain ⟨seconds, hseconds, hwindow⟩ :=
      (answers_word env "DEDUP_WINDOW_SECS").isReading_iff.1 (h .window)
    obtain ⟨parts, hparts, hsplitter⟩ :=
      (answers_word env "CHUNK_SPLITTER").isReading_iff.1 (h .splitter)
    obtain ⟨lamports, hlamports, hfloor⟩ :=
      (answers_word env "LIQUIDITY_FLOOR_LAMPORTS").isReading_iff.1 (h .floor)
    obtain ⟨delay, hdelay, hsettle⟩ :=
      (answers_word env "WITHDRAW_SETTLE_MS").isReading_iff.1 (h .settle)
    obtain ⟨mode, hmode, hwithdrawMode⟩ :=
      (answers_choice withdrawModeOfName? env "WITHDRAW_TRACK_MODE").isReading_iff.1
        (h .withdrawMode)
    obtain ⟨rate, hrate, hrateLimit⟩ :=
      ((answers_number 32 env "RPC_RATE_LIMIT").map UInt32.ofNat).isReading_iff.1 (h .rateLimit)
    obtain ⟨n, hn, rfl⟩ := map_eq_ok.1 hrate
    obtain ⟨tip, htip, htipLamports⟩ :=
      (answers_word env "TIP_LAMPORTS").isReading_iff.1 (h .tipLamports)
    obtain ⟨buying, hbuying, hbuyOn⟩ :=
      (answers_channels env "BUY_METHOD").isReading_iff.1 (h .buyOn)
    obtain ⟨selling, hselling, hsellOn⟩ :=
      (answers_channels env "SELL_METHOD").isReading_iff.1 (h .sellOn)
    unfold ofEnvironment
    rw [hlookupTable, hvariant, hconnections, hstaked, hworkers, hseconds, hparts, hlamports,
      hdelay, hmode, hn, htip, hbuying, hselling]
    refine congrArg Except.ok ?_
    cases s
    rw [mk.injEq]
    exact ⟨isReading_text_iff.1 (h .payerSecret), isReading_text_iff.1 (h .payerFile),
      isReading_textD_iff.1 (h .nodeUrl), isReading_text_iff.1 (h .storeUrl),
      isReading_textD_iff.1 (h .historyFile), rfl, isReading_text_iff.1 (h .engineUrl),
      hengineVariant, isReading_text_iff.1 (h .relayUrl), isReading_text_iff.1 (h .relayToken),
      hrelayConnections, hrelayStakedNodes, rfl, hwindow, hsplitter, hfloor, hsettle,
      hwithdrawMode, hrateLimit, htipLamports, hbuyOn, hsellOn⟩

end Settings

end PoolWatch
