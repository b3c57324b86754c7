import PoolWatch.Proofs.Settings.Sources

/-! # Settings that are enough

    Settings are accepted when every channel of either side of a trade has
    what it needs, someone pays, and nothing is asked of no workers, no parts
    and no rate (`check_eq_ok_iff`).

    What an environment is loaded as, if anything, is therefore the settings
    that follow their variables, and these are enough (`load_eq_ok_iff`). -/

namespace PoolWatch.Settings

variable {env env' : Environment} {s s' : Settings}

/-! ## Channels -/

/-- The channels of both sides. -/
def Uses (s : Settings) (c : Channel) : Prop :=
  c ∈ s.buyOn ∨ c ∈ s.sellOn

theorem mem_channels {c : Channel} : c ∈ s.channels ↔ s.Uses c := by
  -- the selling side is added to whatever is there
  have hfold : ∀ all selling : List Channel,
      c ∈ selling.foldl (fun all c => if c ∈ all then all else all ++ [c]) all ↔
        c ∈ all ∨ c ∈ selling := by
    intro all selling
    induction selling generalizing all with
    | nil => simp
    | cons first selling ih =>
      rw [List.foldl_cons, ih]
      by_cases hfirst : first ∈ all
      · rw [if_pos hfirst, List.mem_cons]
        constructor
        · rintro (hall | hselling)
          · exact .inl hall
          · exact .inr (.inr hselling)
        · rintro (hall | rfl | hselling)
          · exact .inl hall
          · exact .inl hfirst
          · exact .inr hselling
      · rw [if_neg hfirst, List.mem_append, List.mem_singleton, List.mem_cons, or_assoc]
  exact hfold s.buyOn s.sellOn

/-! ## Checking -/

/-- An address that is set. -/
def IsAddress (url? : Option String) : Prop :=
  ∃ url, url? = some url ∧ Text.Url.isAddress url = true

/-- What is needed for what was chosen. -/
structure Enough (s : Settings) : Prop where
  payer : s.payerSecret.isSome ∨ s.payerFile.isSome
  node : Text.Url.isAddress s.nodeUrl = true
  workers : s.workers ≠ some 0
  splitter : 0 < s.splitter
  rateLimit : 0 < s.rateLimit
  engineUrl : s.Uses .blockEngine → IsAddress s.engineUrl
  relayUrl : s.Uses .paidRelay → IsAddress s.relayUrl
  relayToken : s.Uses .paidRelay → s.relayToken.isSome
  relayConnections : s.Uses .paidRelay → 0 < s.relayConnections

theorem require_eq_ok {holds : Bool} {e : SettingsError} :
    require holds e = .ok () ↔ holds = true := by
  cases holds <;> simp [require]

theorem requireAddress_eq_ok {channel : Channel} {name : String} {url? : Option String} :
    requireAddress channel name url? = .ok () ↔ IsAddress url? := by
  cases url? with
  | none => exact ⟨nofun, nofun⟩
  | some url =>
    rw [requireAddress, require_eq_ok]
    exact ⟨fun h => ⟨url, rfl, h⟩, fun ⟨_, heq, h⟩ => Option.some.inj heq ▸ h⟩

/-- One check after another. -/
theorem seq_eq_ok {first rest : Except SettingsError Unit} :
    (first >>= fun _ => rest) = .ok () ↔ first = .ok () ∧ rest = .ok () := by
  rw [bind_eq_ok]
  exact ⟨fun ⟨_, hfirst, hrest⟩ => ⟨hfirst, hrest⟩, fun ⟨hfirst, hrest⟩ => ⟨(), hfirst, hrest⟩⟩

theorem checkRelay_eq_ok_iff :
    s.checkRelay = .ok () ↔
      IsAddress s.relayUrl ∧ s.relayToken.isSome ∧ 0 < s.relayConnections := by
  unfold checkRelay
  rw [seq_eq_ok, seq_eq_ok, requireAddress_eq_ok, require_eq_ok, require_eq_ok, decide_eq_true_iff]

/-- A check that is made on a condition only. -/
theorem when_eq_ok {condition : Prop} [Decidable condition] {check : Except SettingsError Unit} :
    (if condition then check else pure ()) = .ok () ↔ (condition → check = .ok ()) := by
  by_cases h : condition
  · rw [if_pos h]
    exact ⟨fun hcheck _ => hcheck, fun hcheck => hcheck h⟩
  · rw [if_neg h]
    exact ⟨fun _ h' => absurd h' h, fun _ => rfl⟩

/-- The same with more checks after it. -/
theorem when_seq_eq_ok {condition : Prop} [Decidable condition]
    {check : Except SettingsError Unit} {rest : Unit → Except SettingsError Unit} :
    (if condition then check >>= rest else rest ()) = .ok () ↔
      (condition → check = .ok ()) ∧ rest () = .ok () := by
  by_cases h : condition
  · rw [if_pos h]
    show (check >>= fun _ => rest ()) = .ok () ↔ _
    rw [seq_eq_ok]
    exact and_congr_left' ⟨fun hcheck _ => hcheck, fun hcheck => hcheck h⟩
  · rw [if_neg h]
    exact ⟨fun hrest => ⟨fun h' => absurd h' h, hrest⟩, And.right⟩

theorem check_eq_ok_iff : s.check = .ok () ↔ s.Enough := by
  unfold check
  dsimp only
  rw [seq_eq_ok, seq_eq_ok, seq_eq_ok, seq_eq_ok, seq_eq_ok, when_seq_eq_ok, when_eq_ok,
    require_eq_ok, require_eq_ok, require_eq_ok, require_eq_ok, require_eq_ok, checkEngine,
    requireAddress_eq_ok, checkRelay_eq_ok_iff, mem_channels, mem_channels]
  simp only [Bool.or_eq_true, decide_eq_true_eq]
  constructor
  · rintro ⟨hpayer, hnode, hworkers, hsplitter, hrate, hengine, hrelay⟩
    exact ⟨hpayer, hnode, hworkers, hsplitter, hrate, hengine, fun h => (hrelay h).1,
      fun h => (hrelay h).2.1, fun h => (hrelay h).2.2⟩
  · intro h
    exact ⟨h.payer, h.node, h.workers, h.splitter, h.rateLimit, h.engineUrl,
      fun huse => ⟨h.relayUrl huse, h.relayToken huse, h.relayConnections huse⟩⟩

/-! ## Loading -/

theorem load_eq_ok_iff :
    load env = .ok s ↔ (∀ v : Variable, v.Follows env s) ∧ s.Enough := by
  unfold load
  rw [bind_eq_ok]
  constructor
  · rintro ⟨s', hs', h⟩
    obtain ⟨⟨⟩, hcheck, h⟩ := bind_eq_ok.1 h
    obtain rfl := Except.ok.inj h
    exact ⟨ofEnvironment_eq_ok_iff.1 hs', check_eq_ok_iff.1 hcheck⟩
  · rintro ⟨hfollows, henough⟩
    refine ⟨s, ofEnvironment_eq_ok_iff.2 hfollows, ?_⟩
    rw [check_eq_ok_iff.2 henough]
    rfl

/-- A setting depends on its own variable and on no other. -/
theorem Variable.Follows.unique {v : Variable} (h : v.Follows env s) (h' : v.Follows env' s')
    (hsame : env v.name = env' v.name) : v.of s = v.of s' := by
  unfold Follows at h h'
  rw [hsame] at h
  cases hsaid : said? (env' v.name) with
  | none =>
    rw [hsaid] at h h'
    exact Eq.trans h (Eq.symm h')
  | some text =>
    rw [hsaid] at h h'
    exact Option.some.inj (Eq.trans (Eq.symm h) h')

/-- No variable says an empty text. -/
theorem said?_ne_empty {raw : Option String} {text : String} (h : said? raw = some text) :
    text ≠ "" := by
  obtain ⟨-, hne⟩ := Option.filter_eq_some_iff.1 h
  exact of_decide_eq_true hne

/-- A text that is left open is not empty if it is there. -/
theorem ne_empty_of_isReading {raw value : Option String} {text : String}
    (h : IsReading (fun text => some (some text)) none (said? raw) value)
    (hvalue : value = some text) : text ≠ "" := by
  cases hsaid : said? raw with
  | none =>
    rw [hsaid] at h
    cases hvalue.symm.trans h
  | some text' =>
    rw [hsaid] at h
    obtain rfl := Option.some.inj ((Option.some.inj h).trans hvalue)
    exact said?_ne_empty hsaid

/-- The status of a drained venue is one of the two that go on. -/
theorem withdrawMode_of_follows (h : Variable.withdrawMode.Follows env s) :
    s.withdrawMode = .triggerOnly ∨ s.withdrawMode = .both := by
  unfold Variable.Follows at h
  cases hsaid : said? (env Variable.withdrawMode.name) with
  | none =>
    rw [hsaid] at h
    exact .inl h
  | some text =>
    rw [hsaid] at h
    have hmode : withdrawModeOfName? (Text.lower text) = some s.withdrawMode := h
    unfold withdrawModeOfName? at hmode
    split at hmode
    · exact .inl (Option.some.inj hmode).symm
    · exact .inr (Option.some.inj hmode).symm
    · cases hmode

/-- At least one worker is asked for on any machine. -/
theorem Enough.workersOn_pos (h : s.Enough) {processors : Nat} (hprocessors : 0 < processors) :
    0 < s.workersOn processors := by
  unfold workersOn
  cases hworkers : s.workers with
  | none =>
    show 0 < 2 * processors
    omega
  | some n =>
    have hne : n ≠ 0 := fun heq => h.workers (heq ▸ hworkers)
    have hnat : n.toNat ≠ 0 := fun heq => hne (UInt64.toNat_inj.1 heq)
    exact Nat.pos_of_ne_zero hnat

end PoolWatch.Settings
