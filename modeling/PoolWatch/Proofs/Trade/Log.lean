import PoolWatch.Proofs.Trade.Filter
import PoolWatch.Proofs.Trade.Rows
import PoolWatch.Proofs.Watcher.Swap

/-! # The trade history is a log

    A log keeps trades under numbers, the newest first, and knows nothing of
    cells, texts and statements.  A history that was filled by inserting
    keeps such a log: one request is answered by both alike and leaves them
    together (`IsLogOf.respond`), and so is every run of requests
    (`IsLogOf.run`).

    `history_logs` says what this comes to for a history that started empty,
    and that what the watcher records of a swap can always be inserted. -/

namespace PoolWatch

/-! ## What can be inserted -/

namespace Trade

/-- An amount is a signed integer of 128 bits. -/
def InRange (t : Trade) : Prop :=
  -(2 ^ 127 : Int) ≤ t.amount ∧ t.amount < (2 ^ 127 : Int)

/-- The table keeps signed integers of 64 bits. -/
def IsStorable (t : Trade) : Prop :=
  t.computeLimit.toNat < 2 ^ 63 ∧ t.computePrice.toNat < 2 ^ 63

instance (t : Trade) : Decidable t.InRange :=
  inferInstanceAs (Decidable (_ ∧ _))

instance (t : Trade) : Decidable t.IsStorable :=
  inferInstanceAs (Decidable (_ ∧ _))

variable {t : Trade}

theorem IsStorable.fits (h : t.IsStorable) (hrange : t.InRange) : t.Fits :=
  ⟨h.1, h.2, hrange.1, hrange.2⟩

theorem cells?_eq_none (h : ¬ t.IsStorable) : t.cells? = none := by
  have hspan : (2 : Nat) ^ 63 = 0x8000000000000000 := by decide
  unfold IsStorable at h
  rw [hspan] at h
  unfold cells?
  rw [if_neg h]

end Trade

namespace TradeHistory

/-! ## Requests -/

/-- What a history is asked for. -/
inductive Request where
  | insert (t : Trade)
  | search (f : TradeFilter)
  | clear

/-- What it answers: the number of the row, if there is one now; the trades
    that were found; how many rows there were. -/
inductive Reply where
  | inserted (id : Option Nat)
  | found (trades : Except SearchError (List Trade))
  | cleared (count : Nat)

/-- The number that a reply gives out. -/
def Reply.id? : Reply → Option Nat
  | .inserted id => id
  | _ => none

/-- What is to be inserted has an amount of 128 bits. -/
def Request.InRange : Request → Prop
  | .insert t => t.InRange
  | _ => True

instance : (request : Request) → Decidable request.InRange
  | .insert t => inferInstanceAs (Decidable t.InRange)
  | .search _ => .isTrue trivial
  | .clear => .isTrue trivial

/-- Answers a request. -/
def respond (h : TradeHistory) : Request → Reply × TradeHistory
  | .insert t =>
    match h.insert? t with
    | some (id, h') => (.inserted (some id), h')
    | none => (.inserted none, h)
  | .search f => (.found (h.search f), h)
  | .clear => (.cleared h.clear.1, h.clear.2)

/-- The history after some requests. -/
def after (h : TradeHistory) : List Request → TradeHistory
  | [] => h
  | request :: rest => (h.respond request).2.after rest

/-- The answers to some requests. -/
def replies (h : TradeHistory) : List Request → List Reply
  | [] => []
  | request :: rest => (h.respond request).1 :: (h.respond request).2.replies rest

/-- What stands in the table: the numbers, and what the rows read as. -/
def content (h : TradeHistory) : List (Nat × Except RowFault Trade) :=
  h.rows.map fun r => (r.id, r.trade)

end TradeHistory

/-! ## Logs -/

/-- Numbered trades, the newest first, and the last number given out. -/
structure TradeLog where
  entries : List (Nat × Trade)
  lastId : Nat

namespace TradeLog

open TradeHistory (Request Reply)

/-- No trades, and no number given out. -/
def empty : TradeLog := ⟨[], 0⟩

/-- The row of an entry. -/
def rowOf (entry : Nat × Trade) : Row :=
  entry.2.row entry.1

/-- The entries that pass some conditions. -/
def select (l : TradeLog) (cs : List Condition) : List (Nat × Trade) :=
  l.entries.filter fun entry => cs.all fun c => c.passes (rowOf entry)

/-- The trades of a page. -/
def search (l : TradeLog) (f : TradeFilter) : Except SearchError (List Trade) :=
  match f.queries.mapM TradeQuery.condition with
  | .error e => .error e
  | .ok cs => .ok ((f.pageOf (l.select cs)).map Prod.snd)

/-- The log with one more trade, under the next number. -/
def push (l : TradeLog) (t : Trade) : TradeLog :=
  ⟨(l.lastId + 1, t) :: l.entries, l.lastId + 1⟩

/-- Answers a request.  Only trades that are storable are taken. -/
def respond (l : TradeLog) : Request → Reply × TradeLog
  | .insert t =>
    if t.IsStorable then (.inserted (some (l.lastId + 1)), l.push t) else (.inserted none, l)
  | .search f => (.found (l.search f), l)
  | .clear => (.cleared l.entries.length, ⟨[], l.lastId⟩)

/-- The log after some requests. -/
def after (l : TradeLog) : List Request → TradeLog
  | [] => l
  | request :: rest => (l.respond request).2.after rest

/-- The answers to some requests. -/
def replies (l : TradeLog) : List Request → List Reply
  | [] => []
  | request :: rest => (l.respond request).1 :: (l.respond request).2.replies rest

/-- Numbers fall from the newest entry on, and none is past the last one
    given out. -/
structure IsOrdered (l : TradeLog) : Prop where
  descending : l.entries.Pairwise fun newer older => older.1 < newer.1
  le_lastId : ∀ entry ∈ l.entries, entry.1 ≤ l.lastId

variable {l : TradeLog}

theorem isOrdered_empty : IsOrdered empty :=
  ⟨List.Pairwise.nil, fun _ h => absurd h List.not_mem_nil⟩

theorem IsOrdered.push (h : l.IsOrdered) (t : Trade) : (l.push t).IsOrdered where
  descending := List.pairwise_cons.2
    ⟨fun entry hentry => Nat.lt_succ_of_le (h.le_lastId entry hentry), h.descending⟩
  le_lastId entry hentry := by
    rcases List.mem_cons.1 hentry with rfl | hold
    · exact Nat.le_refl _
    · exact Nat.le_succ_of_le (h.le_lastId entry hold)

theorem IsOrdered.respond (h : l.IsOrdered) (request : Request) :
    (l.respond request).2.IsOrdered := by
  cases request with
  | insert t =>
    by_cases hstorable : t.IsStorable
    · simp only [TradeLog.respond, if_pos hstorable]
      exact h.push t
    · simp only [TradeLog.respond, if_neg hstorable]
      exact h
  | search f => exact h
  | clear => exact ⟨List.Pairwise.nil, fun _ h => absurd h List.not_mem_nil⟩

theorem IsOrdered.after (h : l.IsOrdered) (requests : List Request) :
    (l.after requests).IsOrdered := by
  induction requests generalizing l with
  | nil => exact h
  | cons request rest ih => exact ih (h.respond request)

/-- A number that is given out is the last one from then on. -/
theorem respond_id (l : TradeLog) (request : Request) :
    l.lastId ≤ (l.respond request).2.lastId ∧
      ∀ id, (l.respond request).1.id? = some id → id ≤ (l.respond request).2.lastId := by
  cases request with
  | insert t =>
    by_cases hstorable : t.IsStorable
    · simp only [respond, if_pos hstorable]
      refine ⟨Nat.le_succ _, fun id hid => ?_⟩
      obtain rfl := Option.some.inj hid
      exact Nat.le_refl _
    · simp only [respond, if_neg hstorable]
      exact ⟨Nat.le_refl _, nofun⟩
  | search f => exact ⟨Nat.le_refl _, nofun⟩
  | clear => exact ⟨Nat.le_refl _, nofun⟩

/-- No number that was given out in a run is past the last one. -/
theorem le_lastId_after (l : TradeLog) (requests : List Request) :
    l.lastId ≤ (l.after requests).lastId ∧
      ∀ reply ∈ l.replies requests, ∀ id, reply.id? = some id →
        id ≤ (l.after requests).lastId := by
  induction requests generalizing l with
  | nil => exact ⟨Nat.le_refl _, fun _ h => absurd h List.not_mem_nil⟩
  | cons request rest ih =>
    obtain ⟨hgrows, hgiven⟩ := l.respond_id request
    obtain ⟨hlast, hlater⟩ := ih (l.respond request).2
    refine ⟨Nat.le_trans hgrows hlast, fun reply hreply id hid => ?_⟩
    rcases List.mem_cons.1 hreply with rfl | hrest
    · exact Nat.le_trans (hgiven id hid) hlast
    · exact hlater reply hrest id hid

end TradeLog

/-! ## Together -/

/-- A history keeps a log: its rows are the ones of the entries, all of which
    fit the table. -/
structure TradeHistory.IsLogOf (h : TradeHistory) (l : TradeLog) : Prop where
  rows_eq : h.rows = l.entries.map TradeLog.rowOf
  lastId_eq : h.lastId = l.lastId
  fits : ∀ entry ∈ l.entries, entry.2.Fits

namespace TradeHistory

variable {h : TradeHistory} {l : TradeLog}

theorem isLogOf_empty : IsLogOf empty .empty :=
  ⟨rfl, rfl, fun _ h => absurd h List.not_mem_nil⟩

/-- Rows of entries that fit read as the trades of the entries. -/
theorem mapM_trade {entries : List (Nat × Trade)} (hfits : ∀ entry ∈ entries, entry.2.Fits) :
    (entries.map TradeLog.rowOf).mapM Row.trade = .ok (entries.map Prod.snd) := by
  induction entries with
  | nil => rfl
  | cons entry rest ih =>
    have hfirst : (TradeLog.rowOf entry).trade = .ok entry.2 :=
      (hfits entry (List.mem_cons_self ..)).trade_row entry.1
    have hrest := ih fun entry' hentry' => hfits entry' (List.mem_cons_of_mem _ hentry')
    rw [List.map_cons, List.mapM_cons, hfirst, hrest]
    rfl

theorem IsLogOf.content_eq (hlog : h.IsLogOf l) :
    h.content = l.entries.map fun entry => (entry.1, .ok entry.2) := by
  unfold content
  rw [hlog.rows_eq, List.map_map]
  refine List.map_congr_left fun entry hentry => ?_
  exact congrArg (Prod.mk entry.1) ((hlog.fits entry hentry).trade_row entry.1)

/-- A search finds what the log finds, and never a row that does not read. -/
theorem IsLogOf.search (hlog : h.IsLogOf l) (f : TradeFilter) : h.search f = l.search f := by
  rw [search_eq]
  unfold TradeLog.search
  cases f.queries.mapM TradeQuery.condition with
  | error e => rfl
  | ok cs =>
    have hselect : h.select cs = (l.select cs).map TradeLog.rowOf := by
      unfold select TradeLog.select
      rw [hlog.rows_eq, List.filter_map]
      rfl
    have hpage : f.pageOf (h.select cs) = (f.pageOf (l.select cs)).map TradeLog.rowOf := by
      unfold TradeFilter.pageOf
      rw [hselect, List.map_take, List.map_drop]
    have hfits : ∀ entry ∈ f.pageOf (l.select cs), entry.2.Fits := by
      intro entry hentry
      have hselected := List.mem_of_mem_drop (List.mem_of_mem_take hentry)
      exact hlog.fits entry (List.mem_of_mem_filter hselected)
    show ((f.pageOf (h.select cs)).mapM Row.trade).mapError SearchError.badRow = _
    rw [hpage, mapM_trade hfits]
    rfl

theorem insert?_of_not_storable {t : Trade} (hstorable : ¬ t.IsStorable) :
    h.insert? t = none := by
  unfold insert?
  rw [Trade.cells?_eq_none hstorable]
  rfl

theorem insert?_isSome_iff (h : TradeHistory) (t : Trade) :
    (h.insert? t).isSome ↔ t.IsStorable := by
  constructor
  · intro hsome
    by_contra hstorable
    rw [insert?_of_not_storable hstorable] at hsome
    cases hsome
  · intro hstorable
    have hlimits : t.computeLimit.toNat < 0x8000000000000000 ∧
        t.computePrice.toNat < 0x8000000000000000 := hstorable
    unfold insert? Trade.cells?
    rw [if_pos hlimits]
    rfl

theorem IsLogOf.withTrade (hlog : h.IsLogOf l) {t : Trade} (hfits : t.Fits) :
    (h.withTrade t).IsLogOf (l.push t) where
  rows_eq := by
    show t.row (h.lastId + 1) :: h.rows = t.row (l.lastId + 1) :: l.entries.map TradeLog.rowOf
    rw [hlog.lastId_eq, hlog.rows_eq]
  lastId_eq := congrArg (· + 1) hlog.lastId_eq
  fits entry hentry := by
    rcases List.mem_cons.1 hentry with rfl | hold
    · exact hfits
    · exact hlog.fits entry hold

/-- One request is answered by both alike, and leaves them together. -/
theorem IsLogOf.respond (hlog : h.IsLogOf l) {request : Request} (hrange : request.InRange) :
    (h.respond request).1 = (l.respond request).1 ∧
      (h.respond request).2.IsLogOf (l.respond request).2 := by
  cases request with
  | insert t =>
    by_cases hstorable : t.IsStorable
    · have hfits := hstorable.fits hrange
      simp only [TradeHistory.respond, hfits.insert? h, TradeLog.respond, if_pos hstorable,
        hlog.lastId_eq, true_and]
      exact hlog.withTrade hfits
    · simp only [TradeHistory.respond, insert?_of_not_storable hstorable, TradeLog.respond,
        if_neg hstorable, true_and]
      exact hlog
  | search f => exact ⟨congrArg Reply.found (hlog.search f), hlog⟩
  | clear =>
    have hcount : h.rows.length = l.entries.length := by
      rw [hlog.rows_eq, List.length_map]
    exact ⟨congrArg Reply.cleared hcount,
      ⟨rfl, hlog.lastId_eq, fun _ h => absurd h List.not_mem_nil⟩⟩

/-- A run of requests is answered by both alike, and leaves them together. -/
theorem IsLogOf.run (hlog : h.IsLogOf l) {requests : List Request}
    (hrange : ∀ request ∈ requests, request.InRange) :
    h.replies requests = l.replies requests ∧ (h.after requests).IsLogOf (l.after requests) := by
  induction requests generalizing h l with
  | nil => exact ⟨rfl, hlog⟩
  | cons request rest ih =>
    obtain ⟨hreply, hnext⟩ := hlog.respond (hrange request (List.mem_cons_self ..))
    obtain ⟨hreplies, hafter⟩ := ih hnext fun request' hrequest' =>
      hrange request' (List.mem_cons_of_mem _ hrequest')
    refine ⟨?_, hafter⟩
    show (h.respond request).1 :: _ = (l.respond request).1 :: _
    rw [hreply, hreplies]

/-! ## From an empty history -/

theorem isLogOf_after {past : List Request} (hpast : ∀ request ∈ past, request.InRange) :
    (empty.after past).IsLogOf (TradeLog.empty.after past) :=
  (isLogOf_empty.run hpast).2

/-- What a search of a kept log is refused with is never a row. -/
theorem IsLogOf.refusal_of_search (hlog : h.IsLogOf l) {f : TradeFilter} {e : SearchError}
    (he : h.search f = .error e) : ∃ q ∈ f.queries, ¬ q.IsKnown ∧ e = q.refusal := by
  cases hfirst : TradeQuery.firstUnknown? f.queries with
  | none =>
    obtain ⟨cs, hcs, -⟩ :=
      TradeQuery.mapM_condition_of_known (TradeQuery.firstUnknown?_eq_none_iff.1 hfirst)
    rw [hlog.search] at he
    unfold TradeLog.search at he
    rw [hcs] at he
    cases he
  | some q =>
    have hunknown := List.find?_some hfirst
    rw [h.search_of_unknown hfirst] at he
    exact ⟨q, List.mem_of_find?_eq_some hfirst, of_decide_eq_false (by simpa using hunknown),
      (Except.error.inj he).symm⟩

/-- A row under a new number stands in front of what was there. -/
theorem IsLogOf.content_insert (hlog : h.IsLogOf l) {t : Trade} {id : Nat} {h' : TradeHistory}
    (hrange : t.InRange) (hinsert : h.insert? t = some (id, h')) :
    id = l.lastId + 1 ∧ h'.content = (id, .ok t) :: h.content := by
  have hstorable : t.IsStorable := (h.insert?_isSome_iff t).1 (by rw [hinsert]; rfl)
  have hfits := hstorable.fits hrange
  rw [hfits.insert? h] at hinsert
  obtain ⟨rfl, rfl⟩ := Prod.mk.inj (Option.some.inj hinsert)
  refine ⟨congrArg (· + 1) hlog.lastId_eq, ?_⟩
  rw [(hlog.withTrade hfits).content_eq, hlog.content_eq, hlog.lastId_eq]
  rfl

/-- A history that started empty is a log, whatever it was asked for.  It
    gave the answers of a log and holds its entries, all of which read back
    as they were.  The next insertion goes through exactly when its numbers
    fit signed 64 bits, and then its number is above every one given out
    before; else nothing is appended.  Clearing tells how many rows there
    were and leaves none.  A search changes nothing, and is refused over
    names only.  What the watcher records of a swap can be inserted. -/
theorem history_logs (past : List Request) (hpast : ∀ request ∈ past, request.InRange) :
    let h := TradeHistory.empty.after past
    let l := TradeLog.empty.after past
    (TradeHistory.empty.replies past = TradeLog.empty.replies past ∧
      h.content = (l.entries.map fun entry => (entry.1, .ok entry.2)) ∧ l.IsOrdered) ∧
    (∀ t : Trade, ((h.insert? t).isSome ↔
        t.computeLimit.toNat < 2 ^ 63 ∧ t.computePrice.toNat < 2 ^ 63) ∧
      (h.insert? t = none → h.respond (.insert t) = (.inserted none, h))) ∧
    (∀ t id h', t.InRange → h.insert? t = some (id, h') →
      h'.content = (id, .ok t) :: h.content ∧
        ∀ reply ∈ TradeHistory.empty.replies past, ∀ id', reply.id? = some id' → id' < id) ∧
    (h.clear.1 = h.content.length ∧ h.clear.2.content = []) ∧
    (∀ f, h.respond (.search f) = (.found (l.search f), h) ∧
      ∀ e, h.search f = .error e → ∃ q ∈ f.queries, ¬ q.IsKnown ∧ e = q.refusal) ∧
    (∀ limit : UInt32, l.entries.length ≤ limit.toNat →
      h.search ⟨[], some limit, none⟩ = .ok (l.entries.map Prod.snd)) ∧
    (∀ e facts site seconds, (Watcher.tradeOf e facts site seconds).InRange ∧
      (h.insert? (Watcher.tradeOf e facts site seconds)).isSome) := by
  intro h l
  have hlog : h.IsLogOf l := isLogOf_after hpast
  have hreplies : TradeHistory.empty.replies past = TradeLog.empty.replies past :=
    (isLogOf_empty.run hpast).1
  refine ⟨⟨hreplies, hlog.content_eq, TradeLog.isOrdered_empty.after past⟩,
    fun t => ⟨h.insert?_isSome_iff t, fun hnone => ?_⟩, fun t id h' hrange hinsert => ?_,
    ⟨(List.length_map _).symm, rfl⟩,
    fun f => ⟨?_, fun e he => hlog.refusal_of_search he⟩, fun limit hlimit => ?_,
    fun e facts site seconds => ?_⟩
  · simp only [TradeHistory.respond, hnone]
  · obtain ⟨hid, hcontent⟩ := hlog.content_insert hrange hinsert
    refine ⟨hcontent, fun reply hreply id' hid' => ?_⟩
    have hlast : id' ≤ l.lastId :=
      (TradeLog.empty.le_lastId_after past).2 reply (hreplies ▸ hreply) id' hid'
    omega
  · show (Reply.found (h.search f), h) = _
    rw [hlog.search f]
  · have hall : l.select [] = l.entries := List.filter_eq_self.2 fun _ _ => rfl
    have hpage : (l.entries.drop 0).take limit.toNat = l.entries := List.take_of_length_le hlimit
    rw [hlog.search]
    show Except.ok (((((l.select []).drop 0).take limit.toNat)).map Prod.snd) = _
    rw [hall, hpage]
  · have hfits := Watcher.tradeOf_fits e facts site seconds
    exact ⟨⟨hfits.le_amount, hfits.amount_lt⟩,
      (h.insert?_isSome_iff _).2 ⟨hfits.computeLimit_lt, hfits.computePrice_lt⟩⟩

/-- A sale of five tokens that took a tip back. -/
def sale : Trade where
  venue := .ofNat 1
  mint := .ofNat 2
  action := .sell
  computeLimit := 200000
  computePrice := 1
  amount := -5
  signature := "sold"
  tip := some "jito"
  tipAmount := -7
  status := .success
  signer := .ofNat 3
  timestamp := 1700000000

/-- The same at a price that does not fit the table. -/
def overpriced : Trade :=
  { sale with computePrice := 0x8000000000000000 }

/-- Its number is not given again after the table was cleared. -/
theorem history_logs_sale :
    (∀ request ∈ [Request.insert sale, .insert overpriced, .clear, .insert sale],
      request.InRange) ∧
    empty.replies [.insert sale, .insert overpriced, .clear, .insert sale] =
      [.inserted (some 1), .inserted none, .cleared 1, .inserted (some 2)] ∧
    (empty.after [.insert sale, .insert overpriced, .clear, .insert sale]).content =
      [(2, .ok sale)] := by
  have hpast : ∀ request ∈ [Request.insert sale, .insert overpriced, .clear, .insert sale],
      request.InRange := by decide
  obtain ⟨⟨hreplies, hcontent, -⟩, -⟩ := history_logs _ hpast
  exact ⟨hpast, hreplies, hcontent⟩

end TradeHistory

end PoolWatch
