import PoolWatch.Proofs.Trade.Log

/-! # A search is a page

    What a history finds is a slice of the entries that every query admits
    by itself, newest first (`IsLogOf.search_of_known`).  Slices of one size
    at consecutive offsets follow each other (`flatten_pageOf_onPage`), and
    the order of the queries is nothing to the entries they admit
    (`found_perm`).

    `search_page` says all of it of a history that was filled by requests. -/

namespace PoolWatch

/-! ## Entries and pages -/

namespace TradeFilter

open TradeQuery (firstUnknown?)

/-- The entries that every query admits by itself. -/
def found (f : TradeFilter) (entries : List (Nat × Trade)) : List (Nat × Trade) :=
  entries.filter fun entry => f.queries.all fun q => q.admits (TradeLog.rowOf entry)

/-- The same search for one of several pages of a size. -/
def onPage (f : TradeFilter) (size : UInt32) (page : Nat) : TradeFilter :=
  { f with limit := some size, offset := some (UInt32.ofNat (page * size.toNat)) }

variable {f g : TradeFilter}

theorem found_perm (hqueries : f.queries.Perm g.queries) (entries : List (Nat × Trade)) :
    f.found entries = g.found entries := by
  unfold found
  refine List.filter_congr fun entry _ => ?_
  exact hqueries.all_eq

theorem found_descending {l : TradeLog} (hordered : l.IsOrdered) (f : TradeFilter) :
    (f.found l.entries).Pairwise fun newer older => older.1 < newer.1 :=
  hordered.descending.filter _

/-- Consecutive pages of a size follow each other. -/
theorem flatten_pageOf_onPage {α : Type} (f : TradeFilter) (size : UInt32) (found : List α)
    (count : Nat) (hfits : ∀ i < count, i * size.toNat < 2 ^ 32) :
    ((List.range count).map fun i => (f.onPage size i).pageOf found).flatten =
      found.take (count * size.toNat) := by
  induction count with
  | zero => rw [Nat.zero_mul]; rfl
  | succ count ih =>
    have hbefore := ih fun i hi => hfits i (Nat.lt_succ_of_lt hi)
    have hoffset : (UInt32.ofNat (count * size.toNat)).toNat = count * size.toNat :=
      UInt32.toNat_ofNat_of_lt (hfits count (Nat.lt_succ_self count))
    have hlast : (f.onPage size count).pageOf found =
        (found.drop (count * size.toNat)).take size.toNat := by
      show (found.drop (UInt32.ofNat (count * size.toNat)).toNat).take size.toNat = _
      rw [hoffset]
    rw [List.range_succ, List.map_append, List.flatten_append, hbefore, List.map_singleton,
      List.flatten_singleton, hlast, Nat.succ_mul, List.take_add]

/-- The conditions of a statement spell the columns and operators of the
    queries, and find their values under the numbers of the queries. -/
theorem statement_of_known (hknown : ∀ q ∈ f.queries, q.IsKnown) :
    ∃ s : Trade.Statement, f.statement = .ok (s, f.queries.map TradeQuery.value) ∧
      s.clauses.map Trade.Clause.spelling = f.queries.map TradeQuery.spelling ∧
      s.clauses.map Trade.Clause.position = List.range f.queries.length := by
  obtain ⟨cs, hcs, hvalues, hspellings, -⟩ := TradeQuery.mapM_condition_of_known hknown
  have hlength : cs.length = f.queries.length := by
    simpa using congrArg List.length hvalues
  refine ⟨f.statementOf cs, ?_, ?_, ?_⟩
  · rw [statement_eq, hcs, ← hvalues]
    rfl
  · show (Condition.numberedFrom 0 cs).map Trade.Clause.spelling = _
    rw [Condition.spelling_numberedFrom, hspellings]
  · show (Condition.numberedFrom 0 cs).map Trade.Clause.position = _
    rw [Condition.position_numberedFrom, hlength, List.range_eq_range']

end TradeFilter

namespace TradeHistory

open TradeQuery (firstUnknown? firstUnknown?_eq_none_iff)

variable {h : TradeHistory} {l : TradeLog} {f g : TradeFilter}

/-- A search answers with a page of the entries that every query admits. -/
theorem IsLogOf.search_of_known (hlog : h.IsLogOf l) (hknown : ∀ q ∈ f.queries, q.IsKnown) :
    h.search f = .ok ((f.pageOf (f.found l.entries)).map Prod.snd) := by
  obtain ⟨cs, hcs, -, -, hpasses⟩ := TradeQuery.mapM_condition_of_known hknown
  have hselect : l.select cs = f.found l.entries := by
    unfold TradeLog.select TradeFilter.found
    exact List.filter_congr fun entry _ => hpasses (TradeLog.rowOf entry)
  rw [hlog.search]
  unfold TradeLog.search
  rw [hcs]
  show Except.ok ((f.pageOf (l.select cs)).map Prod.snd) = _
  rw [hselect]

/-- Pages of one size, searched one after the other, are the entries from
    the newest on. -/
theorem IsLogOf.search_pages (hlog : h.IsLogOf l) (hknown : ∀ q ∈ f.queries, q.IsKnown)
    (size : UInt32) (count : Nat) (hfits : ∀ i < count, i * size.toNat < 2 ^ 32) :
    ∃ pages, (List.range count).mapM (fun i => h.search (f.onPage size i)) = .ok pages ∧
      pages.flatten = ((f.found l.entries).take (count * size.toNat)).map Prod.snd := by
  have hpage : (fun i => h.search (f.onPage size i)) = fun i =>
      .ok (((f.onPage size i).pageOf (f.found l.entries)).map Prod.snd) := by
    funext i
    exact hlog.search_of_known (f := f.onPage size i) hknown
  refine ⟨_, by rw [hpage]; exact List.mapM_pure, ?_⟩
  rw [← f.flatten_pageOf_onPage size _ count hfits, List.map_flatten, List.map_map]
  rfl

/-- Every search of a history that was filled by requests is a page.  It is
    refused over the first query that is not known, by this history as by any
    other.  Else it answers with a slice of the entries that every query
    admits by itself, newest first; pages of one size follow each other; and
    the order of the queries makes no difference.  Values are no part of the
    statement that is put to the table: it reads back as it was written, each
    condition finds its value under its own number, and with other values it
    is the same statement. -/
theorem search_page (past : List Request) (hpast : ∀ request ∈ past, request.InRange) :
    let h := TradeHistory.empty.after past
    let entries := (TradeLog.empty.after past).entries
    (h.content = (entries.map fun entry => (entry.1, .ok entry.2)) ∧
      ∀ f : TradeFilter, (f.found entries).Pairwise fun newer older => older.1 < newer.1) ∧
    (∀ (f : TradeFilter) q, firstUnknown? f.queries = some q →
      ∀ h' : TradeHistory, h'.search f = .error q.refusal) ∧
    (∀ f : TradeFilter, firstUnknown? f.queries = none →
      h.search f = .ok ((((f.found entries).drop (f.offset.getD 0).toNat).take
        (f.limit.getD 100).toNat).map Prod.snd)) ∧
    (∀ (f : TradeFilter) (size : UInt32) count, firstUnknown? f.queries = none →
      (∀ i < count, i * size.toNat < 2 ^ 32) →
      ∃ pages, (List.range count).mapM (fun i => h.search (f.onPage size i)) = .ok pages ∧
        pages.flatten = ((f.found entries).take (count * size.toNat)).map Prod.snd) ∧
    (∀ f g : TradeFilter, f.queries.Perm g.queries → f.limit = g.limit → f.offset = g.offset →
      (firstUnknown? f.queries = none ↔ firstUnknown? g.queries = none) ∧
        (firstUnknown? f.queries = none → h.search f = h.search g)) ∧
    (∀ (f : TradeFilter) s values, f.statement = .ok (s, values) →
      Trade.Statement.ofText? s.text = some s ∧ values = f.queries.map TradeQuery.value ∧
        s.clauses.map Trade.Clause.spelling = f.queries.map TradeQuery.spelling ∧
        s.clauses.map Trade.Clause.position = List.range f.queries.length) ∧
    (∀ f g : TradeFilter, f.queries.map TradeQuery.names = g.queries.map TradeQuery.names →
      f.limit = g.limit → f.offset = g.offset →
      f.statement.map Prod.fst = g.statement.map Prod.fst) := by
  intro h entries
  have hlog : h.IsLogOf (TradeLog.empty.after past) := isLogOf_after hpast
  have hordered := TradeLog.isOrdered_empty.after past
  refine ⟨⟨hlog.content_eq, TradeFilter.found_descending hordered⟩,
    fun f q hfirst h' => h'.search_of_unknown hfirst,
    fun f hfirst => hlog.search_of_known (firstUnknown?_eq_none_iff.1 hfirst),
    fun f size count hfirst => hlog.search_pages (firstUnknown?_eq_none_iff.1 hfirst) size count,
    fun f g hqueries hlimit hoffset => ⟨?_, fun hfirst => ?_⟩,
    fun f s values hstatement => ⟨s.ofText?_text, ?_⟩,
    fun _ _ => TradeFilter.statement_congr⟩
  · rw [firstUnknown?_eq_none_iff, firstUnknown?_eq_none_iff]
    exact ⟨fun hknown q hq => hknown q (hqueries.mem_iff.2 hq),
      fun hknown q hq => hknown q (hqueries.mem_iff.1 hq)⟩
  · have hknown := firstUnknown?_eq_none_iff.1 hfirst
    have hknown' : ∀ q ∈ g.queries, q.IsKnown := fun q hq => hknown q (hqueries.mem_iff.2 hq)
    have hpages : f.pageOf (f.found entries) = g.pageOf (g.found entries) := by
      unfold TradeFilter.pageOf
      rw [hlimit, hoffset, TradeFilter.found_perm hqueries]
    rw [hlog.search_of_known hknown, hlog.search_of_known hknown', hpages]
  · -- a filter that has a statement has no query that is not known
    cases hfirst : firstUnknown? f.queries with
    | some q =>
      rw [TradeFilter.statement_of_unknown hfirst] at hstatement
      cases hstatement
    | none =>
      obtain ⟨s', hs', hclauses⟩ :=
        TradeFilter.statement_of_known (firstUnknown?_eq_none_iff.1 hfirst)
      rw [hs'] at hstatement
      obtain ⟨rfl, rfl⟩ := Prod.mk.inj (Except.ok.inj hstatement)
      exact ⟨rfl, hclauses⟩

/-- Two sales, the newer one first; a page of one past the first; and the
    value of a query stays a value, whatever it spells. -/
theorem search_page_sales :
    (∀ request ∈ [Request.insert sale, .insert sale], request.InRange) ∧
    ((empty.after [.insert sale, .insert sale]).content = [(2, .ok sale), (1, .ok sale)]) ∧
    (empty.after [.insert sale, .insert sale]).search
        ⟨[⟨"compute_limit", ">=", "9"⟩, ⟨"signature", "like", "S%"⟩], some 1, some 1⟩ =
      .ok [sale] ∧
    (empty.after [.insert sale, .insert sale]).search
        ⟨[⟨"signature", "=", "x' OR 1=1 --"⟩], none, none⟩ = .ok [] ∧
    (empty.after [.insert sale, .insert sale]).search
        ⟨[⟨"id", "=", "1"⟩, ⟨"price", "<>", "1"⟩], none, none⟩ =
      .error (.badColumn "price") := by
  have hpast : ∀ request ∈ [Request.insert sale, .insert sale], request.InRange := by decide
  obtain ⟨⟨hcontent, -⟩, hrefused, hfound, -⟩ := search_page _ hpast
  exact ⟨hpast, hcontent, hfound ⟨[_, _], _, _⟩ (by decide), hfound ⟨[_], _, _⟩ (by decide),
    hrefused ⟨[_, _], _, _⟩ ⟨"price", "<>", "1"⟩ (by decide) _⟩

end TradeHistory

end PoolWatch
