import PoolWatch.Proofs.Registry.Caches
import PoolWatch.Proofs.Store.Listing
import PoolWatch.Proofs.Tracking.Atomic
import PoolWatch.Proofs.Tracking.Undated

/-! # Venues on record

    Operations on venues and looks at the chain come in any order, and all of
    them write to the same store, often under the same key.  The history is
    the list of the tracking records that were written, newest first.  The
    store lists the latest one of each venue in the history, and nothing
    else: no cache, no ledger and no end of a ledger adds a venue or takes
    one away. -/

namespace PoolWatch.Tracking

open Registry (Look)

/-! ## Histories -/

/-- What may be done to a store: an operation at some time, or a look at the
    chain, each time through a node of its own. -/
inductive Act where
  | operate (now : Int64) (op : Operation)
  | look (what : Look) (reader : Reader) (asked : List Query)

namespace Act

/-- The store after an act. -/
def after (policy : Policy) (s : Store) : Act → Store
  | operate now op => (runOn (op.run policy now) s).2
  | look what reader asked => (what.take ⟨s, reader, asked⟩).2.store

/-- The tracking record that an act writes, if any. -/
def record? (policy : Policy) (s : Store) : Act → Option Tracker
  | operate now op =>
    (op.put (runOn (op.run policy now) s).1).map fun status => ⟨op.venue, status, now⟩
  | look .. => none

end Act

/-- The store after some acts, one after the other, and the tracking records
    that were written on the way, newest first. -/
def history (policy : Policy) (acts : List Act) : Store × List Tracker :=
  acts.foldl (fun h act => (act.after policy h.1, (act.record? policy h.1).toList ++ h.2))
    (.empty, [])

theorem history_snoc (policy : Policy) (acts : List Act) (act : Act) :
    history policy (acts ++ [act]) =
      (act.after policy (history policy acts).1,
        (act.record? policy (history policy acts).1).toList ++ (history policy acts).2) := by
  unfold history
  rw [List.foldl_append]
  rfl

/-- The latest of some records of a venue. -/
def latest? (records : List Tracker) (venue : Key) : Option Tracker :=
  records.find? fun t => t.venue = venue

/-! ## The store and the history -/

/-- The text of a tracking record. -/
def Tracker.text (t : Tracker) : String :=
  recordText t.venue t.status t.lastUpdated

/-- The latest of some records that are kept under a name. -/
def latestAt? (records : List Tracker) (name : String) : Option Tracker :=
  records.find? fun t => t.venue.text = name

theorem latestAt?_text (records : List Tracker) (venue : Key) :
    latestAt? records venue.text = latest? records venue := by
  unfold latestAt? latest?
  simp only [Key.text_inj]

theorem text_of_latestAt? {records : List Tracker} {name : String} {t : Tracker}
    (h : latestAt? records name = some t) : t.venue.text = name := by
  simpa using List.find?_some h

/-- What a store and the records that were written to it have to do with each
    other. -/
structure Keeps (s : Store) (records : List Tracker) : Prop where
  once : s.KeysOnce
  text : ∀ name, s.get? name Store.Field.tracker.name = (latestAt? records name).map Tracker.text

theorem keeps_empty : Keeps .empty [] := ⟨Store.keysOnce_empty, fun _ => rfl⟩

section Keeps

variable {s s' : Store} {records : List Tracker}

/-- No tracking record changes. -/
theorem Keeps.congr (h : Keeps s records) (honce : s'.KeysOnce)
    (htext : ∀ name, s'.get? name Store.Field.tracker.name =
      s.get? name Store.Field.tracker.name) : Keeps s' records :=
  ⟨honce, fun name => (htext name).trans (h.text name)⟩

theorem Keeps.withStatus (h : Keeps s records) (now : Int64) (venue : Key) (status : Status) :
    Keeps (withStatus now venue status s) (⟨venue, status, now⟩ :: records) := by
  refine ⟨h.once.set .., fun name => ?_⟩
  unfold Tracking.withStatus latestAt?
  rw [Store.get?_putRecord, h.text, List.find?_cons]
  by_cases hname : name = venue.text
  · rw [if_pos ⟨hname, rfl⟩]
    simp [hname, Tracker.text, recordText]
  · rw [if_neg fun hc => hname hc.1]
    simp [Ne.symm hname, latestAt?]

theorem Keeps.withLedger (h : Keeps s records) (venue : Key) (l : Ledger) :
    Keeps (withLedger venue l s) records := by
  refine h.congr (h.once.set ..) fun name => ?_
  rw [Tracking.withLedger, Store.get?_putRecord, if_neg fun h => absurd h.2 (by decide)]

theorem Keeps.withoutLedger (h : Keeps s records) (venue : Key) :
    Keeps (withoutLedger venue s) records := by
  refine h.congr (h.once.erase ..) fun name => ?_
  rw [Tracking.withoutLedger, Store.get?_eraseRecord, if_neg fun h => absurd h.2 (by decide)]

/-- An operation adds the record that it puts down. -/
theorem Keeps.ends {now : Int64} {venue : Key} {answer : Except TrackerError Answer}
    {next : Option Status} (h : Keeps s records) (hends : Ends now venue s answer next s') :
    Keeps s' ((next.map fun status => ⟨venue, status, now⟩).toList ++ records) := by
  cases hends with
  | refused | stayed | skipped => exact h
  | moved status | written status => exact h.withStatus now venue status
  | opened l => exact (h.withLedger venue l).withStatus now venue .both
  | decremented l => exact h.withLedger venue l
  | exhausted => exact (h.withoutLedger venue).withStatus now venue .notTracked

/-- A look keeps tables and pools, and writes no tracking record. -/
theorem Keeps.look {what : Look} {r r' : Registry} {answer : Look.Answer}
    (h : Keeps r.store records) (hends : what.Ends r answer r') : Keeps r'.store records := by
  have hfield : what.field ≠ .tracker := by cases what <;> exact nofun
  refine h.congr ?_ fun name => hends.get?_eq fun hc => ?_
  · cases hends with
    | repeated _ _ => exact h.once
    | refused _ hstore => exact hstore ▸ h.once
    | added _ _ hstore _ => exact hstore ▸ h.once.set ..
  · exact hfield (Store.Field.name_inj.1 hc.2).symm

theorem Keeps.act (h : Keeps s records) (policy : Policy) (act : Act) :
    Keeps (act.after policy s) ((act.record? policy s).toList ++ records) := by
  cases act with
  | operate now op =>
    have hrun : runOn (op.run policy now) s = ((runOn (op.run policy now) s).1, _) := rfl
    exact h.ends (Operation.ends hrun)
  | look what reader asked =>
    have hstart : Keeps (⟨s, reader, asked⟩ : Registry).store records := h
    exact hstart.look (what.ends _)

end Keeps

theorem keeps_history (policy : Policy) (acts : List Act) :
    Keeps (history policy acts).1 (history policy acts).2 := by
  induction acts using List.reverseRecOn with
  | nil => exact keeps_empty
  | append_singleton acts act ih =>
    rw [history_snoc]
    exact ih.act policy act

/-! ## The listing -/

section Listing

variable {s : Store} {records : List Tracker}

theorem Keeps.record?_eq (h : Keeps s records) (name : String) :
    s.record? TrackerRecord.ofJson? name .tracker =
      .ok ((latestAt? records name).map fun t => ⟨t.venue.text, t.status.name, t.lastUpdated⟩) := by
  have htext := h.text name
  cases hlatest : latestAt? records name with
  | none =>
    rw [hlatest] at htext
    exact Store.record?_eq_none_iff.2 htext
  | some t =>
    rw [hlatest] at htext
    exact Store.record?_of_get? htext (TrackerRecord.plain_toJson _) (TrackerRecord.ofJson?_toJson _)

/-- The record of a venue is the latest one, and a venue without any is not
    tracked. -/
theorem Keeps.runOn_status (h : Keeps s records) (venue : Key) :
    runOn (status venue) s =
      (.ok ((latest? records venue).elim .notTracked Tracker.status), s) := by
  rw [Tracking.runOn_status, statusOf_of_tracker (runOn_tracker venue s), h.record?_eq,
    latestAt?_text]
  cases latest? records venue with
  | none => rfl
  | some t =>
    dsimp only [Option.map_some]
    rw [TrackerRecord.tracker_mk]
    rfl

theorem Keeps.runOn_trackersAt (h : Keeps s records) (names : List String) :
    runOn (trackersAt names) s = (.ok (names.filterMap (latestAt? records)), s) := by
  induction names with
  | nil => rfl
  | cons name rest ih =>
    unfold trackersAt
    rw [runOn_bind_ok (runOn_get s), h.record?_eq, runOn_bind_ok (runOn_lift _ s)]
    cases hlatest : latestAt? records name with
    | none =>
      rw [List.filterMap_cons_none hlatest]
      exact ih
    | some t =>
      rw [List.filterMap_cons_some hlatest]
      dsimp only [Option.map_some]
      rw [TrackerRecord.tracker_mk, runOn_bind_ok (runOn_ofExcept _ s), runOn_bind_ok ih]
      rfl

/-- The listing has the latest record of each venue, once. -/
theorem Keeps.lists (h : Keeps s records) :
    ∃ trackers, runOn allTrackers s = (.ok trackers, s) ∧ (trackers.map Tracker.venue).Nodup ∧
      ∀ t, t ∈ trackers ↔ latest? records t.venue = some t := by
  refine ⟨(s.keysWith Store.Field.tracker.name).filterMap (latestAt? records), ?_, ?_, ?_⟩
  · unfold allTrackers
    rw [runOn_bind_ok (runOn_get s)]
    exact h.runOn_trackersAt _
  · -- a venue tells the name that its record is kept under
    rw [List.map_filterMap]
    refine (h.once.nodup_keysWith _).filterMap fun name name' venue hname hname' => ?_
    obtain ⟨t, ht, rfl⟩ := Option.map_eq_some_iff.1 hname
    obtain ⟨t', ht', hvenue⟩ := Option.map_eq_some_iff.1 hname'
    rw [← text_of_latestAt? ht, ← text_of_latestAt? ht', hvenue]
  · intro t
    rw [List.mem_filterMap, ← latestAt?_text]
    constructor
    · rintro ⟨name, -, ht⟩
      rwa [text_of_latestAt? ht]
    · intro ht
      refine ⟨t.venue.text, h.once.mem_keysWith.2 ?_, ht⟩
      rw [h.text, ht]
      exact nofun

end Listing

/-! ## What is never lost -/

section Lost

variable {policy : Policy} {now : Int64} {venue : Key} {amount : Word128} {succeeded : Bool}
  {s s' : Store}

/-- When a ledger ends, its text is erased, and its venue goes on record as
    not tracked. -/
theorem store_of_exhausted
    (h : runOn (handleSelfSwap policy now venue amount.toNat succeeded) s = (.ok .exhausted, s')) :
    s' = withStatus now venue .notTracked (withoutLedger venue s) := by
  have hrun : runOn ((Operation.selfSwap venue amount succeeded).run policy now) s =
      (.ok (.drawn .exhausted), s') := runOn_bind_ok h _
  cases Operation.ends hrun
  rfl

/-- The end of a ledger takes the ledger away, and no other text. -/
theorem gone_of_exhausted
    (h : runOn (handleSelfSwap policy now venue amount.toNat succeeded) s = (.ok .exhausted, s'))
    {key field : String} (hthere : s.get? key field ≠ none) :
    s'.get? key field = none ↔ key = venue.text ∧ field = Store.Field.ledger.name := by
  rw [store_of_exhausted h, withStatus, Store.putRecord, Store.get?_set, withoutLedger,
    Store.eraseRecord, Store.get?_erase]
  by_cases hledger : key = venue.text ∧ field = Store.Field.ledger.name
  · have hother : ¬ (key = venue.text ∧ field = Store.Field.tracker.name) := by
      rintro ⟨-, rfl⟩
      exact absurd hledger.2 (by decide)
    rw [if_neg hother, if_pos hledger]
    exact iff_of_true rfl hledger
  · rw [if_neg hledger]
    refine iff_of_false ?_ hledger
    split
    · exact Option.some_ne_none _
    · exact hthere

end Lost

theorem mem_venues_iff {records : List Tracker} {venue : Key} :
    venue ∈ records.map Tracker.venue ↔ ∃ t, latest? records venue = some t := by
  unfold latest?
  rw [← Option.isSome_iff_exists, List.find?_isSome, List.mem_map]
  simp only [decide_eq_true_eq]

/-- Whatever was done to a store that began empty, and over whatever keys: the
    listing has the venues whose status was ever put on record, each once and
    with the last status that was.  A venue whose status never was is not
    tracked, and is not listed.  When a ledger ends, of all texts that were
    there only the ledger goes. -/
theorem trackers_never_lost (policy : Policy) (acts : List Act) :
    let s := (history policy acts).1
    let records := (history policy acts).2
    (∃ trackers, runOn allTrackers s = (.ok trackers, s) ∧
      (trackers.map Tracker.venue).Nodup ∧
      (∀ t, t ∈ trackers ↔ latest? records t.venue = some t) ∧
      (∀ venue, venue ∈ trackers.map Tracker.venue ↔ venue ∈ records.map Tracker.venue)) ∧
    (∀ venue, runOn (status venue) s =
      (.ok ((latest? records venue).elim .notTracked Tracker.status), s)) ∧
    (∀ venue, venue ∉ records.map Tracker.venue →
      runOn (status venue) s = (.ok .notTracked, s)) ∧
    (∀ (now : Int64) (venue : Key) (amount : Word128) (succeeded : Bool) (s' : Store),
      runOn (handleSelfSwap policy now venue amount.toNat succeeded) s = (.ok .exhausted, s') →
      ∀ key field, s.get? key field ≠ none →
        (s'.get? key field = none ↔ key = venue.text ∧ field = Store.Field.ledger.name)) := by
  intro s records
  have hkeeps : Keeps s records := keeps_history policy acts
  obtain ⟨trackers, hrun, honce, hlatest⟩ := hkeeps.lists
  refine ⟨⟨trackers, hrun, honce, hlatest, fun venue => ?_⟩, hkeeps.runOn_status,
    fun venue hnever => ?_, fun now venue amount succeeded s' hends key field hthere =>
      gone_of_exhausted hends hthere⟩
  · refine Iff.trans ?_ mem_venues_iff.symm
    rw [List.mem_map]
    constructor
    · rintro ⟨t, ht, rfl⟩
      exact ⟨t, (hlatest t).1 ht⟩
    · rintro ⟨t, ht⟩
      obtain rfl : t.venue = venue := by simpa using List.find?_some ht
      exact ⟨t, (hlatest t).2 ht, rfl⟩
  · have hnone : latest? records venue = none := by
      by_contra hsome
      exact hnever (mem_venues_iff.2 (Option.ne_none_iff_exists'.1 hsome))
    rw [hkeeps.runOn_status, hnone]
    rfl

end PoolWatch.Tracking
