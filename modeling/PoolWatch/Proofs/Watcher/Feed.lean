import PoolWatch.Proofs.Text.Pieces
import PoolWatch.Watcher.Feed

/-! # What a feed takes in

    The lines of a feed are read up to the first one that is no text.  Of
    these, exactly the ones that write an envelope are queued, in order
    (`read_lineOf`): a blank line writes none, since no JSON text is blank,
    and a malformed one is told of and nothing else.

    A line that is no text is not skipped in this way.  It ends the feed, and
    what follows it is lost together with the count. -/

namespace PoolWatch

/-! ## Blank texts -/

namespace Json

theorem toNat_of_isBlank {c : Char} (h : Text.isBlank c = true) :
    c.toNat ≤ 0x20 ∨ 0x85 ≤ c.toNat := by
  simp only [Text.isBlank, Bool.or_eq_true, Bool.and_eq_true, decide_eq_true_eq,
    beq_iff_eq] at h
  omega

theorem isDigit_of_isBlank {c : Char} (h : Text.isBlank c = true) : isDigit c = false := by
  have hrange := toNat_of_isBlank h
  refine Bool.eq_false_iff.2 fun hdigit => ?_
  simp only [isDigit, decide_eq_true_eq, Char.le_def, UInt32.le_iff_toNat_le] at hdigit
  have hlow : (48 : Nat) ≤ c.toNat := hdigit.1
  have hhigh : c.toNat ≤ 57 := hdigit.2
  omega

/-- No word starts with a blank, be it one of the grammar or not. -/
theorem scanToken_of_isBlank {c : Char} (h : Text.isBlank c = true) (rest : List Char) :
    scanToken (c :: rest) = none := by
  have hdigits : digits1? (c :: rest) = none := by
    unfold digits1?
    rw [List.takeWhile_cons, isDigit_of_isBlank h]
    rfl
  have hwhole : scanWhole (c :: rest) = none := by
    unfold scanWhole
    split
    · next heq =>
      obtain ⟨rfl, -⟩ := List.cons.inj heq
      cases h
    · rw [hdigits]
      rfl
  have hnumeral : scanNumeral (c :: rest) = none := by
    unfold scanNumeral
    split
    · next heq =>
      obtain ⟨rfl, -⟩ := List.cons.inj heq
      cases h
    · unfold scanMagnitude
      rw [hwhole]
      rfl
  unfold scanToken
  split
  case h_11 => rw [hnumeral]; rfl
  all_goals
    next heq =>
      obtain ⟨rfl, -⟩ := List.cons.inj heq
      cases h

/-- A blank text falls into no words, or is refused. -/
theorem tokensWithin_of_blank {cs : List Char} (h : ∀ c ∈ cs, Text.isBlank c = true)
    (fuel : Nat) : tokensWithin fuel cs = some [] ∨ tokensWithin fuel cs = none := by
  induction cs generalizing fuel with
  | nil => exact .inl (by unfold tokensWithin; rfl)
  | cons c cs ih =>
    cases fuel with
    | zero => exact .inr rfl
    | succ fuel =>
      have hrest := ih (fun c' hc' => h c' (List.mem_cons_of_mem _ hc')) fuel
      unfold tokensWithin
      by_cases hspace : isSpace c = true
      · rw [if_pos hspace]
        exact hrest
      · rw [if_neg hspace, scanToken_of_isBlank (h c (List.mem_cons_self ..)) cs]
        exact .inr rfl

/-- A blank text is no document. -/
theorem parse?_of_blank {s : String} (h : s.toList.all Text.isBlank = true) : parse? s = none := by
  have hblank := List.all_eq_true.1 h
  unfold parse? parseChars? tokens?
  rcases tokensWithin_of_blank hblank s.toList.length with htokens | htokens <;> rw [htokens] <;>
    rfl

end Json

namespace Watcher.Feed

/-! ## Lines -/

/-- A line is some text, whatever it says. -/
def IsText (line : Bytes) : Prop :=
  (Text.Utf8.decode? line).isSome

instance (line : Bytes) : Decidable (IsText line) :=
  inferInstanceAs (Decidable (_ = true))

/-- The envelope that a line writes. -/
def envelope? (line : Bytes) : Option Envelope :=
  (Text.Utf8.decode? line).bind Envelope.parse?

/-- A line is a text that is not blank and writes no envelope. -/
def isMalformed (line : Bytes) : Bool :=
  match Text.Utf8.decode? line with
  | none => false
  | some text => !text.toList.all Text.isBlank && (Envelope.parse? text).isNone

/-- The lines before the first that is no text. -/
def front (ls : List Bytes) : List Bytes :=
  ls.takeWhile fun line => decide (IsText line)

/-- The lines from the first on that is no text. -/
def beyond (ls : List Bytes) : List Bytes :=
  ls.dropWhile fun line => decide (IsText line)

/-- What is told of some lines: each malformed one is skipped. -/
def noticesOf (ls : List Bytes) : List Notice :=
  (ls.filter isMalformed).map fun _ => .warn malformedText

/-- How many envelopes some lines write, if all of them are texts. -/
def countOf? (ls : List Bytes) : Option Nat :=
  if ∀ line ∈ ls, IsText line then some (ls.filterMap envelope?).length else none

variable {line : Bytes} {ls : List Bytes}

/-- What a line is taken for, against what it writes. -/
inductive Taken (line : Bytes) : Line → Prop where
  | unreadable (htext : ¬ IsText line) : Taken line .unreadable
  | blank (htext : IsText line) (hnone : envelope? line = none)
      (hwell : isMalformed line = false) : Taken line .blank
  | malformed (htext : IsText line) (hnone : envelope? line = none)
      (hbad : isMalformed line = true) : Taken line .malformed
  | envelope {e : Envelope} (htext : IsText line) (hsome : envelope? line = some e)
      (hwell : isMalformed line = false) : Taken line (.envelope e)

theorem taken_lineOf (line : Bytes) : Taken line (lineOf line) := by
  cases htext : Text.Utf8.decode? line with
  | none =>
    have hkind : lineOf line = .unreadable := by
      unfold lineOf
      rw [htext]
    rw [hkind]
    exact .unreadable (by simp [IsText, htext])
  | some text =>
    have hline : IsText line := by simp [IsText, htext]
    have henvelope : envelope? line = Envelope.parse? text := by simp [envelope?, htext]
    by_cases hblank : text.toList.all Text.isBlank = true
    · have hkind : lineOf line = .blank := by simp [lineOf, htext, hblank]
      have hnone : Envelope.parse? text = none := by
        unfold Envelope.parse?
        rw [Json.parse?_of_blank hblank]
        rfl
      rw [hkind]
      exact .blank hline (henvelope.trans hnone) (by simp [isMalformed, htext, hblank])
    · cases hparse : Envelope.parse? text with
      | none =>
        have hkind : lineOf line = .malformed := by simp [lineOf, htext, hblank, hparse]
        rw [hkind]
        exact .malformed hline (henvelope.trans hparse)
          (by simp [isMalformed, htext, hblank, hparse])
      | some e =>
        have hkind : lineOf line = .envelope e := by simp [lineOf, htext, hblank, hparse]
        rw [hkind]
        exact .envelope hline (henvelope.trans hparse) (by simp [isMalformed, htext, hparse])

/-! ## Reading -/

theorem front_cons (htext : IsText line) (ls : List Bytes) :
    front (line :: ls) = line :: front ls := by
  unfold front
  rw [List.takeWhile_cons, if_pos (decide_eq_true htext)]

theorem front_cons_of_not (htext : ¬ IsText line) (ls : List Bytes) : front (line :: ls) = [] := by
  unfold front
  rw [List.takeWhile_cons, if_neg (by simpa using htext)]

theorem countOf?_cons (htext : IsText line) (ls : List Bytes) :
    countOf? (line :: ls) = (countOf? ls).map fun n => n + (envelope? line).toList.length := by
  unfold countOf?
  by_cases hall : ∀ line ∈ ls, IsText line
  · rw [if_pos hall, if_pos (List.forall_mem_cons.2 ⟨htext, hall⟩)]
    cases henvelope : envelope? line with
    | none => rw [List.filterMap_cons_none henvelope]; rfl
    | some e => rw [List.filterMap_cons_some henvelope]; rfl
  · have hnot : ¬ ∀ line' ∈ line :: ls, IsText line' := fun h =>
      hall (List.forall_mem_cons.1 h).2
    rw [if_neg hall, if_neg hnot]
    rfl

/-- Of the lines in front of the first that is no text, the envelopes are
    queued and the malformed ones are told of.  A number is given only where
    every line is a text. -/
theorem read_lineOf (ls : List Bytes) :
    read true (ls.map lineOf) =
      ⟨(front ls).filterMap envelope?, noticesOf (front ls), countOf? ls⟩ := by
  induction ls with
  | nil => rfl
  | cons line ls ih =>
    have htaken := taken_lineOf line
    rw [List.map_cons]
    generalize lineOf line = kind at htaken
    cases htaken with
    | unreadable htext =>
      have hcount : countOf? (line :: ls) = none :=
        if_neg fun h => htext (h line (List.mem_cons_self ..))
      rw [front_cons_of_not htext, hcount]
      rfl
    | blank htext hnone hwell =>
      rw [front_cons htext, countOf?_cons htext, List.filterMap_cons_none hnone, hnone]
      simp only [read, ih, noticesOf, List.filter_cons, hwell]
      simp
    | malformed htext hnone hbad =>
      rw [front_cons htext, countOf?_cons htext, List.filterMap_cons_none hnone, hnone]
      simp only [read, ih, noticesOf, List.filter_cons, hbad]
      simp
    | envelope htext hsome hwell =>
      rw [front_cons htext, countOf?_cons htext, List.filterMap_cons_some hsome, hsome]
      simp only [read, ih, noticesOf, List.filter_cons, hwell]
      simp

/-! ## Streams -/

theorem splitLines_append (before after : Bytes) :
    splitLines (before ++ 0x0A :: after) = splitLines before ++ splitLines after :=
  List.splitOnP_append_cons before after (beq_self_eq_true _)

theorem splitLines_of_not_mem (h : 0x0A ∉ line) : splitLines line = [line] := by
  have hpieces : ∀ piece ∈ [line], 0x0A ∉ piece := by simpa using h
  have hline := List.splitOn_intercalate (0x0A : UInt8) hpieces (List.cons_ne_nil line [])
  rwa [List.intercalate_singleton] at hline

theorem front_append_beyond (ls : List Bytes) : front ls ++ beyond ls = ls :=
  List.takeWhile_append_dropWhile

theorem front_of_texts (h : ∀ line ∈ ls, IsText line) : front ls = ls := by
  induction ls with
  | nil => rfl
  | cons line ls ih =>
    obtain ⟨hline, hrest⟩ := List.forall_mem_cons.1 h
    rw [front_cons hline, ih hrest]

/-- Everything that is written is queued, where nothing is written beyond the
    first line that is no text. -/
theorem filterMap_front_eq_iff (ls : List Bytes) :
    (front ls).filterMap envelope? = ls.filterMap envelope? ↔
      ∀ line ∈ beyond ls, envelope? line = none := by
  have hsplit : ls.filterMap envelope? =
      (front ls).filterMap envelope? ++ (beyond ls).filterMap envelope? := by
    rw [← List.filterMap_append, front_append_beyond]
  rw [hsplit, List.self_eq_append_right, List.filterMap_eq_nil_iff]

/-- A text that writes no envelope can be left out. -/
theorem filterMap_front_skip (htext : IsText line) (hnone : envelope? line = none)
    (before after : List Bytes) :
    (front (before ++ line :: after)).filterMap envelope? =
      (front (before ++ after)).filterMap envelope? := by
  induction before with
  | nil =>
    rw [List.nil_append, List.nil_append, front_cons htext, List.filterMap_cons_none hnone]
  | cons first before ih =>
    rw [List.cons_append, List.cons_append]
    by_cases hfirst : IsText first
    · rw [front_cons hfirst, front_cons hfirst, List.filterMap_cons, List.filterMap_cons, ih]
    · rw [front_cons_of_not hfirst, front_cons_of_not hfirst]

/-- A line that is no text hides what comes after it. -/
theorem front_append_of_not (htext : ¬ IsText line) (before after : List Bytes) :
    front (before ++ line :: after) = front before := by
  induction before with
  | nil => exact front_cons_of_not htext after
  | cons first before ih =>
    rw [List.cons_append]
    by_cases hfirst : IsText first
    · rw [front_cons hfirst, front_cons hfirst, ih]
    · rw [front_cons_of_not hfirst, front_cons_of_not hfirst]

theorem countOf?_skip (htext : IsText line) (hnone : envelope? line = none)
    (before after : List Bytes) :
    countOf? (before ++ line :: after) = countOf? (before ++ after) := by
  unfold countOf?
  have hall : (∀ line' ∈ before ++ line :: after, IsText line') ↔
      ∀ line' ∈ before ++ after, IsText line' := by
    simp only [List.mem_append, List.mem_cons]
    refine ⟨fun h line' hline' => h line' (by tauto), fun h line' hline' => ?_⟩
    rcases hline' with hbefore | rfl | hafter
    · exact h line' (.inl hbefore)
    · exact htext
    · exact h line' (.inr hafter)
  have hwritten : (before ++ line :: after).filterMap envelope? =
      (before ++ after).filterMap envelope? := by
    rw [List.filterMap_append, List.filterMap_cons_none hnone, ← List.filterMap_append]
  simp only [hall, hwritten]

/-- What is read of a stream whose queue is open.  The stream is its lines,
    joined by line feeds.  Of the lines in front of the first that is no
    text, the envelopes are queued, in order and once each, and a notice is
    given of each malformed one; the count is the number of envelopes queued,
    if all lines are texts.  A text that writes no envelope has no effect on
    any other line.  So a stream of texts loses nothing.

    But a line that is no text ends the feed: no number is given, and of what
    follows nothing is queued, which is a loss exactly where an envelope is
    written there. -/
theorem read_stream (stream : Bytes) :
    let ls := splitLines stream
    let reading := read true (lines stream)
    ([0x0A].intercalate ls = stream ∧ ∀ line ∈ ls, 0x0A ∉ line) ∧
    (reading.queued = (front ls).filterMap envelope? ∧ reading.notices = noticesOf (front ls)) ∧
    ((∀ line ∈ ls, IsText line) →
      reading.queued = ls.filterMap envelope? ∧ reading.notices = noticesOf ls ∧
        reading.count? = some reading.queued.length) ∧
    (∀ before line after, stream = before ++ 0x0A :: (line ++ 0x0A :: after) → 0x0A ∉ line →
      IsText line → envelope? line = none →
      reading.queued = (read true (lines (before ++ 0x0A :: after))).queued ∧
        reading.count? = (read true (lines (before ++ 0x0A :: after))).count?) ∧
    ((∃ line ∈ ls, ¬ IsText line) → reading.count? = none) ∧
    (reading.queued = ls.filterMap envelope? ↔ ∀ line ∈ beyond ls, envelope? line = none) ∧
    (∀ before after, stream = before ++ 0x0A :: (0xFF :: 0x0A :: after) →
      reading.queued = (read true (lines before)).queued) := by
  intro ls reading
  have hreading : reading =
      ⟨(front ls).filterMap envelope?, noticesOf (front ls), countOf? ls⟩ := read_lineOf ls
  refine ⟨⟨List.intercalate_splitOn _, fun line hline => Text.not_mem_of_mem_splitOn hline⟩,
    ⟨by rw [hreading], by rw [hreading]⟩, fun htexts => ?_,
    fun before line after hstream hline htext hnone => ?_, fun hbroken => ?_, ?_,
    fun before after hstream => ?_⟩
  · have hcount : countOf? ls = some (ls.filterMap envelope?).length := if_pos htexts
    rw [hreading, front_of_texts htexts]
    exact ⟨rfl, rfl, hcount⟩
  · have hls : ls = splitLines before ++ line :: splitLines after := by
      show splitLines stream = _
      rw [hstream, splitLines_append, splitLines_append, splitLines_of_not_mem hline,
        List.singleton_append]
    have hwithout := read_lineOf (splitLines before ++ splitLines after)
    rw [← splitLines_append] at hwithout
    unfold lines
    rw [hreading, hwithout, splitLines_append, hls]
    exact ⟨filterMap_front_skip htext hnone .., countOf?_skip htext hnone ..⟩
  · rw [hreading]
    refine if_neg fun htexts => ?_
    obtain ⟨line, hline, htext⟩ := hbroken
    exact htext (htexts line hline)
  · rw [hreading]
    exact filterMap_front_eq_iff ls
  · have hline : ¬ IsText [0xFF] := by decide
    have halone : splitLines [0xFF] = [[0xFF]] := splitLines_of_not_mem (by decide)
    have hls : ls = splitLines before ++ [0xFF] :: splitLines after := by
      show splitLines stream = _
      rw [hstream, splitLines_append]
      show splitLines before ++ splitLines ([0xFF] ++ 0x0A :: after) = _
      rw [splitLines_append [0xFF], halone, List.singleton_append]
    have hbefore := read_lineOf (splitLines before)
    unfold lines
    rw [hreading, hbefore, hls, front_append_of_not hline]

/-- A line that writes an envelope without calls. -/
def written : Bytes :=
  Text.Utf8.encode ("\x7b\"signature\":\"s\",\"account_keys\":[]," ++
    "\"recent_blockhash\":\"11111111111111111111111111111111\",\"instructions\":[]\x7d")

/-- An envelope after a byte that begins no character is lost. -/
theorem read_stream_lost :
    ((splitLines (0x0A :: 0xFF :: 0x0A :: written)).filterMap envelope?).length = 1 ∧
      (read true (lines (0x0A :: 0xFF :: 0x0A :: written))).queued = [] ∧
      (read true (lines (0x0A :: 0xFF :: 0x0A :: written))).count? = none := by
  obtain ⟨-, -, -, -, hbroken, -, hlost⟩ := read_stream (0x0A :: 0xFF :: 0x0A :: written)
  exact ⟨by decide +kernel, hlost [] written rfl, hbroken ⟨[0xFF], by decide +kernel, by decide⟩⟩

end Watcher.Feed

end PoolWatch
