import Mathlib
import PoolWatch.Channel
import PoolWatch.Proofs.Run
import PoolWatch.Proofs.Text.Blank
import PoolWatch.Proofs.Text.Pieces

/-! # Lists of channels

    A list is read piece by piece between its commas.  A piece of blanks
    stands for nothing, a word for a channel stands for it in any letter
    case and with any blanks around it, and the first piece that is neither
    refuses the list.  `parseList_exact` says so, and that writing such
    pieces is undone by reading them, and that two lists joined by a comma
    read as one after the other. -/

namespace PoolWatch.Channel

open Text (Surrounds IsTrimmed Spells trimChars lowerChars)

/-! ## Words for a channel -/

/-- The alias of a channel. -/
def otherName : Channel → String
  | .direct => "direct"
  | .blockEngine => "bundle"
  | .paidRelay => "relay"

/-- A text that spells the name of a channel or its alias. -/
def IsNamed (c : Channel) (text : List Char) : Prop :=
  Spells c.name.toList text ∨ Spells c.otherName.toList text

variable {c : Channel} {item piece : List Char}

theorem ofLower?_eq_some_iff {text : String} :
    ofLower? text = some c ↔ text = c.name ∨ text = c.otherName := by
  constructor
  · intro h
    unfold ofLower? at h
    split at h <;> cases h <;> simp [name, otherName]
  · rintro (rfl | rfl)
    · cases c <;> rfl
    · cases c <;> rfl

theorem isLower_name : ∀ ch ∈ c.name.toList, ch.isLower = true := by
  cases c <;> simp [name, Char.isLower]

theorem isLower_otherName : ∀ ch ∈ c.otherName.toList, ch.isLower = true := by
  cases c <;> simp [otherName, Char.isLower]

theorem parse_eq (item : List Char) :
    parse item =
      match ofLower? (String.ofList (lowerChars item)) with
      | some c => .ok c
      | none => .error (String.ofList (item.map Char.toLower)) := by
  rw [← Text.lowerChars_eq]
  rfl

theorem ofLower?_item :
    ofLower? (String.ofList (lowerChars item)) = some c ↔ c.IsNamed item := by
  have hword (word : String) :
      String.ofList (lowerChars item) = word ↔ lowerChars item = word.toList := by
    rw [← String.toList_inj, String.toList_ofList]
  rw [ofLower?_eq_some_iff, hword, hword, Text.lowerChars_eq_iff isLower_name,
    Text.lowerChars_eq_iff isLower_otherName]
  exact Iff.rfl

/-- An item is read as the channel that it names. -/
theorem parse_eq_ok_iff : parse item = .ok c ↔ c.IsNamed item := by
  rw [← ofLower?_item, parse_eq]
  cases ofLower? (String.ofList (lowerChars item)) <;> simp

/-- An item that names no channel is told in small letters. -/
theorem parse_eq_error_iff {text : String} :
    parse item = .error text ↔
      (∀ c, ¬ IsNamed c item) ∧ text = String.ofList (item.map Char.toLower) := by
  simp only [← ofLower?_item]
  rw [parse_eq]
  cases ofLower? (String.ofList (lowerChars item)) <;> simp [eq_comm]

theorem IsNamed.isAlpha (h : c.IsNamed item) : ∀ ch ∈ item, ch.isAlpha = true :=
  h.elim (·.isAlpha isLower_name) (·.isAlpha isLower_otherName)

theorem IsNamed.ne_nil (h : c.IsNamed item) : item ≠ [] := by
  rintro rfl
  rcases h with h | h
  · have hempty := List.forall₂_nil_right_iff.1 h
    cases c <;> simp [name] at hempty
  · have hempty := List.forall₂_nil_right_iff.1 h
    cases c <;> simp [otherName] at hempty

/-- No letter is a blank, so there is nothing to trim. -/
theorem IsNamed.isTrimmed (h : c.IsNamed item) : IsTrimmed item where
  head _ hch := Text.isBlank_of_isAlpha (h.isAlpha _ (List.mem_of_mem_head? hch))
  last _ hch := Text.isBlank_of_isAlpha (h.isAlpha _ (List.mem_of_mem_getLast? hch))

theorem isNamed_name (c : Channel) : c.IsNamed c.name.toList :=
  .inl (List.forall₂_same.2 fun _ _ => .inl rfl)

/-! ## Pieces -/

/-- What a piece stands for: nothing, or a channel that it names. -/
def StandsFor (piece : List Char) : Option Channel → Prop
  | none => ∀ ch ∈ piece, Text.isBlank ch
  | some c => ∃ item, Surrounds piece item ∧ c.IsNamed item

/-- A piece that is not blank and names no channel, told in small letters. -/
def IsUnknown (piece : List Char) (text : String) : Prop :=
  ∃ item, Surrounds piece item ∧ IsTrimmed item ∧ item ≠ [] ∧ (∀ c, ¬ IsNamed c item) ∧
    text = String.ofList (item.map Char.toLower)

theorem standsFor_some_iff : StandsFor piece (some c) ↔ c.IsNamed (trimChars piece) := by
  constructor
  · rintro ⟨item, hitem, hnamed⟩
    rwa [Text.trimChars_eq_iff.2 ⟨hitem, hnamed.isTrimmed⟩]
  · intro hnamed
    exact ⟨_, Text.surrounds_trimChars piece, hnamed⟩

theorem isUnknown_iff {text : String} :
    IsUnknown piece text ↔ trimChars piece ≠ [] ∧ (∀ c, ¬ IsNamed c (trimChars piece)) ∧
      text = String.ofList ((trimChars piece).map Char.toLower) := by
  constructor
  · rintro ⟨item, hitem, htrimmed, hrest⟩
    rwa [Text.trimChars_eq_iff.2 ⟨hitem, htrimmed⟩]
  · intro h
    exact ⟨_, Text.surrounds_trimChars piece, Text.isTrimmed_trimChars piece, h⟩

/-- No piece that stands for anything holds a comma. -/
theorem StandsFor.not_mem {entry : Option Channel} (h : StandsFor piece entry) : ',' ∉ piece := by
  have hcomma : Text.isBlank ',' = false := by decide
  intro hmem
  cases entry with
  | none => exact absurd (h ',' hmem) (by simp [hcomma])
  | some c =>
    obtain ⟨item, ⟨front, back, rfl, hfront, hback⟩, hnamed⟩ := h
    simp only [List.mem_append] at hmem
    rcases hmem with (hmem | hmem) | hmem
    · exact absurd (hfront ',' hmem) (by simp [hcomma])
    · exact absurd (hnamed.isAlpha ',' hmem) (by decide)
    · exact absurd (hback ',' hmem) (by simp [hcomma])

/-- The channels of some pieces. -/
def parsePieces (pieces : List (List Char)) : Except String (List Channel) :=
  parseItems ((pieces.map trimChars).filter fun item => !item.isEmpty)

theorem parseList_eq (list : String) : parseList list = parsePieces (list.toList.splitOn ',') := by
  unfold parseList items
  rw [Text.splitChars_eq]
  rfl

variable {pieces rest : List (List Char)}

/-- What a piece stands for comes before what the others do. -/
theorem parsePieces_cons {entry : Option Channel} (h : StandsFor piece entry) :
    parsePieces (piece :: rest) = (parsePieces rest).map (entry.toList ++ ·) := by
  unfold parsePieces
  rw [List.map_cons]
  cases entry with
  | none =>
    rw [Text.trimChars_eq_nil_iff.2 h]
    show parseItems ((rest.map trimChars).filter _) = (parseItems _).map _
    cases parseItems ((rest.map trimChars).filter fun item => !item.isEmpty) <;> rfl
  | some c =>
    have hnamed := standsFor_some_iff.1 h
    rw [List.filter_cons_of_pos (by simpa using hnamed.ne_nil), parseItems,
      parse_eq_ok_iff.2 hnamed]
    dsimp only
    cases parseItems ((rest.map trimChars).filter fun item => !item.isEmpty) <;> rfl

theorem parsePieces_cons_unknown {text : String} (h : IsUnknown piece text) :
    parsePieces (piece :: rest) = .error text := by
  obtain ⟨hne, hunknown⟩ := isUnknown_iff.1 h
  unfold parsePieces
  rw [List.map_cons, List.filter_cons_of_pos (by simpa using hne), parseItems,
    parse_eq_error_iff.2 hunknown]

/-- Each piece stands for something or is unknown. -/
theorem standsFor_or_isUnknown (piece : List Char) :
    (∃ entry, StandsFor piece entry) ∨ ∃ text, IsUnknown piece text := by
  by_cases hblank : trimChars piece = []
  · exact .inl ⟨none, Text.trimChars_eq_nil_iff.1 hblank⟩
  by_cases hnamed : ∃ c, IsNamed c (trimChars piece)
  · obtain ⟨c, hc⟩ := hnamed
    exact .inl ⟨some c, standsFor_some_iff.2 hc⟩
  · exact .inr ⟨_, isUnknown_iff.2 ⟨hblank, not_exists.1 hnamed, rfl⟩⟩

/-! ## Lists -/

theorem reduceOption_cons (entry : Option Channel) (entries : List (Option Channel)) :
    (entry :: entries).reduceOption = entry.toList ++ entries.reduceOption := by
  cases entry <;> simp

/-- Some pieces are read exactly if each stands for something. -/
theorem parsePieces_eq_ok_iff {cs : List Channel} :
    parsePieces pieces = .ok cs ↔
      ∃ entries, List.Forall₂ StandsFor pieces entries ∧ cs = entries.reduceOption := by
  induction pieces generalizing cs with
  | nil =>
    constructor
    · intro h
      cases h
      exact ⟨[], .nil, rfl⟩
    · rintro ⟨entries, hentries, rfl⟩
      cases hentries
      rfl
  | cons piece rest ih =>
    constructor
    · intro h
      rcases standsFor_or_isUnknown piece with ⟨entry, hentry⟩ | ⟨text, hunknown⟩
      · rw [parsePieces_cons hentry, map_eq_ok] at h
        obtain ⟨cs, hrest, rfl⟩ := h
        obtain ⟨entries, hentries, rfl⟩ := ih.1 hrest
        exact ⟨entry :: entries, .cons hentry hentries, (reduceOption_cons ..).symm⟩
      · rw [parsePieces_cons_unknown hunknown] at h
        cases h
    · rintro ⟨_, hentries, rfl⟩
      cases hentries with
      | @cons _ entry _ entries hentry hentries =>
        rw [parsePieces_cons hentry, ih.2 ⟨entries, hentries, rfl⟩, reduceOption_cons]
        rfl

/-- Some pieces are refused for the first that is unknown. -/
theorem parsePieces_eq_error_iff {text : String} :
    parsePieces pieces = .error text ↔
      ∃ before piece after, pieces = before ++ piece :: after ∧
        (∃ entries, List.Forall₂ StandsFor before entries) ∧ IsUnknown piece text := by
  induction pieces with
  | nil =>
    constructor
    · intro h
      cases h
    · rintro ⟨before, piece, after, hpieces, -⟩
      exact absurd hpieces.symm (by simp)
  | cons piece rest ih =>
    constructor
    · intro h
      rcases standsFor_or_isUnknown piece with ⟨entry, hentry⟩ | ⟨text', hunknown⟩
      · rw [parsePieces_cons hentry, map_eq_error, ih] at h
        obtain ⟨before, unknown, after, rfl, ⟨entries, hentries⟩, hunknown⟩ := h
        exact ⟨piece :: before, unknown, after, rfl, ⟨entry :: entries, .cons hentry hentries⟩,
          hunknown⟩
      · rw [parsePieces_cons_unknown hunknown] at h
        cases h
        exact ⟨[], piece, rest, rfl, ⟨[], .nil⟩, hunknown⟩
    · rintro ⟨before, unknown, after, hpieces, ⟨entries, hentries⟩, hunknown⟩
      cases hentries with
      | nil =>
        obtain ⟨rfl, rfl⟩ := List.cons.inj hpieces
        exact parsePieces_cons_unknown hunknown
      | @cons _ entry before entries hentry hentries =>
        obtain ⟨rfl, rfl⟩ := List.cons.inj hpieces
        have hrest := ih.2 ⟨before, unknown, after, rfl, ⟨entries, hentries⟩, hunknown⟩
        rw [parsePieces_cons hentry, hrest]
        rfl

/-- Some pieces and some more are read one after the other. -/
theorem parsePieces_append (pieces more : List (List Char)) :
    parsePieces (pieces ++ more) =
      parsePieces pieces >>= fun cs => (parsePieces more).map (cs ++ ·) := by
  induction pieces with
  | nil =>
    show parsePieces more = (parsePieces more).map _
    cases parsePieces more <;> rfl
  | cons piece rest ih =>
    rw [List.cons_append]
    rcases standsFor_or_isUnknown piece with ⟨entry, hentry⟩ | ⟨text, hunknown⟩
    · rw [parsePieces_cons hentry, parsePieces_cons hentry, ih]
      cases parsePieces rest with
      | error text => rfl
      | ok cs =>
        show ((parsePieces more).map (cs ++ ·)).map (entry.toList ++ ·) =
          (parsePieces more).map (entry.toList ++ cs ++ ·)
        cases parsePieces more with
        | error text => rfl
        | ok ds => exact congrArg Except.ok (List.append_assoc ..).symm
    · rw [parsePieces_cons_unknown hunknown, parsePieces_cons_unknown hunknown]
      rfl

theorem not_mem_of_standsFor {entries : List (Option Channel)}
    (h : List.Forall₂ StandsFor pieces entries) : ∀ piece ∈ pieces, ',' ∉ piece := by
  induction h with
  | nil => exact nofun
  | cons hentry _ ih => exact List.forall_mem_cons.2 ⟨hentry.not_mem, ih⟩

/-- Pieces that are written one after the other are the pieces that are read. -/
theorem parseList_intercalate {entries : List (Option Channel)}
    (h : List.Forall₂ StandsFor pieces entries) :
    parseList (String.ofList ([','].intercalate pieces)) = .ok entries.reduceOption := by
  rw [parseList_eq, String.toList_ofList]
  by_cases hpieces : pieces = []
  · -- no piece at all reads as one that is empty
    subst hpieces
    cases h
    rfl
  · rw [List.splitOn_intercalate ',' (not_mem_of_standsFor h) hpieces]
    exact parsePieces_eq_ok_iff.2 ⟨entries, h, rfl⟩

theorem parseList_append (a b : String) :
    parseList (a ++ "," ++ b) = parseList a >>= fun cs => (parseList b).map (cs ++ ·) := by
  have hcut : (a ++ "," ++ b).toList.splitOn ',' =
      a.toList.splitOn ',' ++ b.toList.splitOn ',' := by
    rw [String.toList_append, String.toList_append, List.append_assoc]
    exact List.splitOnP_append_cons a.toList b.toList (beq_self_eq_true _)
  rw [parseList_eq, parseList_eq, parseList_eq, hcut, parsePieces_append]

theorem forall₂_names (cs : List Channel) :
    List.Forall₂ StandsFor (cs.map (·.name.toList)) (cs.map some) := by
  induction cs with
  | nil => exact .nil
  | cons c cs ih =>
    have hname : StandsFor c.name.toList (some c) :=
      ⟨c.name.toList, ⟨[], [], by simp, nofun, nofun⟩, isNamed_name c⟩
    exact .cons hname ih

/-- How a list is read.  It is cut at its commas, and reads as the channels
    that its pieces stand for, in their order, if each of them is blank or
    names a channel; else it is refused with the first piece that does
    neither, trimmed and in small letters.  So channels that are written with
    commas between them, each by its name or its alias in any letter case,
    with any blanks around them and blank pieces among them, are read again,
    as are their names as they are printed; and of two lists joined by a
    comma the channels of the one are followed by those of the other. -/
theorem parseList_exact :
    (∀ (list : String) (cs : List Channel), parseList list = .ok cs ↔
      ∃ entries, List.Forall₂ StandsFor (list.toList.splitOn ',') entries ∧
        cs = entries.reduceOption) ∧
    (∀ (list text : String), parseList list = .error text ↔
      ∃ before piece after, list.toList.splitOn ',' = before ++ piece :: after ∧
        (∃ entries, List.Forall₂ StandsFor before entries) ∧ IsUnknown piece text) ∧
    (∀ (pieces : List (List Char)) (entries : List (Option Channel)),
      List.Forall₂ StandsFor pieces entries →
        parseList (String.ofList ([','].intercalate pieces)) = .ok entries.reduceOption) ∧
    (∀ cs : List Channel,
      parseList (String.ofList ([','].intercalate (cs.map (·.name.toList)))) = .ok cs) ∧
    ∀ a b : String,
      parseList (a ++ "," ++ b) = parseList a >>= fun cs => (parseList b).map (cs ++ ·) := by
  refine ⟨fun list cs => ?_, fun list text => ?_, fun pieces entries h => ?_, fun cs => ?_,
    parseList_append⟩
  · rw [parseList_eq]
    exact parsePieces_eq_ok_iff
  · rw [parseList_eq]
    exact parsePieces_eq_error_iff
  · exact parseList_intercalate h
  · have hcs : (cs.map some).reduceOption = cs := by
      simp [List.reduceOption, List.filterMap_map]
    rw [parseList_intercalate (forall₂_names cs), hcs]

/-- An alias, a blank piece and two names, with capitals and blanks. -/
theorem parseList_exact_mixed :
    let pieces := [" BunDle".toList, "\t ".toList, "RPC \n".toList, "bloxroute".toList]
    let entries := [some .blockEngine, none, some .direct, some .paidRelay]
    List.Forall₂ StandsFor pieces entries ∧
      parseList (String.ofList ([','].intercalate pieces)) = .ok entries.reduceOption := by
  intro pieces entries
  have hnamed {piece : List Char} {c : Channel} (h : parse (trimChars piece) = .ok c) :
      StandsFor piece (some c) := standsFor_some_iff.2 (parse_eq_ok_iff.1 h)
  have hentries : List.Forall₂ StandsFor pieces entries := by
    refine .cons (hnamed ?_) (.cons ?_ (.cons (hnamed ?_) (.cons (hnamed ?_) .nil)))
    · rfl
    · exact Text.trimChars_eq_nil_iff.1 rfl
    · rfl
    · rfl
  obtain ⟨-, -, hread, -⟩ := parseList_exact
  exact ⟨hentries, hread pieces entries hentries⟩

end PoolWatch.Channel
