import PoolWatch.Proofs.Json.RoundTrip

/-! # Blanks between words

    A document may be written with any blanks before, between and after its
    words.  A numeral is the only word that could run into the next one, and
    in the words of a document only punctuation follows it (`Legible`).  So
    however the words of a plain document are laid out, they are read as the
    document (`parseChars?_laid`). -/

namespace PoolWatch

namespace Json

/-! ## Laying out words -/

/-- How a word is written. -/
def tokenChars : Token → List Char
  | .openArray => ['[']
  | .closeArray => [']']
  | .openObject => ['\x7b']
  | .closeObject => ['\x7d']
  | .comma => [',']
  | .colon => [':']
  | .null => ['n', 'u', 'l', 'l']
  | .bool true => ['t', 'r', 'u', 'e']
  | .bool false => ['f', 'a', 'l', 's', 'e']
  | .number n => numeralChars n
  | .string s => stringChars (s.getD "")

/-- Nothing but blanks. -/
def AllBlank (cs : List Char) : Prop :=
  ∀ c ∈ cs, isSpace c = true

/-- The words in turn, with any blanks around them. -/
inductive Laid : List Token → List Char → Prop where
  | nil {blanks : List Char} : AllBlank blanks → Laid [] blanks
  | cons {blanks : List Char} {token : Token} {ts : List Token} {cs : List Char} :
      AllBlank blanks → Laid ts cs → Laid (token :: ts) (blanks ++ (tokenChars token ++ cs))

/-- The words in turn, each with a blank in front of it. -/
def spaced (ts : List Token) : List Char :=
  ts.flatMap fun token => ' ' :: tokenChars token

theorem laid_spaced (ts : List Token) : Laid ts (spaced ts) := by
  induction ts with
  | nil => exact .nil nofun
  | cons token ts ih =>
    have hblank : AllBlank [' '] := by
      intro c hc
      rw [List.mem_singleton.1 hc]
      rfl
    exact .cons hblank ih

/-! ## Words that can be told apart -/

/-- A word that may follow a value. -/
def Token.Closes : Token → Prop
  | .closeArray => True
  | .closeObject => True
  | .comma => True
  | _ => False

/-- A word that is read as it was written: a text, or an integer before a
    word that may follow a value. -/
def Token.LegibleBefore (ts : List Token) : Token → Prop
  | .number n => n.isInteger = true ∧ ∀ token ∈ ts.head?, token.Closes
  | .string s => s.isSome = true
  | _ => True

/-- Words each of which is read as it was written. -/
def Legible : List Token → Prop
  | [] => True
  | token :: ts => token.LegibleBefore ts ∧ Legible ts

theorem closes_head?_itemTokens (items : List Json) (ts : List Token) :
    ∀ token ∈ (itemTokens items ++ ts).head?, token.Closes := by
  intro token htoken
  cases items <;>
    · simp only [itemTokens, List.cons_append, List.head?_cons, Option.mem_some_iff] at htoken
      subst htoken
      trivial

theorem closes_head?_memberTokens (members : List (Option String × Json)) (ts : List Token) :
    ∀ token ∈ (memberTokens members ++ ts).head?, token.Closes := by
  intro token htoken
  rcases members with _ | ⟨⟨name, value⟩, members⟩ <;>
    · simp only [memberTokens, List.cons_append, List.head?_cons, Option.mem_some_iff] at htoken
      subst htoken
      trivial

mutual

/-- The words of a plain document can be told apart. -/
theorem legible_tokensOf (j : Json) (hj : Plain j) {ts : List Token}
    (hnext : ∀ token ∈ ts.head?, token.Closes) (h : Legible ts) : Legible (tokensOf j ++ ts) := by
  match j with
  | .null => rw [tokensOf]; exact ⟨trivial, h⟩
  | .bool b => rw [tokensOf]; exact ⟨trivial, h⟩
  | .number n => rw [tokensOf]; exact ⟨⟨hj, hnext⟩, h⟩
  | .string s => rw [tokensOf]; exact ⟨hj, h⟩
  | .array [] => rw [tokensOf]; exact ⟨trivial, trivial, h⟩
  | .array (item :: items) =>
    obtain ⟨hitem, hitems⟩ := hj
    have htail := legible_itemTokens items hitems h
    rw [tokensOf, List.cons_append, List.append_assoc]
    exact ⟨trivial, legible_tokensOf item hitem (closes_head?_itemTokens items ts) htail⟩
  | .object [] => rw [tokensOf]; exact ⟨trivial, trivial, h⟩
  | .object ((name, value) :: members) =>
    obtain ⟨hname, hvalue, hmembers⟩ := hj
    have htail := legible_memberTokens members hmembers h
    rw [tokensOf]
    simp only [List.cons_append, List.append_assoc]
    exact ⟨trivial, hname, trivial,
      legible_tokensOf value hvalue (closes_head?_memberTokens members ts) htail⟩

theorem legible_itemTokens (items : List Json) (hitems : PlainItems items) {ts : List Token}
    (h : Legible ts) : Legible (itemTokens items ++ ts) := by
  match items with
  | [] => rw [itemTokens]; exact ⟨trivial, h⟩
  | item :: items =>
    obtain ⟨hitem, hitems⟩ := hitems
    have htail := legible_itemTokens items hitems h
    rw [itemTokens, List.cons_append, List.append_assoc]
    exact ⟨trivial, legible_tokensOf item hitem (closes_head?_itemTokens items ts) htail⟩

theorem legible_memberTokens (members : List (Option String × Json))
    (hmembers : PlainMembers members) {ts : List Token} (h : Legible ts) :
    Legible (memberTokens members ++ ts) := by
  match members with
  | [] => rw [memberTokens]; exact ⟨trivial, h⟩
  | (name, value) :: members =>
    obtain ⟨hname, hvalue, hmembers⟩ := hmembers
    have htail := legible_memberTokens members hmembers h
    rw [memberTokens]
    simp only [List.cons_append, List.append_assoc]
    exact ⟨trivial, hname, trivial,
      legible_tokensOf value hvalue (closes_head?_memberTokens members ts) htail⟩

end

/-! ## Cutting -/

/-- Blanks in front of a text fall away. -/
theorem Reads.blanks {blanks cs : List Char} {ts : List Token} (hblank : AllBlank blanks)
    (h : Reads cs ts) : Reads (blanks ++ cs) ts := by
  induction blanks with
  | nil => exact h
  | cons c blanks ih =>
    have hrest := ih fun c' hc' => hblank c' (List.mem_cons_of_mem c hc')
    intro fuel hfuel
    cases fuel with
    | zero => simp at hfuel
    | succ fuel =>
      rw [List.cons_append, tokensWithin, if_pos (hblank c (List.mem_cons_self ..))]
      exact hrest fuel (Nat.le_of_succ_le_succ hfuel)

/-- A numeral runs neither into blanks nor into a word that may follow it. -/
theorem Laid.stops {ts : List Token} {cs : List Char} (h : Laid ts cs)
    (hnext : ∀ token ∈ ts.head?, token.Closes) : Stops cs := by
  have hspace : ∀ c, isSpace c = true → isDigit c = false ∧ c ≠ '.' ∧ c ≠ 'e' ∧ c ≠ 'E' := by
    intro c hc
    simp only [isSpace, Bool.or_eq_true, decide_eq_true_eq] at hc
    rcases hc with ((rfl | rfl) | rfl) | rfl <;> decide
  intro c hc
  cases h with
  | nil hblank => exact hspace c (hblank c (List.mem_of_mem_head? hc))
  | @cons blanks token ts cs hblank hrest =>
    cases blanks with
    | cons b blanks =>
      obtain rfl : b = c := Option.some.inj hc
      exact hspace b (hblank b (List.mem_cons_self ..))
    | nil =>
      have hcloses := hnext token rfl
      cases token with
      | closeArray | closeObject | comma =>
        obtain rfl := Option.some.inj hc
        decide
      | _ => exact hcloses.elim

/-- Legible words are cut as they were laid out. -/
theorem Laid.reads {ts : List Token} {cs : List Char} (h : Laid ts cs) (hts : Legible ts) :
    Reads cs ts := by
  induction h with
  | @nil blanks hblank =>
    rw [← List.append_nil blanks]
    exact reads_nil.blanks hblank
  | @cons blanks token ts cs hblank hlaid ih =>
    obtain ⟨htoken, hrest⟩ := hts
    have hreads := ih hrest
    refine Reads.blanks hblank ?_
    cases token with
    | number n =>
      obtain ⟨hinteger, hnext⟩ := htoken
      exact hreads.number hinteger (hlaid.stops hnext)
    | string s =>
      obtain ⟨s, rfl⟩ := Option.isSome_iff_exists.1 htoken
      exact hreads.string s
    | bool b => cases b <;> exact .mark _ rfl rfl hreads
    | _ => exact .mark _ rfl rfl hreads

/-! ## Reading -/

/-- A plain document is read however its words are laid out. -/
theorem parseChars?_laid {j : Json} (hj : Plain j) {cs : List Char} (h : Laid (tokensOf j) cs) :
    parseChars? cs = some j := by
  have hlegible : Legible (tokensOf j ++ []) := legible_tokensOf j hj nofun trivial
  rw [List.append_nil] at hlegible
  have hrun := run_tokensOf j [] false []
  rw [List.append_nil] at hrun
  rw [parseChars?, tokens?_of_reads (h.reads hlegible), Option.bind_some, parseTokens?]
  simp only [Option.bind_eq_bind, Option.bind_some, hrun, Position.run, Option.pure_def]

end Json

end PoolWatch
