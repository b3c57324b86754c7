import PoolWatch.Proofs.Json.Words
import PoolWatch.Proofs.Text.Utf8

/-! # Printed documents read back

    A document is plain when its strings are texts and its numbers integers.
    These are the documents that records are written as.  The compact text
    of a plain document is cut into its words (`reads_chars`), the machine
    takes these words to the document (`run_tokensOf`), and so reading gives
    the document back (`parse?_compact`). -/

namespace PoolWatch

namespace Json

/-! ## Plain documents -/

mutual

/-- All strings are texts and all numbers integers. -/
def Plain : Json → Prop
  | .null => True
  | .bool _ => True
  | .number n => n.isInteger = true
  | .string s => s.isSome = true
  | .array items => PlainItems items
  | .object members => PlainMembers members

/-- Every item is plain. -/
def PlainItems : List Json → Prop
  | [] => True
  | item :: rest => Plain item ∧ PlainItems rest

/-- Every member has a name that is a text, and a plain value. -/
def PlainMembers : List (Option String × Json) → Prop
  | [] => True
  | (name, value) :: rest => name.isSome = true ∧ Plain value ∧ PlainMembers rest

end

theorem plainItems_iff (items : List Json) : PlainItems items ↔ ∀ j ∈ items, Plain j := by
  induction items with
  | nil => simp [PlainItems]
  | cons item rest ih => simp [PlainItems, ih]

theorem plain_array {items : List Json} (h : ∀ j ∈ items, Plain j) : Plain (.array items) :=
  (plainItems_iff items).2 h

theorem plain_record {members : List (String × Json)} (h : ∀ m ∈ members, Plain m.2) :
    Plain (record members) := by
  unfold record
  rw [Plain]
  induction members with
  | nil => trivial
  | cons m rest ih =>
    refine ⟨rfl, h m (List.mem_cons_self ..), ?_⟩
    exact ih fun m' hm' => h m' (List.mem_cons_of_mem m hm')

@[simp] theorem plain_text (s : String) : Plain (text s) := rfl

@[simp] theorem plain_nat (n : Nat) : Plain (nat n) := rfl

@[simp] theorem plain_int (n : Int) : Plain (int n) := rfl

/-! ## Words of a document -/

mutual

/-- The words that a document is printed as. -/
def tokensOf : Json → List Token
  | .null => [.null]
  | .bool b => [.bool b]
  | .number n => [.number n]
  | .string s => [.string s]
  | .array [] => [.openArray, .closeArray]
  | .array (item :: rest) => .openArray :: (tokensOf item ++ itemTokens rest)
  | .object [] => [.openObject, .closeObject]
  | .object ((name, value) :: rest) =>
    .openObject :: .string name :: .colon :: (tokensOf value ++ memberTokens rest)

/-- The words of the items after the first. -/
def itemTokens : List Json → List Token
  | [] => [.closeArray]
  | item :: rest => .comma :: (tokensOf item ++ itemTokens rest)

/-- The words of the members after the first. -/
def memberTokens : List (Option String × Json) → List Token
  | [] => [.closeObject]
  | (name, value) :: rest =>
    .comma :: .string name :: .colon :: (tokensOf value ++ memberTokens rest)

end

/-! ## Cutting -/

/-- A punctuation mark or literal in front of a text that is read. -/
theorem Reads.mark (word : List Char) {rest : List Char} {token : Token} {ts : List Token}
    (hscan : scanToken (word ++ rest) = some (token, rest))
    (hfirst : (word.head?.map isSpace) = some false) (h : Reads rest ts) :
    Reads (word ++ rest) (token :: ts) := by
  cases word with
  | nil => simp at hfirst
  | cons c cs => exact .word hscan ⟨c, cs, rfl, by simpa using hfirst⟩ h

theorem stops_itemChars (items : List Json) (rest : List Char) :
    Stops (itemChars items ++ rest) := by
  intro c hc
  cases items with
  | nil =>
    simp only [itemChars, List.cons_append, List.head?_cons, Option.mem_some_iff] at hc
    subst hc
    decide
  | cons item items =>
    simp only [itemChars, List.cons_append, List.head?_cons, Option.mem_some_iff] at hc
    subst hc
    decide

theorem stops_memberChars (members : List (Option String × Json)) (rest : List Char) :
    Stops (memberChars members ++ rest) := by
  intro c hc
  rcases members with _ | ⟨⟨name, value⟩, members⟩ <;>
    · simp only [memberChars, List.cons_append, List.head?_cons, Option.mem_some_iff] at hc
      subst hc
      decide

mutual

/-- The text of a plain document is cut into its words. -/
theorem reads_chars (j : Json) (hj : Plain j) {rest : List Char} {ts : List Token}
    (hrest : Stops rest) (h : Reads rest ts) : Reads (chars j ++ rest) (tokensOf j ++ ts) := by
  match j with
  | .null =>
    rw [chars, tokensOf]
    exact .mark _ rfl rfl h
  | .bool true =>
    rw [chars, tokensOf]
    exact .mark _ rfl rfl h
  | .bool false =>
    rw [chars, tokensOf]
    exact .mark _ rfl rfl h
  | .number n =>
    rw [chars, tokensOf]
    exact .number hj hrest h
  | .string s =>
    rw [Plain, Option.isSome_iff_exists] at hj
    obtain ⟨s, rfl⟩ := hj
    rw [chars, tokensOf]
    exact .string s h
  | .array [] =>
    rw [chars, tokensOf]
    exact .mark ['['] rfl rfl (.mark [']'] rfl rfl h)
  | .array (item :: items) =>
    -- from the back: the items after the first, the first, and the bracket
    obtain ⟨hitem, hitems⟩ := hj
    have htail := reads_itemChars items hitems h
    have hbody := reads_chars item hitem (stops_itemChars items rest) htail
    rw [chars, tokensOf]
    simp only [List.cons_append, List.append_assoc]
    exact .mark ['['] rfl rfl hbody
  | .object [] =>
    rw [chars, tokensOf]
    exact .mark ['\x7b'] rfl rfl (.mark ['\x7d'] rfl rfl h)
  | .object ((name, value) :: members) =>
    obtain ⟨hname, hvalue, hmembers⟩ := hj
    rw [Option.isSome_iff_exists] at hname
    obtain ⟨name, rfl⟩ := hname
    have htail := reads_memberChars members hmembers h
    have hbody := reads_chars value hvalue (stops_memberChars members rest) htail
    have hcolon := Reads.mark [':'] rfl rfl hbody
    rw [chars, tokensOf]
    simp only [List.cons_append, List.append_assoc]
    exact .mark ['\x7b'] rfl rfl (.string name hcolon)

/-- The text of the items after the first is cut into their words. -/
theorem reads_itemChars (items : List Json) (hitems : PlainItems items) {rest : List Char}
    {ts : List Token} (h : Reads rest ts) :
    Reads (itemChars items ++ rest) (itemTokens items ++ ts) := by
  match items with
  | [] =>
    rw [itemChars, itemTokens]
    exact .mark [']'] rfl rfl h
  | item :: items =>
    obtain ⟨hitem, hitems⟩ := hitems
    have htail := reads_itemChars items hitems h
    have hbody := reads_chars item hitem (stops_itemChars items rest) htail
    rw [itemChars, itemTokens]
    simp only [List.cons_append, List.append_assoc]
    exact .mark [','] rfl rfl hbody

/-- The text of the members after the first is cut into their words. -/
theorem reads_memberChars (members : List (Option String × Json)) (hmembers : PlainMembers members)
    {rest : List Char} {ts : List Token} (h : Reads rest ts) :
    Reads (memberChars members ++ rest) (memberTokens members ++ ts) := by
  match members with
  | [] =>
    rw [memberChars, memberTokens]
    exact .mark ['\x7d'] rfl rfl h
  | (name, value) :: members =>
    obtain ⟨hname, hvalue, hmembers⟩ := hmembers
    rw [Option.isSome_iff_exists] at hname
    obtain ⟨name, rfl⟩ := hname
    have htail := reads_memberChars members hmembers h
    have hbody := reads_chars value hvalue (stops_memberChars members rest) htail
    have hcolon := Reads.mark [':'] rfl rfl hbody
    rw [memberChars, memberTokens]
    simp only [List.cons_append, List.append_assoc]
    exact .mark [','] rfl rfl (.string name hcolon)

end

/-! ## Assembling -/

mutual

/-- The machine takes the words of a document to the document. -/
theorem run_tokensOf (j : Json) (opened : List Frame) (fresh : Bool) (ts : List Token) :
    (Position.value opened fresh).run (tokensOf j ++ ts) = (Position.after opened j).run ts := by
  match j with
  | .null => rw [tokensOf]; rfl
  | .bool b => rw [tokensOf]; rfl
  | .number n => rw [tokensOf]; rfl
  | .string s => rw [tokensOf]; rfl
  | .array [] => rw [tokensOf]; rfl
  | .array (item :: items) =>
    rw [tokensOf, List.cons_append, List.append_assoc]
    have hitem := run_tokensOf item (.items [] :: opened) true (itemTokens items ++ ts)
    exact hitem.trans (run_itemTokens items opened [] item ts)
  | .object [] => rw [tokensOf]; rfl
  | .object ((name, value) :: members) =>
    rw [tokensOf]
    simp only [List.cons_append, List.append_assoc]
    have hvalue :=
      run_tokensOf value (.members [] name :: opened) false (memberTokens members ++ ts)
    exact hvalue.trans (run_memberTokens members opened [] name value ts)

/-- The machine takes the words of the items after the first to the array. -/
theorem run_itemTokens (items : List Json) (opened : List Frame) (rev : List Json) (v : Json)
    (ts : List Token) :
    (Position.after (.items rev :: opened) v).run (itemTokens items ++ ts) =
      (Position.after opened (.array (rev.reverse ++ v :: items))).run ts := by
  match items with
  | [] =>
    have harray : (v :: rev).reverse = rev.reverse ++ [v] := List.reverse_cons
    rw [itemTokens, ← harray]
    rfl
  | item :: items =>
    rw [itemTokens, List.cons_append, List.append_assoc]
    have hitem := run_tokensOf item (.items (v :: rev) :: opened) false (itemTokens items ++ ts)
    -- the value at hand joins the items before it, and the next one takes its place
    have hitems := run_itemTokens items opened (v :: rev) item ts
    rw [List.reverse_cons, List.append_assoc, List.singleton_append] at hitems
    exact hitem.trans hitems

/-- The machine takes the words of the members after the first to the object. -/
theorem run_memberTokens (members : List (Option String × Json)) (opened : List Frame)
    (rev : List (Option String × Json)) (key : Option String) (v : Json) (ts : List Token) :
    (Position.after (.members rev key :: opened) v).run (memberTokens members ++ ts) =
      (Position.after opened (.object (rev.reverse ++ (key, v) :: members))).run ts := by
  match members with
  | [] =>
    have hobject : ((key, v) :: rev).reverse = rev.reverse ++ [(key, v)] := List.reverse_cons
    rw [memberTokens, ← hobject]
    rfl
  | (name, value) :: members =>
    rw [memberTokens]
    simp only [List.cons_append, List.append_assoc]
    have hvalue :=
      run_tokensOf value (.members ((key, v) :: rev) name :: opened) false
        (memberTokens members ++ ts)
    have hmembers := run_memberTokens members opened ((key, v) :: rev) name value ts
    rw [List.reverse_cons, List.append_assoc, List.singleton_append] at hmembers
    exact hvalue.trans hmembers

end

/-! ## Reading -/

theorem parseChars?_chars {j : Json} (hj : Plain j) : parseChars? (chars j) = some j := by
  -- first the words, then the run over them
  have hreads := reads_chars j hj stops_nil reads_nil
  have hrun := run_tokensOf j [] false []
  rw [List.append_nil, List.append_nil] at hreads
  rw [List.append_nil] at hrun
  rw [parseChars?, tokens?_of_reads hreads, Option.bind_some, parseTokens?]
  simp only [Option.bind_eq_bind, Option.bind_some, hrun, Position.run, Option.pure_def]

/-- The compact text of a plain document reads as the document. -/
theorem parse?_compact {j : Json} (hj : Plain j) : parse? j.compact = some j := by
  rw [parse?, compact, String.toList_ofList, parseChars?_chars hj]

/-! ## Bytes -/

theorem Token.agreed_self (token : Token) : token.agreed token = token := by
  cases token with
  | string s => exact congrArg Token.string (if_pos rfl)
  | _ => rfl

/-- Bytes that are text write the document that the text writes. -/
theorem parseBytes?_of_text {bytes : Bytes} {text : String}
    (h : Text.Utf8.decode? bytes = some text) : parseBytes? bytes = parse? text := by
  -- without a mark both readings are the text
  have hwords : tokensOfBytes? bytes = tokens? text.toList := by
    unfold tokensOfBytes?
    rw [Text.Utf8.lenientChars_of_decode? _ h, Text.Utf8.lenientChars_of_decode? _ h]
    cases tokens? text.toList with
    | none => rfl
    | some tokens =>
      show some (List.zipWith Token.agreed tokens tokens) = some tokens
      rw [List.zipWith_self, List.map_congr_left fun token _ => Token.agreed_self token,
        List.map_id']
  unfold parseBytes? parse? parseChars?
  rw [hwords]

end Json

end PoolWatch
