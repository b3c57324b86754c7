import PoolWatch.Settings.Basic
import PoolWatch.Text.Letter

/-! # Environment files

    A file of lines `NAME=value` adds variables to an environment that does
    not have them yet.  A value may be quoted and may then go on over
    several lines; outside single quotes a dollar sign puts in the value of
    an earlier variable.  Reading stops at the first entry that does not
    read, and keeps those before it. -/

namespace PoolWatch.EnvFile

/-! ## Entries

    An entry is one line, or several when a quote is open or a line ends in
    a blank or a backslash. -/

/-- Where in a value the end of a line would fall. -/
inductive Mode where
  | plain
  | escape
  | single
  | singleEscape
  | double
  | doubleEscape
  | blank
  | comment
  deriving DecidableEq, Repr

/-- The mode after a character that stands in none of the others. -/
def Mode.ofPlain (c : Char) : Mode :=
  if c = '\\' then .escape
  else if c = '"' then .double
  else if c = '\x27' then .single
  else .plain

/-- The mode after a character. -/
def Mode.step (m : Mode) (c : Char) : Mode :=
  match m with
  | .blank => if c = '#' then .comment else .ofPlain c
  | .escape => .plain
  | .plain => if Text.isBlank c && c ≠ '\n' && c ≠ '\r' then .blank else .ofPlain c
  | .double => if c = '\\' then .doubleEscape else if c = '"' then .plain else .double
  | .doubleEscape => .double
  | .single => if c = '\\' then .singleEscape else if c = '\x27' then .plain else .single
  | .singleEscape => .single
  | .comment => .comment

/-- Scans a line up to a comment: what stands before it, and the mode. -/
def scan (m : Mode) : List Char → List Char × Mode
  | [] => ([], m)
  | c :: rest =>
    match m.step c with
    | .comment => ([], .comment)
    | next =>
      let (kept, last) := scan next rest
      (c :: kept, last)

/-- The lines of a text, each with its line feed. -/
def physicalLines : List Char → List (List Char)
  | [] => []
  | c :: rest =>
    if c = '\n' then [c] :: physicalLines rest
    else
      match physicalLines rest with
      | [] => [[c]]
      | line :: more => (c :: line) :: more

/-- A line without its line end. -/
def dropLineEnd (line : List Char) : List Char :=
  if line.getLast? = some '\n' then
    let line := line.dropLast
    if line.getLast? = some '\r' then line.dropLast else line
  else line

/-- The entries of some lines, up to one that is never finished.  `held` is
    what the entry has so far. -/
def entries (held : List Char) (m : Mode) : List (List Char) → List (Option (List Char))
  | [] => if m = .plain then [] else [none]
  | line :: rest =>
    if ((held ++ line).dropWhile Text.isBlank).head? = some '#' then
      entries [] .plain rest
    else
      match scan m line with
      | (_, .plain) => some (dropLineEnd (held ++ line)) :: entries [] .plain rest
      | (kept, .comment) => some (held ++ kept) :: entries [] .plain rest
      | (_, mode) => entries (held ++ line) mode rest

/-! ## Values -/

/-- How far the name of a variable that is put in has come. -/
inductive Insert where
  | none
  | bare
  | braced
  deriving DecidableEq, Repr

/-- The state of reading a value; output and name are newest first. -/
structure Reading where
  output : List Char
  insert : Insert
  name : List Char
  single : Bool
  double : Bool
  escaped : Bool
  ending : Bool
  finished : Bool

/-- Puts in the variable whose name was read. -/
def Reading.putIn (r : Reading) (known : Environment) : Reading :=
  let value := ((known (String.ofList r.name.reverse)).getD "").toList
  { r with output := value.reverse ++ r.output, name := [] }

/-- Takes a character of a bare name, or the one that ends it. -/
def Reading.bareStep (r : Reading) (known : Environment) (c : Char) : Reading :=
  if Text.isWordChar c then { r with name := c :: r.name }
  else if c = '\x7b' && r.name.isEmpty then { r with insert := .braced }
  else
    let r := r.putIn known
    if c = '$' then { r with insert := .bare }
    else { r with insert := .none, output := c :: r.output }

/-- Takes one character of a value; nothing when it cannot stand there. -/
def Reading.step (r : Reading) (known : Environment) (c : Char) : Option Reading :=
  let put (c : Char) : Reading := { r with output := c :: r.output }
  if r.finished then some r
  else if r.ending then
    if c = ' ' || c = '\t' then some r
    else if c = '#' then some { r with finished := true }
    else none
  else if r.escaped then
    if c = '\\' || c = '\x27' || c = '"' || c = '$' || c = ' ' then
      some { put c with escaped := false }
    else if c = 'n' then some { put '\n' with escaped := false }
    else none
  else if r.single then
    if c = '\x27' then some { r with single := false } else some (put c)
  else if r.insert = .bare then some (r.bareStep known c)
  else if r.insert = .braced then
    if c = '\x7d' then some { r.putIn known with insert := .none }
    else some { r with name := c :: r.name }
  else if c = '$' then some { r with insert := .bare }
  else if r.double then
    if c = '"' then some { r with double := false }
    else if c = '\\' then some { r with escaped := true }
    else some (put c)
  else if c = '\x27' then some { r with single := true }
  else if c = '"' then some { r with double := true }
  else if c = '\\' then some { r with escaped := true }
  else if c = ' ' || c = '\t' then some { r with ending := true }
  else some (put c)

/-- The value that some characters write. -/
def readValue (known : Environment) (cs : List Char) : Option String := do
  let start : Reading := ⟨[], .none, [], false, false, false, false, false⟩
  let r ← cs.foldlM (fun r c => r.step known c) start
  if r.insert = .braced || r.single || r.double then none
  else some (String.ofList (r.putIn known).output.reverse)

/-! ## Names -/

/-- A character of a name after the first. -/
def isKeyChar (c : Char) : Bool :=
  Text.isLetter c || Text.isDigit c || c = '_' || c = '.'

/-- The name at the front of some characters, and what follows it. -/
def readName (cs : List Char) : Option (List Char × List Char) :=
  match cs with
  | [] => none
  | c :: _ =>
    if Text.isLetter c || c = '_' then
      let name := cs.takeWhile isKeyChar
      some (name, (cs.drop name.length).dropWhile Text.isBlank)
    else none

/-- What follows an equals sign and blanks. -/
def afterEquals : List Char → Option (List Char)
  | '=' :: rest => some (rest.dropWhile Text.isBlank)
  | _ => none

/-- The word that may stand in front of a name. -/
def exportWord : List Char := "export".toList

/-- The name of an entry and the characters of its value. -/
def splitEntry (cs : List Char) : Option (List Char × List Char) := do
  let (name, rest) ← readName cs
  match afterEquals rest with
  | some value => pure (name, value)
  | none =>
    if name = exportWord then
      let (name, rest) ← readName rest
      pure (name, ← afterEquals rest)
    else none

/-- Drops the blanks at the end. -/
def dropBlankEnd (cs : List Char) : List Char :=
  (cs.reverse.dropWhile Text.isBlank).reverse

/-- What an entry writes. -/
inductive Entry where
  | nothing
  | unreadable
  | variable (name value : String)
  deriving DecidableEq, Repr

/-- Reads an entry. -/
def readEntry (known : Environment) (entry : List Char) : Entry :=
  let cs := (dropBlankEnd entry).dropWhile Text.isBlank
  if cs.isEmpty || cs.head? = some '#' then .nothing
  else
    match splitEntry cs with
    | none => .unreadable
    | some (name, value) =>
      let name := String.ofList name
      if value.isEmpty || value.head? = some '#' then .variable name ""
      else
        match readValue known value with
        | some value => .variable name value
        | none => .unreadable

/-! ## Files -/

/-- Variables added to an environment, the oldest of a name first in force. -/
def extend (env : Environment) (name value : String) : Environment := fun n =>
  match env n with
  | some v => some v
  | none => if n = name then some value else none

/-- An environment, and what the file's entries so far say by themselves. -/
structure Loaded where
  env : Environment
  said : Environment

/-- The value that is put in for a name: the environment's, else the last one
    that the file gave. -/
def Loaded.known (l : Loaded) : Environment := fun n =>
  if n = "" then none else (l.env n).or (l.said n)

/-- Takes entries in order, up to one that does not read. -/
def loadEntries (l : Loaded) : List (Option (List Char)) → Loaded
  | [] => l
  | none :: _ => l
  | some entry :: rest =>
    match readEntry l.known entry with
    | .nothing => loadEntries l rest
    | .unreadable => l
    | .variable name value =>
      loadEntries
        ⟨extend l.env name value, fun n => if n = name then some value else l.said n⟩ rest

/-- A text without the mark that may stand in front of it. -/
def dropMark : List Char → List Char
  | '\ufeff' :: rest => rest
  | cs => cs

/-- An environment with the variables of a file added. -/
def load (env : Environment) (text : String) : Environment :=
  (loadEntries ⟨env, fun _ => none⟩
    (entries [] .plain (physicalLines (dropMark text.toList)))).env

end PoolWatch.EnvFile
