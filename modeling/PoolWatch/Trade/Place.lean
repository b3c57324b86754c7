import PoolWatch.Files
import PoolWatch.Text.Hex
import PoolWatch.Text.Utf8

/-! # Places of a history

    A setting says where the trade history is kept: in a file, or nowhere, in
    which case it is lost when the run ends.  A file may be named by its path
    or by an address with the scheme of files, options of which limit what
    may be done with it. -/

namespace PoolWatch.Trade

/-- What may be done with a file. -/
inductive Access where
  | reading
  | writing
  | creating
  deriving DecidableEq, Repr

/-- A number that says how much an access allows. -/
def Access.rank : Access → Nat
  | .reading => 1
  | .writing => 2
  | .creating => 6

/-- Where a history is kept. -/
inductive Place where
  | nowhere (access : Access)
  | file (path : Path) (access : Access)
  deriving DecidableEq, Repr

namespace Place

/-! ## Addresses of files -/

/-- The value of a hexadecimal digit of either case. -/
def hexValue? (c : Char) : Option Nat :=
  Text.Hex.value? (Text.lowerChar c)

/-- A text with its per cent escapes replaced by the characters they stand
    for; an escaped zero ends it. -/
def unescape : List Char → List Char
  | '%' :: a :: b :: rest =>
    match hexValue? a, hexValue? b with
    | some x, some y =>
      if 16 * x + y = 0 then [] else Char.ofNat (16 * x + y) :: unescape rest
    | _, _ => '%' :: unescape (a :: b :: rest)
  | c :: rest => c :: unescape rest
  | [] => []

/-- What follows the scheme of files. -/
def afterScheme? : List Char → Option (List Char)
  | 'f' :: 'i' :: 'l' :: 'e' :: ':' :: rest => some rest
  | _ => none

/-- What follows the host, which has to be this machine. -/
def afterHost? : List Char → Option (List Char)
  | '/' :: '/' :: rest =>
    let host := rest.takeWhile (· ≠ '/')
    if host.isEmpty ∨ host = "localhost".toList then some (rest.drop host.length) else none
  | rest => some rest

/-- The options of an address: names and values. -/
def options (query : List Char) : List (String × String) :=
  (Text.splitChars '&' query).filterMap fun item =>
    let name := item.takeWhile (· ≠ '=')
    if name.isEmpty then none
    else
      some (String.ofList (unescape name), String.ofList (unescape (item.drop (name.length + 1))))

/-- What the options so far ask for: an access, or else to be kept in memory. -/
abbrev Asked := Option Access

/-- The ways to open a file that an option may ask for. -/
def modes : List (String × Asked) :=
  [("ro", some .reading), ("rw", some .writing), ("rwc", some .creating), ("memory", none)]

/-- The ways to share what is read of a file. -/
def cacheModes : List String := ["shared", "private"]

/-- The ways to lock a file. -/
def systems : List String := ["unix", "unix-none", "unix-dotfile", "unix-excl"]

/-- Takes one option; nothing when it asks for what is not there, or for more
    access than an option before it. -/
def takeOption (asked : Asked) : String × String → Option Asked
  | ("mode", value) =>
    match modes.lookup value with
    | none => none
    | some none => some none
    | some (some access) =>
      match asked with
      | some before => if before.rank < access.rank then none else some (some access)
      | none => some (some access)
  | ("cache", value) => if cacheModes.contains value then some asked else none
  | ("vfs", value) => if systems.contains value then some asked else none
  | _ => some asked

/-! ## Places -/

/-- The name of a history that is kept in memory. -/
def memoryName : String := ":memory:"

/-- The place that a file's name stands for. -/
def ofName (name : String) (asked : Asked) : Place :=
  match asked with
  | none => .nowhere .creating
  | some access =>
    if name = "" ∨ name = memoryName then .nowhere access else .file (.ofText name) access

/-- The place that a text names; nothing when it is no place. -/
def ofText? (text : String) : Option Place :=
  match afterScheme? text.toList with
  | none => some (ofName text (some .creating))
  | some rest => do
    let rest ← afterHost? (rest.takeWhile (· ≠ '#'))
    let name := rest.takeWhile (· ≠ '?')
    let asked ← (options (rest.drop (name.length + 1))).foldlM takeOption (some .creating)
    pure (ofName (String.ofList (unescape name)) asked)

/-! ## Opening -/

/-- Why a history could not be opened. -/
inductive Fault where
  | closed
  | notHistory
  deriving DecidableEq, Repr

/-- What a file that keeps a history starts with. -/
def mark : Bytes := Text.Utf8.encode "SQLite format 3\x00"

/-- What is added to the name of a file for the journals beside it. -/
def journalEnding : String := "-journal"

/-- Whether a new file may stand at a path. -/
def mayCreate (disk : Disk) (path : Path) : Bool :=
  disk path.parent = some .directory &&
    path.names.all fun name => name.utf8ByteSize ≤ Disk.maxName

/-- Whether a journal may stand beside a file. -/
def mayJournal (path : Path) : Bool :=
  match path.names.getLast? with
  | some name => (name ++ journalEnding).utf8ByteSize ≤ Disk.maxName
  | none => false

/-- Whether the table of a history may be put into what is there. -/
def mayHold (content : Bytes) : Bool :=
  content.isEmpty || mark.isPrefixOf content

/-- Opens the history at a place.  Only a new or empty file, or one that
    starts like a history, holds one; and it has to be written to. -/
def check (disk : Disk) : Place → Except Fault Unit
  | .nowhere access => if access = .reading then .error .notHistory else .ok ()
  | .file path access =>
    let opened : Option Bytes :=
      match disk path with
      | some .directory => none
      | some (.file content) => some content
      | none => if access = .creating ∧ mayCreate disk path then some [] else none
    match opened with
    | none => .error .closed
    | some content =>
      if access ≠ .reading ∧ mayJournal path ∧ mayHold content then .ok () else .error .notHistory

end Place

end PoolWatch.Trade
