import PoolWatch.Text.Blank
import PoolWatch.Text.Utf8
import PoolWatch.Watcher.Crew

/-! # The feed

    Envelopes arrive as a stream of bytes, one JSON text a line.  Blank lines
    are passed over and malformed ones are told of and skipped; neither has
    an effect on any other line.  A line that is no text at all ends the
    feed.

    What was read is queued for a crew of workers. -/

namespace PoolWatch.Watcher

namespace Feed

/-! ## Lines -/

/-- What one line of the feed holds. -/
inductive Line where
  | blank
  | malformed
  | unreadable
  | envelope (e : Envelope)
  deriving DecidableEq

/-- The bytes between line feeds. -/
def splitLines (stream : Bytes) : List Bytes :=
  stream.splitOn 0x0A

/-- What a line of bytes holds. -/
def lineOf (bytes : Bytes) : Line :=
  match Text.Utf8.decode? bytes with
  | none => .unreadable
  | some text =>
    if text.toList.all Text.isBlank then .blank
    else
      match Envelope.parse? text with
      | some e => .envelope e
      | none => .malformed

/-- The lines of a stream. -/
def lines (stream : Bytes) : List Line :=
  (splitLines stream).map lineOf

/-! ## Reading -/

/-- What was read of a stream: the envelopes queued, what was told meanwhile,
    and how many envelopes there were.  Reading that ends at a line that is
    no text gives no number. -/
structure Reading where
  queued : List Envelope
  notices : List Notice
  count? : Option Nat
  deriving DecidableEq

/-- Whether reading ended at a line that is no text. -/
def Reading.broken (r : Reading) : Bool :=
  r.count?.isNone

/-- What is said of a line that is no envelope, up to the detail that the
    JSON reader adds. -/
def malformedText : String := "skipping malformed envelope"

/-- What is said when no one takes envelopes any more. -/
def closedText : String := "pipeline queue closed, feed stopping"

/-- What is said of a line that is no text. -/
def brokenText : String := "stream did not contain valid UTF-8"

/-- Reads lines into the queue; a closed queue ends the feed at the first
    envelope. -/
def read (queueOpen : Bool) : List Line → Reading
  | [] => ⟨[], [], some 0⟩
  | .blank :: rest => read queueOpen rest
  | .malformed :: rest =>
    let reading := read queueOpen rest
    { reading with notices := .warn malformedText :: reading.notices }
  | .unreadable :: _ => ⟨[], [], none⟩
  | .envelope e :: rest =>
    if queueOpen then
      let reading := read queueOpen rest
      { reading with queued := e :: reading.queued, count? := reading.count?.map (· + 1) }
    else ⟨[], [.warn closedText], some 0⟩

end Feed

/-! ## Handling -/

/-- Tells several things in order. -/
def tellAll : List Notice → StateM State Unit
  | [] => pure ()
  | notice :: rest => do
    tell notice
    tellAll rest

/-- Reads a stream, and lets a crew handle what it queued. -/
def runFeed (s : Setup) (crew : Crew) (stream : Bytes) : StateM State Feed.Reading := do
  let reading := Feed.read true (Feed.lines stream)
  tellAll reading.notices
  crew.handleAll s reading.queued
  pure reading

end PoolWatch.Watcher
