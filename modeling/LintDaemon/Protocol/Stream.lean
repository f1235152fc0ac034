import LintDaemon.Protocol.Request
import LintDaemon.Text.Utf8

/-!
# Reading requests from a stream

A stream is what a client has sent and how it goes on: the client has closed, or no more comes and
the time for reading runs out. This is the framer of section 4.2 of the specification
(`read_command`, `read_body`).

* `Stream.ofBytes`: the lines of what a client sent, with bytes that are no text replaced and
  all line ends written as line feeds.
* `Stream.read`: the first request of a stream and what remains of it.
* `Stream.readsToEnd`: whether more would have to come for the first request to be complete. What
  happens then to a client that is waited for without a limit, or whose connection breaks, is told
  in `Connection.serve`.

A request for diagnostics goes on behind its header, up to the sentinel line. Its source is read
even if the header is refused, so that nothing of it is taken for a further request.

Scope: a stream is told as a whole, not in the parts in which it arrives, so that a pause between
two parts is not seen; the size of a request is not bounded (section 4.2).
-/

namespace LintDaemon

open LintDaemon.Text

/-- How a stream goes on behind what has been sent. -/
inductive Ending
  /-- The client has closed. -/
  | closed
  /-- No more comes, and the time for reading runs out. -/
  | stalled
  deriving DecidableEq, Repr

/-- What a client has sent and how it goes on. -/
structure Stream where
  /-- The lines that can be read, each with its line feed; the last one of a closed stream may
  lack it. -/
  lines : List (List Char)
  /-- How the stream goes on. -/
  ending : Ending
  deriving DecidableEq, Repr

namespace Stream

/-- A line without its line feed. -/
def withoutEnd (line : List Char) : List Char :=
  match line.getLast? with
  | some '\n' => line.dropLast
  | _ => line

/-- The lines of a text that has ended. -/
def closed (text : List Char) : Stream :=
  ⟨linesWithEnds (normalizeNewlines text), .closed⟩

/-- The complete lines of a text that may go on. A carriage return at the end is held back, since
it may be the first half of a line end. -/
def stalled (text : List Char) : Stream :=
  let lines := linesWithEnds (normalizeNewlines (withoutLastReturn text))
  ⟨lines.filter (·.getLast? == some '\n'), .stalled⟩

/-- The stream of the bytes that a client sent. -/
def ofBytes (bytes : List UInt8) : Ending → Stream
  | .closed => closed (Utf8.decodeLossy bytes)
  | .stalled => stalled (Utf8.decodeHeldBack bytes)

/-- What has not been read yet. -/
def unread (s : Stream) : List Char :=
  s.lines.flatten

/-- How the reading of a source ended. -/
inductive Body
  /-- At the sentinel, with the source before it. -/
  | complete (text : List Char)
  /-- Without a sentinel. -/
  | incomplete
  deriving DecidableEq, Repr

/-- A source with one more line at its start. -/
def Body.cons (line : List Char) : Body → Body
  | .complete text => .complete (line ++ '\n' :: text)
  | .incomplete => .incomplete

/-- The source up to the sentinel line, and the lines behind it. -/
def readBody : List (List Char) → Body × List (List Char)
  | [] => (.incomplete, [])
  | line :: rest =>
    let line := withoutEnd line
    if line = Request.sentinel then (.complete [], rest)
    else
      let (body, rest) := readBody rest
      (body.cons line, rest)

/-- A lint request with the source that was read for it. -/
def withBody (ending : Ending) (header : List Char) (body : Body) : Request → Request
  | .lint name _ =>
    match body, ending with
    | .complete text, _ => .lint name (String.ofList text)
    | .incomplete, .closed => .malformed (String.ofList header) .bodyEnded
    | .incomplete, .stalled => .malformed (String.ofList header) .bodyTimedOut
  | request => request

/-- Whether reading the first request of a stream of complete lines goes on to the end of the
stream: there is no header, or one of a lint and no sentinel behind it. -/
def readsToEnd (s : Stream) : Bool :=
  match s.lines with
  | [] => true
  | first :: rest =>
    Request.methodOf (withoutEnd first) == Request.lintMethod && (readBody rest).1 == .incomplete

/-- The first request of a stream, and what remains of the stream; none if the client closed
without sending anything. -/
def read (s : Stream) : Option Request × Stream :=
  match s.lines, s.ending with
  | [], .closed => (none, s)
  | [], .stalled => (some (.malformed "" .headerTimedOut), s)
  | first :: rest, ending =>
    let header := withoutEnd first
    let request := Request.ofHeader header
    if Request.methodOf header = Request.lintMethod then
      let (body, rest) := readBody rest
      (some (withBody ending header body request), ⟨rest, ending⟩)
    else (some request, ⟨rest, ending⟩)

/-- The requests of a stream, at most `max` of them, and what remains of it. After the end of the
stream has been met once nothing more is read; the end is part of the list. -/
def readMany : Nat → Stream → List (Option Request) × Stream
  | 0, s => ([], s)
  | max + 1, s =>
    match s.read with
    | (none, s) => ([none], s)
    | (some request, s) =>
      let (requests, s) := readMany max s
      (some request :: requests, s)

end Stream

end LintDaemon
