import SourceScan.Cursor
import SourceScan.Parser

/-! # Sessions

A session is a parser at work: the contexts of settings around it, a cursor with a saved place to
go back to, and a stream that is held on to while others take its place.
-/

namespace SourceScan

variable {σ ρ φ : Type}

/-- A parser with its surroundings. -/
structure Session (σ ρ : Type) (φ : Type := FileTree) where
  parser : Parser σ ρ
  settings : SettingsStack ρ := {}
  /-- The files that can be read. -/
  files : φ
  cursor : Cursor := {}
  savedCursor : Cursor := {}
  /-- The tokens held on to, unless they are those of the current stream itself. -/
  detached : Option TokenStream := none

namespace Session

/-- Lets a parser that has a new stream take over; the stream held on to stays as it is. -/
def install (session : Session σ ρ φ) (parser : Parser σ ρ) : Session σ ρ φ :=
  { session with
    parser
    detached := some (session.detached.getD session.parser.stream) }

def setStream (session : Session σ ρ φ) (stream : TokenStream) : Session σ ρ φ :=
  session.install { session.parser with stream }

def hold (session : Session σ ρ φ) : Session σ ρ φ := { session with detached := none }

def held (session : Session σ ρ φ) : TokenStream := session.detached.getD session.parser.stream

def holdsCurrent (session : Session σ ρ φ) : Bool := session.detached.isNone

/-- Makes the stream held on to the current one again. -/
def restoreHeld (session : Session σ ρ φ) : Session σ ρ φ :=
  { session with parser := { session.parser with stream := session.held }, detached := none }

/-- The session after a parse. A file that cannot be read leaves the stream in place. -/
def accept (session : Session σ ρ φ) (parse : Parse σ ρ) : Session σ ρ φ :=
  match parse.failure with
  | some (.unreadable _) => { session with parser := parse.parser }
  | _ => session.install parse.parser

/-- Changes the tokens of the current stream in place. -/
def modifyStream (session : Session σ ρ φ) (stream : TokenStream) : Session σ ρ φ :=
  { session with parser := { session.parser with stream } }

/-- The topics that a reading comes to show. It goes along with topics added later, until all are
dropped; the second argument has the topics after each later step. -/
def followTopics : (topics : Option (List Value)) → (later : List (Option (List Value))) →
    Option (List Value)
  | some _, some longer :: later => followTopics (some longer) later
  | topics, _ => topics

def modifyScopes (session : Session σ ρ φ) (scopes : ScopeTracker) : Session σ ρ φ :=
  { session with parser := { session.parser with scopes } }

end Session

end SourceScan
