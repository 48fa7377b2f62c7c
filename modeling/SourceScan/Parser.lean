import SourceScan.Lexer
import SourceScan.Scope.Tracker
import SourceScan.Source.Read

/-! # Parsers

A parser holds what belongs to one source at a time: its tokens, its scopes, and the topics found
in it. Parsing another source drops all three first, so nothing of a source is left when the next
one fails halfway.
-/

namespace SourceScan

variable {σ ρ : Type}

/-- The engine that parsers of languages build on. -/
structure Parser (σ ρ : Type) where
  /-- The style to use whatever the settings say. -/
  style : Option CommentStyle := none
  sink : Option σ := none
  file : Option String := none
  naming : Naming := .nearest
  /-- A preprocessor of this parser's own, before that of the settings. -/
  prepare : Option ρ := none
  stream : TokenStream := .empty
  scopes : ScopeTracker := .fresh
  topics : Option (List Value) := none

inductive ParseError where
  | callback (error : CallbackError)
  | unreadable (error : ReadError)
  /-- The settings have no style but some other value in its place. -/
  | unusableStyle
deriving DecidableEq, Repr

/-- A parser after it was given a source. -/
structure Parse (σ ρ : Type) where
  parser : Parser σ ρ
  log : List Event
  failure : Option ParseError

namespace Parser

/-- A parser without anything of the last source. -/
def cleared (parser : Parser σ ρ) : Parser σ ρ :=
  { parser with stream := .empty, scopes := .fresh, topics := none }

/-- The style that holds for a parser under settings. -/
def styleUnder (parser : Parser σ ρ) (settings : Settings ρ) : StyleSetting :=
  match parser.style with
  | some style => .usable (some style)
  | none => settings.style

/-- Splits the comments out of lines and cuts the rest into tokens. -/
def scan [Sink σ] (parser : Parser σ ρ) (style : CommentStyle) (lines : List Text) :
    Parse σ ρ :=
  let lexer : Lexer := { lines, style, file := parser.file }
  let pass := lexer.tokenize { stream := parser.stream, sink := parser.sink }
  let progress := pass.progress
  { parser := { parser with stream := progress.stream, sink := progress.sink }
    log := match pass.failure with
      | none => pass.log
          ++ [.parsed parser.file lines.length progress.stream.length progress.delivered]
      | some _ => pass.log
    failure := pass.failure.map .callback }

/-- Parses lines: drops the last source, preprocesses the lines, and scans them. -/
def parseLines [Sink σ] [Preprocessor ρ] (parser : Parser σ ρ) (settings : Settings ρ)
    (lines : List Text) : Parse σ ρ :=
  let parser := parser.cleared
  match preprocess parser.prepare lines >>= preprocess settings.preprocessor with
  | .error error => ⟨parser, [], some (.callback error)⟩
  | .ok lines =>
      match parser.styleUnder settings with
      | .usable style => parser.scan (style.getD .bare) lines
      | .unusable _ =>
          if lines = [] then parser.scan .bare lines else ⟨parser, [], some .unusableStyle⟩

def parseText [Sink σ] [Preprocessor ρ] (parser : Parser σ ρ) (settings : Settings ρ)
    (text : Text) : Parse σ ρ :=
  parser.parseLines settings text.lines

/-- Parses a file. The parser takes the name of the file even if it cannot be read, but then keeps
the last source. -/
def parseFile {φ : Type} [Sink σ] [Preprocessor ρ] [Reader φ] (parser : Parser σ ρ) (files : φ)
    (settings : Settings ρ) (path : String) : Parse σ ρ :=
  let parser := { parser with file := some path }
  match readLines files settings path none with
  | .error error => ⟨parser, [], some (.unreadable error)⟩
  | .ok (lines, event) =>
      let parse := parser.parseLines settings lines
      { parse with log := event :: parse.log }

def addTopic (parser : Parser σ ρ) (topic : Value) : Parser σ ρ :=
  { parser with topics := some (parser.topics.getD [] ++ [topic]) }

end Parser

end SourceScan
