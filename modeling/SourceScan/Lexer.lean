import SourceScan.Comment.Construct
import SourceScan.Comment.Run
import SourceScan.Log
import SourceScan.TokenStream

/-! # Lexing

A pass works through the constructs of a source in order. It puts the tokens of each into the
stream, and for a comment it then counts a run and hands it to the sink. A sink that refuses ends
the pass there: what was placed and counted up to and with the refused run stays.
-/

namespace SourceScan

structure Placed where
  lineno : Nat
  construct : Construct
deriving DecidableEq, Repr

namespace Placed

/-- The run that a construct delivers, if it is a comment. -/
def run? (placed : Placed) : Option CommentRun :=
  match placed.construct with
  | .code _ => none
  | .lineComment first more isDoc => some ⟨first :: more, placed.lineno, isDoc⟩
  | .blockComment _ block isDoc =>
      match block.verdict with
      | .accepted => some ⟨block.entries, placed.lineno, isDoc⟩
      | .keptLine | .keptTail _ => none

/-- The report that a construct makes, if it is a block comment that is not delivered. -/
def report? (placed : Placed) : Option Event :=
  match placed.construct with
  | .code _ | .lineComment .. => none
  | .blockComment _ block _ =>
      match block.verdict with
      | .accepted => none
      | .keptLine => some (.keptLine placed.lineno)
      | .keptTail _ => some (.keptTail placed.lineno)

def tokens (placed : Placed) : List Token := placed.construct.tokens

end Placed

/-- Constructs with their line numbers, the first of them on a given line. -/
def place : Nat → List Construct → List Placed
  | _, [] => []
  | lineno, construct :: rest => ⟨lineno, construct⟩ :: place (lineno + construct.height) rest

/-- The constructs of lines with their line numbers, which start at one. -/
def placedConstructs (style : CommentStyle) (lines : List Text) : List Placed :=
  place 1 (constructs style lines)

variable {σ : Type} [Sink σ]

/-- How far a pass came: the constructs it worked through, the refused one included, the sink
afterwards, and its error. -/
structure Delivery (σ : Type) where
  taken : List Placed
  sink : Option σ
  failure : Option CallbackError

/-- Hands a run to the sink, if there is one. -/
def offer (sink : Option σ) (run : CommentRun) : Option σ × Option CallbackError :=
  match sink with
  | none => (none, none)
  | some receiver =>
      let (receiver, failure) := Sink.receive receiver run
      (some receiver, failure)

/-- Works through constructs until a run is refused. -/
def deliver (sink : Option σ) : List Placed → Delivery σ
  | [] => ⟨[], sink, none⟩
  | placed :: rest =>
      let (sink, failure) := match placed.run? with
        | some run => offer sink run
        | none => (sink, none)
      match failure with
      | some error => ⟨[placed], sink, some error⟩
      | none =>
          let delivery := deliver sink rest
          { delivery with taken := placed :: delivery.taken }

structure Lexer where
  lines : List Text
  style : CommentStyle := .bare
  file : Option String := none

/-- What a lexer has done so far: the stream it fills, the runs it counted, the block comments it
kept as code, and the sink. -/
structure Progress (σ : Type) where
  stream : TokenStream := .empty
  delivered : Nat := 0
  kept : Nat := 0
  sink : Option σ

structure Pass (σ : Type) where
  progress : Progress σ
  log : List Event
  failure : Option CallbackError

namespace Lexer

/-- One pass over all lines. The closing report is made only if no run was refused. -/
def tokenize (lexer : Lexer) (progress : Progress σ) : Pass σ :=
  let delivery := deliver progress.sink (placedConstructs lexer.style lexer.lines)
  let reports := delivery.taken.filterMap Placed.report?
  let delivered := progress.delivered + (delivery.taken.filterMap Placed.run?).length
  let kept := progress.kept + reports.length
  { progress :=
      { stream := progress.stream.append (delivery.taken.flatMap Placed.tokens)
        delivered, kept, sink := delivery.sink }
    log := match delivery.failure with
      | none => reports ++ [.split lexer.file lexer.lines.length delivered kept]
      | some _ => reports
    failure := delivery.failure }

/-- Passes one after another, each going on from what the one before left. -/
def passes (lexer : Lexer) : Nat → Progress σ → List (Pass σ)
  | 0, _ => []
  | times + 1, progress =>
      let pass := lexer.tokenize progress
      pass :: passes lexer times pass.progress

end Lexer

end SourceScan
