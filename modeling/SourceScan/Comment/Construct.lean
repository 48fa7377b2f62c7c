import SourceScan.Comment.Opening
import SourceScan.Token

/-! # Constructs

Lines fall into constructs: single lines of code, runs of line comments, and block comments. A
block comment with code behind its closer is no comment to be delivered. If it closed on its first
line, that whole line is kept as code, so that annotations stay visible; else only the code behind
the closer is kept. Each construct leaves a line break for each of its lines.
-/

namespace SourceScan

/-- A block comment as it stands in its lines. -/
structure Block where
  /-- The texts of its lines but the last. -/
  above : List Text
  /-- The text of its last line, up to the closer. -/
  last : Text
  /-- What stands behind the closer, unless the lines ran out before one came. -/
  tail? : Option Text
deriving DecidableEq, Repr

/-- What becomes of a block comment. -/
inductive Verdict where
  /-- It is a comment. -/
  | accepted
  /-- Its only line is code. -/
  | keptLine
  /-- The text behind its closer is code. -/
  | keptTail (tail : Text)
deriving DecidableEq, Repr

namespace Block

/-- The block comment that a text begins and later lines continue, up to the first closer. -/
def read (closer : Marker) : Text → List Text → Block
  | text, following =>
      match Text.splitAt? closer.text text with
      | some (before, tail) => ⟨[], before, some tail⟩
      | none =>
          match following with
          | [] => ⟨[], text, none⟩
          | next :: rest =>
              let block := read closer next rest
              { block with above := text :: block.above }

def entries (block : Block) : List Text := block.above ++ [block.last]

/-- Nothing but blanks may stand behind the closer of a comment. -/
def verdict (block : Block) : Verdict :=
  match block.tail? with
  | none => .accepted
  | some tail =>
      if tail.all isBlank then .accepted
      else if block.above = [] then .keptLine
      else .keptTail tail

end Block

/-- Lines that belong together. -/
inductive Construct where
  /-- A line of code. -/
  | code (line : Text)
  /-- A run of line comments without their markers. -/
  | lineComment (first : Text) (more : List Text) (isDoc : Bool)
  /-- A block comment that begins on a given line. -/
  | blockComment (line : Text) (block : Block) (isDoc : Bool)
deriving DecidableEq, Repr

namespace Construct

def extra : Construct → Nat
  | .code _ => 0
  | .lineComment _ more _ => more.length
  | .blockComment _ block _ => block.above.length

def height (construct : Construct) : Nat := construct.extra + 1

def tokens (construct : Construct) : List Token :=
  match construct with
  | .code line => lineTokens line
  | .lineComment .. => List.replicate construct.height Token.lineBreak
  | .blockComment line block _ =>
      match block.verdict with
      | .accepted => List.replicate construct.height Token.lineBreak
      | .keptLine => lineTokens line
      | .keptTail tail => List.replicate construct.extra Token.lineBreak ++ lineTokens tail

/-- The lines that go on with a run of line comments, without their markers. -/
def lineRun (style : CommentStyle) : List Text → List Text
  | [] => []
  | line :: rest =>
      match Opening.lineBody? style line with
      | some body => body :: lineRun style rest
      | none => []

/-- The construct that begins on a line. -/
def read (style : CommentStyle) (line : Text) (following : List Text) : Construct :=
  match Opening.ofLine style line with
  | .code => .code line
  | .lineComment body isDoc => .lineComment body (lineRun style following) isDoc
  | .blockComment body closer isDoc =>
      .blockComment line (Block.read closer body following) isDoc

end Construct

/-- The constructs of lines, from the first line on. -/
def constructs (style : CommentStyle) : List Text → List Construct
  | [] => []
  | line :: following =>
      let construct := Construct.read style line following
      construct :: constructs style (following.drop construct.extra)
termination_by lines => lines.length
decreasing_by
  simp only [List.length_drop, List.length_cons]
  omega

end SourceScan
