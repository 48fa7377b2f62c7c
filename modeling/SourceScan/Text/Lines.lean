import SourceScan.Text.Basic

/-! # Lines of a text

A line ends at a line feed, at a carriage return, or at a carriage return followed by a line feed.
The lines carry no terminator, and a terminator at the very end opens no further line.
-/

namespace SourceScan

/-- The lines of a text, whichever of the three terminators end them. -/
def Text.lines : Text → List Text
  | [] => []
  | '\r' :: '\n' :: rest => [] :: Text.lines rest
  | '\r' :: rest => [] :: Text.lines rest
  | '\n' :: rest => [] :: Text.lines rest
  | c :: rest =>
      match Text.lines rest with
      | [] => [[c]]
      | line :: lines => (c :: line) :: lines

end SourceScan
