/-! # Debug messages

What the scanner reports while it works, as events; each belongs to a logger and has its words.
-/

namespace SourceScan

/-- The name that messages use for lines that belong to no file. -/
def sourceName (file : Option String) : String :=
  match file with
  | none | some "" => "<lines>"
  | some name => name

/-- Something worth a debug message. -/
inductive Event where
  /-- A block comment over several lines had code behind its closer. -/
  | keptTail (lineno : Nat)
  /-- A block comment on one line had code behind its closer. -/
  | keptLine (lineno : Nat)
  /-- A pass over lines is complete; the totals are those of the lexer. -/
  | split (file : Option String) (lines runs kept : Nat)
  /-- A source is parsed. -/
  | parsed (file : Option String) (lines tokens runs : Nat)
  /-- A file is read. -/
  | read (path : String) (lines : Nat)
deriving DecidableEq, Repr

namespace Event

def logger : Event → String
  | .keptTail _ | .keptLine _ | .split .. => "scopelex.lexer.core"
  | .parsed .. => "scopelex.parser"
  | .read .. => "scopelex.source"

def message : Event → String
  | .keptTail lineno => "Block comment at line " ++ toString lineno
      ++ " has code after its closer; keeping the code"
  | .keptLine lineno => "Block comment at line " ++ toString lineno
      ++ " is followed by code on the same line; keeping the whole line as code"
  | .split file lines runs kept => "Split " ++ sourceName file ++ ": " ++ toString lines
      ++ " lines, " ++ toString runs ++ " comment runs, " ++ toString kept
      ++ " block comments kept as code"
  | .parsed file lines tokens runs => "Parsed " ++ sourceName file ++ ": " ++ toString lines
      ++ " lines, " ++ toString tokens ++ " tokens, " ++ toString runs ++ " comment runs"
  | .read path lines => "Read " ++ toString lines ++ " lines from " ++ path

end Event

def loggerRoot : String := "scopelex"

/-- The name of a logger: a name outside the root is put under it. -/
def loggerName (name : String) : String :=
  if name = loggerRoot ∨ name.startsWith (loggerRoot ++ ".") then name
  else loggerRoot ++ "." ++ name

end SourceScan
