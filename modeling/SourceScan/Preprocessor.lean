import SourceScan.Comment.Run

/-! # Preprocessors

A preprocessor changes the lines of a source before comments are looked for. Line edits are
ready-made ones that can be written down as texts.
-/

namespace SourceScan

/-- Something that changes lines, or fails. -/
class Preprocessor (ρ : Type) where
  process : ρ → List Text → Except CallbackError (List Text)

/-- The lines that a preprocessor makes of lines, if there is one. -/
def preprocess {ρ : Type} [Preprocessor ρ] (preprocessor : Option ρ) (lines : List Text) :
    Except CallbackError (List Text) :=
  match preprocessor with
  | none => .ok lines
  | some preprocessor => Preprocessor.process preprocessor lines

/-- A change of lines that can be written down. -/
inductive LineEdit where
  | append (line : Text)
  | insert (line : Text)
  | reverse
  | replace (pattern new : Text)
  | clear
  | fail
deriving DecidableEq, Repr

namespace LineEdit

/-- The lines that an edit makes of lines. -/
def apply : LineEdit → List Text → Except CallbackError (List Text)
  | append line, lines => .ok (lines ++ [line])
  | insert line, lines => .ok (line :: lines)
  | reverse, lines => .ok lines.reverse
  | replace pattern new, lines => .ok (lines.map (Text.replace pattern new))
  | clear, _ => .ok []
  | fail, _ => .error .preprocessor

instance : Preprocessor LineEdit := ⟨apply⟩

/-- An edit written down: its name and its texts. -/
def toTexts : LineEdit → List Text
  | append line => ["append".toList, line]
  | insert line => ["insert".toList, line]
  | reverse => ["reverse".toList]
  | replace pattern new => ["replace".toList, pattern, new]
  | clear => ["clear".toList]
  | fail => ["fail".toList]

def ofTexts? : List Text → Option LineEdit
  | [] => none
  | name :: arguments =>
      match String.ofList name, arguments with
      | "append", [line] => some (append line)
      | "insert", [line] => some (insert line)
      | "reverse", [] => some reverse
      | "replace", [pattern, new] => some (replace pattern new)
      | "clear", [] => some clear
      | "fail", [] => some fail
      | _, _ => none

end LineEdit

end SourceScan
