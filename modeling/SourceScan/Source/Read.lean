import SourceScan.Settings
import SourceScan.Log
import SourceScan.Source.FileTree
import SourceScan.Text.Encoding
import SourceScan.Text.Lines

/-! # Reading files

A file is opened and decoded by a reader, and its text is cut into lines. A tree of files comes with
a reader of its own: it checks first what the settings are, then follows the path, and only then
looks at the encoding and the bytes.
-/

namespace SourceScan

/-- Why a file cannot be turned into lines. -/
inductive ReadError where
  /-- The file cannot be opened or decoded. -/
  | unreadable (path reason : String)
  /-- A setting that names an encoding or a policy is no text. -/
  | notText
  /-- A name holds the character zero. -/
  | zeroCharacter
  | unknownEncoding
  | unknownPolicy
deriving DecidableEq, Repr

/-- Something that opens and decodes files. -/
class Reader (φ : Type) where
  /-- The text of the file at a path, under the settings for its encoding and for the policy on
  bytes that cannot be decoded. -/
  read : φ → (encoding policy : Value) → (path : String) → Except ReadError Text

def unreadableMessage (path reason : String) : String :=
  "Couldn't read source file " ++ path ++ ": " ++ reason

/-- A setting that is a text or nothing. -/
def textSetting : Value → Except ReadError (Option Text)
  | .null => .ok none
  | .text value =>
      if value.contains (Char.ofNat 0) then .error .zeroCharacter else .ok (some value)
  | _ => .error .notText

/-- The setting that holds for the encoding of a file: a name that is given and not empty comes
before the settings. -/
def encodingSetting {ρ : Type} (settings : Settings ρ) (given : Option String) : Value :=
  match given with
  | none | some "" => settings.encoding
  | some name => .text name.toList

/-- Decodes the bytes of a file under the named encoding and policy. Without a name the encoding is
the standard one and the policy is strict. -/
def decodeFile (path : String) (encoding policy : Option Text) (bytes : List UInt8) :
    Except ReadError Text :=
  match encoding.elim (some .standard) Encoding.named? with
  | none => .error .unknownEncoding
  | some encoding =>
      match encoding.decode (policy.elim .strict ErrorPolicy.named) bytes with
      | .ok text => .ok text
      | .error (.flaw codec position bad flaw) =>
          .error (.unreadable path (flawMessage codec position bad flaw))
      | .error .unknownPolicy => .error .unknownPolicy

/-- The text of a file in a tree. Only some encodings and policies are known, and no file outside of
the tree. -/
def FileTree.readText (tree : FileTree) (encoding policy : Value) (path : String) :
    Except ReadError Text := do
  let encoding ← textSetting encoding
  let policy ← textSetting policy
  if path.toList.contains (Char.ofNat 0) then throw .zeroCharacter
  let normal := Path.parse path.toList
  match tree.read normal with
  | .error error => throw (.unreadable path (error.reason normal))
  | .ok bytes => decodeFile path encoding policy bytes

instance : Reader FileTree := ⟨FileTree.readText⟩

/-- The lines of a file, and the report that it was read. -/
def readLines {φ ρ : Type} [Reader φ] (files : φ) (settings : Settings ρ) (path : String)
    (encoding : Option String) : Except ReadError (List Text × Event) := do
  let text ← Reader.read files (encodingSetting settings encoding) settings.errors path
  let lines := text.lines
  return (lines, .read (Path.parse path.toList).display lines.length)

end SourceScan
