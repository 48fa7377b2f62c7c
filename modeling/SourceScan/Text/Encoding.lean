import SourceScan.Text.Basic
import SourceScan.Text.Literal

/-! # Text encodings

Bytes are cut into pieces, each of which is one character or one flaw: the longest run of bytes
that no character can start with. An error policy then says what becomes of the flaws.
-/

namespace SourceScan

/-- The encodings a file can be read under. -/
inductive Encoding where
  /-- UTF-8; a byte order mark is a character like any other. -/
  | utf8
  /-- UTF-8 behind an optional byte order mark that is no part of the text. -/
  | markedUtf8
  | ascii
  /-- One byte is one character of the same number. -/
  | latin1
deriving DecidableEq, Repr

/-- What a decoder does about bytes that are no character. -/
inductive ErrorPolicy where
  /-- The first flaw is an error. -/
  | strict
  /-- A flaw becomes one replacement character. -/
  | replace
  /-- A flaw is left out. -/
  | ignore
  /-- A policy of another name; it is looked up when the first flaw is met. -/
  | unknown
deriving DecidableEq, Repr

inductive Flaw where
  | invalidStart
  | invalidContinuation
  | unexpectedEnd
  | outsideAscii
deriving DecidableEq, Repr

/-- Bytes that stand for one character or for none. -/
structure Piece where
  bytes : List UInt8
  reading : Except Flaw Char

/-- Why a file cannot be decoded. -/
inductive DecodeError where
  /-- Bytes at a position that are no character under a strict policy. -/
  | flaw (codec : String) (position : Nat) (bytes : List UInt8) (flaw : Flaw)
  /-- The policy named for flaws does not exist. -/
  | unknownPolicy

namespace Encoding

/-- A character that began and still lacks bytes; the next one lies between the two bounds. -/
structure Pending where
  bytes : List UInt8
  missing : Nat
  low : Nat
  high : Nat
  value : Nat

/-- The piece or the unfinished character that a byte begins. The bounds on the second byte keep
out overlong forms, surrogates and numbers above U+10FFFF. -/
def start (byte : UInt8) : Piece ⊕ Pending :=
  let n := byte.toNat
  if n < 0x80 then .inl ⟨[byte], .ok (Char.ofNat n)⟩
  else if n < 0xC2 then .inl ⟨[byte], .error .invalidStart⟩
  else if n < 0xE0 then .inr ⟨[byte], 1, 0x80, 0xBF, n - 0xC0⟩
  else if n = 0xE0 then .inr ⟨[byte], 2, 0xA0, 0xBF, 0⟩
  else if n = 0xED then .inr ⟨[byte], 2, 0x80, 0x9F, 0xD⟩
  else if n < 0xF0 then .inr ⟨[byte], 2, 0x80, 0xBF, n - 0xE0⟩
  else if n = 0xF0 then .inr ⟨[byte], 3, 0x90, 0xBF, 0⟩
  else if n < 0xF4 then .inr ⟨[byte], 3, 0x80, 0xBF, n - 0xF0⟩
  else if n = 0xF4 then .inr ⟨[byte], 3, 0x80, 0x8F, 4⟩
  else .inl ⟨[byte], .error .invalidStart⟩

/-- An unfinished character with one more byte, or the character that the byte completes. -/
def Pending.take (pending : Pending) (byte : UInt8) : Piece ⊕ Pending :=
  let bytes := pending.bytes ++ [byte]
  let value := pending.value * 0x40 + (byte.toNat - 0x80)
  if pending.missing = 1 then .inl ⟨bytes, .ok (Char.ofNat value)⟩
  else .inr ⟨bytes, pending.missing - 1, 0x80, 0xBF, value⟩

/-- The pieces of bytes in UTF-8 that follow an unfinished character, if there is one. A byte that
cannot continue the character ends it as a flaw and begins a piece of its own. -/
def utf8Pieces : Option Pending → List UInt8 → List Piece
  | none, [] => []
  | some pending, [] => [⟨pending.bytes, .error .unexpectedEnd⟩]
  | none, byte :: rest =>
      match start byte with
      | .inl piece => piece :: utf8Pieces none rest
      | .inr pending => utf8Pieces (some pending) rest
  | some pending, byte :: rest =>
      if pending.low ≤ byte.toNat ∧ byte.toNat ≤ pending.high then
        match pending.take byte with
        | .inl piece => piece :: utf8Pieces none rest
        | .inr longer => utf8Pieces (some longer) rest
      else ⟨pending.bytes, .error .invalidContinuation⟩ ::
        match start byte with
        | .inl piece => piece :: utf8Pieces none rest
        | .inr other => utf8Pieces (some other) rest

def byteOrderMark : List UInt8 := [0xEF, 0xBB, 0xBF]

/-- Bytes without a leading byte order mark. Bytes that end inside a mark hold nothing else. -/
def dropMark (bytes : List UInt8) : List UInt8 :=
  if bytes.isPrefixOf byteOrderMark then []
  else if byteOrderMark.isPrefixOf bytes then bytes.drop 3
  else bytes

/-- The characters and flaws of bytes under an encoding. -/
def pieces (encoding : Encoding) (bytes : List UInt8) : List Piece :=
  match encoding with
  | .utf8 => utf8Pieces none bytes
  | .markedUtf8 => utf8Pieces none (dropMark bytes)
  | .ascii => bytes.map fun byte =>
      ⟨[byte], if byte.toNat < 0x80 then .ok (Char.ofNat byte.toNat) else .error .outsideAscii⟩
  | .latin1 => bytes.map fun byte => ⟨[byte], .ok (Char.ofNat byte.toNat)⟩

def codec : Encoding → String
  | .utf8 | .markedUtf8 => "utf-8"
  | .ascii => "ascii"
  | .latin1 => "latin-1"

/-- The text of pieces from a position on, with the flaws settled by the policy. -/
def settle (codec : String) (policy : ErrorPolicy) : Nat → List Piece → Except DecodeError Text
  | _, [] => .ok []
  | position, piece :: rest =>
      let remaining := settle codec policy (position + piece.bytes.length) rest
      match piece.reading with
      | .ok c => remaining.map (c :: ·)
      | .error flaw =>
          match policy with
          | .strict => .error (.flaw codec position piece.bytes flaw)
          | .replace => remaining.map (Char.ofNat 0xFFFD :: ·)
          | .ignore => remaining
          | .unknown => .error .unknownPolicy

/-- The text of bytes. Positions count from behind a byte order mark that is left out. -/
def decode (encoding : Encoding) (policy : ErrorPolicy) (bytes : List UInt8) :
    Except DecodeError Text :=
  settle encoding.codec policy 0 (encoding.pieces bytes)

/-- A name in lower case with one underscore for each run of characters that are no letter, digit
or point, and none at the ends. -/
def normalize (name : Text) : Text :=
  let spaced := name.map fun c => if c.isAlphanum || c == '.' then c.toLower else ' '
  "_".toList.intercalate ((spaced.splitOnP (· == ' ')).filter (!·.isEmpty))

def mainName : Encoding → String
  | .utf8 => "utf_8"
  | .markedUtf8 => "utf_8_sig"
  | .ascii => "ascii"
  | .latin1 => "latin_1"

/-- The other names of each encoding in their normal form. -/
def aliases : Encoding → List String
  | .utf8 => ["u8", "utf", "utf8", "utf8_ucs2", "utf8_ucs4", "cp65001"]
  | .markedUtf8 => []
  | .ascii => ["646", "ansi_x3.4_1968", "ansi_x3_4_1968", "ansi_x3.4_1986", "cp367", "csascii",
      "ibm367", "iso646_us", "iso_646.irv_1991", "iso_ir_6", "us", "us_ascii"]
  | .latin1 => ["8859", "cp819", "csisolatin1", "ibm819", "iso8859", "iso8859_1", "iso_8859_1",
      "iso_8859_1_1987", "iso_ir_100", "l1", "latin", "latin1"]

/-- Whether a name in its normal form is one of an encoding's names. Points may stand for the
underscores of an alias, but not for those of the first name. -/
def answersTo (encoding : Encoding) (normal : Text) : Bool :=
  let spaced := normal.map fun c => if c == '.' then '_' else c
  String.ofList normal == encoding.mainName || encoding.aliases.contains (String.ofList normal)
    || encoding.aliases.contains (String.ofList spaced)

def standard : Encoding := .utf8

/-- The encoding that a name stands for. One name, written in just this way, leaves the choice to
the surroundings, which settle on the standard encoding. -/
def named? (name : Text) : Option Encoding :=
  if name = "locale".toList then some standard
  else [utf8, markedUtf8, ascii, latin1].find? (·.answersTo (normalize name))

end Encoding

/-- The policy that a name stands for. -/
def ErrorPolicy.named (name : Text) : ErrorPolicy :=
  if name = "strict".toList then .strict
  else if name = "replace".toList then .replace
  else if name = "ignore".toList then .ignore
  else .unknown

def Flaw.message : Flaw → String
  | .invalidStart => "invalid start byte"
  | .invalidContinuation => "invalid continuation byte"
  | .unexpectedEnd => "unexpected end of data"
  | .outsideAscii => "ordinal not in range(128)"

/-- The words for bytes that are no character: one byte is shown, several by their positions. -/
def flawMessage (codec : String) (position : Nat) (bytes : List UInt8) (flaw : Flaw) : String :=
  let place := match bytes with
    | [byte] => "byte 0x" ++ String.ofList (Text.hexadecimal 2 byte.toNat) ++ " in position "
        ++ toString position
    | _ => "bytes in position " ++ toString position ++ "-"
        ++ toString (position + bytes.length - 1)
  String.ofList [Text.singleQuote] ++ codec ++ String.ofList [Text.singleQuote]
    ++ " codec can't decode " ++ place ++ ": " ++ flaw.message

end SourceScan
