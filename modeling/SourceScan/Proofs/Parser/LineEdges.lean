import Mathlib.Data.List.DropRight
import SourceScan.Cursor
import SourceScan.Parser
import SourceScan.Proofs.Lexer.Spelling
import SourceScan.Proofs.Token.Division

/-! # Edges of lines

In a stream that a parser makes no two whitespace tokens stand side by side, and only a whitespace
token spells nothing but blanks. So it is enough to pass over one whitespace token to see whether
blanks are all that stands between a position and the edge of its line.
-/

namespace SourceScan

/-! ## Blank tokens -/

namespace Token

variable {token next : Token}

/-- Tokens of one kind stand apart whichever of them comes first. -/
theorem Apart.symm (hapart : token.Apart next) : next.Apart token := by
  intro hkind
  rw [hkind]
  exact hapart hkind.symm

theorem Shaped.isWhitespace_iff (hshaped : token.Shaped) :
    token.isWhitespace = true ↔ ∀ c ∈ token.value, isBlank c = true := by
  have hblank : ∀ c ∈ token.value, isBlank c = true ↔ token.kind = .whitespace := by
    intro c hc
    rw [← hshaped.kind_eq c hc, TokenKind.ofChar_eq_whitespace_iff]
  rw [isWhitespace, decide_eq_true_iff]
  constructor
  · exact fun hkind c hc => (hblank c hc).mpr hkind
  · intro hblanks
    obtain ⟨c, hc⟩ := List.exists_mem_of_ne_nil _ hshaped.value_ne_nil
    exact (hblank c hc).mp (hblanks c hc)

theorem isLineBreak_eq_false_of_isWhitespace (hwhite : token.isWhitespace = true) :
    token.isLineBreak = false := by
  rw [isWhitespace, decide_eq_true_iff] at hwhite
  rw [isLineBreak, hwhite]
  rfl

/-- Behind a whitespace token there is no other one. -/
theorem Apart.isWhitespace_eq_false (hapart : token.Apart next)
    (hwhite : token.isWhitespace = true) : next.isWhitespace = false := by
  rw [isWhitespace, decide_eq_true_iff] at hwhite
  refine Bool.eq_false_iff.mpr fun hnext => ?_
  have hrun := hapart (hwhite.trans (of_decide_eq_true hnext).symm)
  rw [hwhite] at hrun
  cases hrun

end Token

/-- Tokens spell blanks only if each of them is a whitespace token. -/
theorem forall_mem_spell_isBlank_iff {tokens : List Token}
    (hshaped : ∀ token ∈ tokens, token.Shaped) :
    (∀ c ∈ spell tokens, isBlank c = true) ↔ ∀ token ∈ tokens, token.isWhitespace = true := by
  induction tokens with
  | nil => simp
  | cons token rest ih =>
      obtain ⟨htoken, hrest⟩ := List.forall_mem_cons.mp hshaped
      rw [spell_cons, List.forall_mem_append, List.forall_mem_cons, ih hrest,
        htoken.isWhitespace_iff]

theorem Cut.reverse {tokens : List Token} (hcut : Cut tokens) : Cut tokens.reverse where
  shaped token htoken := hcut.shaped token (List.mem_reverse.mp htoken)
  isRun token htoken := hcut.isRun token (List.mem_reverse.mp htoken)
  apart := by
    rw [List.isChain_reverse]
    exact hcut.apart.imp fun _ _ => Token.Apart.symm

/-! ## Tokens up to a line break -/

/-- The first tokens, up to a line break. -/
def upToBreak (tokens : List Token) : List Token :=
  tokens.takeWhile fun token => !token.isLineBreak

theorem upToBreak_cons (token : Token) (rest : List Token) :
    upToBreak (token :: rest) = if token.isLineBreak then [] else token :: upToBreak rest := by
  rw [upToBreak, List.takeWhile_cons]
  cases token.isLineBreak <;> rfl

/-- A line whose first token is no whitespace goes on with it unless it ends there. -/
theorem forall_mem_upToBreak_cons_iff {token : Token} (htoken : token.isWhitespace = false)
    (rest : List Token) :
    (∀ other ∈ upToBreak (token :: rest), other.isWhitespace = true) ↔
      token.isLineBreak = true := by
  rw [upToBreak_cons]
  cases hbreak : token.isLineBreak with
  | true => simp
  | false => simp [htoken]

namespace TokenStream

/-- One whitespace token is all that may be passed over, and in tokens that are cut it is all there
can be. -/
theorem endsLineSoon_iff {tokens : List Token} (hcut : Cut tokens) :
    endsLineSoon tokens = true ↔ ∀ c ∈ spell (upToBreak tokens), isBlank c = true := by
  have hshaped : ∀ token ∈ upToBreak tokens, token.Shaped :=
    fun token htoken => hcut.shaped token ((List.takeWhile_prefix _).mem htoken)
  rw [forall_mem_spell_isBlank_iff hshaped]
  cases tokens with
  | nil => simp [endsLineSoon, dropWhitespace, upToBreak]
  | cons token rest =>
      cases hwhite : token.isWhitespace with
      | false =>
          rw [forall_mem_upToBreak_cons_iff hwhite]
          simp [endsLineSoon, dropWhitespace, hwhite]
      | true =>
          have hbreak := Token.isLineBreak_eq_false_of_isWhitespace hwhite
          rw [upToBreak_cons, hbreak, if_neg Bool.false_ne_true, List.forall_mem_cons,
            and_iff_right hwhite]
          cases rest with
          | nil => simp [endsLineSoon, dropWhitespace, hwhite, upToBreak]
          | cons next more =>
              have hnext : next.isWhitespace = false :=
                (List.isChain_cons_cons.mp hcut.apart).1.isWhitespace_eq_false hwhite
              rw [forall_mem_upToBreak_cons_iff hnext]
              simp [endsLineSoon, dropWhitespace, hwhite]

/-- The tokens before a position on its line: those behind the last line break before it, or behind
the start of the stream. -/
def beforeOnLine (stream : TokenStream) (index : Int) : List Token :=
  (stream.tokens.take index.toNat).rtakeWhile fun token => !token.isLineBreak

/-- The tokens behind the one at a position on its line: those before the next line break, or before
the end of the stream. -/
def behindOnLine (stream : TokenStream) (index : Int) : List Token :=
  upToBreak (stream.tokens.drop (index.toNat + 1))

variable {stream : TokenStream} {index : Int}

theorem reaches_iff : stream.reaches index = true ↔ 0 ≤ index ∧ index ≤ stream.length := by
  simp [reaches]

theorem isFirstOfLine_iff (hcut : Cut stream.tokens) :
    stream.isFirstOfLine index = true ↔ (0 ≤ index ∧ index ≤ stream.length) ∧
      ∀ c ∈ spell (stream.beforeOnLine index), isBlank c = true := by
  have hbefore : Cut (stream.tokens.take index.toNat) :=
    hcut.of_infix (List.take_prefix _ _).isInfix
  have hspell : ∀ c, c ∈ spell (stream.beforeOnLine index) ↔
      c ∈ spell (upToBreak (stream.tokens.take index.toNat).reverse) := by
    intro c
    simp only [beforeOnLine, List.rtakeWhile, upToBreak, spell, List.mem_flatMap,
      List.mem_reverse]
  simp only [isFirstOfLine, Bool.and_eq_true, reaches_iff, endsLineSoon_iff hbefore.reverse,
    hspell]

theorem isLastOfLine_iff (hcut : Cut stream.tokens) :
    stream.isLastOfLine index = true ↔ (0 ≤ index ∧ index ≤ stream.length) ∧
      ∀ c ∈ spell (stream.behindOnLine index), isBlank c = true := by
  have hbehind : Cut (stream.tokens.drop (index.toNat + 1)) :=
    hcut.of_infix (List.drop_suffix _ _).isInfix
  rw [isLastOfLine, Bool.and_eq_true, reaches_iff, endsLineSoon_iff hbehind]
  rfl

end TokenStream

/-! ## Streams of a parser -/

variable {σ ρ : Type} [Sink σ]

/-- However far a sink lets a pass come, its tokens are cut as a text is. -/
theorem cut_taken_deliver (sink : Option σ) (style : CommentStyle) (lines : List Text) :
    Cut ((deliver sink (placedConstructs style lines)).taken.flatMap Placed.tokens) := by
  obtain ⟨after, hplaced⟩ := taken_deliver_isPrefix sink (placedConstructs style lines)
  have hall := cut_flatMap_tokens style lines
  rw [← flatMap_tokens_place 1, ← placedConstructs, ← hplaced, List.flatMap_append] at hall
  exact hall.of_infix (List.prefix_append _ _).isInfix

namespace Parser

variable [Preprocessor ρ]

/-- Every stream that a parser makes is cut as a text is, also where the parse fails. -/
theorem cut_parseLines (parser : Parser σ ρ) (settings : Settings ρ) (lines : List Text) :
    Cut (parser.parseLines settings lines).parser.stream.tokens := by
  have hscan : ∀ style lines, Cut (parser.cleared.scan style lines).parser.stream.tokens :=
    fun style lines => cut_taken_deliver parser.sink style lines
  simp only [parseLines]
  split
  next => exact cut_nil
  next lines _ =>
    split
    next style _ => exact hscan _ lines
    next =>
      split
      · exact hscan .bare lines
      · exact cut_nil

/-- In a stream that a parser makes, a position is the first of its line exactly if blanks are all
that stands before it on the line, and the last exactly if blanks are all that stands behind it. -/
theorem parseLines_edges (parser : Parser σ ρ) (settings : Settings ρ) (lines : List Text)
    (index : Int) :
    let stream := (parser.parseLines settings lines).parser.stream
    (stream.isFirstOfLine index = true ↔ (0 ≤ index ∧ index ≤ stream.length) ∧
      ∀ c ∈ spell (stream.beforeOnLine index), isBlank c = true) ∧
    (stream.isLastOfLine index = true ↔ (0 ≤ index ∧ index ≤ stream.length) ∧
      ∀ c ∈ spell (stream.behindOnLine index), isBlank c = true) := by
  intro stream
  have hcut : Cut stream.tokens := parser.cut_parseLines settings lines
  exact ⟨TokenStream.isFirstOfLine_iff hcut, TokenStream.isLastOfLine_iff hcut⟩

/-- A line of code that begins and ends with blanks, above a comment. -/
theorem parseLines_edges_spaced :
    let parser : Parser Collector LineEdit := { style := some .cFamily }
    let stream := (parser.parseLines {} ([" a b ", "// c"].map String.toList)).parser.stream
    stream.tokens.map Token.value = [" ", "a", " ", "b", " ", "\n", "\n"].map String.toList ∧
      stream.isFirstOfLine 1 = true ∧
      (∀ c ∈ spell (stream.beforeOnLine 1), isBlank c = true) ∧
      stream.isLastOfLine 3 = true ∧
      (∀ c ∈ spell (stream.behindOnLine 3), isBlank c = true) ∧
      ¬ ∀ c ∈ spell (stream.behindOnLine 1), isBlank c = true := by
  intro parser stream
  have hedges := fun index => parseLines_edges parser {} ([" a b ", "// c"].map String.toList) index
  have hfirst : stream.isFirstOfLine 1 = true := by decide +kernel
  have hlast : stream.isLastOfLine 3 = true := by decide +kernel
  have hinner : stream.isLastOfLine 1 = false := by decide +kernel
  have hlength : (0 : Int) ≤ 1 ∧ (1 : Int) ≤ stream.length := by decide +kernel
  refine ⟨by decide +kernel, hfirst, ((hedges 1).1.mp hfirst).2, hlast,
    ((hedges 3).2.mp hlast).2, ?_⟩
  intro hblank
  rw [(hedges 1).2.mpr ⟨hlength, hblank⟩] at hinner
  cases hinner

/-- Two whitespace tokens side by side, as no parser makes them, are not both passed over. -/
example :
    let stream : TokenStream := ⟨[⟨.whitespace, [' ']⟩, ⟨.whitespace, ['\t']⟩, ⟨.word, ['a']⟩]⟩
    spell (stream.beforeOnLine 2) = [' ', '\t'] ∧ stream.isFirstOfLine 2 = false := by
  decide

end Parser

end SourceScan
