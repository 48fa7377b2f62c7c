import SourceScan.CommentStyle.Presets
import SourceScan.Proofs.Comment.Opening
import SourceScan.Proofs.Lexer.Delivery
import SourceScan.Proofs.Lexer.Rows
import SourceScan.Proofs.Token.Cut

/-! # What a stream spells

The tokens that a pass leaves are cut as a text is, because every row ends with a line break. So any
piece of the stream spells a text that is cut into that piece again. Lines that open no comment are
spelled out in full.
-/

namespace SourceScan

theorem spell_append (left right : List Token) :
    spell (left ++ right) = spell left ++ spell right :=
  List.flatMap_append

theorem spell_lineTokens (line : Text) : spell (lineTokens line) = line ++ ['\n'] := by
  rw [lineTokens, spell_append, spell_tokenize]
  rfl

/-- Rows that end with a line break are cut as one text. -/
theorem cut_flatten {rows : List (List Token)}
    (hrows : ∀ row ∈ rows, ∃ text, row = lineTokens text) : Cut rows.flatten := by
  induction rows with
  | nil => exact cut_nil
  | cons row rest ih =>
      obtain ⟨⟨text, rfl⟩, hrest⟩ := List.forall_mem_cons.mp hrows
      rw [List.flatten_cons, lineTokens, List.append_assoc]
      exact (cut_tokenize text).append_lineBreak_append (ih hrest)

theorem cut_flatMap_tokens (style : CommentStyle) (lines : List Text) :
    Cut ((constructs style lines).flatMap Construct.tokens) := by
  rw [← flatten_rows_portions]
  apply cut_flatten
  intro row hrow
  obtain ⟨text, heq, -⟩ := (layout_portions style lines).exists_text_of_mem_rows hrow
  exact ⟨text, heq⟩

namespace TokenStream

theorem clampBound_of_le {length bound : Nat} (hbound : bound ≤ length) :
    clampBound length bound = bound := by
  rw [clampBound, if_neg (Int.not_lt.mpr (Int.natCast_nonneg bound))]
  exact Nat.min_eq_left hbound

/-- The text between two positions of a stream is spelled by the tokens between them. -/
theorem text_of_le (stream : TokenStream) {start stop : Nat} (hstart : start ≤ stop)
    (hstop : stop ≤ stream.length) :
    stream.text start (some stop) = spell ((stream.tokens.take stop).drop start) := by
  have hupper : min (stop : Int) stream.length = stop :=
    Int.min_eq_left (Int.ofNat_le.mpr hstop)
  have hstop : stop ≤ stream.tokens.length := hstop
  simp only [text, between, hupper]
  rw [clampBound_of_le hstop, clampBound_of_le (hstart.trans hstop)]

theorem text_zero_none (stream : TokenStream) : stream.text 0 none = spell stream.tokens := by
  have hlower : clampBound stream.tokens.length 0 = 0 := clampBound_of_le (Nat.zero_le _)
  have hupper : clampBound stream.tokens.length (stream.length : Int) = stream.tokens.length :=
    clampBound_of_le (Nat.le_refl _)
  simp only [text, between, hlower, hupper, List.take_length, List.drop_zero]

end TokenStream

/-! ## Lines of code -/

/-- No line opens a comment in a style without markers. -/
theorem Opening.ofLine_of_isEmpty {style : CommentStyle} (hempty : style.isEmpty = true)
    (line : Text) : ofLine style line = .code := by
  simp only [CommentStyle.isEmpty, Bool.and_eq_true, List.isEmpty_iff] at hempty
  obtain ⟨⟨⟨hline, hblock⟩, hdocLine⟩, hdocBlock⟩ := hempty
  have hnone : ∀ {α : Type} (marker : α → Marker) (counts : α → Text → Bool),
      longest? marker counts [] line = none := fun _ _ => rfl
  simp only [ofLine, docLineBody?, lineBody?, docBlock?, block?, hline, hblock, hdocLine,
    hdocBlock, hnone, Option.map_none]

theorem constructs_of_code {style : CommentStyle} {lines : List Text}
    (hcode : ∀ line ∈ lines, Opening.ofLine style line = .code) :
    constructs style lines = lines.map .code := by
  induction lines with
  | nil => rw [constructs]; rfl
  | cons line rest ih =>
      obtain ⟨hline, hrest⟩ := List.forall_mem_cons.mp hcode
      have hread : Construct.read style line rest = .code line := by
        simp only [Construct.read, hline]
      rw [constructs, hread, Construct.extra, List.drop_zero, ih hrest, List.map_cons]

theorem filterMap_run?_place_code (lineno : Nat) (lines : List Text) :
    (place lineno (lines.map .code)).filterMap Placed.run? = [] := by
  induction lines generalizing lineno with
  | nil => rfl
  | cons line rest ih => exact ih _

namespace Lexer

variable {σ : Type} [Sink σ]

/-- Every piece of the stream that a pass makes, whatever its sink does, is what the text of that
piece is cut into. If no marker is known, or no line opens a comment, the whole stream spells the
lines, each with a line feed behind it. -/
theorem tokenize_text_piece (lexer : Lexer) (sink : Option σ) :
    let stream := (lexer.tokenize ({ sink } : Progress σ)).progress.stream
    (∀ start stop : Nat, start ≤ stop → stop ≤ stream.length →
        SourceScan.tokenize (stream.text start (some stop)) =
          (stream.tokens.take stop).drop start) ∧
      (lexer.style.isEmpty = true ∨
          (∀ line ∈ lexer.lines, Opening.ofLine lexer.style line = .code) →
        stream.text 0 none = lexer.lines.flatMap fun line => line ++ ['\n']) := by
  intro stream
  refine ⟨fun start stop hstart hstop => ?_, fun hcode => ?_⟩
  · -- The sink decides how far the pass comes, and so which first part of all tokens is there.
    have hcut : Cut stream.tokens := by
      obtain ⟨after, hplaced⟩ :=
        taken_deliver_isPrefix sink (placedConstructs lexer.style lexer.lines)
      have hall := cut_flatMap_tokens lexer.style lexer.lines
      rw [← flatMap_tokens_place 1, ← placedConstructs, ← hplaced, List.flatMap_append] at hall
      exact hall.of_infix (List.prefix_append _ _).isInfix
    rw [stream.text_of_le hstart hstop]
    apply tokenize_spell
    exact hcut.of_infix ((List.drop_suffix _ _).isInfix.trans (List.take_prefix _ _).isInfix)
  · have hlines : ∀ line ∈ lexer.lines, Opening.ofLine lexer.style line = .code := by
      rcases hcode with hempty | hlines
      · exact fun line _ => Opening.ofLine_of_isEmpty hempty line
      · exact hlines
    have hconstructs := constructs_of_code hlines
    have hruns : lexer.runs = [] := by
      rw [runs, placedConstructs, hconstructs, filterMap_run?_place_code]
    have htakes : Takes sink lexer.runs := by
      rw [hruns]
      trivial
    have htokens : stream.tokens = lexer.lines.flatMap lineTokens := by
      have hpass : lexer.tokenize ({ sink } : Progress σ) = _ := lexer.tokenize_of_takes htakes
      simp only [stream, hpass, hconstructs, List.flatMap_map]
      rfl
    rw [stream.text_zero_none, htokens, spell, List.flatMap_assoc]
    exact congrArg (lexer.lines.flatMap ·) (funext spell_lineTokens)

/-- Five tokens from the middle of a stream, and a stream whose one line has a line feed inside. -/
theorem tokenize_text_piece_sample :
    let lexer : Lexer := ⟨["/* a", "b */ x  y", "c\nd"].map String.toList, .cFamily, none⟩
    let stream := (lexer.tokenize ({ sink := none } : Progress Collector)).progress.stream
    2 ≤ 7 ∧ 7 ≤ stream.length ∧
      SourceScan.tokenize (stream.text (2 : Nat) (some (7 : Nat))) =
        (stream.tokens.take 7).drop 2 ∧
      (⟨["c\nd".toList], .bare, none⟩ : Lexer).style.isEmpty = true ∧
      ((⟨["c\nd".toList], .bare, none⟩ : Lexer).tokenize
        ({ sink := none } : Progress Collector)).progress.stream.text 0 none = "c\nd\n".toList := by
  intro lexer stream
  have hlength : 7 ≤ stream.length := by decide +kernel
  have hpiece := (tokenize_text_piece lexer (none : Option Collector)).1 2 7 (by decide) hlength
  have hcode := (tokenize_text_piece ⟨["c\nd".toList], .bare, none⟩ (none : Option Collector)).2
    (.inl rfl)
  exact ⟨by decide, hlength, hpiece, rfl, hcode⟩

end Lexer

end SourceScan
