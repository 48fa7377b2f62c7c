import SourceScan.Proofs.Comment.Opening
import SourceScan.Proofs.Lexer.Delivery

/-! # Order of declaration

Markers of one length that stand at the same place are the same marker. So the longest marker of a
group that opens a line is found whatever the order of the group and however often it names a
marker. A pair is found with its closer as long as no other pair of the group has the same opener.
-/

namespace SourceScan

/-- The same markers and the same pairs in each group, in any order and any number of times. -/
structure CommentStyle.SameMarkers (style other : CommentStyle) : Prop where
  line : ∀ marker, marker ∈ style.lineMarkers ↔ marker ∈ other.lineMarkers
  docLine : ∀ marker, marker ∈ style.docLineMarkers ↔ marker ∈ other.docLineMarkers
  block : ∀ pair, pair ∈ style.blockPairs ↔ pair ∈ other.blockPairs
  docBlock : ∀ pair, pair ∈ style.docBlockPairs ↔ pair ∈ other.docBlockPairs

/-- Each opener belongs to one pair only. -/
def OpenersDiffer (pairs : List BlockPair) : Prop :=
  ∀ pair ∈ pairs, ∀ other ∈ pairs, pair.opener = other.opener → pair = other

namespace Opening

theorem longest?_eq_of_mem_iff {α : Type} {marker : α → Marker} {counts : α → Text → Bool}
    {items others : List α} (hmem : ∀ item, item ∈ items ↔ item ∈ others)
    (hmarker : ∀ item ∈ items, ∀ other ∈ items, marker item = marker other → item = other)
    (line : Text) :
    longest? marker counts items line = longest? marker counts others line := by
  unfold longest?
  congr 1
  apply firstLargest?_eq_of_mem_iff
  · rintro ⟨item, after⟩
    rw [mem_candidates_iff, mem_candidates_iff, hmem]
  · rintro ⟨item, after⟩ hfound ⟨other, rest⟩ hfoundOther hlength
    obtain ⟨hitem, hopens, -⟩ := mem_candidates_iff.mp hfound
    obtain ⟨hother, hopensOther, -⟩ := mem_candidates_iff.mp hfoundOther
    obtain ⟨hsame, hafter⟩ := hopens.unique hopensOther hlength
    rw [hmarker item hitem other hother hsame, hafter]

variable {style other : CommentStyle} (hsame : style.SameMarkers other)
include hsame

theorem lineBody?_of_sameMarkers (line : Text) : lineBody? style line = lineBody? other line :=
  congrArg _ (longest?_eq_of_mem_iff hsame.line (fun _ _ _ _ => id) line)

theorem docLineBody?_of_sameMarkers (line : Text) :
    docLineBody? style line = docLineBody? other line :=
  congrArg _ (longest?_eq_of_mem_iff hsame.docLine (fun _ _ _ _ => id) line)

variable (hblock : OpenersDiffer style.blockPairs) (hdocBlock : OpenersDiffer style.docBlockPairs)
include hblock hdocBlock

theorem ofLine_of_sameMarkers (line : Text) : ofLine style line = ofLine other line := by
  have hplain : block? style line = block? other line :=
    longest?_eq_of_mem_iff hsame.block hblock line
  have hdoc : docBlock? style line = docBlock? other line :=
    longest?_eq_of_mem_iff hsame.docBlock hdocBlock line
  simp only [ofLine, docLineBody?_of_sameMarkers hsame, lineBody?_of_sameMarkers hsame, hplain,
    hdoc]

end Opening

section SameMarkers

variable {style other : CommentStyle} (hsame : style.SameMarkers other)
variable (hblock : OpenersDiffer style.blockPairs) (hdocBlock : OpenersDiffer style.docBlockPairs)
include hsame

theorem Construct.lineRun_of_sameMarkers (following : List Text) :
    lineRun style following = lineRun other following := by
  induction following with
  | nil => rfl
  | cons next rest ih => simp only [lineRun, Opening.lineBody?_of_sameMarkers hsame, ih]

include hblock hdocBlock

theorem constructs_of_sameMarkers (lines : List Text) :
    constructs style lines = constructs other lines := by
  induction lines using constructs.induct style with
  | case1 => rw [constructs, constructs]
  | case2 line following construct ih =>
      have hread : Construct.read other line following = construct := by
        simp only [construct, Construct.read,
          Opening.ofLine_of_sameMarkers hsame hblock hdocBlock,
          Construct.lineRun_of_sameMarkers hsame]
      rw [constructs, constructs, hread, ← ih]

end SameMarkers

namespace Lexer

variable {σ : Type} [Sink σ]

/-- Neither the order in which a style declares its markers nor a marker declared again changes
anything about a pass: stream, sink, counts, reports and error are the same. -/
theorem tokenize_of_sameMarkers {style other : CommentStyle} (hsame : style.SameMarkers other)
    (hblock : OpenersDiffer style.blockPairs) (hdocBlock : OpenersDiffer style.docBlockPairs)
    (lines : List Text) (file : Option String) (progress : Progress σ) :
    let lexer : Lexer := ⟨lines, style, file⟩
    let otherLexer : Lexer := ⟨lines, other, file⟩
    lexer.runs = otherLexer.runs ∧ lexer.reports = otherLexer.reports ∧
      lexer.tokenize progress = otherLexer.tokenize progress := by
  intro lexer otherLexer
  have hplaced : placedConstructs style lines = placedConstructs other lines := by
    unfold placedConstructs
    rw [constructs_of_sameMarkers hsame hblock hdocBlock]
  refine ⟨?_, ?_, ?_⟩
  · exact congrArg (List.filterMap Placed.run?) hplaced
  · exact congrArg (List.filterMap Placed.report?) hplaced
  · simp only [tokenize, lexer, otherLexer, hplaced]

/-- Markers that begin with one another, declared in two orders and some of them twice. -/
theorem tokenize_of_sameMarkers_overlapping :
    let dash : Marker := .ofChars '-' []
    let dashes : Marker := .ofChars '-' ['-']
    let round : BlockPair := ⟨.ofChars '(' [], .ofChars ')' []⟩
    let starred : BlockPair := ⟨.ofChars '(' ['*'], .ofChars '*' [')']⟩
    let style : CommentStyle := { lineMarkers := [dash, dashes], blockPairs := [round, starred] }
    let other : CommentStyle :=
      { lineMarkers := [dashes, dash, dashes], blockPairs := [starred, round, starred, round] }
    let lines := ["-- a", "- b", "(* c", "d *)", "(* e *) f", "( g )"].map String.toList
    let otherLexer : Lexer := ⟨lines, other, none⟩
    let pass := otherLexer.tokenize ({ sink := some {} } : Progress Collector)
    style.SameMarkers other ∧ OpenersDiffer style.blockPairs ∧
      OpenersDiffer style.docBlockPairs ∧
      pass.progress.stream.tokens.map Token.value = ["\n", "\n", "\n", "\n", "(", "*", " ", "e",
        " ", "*", ")", " ", "f", "\n", "\n"].map String.toList ∧
      pass.progress.sink.map Collector.runs = some [⟨[" a".toList, " b".toList], 1, false⟩,
        ⟨[" c".toList, "d ".toList], 3, false⟩, ⟨[" g ".toList], 6, false⟩] ∧
      pass.log = [.keptLine 5, .split none 6 3 1] := by
  intro dash dashes round starred style other lines otherLexer pass
  have hsame : style.SameMarkers other := by
    refine ⟨?_, fun _ => Iff.rfl, ?_, fun _ => Iff.rfl⟩
    · intro marker
      simp only [style, other, List.mem_cons, List.not_mem_nil, or_false]
      grind
    · intro pair
      simp only [style, other, List.mem_cons, List.not_mem_nil, or_false]
      grind
  have hblock : OpenersDiffer style.blockPairs := by
    unfold OpenersDiffer
    decide
  have hdocBlock : OpenersDiffer style.docBlockPairs := fun _ hpair => nomatch hpair
  obtain ⟨-, -, hpass⟩ := tokenize_of_sameMarkers hsame hblock hdocBlock lines none
    ({ sink := some {} } : Progress Collector)
  have heq : pass = _ := hpass.symm
  refine ⟨hsame, hblock, hdocBlock, ?_, ?_, ?_⟩
  · rw [heq]
    decide +kernel
  · rw [heq]
    decide +kernel
  · rw [heq]
    decide +kernel

end Lexer

end SourceScan
