import Mathlib.Data.List.Forall2
import SourceScan.CommentStyle.Registry
import SourceScan.Proofs.Comment.Flavour
import SourceScan.Proofs.Lexer.Delivery
import SourceScan.Proofs.Lexer.Placement
import SourceScan.Proofs.Lexer.Runs

/-! # Passes without documentation markers

The styles known from the start say with their documentation markers only which comments are
documentation. A pass without these markers leaves the same tokens and reports, and it delivers the
same runs, except that the last character of a documentation marker comes back as text.
-/

namespace SourceScan

/-- What is read at one line, with and without the markers for documentation. -/
structure Construct.Undocumented (style : CommentStyle) (line : Text)
    (construct plain : Construct) : Prop where
  extra : plain.extra = construct.extra
  tokens : plain.tokens = construct.tokens
  report : ∀ lineno, (⟨lineno, plain⟩ : Placed).report? = (⟨lineno, construct⟩ : Placed).report?
  comment : Option.Rel (SameComment style line) construct.comment? plain.comment?

namespace Construct

variable {style : CommentStyle} {line : Text}

/-- A run of line comments goes on by plain markers only. -/
theorem lineRun_withoutDoc (style : CommentStyle) (following : List Text) :
    lineRun style.withoutDoc following = lineRun style following := by
  induction following with
  | nil => rfl
  | cons next rest ih =>
      have hbody : Opening.lineBody? style.withoutDoc next = Opening.lineBody? style next := rfl
      simp only [lineRun, hbody, ih]

theorem undocumented_self {construct : Construct} (hplain : ∀ texts isDoc,
    construct.comment? = some (texts, isDoc) → isDoc = false) :
    Undocumented style line construct construct := by
  refine ⟨rfl, rfl, fun _ => rfl, ?_⟩
  cases hcomment : construct.comment? with
  | none => exact .none
  | some comment =>
      obtain ⟨texts, isDoc⟩ := comment
      obtain rfl := hplain texts isDoc hcomment
      exact .some (.plain texts)

theorem undocumented_docBlock {pair : BlockPair} {after : Text} {following : List Text}
    (hstyle : style.DocExtendsPlain) (hpair : pair ∈ style.docBlockPairs)
    (hopens : pair.opener.Opens line after) (hstands : pair.standsBefore after = true) :
    Undocumented style line
      (.blockComment line (Block.read pair.closer (Text.indent line ++ after) following) true)
      (.blockComment line
        (Block.read pair.closer (Text.indent line ++ pair.opener.last :: after) following)
        false) := by
  -- The opener does not run into its closer, so no closer begins with the opener's last character.
  have hfirst : Text.after? pair.closer.text (pair.opener.last :: after) = none := by
    rw [BlockPair.standsBefore, Bool.and_eq_true] at hstands
    exact Option.isNone_iff_eq_none.mp hstands.2
  obtain ⟨rest, dropped, more, rfl, hentries, hshifted, htail, habove⟩ :=
    Block.read_shifted following (hstyle.closer pair hpair)
      (fun _ => Text.isBlank_of_mem_indent) hfirst
  have hverdict := Block.verdict_congr htail habove
  have hmarker : pair.opener ∈ style.docMarkers :=
    List.mem_append_right _ (List.mem_map_of_mem hpair)
  refine ⟨habove, ?_, ?_, ?_⟩
  · simp only [tokens, height, extra, hverdict, habove]
  · intro lineno
    simp only [Placed.report?, hverdict]
  · simp only [comment?, hverdict, hentries, hshifted]
    generalize (Block.read pair.closer (Text.indent line ++ (rest ++ dropped)) following).verdict
      = verdict
    cases verdict with
    | accepted => exact .some (.doc hmarker hopens)
    | keptLine => exact .none
    | keptTail => exact .none

theorem undocumented_read (hstyle : style.DocExtendsPlain) (line : Text) (following : List Text) :
    Undocumented style line (read style line following)
      (read style.withoutDoc line following) := by
  have hopen := Opening.undocumented_ofLine hstyle line
  simp only [read, lineRun_withoutDoc]
  generalize Opening.ofLine style line = opening at hopen ⊢
  generalize Opening.ofLine style.withoutDoc line = plain at hopen ⊢
  cases hopen with
  | code =>
      apply undocumented_self
      intro texts isDoc hcomment
      cases hcomment
  | plainLine body => exact ⟨rfl, rfl, fun _ => rfl, .some (.plain _)⟩
  | plainBlock body closer =>
      apply undocumented_self
      intro texts isDoc hcomment
      simp only [comment?] at hcomment
      split at hcomment
      · exact (Prod.mk.inj (Option.some.inj hcomment)).2.symm
      all_goals cases hcomment
  | @docLine marker after hmarker hopens =>
      have hwhole : marker.Opens line (after ++ []) := by rwa [List.append_nil]
      exact ⟨rfl, rfl, fun _ => rfl, .some (.doc (List.mem_append_left _ hmarker) hwhole)⟩
  | docBlock hpair hopens hstands => exact undocumented_docBlock hstyle hpair hopens hstands

end Construct

/-- The same run of a source, with and without the markers for documentation. -/
inductive CommentRun.Undocumented (style : CommentStyle) (lines : List Text) :
    CommentRun → CommentRun → Prop where
  | plain {run : CommentRun} (hplain : run.isDoc = false) : Undocumented style lines run run
  /-- Where the marker stood, behind the indentation of the first line, its last character is
  text. -/
  | doc {before after more : List Text} {line rest dropped : Text} {marker : Marker}
      (hlines : lines = before ++ line :: after) (hmarker : marker ∈ style.docMarkers)
      (hopens : marker.Opens line (rest ++ dropped)) :
      Undocumented style lines
        ⟨(Text.indent line ++ rest) :: more, before.length + 1, true⟩
        ⟨(Text.indent line ++ marker.last :: rest) :: more, before.length + 1, false⟩

/-- The same construct in its place, with and without the markers for documentation. -/
structure Placed.Undocumented (style : CommentStyle) (lines : List Text) (placed plain : Placed) :
    Prop where
  tokens : plain.tokens = placed.tokens
  report : plain.report? = placed.report?
  run : Option.Rel (CommentRun.Undocumented style lines) placed.run? plain.run?

variable {style : CommentStyle}

theorem Placed.undocumented_of_construct {line : Text} {construct plain : Construct}
    (hconstruct : construct.Undocumented style line plain) (before following : List Text) :
    Placed.Undocumented style (before ++ line :: following) ⟨before.length + 1, construct⟩
      ⟨before.length + 1, plain⟩ := by
  refine ⟨hconstruct.tokens, hconstruct.report _, ?_⟩
  rw [run?_eq_map_comment?, run?_eq_map_comment?]
  have hcomment := hconstruct.comment
  generalize construct.comment? = comment at hcomment ⊢
  generalize plain.comment? = other at hcomment ⊢
  cases hcomment with
  | none => exact .none
  | some hsame =>
      cases hsame with
      | plain texts => exact .some (.plain rfl)
      | doc hmarker hopens => exact .some (.doc rfl hmarker hopens)

/-- The constructs of the same lines, with and without the markers for documentation, go together
one by one. -/
theorem forall₂_undocumented_place (hstyle : style.DocExtendsPlain) (before lines : List Text) :
    List.Forall₂ (Placed.Undocumented style (before ++ lines))
      (place (before.length + 1) (constructs style lines))
      (place (before.length + 1) (constructs style.withoutDoc lines)) := by
  -- The lines above stay in the statement, because a run names the line that its marker stands in.
  induction lines using constructs.induct style generalizing before with
  | case1 =>
      rw [constructs, constructs]
      exact .nil
  | case2 line following construct ih =>
      have hfirst := Construct.undocumented_read hstyle line following
      have hextra := Construct.extra_read_le style line following
      have hrest := ih (before ++ line :: following.take construct.extra)
      have hlines : before ++ line :: following.take construct.extra ++
          following.drop construct.extra = before ++ line :: following := by
        rw [List.append_assoc, List.cons_append, List.take_append_drop]
      have hlineno : (before ++ line :: following.take construct.extra).length + 1 =
          before.length + 1 + construct.height := by
        have htake : (following.take construct.extra).length = construct.extra :=
          List.length_take_of_le hextra
        rw [List.length_append, List.length_cons, htake, Construct.height]
        omega
      rw [hlines, hlineno] at hrest
      have hheight : (Construct.read style.withoutDoc line following).height =
          construct.height := congrArg Nat.succ hfirst.extra
      rw [constructs, constructs, place, place, hfirst.extra, hheight]
      exact .cons (Placed.undocumented_of_construct hfirst before following) hrest

theorem forall₂_undocumented (hstyle : style.DocExtendsPlain) (lines : List Text) :
    List.Forall₂ (Placed.Undocumented style lines) (placedConstructs style lines)
      (placedConstructs style.withoutDoc lines) :=
  forall₂_undocumented_place hstyle [] lines

section Observed

variable {lines : List Text} {placed plain : List Placed}

theorem flatMap_tokens_of_undocumented
    (hsame : List.Forall₂ (Placed.Undocumented style lines) placed plain) :
    plain.flatMap Placed.tokens = placed.flatMap Placed.tokens := by
  induction hsame with
  | nil => rfl
  | cons hfirst _ ih => rw [List.flatMap_cons, List.flatMap_cons, hfirst.tokens, ih]

theorem filterMap_report?_of_undocumented
    (hsame : List.Forall₂ (Placed.Undocumented style lines) placed plain) :
    plain.filterMap Placed.report? = placed.filterMap Placed.report? := by
  induction hsame with
  | nil => rfl
  | cons hfirst _ ih => rw [List.filterMap_cons, List.filterMap_cons, hfirst.report, ih]

theorem forall₂_filterMap_run?_of_undocumented
    (hsame : List.Forall₂ (Placed.Undocumented style lines) placed plain) :
    List.Forall₂ (CommentRun.Undocumented style lines) (placed.filterMap Placed.run?)
      (plain.filterMap Placed.run?) :=
  List.rel_filterMap (fun _ _ hfirst => hfirst.run) hsame

end Observed

namespace CommentStyle

theorem docExtendsPlain_of_eq_nil (hline : style.docLineMarkers = [])
    (hblock : style.docBlockPairs = []) : style.DocExtendsPlain :=
  ⟨by simp [hline], by simp [hblock], by simp [hblock]⟩

theorem docExtendsPlain_c : c.DocExtendsPlain := by
  refine ⟨by simp [c], ?_, ?_⟩
  · intro pair hpair
    obtain rfl := List.mem_singleton.mp hpair
    exact ⟨.starred, rfl, rfl, rfl⟩
  · intro pair hpair first hfirst
    obtain rfl := List.mem_singleton.mp hpair
    obtain rfl := Option.some.inj hfirst
    rfl

theorem docExtendsPlain_cFamily : cFamily.DocExtendsPlain := by
  refine ⟨?_, docExtendsPlain_c.block, docExtendsPlain_c.closer⟩
  intro marker hmarker
  obtain rfl := List.mem_singleton.mp hmarker
  exact ⟨.slashes, rfl, rfl⟩

theorem docExtendsPlain_hashes : hashes.DocExtendsPlain := by
  refine ⟨?_, by simp [hashes], by simp [hashes]⟩
  intro marker hmarker
  obtain rfl := List.mem_singleton.mp hmarker
  exact ⟨.hash, rfl, rfl⟩

/-- Among the styles known from the start every documentation marker extends a plain one. -/
theorem docExtendsPlain_of_preset {name : Text} {registered : Registered}
    (hpreset : (name, some registered) ∈ Registry.presets.entries) :
    registered.style.DocExtendsPlain := by
  have hstyles : ∀ entry ∈ Registry.presets.entries, ∀ known ∈ entry.2,
      known.style ∈ [c, cFamily, hashes, shell, pascal, sql] := by decide
  have hstyle := hstyles _ hpreset registered rfl
  simp only [List.mem_cons, List.not_mem_nil, or_false] at hstyle
  rcases hstyle with hstyle | hstyle | hstyle | hstyle | hstyle | hstyle <;> rw [hstyle]
  · exact docExtendsPlain_c
  · exact docExtendsPlain_cFamily
  · exact docExtendsPlain_hashes
  all_goals exact docExtendsPlain_of_eq_nil rfl rfl

end CommentStyle

namespace Lexer

variable {σ : Type} [Sink σ] {sink : Option σ}

/-- In a style known from the start, documentation markers do not change what is a comment: a pass
without them leaves the same tokens, keeps and reports the same blocks, and delivers the same runs,
whose texts differ only by the last character of a documentation marker. -/
theorem tokenize_withoutDoc {name : Text} {registered : Registered}
    (hpreset : (name, some registered) ∈ Registry.presets.entries) (hsink : Willing sink)
    (lines : List Text) (file : Option String) :
    let lexer : Lexer := ⟨lines, registered.style, file⟩
    let plainLexer : Lexer := ⟨lines, registered.style.withoutDoc, file⟩
    let pass := lexer.tokenize ({ sink } : Progress σ)
    let plainPass := plainLexer.tokenize ({ sink } : Progress σ)
    plainPass.progress.stream = pass.progress.stream ∧
      plainPass.progress.kept = pass.progress.kept ∧ plainPass.log = pass.log ∧
      pass.progress.sink = handed sink lexer.runs ∧
      plainPass.progress.sink = handed sink plainLexer.runs ∧
      List.Forall₂ (CommentRun.Undocumented registered.style lines) lexer.runs
        plainLexer.runs := by
  intro lexer plainLexer pass plainPass
  have hsame := forall₂_undocumented (CommentStyle.docExtendsPlain_of_preset hpreset) lines
  have hruns : List.Forall₂ (CommentRun.Undocumented registered.style lines) lexer.runs
      plainLexer.runs := forall₂_filterMap_run?_of_undocumented hsame
  have hreports : plainLexer.reports = lexer.reports := filterMap_report?_of_undocumented hsame
  have htokens : (constructs registered.style.withoutDoc lines).flatMap Construct.tokens =
      (constructs registered.style lines).flatMap Construct.tokens := by
    rw [← flatMap_tokens_place 1, ← flatMap_tokens_place 1]
    exact flatMap_tokens_of_undocumented hsame
  have hpass : pass = _ := lexer.tokenize_of_takes (hsink.takes _)
  have hplain : plainPass = _ := plainLexer.tokenize_of_takes (hsink.takes _)
  have hcount := hruns.length_eq
  refine ⟨?stream, ?kept, ?log, sink_of_willing lexer hsink, sink_of_willing plainLexer hsink,
    hruns⟩
  case stream => rw [hpass, hplain, htokens]
  case kept => rw [hpass, hplain, hreports]
  case log => rw [hpass, hplain, hreports, hcount]

/-- A block of documentation, cut at its closer, a block that is none because it runs into its
closer, and a line of code. -/
theorem tokenize_withoutDoc_cutBlock :
    let lines := [" /** a */", "/**/", "x;"].map String.toList
    let sink : Option Collector := some {}
    let plainLexer : Lexer := ⟨lines, CommentStyle.c.withoutDoc, none⟩
    let plainPass := plainLexer.tokenize ({ sink } : Progress Collector)
    ("c".toList, some ⟨0, .c⟩) ∈ Registry.presets.entries ∧ Willing sink ∧
      plainPass.progress.stream.tokens.map Token.value =
        ["\n", "\n", "x", ";", "\n"].map String.toList ∧
      CommentRun.Undocumented .c lines ⟨["  a ".toList], 1, true⟩ ⟨[" * a ".toList], 1, false⟩ ∧
      plainPass.progress.sink.map Collector.runs =
        some [⟨[" * a ".toList], 1, false⟩, ⟨[[]], 2, false⟩] := by
  intro lines sink plainLexer plainPass
  have hpreset : ("c".toList, some ⟨0, .c⟩) ∈ Registry.presets.entries := List.mem_cons_self
  have hsink : Willing sink := Collector.willing rfl
  obtain ⟨hstream, -, -, -, hhanded, hsame⟩ := tokenize_withoutDoc hpreset hsink lines none
  have hruns : runs ⟨lines, .c, none⟩ =
      [⟨["  a ".toList], 1, true⟩, ⟨[[]], 2, false⟩] := by decide +kernel
  have hplain : plainLexer.runs = [⟨[" * a ".toList], 1, false⟩, ⟨[[]], 2, false⟩] := by
    decide +kernel
  rw [hruns, hplain] at hsame
  refine ⟨hpreset, hsink, ?_, (List.forall₂_cons.mp hsame).1, ?_⟩
  · rw [hstream]
    decide +kernel
  · rw [hhanded, hplain, Collector.handed_eq rfl]
    rfl

end Lexer

end SourceScan
