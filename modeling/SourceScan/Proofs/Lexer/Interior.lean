import SourceScan.CommentStyle.Presets
import SourceScan.Proofs.Comment.Interior
import SourceScan.Proofs.Lexer.Locality

/-! # Lexing and the inside of block comments

Whatever stands on a line inside a block comment, as long as it is not the closer, the lexer does
the same. Only the run that the block delivers shows which text stood there.
-/

namespace SourceScan

/-- A line stands inside a block comment that begins on an earlier line and waits for its closer:
the block has that line, and the closer does not come there. Lines are counted from one. -/
inductive InsideBlock (style : CommentStyle) (lines : List Text) (first inner : Nat)
    (closer : Marker) : Prop where
  | intro {line body : Text} {block : Block} {isDoc : Bool}
      (hplaced : ⟨first, .blockComment line block isDoc⟩ ∈ placedConstructs style lines)
      (hline : Opening.ofLine style line = .blockComment body closer isDoc)
      (hbelow : first < inner) (hopen : block.HoldsOpen (inner - first))

/-- A run gets another text for one of its lines if it begins on a given line. -/
def CommentRun.setEntry (first index : Nat) (new : Text) (run : CommentRun) : CommentRun :=
  if run.lineno = first then { run with lines := run.lines.set index new } else run

/-- A block comment keeps the line of its opener. -/
theorem exists_following_of_constructs_eq_cons {style : CommentStyle} {lines : List Text}
    {line : Text} {block : Block} {isDoc : Bool} {below : List Construct}
    (hconstructs : constructs style lines = .blockComment line block isDoc :: below) :
    ∃ following, lines = line :: following := by
  cases lines with
  | nil =>
      rw [constructs] at hconstructs
      cases hconstructs
  | cons next following =>
      rw [constructs] at hconstructs
      have hread := (List.cons.inj hconstructs).1
      unfold Construct.read at hread
      split at hread
      · cases hread
      · cases hread
      · obtain ⟨rfl, -⟩ := Construct.blockComment.inj hread
        exact ⟨following, rfl⟩

variable {style : CommentStyle} {lines : List Text} {first inner : Nat} {closer : Marker}
variable {new : Text}

/-- The constructs from the line of an opener on, with another text inside the block. -/
theorem constructs_cons_set {line body : Text} {following : List Text} {below : List Construct}
    {block : Block} {isDoc : Bool} {index : Nat}
    (hline : Opening.ofLine style line = .blockComment body closer isDoc)
    (hconstructs : constructs style (line :: following) = .blockComment line block isDoc :: below)
    (hopen : block.HoldsOpen (index + 1)) (hnew : ¬ closer.text <:+: new) :
    ∃ changed, Block.Replaced (index + 1) new block changed ∧
      constructs style (line :: following.set index new) =
        .blockComment line changed isDoc :: below := by
  have hread : Construct.read style line following =
      .blockComment line (Block.read closer body following) isDoc := by
    simp only [Construct.read, hline]
  rw [constructs, hread] at hconstructs
  obtain ⟨hfirst, hbelow⟩ := List.cons.inj hconstructs
  obtain ⟨-, rfl, -⟩ := Construct.blockComment.inj hfirst
  obtain ⟨changed, hchanged, hreadNew⟩ := Construct.read_set hline hopen hnew
  refine ⟨changed, hchanged, ?_⟩
  -- The block still ends behind the line that gets another text.
  have hlt : index < changed.above.length := by
    rw [hchanged.height]
    exact hopen.le
  rw [constructs, hreadNew, Construct.extra, List.drop_set_of_lt hlt, hchanged.height]
  exact congrArg _ hbelow

/-- Only one construct is another one if a text inside a block comment is. -/
theorem placedConstructs_set (hinside : InsideBlock style lines first inner closer)
    (hnew : ¬ closer.text <:+: new) :
    ∃ before after line block changed isDoc,
      placedConstructs style lines = before ++ ⟨first, .blockComment line block isDoc⟩ :: after ∧
      placedConstructs style (lines.set (inner - 1) new) =
        before ++ ⟨first, .blockComment line changed isDoc⟩ :: after ∧
      (∀ placed ∈ before ++ after, placed.lineno ≠ first) ∧
      block.HoldsOpen (inner - first) ∧ block.Replaced (inner - first) new changed := by
  obtain @⟨line, body, block, isDoc, hplaced, hline, hbelow, hopen⟩ := hinside
  obtain ⟨before, after, hplace⟩ := List.append_of_mem hplaced
  obtain ⟨above, below, hconstructs, rfl, hfirst, rfl⟩ := exists_of_place_eq_append hplace
  obtain ⟨upper, lower, rfl, hlength, hupper, hlower, hparts⟩ :=
    exists_append_of_constructs_eq_append hconstructs
  dsimp only at hplace hfirst hlower
  obtain ⟨following, rfl⟩ := exists_following_of_constructs_eq_cons hlower
  -- The line that gets another text, counted from the line of the opener.
  obtain ⟨index, hindex⟩ : ∃ index, inner - first = index + 1 :=
    Nat.exists_eq_succ_of_ne_zero (Nat.sub_ne_zero_of_lt hbelow)
  rw [hindex] at hopen ⊢
  have hset : (upper ++ line :: following).set (inner - 1) new =
      upper ++ line :: following.set index new := by
    have hinner : inner - 1 = upper.length + (index + 1) := by omega
    rw [hinner, List.set_append_right _ _ (Nat.le_add_right _ _), Nat.add_sub_cancel_left,
      List.set_cons_succ]
  obtain ⟨changed, hchanged, hlowerNew⟩ := constructs_cons_set hline hlower hopen hnew
  refine ⟨_, _, line, block, changed, isDoc, hplace, ?changed, ?apart, hopen, hchanged⟩
  case changed =>
    have hpartsNew : Separate style upper (line :: following.set index new) := hparts
    rw [hset, placedConstructs, constructs_append hpartsNew, hupper, hlowerNew, place_append,
      ← hfirst]
    simp only [place, Construct.height, Construct.extra, hchanged.height]
  case apart =>
    intro placed hmem
    rcases List.mem_append.mp hmem with hbefore | hafter
    · exact Nat.ne_of_lt (hfirst ▸ (lineno_of_mem_place hbefore).2)
    · have hlineno := (lineno_of_mem_place hafter).1
      simp only [Construct.height] at hlineno
      omega

/-! ## Tokens, reports and runs -/

namespace Placed

variable {line : Text} {block changed : Block} {isDoc : Bool} {index : Nat}

theorem tokens_of_replaced (hchanged : block.Replaced index new changed) :
    tokens ⟨first, .blockComment line changed isDoc⟩ =
      tokens ⟨first, .blockComment line block isDoc⟩ := by
  simp only [tokens, Construct.tokens, Construct.height, Construct.extra, hchanged.verdict,
    hchanged.height]

theorem report?_of_replaced (hchanged : block.Replaced index new changed) :
    report? ⟨first, .blockComment line changed isDoc⟩ =
      report? ⟨first, .blockComment line block isDoc⟩ := by
  simp only [report?, hchanged.verdict]

theorem run?_of_replaced (hchanged : block.Replaced index new changed) :
    run? ⟨first, .blockComment line changed isDoc⟩ =
      (run? ⟨first, .blockComment line block isDoc⟩).map
        (CommentRun.setEntry first index new) := by
  simp only [run?, hchanged.verdict, hchanged.entries]
  cases block.verdict <;> simp [CommentRun.setEntry]

theorem map_setEntry_run? {placed : Placed} (hlineno : placed.lineno ≠ first) :
    placed.run?.map (CommentRun.setEntry first index new) = placed.run? := by
  cases hrun : placed.run? with
  | none => rfl
  | some run =>
      have hother : run.lineno ≠ first := by
        rw [(of_run?_eq_some hrun).1]
        exact fun heq => hlineno (Int.ofNat.inj heq)
      exact congrArg some (if_neg hother)

end Placed

namespace Lexer

variable {file : Option String}

theorem flatMap_tokens_set (hinside : InsideBlock style lines first inner closer)
    (hnew : ¬ closer.text <:+: new) :
    (constructs style (lines.set (inner - 1) new)).flatMap Construct.tokens =
      (constructs style lines).flatMap Construct.tokens := by
  obtain ⟨before, after, line, block, changed, isDoc, hplaced, hplacedNew, -, -, hchanged⟩ :=
    placedConstructs_set hinside hnew
  rw [← flatMap_tokens_placedConstructs, hplacedNew, ← flatMap_tokens_placedConstructs, hplaced,
    List.flatMap_append, List.flatMap_cons, Placed.tokens_of_replaced hchanged,
    List.flatMap_append, List.flatMap_cons]

theorem reports_set (hinside : InsideBlock style lines first inner closer)
    (hnew : ¬ closer.text <:+: new) :
    reports ⟨lines.set (inner - 1) new, style, file⟩ = reports ⟨lines, style, file⟩ := by
  obtain ⟨before, after, line, block, changed, isDoc, hplaced, hplacedNew, -, -, hchanged⟩ :=
    placedConstructs_set hinside hnew
  rw [reports, reports, hplaced, hplacedNew, List.filterMap_append, List.filterMap_append,
    List.filterMap_cons, List.filterMap_cons, Placed.report?_of_replaced hchanged]

theorem runs_set (hinside : InsideBlock style lines first inner closer)
    (hnew : ¬ closer.text <:+: new) :
    runs ⟨lines.set (inner - 1) new, style, file⟩ =
      (runs ⟨lines, style, file⟩).map (CommentRun.setEntry first (inner - first) new) := by
  obtain ⟨before, after, line, block, changed, isDoc, hplaced, hplacedNew, hapart, -, hchanged⟩ :=
    placedConstructs_set hinside hnew
  have hothers : ∀ {placed : List Placed}, (∀ item ∈ placed, item.lineno ≠ first) →
      (placed.filterMap fun item =>
        item.run?.map (CommentRun.setEntry first (inner - first) new)) =
        placed.filterMap Placed.run? :=
    fun hplaced => List.filterMap_congr fun item hitem =>
      Placed.map_setEntry_run? (hplaced item hitem)
  obtain ⟨hbefore, hafter⟩ := List.forall_mem_append.mp hapart
  rw [runs, runs, hplaced, hplacedNew, List.map_filterMap, List.filterMap_append,
    List.filterMap_append, hothers hbefore, List.filterMap_cons, List.filterMap_cons,
    hothers hafter, Placed.run?_of_replaced hchanged]

/-- The run of the block around a line has an entry for that line. -/
theorem lt_length_of_mem_runs (hinside : InsideBlock style lines first inner closer)
    {run : CommentRun} (hrun : run ∈ runs ⟨lines, style, file⟩) (hlineno : run.lineno = first) :
    inner - first < run.lines.length := by
  have hempty : ¬ closer.text <:+: [] := List.infix_nil.not.mpr closer.nonempty
  obtain ⟨before, after, line, block, _, isDoc, hplaced, -, hapart, hopen, -⟩ :=
    placedConstructs_set hinside hempty
  obtain ⟨placed, hmem, hdelivered⟩ := List.mem_filterMap.mp hrun
  obtain ⟨hfirst, hlength, -⟩ := Placed.of_run?_eq_some hdelivered
  rw [hlength]
  have hplacedFirst : placed.lineno = first := Int.ofNat.inj (hfirst.symm.trans hlineno)
  rw [hplaced, List.mem_append, List.mem_cons] at hmem
  rcases hmem with hbefore | rfl | hafter
  · exact absurd hplacedFirst (hapart placed (List.mem_append_left _ hbefore))
  · exact Nat.lt_succ_of_le hopen.le
  · exact absurd hplacedFirst (hapart placed (List.mem_append_right _ hafter))

variable {σ : Type} [Sink σ] {progress : Progress σ}

/-- The text on a line inside a block comment tells the lexer nothing, unless it is the closer. With
another text there a pass fills the same stream, reports the same and counts the same, and it
delivers the same runs with the new text for that line in the run of the block. -/
theorem tokenize_set (hsink : Willing progress.sink)
    (hinside : InsideBlock style lines first inner closer) (hnew : ¬ closer.text <:+: new)
    (file : Option String) :
    let lexer : Lexer := ⟨lines, style, file⟩
    let changed : Lexer := ⟨lines.set (inner - 1) new, style, file⟩
    let pass := lexer.tokenize progress
    let other := changed.tokenize progress
    pass.failure = none ∧ other.failure = none ∧
      other.progress.stream = pass.progress.stream ∧ other.log = pass.log ∧
      other.progress.delivered = pass.progress.delivered ∧
      other.progress.kept = pass.progress.kept ∧
      pass.progress.sink = handed progress.sink lexer.runs ∧
      other.progress.sink = handed progress.sink changed.runs ∧
      changed.runs = lexer.runs.map (CommentRun.setEntry first (inner - first) new) ∧
      ∀ run ∈ lexer.runs, run.lineno = first → inner - first < run.lines.length := by
  intro lexer changed pass other
  have htokens := flatMap_tokens_set hinside hnew
  have hreports : changed.reports = lexer.reports := reports_set hinside hnew
  have hruns : changed.runs =
      lexer.runs.map (CommentRun.setEntry first (inner - first) new) :=
    runs_set hinside hnew
  have hpass : pass = _ := tokenize_of_takes lexer (hsink.takes _)
  have hother : other = _ := tokenize_of_takes changed (hsink.takes _)
  refine ⟨failure_of_willing _ hsink, failure_of_willing _ hsink, ?stream, ?log, ?delivered, ?kept,
    sink_of_willing _ hsink, sink_of_willing _ hsink, hruns,
    fun run hrun hlineno => lt_length_of_mem_runs hinside hrun hlineno⟩
  case stream => rw [hother, hpass, htokens]
  case log => rw [hother, hpass, hreports, hruns, List.length_map, List.length_set]
  case delivered => rw [hother, hpass, hruns, List.length_map]
  case kept => rw [hother, hpass, hreports]

/-- A line of a documentation comment becomes what would be code, an opener and another closer. -/
theorem tokenize_set_docBlock :
    let lines := ["x;", "/** a", "b", " */", "y;"].map String.toList
    let new := "*) /* y; // z".toList
    let start : Progress Collector := { sink := some {} }
    let other := tokenize ⟨lines.set 2 new, .cFamily, none⟩ start
    Willing start.sink ∧ InsideBlock .cFamily lines 2 3 (.ofChars '*' ['/']) ∧
      ¬ ['*', '/'] <:+: new ∧
      other.progress.stream.tokens.map Token.value =
        ["x", ";", "\n", "\n", "\n", "\n", "y", ";", "\n"].map String.toList ∧
      other.progress.sink.map Collector.runs =
        some [⟨[" a".toList, new, " ".toList], 2, true⟩] := by
  intro lines new start other
  have hstart : Willing start.sink := Collector.willing rfl
  have hplaced : ⟨2, .blockComment "/** a".toList
      ⟨[" a".toList, "b".toList], " ".toList, some []⟩ true⟩ ∈
        placedConstructs .cFamily lines := by
    decide +kernel
  have hline : Opening.ofLine .cFamily "/** a".toList =
      .blockComment " a".toList (.ofChars '*' ['/']) true := by
    decide +kernel
  have hinside : InsideBlock .cFamily lines 2 3 (.ofChars '*' ['/']) :=
    .intro hplaced hline (by decide) (.inl (by decide))
  have hnew : ¬ ['*', '/'] <:+: new := by decide
  obtain ⟨-, -, hstream, -, -, -, -, hother, hruns, -⟩ := tokenize_set hstart hinside hnew none
  refine ⟨hstart, hinside, hnew, ?_, ?_⟩
  · rw [hstream]
    decide +kernel
  · rw [hother, hruns, Collector.handed_eq rfl]
    decide +kernel

end Lexer

end SourceScan
