import SourceScan.Comment.Construct
import SourceScan.Proofs.Text.Occurrence

/-! # Layouts

A layout cuts the lines of a source into stretches, one for each construct, and says for each
stretch which tokens take the place of its lines and which comment it delivers. The relation is
stated on the lines themselves; the constructs that are read give such a layout of any lines.
-/

namespace SourceScan

/-- The lines of one construct, the tokens that take the place of each, and the texts and the
flavour of the comment that it delivers. -/
structure Portion where
  lines : List Text
  rows : List (List Token)
  comment? : Option (List Text × Bool)

/-- The rows of lines that hold no code: a lone line break each. -/
def bareRows (count : Nat) : List (List Token) := List.replicate count [Token.lineBreak]

/-- How one construct stands before the lines that follow it. -/
inductive Stretch (style : CommentStyle) : List Text → Portion → Prop where
  /-- A line that opens no comment is code. -/
  | code {line : Text} {following : List Text} (hopen : Opening.ofLine style line = .code) :
      Stretch style following ⟨[line], [lineTokens line], none⟩
  /-- A run of line comments goes on up to the first line without a plain line marker. -/
  | lineComment {first body : Text} {isDoc : Bool} {more bodies following : List Text}
      (hopen : Opening.ofLine style first = .lineComment body isDoc)
      (hmore : more.map (Opening.lineBody? style) = bodies.map some)
      (hend : ∀ next ∈ following.head?, Opening.lineBody? style next = none) :
      Stretch style following
        ⟨first :: more, bareRows (more.length + 1), some (body :: bodies, isDoc)⟩
  /-- A block comment is closed by the first closer, with nothing but blanks behind it. -/
  | closed {first body final before tail : Text} {closer : Marker} {isDoc : Bool}
      {more above following : List Text}
      (hopen : Opening.ofLine style first = .blockComment body closer isDoc)
      (htexts : body :: more = above ++ [final])
      (habove : ∀ text ∈ above, ¬ closer.text <:+: text)
      (hclose : Text.FirstAt closer.text final before tail)
      (hblank : ∀ c ∈ tail, isBlank c = true) :
      Stretch style following
        ⟨first :: more, bareRows (more.length + 1), some (above ++ [before], isDoc)⟩
  /-- A block comment without a closer takes all lines that are left. -/
  | unclosed {first body : Text} {closer : Marker} {isDoc : Bool} {more : List Text}
      (hopen : Opening.ofLine style first = .blockComment body closer isDoc)
      (hnone : ∀ text ∈ body :: more, ¬ closer.text <:+: text) :
      Stretch style [] ⟨first :: more, bareRows (more.length + 1), some (body :: more, isDoc)⟩
  /-- A block with code behind its closer on its only line leaves that whole line as code. -/
  | keptLine {first body before tail : Text} {closer : Marker} {isDoc : Bool}
      {following : List Text}
      (hopen : Opening.ofLine style first = .blockComment body closer isDoc)
      (hclose : Text.FirstAt closer.text body before tail)
      (hcode : ∃ c ∈ tail, isBlank c = false) :
      Stretch style following ⟨[first], [lineTokens first], none⟩
  /-- A block over several lines with code behind its closer leaves that code. -/
  | keptTail {first body final before tail : Text} {closer : Marker} {isDoc : Bool}
      {more above following : List Text}
      (hopen : Opening.ofLine style first = .blockComment body closer isDoc)
      (htexts : body :: more = above ++ [final]) (hmore : more ≠ [])
      (habove : ∀ text ∈ above, ¬ closer.text <:+: text)
      (hclose : Text.FirstAt closer.text final before tail)
      (hcode : ∃ c ∈ tail, isBlank c = false) :
      Stretch style following
        ⟨first :: more, bareRows more.length ++ [lineTokens tail], none⟩

/-- Lines as stretches one behind another, without gap or overlap. -/
inductive Layout (style : CommentStyle) : List Text → List Portion → Prop where
  | nil : Layout style [] []
  | cons {portion : Portion} {following : List Text} {portions : List Portion}
      (hfirst : Stretch style following portion) (hrest : Layout style following portions) :
      Layout style (portion.lines ++ following) (portion :: portions)

theorem length_of_cons_eq_concat {text final : Text} {more above : List Text}
    (htexts : text :: more = above ++ [final]) : above.length = more.length := by
  have hlength := congrArg List.length htexts
  rw [List.length_append, List.length_cons, List.length_singleton] at hlength
  exact (Nat.succ.inj hlength).symm

theorem length_eq_of_map_eq_map_some {α β : Type} {f : α → Option β} {items : List α}
    {values : List β} (hmap : items.map f = values.map some) : items.length = values.length := by
  have hlength := congrArg List.length hmap
  rwa [List.length_map, List.length_map] at hlength

theorem Stretch.length_rows {style : CommentStyle} {following : List Text} {portion : Portion}
    (hstretch : Stretch style following portion) :
    portion.rows.length = portion.lines.length := by
  cases hstretch <;> simp [bareRows]

/-! ## What is read from the lines -/

namespace Block

variable {closer : Marker} {text tail : Text} {following : List Text}

theorem read_cons {next : Text} (hsplit : Text.splitAt? closer.text text = none) :
    read closer text (next :: following) =
      { read closer next following with
        above := text :: (read closer next following).above } := by
  rw [read, hsplit]

/-- A block that was closed takes the lines up to the first closer. -/
theorem read_closed (hclosed : (read closer text following).tail? = some tail) :
    ∃ final, text :: following.take (read closer text following).above.length =
        (read closer text following).above ++ [final] ∧
      (∀ text' ∈ (read closer text following).above, ¬ closer.text <:+: text') ∧
      Text.FirstAt closer.text final (read closer text following).last tail := by
  induction following generalizing text with
  | nil =>
      unfold read at hclosed ⊢
      split at hclosed
      next before _ hsplit =>
        cases hclosed
        exact ⟨text, rfl, by simp, Text.splitAt?_eq_some_iff.mp hsplit⟩
      next => cases hclosed
  | cons next rest ih =>
      cases hsplit : Text.splitAt? closer.text text with
      | some found =>
          simp only [read, hsplit, Option.some.injEq] at hclosed ⊢
          subst hclosed
          exact ⟨text, rfl, by simp, Text.splitAt?_eq_some_iff.mp hsplit⟩
      | none =>
          rw [read_cons hsplit] at hclosed ⊢
          obtain ⟨final, htexts, habove, hclose⟩ := ih hclosed
          refine ⟨final, ?_, ?_, hclose⟩
          · rw [List.length_cons, List.take_succ_cons, htexts, List.cons_append]
          · exact List.forall_mem_cons.mpr ⟨Text.splitAt?_eq_none_iff.mp hsplit, habove⟩

/-- A block that was not closed takes all lines. -/
theorem read_unclosed (hopen : (read closer text following).tail? = none) :
    (read closer text following).entries = text :: following ∧
      ∀ text' ∈ text :: following, ¬ closer.text <:+: text' := by
  induction following generalizing text with
  | nil =>
      unfold read at hopen ⊢
      split at hopen
      · cases hopen
      next hsplit =>
        refine ⟨rfl, ?_⟩
        simpa only [List.mem_singleton, forall_eq] using Text.splitAt?_eq_none_iff.mp hsplit
  | cons next rest ih =>
      cases hsplit : Text.splitAt? closer.text text with
      | some found => simp only [read, hsplit, reduceCtorEq] at hopen
      | none =>
          rw [read_cons hsplit] at hopen ⊢
          obtain ⟨hentries, hnone⟩ := ih hopen
          refine ⟨?_, List.forall_mem_cons.mpr ⟨Text.splitAt?_eq_none_iff.mp hsplit, hnone⟩⟩
          rw [entries, List.cons_append, ← entries, hentries]

variable {block : Block}

theorem verdict_of_tail?_eq_none (hopen : block.tail? = none) : block.verdict = .accepted := by
  simp only [verdict, hopen]

theorem verdict_of_blank {tail : Text} (hclosed : block.tail? = some tail)
    (hblank : tail.all isBlank = true) : block.verdict = .accepted := by
  simp only [verdict, hclosed, hblank, if_true]

theorem verdict_of_code {tail : Text} (hclosed : block.tail? = some tail)
    (hcode : tail.all isBlank = false) :
    block.verdict = if block.above = [] then .keptLine else .keptTail tail := by
  simp only [verdict, hclosed, hcode, Bool.false_eq_true, if_false]

/-- The verdict looks at what stands behind the closer and at the height of the block only. -/
theorem verdict_congr {other : Block} (htail : other.tail? = block.tail?)
    (habove : other.above.length = block.above.length) : other.verdict = block.verdict := by
  have hnil : other.above = [] ↔ block.above = [] := by
    rw [← List.length_eq_zero_iff, habove, List.length_eq_zero_iff]
  simp only [verdict, htail, hnil]

theorem above_of_verdict_eq_keptLine (hverdict : block.verdict = .keptLine) : block.above = [] := by
  unfold verdict at hverdict
  split at hverdict
  · cases hverdict
  · split at hverdict
    · cases hverdict
    · split at hverdict
      · assumption
      · cases hverdict

end Block

namespace Construct

variable (style : CommentStyle)

/-- The lines of a run lose their markers one by one, and the line behind the run has none. -/
theorem lineRun_spec (following : List Text) :
    (following.take (lineRun style following).length).map (Opening.lineBody? style) =
        (lineRun style following).map some ∧
      ∀ next ∈ (following.drop (lineRun style following).length).head?,
        Opening.lineBody? style next = none := by
  induction following with
  | nil => simp [lineRun]
  | cons line rest ih =>
      cases hbody : Opening.lineBody? style line with
      | some body => simpa [lineRun, hbody] using ih
      | none => simp [lineRun, hbody]

/-- The tokens that a construct leaves, line by line. -/
def rows (construct : Construct) : List (List Token) :=
  match construct with
  | .code line => [lineTokens line]
  | .lineComment .. => bareRows construct.height
  | .blockComment line block _ =>
      match block.verdict with
      | .accepted => bareRows construct.height
      | .keptLine => [lineTokens line]
      | .keptTail tail => bareRows construct.extra ++ [lineTokens tail]

/-- The texts and the flavour of the comment that a construct delivers. -/
def comment? : Construct → Option (List Text × Bool)
  | .code _ => none
  | .lineComment first more isDoc => some (first :: more, isDoc)
  | .blockComment _ block isDoc =>
      match block.verdict with
      | .accepted => some (block.entries, isDoc)
      | .keptLine | .keptTail _ => none

theorem length_rows (construct : Construct) : construct.rows.length = construct.height := by
  cases construct with
  | code line => rfl
  | lineComment first more isDoc => exact List.length_replicate
  | blockComment line block isDoc =>
      cases hverdict : block.verdict with
      | accepted => simp only [rows, hverdict, bareRows, List.length_replicate]
      | keptLine =>
          have habove := Block.above_of_verdict_eq_keptLine hverdict
          simp only [rows, hverdict, height, extra, habove, List.length_nil, List.length_singleton]
      | keptTail tail =>
          simp only [rows, hverdict, height, bareRows, List.length_append, List.length_replicate,
            List.length_singleton]

theorem flatten_bareRows (count : Nat) :
    (bareRows count).flatten = List.replicate count Token.lineBreak := by
  induction count with
  | zero => rfl
  | succ count ih =>
      rw [bareRows, List.replicate_succ, List.flatten_cons, ← bareRows, ih, List.replicate_succ]
      rfl

theorem flatten_rows (construct : Construct) : construct.rows.flatten = construct.tokens := by
  cases construct with
  | code line => simp [rows, tokens]
  | lineComment first more isDoc => simp only [rows, tokens, flatten_bareRows]
  | blockComment line block isDoc =>
      simp only [rows, tokens]
      cases block.verdict <;> simp [flatten_bareRows]

end Construct

namespace Construct

variable {style : CommentStyle} {first body : Text} {following : List Text} {isDoc : Bool}

theorem stretch_lineComment (hopen : Opening.ofLine style first = .lineComment body isDoc) :
    Stretch style (following.drop (lineRun style following).length)
      ⟨first :: following.take (lineRun style following).length,
        bareRows ((lineRun style following).length + 1),
        some (body :: lineRun style following, isDoc)⟩ := by
  obtain ⟨hmore, hend⟩ := lineRun_spec style following
  have hstretch := Stretch.lineComment hopen hmore hend
  rwa [length_eq_of_map_eq_map_some hmore] at hstretch

variable {closer : Marker}

theorem stretch_blockComment
    (hopen : Opening.ofLine style first = .blockComment body closer isDoc) :
    Stretch style (following.drop (Block.read closer body following).above.length)
      ⟨first :: following.take (Block.read closer body following).above.length,
        rows (.blockComment first (Block.read closer body following) isDoc),
        comment? (.blockComment first (Block.read closer body following) isDoc)⟩ := by
  generalize hblock : Block.read closer body following = block
  -- The cases are those of the verdict: it looks behind the closer first and then at the height.
  cases htail : block.tail? with
  | none =>
      obtain ⟨hentries, hnone⟩ := Block.read_unclosed (hblock ▸ htail)
      rw [hblock] at hentries
      have hlength : block.above.length = following.length := by
        simpa [Block.entries] using congrArg List.length hentries
      rw [hlength, List.drop_length, List.take_length]
      have hverdict := Block.verdict_of_tail?_eq_none htail
      simp only [rows, comment?, hverdict, hentries, height, extra, hlength]
      exact .unclosed hopen hnone
  | some tail =>
      obtain ⟨final, htexts, habove, hclose⟩ := Block.read_closed (hblock ▸ htail)
      rw [hblock] at htexts habove hclose
      have hlength : (following.take block.above.length).length = block.above.length := by
        simpa using congrArg List.length htexts
      cases hblank : tail.all isBlank with
      | true =>
          have hverdict := Block.verdict_of_blank htail hblank
          simp only [rows, comment?, hverdict, height, extra, Block.entries]
          have hrows := congrArg (fun count => bareRows (count + 1)) hlength
          rw [← hrows]
          exact .closed hopen htexts habove hclose (List.all_eq_true.mp hblank)
      | false =>
          have hcode : ∃ c ∈ tail, isBlank c = false := by
            simpa only [List.all_eq_false, Bool.not_eq_true] using hblank
          have hverdict := Block.verdict_of_code htail hblank
          by_cases hfirst : block.above = []
          · rw [if_pos hfirst] at hverdict
            simp only [rows, comment?, hverdict, hfirst, List.length_nil, List.take_zero]
            simp only [hfirst, List.length_nil, List.take_zero, List.nil_append,
              List.cons.injEq, and_true] at htexts
            exact .keptLine hopen (htexts ▸ hclose) hcode
          · rw [if_neg hfirst] at hverdict
            simp only [rows, comment?, hverdict, extra]
            have hmore : following.take block.above.length ≠ [] := by
              rw [← List.length_pos_iff, hlength]
              exact List.length_pos_iff.mpr hfirst
            rw [← congrArg bareRows hlength]
            exact .keptTail hopen htexts hmore habove hclose hcode

theorem stretch_read (style : CommentStyle) (line : Text) (following : List Text) :
    Stretch style (following.drop (read style line following).extra)
      ⟨line :: following.take (read style line following).extra,
        (read style line following).rows, (read style line following).comment?⟩ := by
  cases hopen : Opening.ofLine style line with
  | code =>
      simp only [read, hopen, extra, rows, comment?, List.take_zero]
      exact .code hopen
  | lineComment body isDoc =>
      simp only [read, hopen]
      exact stretch_lineComment hopen
  | blockComment body closer isDoc =>
      simp only [read, hopen]
      exact stretch_blockComment hopen

end Construct

/-- The portions that the constructs of lines make of them. -/
def portions (style : CommentStyle) : List Text → List Portion
  | [] => []
  | line :: following =>
      let construct := Construct.read style line following
      ⟨line :: following.take construct.extra, construct.rows, construct.comment?⟩
        :: portions style (following.drop construct.extra)
termination_by lines => lines.length
decreasing_by
  simp only [List.length_drop, List.length_cons]
  omega

theorem layout_portions (style : CommentStyle) (lines : List Text) :
    Layout style lines (portions style lines) := by
  induction lines using portions.induct style with
  | case1 => rw [portions]; exact .nil
  | case2 line following construct ih =>
      rw [portions]
      have hlayout := Layout.cons (Construct.stretch_read style line following) ih
      rwa [List.cons_append, List.take_append_drop] at hlayout

theorem length_lines_read (style : CommentStyle) (line : Text) (following : List Text) :
    (line :: following.take (Construct.read style line following).extra).length =
      (Construct.read style line following).height := by
  rw [← Construct.length_rows]
  exact (Construct.stretch_read style line following).length_rows.symm

theorem flatMap_rows_portions (style : CommentStyle) (lines : List Text) :
    (portions style lines).flatMap Portion.rows =
      (constructs style lines).flatMap Construct.rows := by
  induction lines using portions.induct style with
  | case1 => rw [portions, constructs]; rfl
  | case2 line following construct ih =>
      rw [portions, constructs, List.flatMap_cons, List.flatMap_cons, ih]

theorem Construct.flatten_flatMap_rows (constructs : List Construct) :
    (constructs.flatMap rows).flatten = constructs.flatMap tokens := by
  induction constructs with
  | nil => rfl
  | cons construct rest ih =>
      rw [List.flatMap_cons, List.flatten_append, flatten_rows, ih, List.flatMap_cons]

/-- The rows of the portions are the tokens of the constructs. -/
theorem flatten_rows_portions (style : CommentStyle) (lines : List Text) :
    ((portions style lines).flatMap Portion.rows).flatten =
      (constructs style lines).flatMap Construct.tokens := by
  rw [flatMap_rows_portions, Construct.flatten_flatMap_rows]

/-! ## Only one layout -/

theorem Construct.lineRun_append {style : CommentStyle} {more bodies following : List Text}
    (hmore : more.map (Opening.lineBody? style) = bodies.map some)
    (hend : ∀ next ∈ following.head?, Opening.lineBody? style next = none) :
    lineRun style (more ++ following) = bodies := by
  induction more generalizing bodies with
  | nil =>
      rw [List.map_nil, eq_comm, List.map_eq_nil_iff] at hmore
      subst hmore
      cases following with
      | nil => rfl
      | cons next rest => simp only [List.nil_append, lineRun, hend next rfl]
  | cons line rest ih =>
      cases bodies with
      | nil => cases hmore
      | cons body bodies =>
          obtain ⟨hbody, hrest⟩ := List.cons.inj hmore
          simp only [List.cons_append, lineRun, hbody, ih hrest]

theorem Block.read_of_closed {closer : Marker} {body final before tail : Text}
    {more above following : List Text} (htexts : body :: more = above ++ [final])
    (habove : ∀ text ∈ above, ¬ closer.text <:+: text)
    (hclose : Text.FirstAt closer.text final before tail) :
    read closer body (more ++ following) = ⟨above, before, some tail⟩ := by
  induction above generalizing body more with
  | nil =>
      obtain ⟨rfl, rfl⟩ := List.cons.inj htexts
      unfold read
      rw [Text.splitAt?_eq_some_iff.mpr hclose]
  | cons text rest ih =>
      obtain ⟨rfl, hrest⟩ := List.cons.inj htexts
      obtain ⟨hfirst, hothers⟩ := List.forall_mem_cons.mp habove
      cases more with
      | nil => simp at hrest
      | cons next more =>
          rw [List.cons_append, read_cons (Text.splitAt?_eq_none_iff.mpr hfirst),
            ih hrest hothers]

theorem Block.read_of_unclosed {closer : Marker} {body : Text} {more : List Text}
    (hnone : ∀ text ∈ body :: more, ¬ closer.text <:+: text) :
    ∃ above last, body :: more = above ++ [last] ∧ read closer body more = ⟨above, last, none⟩ := by
  induction more generalizing body with
  | nil =>
      refine ⟨[], body, rfl, ?_⟩
      rw [read, Text.splitAt?_eq_none_iff.mpr (hnone body List.mem_cons_self)]
  | cons next more ih =>
      obtain ⟨hbody, hrest⟩ := List.forall_mem_cons.mp hnone
      obtain ⟨above, last, htexts, hread⟩ := ih hrest
      refine ⟨body :: above, last, congrArg _ htexts, ?_⟩
      rw [read_cons (Text.splitAt?_eq_none_iff.mpr hbody), hread]

/-- A stretch is what is read at its first line. -/
theorem Stretch.read_eq {style : CommentStyle} {following : List Text} {portion : Portion}
    (hstretch : Stretch style following portion) :
    ∃ first more, portion.lines = first :: more ∧
      (Construct.read style first (more ++ following)).extra = more.length ∧
      (Construct.read style first (more ++ following)).rows = portion.rows ∧
      (Construct.read style first (more ++ following)).comment? = portion.comment? := by
  cases hstretch with
  | @code line _ hopen =>
      refine ⟨line, [], rfl, ?_⟩
      simp only [Construct.read, hopen]
      exact ⟨rfl, rfl, rfl⟩
  | @lineComment first body isDoc more bodies following hopen hmore hend =>
      refine ⟨first, more, rfl, ?_⟩
      have hlength := length_eq_of_map_eq_map_some hmore
      simp only [Construct.read, hopen, Construct.lineRun_append hmore hend]
      refine ⟨hlength.symm, ?_, rfl⟩
      rw [Construct.rows, Construct.height, Construct.extra, hlength]
  | @closed first body final before tail closer isDoc more above following hopen htexts habove
      hclose hblank =>
      refine ⟨first, more, rfl, ?_⟩
      have hlength := length_of_cons_eq_concat htexts
      have hverdict : Block.verdict ⟨above, before, some tail⟩ = .accepted :=
        Block.verdict_of_blank rfl (List.all_eq_true.mpr hblank)
      simp only [Construct.read, hopen, Block.read_of_closed htexts habove hclose]
      simp only [Construct.rows, Construct.comment?, hverdict, Construct.height, Construct.extra,
        hlength]
      exact ⟨trivial, trivial, rfl⟩
  | @unclosed first body closer isDoc more hopen hnone =>
      refine ⟨first, more, rfl, ?_⟩
      obtain ⟨above, last, htexts, hread⟩ := Block.read_of_unclosed hnone
      have hlength := length_of_cons_eq_concat htexts
      have hverdict : Block.verdict ⟨above, last, none⟩ = .accepted :=
        Block.verdict_of_tail?_eq_none rfl
      simp only [Construct.read, hopen, List.append_nil, hread]
      simp only [Construct.rows, Construct.comment?, hverdict, Construct.height, Construct.extra,
        hlength, Block.entries, htexts]
      exact ⟨trivial, trivial, trivial⟩
  | @keptLine first body before tail closer isDoc following hopen hclose hcode =>
      refine ⟨first, [], rfl, ?_⟩
      have hverdict : Block.verdict ⟨[], before, some tail⟩ = .keptLine := by
        rw [Block.verdict_of_code rfl (List.all_eq_false.mpr (by simpa using hcode)), if_pos rfl]
      have hread : Block.read closer body ([] ++ following) = ⟨[], before, some tail⟩ :=
        Block.read_of_closed (List.nil_append [body]).symm (by simp) hclose
      simp only [Construct.read, hopen, hread]
      simp only [Construct.rows, Construct.comment?, hverdict, Construct.extra]
      exact ⟨trivial, trivial, trivial⟩
  | @keptTail first body final before tail closer isDoc more above following hopen htexts hmore
      habove hclose hcode =>
      refine ⟨first, more, rfl, ?_⟩
      have hlength := length_of_cons_eq_concat htexts
      have hlong : above ≠ [] := by
        rw [← List.length_pos_iff, hlength]
        exact List.length_pos_iff.mpr hmore
      have hverdict : Block.verdict ⟨above, before, some tail⟩ = .keptTail tail := by
        rw [Block.verdict_of_code rfl (List.all_eq_false.mpr (by simpa using hcode)),
          if_neg hlong]
      simp only [Construct.read, hopen, Block.read_of_closed htexts habove hclose]
      simp only [Construct.rows, Construct.comment?, hverdict, Construct.extra, hlength]
      exact ⟨trivial, trivial, trivial⟩

/-- Lines can be laid out in one way only. -/
theorem layout_iff {style : CommentStyle} {lines : List Text} {parts : List Portion} :
    Layout style lines parts ↔ parts = portions style lines := by
  constructor
  · intro hlayout
    induction hlayout with
    | nil => rw [portions]
    | @cons portion following parts hfirst _ ih =>
        -- The construct read at the first line says how many lines the stretch has taken.
        obtain ⟨first, more, hlines, hextra, hrows, hcomment⟩ := hfirst.read_eq
        rw [hlines, List.cons_append, portions, hextra, hrows, hcomment, List.take_left,
          List.drop_left, ← hlines, ih]
  · rintro rfl
    exact layout_portions style lines

end SourceScan
