import Mathlib.Logic.Function.Iterate
import SourceScan.CommentStyle.Presets
import SourceScan.Proofs.Comment.LooseMarkers
import SourceScan.Proofs.Lexer.Delivery
import SourceScan.Proofs.Lexer.Placement

/-! # Turn by turn

A scan may be taken apart into turns, each of which looks at one line by its index. A turn is at
fault if that line is not there, if a block comment has no closer to look for, or if a marker that
nobody has checked is empty. With the markers of an accepted description none of this happens. The
turns come to an end and do what a pass does, and each construct is left behind its first line and
within the lines.
-/

namespace SourceScan

/-- Where a scan stands. -/
inductive Phase where
  /-- In front of the next construct. -/
  | between
  /-- In a run of line comments, with the texts of its lines above and that of the current line. -/
  | lineRun (lineno : Nat) (entries : List Text) (body : Text) (isDoc : Bool)
  /-- In a block comment, with the texts of its lines above and that of the current line. -/
  | block (lineno : Nat) (entries : List Text) (text closer : Text) (isDoc isMultiline : Bool)
deriving DecidableEq, Repr

/-- A scan that is not at its end. -/
structure Scan (σ : Type) where
  index : Nat := 0
  phase : Phase := .between
  progress : Progress σ
  log : List Event := []

/-- What a turn leads to. -/
inductive Turn (σ : Type) where
  | on (scan : Scan σ)
  | finished (pass : Pass σ)

/-- Whether a scan goes on within the construct that it stands in. -/
def Turn.StaysInside {σ : Type} : Turn σ → Prop
  | .on scan => scan.phase ≠ .between
  | .finished _ => False

variable {σ : Type} [Sink σ]

namespace Scan

/-- The scan one line further on, with a lone line break for the line. -/
def skipLine (scan : Scan σ) : Scan σ :=
  { scan with
    index := scan.index + 1
    progress := { scan.progress with stream := scan.progress.stream.addBreak } }

/-- The scan between constructs, one line further on, with code for the line. -/
def keepLine (scan : Scan σ) (code : Text) : Scan σ :=
  { scan with
    index := scan.index + 1
    phase := .between
    progress := { scan.progress with stream := scan.progress.stream.addLine code } }

/-- The scan with one more block comment kept as code. -/
def report (scan : Scan σ) (event : Event) : Scan σ :=
  { scan with
    progress := { scan.progress with kept := scan.progress.kept + 1 }
    log := scan.log ++ [event] }

/-- Counts a run and hands it to the sink. -/
def emit (scan : Scan σ) (run : CommentRun) : Turn σ :=
  let (sink, failure) := offer scan.progress.sink run
  let progress := { scan.progress with delivered := scan.progress.delivered + 1, sink }
  match failure with
  | none => .on { scan with phase := .between, progress }
  | some error => .finished ⟨progress, scan.log, some error⟩

end Scan

/-- Lines to be scanned with markers of any texts. -/
structure Scanner where
  lines : List Text
  style : LooseStyle
  file : Option String := none

namespace Scanner

/-- The line at an index, which must be there. -/
def lineAt (scanner : Scanner) (index : Nat) : Except ScanFault Text :=
  match scanner.lines[index]? with
  | some line => .ok line
  | none => .error .noLine

/-- The line at an index, after a look at the number of lines. -/
def lineAt? (scanner : Scanner) (index : Nat) : Except ScanFault (Option Text) :=
  if scanner.lines.length ≤ index then .ok none else some <$> scanner.lineAt index

/-- The turn that looks at what the next line opens. -/
def dispatch (scanner : Scanner) (scan : Scan σ) : Except ScanFault (Turn σ) := do
  let line ← scanner.lineAt scan.index
  let opening ← scanner.style.opening line
  match opening.mode with
  | .code => return .on (scan.keepLine line)
  | .lineComment =>
      return .on { scan with
        phase := .lineRun (scan.index + 1) [] opening.body opening.isDoc }
  | .blockComment =>
      match opening.closer? with
      | none => .error .noCloser
      | some closer =>
          return .on { scan with
            phase := .block (scan.index + 1) [] opening.body closer opening.isDoc false }

/-- The turn that goes on with a run of line comments, or ends it. -/
def continueRun (scanner : Scanner) (scan : Scan σ) (lineno : Nat) (entries : List Text)
    (body : Text) (isDoc : Bool) : Except ScanFault (Turn σ) := do
  let entries := entries ++ [body]
  let scan := scan.skipLine
  match ← scanner.lineAt? scan.index with
  | none => return scan.emit ⟨entries, lineno, isDoc⟩
  | some line =>
      match ← scanner.style.lineBody? line with
      | none => return scan.emit ⟨entries, lineno, isDoc⟩
      | some next => return .on { scan with phase := .lineRun lineno entries next isDoc }

/-- The turn that looks for the closer of a block comment, and decides what the block is. -/
def continueBlock (scanner : Scanner) (scan : Scan σ) (lineno : Nat) (entries : List Text)
    (text closer : Text) (isDoc isMultiline : Bool) : Except ScanFault (Turn σ) := do
  match Text.splitAt? closer text with
  | none =>
      let entries := entries ++ [text]
      let scan := scan.skipLine
      match ← scanner.lineAt? scan.index with
      | none => return scan.emit ⟨entries, lineno, isDoc⟩
      | some line => return .on { scan with phase := .block lineno entries line closer isDoc true }
  | some (before, tail) =>
      if tail.all isBlank then return scan.skipLine.emit ⟨entries ++ [before], lineno, isDoc⟩
      if isMultiline then return .on ((scan.report (.keptTail lineno)).keepLine tail)
      let line ← scanner.lineAt scan.index
      return .on ((scan.report (.keptLine lineno)).keepLine line)

/-- One turn of a scan. -/
def step (scanner : Scanner) (scan : Scan σ) : Except ScanFault (Turn σ) :=
  match scan.phase with
  | .between =>
      if scan.index < scanner.lines.length then scanner.dispatch scan
      else
        .ok (.finished
          { progress := scan.progress
            log := scan.log ++ [.split scanner.file scanner.lines.length scan.progress.delivered
              scan.progress.kept]
            failure := none })
  | .lineRun lineno entries body isDoc => scanner.continueRun scan lineno entries body isDoc
  | .block lineno entries text closer isDoc isMultiline =>
      scanner.continueBlock scan lineno entries text closer isDoc isMultiline

/-- One turn more, unless the scan is at its end. -/
def advance (scanner : Scanner) (reached : Except ScanFault (Turn σ)) :
    Except ScanFault (Turn σ) := do
  match ← reached with
  | .on scan => scanner.step scan
  | .finished pass => return .finished pass

/-- So many turns lead from a scan to another turn, and the scan stays within one construct up to
the last of them. -/
inductive Leaves (scanner : Scanner) : Nat → Scan σ → Turn σ → Prop where
  | now {scan : Scan σ} {turn : Turn σ} (hstep : scanner.step scan = .ok turn)
      (houtside : ¬ turn.StaysInside) : Leaves scanner 1 scan turn
  | later {turns : Nat} {scan next : Scan σ} {turn : Turn σ}
      (hstep : scanner.step scan = .ok (.on next)) (hinside : next.phase ≠ .between)
      (hrest : Leaves scanner turns next turn) : Leaves scanner (turns + 1) scan turn

end Scanner

/-! ## One construct -/

namespace Block

variable {closer : Marker} {text before tail : Text}

theorem read_of_splitAt?_eq_some (hclosed : Text.splitAt? closer.text text = some (before, tail))
    (following : List Text) : read closer text following = ⟨[], before, some tail⟩ := by
  unfold read
  rw [hclosed]

theorem read_nil (hopen : Text.splitAt? closer.text text = none) :
    read closer text [] = ⟨[], text, none⟩ := by
  rw [read, hopen]

end Block

namespace Scan

/-- The scan so many lines further on within a construct, with a lone line break for each line. -/
def within (start : Scan σ) (count : Nat) (phase : Phase) : Scan σ :=
  { start with
    index := start.index + count
    phase
    progress := { start.progress with
      stream := start.progress.stream.append (List.replicate count Token.lineBreak) } }

/-- The scan behind a construct. -/
def past (scan : Scan σ) (placed : Placed) : Scan σ where
  index := scan.index + placed.construct.height
  phase := .between
  progress :=
    { stream := scan.progress.stream.append placed.tokens
      delivered := scan.progress.delivered + placed.run?.toList.length
      kept := scan.progress.kept + placed.report?.toList.length
      sink := handed scan.progress.sink placed.run?.toList }
  log := scan.log ++ placed.report?.toList

/-- The error of the sink, if it is handed a run by a construct and refuses it. -/
def refusal? (scan : Scan σ) (placed : Placed) : Option CallbackError :=
  placed.run?.bind fun run => (offer scan.progress.sink run).2

/-- The turn behind a construct. -/
def take (scan : Scan σ) (placed : Placed) : Turn σ :=
  match scan.refusal? placed with
  | none => .on (scan.past placed)
  | some error => .finished ⟨(scan.past placed).progress, (scan.past placed).log, some error⟩

theorem not_staysInside_take (scan : Scan σ) (placed : Placed) :
    ¬ (scan.take placed).StaysInside := by
  unfold take
  cases scan.refusal? placed with
  | none => exact fun hinside => hinside rfl
  | some error => exact id

theorem take_of_run?_eq_none (scan : Scan σ) {placed : Placed} (hrun : placed.run? = none) :
    scan.take placed = .on (scan.past placed) := by
  rw [take, refusal?, hrun]
  rfl

omit [Sink σ] in
theorem within_zero (scan : Scan σ) (phase : Phase) :
    scan.within 0 phase = { scan with phase } := by
  simp only [within, TokenStream.append, List.replicate_zero, List.append_nil]
  rfl

omit [Sink σ] in
theorem skipLine_within (start : Scan σ) (count : Nat) (phase : Phase) :
    (start.within count phase).skipLine = start.within (count + 1) phase := by
  simp only [within, skipLine, TokenStream.addBreak, TokenStream.append, List.append_assoc,
    List.replicate_succ']
  rfl

/-- A block comment that is kept as code leaves its code behind the lone line breaks. -/
theorem keepLine_within (start : Scan σ) {placed : Placed} {event : Event} {code : Text}
    {count : Nat} (hrun : placed.run? = none) (hreport : placed.report? = some event)
    (htokens : placed.tokens = List.replicate count Token.lineBreak ++ lineTokens code)
    (hcount : count = placed.construct.extra) (phase : Phase) :
    .on (((start.within count phase).report event).keepLine code) = start.take placed := by
  simp only [take_of_run?_eq_none start hrun, past, hrun, hreport, htokens, keepLine, report,
    within, TokenStream.addLine, TokenStream.append, List.append_assoc]
  rw [hcount]
  rfl

/-- A run is handed over where its construct ends. -/
theorem emit_within (start : Scan σ) {placed : Placed} {run : CommentRun} {count : Nat}
    (hrun : placed.run? = some run) (hcount : count = placed.construct.height) (phase : Phase) :
    (start.within count phase).emit run = start.take placed := by
  obtain ⟨-, -, hrows, hreport⟩ := Placed.of_run?_eq_some hrun
  have htokens : placed.tokens = List.replicate count Token.lineBreak := by
    rw [Placed.tokens, ← Construct.flatten_rows, hrows, Construct.flatten_bareRows, hcount]
  subst hcount
  simp only [emit, within, take, refusal?, past, hrun, hreport, htokens, Option.bind_some]
  cases (offer start.progress.sink run).2 with
  | none => simp [handed]
  | some error => simp [handed]

end Scan

namespace Scanner

variable {scanner : Scanner} {start : Scan σ}

theorem getElem?_of_drop_eq_cons {index : Nat} {line : Text} {following : List Text}
    (hdrop : scanner.lines.drop index = line :: following) :
    scanner.lines[index]? = some line ∧ scanner.lines.drop (index + 1) = following := by
  constructor
  · have hfirst : (scanner.lines.drop index)[0]? = scanner.lines[index]? := by
      rw [List.getElem?_drop, Nat.add_zero]
    rw [← hfirst, hdrop]
    rfl
  · rw [← List.drop_drop, hdrop]
    rfl

theorem lineAt_of_getElem? {index : Nat} {line : Text}
    (hline : scanner.lines[index]? = some line) : scanner.lineAt index = .ok line := by
  rw [lineAt, hline]

/-- A look at the number of lines rules out that a line is not there. -/
theorem lineAt?_eq (index : Nat) : scanner.lineAt? index = .ok scanner.lines[index]? := by
  unfold lineAt?
  by_cases hindex : scanner.lines.length ≤ index
  · rw [if_pos hindex, List.getElem?_eq_none hindex]
  · have hline := List.getElem?_eq_getElem (Nat.not_le.mp hindex)
    rw [if_neg hindex, lineAt_of_getElem? hline, hline]
    rfl

section LineRun

variable {count lineno : Nat} {entries : List Text} {phase : Phase} {body : Text} {isDoc : Bool}

/-- A run of line comments goes on if a plain line marker opens the next line. -/
theorem continueRun_within {style : CommentStyle} (hstyle : scanner.style = style.loose) :
    scanner.continueRun (start.within count phase) lineno entries body isDoc =
      .ok (match scanner.lines[start.index + count + 1]?.bind (Opening.lineBody? style) with
      | none => (start.within (count + 1) phase).emit ⟨entries ++ [body], lineno, isDoc⟩
      | some next =>
          .on (start.within (count + 1) (.lineRun lineno (entries ++ [body]) next isDoc))) := by
  have hindex : (start.within (count + 1) phase).index = start.index + count + 1 := rfl
  simp only [continueRun, Scan.skipLine_within, lineAt?_eq, hindex, hstyle]
  cases scanner.lines[start.index + count + 1]? with
  | none => rfl
  | some line =>
      simp only [ok_bind, Opening.lineBody?_loose, Option.bind_some]
      cases Opening.lineBody? style line <;> rfl

/-- A run of line comments is left behind its last line. -/
theorem leaves_lineRun {style : CommentStyle} (hstyle : scanner.style = style.loose)
    {first : Text} {more following : List Text} (entries : List Text) (body : Text)
    (hdrop : scanner.lines.drop (start.index + entries.length + 1) = following)
    (hentries : entries ++ body :: Construct.lineRun style following = first :: more) :
    scanner.Leaves ((Construct.lineRun style following).length + 1)
      (start.within entries.length (.lineRun (start.index + 1) entries body isDoc))
      (start.take ⟨start.index + 1, .lineComment first more isDoc⟩) := by
  -- The run is handed over if no line goes on with it.
  have hend : ∀ {entries body}, entries ++ [body] = first :: more → ∀ phase : Phase,
      (start.within (entries.length + 1) phase).emit
          ⟨entries ++ [body], ((start.index + 1 : Nat) : Int), isDoc⟩ =
        start.take ⟨start.index + 1, .lineComment first more isDoc⟩ := by
    intro entries body hrun phase
    rw [hrun]
    apply Scan.emit_within
    · rfl
    · have hlength := congrArg List.length hrun
      rw [List.length_append, List.length_cons] at hlength
      exact hlength
  induction following generalizing entries body with
  | nil =>
      have hline : scanner.lines[start.index + entries.length + 1]? = none :=
        List.getElem?_eq_none (List.drop_eq_nil_iff.mp hdrop)
      apply Leaves.now _ (start.not_staysInside_take _)
      refine (continueRun_within hstyle).trans ?_
      rw [hline, ← hend hentries]
      rfl
  | cons line rest ih =>
      obtain ⟨hline, hrest⟩ := getElem?_of_drop_eq_cons hdrop
      cases hbody : Opening.lineBody? style line with
      | none =>
          rw [Construct.lineRun, hbody] at hentries ⊢
          apply Leaves.now _ (start.not_staysInside_take _)
          refine (continueRun_within hstyle).trans ?_
          rw [hline, Option.bind_some, hbody, ← hend hentries]
      | some next =>
          rw [Construct.lineRun, hbody] at hentries ⊢
          have hlength : (entries ++ [body]).length = entries.length + 1 := List.length_append
          have hleaves := ih (entries ++ [body]) next (by rw [hlength]; exact hrest)
            (by rwa [List.append_assoc])
          rw [hlength] at hleaves
          refine .later ?_ Phase.noConfusion hleaves
          refine (continueRun_within hstyle).trans ?_
          rw [hline, Option.bind_some, hbody]

end LineRun

section Block

variable {lineno : Nat} {text : Text} {closer : Marker} {isDoc isMultiline : Bool}

/-- A block comment goes on with the next line, if its closer is not on this one. -/
theorem continueBlock_open {count : Nat} {entries : List Text} {phase : Phase} {closer : Text}
    (hopen : Text.splitAt? closer text = none) :
    scanner.continueBlock (start.within count phase) lineno entries text closer isDoc isMultiline =
      .ok (match scanner.lines[start.index + count + 1]? with
      | none => (start.within (count + 1) phase).emit ⟨entries ++ [text], lineno, isDoc⟩
      | some line =>
          .on (start.within (count + 1)
            (.block lineno (entries ++ [text]) line closer isDoc true))) := by
  have hindex : (start.within (count + 1) phase).index = start.index + count + 1 := rfl
  simp only [continueBlock, hopen, Scan.skipLine_within, lineAt?_eq, hindex]
  cases scanner.lines[start.index + count + 1]? <;> rfl

/-- A block comment that is accepted is handed over behind its last line. -/
theorem emit_block {line : Text} {block : Block} (hverdict : block.verdict = .accepted)
    {count : Nat} (hcount : count = block.above.length + 1) (phase : Phase) :
    (start.within count phase).emit
        ⟨block.entries, ((start.index + 1 : Nat) : Int), isDoc⟩ =
      start.take ⟨start.index + 1, .blockComment line block isDoc⟩ := by
  apply Scan.emit_within
  · simp only [Placed.run?, hverdict]
  · exact hcount

/-- A block comment that is closed on this line is left behind it. -/
theorem continueBlock_closed {line before tail : Text} (entries : List Text)
    (hline : scanner.lines[start.index]? = some line)
    (hclosed : Text.splitAt? closer.text text = some (before, tail)) (phase : Phase) :
    scanner.continueBlock (start.within entries.length phase) (start.index + 1) entries text
        closer.text isDoc (!entries.isEmpty) =
      .ok (start.take
        ⟨start.index + 1, .blockComment line ⟨entries, before, some tail⟩ isDoc⟩) := by
  cases hblank : tail.all isBlank with
  | true =>
      have hverdict : (⟨entries, before, some tail⟩ : Block).verdict = .accepted :=
        Block.verdict_of_blank rfl hblank
      simp only [continueBlock, hclosed, hblank, if_true, Scan.skipLine_within]
      rw [← emit_block hverdict rfl phase]
      rfl
  | false =>
      have hverdict : (⟨entries, before, some tail⟩ : Block).verdict =
          if entries = [] then .keptLine else .keptTail tail :=
        Block.verdict_of_code rfl hblank
      simp only [continueBlock, hclosed, hblank, Bool.false_eq_true, if_false]
      cases entries with
      | nil =>
          rw [if_pos rfl] at hverdict
          have hcurrent : scanner.lineAt (start.within 0 phase).index = .ok line :=
            lineAt_of_getElem? hline
          change (scanner.lineAt (start.within 0 phase).index >>= _) = _
          rw [hcurrent]
          apply congrArg Except.ok
          apply Scan.keepLine_within
          · simp only [Placed.run?, hverdict]
          · simp only [Placed.report?, hverdict]
          · simp only [Placed.tokens, Construct.tokens, hverdict]
            rfl
          · rfl
      | cons first more =>
          rw [if_neg (List.cons_ne_nil first more)] at hverdict
          apply congrArg Except.ok
          apply Scan.keepLine_within
          · simp only [Placed.run?, hverdict]
          · simp only [Placed.report?, hverdict]
          · simp only [Placed.tokens, Construct.tokens, hverdict, Construct.extra]
          · rfl

theorem leaves_block_closed {line before tail : Text} (entries following : List Text)
    (hline : scanner.lines[start.index]? = some line)
    (hclosed : Text.splitAt? closer.text text = some (before, tail)) :
    scanner.Leaves ((Block.read closer text following).above.length + 1)
      (start.within entries.length
        (.block (start.index + 1) entries text closer.text isDoc (!entries.isEmpty)))
      (start.take ⟨start.index + 1, .blockComment line { Block.read closer text following with
        above := entries ++ (Block.read closer text following).above } isDoc⟩) := by
  rw [Block.read_of_splitAt?_eq_some hclosed, List.append_nil]
  exact .now (continueBlock_closed entries hline hclosed _) (start.not_staysInside_take _)

/-- A block comment is left behind the line of its closer, or behind the last line. -/
theorem leaves_block {line : Text} (hline : scanner.lines[start.index]? = some line)
    {block : Block} {following : List Text} (entries : List Text) (text : Text)
    (hdrop : scanner.lines.drop (start.index + entries.length + 1) = following)
    (hblock : { Block.read closer text following with
      above := entries ++ (Block.read closer text following).above } = block) :
    scanner.Leaves ((Block.read closer text following).above.length + 1)
      (start.within entries.length
        (.block (start.index + 1) entries text closer.text isDoc (!entries.isEmpty)))
      (start.take ⟨start.index + 1, .blockComment line block isDoc⟩) := by
  subst hblock
  induction following generalizing entries text with
  | nil =>
      cases hsplit : Text.splitAt? closer.text text with
      | some found => exact leaves_block_closed entries _ hline hsplit
      | none =>
          have hlast : scanner.lines[start.index + entries.length + 1]? = none :=
            List.getElem?_eq_none (List.drop_eq_nil_iff.mp hdrop)
          rw [Block.read_nil hsplit]
          apply Leaves.now _ (start.not_staysInside_take _)
          refine (continueBlock_open hsplit).trans ?_
          have hverdict : (⟨entries, text, none⟩ : Block).verdict = .accepted :=
            Block.verdict_of_tail?_eq_none rfl
          rw [hlast, List.append_nil]
          exact congrArg Except.ok (emit_block hverdict rfl _)
  | cons next rest ih =>
      cases hsplit : Text.splitAt? closer.text text with
      | some found => exact leaves_block_closed entries _ hline hsplit
      | none =>
          obtain ⟨hnext, hrest⟩ := getElem?_of_drop_eq_cons hdrop
          rw [Block.read_cons hsplit]
          have hlength : (entries ++ [text]).length = entries.length + 1 := List.length_append
          have hleaves := ih (entries ++ [text]) next (by rw [hlength]; exact hrest)
          have hmultiline : (!(entries ++ [text]).isEmpty) = true := by simp
          rw [hlength, List.append_assoc, hmultiline] at hleaves
          refine .later ?_ Phase.noConfusion hleaves
          refine (continueBlock_open hsplit).trans ?_
          rw [hnext]

end Block

/-- The construct that begins on the next line is left, and each of its lines takes one turn. -/
theorem leaves_take (scanner : Scanner) {style : CommentStyle}
    (hstyle : scanner.style = style.loose) {scan : Scan σ} (hphase : scan.phase = .between)
    {line : Text} {following : List Text}
    (hdrop : scanner.lines.drop scan.index = line :: following) :
    ∃ turns ≤ (Construct.read style line following).height + 1,
      scanner.Leaves turns scan
        (scan.take ⟨scan.index + 1, Construct.read style line following⟩) := by
  obtain ⟨hline, hrest⟩ := getElem?_of_drop_eq_cons hdrop
  have hindex := (List.getElem?_eq_some_iff.mp hline).1
  have hstep : scanner.step scan = scanner.dispatch scan := by
    rw [step, hphase]
    exact if_pos hindex
  rw [dispatch, lineAt_of_getElem? hline, ok_bind, hstyle, Opening.opening_loose, ok_bind] at hstep
  unfold Construct.read
  cases hopen : Opening.ofLine style line with
  | code =>
      rw [hopen] at hstep
      refine ⟨1, by omega, .now ?_ (scan.not_staysInside_take _)⟩
      rw [hstep, scan.take_of_run?_eq_none rfl]
      simp only [Scan.past, Placed.report?, Option.toList_none, List.append_nil]
      rfl
  | lineComment body isDoc =>
      rw [hopen] at hstep
      refine ⟨(Construct.lineRun style following).length + 1 + 1, Nat.le_refl _, ?_⟩
      refine .later (hstep.trans ?_) Phase.noConfusion (leaves_lineRun hstyle [] body hrest rfl)
      rw [List.length_nil, Scan.within_zero]
      rfl
  | blockComment body closer isDoc =>
      rw [hopen] at hstep
      refine ⟨(Block.read closer body following).above.length + 1 + 1, Nat.le_refl _, ?_⟩
      refine .later (hstep.trans ?_) Phase.noConfusion (leaves_block hline [] body hrest rfl)
      rw [List.length_nil, Scan.within_zero]
      rfl

/-! ## All constructs -/

theorem iterate_of_leaves {turns : Nat} {scan : Scan σ} {turn : Turn σ}
    (hleaves : scanner.Leaves turns scan turn) :
    scanner.advance^[turns] (.ok (.on scan)) = .ok turn := by
  induction hleaves with
  | now hstep => exact hstep
  | later hstep _ _ ih =>
      rw [Function.iterate_succ_apply, ← ih]
      exact congrArg _ hstep

/-- What a scan that stands between constructs comes to if these are the ones in front of it. -/
def ending (scanner : Scanner) (scan : Scan σ) (placed : List Placed) : Pass σ :=
  let delivery := deliver scan.progress.sink placed
  let reports := delivery.taken.filterMap Placed.report?
  let delivered := scan.progress.delivered + (delivery.taken.filterMap Placed.run?).length
  let kept := scan.progress.kept + reports.length
  { progress :=
      { stream := scan.progress.stream.append (delivery.taken.flatMap Placed.tokens)
        delivered, kept, sink := delivery.sink }
    log := match delivery.failure with
      | none =>
          scan.log ++ reports ++ [.split scanner.file scanner.lines.length delivered kept]
      | some _ => scan.log ++ reports
    failure := delivery.failure }

theorem ending_cons (scanner : Scanner) (scan : Scan σ) (placed : Placed) (rest : List Placed) :
    scanner.ending scan (placed :: rest) =
      match scan.refusal? placed with
      | none => scanner.ending (scan.past placed) rest
      | some error => ⟨(scan.past placed).progress, (scan.past placed).log, some error⟩ := by
  unfold ending Scan.refusal?
  rw [deliver_cons]
  cases placed.run?.bind fun run => (offer scan.progress.sink run).2 with
  | none =>
      simp only [List.filterMap_eq_flatMap_toList, List.flatMap_cons, Scan.past,
        List.length_append, TokenStream.append, List.append_assoc, Nat.add_assoc]
  | some error =>
      simp only [List.filterMap_eq_flatMap_toList, List.flatMap_singleton, Scan.past]

/-- From any place between constructs the turns come to an end, after so many as there are lines
left, each counted twice, and one for the closing report. -/
theorem exists_finished (scanner : Scanner) {style : CommentStyle}
    (hstyle : scanner.style = style.loose) {rest : List Text} (scan : Scan σ)
    (hphase : scan.phase = .between) (hdrop : scanner.lines.drop scan.index = rest) :
    ∃ turns ≤ 2 * rest.length + 1, scanner.advance^[turns] (.ok (.on scan)) =
      .ok (.finished (scanner.ending scan (place (scan.index + 1) (constructs style rest)))) := by
  induction rest using constructs.induct style generalizing scan with
  | case1 =>
      refine ⟨1, Nat.le_refl _, ?_⟩
      have hindex := Nat.not_lt.mpr (List.drop_eq_nil_iff.mp hdrop)
      change scanner.step scan = _
      rw [step, hphase, constructs]
      refine (if_neg hindex).trans ?_
      simp only [place, ending, deliver, TokenStream.append, List.filterMap_nil, List.flatMap_nil,
        List.append_nil]
      rfl
  | case2 line following construct ih =>
      obtain ⟨turns, hturns, hleaves⟩ := leaves_take scanner hstyle hphase hdrop
      have hturns : turns ≤ construct.extra + 1 + 1 := hturns
      have hextra : construct.extra ≤ following.length :=
        Construct.extra_read_le style line following
      rw [constructs, place, ending_cons]
      cases hrefusal : scan.refusal? ⟨scan.index + 1, construct⟩ with
      | some error =>
          refine ⟨turns, ?_, ?_⟩
          · rw [List.length_cons]
            omega
          · rw [iterate_of_leaves hleaves, Scan.take, hrefusal]
      | none =>
          have hrest : scanner.lines.drop (scan.index + construct.height) =
              following.drop construct.extra := by
            rw [← List.drop_drop, hdrop, Construct.height, List.drop_succ_cons]
          obtain ⟨more, hmore, hfinished⟩ := ih (scan.past ⟨scan.index + 1, construct⟩) rfl hrest
          refine ⟨more + turns, ?_, ?_⟩
          · rw [List.length_drop] at hmore
            rw [List.length_cons]
            omega
          · rw [Function.iterate_add_apply, iterate_of_leaves hleaves, Scan.take, hrefusal]
            refine hfinished.trans ?_
            rw [Scan.past, Nat.add_right_comm]

/-- Enough turns from the start do what a pass does. -/
theorem iterate_start (scanner : Scanner) {style : CommentStyle}
    (hstyle : scanner.style = style.loose) (progress : Progress σ) {turns : Nat}
    (hturns : 2 * scanner.lines.length < turns) :
    scanner.advance^[turns] (.ok (.on { progress })) =
      .ok (.finished
        (({ lines := scanner.lines, style, file := scanner.file } : Lexer).tokenize progress)) := by
  obtain ⟨least, hleast, hfinished⟩ :=
    scanner.exists_finished hstyle ({ progress } : Scan σ) rfl rfl
  obtain ⟨more, rfl⟩ := Nat.exists_eq_add_of_le' (Nat.le_trans hleast hturns)
  rw [Function.iterate_add_apply, hfinished]
  exact Function.iterate_fixed rfl more

/-- A sink that refuses nothing lets a scan come back between constructs. -/
theorem exists_leaves_of_willing (scanner : Scanner) {style : CommentStyle}
    (hstyle : scanner.style = style.loose) {scan : Scan σ} (hphase : scan.phase = .between)
    (hindex : scan.index < scanner.lines.length) (hsink : Willing scan.progress.sink) :
    ∃ turns ≤ scanner.lines.length - scan.index + 1, ∃ next,
      scanner.Leaves turns scan (.on next) ∧ next.phase = .between ∧
        scan.index < next.index ∧ next.index ≤ scanner.lines.length := by
  obtain ⟨line, following, hdrop⟩ := List.exists_cons_of_ne_nil
    (fun hnil => Nat.not_le.mpr hindex (List.drop_eq_nil_iff.mp hnil))
  obtain ⟨turns, hturns, hleaves⟩ := leaves_take scanner hstyle hphase hdrop
  have hextra := Construct.extra_read_le style line following
  have hlength : scanner.lines.length - scan.index = following.length + 1 := by
    rw [← List.length_drop, hdrop, List.length_cons]
  have hrefusal : scan.refusal? ⟨scan.index + 1, Construct.read style line following⟩ = none := by
    rw [Scan.refusal?, Option.bind_eq_none_iff]
    exact fun run _ => hsink [] run
  rw [Scan.take, hrefusal] at hleaves
  rw [Construct.height] at hturns
  refine ⟨turns, by omega, _, hleaves, rfl, ?_, ?_⟩
  · exact Nat.lt_add_of_pos_right (Nat.succ_pos _)
  · change scan.index + ((Construct.read style line following).extra + 1) ≤ _
    omega

/-- With the markers of an accepted description, the turns of a scan come to an end and do what a
pass does, whatever the lines, the sink and what was done before. No turn is at fault, and if the
sink refuses nothing, nothing ends the pass early. A scan between constructs that has lines in front
of it then comes back between constructs, one line further on at least and not behind the last. -/
theorem advance_of_describe {fields : List (Text × Value)} {style : CommentStyle}
    (haccepted : CommentStyle.describe fields = .ok style) (lines : List Text)
    (file : Option String) (progress : Progress σ) :
    ∃ loose, LooseStyle.read? fields = some loose ∧
      let scanner : Scanner := { lines, style := loose, file }
      let lexer : Lexer := { lines, style, file }
      let reached := fun turns : Nat => scanner.advance^[turns] (.ok (.on { progress }))
      (∀ turns, 2 * lines.length < turns →
        reached turns = .ok (.finished (lexer.tokenize progress))) ∧
      (∀ turns fault, reached turns ≠ .error fault) ∧
      (Willing progress.sink → (lexer.tokenize progress).failure = none) ∧
      ∀ scan : Scan σ, scan.phase = .between → scan.index < lines.length →
        Willing scan.progress.sink →
          ∃ turns ≤ lines.length - scan.index + 1, ∃ next,
            scanner.Leaves turns scan (.on next) ∧ next.phase = .between ∧
              scan.index < next.index ∧ next.index ≤ lines.length := by
  refine ⟨style.loose, LooseStyle.read?_of_describe haccepted, ?_⟩
  intro scanner lexer reached
  have hfinished : ∀ turns, 2 * lines.length < turns →
      reached turns = .ok (.finished (lexer.tokenize progress)) :=
    fun turns hturns => scanner.iterate_start rfl progress hturns
  refine ⟨hfinished, ?_, lexer.failure_of_willing, ?_⟩
  · intro turns fault hfault
    -- A scan at fault would stay so, but after enough turns it is at its end.
    have hstays : reached (2 * lines.length + 1 + turns) = .error fault := by
      change scanner.advance^[2 * lines.length + 1 + turns] _ = _
      rw [Function.iterate_add_apply]
      exact (congrArg _ hfault).trans (Function.iterate_fixed rfl _)
    rw [hfinished _ (by omega)] at hstays
    cases hstays
  · intro scan hphase hindex hsink
    exact scanner.exists_leaves_of_willing rfl hphase hindex hsink

/-- A run of two line comments, and below it a block comment that nothing closes. -/
theorem advance_of_describe_openBlock :
    let fields : List (Text × Value) :=
      [(MarkerGroup.line.key.toList, .text ['/', '/']),
        (MarkerGroup.docBlock.key.toList, .list [.list [.text ['/', '*', '*'], .text ['*', '/']]])]
    let style : CommentStyle := { lineMarkers := [.slashes], docBlockPairs := [.doublyStarred] }
    let lines : List Text := [['/', '/', 'a'], ['/', '/'], ['/', '*', '*', 'b'], ['c']]
    let progress : Progress Collector := { sink := some {} }
    CommentStyle.describe fields = .ok style ∧
      ∃ loose, LooseStyle.read? fields = some loose ∧
        let scanner : Scanner := { lines, style := loose }
        let pass := ({ lines, style } : Lexer).tokenize progress
        scanner.advance^[9] (.ok (.on { progress })) = .ok (.finished pass) ∧
          (∀ turns fault, scanner.advance^[turns] (.ok (.on { progress })) ≠ .error fault) ∧
          pass.failure = none ∧
          ∃ turns ≤ 3, ∃ next, scanner.Leaves turns { index := 2, progress } (.on next) ∧
            next.phase = .between ∧ 2 < next.index ∧ next.index ≤ 4 := by
  intro fields style lines progress
  have haccepted : CommentStyle.describe fields = .ok style := rfl
  have hsink : Willing progress.sink := Collector.willing rfl
  obtain ⟨loose, hread, hfinished, hfault, hwilling, hleaves⟩ :=
    advance_of_describe haccepted lines none progress
  refine ⟨haccepted, loose, hread, hfinished 9 (by decide), hfault, hwilling hsink, ?_⟩
  exact hleaves { index := 2, progress } rfl (by decide) hsink

end Scanner

end SourceScan
