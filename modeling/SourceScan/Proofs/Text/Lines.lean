import Mathlib.Data.List.Chain
import Mathlib.Data.List.Infix
import SourceScan.Text.Lines

/-! # Lines and their terminators

Lines that are written one behind another, each with any of the three terminators, are read back.
The only exception are two terminators that fuse: a carriage return, an empty line, and its line
feed make one terminator. Read the other way, the lines of a text, each with a line feed behind it,
are the text with line feeds for all terminators.
-/

namespace SourceScan

/-- What may end a line. -/
inductive Terminator where
  | lineFeed
  | carriageReturn
  /-- A carriage return and the line feed behind it. -/
  | both
deriving DecidableEq, Repr

namespace Terminator

def text : Terminator → Text
  | .lineFeed => ['\n']
  | .carriageReturn => ['\r']
  | .both => ['\r', '\n']

/-- Whether a terminator is complete before a text. A lone carriage return is not, if a line feed
comes next. -/
def CompleteBefore (terminator : Terminator) (rest : Text) : Prop :=
  terminator = .carriageReturn → rest.head? ≠ some '\n'

end Terminator

namespace Text

/-- A text without line feeds and carriage returns. -/
def Unbroken (text : Text) : Prop := ∀ c ∈ text, c ≠ '\n' ∧ c ≠ '\r'

/-- A text with line feeds for all terminators. -/
def unified (text : Text) : Text :=
  replace ['\r'] ['\n'] (replace ['\r', '\n'] ['\n'] text)

/-- A text whose last line has no terminator. -/
structure EndsOpen (text : Text) : Prop where
  ne_nil : text ≠ []
  not_suffix : ∀ terminator : Terminator, ¬ terminator.text <:+ text

/-- Lines with one more character in front. -/
def startingWith (c : Char) : List Text → List Text
  | [] => [[c]]
  | line :: others => (c :: line) :: others

variable {text rest line : Text} {c : Char} {terminator : Terminator}

theorem unbroken_nil : Unbroken [] := by
  intro c hc
  cases hc

theorem unbroken_cons_iff : Unbroken (c :: rest) ↔ (c ≠ '\n' ∧ c ≠ '\r') ∧ Unbroken rest :=
  List.forall_mem_cons

/-! ## The beginning of a text -/

theorem lines_terminator_append (hrest : terminator.CompleteBefore rest) :
    lines (terminator.text ++ rest) = [] :: lines rest := by
  cases terminator with
  | lineFeed | both => rfl
  | carriageReturn =>
      rcases rest with _ | ⟨c, rest⟩
      · rfl
      · rw [Terminator.text, List.singleton_append, lines]
        rintro _ heq
        exact hrest rfl (congrArg List.head? heq)

theorem lines_cons (hfeed : c ≠ '\n') (hreturn : c ≠ '\r') :
    lines (c :: rest) = startingWith c (lines rest) := by
  rw [lines]
  · cases lines rest <;> rfl
  all_goals
    intros
    contradiction

/-- Carriage returns with a line feed behind them are replaced first, then the others are. -/
theorem unified_terminator_append (hrest : terminator.CompleteBefore rest) :
    unified (terminator.text ++ rest) = '\n' :: unified rest := by
  cases terminator with
  | lineFeed | both => rfl
  | carriageReturn =>
      rcases rest with _ | ⟨c, rest⟩
      · rfl
      · have hc : '\n' ≠ c := fun heq => hrest rfl (congrArg some heq.symm)
        simp [Terminator.text, unified, replace, replaceFrom, hc]

theorem unified_cons (hreturn : c ≠ '\r') : unified (c :: rest) = c :: unified rest := by
  simp [unified, replace, replaceFrom, Ne.symm hreturn]

/-- A text is empty, or it begins with a terminator or with another character. -/
theorem induction_terminator {motive : Text → Prop} (nil : motive [])
    (terminated : ∀ (terminator : Terminator) (rest : Text), terminator.CompleteBefore rest →
      motive rest → motive (terminator.text ++ rest))
    (other : ∀ (c : Char) (rest : Text), c ≠ '\n' → c ≠ '\r' → motive rest → motive (c :: rest))
    (text : Text) : motive text := by
  induction text using lines.induct with
  | case1 => exact nil
  | case2 rest ih => exact terminated .both rest nofun ih
  | case3 rest hrest ih =>
      apply terminated .carriageReturn rest _ ih
      intro _ hhead
      obtain ⟨others, rfl⟩ := List.head?_eq_some_iff.mp hhead
      exact hrest others rfl
  | case4 rest ih => exact terminated .lineFeed rest nofun ih
  | case5 c rest _ hreturn hfeed _ ih | case6 c rest _ hreturn hfeed _ _ _ ih =>
      exact other c rest hfeed hreturn ih

/-! ## The lines of a text -/

theorem lines_eq_nil_iff : lines text = [] ↔ text = [] := by
  constructor
  · intro hlines
    induction text using induction_terminator with
    | nil => rfl
    | terminated terminator rest hrest =>
        rw [lines_terminator_append hrest] at hlines
        cases hlines
    | other c rest hfeed hreturn =>
        rw [lines_cons hfeed hreturn] at hlines
        cases hrest : lines rest <;> simp [startingWith, hrest] at hlines
  · rintro rfl
    rfl

theorem unbroken_of_mem_lines (text : Text) : ∀ line ∈ lines text, Unbroken line := by
  induction text using induction_terminator with
  | nil => simp [lines]
  | terminated terminator rest hrest ih =>
      rw [lines_terminator_append hrest]
      exact List.forall_mem_cons.mpr ⟨unbroken_nil, ih⟩
  | other c rest hfeed hreturn ih =>
      have hc : ∀ {line : Text}, Unbroken line → Unbroken (c :: line) := fun hline =>
        unbroken_cons_iff.mpr ⟨⟨hfeed, hreturn⟩, hline⟩
      rw [lines_cons hfeed hreturn]
      rcases hlines : lines rest with _ | ⟨line, others⟩
      · exact List.forall_mem_cons.mpr ⟨hc unbroken_nil, by simp⟩
      · rw [hlines] at ih
        obtain ⟨hline, hothers⟩ := List.forall_mem_cons.mp ih
        exact List.forall_mem_cons.mpr ⟨hc hline, hothers⟩

/-- Only the last character matters for whether a text ends open. -/
theorem endsOpen_iff :
    EndsOpen text ↔ (text.getLast?.any fun c => c != '\n' && c != '\r') = true := by
  rcases List.eq_nil_or_concat' text with rfl | ⟨front, c, rfl⟩
  · exact iff_of_false (fun hopen => hopen.ne_nil rfl) Bool.false_ne_true
  · rw [List.getLast?_concat, Option.any_some, Bool.and_eq_true, bne_iff_ne, bne_iff_ne]
    constructor
    · intro hopen
      constructor
      · rintro rfl
        exact hopen.not_suffix .lineFeed (List.suffix_append front _)
      · rintro rfl
        exact hopen.not_suffix .carriageReturn (List.suffix_append front _)
    · rintro ⟨hfeed, hreturn⟩
      refine ⟨by simp, ?_⟩
      rintro terminator ⟨before, heq⟩
      have hlast := congrArg List.getLast? heq
      cases terminator <;> simp [Terminator.text, Ne.symm hfeed, Ne.symm hreturn] at hlast

instance : DecidablePred EndsOpen := fun _ => decidable_of_iff _ endsOpen_iff.symm

theorem endsOpen_cons_iff (hrest : rest ≠ []) : EndsOpen (c :: rest) ↔ EndsOpen rest := by
  obtain ⟨d, others, rfl⟩ := List.exists_cons_of_ne_nil hrest
  rw [endsOpen_iff, endsOpen_iff, List.getLast?_cons_cons]

theorem endsOpen_terminator_append_iff (terminator : Terminator) :
    EndsOpen (terminator.text ++ rest) ↔ EndsOpen rest := by
  rw [endsOpen_iff, endsOpen_iff]
  rcases rest with _ | ⟨d, others⟩
  · cases terminator <;> decide
  · cases terminator <;> simp [Terminator.text]

/-- Lines, each with a line feed behind it, spell their text with line feeds for all terminators.
They add one at the end exactly if the last line has no terminator. -/
theorem flatMap_lines (text : Text) :
    (lines text).flatMap (· ++ ['\n']) = unified text ++ if EndsOpen text then ['\n'] else [] := by
  induction text using induction_terminator with
  | nil => rfl
  | terminated terminator rest hrest ih =>
      rw [lines_terminator_append hrest, unified_terminator_append hrest, List.flatMap_cons, ih,
        if_congr (endsOpen_terminator_append_iff terminator) rfl rfl]
      rfl
  | other c rest hfeed hreturn ih =>
      rw [lines_cons hfeed hreturn, unified_cons hreturn, List.cons_append]
      rcases hlines : lines rest with _ | ⟨line, others⟩
      · obtain rfl := lines_eq_nil_iff.mp hlines
        have hopen : EndsOpen [c] := endsOpen_iff.mpr (by simp [hfeed, hreturn])
        rw [if_pos hopen]
        rfl
      · have hne : rest ≠ [] := by
          rintro rfl
          cases hlines
        rw [hlines] at ih
        rw [if_congr (endsOpen_cons_iff hne) rfl rfl, ← ih]
        rfl

/-- A text has the same lines when all its terminators are line feeds. -/
theorem lines_unified (text : Text) : lines (unified text) = lines text := by
  induction text using induction_terminator with
  | nil => rfl
  | terminated terminator rest hrest ih =>
      rw [unified_terminator_append hrest, lines_terminator_append hrest, ← ih]
      rfl
  | other c rest hfeed hreturn ih =>
      rw [unified_cons hreturn, lines_cons hfeed hreturn, lines_cons hfeed hreturn, ih]

/-! ## Lines that are written -/

theorem lines_append (hline : Unbroken line) (hrest : terminator.CompleteBefore rest) :
    lines (line ++ terminator.text ++ rest) = line :: lines rest := by
  induction line with
  | nil => exact lines_terminator_append hrest
  | cons c line ih =>
      obtain ⟨⟨hfeed, hreturn⟩, hline⟩ := unbroken_cons_iff.mp hline
      rw [List.cons_append, List.cons_append, lines_cons hfeed hreturn, ih hline]
      rfl

theorem lines_of_unbroken (hline : Unbroken line) (hne : line ≠ []) : lines line = [line] := by
  induction line with
  | nil => exact absurd rfl hne
  | cons c line ih =>
      obtain ⟨⟨hfeed, hreturn⟩, hline⟩ := unbroken_cons_iff.mp hline
      rw [lines_cons hfeed hreturn]
      by_cases hnil : line = []
      · subst hnil
        rfl
      · rw [ih hline hnil]
        rfl

end Text

/-- A line and what ends it. -/
structure EndedLine where
  line : Text
  terminator : Terminator

namespace EndedLine

variable {ended : List EndedLine} {last : Text}

/-- A line that ends with a lone carriage return stands before an empty one that ends with a lone
line feed. Together they are written with a single terminator. -/
structure Fuses (above below : EndedLine) : Prop where
  above : above.terminator = .carriageReturn
  line : below.line = []
  below : below.terminator = .lineFeed

/-- The text of lines, each with its own terminator. -/
def written (ended : List EndedLine) : Text :=
  ended.flatMap fun item => item.line ++ item.terminator.text

/-- A terminator is complete before lines of which the first does not fuse with it. -/
theorem completeBefore_written {item : EndedLine} (hended : ∀ next ∈ ended.head?, ¬ item.Fuses next)
    (hbroken : ∀ next ∈ ended, next.line.Unbroken) (hlast : last.Unbroken) :
    item.terminator.CompleteBefore (written ended ++ last) := by
  intro hreturn hhead
  rcases ended with _ | ⟨next, rest⟩
  · obtain ⟨others, rfl⟩ := List.head?_eq_some_iff.mp hhead
    exact (Text.unbroken_cons_iff.mp hlast).1.1 rfl
  · obtain ⟨line, terminator⟩ := next
    rcases line with _ | ⟨c, line⟩
    · have hfeed : terminator = .lineFeed := by
        cases terminator with
        | lineFeed => rfl
        | carriageReturn | both => cases hhead
      exact hended _ rfl ⟨hreturn, rfl, hfeed⟩
    · obtain rfl := Option.some.inj hhead
      exact (Text.unbroken_cons_iff.mp (hbroken _ List.mem_cons_self)).1.1 rfl

/-- Written lines that do not fuse are read back, with or without a further line that has no
terminator. -/
theorem lines_written_append (hbroken : ∀ item ∈ ended, item.line.Unbroken)
    (hchain : ended.IsChain fun above below => ¬ above.Fuses below) (hlast : last.Unbroken) :
    Text.lines (written ended ++ last) = ended.map line ++ Text.lines last := by
  induction ended with
  | nil => rfl
  | cons item rest ih =>
      obtain ⟨hitem, hrest⟩ := List.forall_mem_cons.mp hbroken
      obtain ⟨hnext, hrestChain⟩ := List.isChain_cons.mp hchain
      have hcomplete := completeBefore_written hnext hrest hlast
      rw [written, List.flatMap_cons, List.append_assoc, ← written,
        Text.lines_append hitem hcomplete, ih hrest hrestChain]
      rfl

/-- An empty line is lost where two terminators fuse. -/
example : Text.lines (written [⟨['a'], .carriageReturn⟩, ⟨[], .lineFeed⟩]) = [['a']] := rfl

end EndedLine

end SourceScan
