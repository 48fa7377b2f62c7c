import SourceScan.CommentStyle.Registry
import SourceScan.Proofs.Comment.Layout
import SourceScan.Proofs.Comment.Precedence

/-! # Comments behind other indentation

Blanks put in front of a line stay in front of whatever the line gives. They are passed over where
an opening is looked for, and where a closer is looked for unless the closer itself begins with a
blank. So each construct is the same with more blanks in front of each of its texts.
-/

namespace SourceScan

/-- Texts of successive lines, the first of them on a given line, each with the blanks for its line
in front. -/
def indentFrom (indents : Nat → Text) (lineno : Nat) (texts : List Text) : List Text :=
  texts.mapIdx fun index text => indents (lineno + index) ++ text

section IndentFrom

variable (indents : Nat → Text) (lineno : Nat)

@[simp] theorem indentFrom_nil : indentFrom indents lineno [] = [] := rfl

@[simp] theorem indentFrom_cons (text : Text) (texts : List Text) :
    indentFrom indents lineno (text :: texts) =
      (indents lineno ++ text) :: indentFrom indents (lineno + 1) texts := by
  rw [indentFrom, List.mapIdx_cons, indentFrom]
  congr
  funext index text
  rw [Nat.add_right_comm, Nat.add_assoc]

@[simp] theorem length_indentFrom (texts : List Text) :
    (indentFrom indents lineno texts).length = texts.length :=
  List.length_mapIdx

theorem indentFrom_concat (texts : List Text) (last : Text) :
    indentFrom indents lineno (texts ++ [last]) =
      indentFrom indents lineno texts ++ [indents (lineno + texts.length) ++ last] := by
  rw [indentFrom, List.mapIdx_append, List.mapIdx_cons, List.mapIdx_nil, Nat.zero_add]
  rfl

theorem drop_indentFrom (count : Nat) (texts : List Text) :
    (indentFrom indents lineno texts).drop count =
      indentFrom indents (lineno + count) (texts.drop count) := by
  ext index text
  simp only [indentFrom, List.getElem?_drop, List.getElem?_mapIdx, Nat.add_assoc]

end IndentFrom

namespace Opening

/-- The same opening of a line with some blanks in front. -/
def indented (blanks : Text) : Opening → Opening
  | .code => .code
  | .lineComment body isDoc => .lineComment (blanks ++ body) isDoc
  | .blockComment body closer isDoc => .blockComment (blanks ++ body) closer isDoc

variable {blanks : Text} (hblanks : ∀ c ∈ blanks, isBlank c = true)
include hblanks

theorem longest?_append {α : Type} (marker : α → Marker) (counts : α → Text → Bool)
    (items : List α) (line : Text) :
    longest? marker counts items (blanks ++ line) =
      (longest? marker counts items line).map fun (item, body) => (item, blanks ++ body) := by
  have hcontent : Text.content (blanks ++ line) = Text.content line :=
    List.dropWhile_append_of_pos hblanks
  have hindent : Text.indent (blanks ++ line) = blanks ++ Text.indent line :=
    List.takeWhile_append_of_pos hblanks
  simp only [longest?, candidates, hcontent, hindent, Option.map_map, Function.comp_def,
    List.append_assoc]

theorem lineBody?_append (style : CommentStyle) (line : Text) :
    lineBody? style (blanks ++ line) = (lineBody? style line).map (blanks ++ ·) := by
  simp only [lineBody?, longest?_append hblanks, Option.map_map, Function.comp_def]

theorem docLineBody?_append (style : CommentStyle) (line : Text) :
    docLineBody? style (blanks ++ line) = (docLineBody? style line).map (blanks ++ ·) := by
  simp only [docLineBody?, longest?_append hblanks, Option.map_map, Function.comp_def]

/-- Blanks in front of a line do not change what it opens. -/
theorem ofLine_append (style : CommentStyle) (line : Text) :
    ofLine style (blanks ++ line) = (ofLine style line).indented blanks := by
  unfold ofLine docBlock? block?
  rw [docLineBody?_append hblanks, lineBody?_append hblanks, longest?_append hblanks,
    longest?_append hblanks]
  cases docLineBody? style line with
  | some body => rfl
  | none =>
      cases lineBody? style line with
      | some body => rfl
      | none =>
          cases longest? BlockPair.opener BlockPair.standsBefore style.docBlockPairs line with
          | some found => rfl
          | none =>
              cases longest? BlockPair.opener (fun _ _ => true) style.blockPairs line with
              | some found => rfl
              | none => rfl

end Opening

def Marker.first (marker : Marker) : Char := marker.text.head marker.nonempty

theorem Marker.eq_first_of_mem_head? {marker : Marker} {c : Char}
    (hc : c ∈ marker.text.head?) : c = marker.first := by
  rw [List.head?_eq_some_head marker.nonempty] at hc
  exact (Option.some.inj hc).symm

theorem Marker.text_eq_cons (marker : Marker) :
    marker.text = marker.first :: marker.text.tail :=
  (List.cons_head_tail marker.nonempty).symm

namespace CommentStyle

/-- No closer begins with a blank. -/
def ClosersUnindented (style : CommentStyle) : Prop :=
  ∀ pair ∈ style.blockPairs ++ style.docBlockPairs, isBlank pair.closer.first = false

instance (style : CommentStyle) : Decidable style.ClosersUnindented :=
  inferInstanceAs (Decidable
    (∀ pair ∈ style.blockPairs ++ style.docBlockPairs, isBlank pair.closer.first = false))

theorem mem_of_mem_blockGroup {style : CommentStyle} {isDoc : Bool} {pair : BlockPair}
    (hpair : pair ∈ style.blockGroup isDoc) : pair ∈ style.blockPairs ++ style.docBlockPairs := by
  cases isDoc with
  | false => exact List.mem_append_left _ hpair
  | true => exact List.mem_append_right _ hpair

/-- The styles known from the start have no closers that begin with a blank. -/
theorem closersUnindented_of_preset {name : Text} {registered : Registered}
    (hpreset : (name, some registered) ∈ Registry.presets.entries) :
    registered.style.ClosersUnindented := by
  have hstyles : ∀ entry ∈ Registry.presets.entries, ∀ known ∈ entry.2,
      known.style.ClosersUnindented := by decide
  exact hstyles _ hpreset registered rfl

end CommentStyle

variable {indents : Nat → Text}

namespace Block

/-- The same block with blanks in front of the text of each line. -/
def indented (indents : Nat → Text) (lineno : Nat) (block : Block) : Block where
  above := indentFrom indents lineno block.above
  last := indents (lineno + block.above.length) ++ block.last
  tail? := block.tail?

theorem entries_indented (lineno : Nat) (block : Block) :
    (block.indented indents lineno).entries = indentFrom indents lineno block.entries :=
  (indentFrom_concat indents lineno block.above block.last).symm

theorem verdict_indented (lineno : Nat) (block : Block) :
    (block.indented indents lineno).verdict = block.verdict :=
  verdict_congr rfl (length_indentFrom indents lineno block.above)

/-- A closer that begins with no blank ends a block at the same place. -/
theorem read_indented {closer : Marker}
    (hindents : ∀ lineno, ∀ c ∈ indents lineno, isBlank c = true)
    (hcloser : isBlank closer.first = false) (lineno : Nat) (text : Text)
    (following : List Text) :
    read closer (indents lineno ++ text) (indentFrom indents (lineno + 1) following) =
      (read closer text following).indented indents lineno := by
  have hhead : ∀ c ∈ closer.text.head?, isBlank c = false := by
    intro c hc
    rwa [Marker.eq_first_of_mem_head? hc]
  have hsplit (lineno : Nat) (text : Text) :=
    Text.splitAt?_append_of_blank closer.nonempty hhead (hindents lineno) text
  induction following generalizing lineno text with
  | nil =>
      rw [indentFrom_nil, read, read, hsplit]
      cases Text.splitAt? closer.text text with
      | none => rfl
      | some found => rfl
  | cons next rest ih =>
      rw [indentFrom_cons]
      cases hfound : Text.splitAt? closer.text text with
      | some found =>
          rw [read, read, hsplit, hfound]
          rfl
      | none =>
          have hnone : Text.splitAt? closer.text (indents lineno ++ text) = none := by
            rw [hsplit, hfound]
            rfl
          rw [read_cons hnone, read_cons hfound, ih]
          simp only [indented, indentFrom_cons, List.length_cons, Nat.add_assoc, Nat.add_comm 1]

end Block

namespace Construct

/-- The same construct with blanks in front of each of its texts. -/
def indented (indents : Nat → Text) (lineno : Nat) : Construct → Construct
  | .code line => .code (indents lineno ++ line)
  | .lineComment first more isDoc =>
      .lineComment (indents lineno ++ first) (indentFrom indents (lineno + 1) more) isDoc
  | .blockComment line block isDoc =>
      .blockComment (indents lineno ++ line) (block.indented indents lineno) isDoc

theorem extra_indented (lineno : Nat) (construct : Construct) :
    (construct.indented indents lineno).extra = construct.extra := by
  cases construct with
  | code => rfl
  | lineComment => exact length_indentFrom ..
  | blockComment => exact length_indentFrom ..

/-- The line that a construct keeps whole as code, if it does. -/
def wholeLine? : Construct → Option Text
  | .code line => some line
  | .lineComment .. => none
  | .blockComment line block _ => if block.verdict = .keptLine then some line else none

/-- The tokens of a construct with blanks in front of a line that it keeps whole. -/
def tokensBehind (blanks : Text) (construct : Construct) : List Token :=
  match construct.wholeLine? with
  | some line => lineTokens (blanks ++ line)
  | none => construct.tokens

/-- Only a line that is kept whole shows its blanks in the tokens. -/
theorem tokens_indented (lineno : Nat) (construct : Construct) :
    (construct.indented indents lineno).tokens = construct.tokensBehind (indents lineno) := by
  cases construct with
  | code => rfl
  | lineComment first more isDoc =>
      simp only [indented, tokens, tokensBehind, wholeLine?, height, extra, length_indentFrom]
  | blockComment line block isDoc =>
      have hlength : (block.indented indents lineno).above.length = block.above.length :=
        length_indentFrom ..
      simp only [indented, tokens, tokensBehind, wholeLine?, Block.verdict_indented, height, extra,
        hlength]
      cases block.verdict <;> rfl

variable (hindents : ∀ lineno, ∀ c ∈ indents lineno, isBlank c = true)
include hindents

theorem lineRun_indentFrom (style : CommentStyle) (lineno : Nat) (lines : List Text) :
    lineRun style (indentFrom indents lineno lines) =
      indentFrom indents lineno (lineRun style lines) := by
  induction lines generalizing lineno with
  | nil => rfl
  | cons line rest ih =>
      rw [indentFrom_cons]
      simp only [lineRun, Opening.lineBody?_append (hindents lineno)]
      cases Opening.lineBody? style line with
      | none => rfl
      | some body =>
          rw [indentFrom_cons, ← ih]
          rfl

/-- What is read at a line with other indentation. -/
theorem read_indented {style : CommentStyle} (hstyle : style.ClosersUnindented) (lineno : Nat)
    (line : Text) (following : List Text) :
    read style (indents lineno ++ line) (indentFrom indents (lineno + 1) following) =
      (read style line following).indented indents lineno := by
  unfold read
  rw [Opening.ofLine_append (hindents lineno)]
  cases hline : Opening.ofLine style line with
  | code => rfl
  | lineComment body isDoc =>
      simp only [Opening.indented, indented, lineRun_indentFrom hindents]
  | blockComment body closer isDoc =>
      obtain ⟨pair, hpair, rfl, -⟩ := Opening.removedFrom_of_ofLine_eq_blockComment hline
      have hcloser := hstyle pair (CommentStyle.mem_of_mem_blockGroup hpair)
      simp only [Opening.indented, indented, Block.read_indented hindents hcloser]

end Construct

end SourceScan
