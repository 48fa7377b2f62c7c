import SourceScan.Proofs.Comment.Indentation
import SourceScan.Proofs.CommentStyle.Description

/-! # Pairs for documentation that open nothing

A pair for documentation does not count where its opener runs into its closer, and the last
character of the opener takes part in that. So a pair whose closer is that character and nothing
more counts nowhere, and it makes no difference in any style. Every other pair counts on the line
that holds its opener alone, and the opener is found there unless it begins with a blank.
-/

namespace SourceScan

/-! ## Markers on lines of their own -/

namespace Marker

variable {marker : Marker} {line after : Text}

/-- The content of a line begins with no blank, nor does a marker that opens a line. -/
theorem Opens.isBlank_first (hopens : marker.Opens line after) : isBlank marker.first = false := by
  have hhead := List.head?_dropWhile_not isBlank line
  rw [← Text.content, Opening.opens_iff_content.mp hopens, marker.text_eq_cons] at hhead
  exact hhead

section OwnLine

variable (hfirst : isBlank marker.first = false)
include hfirst

theorem indent_text : Text.indent marker.text = [] := by
  rw [Text.indent, marker.text_eq_cons]
  exact List.takeWhile_cons_of_neg (Bool.eq_false_iff.mp hfirst)

/-- A marker that begins with no blank opens the line that holds it alone. -/
theorem opens_text : marker.Opens marker.text [] := by
  rw [Opens, indent_text hfirst, List.nil_append, List.append_nil]

end OwnLine

end Marker

/-! ## Where a pair counts -/

namespace BlockPair

/-- The closer is the last character of the opener. -/
def ClosesItself (pair : BlockPair) : Prop := pair.closer.text = [pair.opener.last]

instance : DecidablePred ClosesItself := fun pair =>
  inferInstanceAs (Decidable (pair.closer.text = [pair.opener.last]))

variable {pair : BlockPair}

/-- The last character of the opener is the whole closer, whatever follows it. -/
theorem ClosesItself.not_unrejected (hcloses : pair.ClosesItself) (after : Text) :
    ¬ pair.Unrejected after := by
  rintro ⟨-, hcloser⟩
  apply hcloser
  rw [hcloses]
  exact ⟨after, rfl⟩

/-- Any other closer needs a text behind the opener. -/
theorem unrejected_nil_iff : pair.Unrejected [] ↔ ¬ pair.ClosesItself := by
  constructor
  · exact fun hunrejected hcloses => hcloses.not_unrejected [] hunrejected
  · intro hother
    have hunrepeated : pair.opener.Unrepeated [] := (Option.some_ne_none _).symm
    refine ⟨hunrepeated, fun hcloser => hother ?_⟩
    -- No marker is empty, so the closer takes all of the one character there is.
    obtain hnil | ⟨rest, hcons, hrest⟩ := List.prefix_cons_iff.mp hcloser
    · exact absurd hnil pair.closer.nonempty
    · rw [ClosesItself, hcons, List.prefix_nil.mp hrest]

end BlockPair

/-! ## Styles of one pair, and styles without a pair -/

namespace CommentStyle

/-- The style without a pair for documentation. -/
def withoutDocPair (style : CommentStyle) (pair : BlockPair) : CommentStyle :=
  { style with docBlockPairs := style.docBlockPairs.filter (· ≠ pair) }

/-- The description of a style by one entry for documentation blocks and nothing else. -/
def docBlockEntry (entry : Value) : List (Text × Value) :=
  [(MarkerGroup.docBlock.key.toList, .list [entry])]

/-- An entry is accepted exactly if it names a pair, and this is the only pair of the style. -/
theorem describe_docBlockEntry_iff {entry : Value} {style : CommentStyle} :
    describe (docBlockEntry entry) = .ok style ↔
      ∃ pair, entry.NamesPair pair ∧ style = { docBlockPairs := [pair] } := by
  rw [(settles_describe _).ok_iff]
  constructor
  · rintro ⟨hline, hdocLine, hblock, hdocBlock⟩
    obtain ⟨lineMarkers, blockPairs, docLineMarkers, docBlockPairs⟩ := style
    cases hline
    cases hdocLine
    cases hblock
    cases hdocBlock with
    | present hnames =>
        cases hnames with
        | items hitems =>
            obtain ⟨pair, others, hpair, hothers, rfl⟩ := List.forall₂_cons_left_iff.mp hitems
            rw [List.forall₂_nil_left_iff.mp hothers]
            exact ⟨pair, hpair, rfl⟩
  · rintro ⟨pair, hnames, rfl⟩
    exact ⟨.absent, .absent, .absent, .present (.items (.cons hnames .nil))⟩

end CommentStyle

namespace Opening

variable {pair : BlockPair}

/-- A pair for documentation that closes itself makes no difference in any style. -/
theorem ofLine_withoutDocPair (hcloses : pair.ClosesItself) (style : CommentStyle) (line : Text) :
    ofLine (style.withoutDocPair pair) line = ofLine style line := by
  have hdocBlock : docBlock? (style.withoutDocPair pair) line = docBlock? style line := by
    apply longest?_filter
    intro other _ hdropped after
    obtain rfl : other = pair := by simpa using hdropped
    refine Bool.eq_false_iff.mpr fun hstands => ?_
    exact hcloses.not_unrejected after ((other.standsBefore_iff after).mp hstands)
  rw [ofLine, hdocBlock, ofLine]
  rfl

theorem ofLine_opener_text (hfirst : isBlank pair.opener.first = false)
    (hother : ¬ pair.ClosesItself) :
    ofLine { docBlockPairs := [pair] } pair.opener.text = .blockComment [] pair.closer true := by
  have hchosen : Chosen BlockPair.opener BlockPair.Unrejected [pair] pair.opener.text pair [] :=
    .singleton (Marker.opens_text hfirst) (BlockPair.unrejected_nil_iff.mpr hother)
  have hdecided : Decided { docBlockPairs := [pair] } pair.opener.text _ :=
    .docBlock not_answers_nil not_answers_nil hchosen
  rw [hdecided.ofLine_eq, Marker.indent_text hfirst, List.append_nil]

theorem forall_ofLine_eq_code_iff :
    (∀ line, ofLine { docBlockPairs := [pair] } line = .code) ↔
      isBlank pair.opener.first = true ∨ pair.ClosesItself := by
  constructor
  · intro hcode
    by_contra hneither
    obtain ⟨hfirst, hother⟩ := not_or.mp hneither
    have hopen := ofLine_opener_text (Bool.eq_false_iff.mpr hfirst) hother
    rw [hcode] at hopen
    cases hopen
  · intro hdead line
    apply Decided.ofLine_eq
    refine .code not_answers_nil not_answers_nil ?_ not_answers_nil
    rintro ⟨other, hother, after, hopens, hunrejected⟩
    obtain rfl := List.mem_singleton.mp hother
    cases hdead with
    | inl hblank => exact Bool.false_ne_true (hopens.isBlank_first.symm.trans hblank)
    | inr hcloses => exact hcloses.not_unrejected after hunrejected

/-- An accepted pair for documentation whose opener begins with no blank opens a block on the line
that holds the opener alone, exactly if its closer is not the last character of the opener. Where
that line is code, so is every other line of the style, and the pair makes no difference in any
other style either. -/
theorem docPair_opens_iff {entry : Value} {style : CommentStyle}
    (haccepted : CommentStyle.describe (CommentStyle.docBlockEntry entry) = .ok style) :
    ∃ pair, entry.NamesPair pair ∧ style = { docBlockPairs := [pair] } ∧
      (isBlank pair.opener.first = false →
        (ofLine style pair.opener.text = .blockComment [] pair.closer true ↔
          ¬ pair.ClosesItself)) ∧
      ((∀ line, ofLine style line = .code) ↔
        isBlank pair.opener.first = true ∨ pair.ClosesItself) ∧
      (pair.ClosesItself →
        ∀ other line, ofLine (other.withoutDocPair pair) line = ofLine other line) := by
  obtain ⟨pair, hnames, rfl⟩ := CommentStyle.describe_docBlockEntry_iff.mp haccepted
  refine ⟨pair, hnames, rfl, fun hfirst => ⟨fun hopen hcloses => ?_, ofLine_opener_text hfirst⟩,
    forall_ofLine_eq_code_iff, ofLine_withoutDocPair⟩
  have hcode := forall_ofLine_eq_code_iff.mpr (.inr hcloses) pair.opener.text
  rw [hcode] at hopen
  cases hopen

/-- The same two characters open and close. The opener ends as the closer begins, but its last
character is only half of the closer. -/
theorem docPair_opens_iff_doubled :
    let marker : Marker := .ofChars '%' ['%']
    let style : CommentStyle := { docBlockPairs := [⟨marker, marker⟩] }
    CommentStyle.describe
        (CommentStyle.docBlockEntry (.list [.text ['%', '%'], .text ['%', '%']])) = .ok style ∧
      ofLine style ['%', '%'] = .blockComment [] marker true := by
  intro marker style
  have haccepted : CommentStyle.describe
      (CommentStyle.docBlockEntry (.list [.text ['%', '%'], .text ['%', '%']])) = .ok style := rfl
  obtain ⟨pair, -, hstyle, hopens, -⟩ := docPair_opens_iff haccepted
  obtain rfl : pair = ⟨marker, marker⟩ := by
    injection hstyle with _ _ _ hpairs
    exact (List.singleton_injective hpairs).symm
  exact ⟨haccepted, (hopens (by decide)).mpr (by decide)⟩

/-- One character opens and closes. The pair is accepted, and the line with the opener alone is
code. -/
theorem docPair_opens_symmetric :
    let marker : Marker := .ofChars '%' []
    let style : CommentStyle := { docBlockPairs := [⟨marker, marker⟩] }
    CommentStyle.describe (CommentStyle.docBlockEntry (.list [.text ['%'], .text ['%']])) =
        .ok style ∧
      isBlank marker.first = false ∧
      ofLine style marker.text = .code ∧
      ofLine style marker.text ≠ .blockComment [] marker true :=
  ⟨rfl, by decide, by decide, by decide⟩

end Opening

end SourceScan
