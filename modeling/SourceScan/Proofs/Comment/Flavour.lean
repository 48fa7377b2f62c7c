import SourceScan.Proofs.Comment.Layout
import SourceScan.Proofs.Comment.Opening

/-! # Documentation markers and what is a comment

Where every documentation marker is a plain marker with one character more, a line that opens
documentation opens a plain comment as well, and the last character of the marker then belongs to
the text. A documentation marker does not count before its own last character or where it runs into
its closer, so that the closer is found at the same place in both readings. Without the
documentation markers the same lines are comments.
-/

namespace SourceScan

namespace CommentStyle

/-- The style without its markers for documentation. -/
def withoutDoc (style : CommentStyle) : CommentStyle :=
  { style with docLineMarkers := [], docBlockPairs := [] }

/-- All markers that open documentation. -/
def docMarkers (style : CommentStyle) : List Marker :=
  style.docLineMarkers ++ style.docBlockPairs.map BlockPair.opener

/-- Every marker for documentation is the only plain one of its kind with one character more, and
blocks of documentation have the plain closer, which begins with no blank. -/
structure DocExtendsPlain (style : CommentStyle) : Prop where
  line : ∀ marker ∈ style.docLineMarkers, ∃ plain, style.lineMarkers = [plain] ∧
    marker.text = plain.text ++ [marker.last]
  block : ∀ pair ∈ style.docBlockPairs, ∃ plain, style.blockPairs = [plain] ∧
    pair.opener.text = plain.opener.text ++ [pair.opener.last] ∧ pair.closer = plain.closer
  closer : ∀ pair ∈ style.docBlockPairs, ∀ c ∈ pair.closer.text.head?, isBlank c = false

end CommentStyle

/-- Texts of one comment and its flavour, read with and without the markers for documentation. Only
the first text of documentation differs: behind the indentation of its line it has the last
character of the marker as well. It may have been cut at the closer. -/
inductive SameComment (style : CommentStyle) (line : Text) :
    List Text × Bool → List Text × Bool → Prop where
  | plain (texts : List Text) : SameComment style line (texts, false) (texts, false)
  | doc {marker : Marker} {rest dropped : Text} {more : List Text}
      (hmarker : marker ∈ style.docMarkers) (hopens : marker.Opens line (rest ++ dropped)) :
      SameComment style line ((Text.indent line ++ rest) :: more, true)
        ((Text.indent line ++ marker.last :: rest) :: more, false)

namespace Opening

variable {style : CommentStyle} {line : Text}

/-- What one line opens, with and without the markers for documentation. -/
inductive Undocumented (style : CommentStyle) (line : Text) : Opening → Opening → Prop where
  | code : Undocumented style line .code .code
  | plainLine (body : Text) :
      Undocumented style line (.lineComment body false) (.lineComment body false)
  | plainBlock (body : Text) (closer : Marker) :
      Undocumented style line (.blockComment body closer false) (.blockComment body closer false)
  | docLine {marker : Marker} {after : Text} (hmarker : marker ∈ style.docLineMarkers)
      (hopens : marker.Opens line after) :
      Undocumented style line (.lineComment (Text.indent line ++ after) true)
        (.lineComment (Text.indent line ++ marker.last :: after) false)
  | docBlock {pair : BlockPair} {after : Text} (hpair : pair ∈ style.docBlockPairs)
      (hopens : pair.opener.Opens line after) (hstands : pair.standsBefore after = true) :
      Undocumented style line (.blockComment (Text.indent line ++ after) pair.closer true)
        (.blockComment (Text.indent line ++ pair.opener.last :: after) pair.closer false)

/-- A marker that is longer by its last character leaves that character to the shorter one. -/
theorem opens_of_text_eq_concat {marker plain : Marker} {after : Text}
    (htext : marker.text = plain.text ++ [marker.last]) (hopens : marker.Opens line after) :
    plain.Opens line (marker.last :: after) := by
  unfold Marker.Opens at hopens ⊢
  conv_lhs => rw [hopens, htext]
  simp only [List.append_assoc, List.singleton_append]

/-- The only item of a group is found if its marker opens the line. -/
theorem longest?_singleton {α : Type} (marker : α → Marker) {item : α} {after : Text}
    (hopens : (marker item).Opens line after) :
    longest? marker (fun _ _ => true) [item] line = some (item, Text.indent line ++ after) := by
  have hafter := Text.after?_eq_some_iff.mpr (opens_iff_content.mp hopens)
  simp [longest?, candidates, firstLargest?, hafter]

theorem lineBody?_of_docLine (hstyle : style.DocExtendsPlain) {marker : Marker} {after : Text}
    (hmarker : marker ∈ style.docLineMarkers) (hopens : marker.Opens line after) :
    lineBody? style line = some (Text.indent line ++ marker.last :: after) := by
  obtain ⟨plain, hplain, htext⟩ := hstyle.line marker hmarker
  rw [lineBody?, hplain]
  exact congrArg (Option.map Prod.snd)
    (longest?_singleton id (opens_of_text_eq_concat htext hopens))

theorem block?_of_docBlock (hstyle : style.DocExtendsPlain) {pair : BlockPair} {after : Text}
    (hpair : pair ∈ style.docBlockPairs) (hopens : pair.opener.Opens line after) :
    ∃ plain, plain.closer = pair.closer ∧
      block? style line = some (plain, Text.indent line ++ pair.opener.last :: after) := by
  obtain ⟨plain, hplain, htext, hcloser⟩ := hstyle.block pair hpair
  refine ⟨plain, hcloser.symm, ?_⟩
  rw [block?, hplain]
  exact longest?_singleton BlockPair.opener (opens_of_text_eq_concat htext hopens)

/-- Without its markers for documentation a style knows only plain comments. -/
theorem ofLine_withoutDoc (style : CommentStyle) (line : Text) :
    ofLine style.withoutDoc line =
      match lineBody? style line with
      | some body => .lineComment body false
      | none =>
          match block? style line with
          | some (pair, body) => .blockComment body pair.closer false
          | none => .code := rfl

theorem undocumented_ofLine (hstyle : style.DocExtendsPlain) (line : Text) :
    Undocumented style line (ofLine style line) (ofLine style.withoutDoc line) := by
  rw [ofLine_withoutDoc, ofLine]
  cases hdocLine : docLineBody? style line with
  | some body =>
      obtain ⟨⟨marker, _⟩, hlongest, rfl⟩ := Option.map_eq_some_iff.mp hdocLine
      obtain ⟨hmarker, after, hopens, -, rfl⟩ := exists_of_longest?_eq_some hlongest
      rw [lineBody?_of_docLine hstyle hmarker hopens]
      exact .docLine hmarker hopens
  | none =>
      cases lineBody? style line with
      | some body => exact .plainLine body
      | none =>
          cases hdocBlock : docBlock? style line with
          | some found =>
              obtain ⟨pair, body⟩ := found
              obtain ⟨hpair, after, hopens, hstands, rfl⟩ := exists_of_longest?_eq_some hdocBlock
              obtain ⟨plain, hcloser, hblock⟩ := block?_of_docBlock hstyle hpair hopens
              rw [hblock]
              dsimp only
              rw [hcloser]
              exact .docBlock hpair hopens hstands
          | none =>
              cases block? style line with
              | some found => exact .plainBlock found.2 found.1.closer
              | none => exact .code

end Opening

/-! ## Blocks -/

namespace Block

/-- How the same block is read with and without a character in front of its first text. -/
theorem read_shifted {closer : Marker} {indent after : Text} {c : Char} (following : List Text)
    (hcloser : ∀ c ∈ closer.text.head?, isBlank c = false)
    (hindent : ∀ c ∈ indent, isBlank c = true)
    (hfirst : Text.after? closer.text (c :: after) = none) :
    ∃ rest dropped more, after = rest ++ dropped ∧
      (read closer (indent ++ after) following).entries = (indent ++ rest) :: more ∧
      (read closer (indent ++ c :: after) following).entries = (indent ++ c :: rest) :: more ∧
      (read closer (indent ++ c :: after) following).tail? =
        (read closer (indent ++ after) following).tail? ∧
      (read closer (indent ++ c :: after) following).above.length =
        (read closer (indent ++ after) following).above.length := by
  have hsplit := Text.splitAt?_append_of_blank closer.nonempty hcloser hindent after
  have hshifted := Text.splitAt?_append_of_blank closer.nonempty hcloser hindent (c :: after)
  rw [Text.splitAt?_cons_of_after?_eq_none hfirst] at hshifted
  cases hcut : Text.splitAt? closer.text after with
  | some found =>
      -- The closer stands in the first text, which drops it and what is behind it.
      obtain ⟨rest, tail⟩ := found
      rw [hcut] at hsplit hshifted
      have heq := Text.eq_of_splitAt?_eq_some hcut
      rw [List.append_assoc] at heq
      refine ⟨rest, closer.text ++ tail, [], heq, ?_⟩
      unfold read
      rw [hsplit, hshifted]
      exact ⟨rfl, rfl, rfl, rfl⟩
  | none =>
      rw [hcut] at hsplit hshifted
      cases following with
      | nil =>
          refine ⟨after, [], [], (List.append_nil after).symm, ?_⟩
          unfold read
          rw [hsplit, hshifted]
          exact ⟨rfl, rfl, rfl, rfl⟩
      | cons next following =>
          refine ⟨after, [], (read closer next following).entries, (List.append_nil after).symm, ?_⟩
          rw [read_cons hsplit, read_cons hshifted]
          exact ⟨rfl, rfl, rfl, rfl⟩

end Block

end SourceScan
