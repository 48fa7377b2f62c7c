import SourceScan.Comment.Opening
import SourceScan.CommentStyle.Description

/-! # Markers that nobody has checked

A search for openings can be given any texts as markers, but the last character of an empty text
cannot be taken, and such a search is at fault. The check of a description lets no empty marker
through. So a search with the markers of an accepted description is never at fault, and it finds
what the search with the markers of the style finds.
-/

namespace SourceScan

/-- What a scan of lines cannot go on from. -/
inductive ScanFault where
  /-- There is no line at the index that is read. -/
  | noLine
  /-- There is no closer to look for in a block comment. -/
  | noCloser
  /-- The last character of an empty marker is taken. -/
  | emptyMarker
deriving DecidableEq, Repr

/-- Comment markers of any texts, in the order of their declaration. -/
structure LooseStyle where
  lineMarkers : List Text := []
  blockPairs : List (Text × Text) := []
  docLineMarkers : List Text := []
  docBlockPairs : List (Text × Text) := []
deriving DecidableEq, Repr

/-- The texts of a pair of markers. -/
def BlockPair.loose (pair : BlockPair) : Text × Text := (pair.opener.text, pair.closer.text)

/-- The texts of the markers of a style. -/
def CommentStyle.loose (style : CommentStyle) : LooseStyle where
  lineMarkers := style.lineMarkers.map Marker.text
  blockPairs := style.blockPairs.map BlockPair.loose
  docLineMarkers := style.docLineMarkers.map Marker.text
  docBlockPairs := style.docBlockPairs.map BlockPair.loose

/-! ## Descriptions without their check -/

namespace Value

/-- The text that a value is. -/
def text? : Value → Option Text
  | .text value => some value
  | _ => none

/-- The texts of a line field, the empty text among them; a text is one marker. -/
def looseMarkers? (value : Value) : Option (List Text) :=
  match value with
  | .text marker => some [marker]
  | _ => value.members?.bind (·.mapM text?)

/-- The two texts of an entry of a block field, the empty text among them. -/
def loosePair? (entry : Value) : Option (Text × Text) :=
  match entry with
  | .text _ => none
  | _ =>
      match entry.members? with
      | some [opener, closer] => opener.text?.bind fun opener => closer.text?.map (opener, ·)
      | _ => none

/-- The pairs of texts of a block field. -/
def loosePairs? (value : Value) : Option (List (Text × Text)) :=
  value.members?.bind (·.mapM loosePair?)

end Value

/-- What is read of a field that is present; an absent field has no markers. -/
def readField? {α : Type} (read : Value → Option (List α)) : Option Value → Option (List α)
  | some value => read value
  | none => some []

/-- The markers that a description names, checked by nobody. -/
def LooseStyle.read? (fields : List (Text × Value)) : Option LooseStyle := do
  let lineMarkers ← readField? Value.looseMarkers? (MarkerGroup.field? .line fields)
  let docLineMarkers ← readField? Value.looseMarkers? (MarkerGroup.field? .docLine fields)
  let blockPairs ← readField? Value.loosePairs? (MarkerGroup.field? .block fields)
  let docBlockPairs ← readField? Value.loosePairs? (MarkerGroup.field? .docBlock fields)
  return { lineMarkers, blockPairs, docLineMarkers, docBlockPairs }

@[simp] theorem ok_bind {α β ε : Type} (item : α) (next : α → Except ε β) :
    (Except.ok item >>= next) = next item := rfl

theorem exists_of_bind_eq_ok {α β ε : Type} {first : Except ε α} {next : α → Except ε β}
    {result : β} (hbind : (first >>= next) = .ok result) :
    ∃ item, first = .ok item ∧ next item = .ok result := by
  cases first with
  | error error => cases hbind
  | ok item => exact ⟨item, rfl, hbind⟩

/-- Members that pass a check one by one are read one by one. -/
theorem mapM_eq_some_of_mapM_eq_ok {α β γ ε : Type} {check : α → Except ε β}
    {read : α → Option γ} {forget : β → γ}
    (hread : ∀ value item, check value = .ok item → read value = some (forget item))
    {values : List α} {items : List β} (hchecked : values.mapM check = .ok items) :
    values.mapM read = some (items.map forget) := by
  induction values generalizing items with
  | nil =>
      cases hchecked
      rfl
  | cons value rest ih =>
      rw [List.mapM_cons] at hchecked ⊢
      obtain ⟨item, hitem, hothers⟩ := exists_of_bind_eq_ok hchecked
      obtain ⟨others, hrest, hitems⟩ := exists_of_bind_eq_ok hothers
      cases hitems
      rw [hread value item hitem, ih hrest]
      rfl

theorem Value.text?_of_marker? {value : Value} {marker : Marker}
    (hmarker : value.marker? = some marker) : value.text? = some marker.text := by
  cases value with
  | text text => rw [text?, Marker.ofText?_eq_some_iff.mp hmarker]
  | _ => cases hmarker

namespace MarkerGroup

variable {group : MarkerGroup} {value : Value}

theorem text?_of_marker {marker : Marker} (hmarker : group.marker value = .ok marker) :
    value.text? = some marker.text := by
  unfold MarkerGroup.marker at hmarker
  split at hmarker
  next hfound =>
    cases hmarker
    exact Value.text?_of_marker? hfound
  next => cases hmarker

theorem looseMarkers?_of_markers {markers : List Marker}
    (hmarkers : group.markers value = .ok markers) :
    value.looseMarkers? = some (markers.map Marker.text) := by
  unfold MarkerGroup.markers at hmarkers
  split at hmarkers
  next text =>
    -- A text stands for a list with itself as the only marker.
    exact mapM_eq_some_of_mapM_eq_ok (fun _ _ => text?_of_marker) hmarkers
  next hother =>
    split at hmarkers
    next members hmembers =>
      rw [Value.looseMarkers?, hmembers]
      · exact mapM_eq_some_of_mapM_eq_ok (fun _ _ => text?_of_marker) hmarkers
      · exact hother
    next => cases hmarkers

theorem loosePair?_of_pair {pair : BlockPair} (hpair : group.pair value = .ok pair) :
    value.loosePair? = some pair.loose := by
  unfold MarkerGroup.pair at hpair
  split at hpair
  next => cases hpair
  next hother =>
    split at hpair
    next opener closer hmembers =>
      split at hpair
      next first second hfirst hsecond =>
        cases hpair
        have htexts := Value.text?_of_marker? hfirst
        have htexts' := Value.text?_of_marker? hsecond
        rw [Value.loosePair?, hmembers]
        · simp only [htexts, htexts', Option.bind_some, Option.map_some, BlockPair.loose]
        · exact hother
      next => cases hpair
    next => cases hpair
    next => cases hpair

theorem loosePairs?_of_pairs {pairs : List BlockPair} (hpairs : group.pairs value = .ok pairs) :
    value.loosePairs? = some (pairs.map BlockPair.loose) := by
  unfold MarkerGroup.pairs at hpairs
  split at hpairs
  next members hmembers =>
    rw [Value.loosePairs?, hmembers]
    exact mapM_eq_some_of_mapM_eq_ok (fun _ _ => loosePair?_of_pair) hpairs
  next => cases hpairs

end MarkerGroup

/-- A field that passes its check is read, and of one that is absent nothing is read. -/
theorem readField?_of_checkField {α β : Type} {check : Value → Except DescriptionError (List α)}
    {read : Value → Option (List β)} {forget : α → β} {field? : Option Value} {items : List α}
    (hread : ∀ value items, check value = .ok items → read value = some (items.map forget))
    (hchecked : checkField check field? = .ok items) :
    readField? read field? = some (items.map forget) := by
  cases field? with
  | none =>
      cases hchecked
      rfl
  | some value => exact hread value items hchecked

/-- What the check of a description accepts are the markers that the description names. -/
theorem LooseStyle.read?_of_describe {fields : List (Text × Value)} {style : CommentStyle}
    (haccepted : CommentStyle.describe fields = .ok style) : read? fields = some style.loose := by
  obtain ⟨lineMarkers, hline, hrest⟩ := exists_of_bind_eq_ok haccepted
  obtain ⟨docLineMarkers, hdocLine, hrest⟩ := exists_of_bind_eq_ok hrest
  obtain ⟨blockPairs, hblock, hrest⟩ := exists_of_bind_eq_ok hrest
  obtain ⟨docBlockPairs, hdocBlock, hstyle⟩ := exists_of_bind_eq_ok hrest
  cases hstyle
  unfold read?
  rw [readField?_of_checkField (fun _ _ => MarkerGroup.looseMarkers?_of_markers) hline,
    readField?_of_checkField (fun _ _ => MarkerGroup.looseMarkers?_of_markers) hdocLine,
    readField?_of_checkField (fun _ _ => MarkerGroup.loosePairs?_of_pairs) hblock,
    readField?_of_checkField (fun _ _ => MarkerGroup.loosePairs?_of_pairs) hdocBlock]
  rfl

/-! ## Openings -/

/-- The last character of a text. -/
def Text.lastChar (text : Text) : Except ScanFault Char :=
  match text.getLast? with
  | some c => .ok c
  | none => .error .emptyMarker

namespace LooseStyle

/-- Whether a documentation marker counts before a text: its last character does not follow, and
with that character the text does not start with the closer, if there is one. -/
def standsBefore (opener : Text) (closer? : Option Text) (after : Text) :
    Except ScanFault Bool := do
  let last ← Text.lastChar opener
  if after.head? = some last then return false
  match closer? with
  | none => return true
  | some closer => return (Text.after? closer (last :: after)).isNone

/-- The items whose opener opens a text and counts there, each with the text behind its opener. -/
def candidates {α : Type} (opener : α → Text) (counts : α → Text → Except ScanFault Bool) :
    List α → Text → Except ScanFault (List (α × Text))
  | [], _ => .ok []
  | item :: rest, content =>
      match Text.after? (opener item) content with
      | none => candidates opener counts rest content
      | some after => do
          let isFound ← counts item after
          let others ← candidates opener counts rest content
          return if isFound then (item, after) :: others else others

/-- The item with the longest opener that opens a line, and the line without that opener. -/
def longest? {α : Type} (opener : α → Text) (counts : α → Text → Except ScanFault Bool)
    (items : List α) (line : Text) : Except ScanFault (Option (α × Text)) := do
  let found ← candidates opener counts items (Text.content line)
  return (firstLargest? (fun item => (opener item.1).length) found).map
    fun (item, after) => (item, Text.indent line ++ after)

/-- A line without the plain line marker that opens it. -/
def lineBody? (style : LooseStyle) (line : Text) : Except ScanFault (Option Text) := do
  let found ← longest? id (fun _ _ => .ok true) style.lineMarkers line
  return found.map Prod.snd

/-- A line without the documentation line marker that opens it. -/
def docLineBody? (style : LooseStyle) (line : Text) : Except ScanFault (Option Text) := do
  let found ← longest? id (standsBefore · none) style.docLineMarkers line
  return found.map Prod.snd

/-- The plain pair whose opener opens a line, and the line without the opener. -/
def block? (style : LooseStyle) (line : Text) :
    Except ScanFault (Option ((Text × Text) × Text)) :=
  longest? Prod.fst (fun _ _ => .ok true) style.blockPairs line

/-- The documentation pair whose opener opens a line, and the line without the opener. -/
def docBlock? (style : LooseStyle) (line : Text) :
    Except ScanFault (Option ((Text × Text) × Text)) :=
  longest? Prod.fst (fun pair => standsBefore pair.1 (some pair.2)) style.docBlockPairs line

end LooseStyle

/-- What a line starts. -/
inductive OpeningMode where
  | code
  | lineComment
  | blockComment
deriving DecidableEq, Repr

/-- What a line opens, where nothing says that a block comment has a closer. -/
structure LooseOpening where
  mode : OpeningMode
  body : Text
  isDoc : Bool := false
  closer? : Option Text := none
deriving DecidableEq, Repr

/-- What a line opens by texts that may be no markers. -/
def LooseStyle.opening (style : LooseStyle) (line : Text) : Except ScanFault LooseOpening := do
  match ← style.docLineBody? line with
  | some body => return ⟨.lineComment, body, true, none⟩
  | none =>
      match ← style.lineBody? line with
      | some body => return ⟨.lineComment, body, false, none⟩
      | none =>
          match ← style.docBlock? line with
          | some (pair, body) => return ⟨.blockComment, body, true, some pair.2⟩
          | none =>
              match ← style.block? line with
              | some (pair, body) => return ⟨.blockComment, body, false, some pair.2⟩
              | none => return ⟨.code, line, false, none⟩

namespace Opening

theorem firstLargest?_map {α β : Type} {size : β → Nat} (f : α → β) (items : List α) :
    firstLargest? size (items.map f) = (firstLargest? (size ∘ f) items).map f := by
  induction items with
  | nil => rfl
  | cons item rest ih =>
      rw [List.map_cons, firstLargest?, firstLargest?, ih]
      cases firstLargest? (size ∘ f) rest with
      | none => rfl
      | some best =>
          dsimp only [Option.map_some, Function.comp_apply]
          split <;> rfl

theorem candidates_cons {α : Type} (marker : α → Marker) (counts : α → Text → Bool) (item : α)
    (rest : List α) (line : Text) :
    candidates marker counts (item :: rest) line =
      match Text.after? (marker item).text (Text.content line) with
      | none => candidates marker counts rest line
      | some after =>
          if counts item after then (item, after) :: candidates marker counts rest line
          else candidates marker counts rest line := by
  rw [candidates, List.filterMap_cons]
  cases Text.after? (marker item).text (Text.content line) with
  | none => rfl
  | some after =>
      by_cases hcounts : counts item after = true
      · simp [Option.filter_some, hcounts, candidates]
      · simp [Option.filter_some, hcounts, candidates]

section Forgetting

variable {α β : Type} {forget : α → β} {marker : α → Marker} {opener : β → Text}
variable {counts : α → Text → Bool} {looseCounts : β → Text → Except ScanFault Bool}
variable (hopener : ∀ item, opener (forget item) = (marker item).text)
variable (hcounts : ∀ item after, looseCounts (forget item) after = .ok (counts item after))
include hopener hcounts

theorem candidates_map (items : List α) (line : Text) :
    LooseStyle.candidates opener looseCounts (items.map forget) (Text.content line) =
      .ok ((candidates marker counts items line).map (Prod.map forget id)) := by
  induction items with
  | nil => rfl
  | cons item rest ih =>
      rw [List.map_cons, LooseStyle.candidates, hopener, ih, candidates_cons]
      cases Text.after? (marker item).text (Text.content line) with
      | none => rfl
      | some after =>
          dsimp only
          rw [hcounts]
          cases counts item after <;> rfl

/-- A search that is never at fault finds the same with markers and with their texts. -/
theorem longest?_map (items : List α) (line : Text) :
    LooseStyle.longest? opener looseCounts (items.map forget) line =
      .ok ((longest? marker counts items line).map (Prod.map forget id)) := by
  have hsize : (fun found : β × Text => (opener found.1).length) ∘ Prod.map forget id =
      fun found : α × Text => (marker found.1).text.length := by
    funext found
    exact congrArg List.length (hopener found.1)
  rw [LooseStyle.longest?, candidates_map hopener hcounts, ok_bind, firstLargest?_map, hsize,
    longest?, Option.map_map, Option.map_map]
  rfl

end Forgetting

theorem lastChar_marker (marker : Marker) : Text.lastChar marker.text = .ok marker.last := by
  rw [Text.lastChar, List.getLast?_eq_some_getLast marker.nonempty]
  rfl

theorem standsBefore_text (marker : Marker) (closer? : Option Text) (after : Text) :
    LooseStyle.standsBefore marker.text closer? after =
      .ok (marker.standsBefore after &&
        closer?.all fun closer => (Text.after? closer (marker.last :: after)).isNone) := by
  rw [LooseStyle.standsBefore, lastChar_marker, ok_bind]
  by_cases hlast : after.head? = some marker.last
  · rw [if_pos hlast, Marker.standsBefore, hlast]
    simp [pure, Except.pure]
  · rw [if_neg hlast, Marker.standsBefore, bne_iff_ne.mpr hlast]
    cases closer? <;> rfl

theorem standsBefore_marker (marker : Marker) (after : Text) :
    LooseStyle.standsBefore marker.text none after = .ok (marker.standsBefore after) := by
  rw [standsBefore_text, Option.all_none, Bool.and_true]

theorem standsBefore_pair (pair : BlockPair) (after : Text) :
    LooseStyle.standsBefore pair.opener.text (some pair.closer.text) after =
      .ok (pair.standsBefore after) := by
  rw [standsBefore_text, Option.all_some, BlockPair.standsBefore]

/-- The opening as a search with texts finds it. -/
def loose (line : Text) : Opening → LooseOpening
  | .code => ⟨.code, line, false, none⟩
  | .lineComment body isDoc => ⟨.lineComment, body, isDoc, none⟩
  | .blockComment body closer isDoc => ⟨.blockComment, body, isDoc, some closer.text⟩

variable (style : CommentStyle) (line : Text)

theorem lineBody?_loose : style.loose.lineBody? line = .ok (lineBody? style line) := by
  have hfound : LooseStyle.longest? id (fun _ _ => .ok true) style.loose.lineMarkers line =
      .ok ((longest? id (fun _ _ => true) style.lineMarkers line).map
        (Prod.map Marker.text id)) := by
    apply longest?_map
    · exact fun _ => rfl
    · exact fun _ _ => rfl
  rw [LooseStyle.lineBody?, hfound, lineBody?, ok_bind, Option.map_map]
  rfl

theorem docLineBody?_loose : style.loose.docLineBody? line = .ok (docLineBody? style line) := by
  have hfound : LooseStyle.longest? id (LooseStyle.standsBefore · none)
        style.loose.docLineMarkers line =
      .ok ((longest? id Marker.standsBefore style.docLineMarkers line).map
        (Prod.map Marker.text id)) := by
    apply longest?_map
    · exact fun _ => rfl
    · exact standsBefore_marker
  rw [LooseStyle.docLineBody?, hfound, docLineBody?, ok_bind, Option.map_map]
  rfl

theorem block?_loose : style.loose.block? line =
    .ok ((block? style line).map (Prod.map BlockPair.loose id)) := by
  apply longest?_map
  · exact fun _ => rfl
  · exact fun _ _ => rfl

theorem docBlock?_loose : style.loose.docBlock? line =
    .ok ((docBlock? style line).map (Prod.map BlockPair.loose id)) := by
  apply longest?_map
  · exact fun _ => rfl
  · exact standsBefore_pair

/-- With the markers of a style, a search with texts is never at fault and finds the opening. -/
theorem opening_loose : style.loose.opening line = .ok ((ofLine style line).loose line) := by
  rw [LooseStyle.opening, docLineBody?_loose, lineBody?_loose, docBlock?_loose, block?_loose]
  unfold ofLine
  cases docLineBody? style line with
  | some body => rfl
  | none =>
      cases lineBody? style line with
      | some body => rfl
      | none =>
          cases docBlock? style line with
          | some found => rfl
          | none => cases block? style line <;> rfl

/-- An empty documentation marker opens every line and has no last character. -/
example : ({ docLineMarkers := [[]] } : LooseStyle).opening ['x'] = .error .emptyMarker := rfl

end Opening

end SourceScan
