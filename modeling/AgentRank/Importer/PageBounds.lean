import AgentRank.Importer.Unrendered

/-!
# What a reading holds

This module proves what the reading of a page holds: the first value that is published under a
name, a text and blocks within their bounds, and the mark of a reading that left something out.

A bound is checked before a piece is added and not for the piece itself, so it is kept by the
readings whose pieces fit into what is left.
-/

namespace AgentRank.Importer.Markup

open Text Relational Transition

/-! ## Metadata -/

/-- Among what was published, the names that were kept stand with their first value, and none is
missing while there is room. -/
def KeepsFirst (seen : List (String × String)) (metadata : Mapping String) : Prop :=
  (∀ name value, metadata.get? name = some value → seen.lookup name = some value) ∧
    (metadata.entries.length < maxMetadataEntries →
      ∀ name, metadata.get? name = seen.lookup name)

namespace Reader

@[simp]
theorem metadata_append (bounds : Bounds) (data : String) (reader : Reader) :
    (reader.append bounds data).metadata = reader.metadata := by
  rw [append]
  split <;> rfl

@[simp]
theorem metadata_beginCapture (name : String) (reader : Reader) :
    (reader.beginCapture name).metadata = reader.metadata := by
  rw [beginCapture]
  split <;> rfl

@[simp]
theorem metadata_capture (bounds : Bounds) (data : String) (reader : Reader) :
    (reader.capture bounds data).metadata = reader.metadata := by
  rw [capture]
  split <;> rfl

@[simp]
theorem metadata_endCapture (bounds : Bounds) (name : String) (reader : Reader) :
    (reader.endCapture bounds name).metadata = reader.metadata := by
  simp only [endCapture]
  split
  · split <;> rfl
  · split
    · rfl
    · split
      · rfl
      · exact metadata_append _ _ _

@[simp]
theorem metadata_recordLink (attributes : Mapping String) (reader : Reader) :
    (reader.recordLink attributes).metadata = reader.metadata := by
  simp only [recordLink]
  split <;> rfl

end Reader

variable {tag : String}

section Metadata

variable [CharacterTables] {reader : Reader}

variable {seen : List (String × String)}

/-- One more name and its value. -/
theorem KeepsFirst.record {attributes : Mapping String} (keeps : KeepsFirst seen reader.metadata) :
    KeepsFirst (seen ++ (metadataOf attributes).toList) (reader.recordMeta attributes).metadata := by
  rw [Reader.recordMeta]
  cases published : metadataOf attributes with
  | none => rwa [Option.toList_none, List.append_nil]
  | some entry =>
      obtain ⟨key, value⟩ := entry
      have extended : ∀ name, (seen ++ [(key, value)]).lookup name =
          (seen.lookup name).or (if name = key then some value else none) := by
        intro name
        rw [List.lookup_append, Mapping.lookup_cons_ite, List.lookup_nil]
      have kept : ∀ name found, reader.metadata.get? name = some found →
          (seen ++ [(key, value)]).lookup name = some found := by
        intro name found held
        rw [extended, keeps.1 name found held, Option.some_or]
      rw [Option.toList_some]
      dsimp only
      split
      · next full => exact ⟨kept, fun room => absurd full (Nat.not_le.mpr room)⟩
      · next room =>
          have known := keeps.2 (Nat.not_le.mp room)
          split
          · next present =>
              refine ⟨kept, fun _ name => ?_⟩
              rw [extended, ← known]
              by_cases isKey : name = key
              · subst isKey
                obtain ⟨found, held⟩ := Option.isSome_iff_exists.mp present
                rw [held, Option.some_or]
              · rw [if_neg isKey, Option.or_none]
          · next absent =>
              have missing : reader.metadata.get? key = none := Option.not_isSome_iff_eq_none.mp absent
              have same : ∀ name, (reader.metadata.insert key value).get? name =
                  (seen ++ [(key, value)]).lookup name := by
                intro name
                rw [extended, ← known, Mapping.get?_insert]
                by_cases isKey : name = key
                · subst isKey
                  rw [if_pos rfl, if_pos rfl, missing, Option.none_or]
                · rw [if_neg isKey, if_neg isKey, Option.or_none]
              exact ⟨fun name found held => by rw [← same, held], fun _ name => same name⟩

theorem metadata_handleEndTag (bounds : Bounds) (tag : String) :
    (reader.handleEndTag bounds tag).metadata = reader.metadata := by
  simp only [Reader.handleEndTag]
  split
  · exact Reader.metadata_endCapture _ _ _
  · split
    · rfl
    · split
      · rfl
      · split
        · exact Reader.metadata_append _ _ _
        · rfl

omit [CharacterTables] in
theorem metadata_handleData (bounds : Bounds) (data : String) :
    (reader.handleData bounds data).metadata = reader.metadata := by
  rw [Reader.handleData]
  split
  · exact Reader.metadata_capture _ _ _
  · split
    · rfl
    · exact Reader.metadata_append _ _ _

variable {attrs : List (String × Option String)} {bounds : Bounds}

/-- A tag other than `meta` publishes no metadata, and neither does one that is suppressed. -/
theorem metadata_handleStartTag (other : reader.suppressed = [] → lower tag ≠ "meta") :
    (reader.handleStartTag bounds tag attrs).metadata = reader.metadata := by
  simp only [Reader.handleStartTag]
  split
  · split
    · exact Reader.metadata_beginCapture _ _
    · rfl
  · split
    · rfl
    · split
      · rfl
      · next visible =>
          rw [if_neg (other (not_not.mp visible))]
          split
          · exact Reader.metadata_beginCapture _ _
          · split
            · exact Reader.metadata_beginCapture _ _
            · split <;> split <;> simp

theorem metadata_handleStartEndTag (other : reader.suppressed = [] → lower tag ≠ "meta") :
    (reader.handleStartEndTag bounds tag attrs).metadata = reader.metadata := by
  simp only [Reader.handleStartEndTag]
  split
  · rfl
  · next visible =>
      rw [if_neg (other (not_not.mp visible))]
      split
      · exact Reader.metadata_recordLink _ _
      · split
        · exact Reader.metadata_append _ _ _
        · rfl

/-- A `meta` tag that is not suppressed is recorded, in either of its forms. -/
theorem handle_meta (isMeta : lower tag = "meta") (visible : reader.suppressed = []) :
    reader.handleStartTag bounds tag attrs = reader.recordMeta (attributesOf attrs) ∧
      reader.handleStartEndTag bounds tag attrs = reader.recordMeta (attributesOf attrs) := by
  constructor
  · simp [Reader.handleStartTag, isMeta, visible, nonTextElements, headingElements]
  · simp [Reader.handleStartEndTag, isMeta, visible]

/-- What one event adds to the metadata. -/
theorem KeepsFirst.handle (bounds : Bounds) (event : MarkupEvent)
    (keeps : KeepsFirst seen reader.metadata) :
    KeepsFirst
      (seen ++ if reader.suppressed = [] then publishedMetadata.published event else [])
      (reader.handle bounds event).metadata := by
  cases event with
  | startTag tag attrs =>
      by_cases visible : reader.suppressed = [] ∧ lower tag = "meta"
      · obtain ⟨visible, isMeta⟩ := visible
        rw [Reader.handle, (handle_meta isMeta visible).1, if_pos visible,
          publishedMetadata.published, if_pos isMeta]
        exact keeps.record
      · have other : reader.suppressed = [] → lower tag ≠ "meta" := not_and.mp visible
        rw [Reader.handle, metadata_handleStartTag other, publishedMetadata.published]
        split
        · next empty => rwa [if_neg (other empty), List.append_nil]
        · rwa [List.append_nil]
  | startEndTag tag attrs =>
      by_cases visible : reader.suppressed = [] ∧ lower tag = "meta"
      · obtain ⟨visible, isMeta⟩ := visible
        rw [Reader.handle, (handle_meta isMeta visible).2, if_pos visible,
          publishedMetadata.published, if_pos isMeta]
        exact keeps.record
      · have other : reader.suppressed = [] → lower tag ≠ "meta" := not_and.mp visible
        rw [Reader.handle, metadata_handleStartEndTag other, publishedMetadata.published]
        split
        · next empty => rwa [if_neg (other empty), List.append_nil]
        · rwa [List.append_nil]
  | endTag tag =>
      rw [Reader.handle, metadata_handleEndTag]
      simpa [publishedMetadata.published] using keeps
  | data text =>
      rw [Reader.handle, metadata_handleData]
      simpa [publishedMetadata.published] using keeps

/-- What a page adds to the metadata. -/
theorem KeepsFirst.run {page : List MarkupEvent} (keeps : KeepsFirst seen reader.metadata)
    (suppressing : Suppressing reader)
    (unread : Guarded (Reader.handle bounds) KeepsUnread reader page) :
    KeepsFirst (seen ++ publishedMetadata reader.suppressed page)
      (Transition.run (Reader.handle bounds) reader page).metadata := by
  induction page generalizing reader seen with
  | nil => rwa [publishedMetadata, List.append_nil]
  | cons event rest ih =>
      have later := ih (keeps.handle bounds event) (suppressing_handle suppressing unread.1)
        unread.2
      rw [suppressed_handle suppressing unread.1, List.append_assoc] at later
      exact later

end Metadata

/-! ## Bounds -/

/-- What the event adds fits into what the bounds leave. -/
def Fits [CharacterTables] (bounds : Bounds) (reader : Reader) : MarkupEvent → Prop
  | .startTag _ _ | .startEndTag _ _ => True
  | .endTag tag =>
      reader.capturing = some (lower tag) → lower tag ≠ "script" → lower tag ≠ "title" →
        collapse (String.join reader.captured) ≠ "" → reader.length < bounds.textCharacters →
          reader.length + (" " ++ collapse (String.join reader.captured) ++ " ").length ≤
            bounds.textCharacters
  | .data text =>
      (reader.capturing = some "script" →
        reader.capturedLength ≤ bounds.structuredBlockCharacters →
          reader.capturedLength + text.length ≤ bounds.structuredBlockCharacters) ∧
      (reader.capturing = none → reader.suppressed = [] → reader.length < bounds.textCharacters →
        reader.length + text.length ≤ bounds.textCharacters)

instance [CharacterTables] (bounds : Bounds) (reader : Reader) (event : MarkupEvent) :
    Decidable (Fits bounds reader event) :=
  match event with
  | .startTag _ _ | .startEndTag _ _ => inferInstanceAs (Decidable True)
  | .endTag _ => inferInstanceAs (Decidable (_ → _ → _ → _ → _ → _))
  | .data _ => inferInstanceAs (Decidable (_ ∧ _))

/-- The counts of the reader are right, and nothing that it holds is over its bound. -/
structure Sized (bounds : Bounds) (reader : Reader) : Prop where
  length : reader.length = (String.join reader.pieces).length
  withinText : reader.length ≤ bounds.textCharacters
  capturedLength : reader.capturedLength = (String.join reader.captured).length
  withinBlock : reader.capturing = some "script" →
    reader.capturedLength ≤ bounds.structuredBlockCharacters
  blocks : ∀ block ∈ reader.structuredBlocks, block.length ≤ bounds.structuredBlockCharacters

theorem length_join_concat (pieces : List String) (piece : String) :
    (String.join (pieces ++ [piece])).length = (String.join pieces).length + piece.length := by
  simp [String.join]

variable {data : String}

namespace Sized

variable {bounds : Bounds} {reader : Reader}

theorem append (sized : Sized bounds reader)
    (fits : reader.length < bounds.textCharacters →
      reader.length + data.length ≤ bounds.textCharacters) :
    Sized bounds (reader.append bounds data) := by
  rw [Reader.append]
  split
  · exact ⟨sized.length, sized.withinText, sized.capturedLength, sized.withinBlock, sized.blocks⟩
  · next room =>
      refine ⟨?_, fits (Nat.not_le.mp room), sized.capturedLength, sized.withinBlock,
        sized.blocks⟩
      rw [length_join_concat, sized.length]

theorem append_blank (sized : Sized bounds reader) : Sized bounds (reader.append bounds " ") :=
  sized.append fun room => Nat.succ_le_of_lt room

theorem suppress (sized : Sized bounds reader) (name : String) :
    Sized bounds (reader.suppress name) :=
  ⟨sized.length, sized.withinText, sized.capturedLength, sized.withinBlock, sized.blocks⟩

theorem beginCapture (sized : Sized bounds reader) (name : String) :
    Sized bounds (reader.beginCapture name) := by
  rw [Reader.beginCapture]
  split
  · exact ⟨sized.length, sized.withinText, rfl, fun _ => Nat.zero_le _, sized.blocks⟩
  · exact sized

theorem capture (sized : Sized bounds reader)
    (fits : reader.capturing = some "script" →
      reader.capturedLength ≤ bounds.structuredBlockCharacters →
        reader.capturedLength + data.length ≤ bounds.structuredBlockCharacters) :
    Sized bounds (reader.capture bounds data) := by
  rw [Reader.capture]
  split
  · exact ⟨sized.length, sized.withinText, sized.capturedLength, sized.withinBlock, sized.blocks⟩
  · next room =>
      refine ⟨sized.length, sized.withinText, ?_, fun isScript => fits isScript (Nat.not_lt.mp room),
        sized.blocks⟩
      rw [length_join_concat, sized.capturedLength]

theorem release (sized : Sized bounds reader) : Sized bounds reader.release :=
  ⟨sized.length, sized.withinText, rfl, nofun, sized.blocks⟩

theorem endCapture (sized : Sized bounds reader) {name : String}
    (capturing : reader.capturing = some name)
    (fits : name ≠ "script" → name ≠ "title" → collapse (String.join reader.captured) ≠ "" →
      reader.length < bounds.textCharacters →
        reader.length + (" " ++ collapse (String.join reader.captured) ++ " ").length ≤
          bounds.textCharacters) :
    Sized bounds (reader.endCapture bounds name) := by
  have released := sized.release
  simp only [Reader.endCapture]
  split
  · next isScript =>
      subst isScript
      split
      · refine ⟨released.length, released.withinText, rfl, (by rintro ⟨⟩), fun block member => ?_⟩
        rcases List.mem_append.mp member with old | new
        · exact sized.blocks block old
        · rw [List.mem_singleton.mp new, ← sized.capturedLength]
          exact sized.withinBlock capturing
      · exact ⟨released.length, released.withinText, rfl, (by rintro ⟨⟩), released.blocks⟩
  · next notScript =>
      split
      · exact released
      · next visible =>
          split
          · exact ⟨released.length, released.withinText, rfl, (by rintro ⟨⟩), released.blocks⟩
          · next notTitle =>
              apply append
              · exact ⟨released.length, released.withinText, rfl, (by rintro ⟨⟩), released.blocks⟩
              · exact fits notScript notTitle visible

variable [CharacterTables]

theorem recordMeta (sized : Sized bounds reader) (attributes : Mapping String) :
    Sized bounds (reader.recordMeta attributes) := by
  rw [Reader.recordMeta]
  split
  · exact sized
  · split
    · exact sized
    · split
      · exact sized
      · exact ⟨sized.length, sized.withinText, sized.capturedLength, sized.withinBlock,
          sized.blocks⟩

omit [CharacterTables] in
theorem recordLink (sized : Sized bounds reader) (attributes : Mapping String) :
    Sized bounds (reader.recordLink attributes) := by
  simp only [Reader.recordLink]
  split
  · exact ⟨sized.length, sized.withinText, sized.capturedLength, sized.withinBlock, sized.blocks⟩
  · exact sized

theorem handleStartTag (sized : Sized bounds reader) (tag : String)
    (attrs : List (String × Option String)) :
    Sized bounds (reader.handleStartTag bounds tag attrs) := by
  simp only [Reader.handleStartTag]
  split
  · split
    · exact sized.beginCapture _
    · exact sized.suppress _
  · split
    · exact sized.suppress _
    · split
      · exact sized
      · split
        · exact sized.beginCapture _
        · split
          · exact sized.beginCapture _
          · split
            · exact sized.recordMeta _
            · have linked : Sized bounds (if lower tag = "a" then
                  reader.recordLink (attributesOf attrs) else reader) := by
                split
                · exact sized.recordLink _
                · exact sized
              split
              · exact linked.append_blank
              · exact linked

theorem handleStartEndTag (sized : Sized bounds reader) (tag : String)
    (attrs : List (String × Option String)) :
    Sized bounds (reader.handleStartEndTag bounds tag attrs) := by
  simp only [Reader.handleStartEndTag]
  split
  · exact sized
  · split
    · exact sized.recordMeta _
    · split
      · exact sized.recordLink _
      · split
        · exact sized.append_blank
        · exact sized

theorem handleEndTag (sized : Sized bounds reader) (fits : Fits bounds reader (.endTag tag)) :
    Sized bounds (reader.handleEndTag bounds tag) := by
  simp only [Reader.handleEndTag]
  split
  · next capturing => exact sized.endCapture capturing (fits capturing)
  · split
    · exact ⟨sized.length, sized.withinText, sized.capturedLength, sized.withinBlock,
        sized.blocks⟩
    · split
      · exact ⟨sized.length, sized.withinText, sized.capturedLength, sized.withinBlock,
          sized.blocks⟩
      · split
        · exact sized.append_blank
        · exact sized

theorem handleData (sized : Sized bounds reader) {text : String}
    (fits : Fits bounds reader (.data text)) : Sized bounds (reader.handleData bounds text) := by
  rw [Reader.handleData]
  split
  · exact sized.capture fits.1
  · next free =>
      split
      · exact sized
      · next visible => exact sized.append (fits.2 (not_not.mp free) (not_not.mp visible))

/-- An event whose piece fits keeps the bounds. -/
theorem handle (sized : Sized bounds reader) {event : MarkupEvent}
    (fits : Fits bounds reader event) : Sized bounds (reader.handle bounds event) := by
  cases event with
  | startTag tag attrs => exact sized.handleStartTag tag attrs
  | startEndTag tag attrs => exact sized.handleStartEndTag tag attrs
  | endTag tag => exact sized.handleEndTag fits
  | data text => exact sized.handleData fits

end Sized

/-! ## What is left out -/

/-- Bounds that allow at least as much. -/
structure Bounds.Within (bounds wide : Bounds) : Prop where
  textCharacters : bounds.textCharacters ≤ wide.textCharacters
  structuredBlocks : bounds.structuredBlocks ≤ wide.structuredBlocks
  structuredBlockCharacters : bounds.structuredBlockCharacters ≤ wide.structuredBlockCharacters

section Whole

variable {bounds wide : Bounds} {reader : Reader}

theorem append_of_wider (wider : bounds.Within wide)
    (whole : (reader.append bounds data).truncated = false) :
    reader.append wide data = reader.append bounds data := by
  rw [Reader.append] at whole
  split at whole
  · cases whole
  · next room =>
      rw [Reader.append, Reader.append, if_neg room, if_neg]
      exact fun full => room (wider.textCharacters.trans full)

theorem capture_of_wider (wider : bounds.Within wide)
    (whole : (reader.capture bounds data).truncated = false) :
    reader.capture wide data = reader.capture bounds data := by
  rw [Reader.capture] at whole
  split at whole
  · cases whole
  · next room =>
      rw [Reader.capture, Reader.capture, if_neg room, if_neg]
      exact fun full => room (wider.structuredBlockCharacters.trans_lt full)

theorem endCapture_of_wider (wider : bounds.Within wide) {name : String}
    (whole : (reader.endCapture bounds name).truncated = false) :
    reader.endCapture wide name = reader.endCapture bounds name := by
  simp only [Reader.endCapture] at whole ⊢
  by_cases isScript : name = "script"
  · simp only [if_pos isScript] at whole ⊢
    by_cases room : reader.release.structuredBlocks.length < bounds.structuredBlocks
    · rw [if_pos room, if_pos (room.trans_le wider.structuredBlocks)]
    · rw [if_neg room] at whole
      cases whole
  · simp only [if_neg isScript] at whole ⊢
    by_cases blank : collapse (String.join reader.captured) = ""
    · rw [if_pos blank, if_pos blank]
    · rw [if_neg blank] at whole ⊢
      rw [if_neg blank]
      by_cases isTitle : name = "title"
      · rw [if_pos isTitle, if_pos isTitle]
      · rw [if_neg isTitle] at whole ⊢
        rw [if_neg isTitle]
        exact append_of_wider wider whole

variable [CharacterTables]

theorem truncated_recordMeta (attributes : Mapping String) :
    (reader.recordMeta attributes).truncated = reader.truncated := by
  rw [Reader.recordMeta]
  split
  · rfl
  · split
    · rfl
    · split <;> rfl

omit [CharacterTables] in
theorem truncated_recordLink (attributes : Mapping String) :
    (reader.recordLink attributes).truncated = reader.truncated := by
  simp only [Reader.recordLink]
  split <;> rfl

omit [CharacterTables] in
theorem truncated_beginCapture (name : String) :
    (reader.beginCapture name).truncated = reader.truncated := by
  rw [Reader.beginCapture]
  split <;> rfl

/-- A tag does the same under all bounds, up to a blank that it appends. -/
def BlankAtMost (reader : Reader) (step : Bounds → Reader) : Prop :=
  ∃ after : Reader, after.truncated = reader.truncated ∧
    ((∀ bounds, step bounds = after) ∨ ∀ bounds, step bounds = after.append bounds " ")

theorem handleStartTag_bounds (reader : Reader) (tag : String)
    (attrs : List (String × Option String)) :
    BlankAtMost reader fun bounds => reader.handleStartTag bounds tag attrs := by
  simp only [Reader.handleStartTag]
  split
  · split
    · exact ⟨_, truncated_beginCapture _, Or.inl fun _ => rfl⟩
    · exact ⟨reader.suppress _, rfl, Or.inl fun _ => rfl⟩
  · split
    · exact ⟨reader.suppress _, rfl, Or.inl fun _ => rfl⟩
    · split
      · exact ⟨reader, rfl, Or.inl fun _ => rfl⟩
      · split
        · exact ⟨_, truncated_beginCapture _, Or.inl fun _ => rfl⟩
        · split
          · exact ⟨_, truncated_beginCapture _, Or.inl fun _ => rfl⟩
          · split
            · exact ⟨_, truncated_recordMeta _, Or.inl fun _ => rfl⟩
            · have linked : (if lower tag = "a" then reader.recordLink (attributesOf attrs)
                  else reader).truncated = reader.truncated := by
                split
                · exact truncated_recordLink _
                · rfl
              split
              · exact ⟨_, linked, Or.inr fun _ => rfl⟩
              · exact ⟨_, linked, Or.inl fun _ => rfl⟩

theorem handleStartEndTag_bounds (reader : Reader) (tag : String)
    (attrs : List (String × Option String)) :
    BlankAtMost reader fun bounds => reader.handleStartEndTag bounds tag attrs := by
  simp only [Reader.handleStartEndTag]
  split
  · exact ⟨reader, rfl, Or.inl fun _ => rfl⟩
  · split
    · exact ⟨_, truncated_recordMeta _, Or.inl fun _ => rfl⟩
    · split
      · exact ⟨_, truncated_recordLink _, Or.inl fun _ => rfl⟩
      · split
        · exact ⟨reader, rfl, Or.inr fun _ => rfl⟩
        · exact ⟨reader, rfl, Or.inl fun _ => rfl⟩

omit [CharacterTables] in
theorem BlankAtMost.of_wider {step : Bounds → Reader} (blank : BlankAtMost reader step)
    (wider : bounds.Within wide) (whole : (step bounds).truncated = false) :
    step wide = step bounds := by
  obtain ⟨after, _, same | appends⟩ := blank
  · rw [same, same]
  · rw [appends] at whole
    rw [appends, appends]
    exact append_of_wider wider whole

/-- A step that marks nothing as left out is the step under any wider bounds. -/
theorem handle_of_wider (wider : bounds.Within wide) {event : MarkupEvent}
    (whole : (reader.handle bounds event).truncated = false) :
    reader.handle wide event = reader.handle bounds event := by
  cases event with
  | startTag tag attrs => exact (handleStartTag_bounds reader tag attrs).of_wider wider whole
  | startEndTag tag attrs => exact (handleStartEndTag_bounds reader tag attrs).of_wider wider whole
  | endTag tag =>
      simp only [Reader.handle, Reader.handleEndTag] at whole ⊢
      split at whole
      · next capturing =>
          rw [if_pos capturing, if_pos capturing]
          exact endCapture_of_wider wider whole
      · next apart =>
          rw [if_neg apart, if_neg apart]
          split at whole
          · next top => rw [if_pos top, if_pos top]
          · next below =>
              rw [if_neg below, if_neg below]
              split at whole
              · next inside => rw [if_pos inside, if_pos inside]
              · next outside =>
                  rw [if_neg outside, if_neg outside]
                  split at whole
                  · next breaks =>
                      rw [if_pos breaks, if_pos breaks]
                      exact append_of_wider wider whole
                  · next plain => rw [if_neg plain, if_neg plain]
  | data text =>
      simp only [Reader.handle, Reader.handleData] at whole ⊢
      split at whole
      · next capturing =>
          rw [if_pos capturing, if_pos capturing]
          exact capture_of_wider wider whole
      · next free =>
          rw [if_neg free, if_neg free]
          split at whole
          · next hidden => rw [if_pos hidden, if_pos hidden]
          · next visible =>
              rw [if_neg visible, if_neg visible]
              exact append_of_wider wider whole

omit [CharacterTables] in
theorem truncated_append (marked : reader.truncated = true) :
    (reader.append bounds data).truncated = true := by
  rw [Reader.append]
  split
  · rfl
  · exact marked

omit [CharacterTables] in
theorem truncated_capture (marked : reader.truncated = true) :
    (reader.capture bounds data).truncated = true := by
  rw [Reader.capture]
  split
  · rfl
  · exact marked

omit [CharacterTables] in
theorem truncated_endCapture {name : String} (marked : reader.truncated = true) :
    (reader.endCapture bounds name).truncated = true := by
  simp only [Reader.endCapture]
  split
  · split
    · exact marked
    · rfl
  · split
    · exact marked
    · split
      · exact marked
      · exact truncated_append marked

omit [CharacterTables] in
theorem BlankAtMost.marked {step : Bounds → Reader} (blank : BlankAtMost reader step)
    (marked : reader.truncated = true) : (step bounds).truncated = true := by
  obtain ⟨after, kept, same | appends⟩ := blank
  · rw [same, kept, marked]
  · rw [appends]
    exact truncated_append (kept.trans marked)

/-- The mark stays. -/
theorem truncated_handle (event : MarkupEvent) (marked : reader.truncated = true) :
    (reader.handle bounds event).truncated = true := by
  cases event with
  | startTag tag attrs => exact (handleStartTag_bounds reader tag attrs).marked marked
  | startEndTag tag attrs => exact (handleStartEndTag_bounds reader tag attrs).marked marked
  | endTag tag =>
      simp only [Reader.handle, Reader.handleEndTag]
      split
      · exact truncated_endCapture marked
      · split
        · exact marked
        · split
          · exact marked
          · split
            · exact truncated_append marked
            · exact marked
  | data text =>
      simp only [Reader.handle, Reader.handleData]
      split
      · exact truncated_capture marked
      · split
        · exact marked
        · exact truncated_append marked

/-- A reading that marks nothing as left out is the reading under any wider bounds. -/
theorem run_of_wider (wider : bounds.Within wide) {page : List MarkupEvent}
    (whole : (run (Reader.handle bounds) reader page).truncated = false) :
    run (Reader.handle wide) reader page = run (Reader.handle bounds) reader page := by
  induction page generalizing reader with
  | nil => rfl
  | cons event rest ih =>
      have unmarked : (reader.handle bounds event).truncated = false := by
        by_contra marked
        have stays := @run_invariant_of_step _ _ (Reader.handle bounds) _
          (fun reader => reader.truncated = true) rest (fun _ event => truncated_handle event)
          (Bool.not_eq_false _ ▸ marked)
        rw [run_cons] at whole
        rw [whole] at stays
        cases stays
      rw [run_cons, run_cons, handle_of_wider wider unmarked]
      exact ih whole

end Whole

/-! ## Pages -/

section Pages

variable [CharacterTables]

/-- No event of the page reaches the record from inside of an element that is not rendered. -/
def NeverReached (page : List MarkupEvent) : Prop :=
  Guarded (Reader.handle declared) KeepsUnread {} page

/-- Every piece of the page fits into what the bounds leave. -/
def Fitting (page : List MarkupEvent) : Prop :=
  Guarded (Reader.handle declared) (Fits declared) {} page

instance (page : List MarkupEvent) : Decidable (NeverReached page) :=
  inferInstanceAs (Decidable (Guarded _ _ _ _))

instance (page : List MarkupEvent) : Decidable (Fitting page) :=
  inferInstanceAs (Decidable (Guarded _ _ _ _))

/-- What a page does not render is not read, of a name the first value is kept, the text and the
blocks keep their bounds, and what is left out is marked. -/
theorem unrendered_never_read :
    (∀ page other, DifferUnrendered [] page other → NeverReached page → NeverReached other →
      ReadAlike (readPage page) (readPage other)) ∧
    (∀ page, NeverReached page →
      KeepsFirst (publishedMetadata [] page) (readPage page).metadata) ∧
    (∀ page, Fitting page → (readPage page).text.length ≤ declared.textCharacters ∧
      ∀ block ∈ (readPage page).structuredBlocks,
        block.length ≤ declared.structuredBlockCharacters) ∧
    ∀ page, (readPage page).truncated = false → ∀ wide, declared.Within wide →
      (readWithin wide page).text = (readPage page).text ∧
        (readWithin wide page).structuredBlocks = (readPage page).structuredBlocks := by
  have suppressing : Suppressing {} := nofun
  refine ⟨?_, ?_, ?_, ?_⟩
  · intro page other differ unread otherUnread
    have same := run_eq_of_differUnrendered differ suppressing unread otherUnread
    have reading : readPage page = readPage other := congrArg Reader.reading same
    rw [reading]
    exact ⟨rfl, rfl, rfl, rfl, rfl, rfl, rfl⟩
  · intro page unread
    have empty : KeepsFirst [] (Mapping.empty : Mapping String) := ⟨nofun, fun _ _ => rfl⟩
    exact empty.run suppressing unread
  · intro page fitting
    have empty : Sized declared {} := ⟨rfl, Nat.zero_le _, rfl, nofun, nofun⟩
    have sized : Sized declared (run (Reader.handle declared) {} page) :=
      run_invariant (fun _ _ sized fits => sized.handle fits) empty fitting
    refine ⟨?_, sized.blocks⟩
    calc
      (readPage page).text.length ≤ (String.join (run (Reader.handle declared) {} page).pieces).length :=
        length_collapse_le _
      _ = (run (Reader.handle declared) {} page).length := sized.length.symm
      _ ≤ declared.textCharacters := sized.withinText
  · intro page whole wide wider
    have same : readWithin wide page = readPage page :=
      congrArg Reader.reading (run_of_wider wider whole)
    rw [same]
    exact ⟨rfl, rfl⟩

end Pages

/-- A page with a style sheet. -/
def styled (sheet : String) : List MarkupEvent :=
  [.startTag "meta" [("name", some "price"), ("content", some "4999")],
    .startTag "style" [], .data sheet, .endTag "style", .data "Lamp"]

theorem styled_differUnrendered (first second : String) : let _ := asciiTables
    DifferUnrendered [] (styled first) (styled second) := by
  intro _
  apply DifferUnrendered.same
  have filled : ∀ sheet, Fills "style" [] ["style"] [.data sheet] := fun sheet =>
    (by decide +kernel : Fills "style" [] ["style"] [.data ""])
  have opened : opens (.startTag "style" []) = some "style" := by decide +kernel
  have closed : lower "style" = "style" := by decide +kernel
  exact .unrendered opened closed (filled first) (filled second) (.same _ (.done _))

theorem unrendered_never_read_styled : let _ := asciiTables
    ReadAlike (readPage (styled "a")) (readPage (styled "b")) ∧
      (readPage (styled "a")).metadata.get? "price" = some "4999" ∧
      (readPage (styled "a")).text.length ≤ declared.textCharacters := by
  intro _
  obtain ⟨alike, published, bounded, _⟩ := unrendered_never_read
  have unread : NeverReached (styled "a") := by decide +kernel
  have otherUnread : NeverReached (styled "b") := by decide +kernel
  have fitting : Fitting (styled "a") := by decide +kernel
  refine ⟨alike _ _ (styled_differUnrendered _ _) unread otherUnread, ?_, (bounded _ fitting).1⟩
  rw [(published _ unread).2]
  · decide +kernel
  · decide +kernel

/-- A heading with an icon inside. -/
def headed (icon : List MarkupEvent) : List MarkupEvent :=
  [.startTag "h1" [], .data "Lamp", .startTag "svg" []] ++ icon ++
    [.endTag "svg", .endTag "h1"]

/-- A page of one word. -/
def oneWord (count : Nat) : List MarkupEvent :=
  [.data (String.ofList (List.replicate count 'a'))]

theorem text_oneWord (count : Nat) : let _ := asciiTables
    (readPage (oneWord count)).text.length = count := by
  intro _
  have visible : ∀ char ∈ (String.ofList (List.replicate count 'a')).toList,
      isSpace char = false := by
    intro char member
    rw [String.toList_ofList] at member
    rw [List.eq_of_mem_replicate member]
    decide
  have joined : String.join [String.ofList (List.replicate count 'a')] =
      String.ofList (List.replicate count 'a') := by simp [String.join]
  have text : (readPage (oneWord count)).text =
      collapse (String.join [String.ofList (List.replicate count 'a')]) := rfl
  rw [text, joined, collapse_of_visible visible, String.length_ofList, List.length_replicate]

/-- An icon inside of a heading is read into it, and a long piece of text passes the bound. -/
theorem unrendered_heading_read : let _ := asciiTables
    (¬∀ page other, DifferUnrendered [] page other → ReadAlike (readPage page) (readPage other)) ∧
      ¬∀ page, (readPage page).text.length ≤ declared.textCharacters := by
  intro _
  constructor
  · intro alike
    have differ : DifferUnrendered [] (headed []) (headed [.data "icon"]) := by
      apply DifferUnrendered.same
      apply DifferUnrendered.same
      have opened : opens (.startTag "svg" []) = some "svg" := by decide +kernel
      have closed : lower "svg" = "svg" := by decide +kernel
      have empty : Fills "svg" [] ["svg"] [] := by decide +kernel
      have icon : Fills "svg" [] ["svg"] [.data "icon"] := by decide +kernel
      exact .unrendered opened closed empty icon (.same _ (.done _))
    have same := (alike _ _ differ).heading
    revert same
    decide +kernel
  · intro bounded
    have long := bounded (oneWord 200001)
    rw [text_oneWord] at long
    revert long
    decide

end AgentRank.Importer.Markup
