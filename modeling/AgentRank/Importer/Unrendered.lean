import AgentRank.Importer.Reading
import Mathlib.Tactic.Common

/-!
# What a page does not render

This module says which part of a page lies inside of an element that a browser does not render,
apart from the reader, and compares the readings of pages that differ in such parts only.

The reader decides by its own stack and by its one slot.  Inside of an element that is not
rendered it still captures data while a heading is open, still captures structured data, still
ends the capture of an outer element, and still separates words at the end of a paragraph.  A
reading that meets none of these events there never reads what is not rendered.
-/

namespace AgentRank.Importer.Markup

open Text Relational Transition

section Elements

variable [CharacterTables]

/-- The element that an event opens, where it is one that a browser does not render. -/
def opens : MarkupEvent → Option String
  | .startTag tag attrs =>
      if lower tag = "script" ∧ isStructuredData (attributesOf attrs) = true then none
      else if lower tag ∈ nonTextElements then some (lower tag)
      else none
  | _ => none

/-- An end tag ends the innermost element of its name, and with it what is open inside. -/
def closeElement (name : String) (within : List String) : List String :=
  if name ∈ within then (within.dropWhile (· ≠ name)).tail else within

/-- The elements that are not rendered and open after an event, the innermost first. -/
def openAfter (event : MarkupEvent) (within : List String) : List String :=
  match event with
  | .endTag tag => closeElement (lower tag) within
  | _ => (opens event).toList ++ within

/-- The events stand inside of the element, all of them, and its end tag may follow them. -/
def Fills (name : String) (outer : List String) : List String → List MarkupEvent → Prop
  | within, [] => closeElement name within = outer
  | within, event :: rest =>
      name :: outer <:+ openAfter event within ∧ Fills name outer (openAfter event within) rest

instance decidableFills (name : String) (outer within : List String)
    (content : List MarkupEvent) : Decidable (Fills name outer within content) :=
  match content with
  | [] => inferInstanceAs (Decidable (_ = _))
  | event :: rest =>
      let _ := decidableFills name outer (openAfter event within) rest
      inferInstanceAs (Decidable (_ ∧ _))

/-- Two pages that differ only in what lies inside of closed elements that are not rendered. -/
inductive DifferUnrendered : List String → List MarkupEvent → List MarkupEvent → Prop
  | done (within : List String) : DifferUnrendered within [] []
  | same {within : List String} {page other : List MarkupEvent} (event : MarkupEvent)
      (rest : DifferUnrendered (openAfter event within) page other) :
      DifferUnrendered within (event :: page) (event :: other)
  | unrendered {within : List String} {page other content filling : List MarkupEvent}
      {start : MarkupEvent} {name tag : String} (opened : opens start = some name)
      (closed : lower tag = name) (fills : Fills name within (name :: within) content)
      (alsoFills : Fills name within (name :: within) filling)
      (rest : DifferUnrendered within page other) :
      DifferUnrendered within (start :: (content ++ .endTag tag :: page))
        (start :: (filling ++ .endTag tag :: other))

/-- Two readings that give the same title, headings, metadata, links, blocks and text. -/
structure ReadAlike (first second : PageReading) : Prop where
  title : first.title = second.title
  heading : first.heading = second.heading
  headings : first.headings = second.headings
  metadata : first.metadata = second.metadata
  links : first.links = second.links
  structuredBlocks : first.structuredBlocks = second.structuredBlocks
  text : first.text = second.text

/-- What the `meta` tags outside of elements that are not rendered publish, in order. -/
def publishedMetadata : List String → List MarkupEvent → List (String × String)
  | _, [] => []
  | within, event :: rest =>
      (if within = [] then published event else []) ++
        publishedMetadata (openAfter event within) rest
where
  published : MarkupEvent → List (String × String)
    | .startTag tag attrs | .startEndTag tag attrs =>
        if lower tag = "meta" then (metadataOf (attributesOf attrs)).toList else []
    | _ => []

/-- Inside of an element that is not rendered, the event reaches nothing that is recorded. -/
def Unread (reader : Reader) : MarkupEvent → Prop
  | .startTag tag attrs =>
      lower tag = "script" → isStructuredData (attributesOf attrs) = true →
        reader.capturing ≠ none
  | .startEndTag _ _ => True
  | .endTag tag => reader.capturing ≠ some (lower tag) ∧ lower tag ∉ breakingElements
  | .data _ => reader.capturing = none

instance (reader : Reader) (event : MarkupEvent) : Decidable (Unread reader event) :=
  match event with
  | .startTag _ _ => inferInstanceAs (Decidable (_ → _ → _))
  | .startEndTag _ _ => inferInstanceAs (Decidable True)
  | .endTag _ => inferInstanceAs (Decidable (_ ∧ _))
  | .data _ => inferInstanceAs (Decidable (_ = _))

def KeepsUnread (reader : Reader) (event : MarkupEvent) : Prop :=
  reader.suppressed ≠ [] → Unread reader event

instance (reader : Reader) (event : MarkupEvent) : Decidable (KeepsUnread reader event) :=
  inferInstanceAs (Decidable (_ → _))

end Elements

/-! ## The stack of the reader -/

namespace Reader

@[simp]
theorem suppressed_append (bounds : Bounds) (data : String) (reader : Reader) :
    (reader.append bounds data).suppressed = reader.suppressed := by
  rw [append]
  split <;> rfl

@[simp]
theorem suppressed_beginCapture (name : String) (reader : Reader) :
    (reader.beginCapture name).suppressed = reader.suppressed := by
  rw [beginCapture]
  split <;> rfl

@[simp]
theorem suppressed_capture (bounds : Bounds) (data : String) (reader : Reader) :
    (reader.capture bounds data).suppressed = reader.suppressed := by
  rw [capture]
  split <;> rfl

@[simp]
theorem suppressed_endCapture (bounds : Bounds) (name : String) (reader : Reader) :
    (reader.endCapture bounds name).suppressed = reader.suppressed := by
  simp only [endCapture]
  split
  · split <;> rfl
  · split
    · rfl
    · split
      · rfl
      · exact suppressed_append _ _ _

variable [CharacterTables]

@[simp]
theorem suppressed_recordMeta (attributes : Mapping String) (reader : Reader) :
    (reader.recordMeta attributes).suppressed = reader.suppressed := by
  rw [recordMeta]
  split
  · rfl
  · split
    · rfl
    · split <;> rfl

omit [CharacterTables] in
@[simp]
theorem suppressed_recordLink (attributes : Mapping String) (reader : Reader) :
    (reader.recordLink attributes).suppressed = reader.suppressed := by
  simp only [recordLink]
  split <;> rfl

end Reader

variable {name : String} {within : List String}

theorem closeElement_of_head (top : within.head? = some name) :
    closeElement name within = within.tail := by
  cases within with
  | nil => cases top
  | cons first rest =>
      cases top
      simp [closeElement]

theorem closeElement_of_not_mem (absent : name ∉ within) :
    closeElement name within = within :=
  if_neg absent

theorem mem_of_mem_closeElement {other : String} (member : other ∈ closeElement name within) :
    other ∈ within := by
  rw [closeElement] at member
  split at member
  · exact (List.dropWhile_suffix _).subset (List.mem_of_mem_tail member)
  · exact member

section Stack

variable [CharacterTables] {bounds : Bounds} {reader : Reader} {event : MarkupEvent}

/-- Only elements that are not rendered are on the stack. -/
def Suppressing (reader : Reader) : Prop :=
  ∀ name ∈ reader.suppressed, name ∈ nonTextElements

variable {tag : String}

theorem handleStartTag_of_opens {attrs : List (String × Option String)}
    (opened : opens (.startTag tag attrs) = some name) :
    reader.handleStartTag bounds tag attrs = reader.suppress name := by
  rw [opens] at opened
  split at opened
  · cases opened
  · next unstructured =>
      split at opened
      · next listed =>
          cases opened
          rw [Reader.handleStartTag]
          by_cases isScript : lower tag = "script"
          · have plain : ¬isStructuredData (attributesOf attrs) = true := fun structured =>
              unstructured ⟨isScript, structured⟩
            simp only [isScript, if_true, if_neg plain]
          · simp only [if_neg isScript, if_pos listed]
      · cases opened

/-- A start tag that opens no such element leaves the stack alone. -/
theorem suppressed_handleStartTag {attrs : List (String × Option String)}
    (plain : opens (.startTag tag attrs) = none) :
    (reader.handleStartTag bounds tag attrs).suppressed = reader.suppressed := by
  simp only [Reader.handleStartTag]
  split
  · next isScript =>
      split
      · exact Reader.suppressed_beginCapture _ _
      · next unstructured => simp [opens, isScript, unstructured, nonTextElements] at plain
  · next notScript =>
      split
      · next listed => simp [opens, notScript, listed] at plain
      · split
        · rfl
        · split
          · exact Reader.suppressed_beginCapture _ _
          · split
            · exact Reader.suppressed_beginCapture _ _
            · split
              · exact Reader.suppressed_recordMeta _ _
              · split <;> split <;> simp

theorem suppressed_handleStartEndTag (tag : String) (attrs : List (String × Option String)) :
    (reader.handleStartEndTag bounds tag attrs).suppressed = reader.suppressed := by
  simp only [Reader.handleStartEndTag]
  split
  · rfl
  · split
    · exact Reader.suppressed_recordMeta _ _
    · split
      · exact Reader.suppressed_recordLink _ _
      · split
        · exact Reader.suppressed_append _ _ _
        · rfl

/-- An end tag that ends no capture is taken off the stack as its element is closed. -/
theorem handleEndTag_eq (suppressing : Suppressing reader)
    (apart : reader.capturing ≠ some (lower tag)) :
    reader.handleEndTag bounds tag =
      if lower tag ∈ reader.suppressed then
        { reader with suppressed := closeElement (lower tag) reader.suppressed }
      else if lower tag ∈ breakingElements then reader.append bounds " "
      else reader := by
  simp only [Reader.handleEndTag, if_neg apart]
  split
  · next top =>
      rw [closeElement_of_head top, if_pos (List.mem_of_mem_head? top)]
  · split
    · next inside =>
        rw [if_pos inside.2, closeElement, if_pos inside.2]
    · next outside =>
        have absent : lower tag ∉ reader.suppressed := fun member =>
          outside ⟨suppressing _ member, member⟩
        rw [if_neg absent]

theorem suppressed_handleEndTag (suppressing : Suppressing reader)
    (apart : reader.suppressed ≠ [] → reader.capturing ≠ some (lower tag)) :
    (reader.handleEndTag bounds tag).suppressed =
      closeElement (lower tag) reader.suppressed := by
  by_cases capturing : reader.capturing = some (lower tag)
  · have empty : reader.suppressed = [] := by
      by_contra nonempty
      exact apart nonempty capturing
    simp only [Reader.handleEndTag, if_pos capturing, Reader.suppressed_endCapture]
    rw [empty, closeElement_of_not_mem List.not_mem_nil]
  · rw [handleEndTag_eq suppressing capturing]
    split
    · rfl
    · next absent =>
        rw [closeElement_of_not_mem absent]
        split
        · exact Reader.suppressed_append _ _ _
        · rfl

/-- The stack of the reader is the stack of open elements. -/
theorem suppressed_handle (suppressing : Suppressing reader) (unread : KeepsUnread reader event) :
    (reader.handle bounds event).suppressed = openAfter event reader.suppressed := by
  cases event with
  | startTag tag attrs =>
      cases opened : opens (.startTag tag attrs) with
      | none =>
          rw [Reader.handle, suppressed_handleStartTag opened, openAfter, opened]
          · rfl
          · nofun
      | some name =>
          rw [Reader.handle, handleStartTag_of_opens opened, openAfter, opened]
          · rfl
          · nofun
  | startEndTag tag attrs => exact suppressed_handleStartEndTag tag attrs
  | endTag tag => exact suppressed_handleEndTag suppressing fun nonempty => (unread nonempty).1
  | data text =>
      simp only [Reader.handle, Reader.handleData, openAfter, opens, Option.toList_none,
        List.nil_append]
      split
      · exact Reader.suppressed_capture _ _ _
      · split
        · rfl
        · exact Reader.suppressed_append _ _ _

theorem suppressing_handle (suppressing : Suppressing reader) (unread : KeepsUnread reader event) :
    Suppressing (reader.handle bounds event) := by
  intro name member
  rw [suppressed_handle suppressing unread] at member
  cases event with
  | endTag tag => exact suppressing name (mem_of_mem_closeElement member)
  | startEndTag _ _ => exact suppressing name member
  | data _ => exact suppressing name member
  | startTag tag attrs =>
      rw [openAfter, List.mem_append] at member
      · rcases member with opened | open_
        · rw [Option.mem_toList, opens] at opened
          split at opened
          · cases opened
          · split at opened
            · next listed =>
                cases opened
                exact listed
            · cases opened
        · exact suppressing name open_
      · nofun

/-- Inside of an element that is not rendered, an event changes the stack and nothing else. -/
theorem handle_of_suppressed (suppressing : Suppressing reader) (inside : reader.suppressed ≠ [])
    (unread : Unread reader event) :
    reader.handle bounds event =
      { reader with suppressed := openAfter event reader.suppressed } := by
  cases event with
  | startTag tag attrs =>
      cases opened : opens (.startTag tag attrs) with
      | some name =>
          rw [Reader.handle, handleStartTag_of_opens opened, openAfter, opened]
          · rfl
          · nofun
      | none =>
          rw [openAfter, opened]
          · rw [Reader.handle, Reader.handleStartTag]
            by_cases isScript : lower tag = "script"
            · by_cases structured : isStructuredData (attributesOf attrs) = true
              · have taken := unread isScript structured
                simp [isScript, structured, Reader.beginCapture, taken]
              · simp [opens, isScript, structured, nonTextElements] at opened
            · by_cases listed : lower tag ∈ nonTextElements
              · simp [opens, isScript, listed] at opened
              · simp [isScript, listed, inside]
          · nofun
  | startEndTag tag attrs =>
      simp only [Reader.handle, Reader.handleStartEndTag, if_pos inside, openAfter, opens,
        Option.toList_none, List.nil_append]
  | endTag tag =>
      rw [Reader.handle, handleEndTag_eq suppressing unread.1, if_neg unread.2, openAfter]
      split
      · rfl
      · next absent => rw [closeElement_of_not_mem absent]
  | data text =>
      have free : ¬reader.capturing ≠ none := not_not.mpr unread
      simp only [Reader.handle, Reader.handleData, if_neg free, if_pos inside, openAfter, opens,
        Option.toList_none, List.nil_append]

variable {within : List String} {page other content : List MarkupEvent}

/-- What stands inside of an element that is not rendered leaves the reader as it was, up to the
elements that are still open inside. -/
theorem run_of_fills {outer : List String} (fills : Fills name outer within content)
    (inside : name :: outer <:+ within)
    (suppressing : Suppressing { reader with suppressed := within })
    (unread : Guarded (Reader.handle bounds) KeepsUnread { reader with suppressed := within }
      content) :
    ∃ left, closeElement name left = outer ∧ name ∈ left ∧
      Suppressing { reader with suppressed := left } ∧
        run (Reader.handle bounds) { reader with suppressed := within } content =
          { reader with suppressed := left } := by
  induction content generalizing within with
  | nil => exact ⟨within, fills, inside.subset List.mem_cons_self, suppressing, rfl⟩
  | cons event rest ih =>
      obtain ⟨stays, later⟩ := fills
      have nonempty : within ≠ [] := List.ne_nil_of_mem (inside.subset List.mem_cons_self)
      have stepped := @handle_of_suppressed _ bounds _ _ suppressing nonempty
        (unread.1 nonempty)
      have suppressed := @suppressing_handle _ bounds _ _ suppressing unread.1
      have guarded := unread.2
      rw [stepped] at suppressed guarded
      rw [run_cons, stepped]
      exact ih later stays suppressed guarded

/-- A closed element that is not rendered leaves the reader as it was. -/
theorem run_unrendered {start : MarkupEvent} (opened : opens start = some name)
    (closed : lower tag = name)
    (fills : Fills name reader.suppressed (name :: reader.suppressed) content)
    (suppressing : Suppressing reader)
    (unread : Guarded (Reader.handle bounds) KeepsUnread reader
      (start :: (content ++ .endTag tag :: page))) :
    run (Reader.handle bounds) reader (start :: (content ++ .endTag tag :: page)) =
        run (Reader.handle bounds) reader page ∧
      Guarded (Reader.handle bounds) KeepsUnread reader page := by
  have started : reader.handle bounds start = reader.suppress name := by
    cases start with
    | startTag startTag attrs => exact handleStartTag_of_opens opened
    | startEndTag _ _ => cases opened
    | endTag _ => cases opened
    | data _ => cases opened
  have suppressed := @suppressing_handle _ bounds _ _ suppressing unread.1
  obtain ⟨_, later⟩ := unread
  rw [started] at suppressed later
  rw [guarded_append_iff] at later
  obtain ⟨left, ends, member, listed, filled⟩ :=
    run_of_fills fills List.suffix_rfl suppressed later.1
  have filledFrom : run (Reader.handle bounds) (reader.suppress name) content =
      { reader with suppressed := left } := filled
  obtain ⟨ending, rest⟩ := later.2
  rw [filledFrom] at ending rest
  have unread := ending (List.ne_nil_of_mem member)
  have ended : Reader.handle bounds (.endTag tag) { reader with suppressed := left } = reader := by
    rw [Reader.handle, handleEndTag_eq listed unread.1, closed, if_pos member, ends]
  rw [ended] at rest
  rw [run_cons, started, run_append, filledFrom, run_cons, ended]
  exact ⟨rfl, rest⟩

/-- Pages that differ only in what is not rendered are read alike. -/
theorem run_eq_of_differUnrendered (differ : DifferUnrendered reader.suppressed page other)
    (suppressing : Suppressing reader)
    (unread : Guarded (Reader.handle bounds) KeepsUnread reader page)
    (otherUnread : Guarded (Reader.handle bounds) KeepsUnread reader other) :
    run (Reader.handle bounds) reader page = run (Reader.handle bounds) reader other := by
  generalize start : reader.suppressed = within at differ
  induction differ generalizing reader with
  | done _ => rfl
  | same event rest ih =>
      subst start
      exact ih (suppressing_handle suppressing unread.1) unread.2 otherUnread.2
        (suppressed_handle suppressing unread.1)
  | unrendered opened closed fills alsoFills rest ih =>
      subst start
      obtain ⟨skipped, later⟩ := run_unrendered opened closed fills suppressing unread
      obtain ⟨otherSkipped, otherLater⟩ :=
        run_unrendered opened closed alsoFills suppressing otherUnread
      rw [skipped, otherSkipped]
      exact ih suppressing later otherLater rfl

end Stack

end AgentRank.Importer.Markup
