import AgentRank.Importer.Extraction
import AgentRank.Transition.Run

/-!
# Reading one page of markup

This module models the one pass over the markup of a merchant page.  The markup parser delivers
start tags, self-closing tags, end tags and data; the reader keeps a stack of the elements whose
content is not prose, and one slot for the title, the heading or the block of structured data
that it is capturing.

The bounds on the text and on the blocks are arguments of the reader, so that a reading can be
compared with the reading of the same page under wider ones.
-/

namespace AgentRank.Importer.Markup

open Text Relational Transition

def nonTextElements : List String :=
  ["script", "style", "template", "noscript", "svg", "canvas", "iframe"]

def breakingElements : List String :=
  ["p", "br", "div", "li", "tr", "td", "th", "h1", "h2", "h3", "h4", "h5", "h6", "section",
    "article", "header", "footer", "nav", "ul", "ol", "dl", "dt", "dd", "table", "blockquote",
    "pre"]

def structuredDataType : String := "application/ld+json"

def headingElements : List String := ["h1", "h2", "h3"]

def maxMetadataEntries : Nat := 200

def maxMetadataValueCharacters : Nat := 2000

def maxLinks : Nat := 500

def maxHeadings : Nat := 32

def maxHeadingCharacters : Nat := 500

/-- How much of a page the reader holds. -/
structure Bounds where
  textCharacters : Nat
  structuredBlocks : Nat
  structuredBlockCharacters : Nat

/-- `MAX_TEXT_CHARACTERS`, `MAX_STRUCTURED_BLOCKS` and `MAX_STRUCTURED_BLOCK_CHARACTERS`. -/
def declared : Bounds where
  textCharacters := 200000
  structuredBlocks := 24
  structuredBlockCharacters := 256 * 1024

/-- Everything that was looked at on one merchant page. -/
structure PageReading where
  title : Option String
  heading : Option String
  headings : List String
  metadata : Mapping String
  structuredBlocks : List String
  text : String
  links : List String
  truncated : Bool

/-- What the markup parser delivers. -/
inductive MarkupEvent
  | startTag (tag : String) (attrs : List (String × Option String))
  | startEndTag (tag : String) (attrs : List (String × Option String))
  | endTag (tag : String)
  | data (text : String)

/-- The reader between two events.  The element that was suppressed last comes first. -/
structure Reader where
  title : Option String := none
  heading : Option String := none
  headings : List String := []
  metadata : Mapping String := .empty
  structuredBlocks : List String := []
  links : List String := []
  truncated : Bool := false
  pieces : List String := []
  length : Nat := 0
  suppressed : List String := []
  capturing : Option String := none
  captured : List String := []
  capturedLength : Nat := 0

namespace Reader

/-- `_append`. -/
def append (bounds : Bounds) (data : String) (reader : Reader) : Reader :=
  if bounds.textCharacters ≤ reader.length then
    { reader with truncated := true }
  else
    { reader with pieces := reader.pieces ++ [data], length := reader.length + data.length }

/-- `_suppressed.append`. -/
def suppress (name : String) (reader : Reader) : Reader :=
  { reader with suppressed := name :: reader.suppressed }

/-- `_begin_capture`: the outer capture wins. -/
def beginCapture (name : String) (reader : Reader) : Reader :=
  if reader.capturing = none then
    { reader with capturing := some name, captured := [], capturedLength := 0 }
  else
    reader

/-- `_capture`. -/
def capture (bounds : Bounds) (data : String) (reader : Reader) : Reader :=
  if bounds.structuredBlockCharacters < reader.capturedLength then
    { reader with truncated := true }
  else
    { reader with
      captured := reader.captured ++ [data]
      capturedLength := reader.capturedLength + data.length }

/-- The slot is free again. -/
def release (reader : Reader) : Reader :=
  { reader with capturing := none, captured := [], capturedLength := 0 }

/-- A heading that ended, with its text. -/
def recordHeading (name collapsed : String) (reader : Reader) : Reader :=
  { reader with
    heading :=
      if name = "h1" ∧ reader.heading = none then some (cut maxHeadingCharacters collapsed)
      else reader.heading
    headings :=
      if reader.headings.length < maxHeadings then
        reader.headings ++ [cut maxHeadingCharacters collapsed]
      else reader.headings }

/-- `_end_capture`. -/
def endCapture (bounds : Bounds) (name : String) (reader : Reader) : Reader :=
  let content := String.join reader.captured
  let reader := reader.release
  if name = "script" then
    if reader.structuredBlocks.length < bounds.structuredBlocks then
      { reader with structuredBlocks := reader.structuredBlocks ++ [content] }
    else
      { reader with truncated := true }
  else
    let collapsed := collapse content
    if collapsed = "" then
      reader
    else if name = "title" then
      { reader with
        title := reader.title.or (some (cut maxHeadingCharacters collapsed)) }
    else
      (reader.recordHeading name collapsed).append bounds (" " ++ collapsed ++ " ")

end Reader

section Handlers

variable [CharacterTables]

/-- The attributes of a tag.  Of a name that is repeated, the last value stands. -/
def attributesOf (attrs : List (String × Option String)) : Mapping String :=
  .ofEntries (attrs.map fun attr => (lower attr.1, attr.2.getD ""))

/-- Whether a script is a block of structured data. -/
def isStructuredData (attributes : Mapping String) : Bool :=
  lower (strip ((attributes.get? "type").getD "")) = structuredDataType

/-- What a `meta` tag publishes, under its name. -/
def metadataOf (attributes : Mapping String) : Option (String × String) := do
  let name ← ["name", "property", "itemprop"].findSome? fun key =>
    (attributes.get? key).filter (· ≠ "")
  let content ← attributes.get? "content"
  let key := lower (collapse name)
  if key = "" then none
  else some (key, cut maxMetadataValueCharacters (collapse content))

namespace Reader

/-- `_record_meta`: the first value under a name stays. -/
def recordMeta (attributes : Mapping String) (reader : Reader) : Reader :=
  match metadataOf attributes with
  | none => reader
  | some (key, value) =>
      if maxMetadataEntries ≤ reader.metadata.entries.length then reader
      else if (reader.metadata.get? key).isSome then reader
      else { reader with metadata := reader.metadata.insert key value }

/-- `_record_link`. -/
def recordLink (attributes : Mapping String) (reader : Reader) : Reader :=
  let href := strip ((attributes.get? "href").getD "")
  if href ≠ "" ∧ reader.links.length < maxLinks ∧ href ∉ reader.links then
    { reader with links := reader.links ++ [cut maxMetadataValueCharacters href] }
  else
    reader

/-- `handle_starttag`. -/
def handleStartTag (bounds : Bounds) (tag : String) (attrs : List (String × Option String))
    (reader : Reader) : Reader :=
  let name := lower tag
  let attributes := attributesOf attrs
  if name = "script" then
    if isStructuredData attributes then reader.beginCapture "script" else reader.suppress name
  else if name ∈ nonTextElements then reader.suppress name
  else if reader.suppressed ≠ [] then reader
  else if name = "title" then reader.beginCapture "title"
  else if name ∈ headingElements then reader.beginCapture name
  else if name = "meta" then reader.recordMeta attributes
  else
    let reader := if name = "a" then reader.recordLink attributes else reader
    if name ∈ breakingElements then reader.append bounds " " else reader

/-- `handle_startendtag`. -/
def handleStartEndTag (bounds : Bounds) (tag : String) (attrs : List (String × Option String))
    (reader : Reader) : Reader :=
  let name := lower tag
  let attributes := attributesOf attrs
  if reader.suppressed ≠ [] then reader
  else if name = "meta" then reader.recordMeta attributes
  else if name = "a" then reader.recordLink attributes
  else if name ∈ breakingElements then reader.append bounds " "
  else reader

/-- `handle_endtag`.  The inner elements that were left open end with the outer one. -/
def handleEndTag (bounds : Bounds) (tag : String) (reader : Reader) : Reader :=
  let name := lower tag
  if reader.capturing = some name then reader.endCapture bounds name
  else if reader.suppressed.head? = some name then
    { reader with suppressed := reader.suppressed.tail }
  else if name ∈ nonTextElements ∧ name ∈ reader.suppressed then
    { reader with suppressed := (reader.suppressed.dropWhile (· ≠ name)).tail }
  else if name ∈ breakingElements then reader.append bounds " "
  else reader

/-- `handle_data`. -/
def handleData (bounds : Bounds) (data : String) (reader : Reader) : Reader :=
  if reader.capturing ≠ none then reader.capture bounds data
  else if reader.suppressed ≠ [] then reader
  else reader.append bounds data

/-- What the reader does with one event. -/
def handle (bounds : Bounds) (event : MarkupEvent) (reader : Reader) : Reader :=
  match event with
  | .startTag tag attrs => reader.handleStartTag bounds tag attrs
  | .startEndTag tag attrs => reader.handleStartEndTag bounds tag attrs
  | .endTag tag => reader.handleEndTag bounds tag
  | .data text => reader.handleData bounds text

/-- What has been read. -/
def reading (reader : Reader) : PageReading where
  title := reader.title
  heading := reader.heading
  headings := reader.headings
  metadata := reader.metadata
  structuredBlocks := reader.structuredBlocks
  text := collapse (String.join reader.pieces)
  links := reader.links
  truncated := reader.truncated

end Reader

/-- `read_page`, under the given bounds. -/
def readWithin (bounds : Bounds) (page : List MarkupEvent) : PageReading :=
  (run (Reader.handle bounds) {} page).reading

/-- `read_page`. -/
def readPage (page : List MarkupEvent) : PageReading :=
  readWithin declared page

end Handlers

end AgentRank.Importer.Markup
