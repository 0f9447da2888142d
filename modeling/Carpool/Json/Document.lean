import Carpool.Json.Token

/-!
# Documents

The value that a JSON text spells, as far as the text can be read.  Where a
text breaks off or stops being one, the lists and records that are open at that
spot are kept as not whole, and a value that should have come there is
unreadable.  A reader of a document therefore meets the faults of a text in the
order in which the text has them.
-/

namespace Carpool

namespace Json

/-- What a JSON text spells, as far as it can be read. -/
inductive Document
  | null
  | boolean (value : Bool)
  | number (numeral : Numeral)
  | text (spelling : Spelling)
  | list (items : List Document) (whole : Bool)
  | record (members : List (Spelling × Document)) (whole : Bool)
  | unreadable

/-- A named value of a record. -/
abbrev Member := Spelling × Document

/-- A list or record that is still open, with what it holds so far, the last
first; a record waits for the value of a key. -/
inductive Frame
  | list (before : List Document)
  | record (before : List Member) (key : Spelling)

/-- What may come next. -/
inductive Stage
  /-- A value must come. -/
  | value
  /-- A list has just been opened: a value comes or the list ends. -/
  | firstItem
  /-- A record has just been opened: a key comes or the record ends. -/
  | firstKey
  /-- A key must come. -/
  | key (before : List Member)
  /-- A colon must come. -/
  | colon (before : List Member) (key : Spelling)
  /-- A value has just ended. -/
  | complete (document : Document)

/-- The state of reading a text, token by token. -/
inductive Progress
  | reading (frames : List Frame) (stage : Stage)
  /-- A fault has been met.  The document is what was read up to it. -/
  | stopped (document : Document)

/-- Close all open frames at a fault. -/
def cut : List Frame → Document → Document
  | [], document => document
  | .list before :: frames, document =>
      cut frames (.list (document :: before).reverse false)
  | .record before key :: frames, document =>
      cut frames (.record ((key, document) :: before).reverse false)

/-- The document when nothing that may come next comes. -/
def halt (frames : List Frame) : Stage → Document
  | .value => cut frames .unreadable
  | .firstItem => cut frames (.list [] false)
  | .firstKey => cut frames (.record [] false)
  | .key before => cut frames (.record before.reverse false)
  | .colon before key =>
      cut frames (.record ((key, .unreadable) :: before).reverse false)
  | .complete document => cut frames document

/-- Go on where a value may start, if this token starts one. -/
def startValue? (frames : List Frame) : Token → Option Progress
  | .null => some (.reading frames (.complete .null))
  | .boolean value => some (.reading frames (.complete (.boolean value)))
  | .number numeral => some (.reading frames (.complete (.number numeral)))
  | .text spelling => some (.reading frames (.complete (.text spelling)))
  | .openList => some (.reading frames .firstItem)
  | .openRecord => some (.reading frames .firstKey)
  | _ => none

/-- Go on after a value inside the innermost open frame. -/
def afterValue? (document : Document) : List Frame → Token → Option Progress
  | .list before :: frames, .comma =>
      some (.reading (.list (document :: before) :: frames) .value)
  | .list before :: frames, .closeList =>
      some (.reading frames
        (.complete (.list (document :: before).reverse true)))
  | .record before key :: frames, .comma =>
      some (.reading frames (.key ((key, document) :: before)))
  | .record before key :: frames, .closeRecord =>
      some (.reading frames
        (.complete (.record ((key, document) :: before).reverse true)))
  | _, _ => none

/-- The next state, if the token may come. -/
def next? (frames : List Frame) : Stage → Token → Option Progress
  | .value, token => startValue? frames token
  | .firstItem, .closeList =>
      some (.reading frames (.complete (.list [] true)))
  | .firstItem, token => startValue? (.list [] :: frames) token
  | .firstKey, .closeRecord =>
      some (.reading frames (.complete (.record [] true)))
  | .firstKey, .text key => some (.reading frames (.colon [] key))
  | .key before, .text key => some (.reading frames (.colon before key))
  | .colon before key, .colon =>
      some (.reading (.record before key :: frames) .value)
  | .complete document, token => afterValue? document frames token
  | _, _ => none

def Progress.step : Progress → Token → Progress
  | .stopped document, _ => .stopped document
  | .reading frames stage, token =>
      match next? frames stage token with
      | some progress => progress
      | none => .stopped (halt frames stage)

/-- The outcome of reading a text: its document, and whether the text holds
nothing else. -/
structure Reading where
  document : Document
  clean : Bool

/-- What has been read when the tokens end. -/
def Progress.finish : Progress → Reading
  | .stopped document => ⟨document, false⟩
  | .reading [] (.complete document) => ⟨document, true⟩
  | .reading frames stage => ⟨halt frames stage, false⟩

def readTokens (tokens : List Token) : Reading :=
  (tokens.foldl Progress.step (.reading [] .value)).finish

def read (octets : Octets) : Reading :=
  readTokens (tokens octets)

end Json

end Carpool
