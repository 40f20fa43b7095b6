import TlsListener.Encoding.Ber.Basic

/-!
# Readers of tagged values

A reader of values looks for a value of one type at the beginning of bytes. It finds one, or finds
that another value stands there, or that the bytes are not well-formed; which of the last two it is
decides whether a field that may be absent is. A reader may be told to expect another tag in place
of its own.

Fields are read one after the other from the contents of a sequence. Where these end, all further
fields are absent; the last field of a sequence takes what is left and is not absent while anything
is left. Readers are nested up to a fixed depth.
-/

namespace TlsListener.Ber

/-- What is found where a value is looked for. -/
inductive Finding (α : Type) where
  /-- A value of another kind. -/
  | absent
  | malformed
  | found (value : α) (rest : Bytes)

/-- A reader of values of one type, by the depth to which it may be nested, and by the tag that
stands in for its own. -/
structure Item (α : Type) where
  look : Nat → Option Tag → Bytes → Finding α

/-- How deep readers may be nested. -/
def maxDepth : Nat := 30

namespace Item

/-- The value at the beginning of bytes, and what follows it. -/
def read? (item : Item α) (bytes : Bytes) : Option (α × Bytes) :=
  match item.look maxDepth none bytes with
  | .found value rest => some (value, rest)
  | _ => none

/-- The value that bytes begin with. What follows it does not count. -/
def decode? (item : Item α) (bytes : Bytes) : Option α :=
  (item.read? bytes).map Prod.fst

/-- Go on with a value whose header has been read, if its tag is the one that is expected. -/
def lookFor (expected : Tag) (bytes : Bytes) (go : Opened → Finding α) : Finding α :=
  match open? bytes with
  | none => .malformed
  | some opened => if opened.tag = expected then go opened else .absent

/-- A reader that is one step deeper than those around it. -/
def deeper (look : Nat → Option Tag → Bytes → Finding α) : Item α where
  look
    | 0, _, _ => .malformed
    | depth + 1, tag, bytes => look depth tag bytes

/-- What may follow a value in contents that have been read up to `rest`. -/
def close (opened : Opened) (value : α) (rest : Bytes) : Finding α :=
  match opened.after with
  | some after => if rest.isEmpty then .found value after else .malformed
  | none =>
    match afterEnd? rest with
    | some after => .found value after
    | none => .malformed

/-- A value as the only one in the contents of a field of the given number. -/
def explicit (number : Nat) (item : Item α) : Item α where
  look depth _ bytes := lookFor (.field number) bytes fun opened =>
    if !opened.constructed then .malformed
    else
      match item.look depth none opened.contents with
      | .found value rest => close opened value rest
      | _ => .malformed

/-- A value whose own tag is replaced by that of a field of the given number. -/
def implicit (number : Nat) (item : Item α) : Item α where
  look depth _ bytes := item.look depth (some (.field number)) bytes

/-- The values of one kind that contents consist of. The fuel exceeds their number. -/
def lookAll (item : Item α) (depth : Nat) (opened : Opened) (values : List α) :
    Nat → Bytes → Finding (List α)
  | 0, _ => .malformed
  | fuel + 1, bytes =>
    match opened.after, afterEnd? bytes with
    | some after, none =>
      if bytes.isEmpty then .found values.reverse after else next fuel bytes
    | some _, some _ => .malformed
    | none, some after => .found values.reverse after
    | none, none => next fuel bytes
where
  /-- One more value, and those after it. -/
  next (fuel : Nat) (bytes : Bytes) : Finding (List α) :=
    match item.look depth none bytes with
    | .found value rest => lookAll item depth opened (value :: values) fuel rest
    | _ => .malformed

/-- Values of one kind one after the other, under a tag of its own. -/
def listOf (own : Tag) (item : Item α) : Item (List α) where
  look depth tag bytes := lookFor (tag.getD own) bytes fun opened =>
    lookAll item depth opened [] (opened.contents.length + 1) opened.contents

/-- A sequence of any number of values of one kind. -/
def sequenceOf (item : Item α) : Item (List α) := listOf (.universal 16) item

/-- A set of any number of values of one kind. -/
def setOf (item : Item α) : Item (List α) := listOf (.universal 17) item

/-- The first of several readers that does not find a value of another kind. -/
def choice (items : List (Item α)) : Item α :=
  deeper fun depth _ bytes =>
    (items.findSome? fun item =>
      match item.look depth none bytes with
      | .absent => none
      | finding => some finding).getD .absent

/-- A reader whose values are turned into others; there may be none for some. -/
def mapM? (item : Item α) (f : α → Option β) : Item β where
  look depth tag bytes :=
    match item.look depth tag bytes with
    | .found value rest =>
      match f value with
      | some value => .found value rest
      | none => .malformed
    | .absent => .absent
    | .malformed => .malformed

/-- A reader whose values are turned into others. -/
protected def map (f : α → β) (item : Item α) : Item β :=
  item.mapM? fun value => some (f value)

/-- A reader of values together with their encoding. -/
def withEncoding (item : Item α) : Item (α × Bytes) where
  look depth tag bytes :=
    match item.look depth tag bytes with
    | .found value rest => .found (value, front bytes rest) rest
    | .absent => .absent
    | .malformed => .malformed

end Item

/-- How far the contents of a sequence have been read: what is left, whether an end mark is due, and
whether the end has been reached. -/
structure Frame where
  rest : Bytes
  endless : Bool
  ended : Bool := false

/-- A reader of fields, by the depth to which their readers may be nested. -/
abbrev Fields := ReaderT Nat (StateT Frame Option)

namespace Fields

/-- The next field. It is absent where the contents have ended, and, if it may be, where a value of
another kind stands. -/
def next (item : Item α) (mayBeAbsent : Bool) : Fields (Option α) := fun depth frame =>
  if frame.ended || frame.rest.isEmpty then some (none, { frame with ended := true })
  else
    match afterEnd? frame.rest with
    | some rest => if frame.endless then some (none, ⟨rest, false, true⟩) else none
    | none =>
      match item.look depth none frame.rest with
      | .found value rest => some (some value, { frame with rest })
      | .absent => if mayBeAbsent then some (none, frame) else none
      | .malformed => none

/-- A field that is never absent. -/
def required (item : Item α) : Fields α := do
  match ← next item false with
  | some value => pure value
  | none => failure

/-- A field that may be absent. -/
def optional (item : Item α) : Fields (Option α) := next item true

/-- The last field, absent only where nothing is left. -/
def optionalLast (item : Item α) : Fields (Option α) := next item false

end Fields

/-- A sequence of fields. -/
def Item.sequence (fields : Fields α) : Item α :=
  deeper fun depth tag bytes => lookFor (tag.getD (.universal 16)) bytes fun opened =>
    if !opened.constructed then .malformed
    else
      match fields depth ⟨opened.contents, opened.isEndless, false⟩ with
      | none => .malformed
      | some (value, frame) =>
        if opened.isEndless && !frame.endless then .found value frame.rest
        else close opened value frame.rest

end TlsListener.Ber
