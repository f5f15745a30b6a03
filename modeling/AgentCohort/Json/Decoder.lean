import AgentCohort.Json.Reader

/-!
# From JSON documents to values

Decoders for whole numbers, texts, words and records.  A record is read member by
member in the order of the document: the first fault met is the answer, and only a
record that ends well is checked for missing members, in the order in which its type
lists them.
-/

namespace AgentCohort
namespace Json

/-- Where a document comes from. -/
inductive Source where
  /-- A text that is being read. -/
  | text
  /-- A value that has been read before, with sorted names and no duplicates. -/
  | tree
  deriving DecidableEq, Repr

/-- Makes a value of a document. -/
abbrev Decoder (α : Type) : Type :=
  Source → Document → Except Fault α

/-! ## Values that have been read before -/

/-- Puts a member into a sorted list of members; an equal name is replaced. -/
def insertMember (name : String) (value : Document) :
    List (Key × Document) → List (Key × Document)
  | [] => [(.name name, value)]
  | (.name other, value') :: rest =>
    if name = other then (.name name, value) :: rest
    else if name < other then (.name name, value) :: (.name other, value') :: rest
    else (.name other, value') :: insertMember name value rest
  | member :: rest => member :: insertMember name value rest

mutual

/-- A document with the members of every record sorted by name, the last of several with
one name kept. -/
def Document.sorted : Document → Document
  | .sequence items ending => .sequence (sortedItems items) ending
  | .table members ending => .table (sortedMembers [] members) ending
  | other => other

/-- Items with their records sorted. -/
def sortedItems : List Document → List Document
  | [] => []
  | item :: rest => item.sorted :: sortedItems rest

/-- Members inserted one after another into sorted ones. -/
def sortedMembers (done : List (Key × Document)) :
    List (Key × Document) → List (Key × Document)
  | [] => done
  | (.name name, value) :: rest => sortedMembers (insertMember name value.sorted done) rest
  | _ :: rest => sortedMembers done rest

end

/-! ## Scalars -/

namespace Decoder

/-- A natural number up to a bound. -/
def natural (expected : String) (bound : Nat) : Decoder Nat := fun _ document =>
  match document with
  | .integer n =>
    if 0 ≤ n ∧ n ≤ bound then .ok n.toNat
    else .error (.data (.value (.integer n) expected))
  | other => .error (other.mismatch expected)

/-- A word of 16 bits. -/
def word16 : Decoder UInt16 := fun source document =>
  (natural "u16" 65535 source document).map UInt16.ofNat

/-- A word of 32 bits. -/
def word32 : Decoder UInt32 := fun source document =>
  (natural "u32" (Nat.pow 2 32 - 1) source document).map UInt32.ofNat

/-- A word of 64 bits. -/
def word64 : Decoder UInt64 := fun source document =>
  (natural "u64" Numeral.maxUInt64 source document).map UInt64.ofNat

/-- A text. -/
def text : Decoder String := fun _ document =>
  match document with
  | .text value => .ok value
  | other => .error (other.mismatch "a string")

/-- True or false. -/
def boolean : Decoder Bool := fun _ document =>
  match document with
  | .boolean value => .ok value
  | other => .error (other.mismatch "a boolean")

/-- A value or its absence. -/
def optional (decoder : Decoder α) : Decoder (Option α) := fun source document =>
  match document with
  | .null => .ok none
  | other => (decoder source other).map some

/-! ## Words of a fixed list -/

/-- The value of a name among the known ones. -/
def variant (variants : List (String × α)) (name : String) : Except Fault α :=
  match variants.lookup name with
  | some value => .ok value
  | none => .error (.data (.unknownVariant name (variants.map Prod.fst)))

/-- Nothing but the word for no value. -/
def payload (document : Document) : Except Fault Unit :=
  match document with
  | .null => .ok ()
  | other => .error (other.mismatch "unit")

/-- The name of a variant that stands as the name of a member. -/
def variantKey (variants : List (String × α)) (key : Key) : Except Fault α :=
  match key with
  | .name name => variant variants name
  | .unreadable _ => .error (.broken .malformed)
  | .stray (.ok found) => .error (.data (.type found "variant identifier"))
  | .stray (.error cause) => .error (.broken cause)
  | .broken cause => .error (.broken cause)

/-- A record of one member with the name of a variant and no payload. -/
def variantTable
    (variants : List (String × α))
    (members : List (Key × Document))
    (ending : Ending) : Except Fault α :=
  match members with
  | [] =>
    match ending with
    | .closed => .error (.broken .malformed)
    | .broken cause => .error (.broken cause)
  | (key, value) :: rest => do
    let result ← variantKey variants key
    payload value
    if rest.isEmpty then
      match ending with
      | .closed => return result
      | .broken cause => throw (.broken cause)
    else
      throw (.broken .malformed)

/-- One word of a fixed list, as a text or as the only member of a record. -/
def enumeration (variants : List (String × α)) : Decoder α := fun source document =>
  match source, document with
  | _, .text name => variant variants name
  | .text, .table members ending => variantTable variants members ending
  | .text, .broken cause => .error (.broken cause)
  | .text, _ => .error (.broken .malformed)
  | .tree, .table [member] ending => variantTable variants [member] ending
  | .tree, .table .. => .error (.data (.value .table "map with a single key"))
  | .tree, other => .error (other.mismatch "string or map")

end Decoder

/-! ## Records -/

/-- A member that a record knows. -/
structure Field where
  /-- Its name. -/
  name : String
  /-- Whether a document is a value for it. -/
  check : Source → Document → Except Fault Unit
  /-- Whether a list that stands for the record may end before it. -/
  hasDefault : Bool

/-- A member whose place in a list must be filled. -/
def Field.placed (name : String) (decoder : Decoder α) : Field :=
  ⟨name, fun source document => (decoder source document).map fun _ => (), false⟩

/-- A member whose place in a list may be missing. -/
def Field.defaulted (name : String) (decoder : Decoder α) : Field :=
  ⟨name, fun source document => (decoder source document).map fun _ => (), true⟩

/-- The members of a record that were found. -/
structure Fields where
  /-- Where they come from. -/
  source : Source
  /-- Their documents by name. -/
  entries : List (String × Document)

namespace Fields

/-- The value of a member that must be there. -/
def required (fields : Fields) (name : String) (decoder : Decoder α) : Except Fault α :=
  match fields.entries.lookup name with
  | some document => decoder fields.source document
  | none => .error (.data (.missingField name))

/-- The value of a member that may be absent or have no value. -/
def optional (fields : Fields) (name : String) (decoder : Decoder α) :
    Except Fault (Option α) :=
  match fields.entries.lookup name with
  | some document => decoder.optional fields.source document
  | none => .ok none

/-- The value of a member, or a default if it is absent. -/
def withDefault (fields : Fields) (name : String) (default : α) (decoder : Decoder α) :
    Except Fault α :=
  match fields.entries.lookup name with
  | some document => decoder fields.source document
  | none => .ok default

end Fields

/-- Takes in the members of a record from the next one on.  Members with unknown names
are passed over. -/
def collectMembers
    (source : Source) (fields : List Field) (ending : Ending)
    (found : List (String × Document)) :
    List (Key × Document) → Except Fault (List (String × Document))
  | [] =>
    match ending with
    | .closed => .ok found
    | .broken cause => .error (.broken cause)
  | (.name name, value) :: rest =>
    match fields.find? (·.name = name) with
    | some field =>
      if (found.lookup name).isSome then
        .error (.data (.duplicateField name))
      else
        match field.check source value with
        | .ok () => collectMembers source fields ending ((name, value) :: found) rest
        | .error fault => .error fault
    | none =>
      match value.skipBreak? with
      | some cause => .error (.broken cause)
      | none => collectMembers source fields ending found rest
  | (.broken cause, _) :: _ => .error (.broken cause)
  | _ :: _ => .error (.broken .malformed)

/-- How many elements a list that stands for a record has. -/
def elementCount (count : Nat) : String :=
  toString count ++ (if count = 1 then " element" else " elements")

/-- Takes in the items of a list that stands for a record, the first of them being the
one at `position`. -/
def collectItems
    (source : Source) (expected : String) (total : Nat) (ending : Ending)
    (position : Nat) (found : List (String × Document)) :
    List Field → List Document → Except Fault (List (String × Document))
  | [], [] =>
    match ending with
    | .closed => .ok found
    | .broken cause => .error (.broken cause)
  | [], _ :: _ =>
    match source with
    | .text => .error (.broken .malformed)
    | .tree => .error (.data (.length total "fewer elements in array"))
  | field :: fields, [] =>
    match ending with
    | .broken cause => .error (.broken cause)
    | .closed =>
      if field.hasDefault then
        collectItems source expected total ending (position + 1) found fields []
      else
        .error (.data (.length position expected))
  | field :: fields, item :: items =>
    match field.check source item with
    | .ok () =>
      collectItems source expected total ending (position + 1)
        ((field.name, item) :: found) fields items
    | .error fault => .error fault

/-- The members of a record, from a record or from a list in the order of its fields. -/
def collect (name : String) (fields : List Field) : Decoder Fields :=
  fun source document =>
    let expected := "struct " ++ name
    match document with
    | .table members ending =>
      (collectMembers source fields ending [] members).map (⟨source, ·⟩)
    | .sequence items ending =>
      let listed := expected ++ " with " ++ elementCount fields.length
      (collectItems source listed items.length ending 0 [] fields items).map (⟨source, ·⟩)
    | other => .error (other.mismatch expected)

/-! ## Whole texts -/

/-- The value that a text holds; only blanks may follow it. -/
def decodeChars (decoder : Decoder α) (cs : List Char) : Except Fault α :=
  let (document, rest) := Document.ofChars cs
  match decoder .text document with
  | .error fault => .error fault
  | .ok value =>
    if (skipSpaces rest).isEmpty then .ok value else .error (.broken .malformed)

/-- The value that a text holds. -/
def decode (decoder : Decoder α) (text : String) : Except Fault α :=
  decodeChars decoder text.toList

/-- The value that a document read before holds. -/
def decodeTree (decoder : Decoder α) (document : Document) : Except Fault α :=
  decoder .tree document.sorted

end Json
end AgentCohort
