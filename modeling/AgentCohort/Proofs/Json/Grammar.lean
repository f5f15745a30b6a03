import AgentCohort.Json
import AgentCohort.Json.Reader

/-!
# The grammar of JSON texts

Which characters spell which document.  Blanks may stand around every value and every name,
each character of a text may be written in several ways, and the members of a record stand in
any order and may repeat a name.

The grammar asks for lexemes and brackets only.  A text may hold half a character and a number
may be beyond all bounds; such a lexeme has no value.  What lies within the limits of a reader
that takes a document in as a whole is said apart from the grammar.
-/

namespace AgentCohort
namespace Json

open Numeral (isDigit)

/-! ## Texts -/

/-- The marks of the short escapes and the characters that they stand for. -/
def shortEscapes : List (Char × Char) :=
  [('"', '"'), ('\\', '\\'), ('/', '/'), ('b', '\x08'), ('f', '\x0c'), ('n', '\n'), ('r', '\r'),
    ('t', '\t')]

/-- The character that a short escape stands for, by its mark. -/
def shortEscape? (mark : Char) : Option Char :=
  shortEscapes.lookup mark

/-- Four hexadecimal digits that write a code. -/
structure IsCode (digits : List Char) (code : Nat) : Prop where
  /-- There are four. -/
  length : digits.length = 4
  /-- They are hexadecimal digits. -/
  hexadecimal : ∀ c ∈ digits, Text.isDigitIn 16 c = true
  /-- The code is what they write. -/
  value : Text.valueIn 16 digits = code

theorem isCode_of_all
    {digits : List Char}
    {code : Nat}
    (length : digits.length = 4)
    (all : digits.all (Text.isDigitIn 16) = true)
    (value : Text.valueIn 16 digits = code) :
    IsCode digits code :=
  ⟨length, List.all_eq_true.mp all, value⟩

/-- Whether a code is the first half of a character. -/
def IsFirstHalf (code : Nat) : Prop :=
  0xD800 ≤ code ∧ code < 0xDC00

/-- Whether a code is the second half of a character. -/
def IsSecondHalf (code : Nat) : Prop :=
  0xDC00 ≤ code ∧ code < 0xE000

instance (code : Nat) : Decidable (IsFirstHalf code) :=
  inferInstanceAs (Decidable (_ ∧ _))

instance (code : Nat) : Decidable (IsSecondHalf code) :=
  inferInstanceAs (Decidable (_ ∧ _))

/-- The character of two halves. -/
def joinHalves (first second : Nat) : Char :=
  Char.ofNat (0x10000 + (first - 0xD800) * 0x400 + (second - 0xDC00))

/-- An escape by code. -/
def codeEscape (digits : List Char) : List Char :=
  '\\' :: 'u' :: digits

/-- Whether the escape of a second half comes next. -/
def BeginsWithSecondHalf (cs : List Char) : Prop :=
  ∃ digits code rest, cs = codeEscape digits ++ rest ∧ IsCode digits code ∧ IsSecondHalf code

/-- The characters between the quotes of a text spell other characters, or they have no value
because half a character is among them. -/
inductive SpellsText : List Char → Option (List Char) → Prop
  | nil : SpellsText [] (some [])
  | plain
      {c : Char}
      {cs : List Char}
      {value? : Option (List Char)}
      (quote : c ≠ '"')
      (backslash : c ≠ '\\')
      (control : ¬ c < ' ')
      (rest : SpellsText cs value?) :
      SpellsText (c :: cs) (value?.map (c :: ·))
  | short
      {mark c : Char}
      {cs : List Char}
      {value? : Option (List Char)}
      (escape : shortEscape? mark = some c)
      (rest : SpellsText cs value?) :
      SpellsText ('\\' :: mark :: cs) (value?.map (c :: ·))
  | code
      {digits cs : List Char}
      {code : Nat}
      {value? : Option (List Char)}
      (written : IsCode digits code)
      (notFirst : ¬ IsFirstHalf code)
      (notSecond : ¬ IsSecondHalf code)
      (rest : SpellsText cs value?) :
      SpellsText (codeEscape digits ++ cs) (value?.map (Char.ofNat code :: ·))
  | halves
      {digits digits' cs : List Char}
      {first second : Nat}
      {value? : Option (List Char)}
      (written : IsCode digits first)
      (isFirst : IsFirstHalf first)
      (written' : IsCode digits' second)
      (isSecond : IsSecondHalf second)
      (rest : SpellsText cs value?) :
      SpellsText (codeEscape digits ++ (codeEscape digits' ++ cs))
        (value?.map (joinHalves first second :: ·))
  | half
      {digits cs : List Char}
      {code : Nat}
      {value? : Option (List Char)}
      (written : IsCode digits code)
      (alone : IsSecondHalf code ∨ IsFirstHalf code ∧ ¬ BeginsWithSecondHalf cs)
      (rest : SpellsText cs value?) :
      SpellsText (codeEscape digits ++ cs) none

/-- The document of a text. -/
def textDocument : Option (List Char) → Document
  | some value => .text (String.ofList value)
  | none => .unreadable .closed

/-- The name of a member. -/
def textKey : Option (List Char) → Key
  | some value => .name (String.ofList value)
  | none => .unreadable .closed

/-! ## Numbers -/

/-- One digit or more. -/
structure IsDigits (cs : List Char) : Prop where
  /-- There is one. -/
  nonempty : cs ≠ []
  /-- They are digits. -/
  digits : ∀ c ∈ cs, isDigit c = true

/-- Digits of which the first is no zero, but for zero itself. -/
structure IsWhole (cs : List Char) : Prop extends IsDigits cs where
  /-- A zero stands alone. -/
  zero : cs.head? = some '0' → cs = ['0']

/-- A point with decimals, or nothing. -/
inductive IsFraction : List Char → Prop
  | none : IsFraction []
  | decimals {digits : List Char} (written : IsDigits digits) : IsFraction ('.' :: digits)

/-- An exponent with or without a sign, or nothing. -/
inductive IsExponent : List Char → Prop
  | none : IsExponent []
  | power
      {mark : Char}
      {sign digits : List Char}
      (marked : mark = 'e' ∨ mark = 'E')
      (signed : sign ∈ [[], ['+'], ['-']])
      (written : IsDigits digits) :
      IsExponent (mark :: (sign ++ digits))

/-- A number. -/
inductive IsNumber : List Char → Prop
  | mk
      {sign whole fraction exponent : List Char}
      (signed : sign ∈ [[], ['-']])
      (isWhole : IsWhole whole)
      (isFraction : IsFraction fraction)
      (isExponent : IsExponent exponent) :
      IsNumber (sign ++ (whole ++ (fraction ++ exponent)))

/-- The number that a numeral stands for. -/
def numeral (cs : List Char) : Document :=
  (readScalar cs).1

/-! ## Values -/

/-- Some blanks, or none. -/
def IsBlank (cs : List Char) : Prop :=
  ∀ c ∈ cs, isSpace c = true

/-- The name of a member with the blanks around it. -/
inductive SpellsKey : List Char → Key → Prop
  | mk
      {before cs after : List Char}
      {value? : Option (List Char)}
      (isBlank : IsBlank before)
      (spelled : SpellsText cs value?)
      (isBlank' : IsBlank after) :
      SpellsKey (before ++ '"' :: (cs ++ '"' :: after)) (textKey value?)

/-- The member of a record as it is written, and what it means. -/
structure WrittenMember where
  /-- The characters of the name. -/
  keyChars : List Char
  /-- The name. -/
  key : Key
  /-- The characters of the value. -/
  valueChars : List Char
  /-- The value. -/
  value : Document

namespace WrittenMember

/-- All characters of the member. -/
def chars (member : WrittenMember) : List Char :=
  member.keyChars ++ ':' :: member.valueChars

/-- The member as a part of a document. -/
def entry (member : WrittenMember) : Key × Document :=
  (member.key, member.value)

end WrittenMember

/-- Some characters spell a document. -/
inductive Spells : List Char → Document → Prop
  | null : Spells ['n', 'u', 'l', 'l'] .null
  | yes : Spells ['t', 'r', 'u', 'e'] (.boolean true)
  | no : Spells ['f', 'a', 'l', 's', 'e'] (.boolean false)
  | number {cs : List Char} (written : IsNumber cs) : Spells cs (numeral cs)
  | text
      {cs : List Char}
      {value? : Option (List Char)}
      (spelled : SpellsText cs value?) :
      Spells ('"' :: (cs ++ ['"'])) (textDocument value?)
  | sequence
      {blanks : List Char}
      {items : List (List Char × Document)}
      (isBlank : IsBlank blanks)
      (spelled : ∀ item ∈ items, Spells item.1 item.2) :
      Spells ('[' :: (blanks ++ (commaSeparated (items.map Prod.fst) ++ [']'])))
        (.sequence (items.map Prod.snd) .closed)
  | table
      {blanks : List Char}
      {members : List WrittenMember}
      (isBlank : IsBlank blanks)
      (keys : ∀ member ∈ members, SpellsKey member.keyChars member.key)
      (values : ∀ member ∈ members, Spells member.valueChars member.value) :
      Spells ('\x7b' :: (blanks ++ (commaSeparated (members.map WrittenMember.chars) ++ ['\x7d'])))
        (.table (members.map WrittenMember.entry) .closed)
  | before
      {c : Char}
      {cs : List Char}
      {document : Document}
      (blank : isSpace c = true)
      (spelled : Spells cs document) :
      Spells (c :: cs) document
  | after
      {c : Char}
      {cs : List Char}
      {document : Document}
      (spelled : Spells cs document)
      (blank : isSpace c = true) :
      Spells (cs ++ [c]) document

/-! ## Limits -/

/-- A document lies within the limits: each text and each number in it has a value, and its
lists and records are nested at most so deep. -/
inductive Within : Nat → Document → Prop
  | null {depth : Nat} : Within depth .null
  | boolean {depth : Nat} (value : Bool) : Within depth (.boolean value)
  | integer {depth : Nat} (value : Int) : Within depth (.integer value)
  | real {depth : Nat} (value : Double) : Within depth (.real value)
  | text {depth : Nat} (value : String) : Within depth (.text value)
  | sequence
      {depth : Nat}
      {items : List Document}
      (within : ∀ item ∈ items, Within depth item) :
      Within (depth + 1) (.sequence items .closed)
  | table
      {depth : Nat}
      {members : List (Key × Document)}
      (named : ∀ member ∈ members, ∃ name, member.1 = .name name)
      (within : ∀ member ∈ members, Within depth member.2) :
      Within (depth + 1) (.table members .closed)

end Json
end AgentCohort
