/-!
# Blank characters

The characters that Unicode marks as white space, and the trimming of a text by
them.  Addresses and host names are trimmed this way; the zero-width space, the
byte order mark and the ASCII separators `U+001C` to `U+001F` are not blank.
-/

namespace AgentCohort
namespace Text

/-- The ranges of code points with the Unicode property `White_Space`. -/
def blankRanges : List (Nat × Nat) :=
  [(0x9, 0xD), (0x20, 0x20), (0x85, 0x85), (0xA0, 0xA0), (0x1680, 0x1680),
   (0x2000, 0x200A), (0x2028, 0x2029), (0x202F, 0x202F), (0x205F, 0x205F),
   (0x3000, 0x3000)]

/-- White space in the sense of Unicode. -/
def isBlank (c : Char) : Bool :=
  blankRanges.any fun range => range.1 ≤ c.toNat && c.toNat ≤ range.2

/-- The characters after the leading blanks. -/
def trimLeft (cs : List Char) : List Char :=
  cs.dropWhile isBlank

/-- The characters before the trailing blanks. -/
def trimRight (cs : List Char) : List Char :=
  (cs.reverse.dropWhile isBlank).reverse

/-- The characters between the leading and the trailing blanks. -/
def trim (cs : List Char) : List Char :=
  trimRight (trimLeft cs)

/-- A text without its leading and trailing blanks. -/
def trimmed (s : String) : String :=
  String.ofList (trim s.toList)

/-- Splits at the last occurrence of a character, which belongs to neither part. -/
def splitLast? (separator : Char) (cs : List Char) : Option (List Char × List Char) :=
  match cs with
  | [] => none
  | c :: rest =>
    match splitLast? separator rest with
    | some (before, after) => some (c :: before, after)
    | none => if c = separator then some ([], rest) else none

theorem splitLast?_eq_append {separator : Char} {cs before after : List Char}
    (split : splitLast? separator cs = some (before, after)) :
    cs = before ++ separator :: after := by
  induction cs generalizing before with
  | nil => simp [splitLast?] at split
  | cons c rest ih =>
    unfold splitLast? at split
    cases found : splitLast? separator rest with
    | some parts =>
      obtain ⟨before', after'⟩ := parts
      simp only [found, Option.some.injEq, Prod.mk.injEq] at split
      obtain ⟨rfl, rfl⟩ := split
      simp [ih found]
    | none =>
      simp only [found] at split
      by_cases equal : c = separator
      · simp only [equal, if_true, Option.some.injEq, Prod.mk.injEq] at split
        obtain ⟨rfl, rfl⟩ := split
        simp [equal]
      · simp [equal] at split

/-- A separator occurs exactly if there is a split at its last occurrence. -/
theorem splitLast?_eq_none_iff {separator : Char} {cs : List Char} :
    splitLast? separator cs = none ↔ separator ∉ cs := by
  induction cs with
  | nil => simp [splitLast?]
  | cons c rest ih =>
    unfold splitLast?
    cases found : splitLast? separator rest with
    | some parts =>
      have : ¬ separator ∉ rest := fun absent => by simp [ih.2 absent] at found
      simp only [reduceCtorEq, List.mem_cons, not_or, false_iff, not_and]
      exact fun _ => this
    | none =>
      have absent := ih.1 found
      by_cases equal : c = separator
      · simp [equal]
      · have : separator ≠ c := fun h => equal h.symm
        simp [equal, absent, this]

end Text
end AgentCohort
