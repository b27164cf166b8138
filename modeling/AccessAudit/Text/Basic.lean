/-!
# Text as a list of characters

Patterns, manifests and report fields are lists of Unicode scalar values.
This module holds the searches and cuts that the rest of the library is
written with; those that ask for nothing but equality serve lists of bytes as
well.  `mentions_iff` says that a search finds exactly the infixes.
-/

namespace AccessAudit

/-- A text is the list of its Unicode scalar values. -/
abbrev Text := List Char

instance : Coe String Text := ⟨String.toList⟩

namespace Text

variable {α : Type}

/-- Does `text` begin with `lead`? -/
def startsWith [BEq α] (text lead : List α) : Bool :=
  lead.isPrefixOf text

/-- Does `text` end with `tail`? -/
def endsWith [BEq α] (text tail : List α) : Bool :=
  tail.isSuffixOf text

/-- Does `needle` occur somewhere in `text`? -/
def mentions (text needle : Text) : Bool :=
  match text with
  | [] => needle.isEmpty
  | _ :: rest => startsWith text needle || mentions rest needle

/-- Does some end piece of the text, from the whole text down to the empty
one, satisfy the test? -/
def someSuffix (holds : Text → Bool) : Text → Bool
  | [] => holds []
  | c :: rest => holds (c :: rest) || someSuffix holds rest

/-- Does any of the `needles` occur in `text`? -/
def mentionsAny (text : Text) (needles : List Text) : Bool :=
  needles.any (mentions text)

/-- The pieces of a text between the occurrences of a separator; a text with
`n` separators has `n + 1` pieces. -/
def pieces [DecidableEq α] (separator : α) : List α → List (List α)
  | [] => [[]]
  | c :: rest =>
      if c = separator then
        [] :: pieces separator rest
      else
        match pieces separator rest with
        | [] => [[c]]
        | first :: others => (c :: first) :: others

/-- Write texts one after the other with `separator` between neighbours. -/
def joinWith (separator : List α) : List (List α) → List α
  | [] => []
  | [only] => only
  | first :: second :: others =>
      first ++ separator ++ joinWith separator (second :: others)

/-- Remove one carriage return at the end. -/
def dropFinalReturn (line : Text) : Text :=
  if endsWith line ['\r'] then line.dropLast else line

/-- The lines of a text.  A line ends at a line feed, which may follow one
carriage return; a last line without a line feed keeps its characters, and
nothing after the last line feed is no line. -/
def lines (text : Text) : List Text :=
  let parts := pieces '\n' text
  let ended := parts.dropLast.map dropFinalReturn
  match parts.getLast? with
  | some (c :: rest) => ended ++ [c :: rest]
  | _ => ended

/-- A line of text closed by a line feed. -/
def line (text : Text) : Text :=
  text ++ ['\n']

/-- A labelled line that is left out where nothing is to be said. -/
def remark (label content : Text) : Text :=
  if content.isEmpty then [] else line (label ++ content)

/-- The decimal digits of a number. -/
def ofNat (number : Nat) : Text :=
  Nat.toDigits 10 number

/-- One character written `count` times. -/
def repeated (count : Nat) (c : Char) : Text :=
  List.replicate count c

theorem mentions_iff (text needle : Text) :
    mentions text needle = true ↔ needle <:+: text := by
  induction text with
  | nil => simp [mentions]
  | cons c rest ih =>
      simp [mentions, startsWith, ih, List.infix_cons_iff]

theorem someSuffix_iff (holds : Text → Bool) (text : Text) :
    someSuffix holds text = true ↔
      ∃ suffix, suffix <:+ text ∧ holds suffix = true := by
  induction text with
  | nil => simp [someSuffix]
  | cons c rest ih =>
      simp only [someSuffix, Bool.or_eq_true, ih, List.suffix_cons_iff]
      constructor
      · rintro (here | ⟨suffix, isEnd, found⟩)
        · exact ⟨_, Or.inl rfl, here⟩
        · exact ⟨suffix, Or.inr isEnd, found⟩
      · rintro ⟨suffix, rfl | isEnd, found⟩
        · exact Or.inl found
        · exact Or.inr ⟨suffix, isEnd, found⟩

theorem mentionsAny_iff (text : Text) (needles : List Text) :
    mentionsAny text needles = true ↔
      ∃ needle ∈ needles, needle <:+: text := by
  simp [mentionsAny, mentions_iff]

theorem pieces_ne_nil [DecidableEq α] (separator : α) (text : List α) :
    pieces separator text ≠ [] := by
  cases text with
  | nil => simp [pieces]
  | cons c rest =>
      simp only [pieces]
      split
      · simp
      · split <;> simp

/-- Joining the pieces with their separator gives the text back. -/
theorem joinWith_pieces [DecidableEq α] (separator : α) (text : List α) :
    joinWith [separator] (pieces separator text) = text := by
  induction text with
  | nil => rfl
  | cons c rest ih =>
      simp only [pieces]
      cases found : pieces separator rest with
      | nil => exact absurd found (pieces_ne_nil separator rest)
      | cons first others =>
          rw [found] at ih
          split
          · next same =>
              subst same
              simp [joinWith, ih]
          · cases others with
            | nil => simpa [joinWith] using ih
            | cons second others => simpa [joinWith] using ih

end Text

end AccessAudit
