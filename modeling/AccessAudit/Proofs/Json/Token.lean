import AccessAudit.Json
import AccessAudit.Proofs.Json.Numeral

/-!
# The tokens of a JSON text

A text is cut into tokens one character at a time.  `Json.Mode` says what the
last characters belong to: white space and punctuation, a word, a string or an
escape in a string.  A string that is written with `Json.quote` is read as one
token, whatever its characters are.
-/

namespace AccessAudit

namespace Json

inductive Token
  | openArray
  | closeArray
  | openObject
  | closeObject
  | comma
  | colon
  | null
  | boolean (value : Bool)
  | number (written : Text)
  | string (value : Text)
deriving DecidableEq

namespace Token

def ofPunctuation? : Char → Option Token
  | '[' => some openArray
  | ']' => some closeArray
  | '\x7b' => some openObject
  | '\x7d' => some closeObject
  | ',' => some comma
  | ':' => some colon
  | _ => none

def ofWord? (word : Text) : Option Token :=
  if word = "null".toList then some null
  else if word = "true".toList then some (boolean true)
  else if word = "false".toList then some (boolean false)
  else if isNumber word then some (number word)
  else none

end Token

def isSpace (c : Char) : Bool :=
  c = ' ' || c = '\n' || c = '\r' || c = '\t'

/-- The characters of literals and numbers. -/
def isWordChar (c : Char) : Bool :=
  c.isAlphanum || c = '+' || c = '-' || c = '.'

/-- The character that an escape of two characters stands for. -/
def unescape? : Char → Option Char
  | '\x22' => some '\x22'
  | '\\' => some '\\'
  | '/' => some '/'
  | 'b' => some '\x08'
  | 'f' => some '\x0c'
  | 'n' => some '\n'
  | 'r' => some '\r'
  | 't' => some '\t'
  | _ => none

/-- What the next character belongs to.  In a string, `read` are its
characters so far, and `high` is the first half of a surrogate pair that is not
complete. -/
inductive Mode
  | between
  | word (read : Text)
  | string (read : Text) (high : Option Nat)
  | escape (read : Text) (high : Option Nat)
  | unit (read : Text) (high : Option Nat) (missing code : Nat)

namespace Mode

/-- The string goes on after a code unit; surrogates come in pairs only. -/
def afterUnit (read : Text) (high : Option Nat) (code : Nat) : Option Mode :=
  let isHigh := 0xd800 ≤ code && code < 0xdc00
  let isLow := 0xdc00 ≤ code && code < 0xe000
  match high with
  | none =>
      if isLow then none
      else if isHigh then some (string read (some code))
      else some (string (read ++ [Char.ofNat code]) none)
  | some high =>
      if isLow then
        let pair := 0x10000 + (high - 0xd800) * 0x400 + (code - 0xdc00)
        some (string (read ++ [Char.ofNat pair]) none)
      else none

/-- A character outside words and strings. -/
def begin (c : Char) : Option (List Token × Mode) :=
  if isSpace c then some ([], between)
  else if c = '\x22' then some ([], string [] none)
  else if isWordChar c then some ([], word [c])
  else (Token.ofPunctuation? c).map fun token => ([token], between)

/-- One character more, and the tokens that it completes. -/
def step (mode : Mode) (c : Char) : Option (List Token × Mode) :=
  match mode with
  | between => begin c
  | word read =>
      if isWordChar c then some ([], word (read ++ [c]))
      else
        (Token.ofWord? read).bind fun token =>
          (begin c).map fun (tokens, next) => (token :: tokens, next)
  | string read high =>
      if c = '\\' then some ([], escape read high)
      else if high.isSome || c.toNat < 0x20 then none
      else if c = '\x22' then some ([.string read], between)
      else some ([], string (read ++ [c]) none)
  | escape read high =>
      if c = 'u' then some ([], unit read high 3 0)
      else if high.isSome then none
      else (unescape? c).map fun meant => ([], string (read ++ [meant]) none)
  | unit read high missing code =>
      (Text.digitValue? 16 c).bind fun digit =>
        match missing with
        | 0 => (afterUnit read high (16 * code + digit)).map ([], ·)
        | missing + 1 => some ([], unit read high missing (16 * code + digit))

def finish : Mode → Option (List Token)
  | between => some []
  | word read => (Token.ofWord? read).map ([·])
  | string _ _ | escape _ _ | unit _ _ _ _ => none

def tokens? (mode : Mode) : Text → Option (List Token)
  | [] => mode.finish
  | c :: rest =>
      (mode.step c).bind fun (tokens, next) =>
        (next.tokens? rest).map (tokens ++ ·)

end Mode

def tokens? (text : Text) : Option (List Token) :=
  Mode.between.tokens? text

namespace Mode

theorem tokens?_step {mode next : Mode} {c : Char} {tokens : List Token}
    (took : mode.step c = some (tokens, next)) (rest : Text) :
    mode.tokens? (c :: rest) = (next.tokens? rest).map (tokens ++ ·) := by
  rw [Mode.tokens?, took]
  rfl

/-- A character that completes no token. -/
theorem tokens?_silent {mode next : Mode} {c : Char}
    (took : mode.step c = some ([], next)) (rest : Text) :
    mode.tokens? (c :: rest) = next.tokens? rest := by
  rw [tokens?_step took]
  exact Option.map_id'

theorem tokens?_spaces {spaces : Text}
    (allSpaces : ∀ c ∈ spaces, isSpace c = true) (rest : Text) :
    between.tokens? (spaces ++ rest) = between.tokens? rest := by
  induction spaces with
  | nil => rfl
  | cons c more ih =>
      have took : between.step c = some ([], between) := by
        simp [step, begin, allSpaces c List.mem_cons_self]
      rw [List.cons_append, tokens?_silent took]
      exact ih fun d member => allSpaces d (List.mem_cons_of_mem c member)

end Mode

/-! ## Words -/

theorem isWordChar_of_isDigit {c : Char} (digit : c.isDigit = true) :
    isWordChar c = true := by
  simp [isWordChar, Char.isAlphanum, digit]

theorem NumberPart.isWordChar_of_step {part next : NumberPart} {c : Char}
    (took : part.step c = some next) : isWordChar c = true := by
  by_cases digit : c.isDigit = true
  · exact isWordChar_of_isDigit digit
  · have notZero : c ≠ '0' := by
      rintro rfl
      contradiction
    have mark : c ∈ ['-', '+', '.', 'e', 'E'] := by
      by_contra other
      simp only [List.mem_cons, List.not_mem_nil, or_false, not_or] at other
      cases part <;>
        simp [step, ofFirstDigit, ofPoint, ofMark, digitTo, digit, notZero,
          other] at took
    have wordMarks : ['-', '+', '.', 'e', 'E'].all isWordChar = true := by
      decide
    exact List.all_eq_true.mp wordMarks c mark

theorem NumberPart.isWordChar_of_read {part last : NumberPart} {text : Text}
    (read : part.read text = some last) :
    ∀ c ∈ text, isWordChar c = true := by
  induction text generalizing part with
  | nil =>
      intro c member
      cases member
  | cons first rest ih =>
      rw [read_cons] at read
      obtain ⟨next, took, later⟩ := Option.bind_eq_some_iff.mp read
      intro c member
      rcases List.mem_cons.mp member with rfl | member
      · exact isWordChar_of_step took
      · exact ih later c member

theorem isWordChar_of_isNumber {word : Text} (number : isNumber word = true) :
    ∀ c ∈ word, isWordChar c = true := by
  cases read : NumberPart.start.read word with
  | none => simp [isNumber, read] at number
  | some last => exact NumberPart.isWordChar_of_read read

/-- No word goes on into this text. -/
def EndsWord (rest : Text) : Prop :=
  ∀ c ∈ rest.head?, isWordChar c = false

namespace Mode

theorem tokens?_of_endsWord {rest : Text} (ends : EndsWord rest)
    (read : Text) :
    (word read).tokens? rest =
      (Token.ofWord? read).bind fun token =>
        (between.tokens? rest).map (token :: ·) := by
  cases rest with
  | nil =>
      rw [Mode.tokens?, Mode.tokens?, finish, finish]
      cases Token.ofWord? read <;> rfl
  | cons c rest =>
      have notWord : isWordChar c = false := ends c rfl
      simp only [Mode.tokens?, step, notWord]
      cases Token.ofWord? read with
      | none => rfl
      | some token =>
          cases begin c with
          | none => rfl
          | some began =>
              obtain ⟨tokens, next⟩ := began
              simp [Function.comp_def]

theorem tokens?_word {more rest : Text} (ends : EndsWord rest) (read : Text)
    (allWord : ∀ c ∈ more, isWordChar c = true) :
    (word read).tokens? (more ++ rest) =
      (Token.ofWord? (read ++ more)).bind fun token =>
        (between.tokens? rest).map (token :: ·) := by
  induction more generalizing read with
  | nil =>
      rw [List.append_nil]
      exact tokens?_of_endsWord ends read
  | cons c more ih =>
      have took : (word read).step c = some ([], word (read ++ [c])) := by
        simp [step, allWord c List.mem_cons_self]
      rw [List.cons_append, tokens?_silent took, List.append_cons read c more]
      exact ih _ fun d member => allWord d (List.mem_cons_of_mem c member)

/-! ## Strings -/

/-- The forms of a character in a string: an escape of two characters, a code
unit or the character itself. -/
theorem escapeChar_cases (c : Char) :
    (∃ letter, unescape? letter = some c ∧ escapeChar c = ['\\', letter]) ∨
    (c.toNat < 0x20 ∧ escapeChar c =
      ['\\', 'u', '0', '0', hexDigit (c.toNat / 16),
        hexDigit (c.toNat % 16)]) ∨
    (c ≠ '\x22' ∧ c ≠ '\\' ∧ ¬c.toNat < 0x20 ∧ escapeChar c = [c]) := by
  generalize written : escapeChar c = text
  unfold escapeChar at written
  split at written
  · next same =>
      subst same
      exact Or.inl ⟨'\x22', rfl, written.symm⟩
  split at written
  · next same =>
      subst same
      exact Or.inl ⟨'\\', rfl, written.symm⟩
  split at written
  · next same =>
      subst same
      exact Or.inl ⟨'n', rfl, written.symm⟩
  split at written
  · next same =>
      subst same
      exact Or.inl ⟨'r', rfl, written.symm⟩
  split at written
  · next same =>
      subst same
      exact Or.inl ⟨'t', rfl, written.symm⟩
  split at written
  · next same =>
      subst same
      exact Or.inl ⟨'b', rfl, written.symm⟩
  split at written
  · next same =>
      subst same
      exact Or.inl ⟨'f', rfl, written.symm⟩
  split at written
  · next control => exact Or.inr (Or.inl ⟨control, written.symm⟩)
  · next notQuote notBackslash _ _ _ _ _ printable =>
      have plain := written.symm
      exact Or.inr (Or.inr ⟨notQuote, notBackslash, printable, plain⟩)

theorem tokens?_escape {letter meant : Char}
    (stands : unescape? letter = some meant) (read rest : Text) :
    (string read none).tokens? ('\\' :: letter :: rest) =
      (string (read ++ [meant]) none).tokens? rest := by
  have notUnit : letter ≠ 'u' := by
    rintro rfl
    contradiction
  have first : (string read none).step '\\' =
      some ([], escape read none) := rfl
  have second : (escape read none).step letter =
      some ([], string (read ++ [meant]) none) := by
    simp [step, notUnit, stands]
  rw [tokens?_silent first, tokens?_silent second]

theorem afterUnit_of_small {code : Nat} (small : code < 0xd800)
    (read : Text) :
    afterUnit read none code =
      some (string (read ++ [Char.ofNat code]) none) := by
  have notHigh : ¬0xd800 ≤ code := by omega
  have notLow : ¬0xdc00 ≤ code := by omega
  simp [afterUnit, notHigh, notLow]

theorem tokens?_unit {code : Nat} (small : code < 0x20) (read rest : Text) :
    (string read none).tokens?
        ('\\' :: 'u' :: '0' :: '0' :: hexDigit (code / 16) ::
          hexDigit (code % 16) :: rest) =
      (string (read ++ [Char.ofNat code]) none).tokens? rest := by
  have high := Text.digitValue?_digitChar 16 le_rfl (code / 16) (by omega)
  have low := Text.digitValue?_digitChar 16 le_rfl (code % 16) (by omega)
  have first : (string read none).step '\\' =
      some ([], escape read none) := rfl
  have second : (escape read none).step 'u' =
      some ([], unit read none 3 0) := rfl
  have third : (unit read none 3 0).step '0' =
      some ([], unit read none 2 0) := rfl
  have fourth : (unit read none 2 0).step '0' =
      some ([], unit read none 1 0) := rfl
  have fifth : (unit read none 1 0).step (hexDigit (code / 16)) =
      some ([], unit read none 0 (code / 16)) := by
    simp [step, hexDigit, high]
  have sixth : (unit read none 0 (code / 16)).step (hexDigit (code % 16)) =
      some ([], string (read ++ [Char.ofNat code]) none) := by
    simp only [step, hexDigit, low, Option.bind_some, Nat.div_add_mod]
    rw [afterUnit_of_small (by omega)]
    rfl
  rw [tokens?_silent first, tokens?_silent second, tokens?_silent third,
    tokens?_silent fourth, tokens?_silent fifth, tokens?_silent sixth]

theorem tokens?_plain {c : Char} (notQuote : c ≠ '\x22')
    (notBackslash : c ≠ '\\') (printable : ¬c.toNat < 0x20)
    (read rest : Text) :
    (string read none).tokens? (c :: rest) =
      (string (read ++ [c]) none).tokens? rest := by
  have took : (string read none).step c =
      some ([], string (read ++ [c]) none) := by
    simp [step, notQuote, notBackslash, printable]
  exact tokens?_silent took rest

theorem tokens?_escapeChar (c : Char) (read rest : Text) :
    (string read none).tokens? (escapeChar c ++ rest) =
      (string (read ++ [c]) none).tokens? rest := by
  rcases escapeChar_cases c with
    ⟨letter, stands, written⟩ | ⟨control, written⟩ |
      ⟨notQuote, notBackslash, printable, written⟩
  · rw [written]
    exact tokens?_escape stands read rest
  · rw [written]
    have coded := tokens?_unit control read rest
    rwa [Char.ofNat_toNat] at coded
  · rw [written]
    exact tokens?_plain notQuote notBackslash printable read rest

/-- A written string is read as one token. -/
theorem tokens?_string (text read rest : Text) :
    (string read none).tokens?
        (text.flatMap escapeChar ++ '\x22' :: rest) =
      (between.tokens? rest).map (.string (read ++ text) :: ·) := by
  induction text generalizing read with
  | nil =>
      have took : (string read none).step '\x22' =
          some ([.string read], between) := rfl
      rw [List.flatMap_nil, List.nil_append, tokens?_step took,
        List.append_nil]
      rfl
  | cons c text ih =>
      rw [List.flatMap_cons, List.append_assoc, tokens?_escapeChar, ih,
        List.append_assoc]
      rfl

theorem tokens?_quote (text rest : Text) :
    between.tokens? (quote text ++ rest) =
      (between.tokens? rest).map (.string text :: ·) := by
  have took : between.step '\x22' = some ([], string [] none) := rfl
  rw [quote, List.append_assoc, List.append_assoc]
  change between.tokens? ('\x22' :: _) = _
  rw [tokens?_silent took]
  exact tokens?_string text [] rest

end Mode

example : tokens? "\"\\ud83d\\ude00\"".toList =
    some [.string "😀".toList] := by decide +kernel

end Json

end AccessAudit
