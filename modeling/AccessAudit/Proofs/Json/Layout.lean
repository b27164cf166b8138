import AccessAudit.Proofs.Json.Document

/-!
# Reading the layout of a value

The layout over several lines puts white space between tokens only, and no
word or number goes on into what follows it.  So a value whose numbers are
numbers reads back from its layout.
-/

namespace AccessAudit

namespace Json

mutual

/-- Every number in the value is written as a number. -/
def ValidNumbers : Json → Prop
  | null | boolean _ | string _ => True
  | number written => isNumber written = true
  | array items => ValidItems items
  | object fields => ValidFields fields

def ValidItems : List Json → Prop
  | [] => True
  | item :: items => item.ValidNumbers ∧ ValidItems items

def ValidFields : List (Text × Json) → Prop
  | [] => True
  | (_, value) :: fields => value.ValidNumbers ∧ ValidFields fields

end

/-! ## Where words end -/

theorem endsWord_nil : EndsWord [] := by
  intro c member
  cases member

theorem endsWord_cons {c : Char} (notWord : isWordChar c = false)
    (rest : Text) : EndsWord (c :: rest) := by
  intro first member
  cases member
  exact notWord

theorem endsWord_newLine (depth : Nat) (rest : Text) :
    EndsWord (newLine depth ++ rest) :=
  endsWord_cons (by decide) _

theorem endsWord_prettyItems (depth : Nat) (items : List Json) {rest : Text}
    (ends : EndsWord rest) : EndsWord (prettyItems depth items ++ rest) := by
  cases items with
  | nil => exact ends
  | cons item items => exact endsWord_cons (by decide) _

theorem endsWord_prettyFields (depth : Nat) (fields : List (Text × Json))
    {rest : Text} (ends : EndsWord rest) :
    EndsWord (prettyFields depth fields ++ rest) := by
  cases fields with
  | nil => exact ends
  | cons field fields => exact endsWord_cons (by decide) _

namespace Mode

theorem tokens?_newLine (depth : Nat) (rest : Text) :
    between.tokens? (newLine depth ++ rest) = between.tokens? rest := by
  apply tokens?_spaces
  intro c member
  rcases List.mem_cons.mp member with rfl | member
  · decide
  · rw [List.eq_of_mem_replicate member]
    decide

theorem tokens?_mark (mark : Text) (c : Char) (token : Token)
    (single : mark = [c]) (took : between.step c = some ([token], between))
    (rest : Text) :
    between.tokens? (mark ++ rest) =
      (between.tokens? rest).map (token :: ·) := by
  rw [single]
  exact tokens?_step took rest

theorem tokens?_colon (rest : Text) :
    between.tokens? (": " ++ rest) =
      (between.tokens? rest).map (.colon :: ·) := by
  change between.tokens? (':' :: ' ' :: rest) = _
  have took : between.step ':' = some ([.colon], between) := rfl
  have skipped : between.step ' ' = some ([], between) := rfl
  rw [tokens?_step took, tokens?_silent skipped]
  rfl

theorem begin_of_isWordChar {c : Char} (wordChar : isWordChar c = true) :
    begin c = some ([], Mode.word [c]) := by
  have notSpace : isSpace c = false := by
    by_contra space
    rw [Bool.not_eq_false] at space
    have listed : c ∈ [' ', '\n', '\r', '\t'] := by
      simpa [isSpace, or_assoc] using space
    have noWord : [' ', '\n', '\r', '\t'].any isWordChar = false := by decide
    exact List.any_eq_false.mp noWord c listed wordChar
  have notQuote : c ≠ '\x22' := by
    rintro rfl
    contradiction
  simp [begin, notSpace, notQuote, wordChar]

/-- A literal or number is one token. -/
theorem tokens?_ofWord {word rest : Text} {token : Token}
    (ends : EndsWord rest) (meant : Token.ofWord? word = some token)
    (nonempty : word ≠ []) (allWord : ∀ c ∈ word, isWordChar c = true) :
    between.tokens? (word ++ rest) =
      (between.tokens? rest).map (token :: ·) := by
  cases word with
  | nil => contradiction
  | cons c more =>
      have took : between.step c = some ([], Mode.word [c]) :=
        begin_of_isWordChar (allWord c List.mem_cons_self)
      have later : ∀ d ∈ more, isWordChar d = true := fun d member =>
        allWord d (List.mem_cons_of_mem c member)
      rw [List.cons_append, tokens?_silent took, tokens?_word ends [c] later,
        List.singleton_append, meant]
      rfl

theorem tokens?_number {written rest : Text} (ends : EndsWord rest)
    (valid : isNumber written = true) :
    between.tokens? (written ++ rest) =
      (between.tokens? rest).map (.number written :: ·) := by
  have notLiteral : ∀ literal ∈ [("null" : Text), "true", "false"],
      written ≠ literal := by
    rintro literal member rfl
    have others : ∀ literal ∈ [("null" : Text), "true", "false"],
        isNumber literal = false := by decide
    rw [others written member] at valid
    contradiction
  apply tokens?_ofWord ends
  · simp only [List.forall_mem_cons] at notLiteral
    obtain ⟨notNull, notTrue, notFalse, _⟩ := notLiteral
    simp only [Token.ofWord?, if_neg notNull, if_neg notTrue,
      if_neg notFalse, if_pos valid]
  · rintro rfl
    contradiction
  · exact isWordChar_of_isNumber valid

theorem tokens?_literal {word rest : Text} {token : Token}
    (ends : EndsWord rest) (meant : Token.ofWord? word = some token)
    (literal : word ∈ [("null" : Text), "true", "false"]) :
    between.tokens? (word ++ rest) =
      (between.tokens? rest).map (token :: ·) := by
  have words : ∀ literal ∈ [("null" : Text), "true", "false"],
      literal ≠ [] ∧ literal.all isWordChar = true := by decide
  obtain ⟨nonempty, allWord⟩ := words word literal
  exact tokens?_ofWord ends meant nonempty (List.all_eq_true.mp allWord)

mutual

/-- The layout of a value is cut into the tokens of the value. -/
theorem tokens?_prettyAt (depth : Nat) {value : Json}
    (valid : value.ValidNumbers) {rest : Text} (ends : EndsWord rest) :
    between.tokens? (prettyAt depth value ++ rest) =
      (between.tokens? rest).map (value.tokens ++ ·) := by
  cases value with
  | null =>
      rw [prettyAt]
      exact tokens?_literal ends rfl (by decide)
  | boolean value =>
      rw [prettyAt]
      cases value with
      | false => exact tokens?_literal ends rfl (by decide)
      | true => exact tokens?_literal ends rfl (by decide)
  | number written => exact tokens?_number ends valid
  | string value => exact tokens?_quote value rest
  | array items =>
      cases items with
      | nil =>
          change between.tokens? ("[" ++ ("]" ++ rest)) = _
          rw [tokens?_mark "[" '[' .openArray rfl rfl,
            tokens?_mark "]" ']' .closeArray rfl rfl]
          simp only [Option.map_map, Function.comp_def, tokens,
            List.cons_append, List.nil_append]
      | cons item items =>
          -- What follows the first item begins with a comma or a new line.
          have close := endsWord_newLine depth (("]" : Text) ++ rest)
          have inside := endsWord_prettyItems depth items close
          rw [prettyAt]
          simp only [List.append_assoc]
          rw [tokens?_mark "[" '[' .openArray rfl rfl, tokens?_newLine,
            tokens?_prettyAt (depth + 1) valid.1 inside,
            tokens?_prettyItems depth valid.2 close, tokens?_newLine,
            tokens?_mark "]" ']' .closeArray rfl rfl]
          simp only [Option.map_map, Function.comp_def, tokens,
            List.cons_append, List.append_assoc, List.nil_append]
  | object fields =>
      cases fields with
      | nil =>
          change between.tokens? ("\x7b" ++ ("\x7d" ++ rest)) = _
          rw [tokens?_mark "\x7b" '\x7b' .openObject rfl rfl,
            tokens?_mark "\x7d" '\x7d' .closeObject rfl rfl]
          simp only [Option.map_map, Function.comp_def, tokens,
            List.cons_append, List.nil_append]
      | cons field fields =>
          obtain ⟨name, value⟩ := field
          have close := endsWord_newLine depth (("\x7d" : Text) ++ rest)
          have inside := endsWord_prettyFields depth fields close
          rw [prettyAt]
          simp only [List.append_assoc]
          rw [tokens?_mark "\x7b" '\x7b' .openObject rfl rfl,
            tokens?_newLine, tokens?_quote, tokens?_colon,
            tokens?_prettyAt (depth + 1) valid.1 inside,
            tokens?_prettyFields depth valid.2 close, tokens?_newLine,
            tokens?_mark "\x7d" '\x7d' .closeObject rfl rfl]
          simp only [Option.map_map, Function.comp_def, tokens,
            List.cons_append, List.append_assoc, List.nil_append]

theorem tokens?_prettyItems (depth : Nat) {items : List Json}
    (valid : ValidItems items) {rest : Text} (ends : EndsWord rest) :
    between.tokens? (prettyItems depth items ++ rest) =
      (between.tokens? rest).map (itemTokens items ++ ·) := by
  cases items with
  | nil => exact Option.map_id'.symm
  | cons item items =>
      have inside := endsWord_prettyItems depth items ends
      rw [prettyItems]
      simp only [List.append_assoc]
      rw [tokens?_mark "," ',' .comma rfl rfl, tokens?_newLine,
        tokens?_prettyAt (depth + 1) valid.1 inside,
        tokens?_prettyItems depth valid.2 ends]
      simp only [Option.map_map, Function.comp_def, itemTokens,
        List.cons_append, List.append_assoc]

theorem tokens?_prettyFields (depth : Nat) {fields : List (Text × Json)}
    (valid : ValidFields fields) {rest : Text} (ends : EndsWord rest) :
    between.tokens? (prettyFields depth fields ++ rest) =
      (between.tokens? rest).map (fieldTokens fields ++ ·) := by
  cases fields with
  | nil => exact Option.map_id'.symm
  | cons field fields =>
      obtain ⟨name, value⟩ := field
      have inside := endsWord_prettyFields depth fields ends
      rw [prettyFields]
      simp only [List.append_assoc]
      rw [tokens?_mark "," ',' .comma rfl rfl, tokens?_newLine,
        tokens?_quote, tokens?_colon,
        tokens?_prettyAt (depth + 1) valid.1 inside,
        tokens?_prettyFields depth valid.2 ends]
      simp only [Option.map_map, Function.comp_def, fieldTokens,
        List.cons_append, List.append_assoc]

end

end Mode

/-- A value whose numbers are numbers reads back from its layout. -/
theorem read?_pretty {value : Json} (valid : value.ValidNumbers) :
    read? value.pretty = some value := by
  have cut : tokens? value.pretty = some value.tokens := by
    have all := Mode.tokens?_prettyAt 0 valid endsWord_nil
    rw [List.append_nil] at all
    rw [pretty, tokens?, all]
    exact congrArg some (List.append_nil value.tokens)
  rw [read?, cut]
  exact Phase.read_value value

example : (read? "[1,]".toList).isNone = true := by decide

example : (read? "\x7b \"a\": 01 \x7d".toList).isNone = true := by decide

end Json

end AccessAudit
