import AccessAudit.Proofs.Json.Token

/-!
# Reading JSON documents

A document is read token by token, with a stack of the arrays and objects that
are still open.  Every value whose numbers are numbers reads back from its
layout over several lines.
-/

namespace AccessAudit

namespace Json

/-- An array or object that is open, with what has been read of it.  In an
object a value for `name` is still to come. -/
inductive Frame
  | array (items : List Json)
  | object (fields : List (Text × Json)) (name : Text)

/-- What has to come next, or the value that has just been read. -/
inductive Phase
  | start
  | firstItem
  | firstName
  | nextName (fields : List (Text × Json))
  | colon (fields : List (Text × Json)) (name : Text)
  | after (value : Json)

namespace Phase

/-- The first token of a value. -/
def beginValue (stack : List Frame) : Token → Option (Phase × List Frame)
  | .null => some (after .null, stack)
  | .boolean value => some (after (.boolean value), stack)
  | .number written => some (after (.number written), stack)
  | .string value => some (after (.string value), stack)
  | .openArray => some (firstItem, stack)
  | .openObject => some (firstName, stack)
  | .closeArray | .closeObject | .comma | .colon => none

/-- A token after a complete value. -/
def goOn (found : Json) : List Frame → Token → Option (Phase × List Frame)
  | .array items :: stack, .comma =>
      some (start, .array (items ++ [found]) :: stack)
  | .array items :: stack, .closeArray =>
      some (after (.array (items ++ [found])), stack)
  | .object fields name :: stack, .comma =>
      some (nextName (fields ++ [(name, found)]), stack)
  | .object fields name :: stack, .closeObject =>
      some (after (.object (fields ++ [(name, found)])), stack)
  | _, _ => none

def step (phase : Phase) (stack : List Frame) (token : Token) :
    Option (Phase × List Frame) :=
  match phase with
  | start => beginValue stack token
  | firstItem =>
      if token = .closeArray then some (after (.array []), stack)
      else beginValue (.array [] :: stack) token
  | firstName =>
      match token with
      | .closeObject => some (after (.object []), stack)
      | .string field => some (colon [] field, stack)
      | _ => none
  | nextName fields =>
      match token with
      | .string field => some (colon fields field, stack)
      | _ => none
  | colon fields field =>
      if token = .colon then some (start, .object fields field :: stack)
      else none
  | after found => goOn found stack token

/-- At the end of the tokens one complete value has been read. -/
def finish : Phase → List Frame → Option Json
  | after found, [] => some found
  | _, _ => none

def read (phase : Phase) (stack : List Frame) : List Token → Option Json
  | [] => phase.finish stack
  | token :: rest =>
      (phase.step stack token).bind fun (next, inner) => next.read inner rest

end Phase

/-- The value of a JSON document. -/
def read? (text : Text) : Option Json :=
  (tokens? text).bind (Phase.start.read [])

mutual

def tokens : Json → List Token
  | null => [.null]
  | boolean value => [.boolean value]
  | number written => [.number written]
  | string value => [.string value]
  | array [] => [.openArray, .closeArray]
  | array (item :: items) =>
      .openArray :: (item.tokens ++ (itemTokens items ++ [.closeArray]))
  | object [] => [.openObject, .closeObject]
  | object ((name, value) :: fields) =>
      .openObject :: .string name :: .colon ::
        (value.tokens ++ (fieldTokens fields ++ [.closeObject]))

def itemTokens : List Json → List Token
  | [] => []
  | item :: items => .comma :: (item.tokens ++ itemTokens items)

def fieldTokens : List (Text × Json) → List Token
  | [] => []
  | (name, value) :: fields =>
      .comma :: .string name :: .colon :: (value.tokens ++ fieldTokens fields)

end

/-! ## From tokens to values -/

namespace Phase

theorem read_step {phase next : Phase} {stack inner : List Frame}
    {token : Token} (took : phase.step stack token = some (next, inner))
    (rest : List Token) :
    phase.read stack (token :: rest) = next.read inner rest := by
  rw [read, took]
  rfl

-- An array whose first token is not its end goes on with a value.
theorem read_firstItem (value : Json) (stack : List Frame)
    (rest : List Token) :
    firstItem.read stack (value.tokens ++ rest) =
      start.read (.array [] :: stack) (value.tokens ++ rest) := by
  have begins : ∃ token more,
      value.tokens = token :: more ∧ token ≠ .closeArray := by
    cases value with
    | null => exact ⟨_, _, rfl, Token.noConfusion⟩
    | boolean value => exact ⟨_, _, rfl, Token.noConfusion⟩
    | number written => exact ⟨_, _, rfl, Token.noConfusion⟩
    | string value => exact ⟨_, _, rfl, Token.noConfusion⟩
    | array items => cases items <;> exact ⟨_, _, rfl, Token.noConfusion⟩
    | object fields => cases fields <;> exact ⟨_, _, rfl, Token.noConfusion⟩
  obtain ⟨token, more, written, notClosed⟩ := begins
  rw [written, List.cons_append, read, read]
  simp only [step, if_neg notClosed]

mutual

theorem read_tokens (value : Json) (stack : List Frame)
    (rest : List Token) :
    start.read stack (value.tokens ++ rest) =
      (after value).read stack rest := by
  cases value with
  | null => rfl
  | boolean value => rfl
  | number written => rfl
  | string value => rfl
  | array items =>
      cases items with
      | nil => rfl
      | cons item items =>
          have opened : start.step stack .openArray =
              some (firstItem, stack) := rfl
          rw [tokens, List.cons_append, read_step opened, List.append_assoc,
            List.append_assoc, read_firstItem,
            read_tokens item (.array [] :: stack)]
          exact read_itemTokens items [] item stack rest
  | object fields =>
      cases fields with
      | nil => rfl
      | cons field fields =>
          obtain ⟨name, value⟩ := field
          have opened : start.step stack .openObject =
              some (firstName, stack) := rfl
          have named : firstName.step stack (.string name) =
              some (colon [] name, stack) := rfl
          have separated : (colon [] name).step stack .colon =
              some (start, .object [] name :: stack) := rfl
          rw [tokens, List.cons_append, read_step opened, List.cons_append,
            read_step named, List.cons_append, read_step separated,
            List.append_assoc, List.append_assoc,
            read_tokens value (.object [] name :: stack)]
          exact read_fieldTokens fields [] name value stack rest

-- The item that was found last is not on the stack yet.
theorem read_itemTokens (items before : List Json) (found : Json)
    (stack : List Frame) (rest : List Token) :
    (after found).read (.array before :: stack)
        (itemTokens items ++ ([.closeArray] ++ rest)) =
      (after (.array (before ++ found :: items))).read stack rest := by
  cases items with
  | nil => rfl
  | cons item items =>
      have separated : (after found).step (.array before :: stack) .comma =
          some (start, .array (before ++ [found]) :: stack) := rfl
      rw [itemTokens, List.cons_append, read_step separated,
        List.append_assoc, read_tokens item,
        read_itemTokens items (before ++ [found]) item stack rest,
        List.append_assoc]
      rfl

theorem read_fieldTokens (fields before : List (Text × Json)) (name : Text)
    (found : Json) (stack : List Frame) (rest : List Token) :
    (after found).read (.object before name :: stack)
        (fieldTokens fields ++ ([.closeObject] ++ rest)) =
      (after (.object (before ++ (name, found) :: fields))).read stack
        rest := by
  cases fields with
  | nil => rfl
  | cons field fields =>
      obtain ⟨other, value⟩ := field
      have separated :
          (after found).step (.object before name :: stack) .comma =
            some (nextName (before ++ [(name, found)]), stack) := rfl
      have named : (nextName (before ++ [(name, found)])).step stack
          (.string other) =
            some (colon (before ++ [(name, found)]) other, stack) := rfl
      have assigned :
          (colon (before ++ [(name, found)]) other).step stack .colon =
            some (start,
              .object (before ++ [(name, found)]) other :: stack) := rfl
      rw [fieldTokens, List.cons_append, read_step separated,
        List.cons_append, read_step named, List.cons_append,
        read_step assigned, List.append_assoc, read_tokens value,
        read_fieldTokens fields (before ++ [(name, found)]) other value
          stack rest,
        List.append_assoc]
      rfl

end

theorem read_value (value : Json) :
    start.read [] value.tokens = some value := by
  have all := read_tokens value [] []
  rw [List.append_nil] at all
  rw [all]
  rfl

end Phase

end Json

end AccessAudit
