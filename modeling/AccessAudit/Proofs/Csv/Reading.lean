import AccessAudit.Report.Csv

/-!
# Reading comma-separated records

A reader for records of fields between commas, one record a line.  A field may
stand in quotes, and then it may hold commas, line ends and doubled quotes.
`readRecords_line` reads one record off the front of a file.
-/

namespace AccessAudit

namespace Csv

/-- Where a reader stands. -/
inductive Position
  | fieldStart
  /-- In a field without quotes. -/
  | bare
  /-- Behind the opening quote of a field. -/
  | quoted
  /-- Behind a quote that closes a field, if no other quote follows. -/
  | closed
deriving DecidableEq, Repr

/-- What there is to read from a position on: the rest of a field, the further
fields of its record, and the further records. -/
structure Remainder where
  field : Text
  fields : List Text
  records : List (List Text)
deriving DecidableEq, Repr

namespace Remainder

def none : Remainder := ⟨[], [], []⟩

def addText (text : Text) (remainder : Remainder) : Remainder :=
  { remainder with field := text ++ remainder.field }

/-- A comma stands in front of the field. -/
def addField (remainder : Remainder) : Remainder :=
  ⟨[], remainder.field :: remainder.fields, remainder.records⟩

def firstRecord (remainder : Remainder) : List Text :=
  remainder.field :: remainder.fields

/-- A line end stands in front of the field. -/
def addRecord (remainder : Remainder) : Remainder :=
  ⟨[], [], remainder.firstRecord :: remainder.records⟩

end Remainder

/-- Read on from a position.  Quotes are refused inside a field without
quotes, and so is everything but a comma or a line feed behind a closing
quote.  The line feed behind the last record may be missing. -/
def readFrom : Position → Text → Option Remainder
  | .quoted, [] => none
  | _, [] => some .none
  | .quoted, c :: rest =>
      if c = '\x22' then readFrom .closed rest
      else (readFrom .quoted rest).map (.addText [c])
  | position, c :: rest =>
      if c = ',' then (readFrom .fieldStart rest).map .addField
      else if c = '\n' then
        if rest.isEmpty then some .none
        else (readFrom .fieldStart rest).map .addRecord
      else if c = '\x22' then
        match position with
        | .fieldStart => readFrom .quoted rest
        | .closed => (readFrom .quoted rest).map (.addText [c])
        | _ => none
      else if position = .closed || c = '\r' then none
      else (readFrom .bare rest).map (.addText [c])

/-- The records of a file. -/
def readRecords (file : Text) : Option (List (List Text)) :=
  if file.isEmpty then some []
  else
    (readFrom .fieldStart file).map fun remainder =>
      remainder.firstRecord :: remainder.records

namespace Remainder

@[simp]
theorem addText_nil : addText [] = id := rfl

theorem addText_append (first second : Text) (remainder : Remainder) :
    addText (first ++ second) remainder =
      addText first (addText second remainder) := by
  simp [addText]

end Remainder

/-- A reader takes what is written, in front of a comma or line feed, for the
field. -/
def ReadAs (written field : Text) : Prop :=
  ∀ c rest, c = ',' ∨ c = '\n' →
    readFrom .fieldStart (written ++ c :: rest) =
      (readFrom .fieldStart (c :: rest)).map (.addText field)

/-- At the end of a field it does not matter how the field was written. -/
theorem readFrom_separator {position : Position} {c : Char} (rest : Text)
    (separator : c = ',' ∨ c = '\n') (outside : position ≠ .quoted) :
    readFrom position (c :: rest) = readFrom .fieldStart (c :: rest) := by
  rcases separator with rfl | rfl
  · cases position with
    | quoted => exact absurd rfl outside
    | fieldStart | bare | closed => rfl
  · cases position with
    | quoted => exact absurd rfl outside
    | fieldStart | bare | closed => rfl

theorem readFrom_doubleQuotes (value rest : Text) :
    readFrom .quoted (doubleQuotes value ++ '\x22' :: rest) =
      (readFrom .closed rest).map (.addText value) := by
  induction value with
  | nil => simp [doubleQuotes, readFrom]
  | cons c others ih =>
      have split : doubleQuotes (c :: others) =
          (if c = '\x22' then ['\x22', '\x22'] else [c]) ++
            doubleQuotes others := by
        rw [doubleQuotes, List.flatMap_cons, doubleQuotes]
      have added : ∀ remainder, Remainder.addText [c]
          (.addText others remainder) =
            .addText (c :: others) remainder := by
        intro remainder
        rw [← Remainder.addText_append, List.singleton_append]
      rw [split, List.append_assoc]
      by_cases quote : c = '\x22'
      · subst quote
        simp [readFrom, ih, Function.comp_def, added]
      · simp [readFrom, quote, ih, Function.comp_def, added]

theorem readAs_escape (value : Text) : ReadAs (escape value) value := by
  intro c rest separator
  have quoted : escape value ++ c :: rest =
      '\x22' :: (doubleQuotes value ++ '\x22' :: c :: rest) := by
    simp [escape]
  rw [quoted, readFrom, if_neg (by decide), if_neg (by decide), if_pos rfl]
  rw [readFrom_doubleQuotes, readFrom_separator rest separator (by simp)]

/-- The character means nothing to a reader. -/
def isPlain (c : Char) : Bool :=
  c != ',' && c != '\n' && c != '\x22' && c != '\r'

theorem readFrom_plain {position : Position} {c : Char} (rest : Text)
    (plain : isPlain c = true)
    (start : position = .fieldStart ∨ position = .bare) :
    readFrom position (c :: rest) =
      (readFrom .bare rest).map (.addText [c]) := by
  simp only [isPlain, Bool.and_eq_true, bne_iff_ne] at plain
  obtain ⟨⟨⟨noComma, noFeed⟩, noQuote⟩, noReturn⟩ := plain
  rcases start with rfl | rfl
  · simp [readFrom, noComma, noFeed, noQuote, noReturn]
  · simp [readFrom, noComma, noFeed, noQuote, noReturn]

theorem readAs_self {field : Text}
    (plain : ∀ c ∈ field, isPlain c = true) : ReadAs field field := by
  intro d rest separator
  have go : ∀ {position : Position},
      position = .fieldStart ∨ position = .bare →
      readFrom position (field ++ d :: rest) =
        (readFrom .fieldStart (d :: rest)).map (.addText field) := by
    induction field with
    | nil =>
        intro position start
        have outside : position ≠ .quoted := by
          rcases start with rfl | rfl <;> simp
        rw [List.nil_append, readFrom_separator rest separator outside]
        cases readFrom .fieldStart (d :: rest) <;> rfl
    | cons c others ih =>
        intro position start
        have first := plain c List.mem_cons_self
        have later := ih (fun other member =>
          plain other (List.mem_cons_of_mem c member)) (Or.inr rfl)
        rw [List.cons_append, readFrom_plain _ first start, later,
          Option.map_map]
        congr 1
  exact go (Or.inl rfl)

theorem readFrom_lineFeed (rest : Text) :
    readFrom .fieldStart ('\n' :: rest) =
      (readRecords rest).map fun records => ⟨[], [], records⟩ := by
  cases rest with
  | nil => rfl
  | cons c others =>
      rw [readRecords, if_neg (by simp), Option.map_map]
      rfl

theorem readFrom_fields {write : Text → Text} {fields : List Text}
    (readable : ∀ field ∈ fields, ReadAs (write field) field)
    {first : Text} (readableFirst : ReadAs (write first) first)
    (rest : Text) :
    readFrom .fieldStart
        (Text.joinWith "," ((first :: fields).map write) ++ '\n' :: rest) =
      (readRecords rest).map fun records => ⟨first, fields, records⟩ := by
  induction fields generalizing first with
  | nil =>
      have whole := readableFirst '\n' rest (Or.inr rfl)
      simp only [List.map_cons, List.map_nil, Text.joinWith]
      rw [whole, readFrom_lineFeed, Option.map_map]
      simp [Function.comp_def, Remainder.addText]
  | cons second others ih =>
      have later := ih
        (fun field member => readable field
          (List.mem_cons_of_mem second member))
        (readable second List.mem_cons_self)
      have cut : Text.joinWith ","
            ((first :: second :: others).map write) ++ '\n' :: rest =
          write first ++ ',' ::
            (Text.joinWith "," ((second :: others).map write) ++
              '\n' :: rest) := by
        simp [Text.joinWith]
      rw [cut, readableFirst ',' _ (Or.inl rfl), readFrom, if_pos rfl,
        later]
      simp [Function.comp_def, Remainder.addText, Remainder.addField]

/-- A record is read off the front of a file, in whatever way its fields are
written. -/
theorem readRecords_line {write : Text → Text} {fields : List Text}
    (nonempty : fields ≠ [])
    (readable : ∀ field ∈ fields, ReadAs (write field) field)
    (rest : Text) :
    readRecords (Text.line (Text.joinWith "," (fields.map write)) ++ rest) =
      (readRecords rest).map (fields :: ·) := by
  obtain ⟨first, others, rfl⟩ := List.exists_cons_of_ne_nil nonempty
  have line : Text.line
        (Text.joinWith "," ((first :: others).map write)) ++ rest =
      Text.joinWith "," ((first :: others).map write) ++ '\n' :: rest := by
    simp [Text.line]
  have whole := readFrom_fields
    (fun field member => readable field (List.mem_cons_of_mem first member))
    (readable first List.mem_cons_self) rest
  rw [line, readRecords, if_neg (by simp), whole, Option.map_map]
  rfl

end Csv

end AccessAudit
