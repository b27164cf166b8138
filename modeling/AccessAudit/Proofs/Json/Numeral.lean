import AccessAudit.Proofs.Number.Shortest
import AccessAudit.Proofs.Text.Digits

/-!
# The numbers of JSON

A number is read one character at a time: a sign, digits without a leading
zero, a fraction and an exponent.  What is written for a natural number and for
a double in normal form is such a number.
-/

namespace AccessAudit

namespace Json

/-- How much of a number has been read. -/
inductive NumberPart
  | start
  | sign
  | zero
  | whole
  | point
  | fraction
  | mark
  | exponentSign
  | exponent
deriving DecidableEq

namespace NumberPart

def mayEnd : NumberPart → Bool
  | zero | whole | fraction | exponent => true
  | start | sign | point | mark | exponentSign => false

def digitTo (next : NumberPart) (c : Char) : Option NumberPart :=
  if c.isDigit then some next else none

/-- A leading zero is the only digit of the whole part. -/
def ofFirstDigit (c : Char) : Option NumberPart :=
  if c = '0' then some zero else digitTo whole c

def ofMark (c : Char) : Option NumberPart :=
  if c = 'e' ∨ c = 'E' then some mark else none

def ofPoint (c : Char) : Option NumberPart :=
  if c = '.' then some point else ofMark c

def step (part : NumberPart) (c : Char) : Option NumberPart :=
  match part with
  | start => if c = '-' then some sign else ofFirstDigit c
  | sign => ofFirstDigit c
  | zero => ofPoint c
  | whole => if c.isDigit then some whole else ofPoint c
  | point => digitTo fraction c
  | fraction => if c.isDigit then some fraction else ofMark c
  | mark =>
      if c = '+' ∨ c = '-' then some exponentSign else digitTo exponent c
  | exponentSign => digitTo exponent c
  | exponent => digitTo exponent c

def read (part : NumberPart) (text : Text) : Option NumberPart :=
  text.foldlM step part

theorem read_cons (part : NumberPart) (c : Char) (rest : Text) :
    part.read (c :: rest) = (part.step c).bind fun next => next.read rest :=
  rfl

theorem read_append (part : NumberPart) (text rest : Text) :
    part.read (text ++ rest) =
      (part.read text).bind fun next => next.read rest := by
  rw [read, List.foldlM_append]
  rfl

/-- Digits change nothing in this part. -/
def TakesDigits (part : NumberPart) : Prop :=
  ∀ c : Char, c.isDigit = true → part.step c = some part

theorem takesDigits_whole : whole.TakesDigits := by
  intro c digit
  simp [step, digit]

theorem takesDigits_fraction : fraction.TakesDigits := by
  intro c digit
  simp [step, digit]

theorem takesDigits_exponent : exponent.TakesDigits := by
  intro c digit
  simp [step, digitTo, digit]

theorem TakesDigits.read_digits {part : NumberPart}
    (takes : part.TakesDigits) {digits : Text}
    (allDigits : ∀ c ∈ digits, c.isDigit = true) :
    part.read digits = some part := by
  induction digits with
  | nil => rfl
  | cons c rest ih =>
      rw [read_cons, takes c (allDigits c List.mem_cons_self)]
      exact ih fun d member => allDigits d (List.mem_cons_of_mem c member)

end NumberPart

def isNumber (text : Text) : Bool :=
  (NumberPart.start.read text).any NumberPart.mayEnd

namespace NumberPart

theorem read_start_digits {first : Char} {rest : Text}
    (nonzero : first ≠ '0')
    (allDigits : ∀ c ∈ first :: rest, c.isDigit = true) :
    start.read (first :: rest) = some whole := by
  have digit := allDigits first List.mem_cons_self
  have noSign : first ≠ '-' := by
    rintro rfl
    contradiction
  rw [read_cons, step, if_neg noSign, ofFirstDigit, if_neg nonzero, digitTo,
    if_pos digit]
  apply takesDigits_whole.read_digits
  intro c member
  exact allDigits c (List.mem_cons_of_mem first member)

theorem read_start_ofNat {number : Nat} (positive : 0 < number) :
    start.read (Text.ofNat number) = some whole := by
  obtain ⟨first, rest, written, nonzero⟩ := Text.exists_ofNat_eq_cons positive
  rw [written]
  apply read_start_digits nonzero
  intro c member
  exact Text.isDigit_of_mem_ofNat (written ▸ member)

/-- Where one digit has to follow, any number of them may. -/
theorem read_digitTo {part next : NumberPart}
    (needs : ∀ c : Char, c.isDigit = true → part.step c = some next)
    (takes : next.TakesDigits) {digits : Text} (nonempty : digits ≠ [])
    (allDigits : ∀ c ∈ digits, c.isDigit = true) :
    part.read digits = some next := by
  cases digits with
  | nil => contradiction
  | cons first rest =>
      rw [read_cons, needs first (allDigits first List.mem_cons_self)]
      apply takes.read_digits
      intro c member
      exact allDigits c (List.mem_cons_of_mem first member)

end NumberPart

theorem isNumber_of_read {text : Text} (part : NumberPart)
    (read : NumberPart.start.read text = some part)
    (ends : part.mayEnd = true) : isNumber text = true := by
  rw [isNumber, read]
  exact ends

theorem isNumber_ofNat (number : Nat) :
    isNumber (Text.ofNat number) = true := by
  rcases Nat.eq_zero_or_pos number with rfl | positive
  · decide
  · exact isNumber_of_read _ (NumberPart.read_start_ofNat positive) rfl

namespace NumberPart

theorem read_point_digits {digits : Text} (nonempty : digits ≠ [])
    (allDigits : ∀ c ∈ digits, c.isDigit = true) :
    point.read digits = some fraction := by
  apply read_digitTo _ takesDigits_fraction nonempty allDigits
  intro c digit
  simp [step, digitTo, digit]

/-- The power of ten, written with a minus sign where it is negative. -/
theorem read_mark_power (power : ℤ) :
    mark.read (match power with
      | .ofNat power => Text.ofNat power
      | .negSucc less => ("-" : Text) ++ Text.ofNat (less + 1)) =
        some exponent := by
  cases power with
  | ofNat power =>
      apply read_digitTo _ takesDigits_exponent (Text.ofNat_ne_nil _)
      · intro c
        exact Text.isDigit_of_mem_ofNat
      · intro c digit
        have noSign : ¬(c = '+' ∨ c = '-') := by
          rintro (rfl | rfl) <;> contradiction
        simp [step, digitTo, digit, noSign]
  | negSucc less =>
      change exponentSign.read (Text.ofNat (less + 1)) = some exponent
      apply read_digitTo _ takesDigits_exponent (Text.ofNat_ne_nil _)
      · intro c
        exact Text.isDigit_of_mem_ofNat
      · intro c digit
        simp [step, digitTo, digit]

end NumberPart

end Json

namespace Decimal

open Json NumberPart

theorem isDigit_of_mem_repeated {count : Nat} {c : Char}
    (member : c ∈ Text.repeated count '0') : c.isDigit = true := by
  rw [List.eq_of_mem_replicate member]
  decide

theorem isDigit_of_mem_positional {zeros number : Nat} {c : Char}
    (member : c ∈ Text.repeated zeros '0' ++ Text.ofNat number) :
    c.isDigit = true := by
  rcases List.mem_append.mp member with padding | digit
  · exact isDigit_of_mem_repeated padding
  · exact Text.isDigit_of_mem_ofNat digit

theorem read_take_ofNat {number count : Nat} (positive : 0 < number)
    (someDigits : 0 < count) :
    start.read ((Text.ofNat number).take count) = some whole := by
  obtain ⟨first, rest, written, nonzero⟩ := Text.exists_ofNat_eq_cons positive
  obtain ⟨less, rfl⟩ := Nat.exists_eq_add_one.mpr someDigits
  rw [written, List.take_succ_cons]
  apply read_start_digits nonzero
  intro c member
  rw [← List.take_succ_cons, ← written] at member
  exact Text.isDigit_of_mem_ofNat (List.mem_of_mem_take member)

theorem read_drop_ofNat {number count : Nat}
    (more : count < (Text.ofNat number).length) :
    point.read ((Text.ofNat number).drop count) = some fraction := by
  apply read_point_digits
  · rw [Ne, List.drop_eq_nil_iff]
    omega
  · intro c member
    exact Text.isDigit_of_mem_ofNat (List.mem_of_mem_drop member)

/-- Positional notation is a number if zero is not followed by zeros. -/
theorem isNumber_positional {decimal : Decimal}
    (noPadding : decimal.digits = 0 → decimal.exponent ≤ 0) :
    isNumber decimal.positional = true := by
  obtain ⟨digits, exponent⟩ := decimal
  cases exponent with
  | ofNat zeros =>
      rcases Nat.eq_zero_or_pos digits with isZero | positive
      · have none : zeros = 0 := by
          have := noPadding isZero
          simp only [Int.ofNat_eq_natCast] at this
          omega
        subst isZero none
        decide
      · apply isNumber_of_read fraction _ rfl
        rw [positional, read_append, read_append,
          read_start_ofNat positive, Option.bind_some,
          takesDigits_whole.read_digits fun _ => isDigit_of_mem_repeated]
        decide
  | negSucc less =>
      apply isNumber_of_read fraction _ rfl
      simp only [positional]
      split
      · rw [List.append_assoc, read_append]
        apply read_point_digits
        · simp [Text.ofNat]
        · exact fun _ => isDigit_of_mem_positional
      · next longer =>
          have positive : 0 < digits := by
            by_contra isZero
            rw [Nat.eq_zero_of_not_pos isZero] at longer
            exact longer (Nat.succ_le_succ (Nat.zero_le less))
          rw [read_append, read_append, read_take_ofNat positive (by omega)]
          exact read_drop_ofNat (by omega)

theorem isNumber_scientific {decimal : Decimal}
    (positive : 0 < decimal.digits) : isNumber decimal.scientific = true := by
  apply isNumber_of_read NumberPart.exponent _ rfl
  simp only [scientific]
  split
  · rw [read_append, read_append, read_append,
      read_take_ofNat positive Nat.one_pos]
    exact read_mark_power _
  · next several =>
      have more : 1 < (Text.ofNat decimal.digits).length := by
        have : 0 < (Text.ofNat decimal.digits).length :=
          Nat.length_toDigits_pos
        omega
      rw [read_append, read_append, read_append,
        read_take_ofNat positive Nat.one_pos, Option.bind_some, read_cons]
      have point : step .whole '.' = some .point := by decide
      rw [point, Option.bind_some, read_drop_ofNat more, Option.bind_some]
      exact read_mark_power _

/-- Notation in reports is a number if zero is not followed by zeros. -/
theorem isNumber_report {decimal : Decimal}
    (noPadding : decimal.digits = 0 → decimal.exponent ≤ 0) :
    isNumber decimal.report = true := by
  simp only [report]
  split
  · exact isNumber_positional noPadding
  · next notPositional =>
      apply isNumber_scientific
      apply Nat.pos_of_ne_zero
      intro isZero
      simp [isZero] at notPositional

end Decimal

/-- What is written for a double in normal form is a number. -/
theorem Binary64.isNumber_report_shortest {number : Binary64}
    (normal : number.Normal) :
    Json.isNumber number.shortest.report = true := by
  apply Decimal.isNumber_report
  intro noDigits
  have isZero := (shortest_digits_eq_zero_iff normal).mp noDigits
  simp [shortest, isZero]

end AccessAudit
