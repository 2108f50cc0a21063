import Caretaker.Json.Record

/-!
The grammar of JSON over bytes: blanks, numbers, texts between quotes, and values of any depth. It
says what is well formed and nothing about how it is read.
-/

namespace Caretaker.Json

-----------------------------------------------------------------------------
-- Blanks and words

/-- Bytes that may stand between any two tokens. -/
def Blank (text : List UInt8) : Prop :=
  ∀ b ∈ text, isBlank b = true

/-- The bytes of a word. -/
def codes (word : String) : List UInt8 :=
  word.toList.map fun c => code c

theorem Blank.nil : Blank [] := nofun

-----------------------------------------------------------------------------
-- Numbers

/-- Digits, one of them at least. -/
def Digits (ds : List UInt8) : Prop :=
  ds ≠ [] ∧ ∀ d ∈ ds, isDigit d = true

/-- The digits of a whole number, which begin with a zero only if there are no others. -/
def Whole (ds : List UInt8) : Prop :=
  Digits ds ∧ (ds.head? = some (code '0') → ds.length = 1)

/-- A point and digits behind it, or nothing. -/
inductive Fraction : List UInt8 → Prop where
  | none : Fraction []
  | some {ds : List UInt8} (digits : Digits ds) : Fraction (code '.' :: ds)

/-- The mark of an exponent, its sign and its digits, or nothing. -/
inductive Exponent : List UInt8 → Prop where
  | none : Exponent []
  | some {mark : UInt8} {sign ds : List UInt8} (marks : mark = code 'e' ∨ mark = code 'E')
      (signs : sign = [] ∨ sign = [code '+'] ∨ sign = [code '-']) (digits : Digits ds)
      : Exponent (mark :: sign ++ ds)

/-- A number without its sign. -/
def Unsigned (number : List UInt8) : Prop :=
  ∃ whole fraction exponent,
    number = whole ++ fraction ++ exponent ∧ Whole whole ∧ Fraction fraction ∧ Exponent exponent

/-- The number that some digits stand for. -/
def digitsValue (ds : List UInt8) : Nat :=
  ds.foldl (fun n d => n * 10 + Number.digitValue d) 0

/-- A whole number in decimal digits. -/
def Decimal (n : Nat) (ds : List UInt8) : Prop :=
  Whole ds ∧ digitsValue ds = n

/-- No number goes on with this text. -/
def EndsNumber (rest : List UInt8) : Prop :=
  ∀ b ∈ rest.head?, isDigit b = false ∧ b ≠ code '.' ∧ b ≠ code 'e' ∧ b ≠ code 'E'

-----------------------------------------------------------------------------
-- Texts between quotes

/-- A byte that stands for itself between quotes. -/
def isPlain (b : UInt8) : Bool :=
  0x20 ≤ b && b ≠ code '"' && b ≠ code '\\'

theorem of_isPlain {b : UInt8} (plain : isPlain b = true)
    : b ≠ code '"' ∧ b ≠ code '\\' ∧ ¬ b < 0x20 := by
  simp only [isPlain, Bool.and_eq_true, decide_eq_true_eq] at plain
  exact ⟨plain.1.2, plain.2, UInt8.not_lt.2 plain.1.1⟩

theorem ne_u_of_shortEscape {b : UInt8} (escapes : (Reader.shortEscape? b).isSome)
    : b ≠ code 'u' := by
  rintro rfl
  revert escapes
  decide

/-- A text behind its opening quote, up to the closing one. -/
inductive Quoted : List UInt8 → Prop where
  | closed : Quoted [code '"']
  | plain {b : UInt8} {text : List UInt8} (plain : isPlain b = true) (rest : Quoted text)
      : Quoted (b :: text)
  | short {b : UInt8} {text : List UInt8} (escapes : (Reader.shortEscape? b).isSome)
      (rest : Quoted text)
      : Quoted (code '\\' :: b :: text)
  | numbered {a b c d : UInt8} {text : List UInt8} (escapes : (fourHex? a b c d).isSome)
      (rest : Quoted text)
      : Quoted (code '\\' :: code 'u' :: a :: b :: c :: d :: text)

/-- The ways to write a character behind a backslash: by a short name, by its number, or by two
numbers if it has no number of four digits.
-/
inductive Escapes : Char → List UInt8 → Prop where
  | short {b : UInt8} {c : Char} (names : Reader.shortEscape? b = some c) : Escapes c [b]
  | numbered {a b c d : UInt8} {n : Nat} (number : fourHex? a b c d = some n)
      (valid : n < 0xd800 ∨ 0xdfff < n)
      : Escapes (Char.ofNat n) [code 'u', a, b, c, d]
  | paired {a b c d a' b' c' d' : UInt8} {high low : Nat} (first : fourHex? a b c d = some high)
      (second : fourHex? a' b' c' d' = some low) (isHigh : 0xd800 ≤ high ∧ high ≤ 0xdbff)
      (isLow : 0xdc00 ≤ low ∧ low ≤ 0xdfff)
      : Escapes (Char.ofNat ((high - 0xd800) * 0x400 + (low - 0xdc00) + 0x10000))
          [code 'u', a, b, c, d, code '\\', code 'u', a', b', c', d']

/-- A text behind its opening quote stands for these bytes once its escapes are resolved. -/
inductive Spelled : List UInt8 → List UInt8 → Prop where
  | closed : Spelled [] [code '"']
  | plain {b : UInt8} {bytes text : List UInt8} (plain : isPlain b = true)
      (rest : Spelled bytes text)
      : Spelled (b :: bytes) (b :: text)
  | escaped {c : Char} {mark bytes text : List UInt8} (escapes : Escapes c mark)
      (rest : Spelled bytes text)
      : Spelled (Text.toBytes (String.singleton c) ++ bytes) (code '\\' :: mark ++ text)

/-- What stands for a text, its opening quote included. -/
def Spells (s : String) (value : List UInt8) : Prop :=
  ∃ text, value = code '"' :: text ∧ Spelled (Text.toBytes s) text

-----------------------------------------------------------------------------
-- Values

/-- The parts of a value: besides values themselves a member of a record, and what follows an item
or a member up to the closing bracket.
-/
inductive Part where
  | value
  | member
  | items
  | members

/-- The well-formed parts of JSON texts. Values begin with their first token and end with their
last one.
-/
inductive Written : Part → List UInt8 → Prop where
  | word {word : String} (isWord : word ∈ ["null", "true", "false"]) : Written .value (codes word)
  | number {sign number : List UInt8} (signs : sign = [] ∨ sign = [code '-'])
      (unsigned : Unsigned number)
      : Written .value (sign ++ number)
  | text {text : List UInt8} (quoted : Quoted text) : Written .value (code '"' :: text)
  | emptyList {blank : List UInt8} (isBlank : Blank blank)
      : Written .value (code '[' :: blank ++ [code ']'])
  | list {blank item items : List UInt8} (isBlank : Blank blank) (first : Written .value item)
      (more : Written .items items)
      : Written .value (code '[' :: blank ++ item ++ items)
  | emptyRecord {blank : List UInt8} (isBlank : Blank blank)
      : Written .value (code '{' :: blank ++ [code '}'])
  | record {member members : List UInt8} (first : Written .member member)
      (more : Written .members members)
      : Written .value (code '{' :: member ++ members)
  | member {before name between after value : List UInt8} (isBefore : Blank before)
      (quoted : Quoted name) (isBetween : Blank between) (isAfter : Blank after)
      (valued : Written .value value)
      : Written .member (before ++ code '"' :: name ++ between ++ code ':' :: after ++ value)
  | lastItem {blank : List UInt8} (isBlank : Blank blank)
      : Written .items (blank ++ [code ']'])
  | nextItem {blank before item items : List UInt8} (isBlank : Blank blank)
      (isBefore : Blank before) (next : Written .value item) (more : Written .items items)
      : Written .items (blank ++ code ',' :: before ++ item ++ items)
  | lastMember {blank : List UInt8} (isBlank : Blank blank)
      : Written .members (blank ++ [code '}'])
  | nextMember {blank member members : List UInt8} (isBlank : Blank blank)
      (next : Written .member member) (more : Written .members members)
      : Written .members (blank ++ code ',' :: member ++ members)

/-- A value that is well formed by itself. -/
abbrev IsValue (value : List UInt8) : Prop :=
  Written .value value

/-- What follows a value does not belong to it. Only a number can go on. -/
def Apart (value rest : List UInt8) : Prop :=
  (∃ b ∈ value.head?, b = code '-' ∨ isDigit b = true) → EndsNumber rest

end Caretaker.Json
