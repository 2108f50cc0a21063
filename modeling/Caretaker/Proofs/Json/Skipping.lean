import Mathlib.Data.List.DropRight
import Caretaker.Proofs.Json.Reading

/-!
Passing over values. Whatever is well formed is passed over, to any depth, and nothing behind it is
touched. So where a value ends is no matter of taste: no text begins with two values.
-/

namespace Caretaker.Json

open Reader

variable {text rest : List UInt8}

-----------------------------------------------------------------------------
-- Texts and numbers

/-- A text is passed over by induction over its parts, each of which takes one round. -/
theorem Quoted.skipTextIn_reads {spelling rounds : List UInt8} (quoted : Quoted spelling)
    (enough : spelling.length ≤ rounds.length)
    : Reads (skipTextIn rounds) (spelling ++ rest) () rest := by
  induction quoted generalizing rounds with
  | closed =>
    cases rounds with
    | cons _ rounds =>
      rw [skipTextIn]
      simp
    | nil => exact absurd enough (by simp)
  | plain plain _ ih =>
    cases rounds with
    | cons _ rounds =>
      rw [List.length_cons, List.length_cons] at enough
      obtain ⟨open_, escapes, control⟩ := of_isPlain plain
      rw [skipTextIn]
      simp only [List.cons_append, Reads.peek_bind_iff, List.head?_cons, Reads.advance_bind_iff,
        List.tail_cons, if_neg open_, if_neg escapes, if_neg control]
      exact ih (by omega)
    | nil => exact absurd enough (by simp)
  | @short b _ escapes _ ih =>
    cases rounds with
    | cons _ rounds =>
      simp only [List.length_cons] at enough
      rw [skipTextIn]
      have notNumber : b ≠ code 'u' := ne_u_of_shortEscape escapes
      simp only [List.cons_append, Reads.peek_bind_iff, List.head?_cons, Reads.advance_bind_iff,
        List.tail_cons, if_neg (show code '\\' ≠ code '"' by decide), if_pos,
        if_neg notNumber, if_pos escapes]
      exact ih (by omega)
    | nil => exact absurd enough (by simp)
  | @numbered a b c d _ escapes _ ih =>
    cases rounds with
    | cons _ rounds =>
      simp only [List.length_cons] at enough
      obtain ⟨n, number⟩ := Option.isSome_iff_exists.1 escapes
      rw [skipTextIn]
      simp only [List.cons_append, Reads.peek_bind_iff, List.head?_cons, Reads.advance_bind_iff,
        List.tail_cons, if_neg (show code '\\' ≠ code '"' by decide), if_pos]
      exact Reads.hexEscape_bind_iff.2 ⟨a, b, c, d, n, _, rfl, number, ih (by omega)⟩
    | nil => exact absurd enough (by simp)

theorem Digits.takeWhile {ds : List UInt8} (digits : Digits ds)
    (ends : ∀ b ∈ rest.head?, isDigit b = false)
    : (ds ++ rest).takeWhile isDigit = ds := by
  rw [List.takeWhile_append_of_pos digits.2]
  cases rest with
  | nil => simp
  | cons b rest => simp [ends b rfl]

theorem Digits.dropWhile {ds : List UInt8} (digits : Digits ds)
    (ends : ∀ b ∈ rest.head?, isDigit b = false)
    : (ds ++ rest).dropWhile isDigit = rest := by
  rw [List.dropWhile_append_of_pos digits.2]
  cases rest with
  | nil => simp
  | cons b rest => simp [ends b rfl]

theorem Digits.skipDigits_reads {ds : List UInt8} (digits : Digits ds)
    (ends : ∀ b ∈ rest.head?, isDigit b = false)
    : Reads skipDigits (ds ++ rest) () rest := by
  rw [skipDigits, Reads.digits_bind_iff, digits.takeWhile ends, digits.dropWhile ends]
  simp [digits.1]

theorem EndsNumber.noDigit (ends : EndsNumber rest)
    : ∀ b ∈ rest.head?, isDigit b = false :=
  fun b next => (ends b next).1

/-- Digits are neither signs nor marks. -/
theorem Digits.head {ds : List UInt8} (digits : Digits ds)
    : ∃ d tail, ds = d :: tail ∧ isDigit d = true := by
  match ds, digits with
  | d :: tail, digits => exact ⟨d, tail, rfl, digits.2 d (by simp)⟩

theorem ne_of_isDigit {b other : UInt8} (digit : isDigit b = true) (none : isDigit other = false)
    : b ≠ other := by
  rintro rfl
  rw [digit] at none
  cases none

theorem Exponent.skipExponent_reads {exponent : List UInt8} (isExponent : Exponent exponent)
    (ends : EndsNumber rest)
    : Reads skipExponent (exponent ++ rest) () rest := by
  rw [skipExponent, Reads.peek_bind_iff]
  cases isExponent with
  | none =>
    cases rest with
    | nil => simp
    | cons b rest =>
      obtain ⟨-, -, small, capital⟩ := ends b rfl
      have unmarked : ¬ (decide (b = code 'e') || decide (b = code 'E')) = true := by
        simpa using ⟨small, capital⟩
      simp only [List.nil_append, List.head?_cons, if_neg unmarked, Reads.pure_iff, and_self]
  | @some mark sign ds marks signs digits =>
    have marked : (decide (mark = code 'e') || decide (mark = code 'E')) = true := by
      simpa using marks
    have skips := digits.skipDigits_reads ends.noDigit
    obtain ⟨d, tail, rfl, digit⟩ := digits.head
    have unsigned : ¬ (decide (d = code '+') || decide (d = code '-')) = true := by
      simpa using ⟨ne_of_isDigit digit (by decide), ne_of_isDigit digit (by decide)⟩
    simp only [List.cons_append, List.append_assoc, List.head?_cons, if_pos marked,
      Reads.advance_bind_iff, List.tail_cons, Reads.peek_bind_iff]
    rcases signs with rfl | rfl | rfl
    · simpa only [List.nil_append, List.cons_append, List.head?_cons, if_neg unsigned] using skips
    · simpa using skips
    · simpa using skips

/-- The part of a number behind its first digits begins with no digit. -/
theorem Exponent.endsDigits {exponent : List UInt8} (isExponent : Exponent exponent)
    (ends : EndsNumber rest)
    : ∀ b ∈ (exponent ++ rest).head?, isDigit b = false ∧ b ≠ code '.' := by
  cases isExponent with
  | none => exact fun b next => ⟨(ends b next).1, (ends b next).2.1⟩
  | some marks =>
    intro b next
    cases next
    rcases marks with rfl | rfl <;> decide

theorem Unsigned.skipNumber_reads {number : List UInt8} (isNumber : Unsigned number)
    (ends : EndsNumber rest)
    : Reads skipNumber (number ++ rest) () rest := by
  obtain ⟨whole, fraction, exponent, rfl, ⟨digits, leading⟩, isFraction, isExponent⟩ := isNumber
  have endsFraction := isExponent.endsDigits ends
  have endsWhole : ∀ b ∈ (fraction ++ (exponent ++ rest)).head?, isDigit b = false := by
    cases isFraction with
    | none => exact fun b next => (endsFraction b next).1
    | some => 
      intro b next
      cases next
      decide
  have unpadded
      : ¬ (decide (whole.head? = some (code '0')) && decide (1 < whole.length)) = true := by
    simp only [Bool.and_eq_true, decide_eq_true_eq]
    intro padded
    have := leading padded.1
    omega
  rw [skipNumber, Reads.digits_bind_iff, List.append_assoc, List.append_assoc,
    digits.takeWhile endsWhole, digits.dropWhile endsWhole]
  obtain ⟨d, tail, rfl, -⟩ := digits.head
  simp only [if_neg unpadded, Reads.peek_bind_iff]
  cases isFraction with
  | none =>
    have noPoint : ¬ (exponent ++ rest).head? = some (code '.') := fun point =>
      (endsFraction _ point).2 rfl
    simp only [List.nil_append, if_neg noPoint]
    exact isExponent.skipExponent_reads ends
  | some fractionDigits =>
    have endsDigits : ∀ b ∈ (exponent ++ rest).head?, isDigit b = false :=
      fun b next => (endsFraction b next).1
    simp only [List.cons_append, List.head?_cons, if_pos, Reads.advance_bind_iff, List.tail_cons]
    exact (fractionDigits.skipDigits_reads endsDigits).bind (isExponent.skipExponent_reads ends)

-----------------------------------------------------------------------------
-- Values

theorem solid_of_isDigit {b : UInt8} (digit : isDigit b = true) : isBlank b = false := by
  have notBlank {other : UInt8} (none : isDigit other = false) : b ≠ other :=
    ne_of_isDigit digit none
  simp only [isBlank, Bool.or_eq_false_iff, decide_eq_false_iff_not]
  exact ⟨⟨⟨notBlank rfl, notBlank rfl⟩, notBlank rfl⟩, notBlank rfl⟩

theorem Unsigned.head {number : List UInt8} (isNumber : Unsigned number)
    : ∃ d tail, number = d :: tail ∧ isDigit d = true := by
  obtain ⟨whole, fraction, exponent, rfl, ⟨digits, -⟩, -, -⟩ := isNumber
  obtain ⟨d, tail, rfl, digit⟩ := digits.head
  exact ⟨d, _, rfl, digit⟩

/-- A value begins with a byte that is no blank and closes no bracket. -/
theorem IsValue.head {value : List UInt8} (isValue : IsValue value)
    : ∃ b tail, value = b :: tail ∧ isBlank b = false ∧ b ≠ code ']' := by
  cases isValue with
  | word isWord =>
    simp only [List.mem_cons, List.not_mem_nil, or_false] at isWord
    rcases isWord with rfl | rfl | rfl <;> exact ⟨_, _, rfl, by decide, by decide⟩
  | number signs unsigned =>
    obtain ⟨d, tail, rfl, digit⟩ := unsigned.head
    rcases signs with rfl | rfl
    · exact ⟨d, tail, rfl, solid_of_isDigit digit, ne_of_isDigit digit rfl⟩
    · exact ⟨_, _, rfl, by decide, by decide⟩
  | text | emptyList | list | emptyRecord | record => exact ⟨_, _, rfl, by decide, by decide⟩

theorem another_comma {closing : UInt8} {blank : List UInt8} (isBlank : Blank blank)
    : Reads (another closing) (blank ++ code ',' :: text) true text := by
  rw [another, Reads.peekPastBlanks_bind_iff, isBlank.dropWhile_cons (by decide)]
  simp only [List.head?_cons, if_pos, Reads.advance_bind_iff, Reads.pure_iff, List.tail_cons,
    and_self]

theorem another_closing {closing : UInt8} {blank : List UInt8} (isBlank : Blank blank)
    (solid : Json.isBlank closing = false) (noComma : closing ≠ code ',')
    : Reads (another closing) (blank ++ closing :: text) false text := by
  rw [another, Reads.peekPastBlanks_bind_iff, isBlank.dropWhile_cons solid]
  simp only [List.head?_cons, if_neg noComma, if_pos, Reads.advance_bind_iff, Reads.pure_iff,
    List.tail_cons, and_self]

theorem closesAtOnce_closing {closing : UInt8} {blank : List UInt8} (isBlank : Blank blank)
    (solid : Json.isBlank closing = false)
    : Reads (closesAtOnce closing) (blank ++ closing :: text) true text := by
  rw [closesAtOnce, Reads.peekPastBlanks_bind_iff, isBlank.dropWhile_cons solid]
  simp only [List.head?_cons, if_pos, Reads.advance_bind_iff, Reads.pure_iff, List.tail_cons,
    and_self]

theorem closesAtOnce_other {closing b : UInt8} {blank : List UInt8} (isBlank : Blank blank)
    (solid : Json.isBlank b = false) (other : b ≠ closing)
    : Reads (closesAtOnce closing) (blank ++ b :: text) false (b :: text) := by
  rw [closesAtOnce, Reads.peekPastBlanks_bind_iff, isBlank.dropWhile_cons solid]
  simp only [List.head?_cons, if_neg other, Reads.pure_iff, and_self]

theorem skipName_reads {before name between : List UInt8} (isBefore : Blank before)
    (quoted : Quoted name) (isBetween : Blank between)
    : Reads skipName (before ++ code '"' :: (name ++ (between ++ code ':' :: text))) () text := by
  rw [skipName, Reads.peekPastBlanks_bind_iff, isBefore.dropWhile_cons (by decide)]
  simp only [List.head?_cons, if_pos, Reads.advance_bind_iff, List.tail_cons]
  have passes : Reads skipText (name ++ (between ++ code ':' :: text)) ()
      (between ++ code ':' :: text) :=
    quoted.skipTextIn_reads (by simp)
  refine passes.bind ?_
  rw [Reads.peekPastBlanks_bind_iff, isBetween.dropWhile_cons (by decide)]
  simp

/-- A part is passed over in so many rounds wherever it stands. -/
def Part.Skips (rounds : Nat) (text : List UInt8) : Part → Prop
  | .value => ∀ blank rest, Blank blank → Apart text rest
    → Reads (skipValueIn rounds) (blank ++ (text ++ rest)) () rest
  | .member => ∀ rest, EndsNumber rest
    → Reads (do skipName; skipValueIn rounds) (text ++ rest) () rest
  | .items => ∀ rest,
    Reads (do if ← another (code ']') then skipItems rounds) (text ++ rest) () rest
  | .members => ∀ rest,
    Reads (do if ← another (code '}') then skipMembers rounds) (text ++ rest) () rest

/-- What follows an item or a member goes on with no number. -/
theorem Written.endsNumber {part : Part} {tail rest : List UInt8} (written : Written part tail)
    (follows : part = .items ∨ part = .members)
    : EndsNumber (tail ++ rest) := by
  have ends {blank more : List UInt8} {b : UInt8} (isBlank : Blank blank)
      (other : isDigit b = false ∧ b ≠ code '.' ∧ b ≠ code 'e' ∧ b ≠ code 'E')
      : EndsNumber (blank ++ b :: more) := by
    cases blank with
    | nil =>
      intro b' next
      cases next
      exact other
    | cons b' blank =>
      intro b'' next
      cases next
      have isBlank' := isBlank b' (by simp)
      simp only [Json.isBlank, Bool.or_eq_true, decide_eq_true_eq] at isBlank'
      rcases isBlank' with ((rfl | rfl) | rfl) | rfl <;> decide
  cases written with
  | lastItem isBlank => simpa using ends isBlank (by decide)
  | lastMember isBlank => simpa using ends isBlank (by decide)
  | nextItem isBlank => simpa using ends isBlank (by decide)
  | nextMember isBlank => simpa using ends isBlank (by decide)
  | word | number | text | emptyList | list | emptyRecord | record | member => simp at follows

section Leaves

variable {blank : List UInt8} {rounds : Nat}

theorem skipValueIn_word {word : String} (isWord : word ∈ ["null", "true", "false"])
    (isBlank : Blank blank)
    : Reads (skipValueIn (rounds + 1)) (blank ++ (codes word ++ rest)) () rest := by
  have passes : Reads (Reader.word word.toList) (codes word ++ rest) () rest :=
    word_reads_iff.2 rfl
  rw [skipValueIn, Reads.peekPastBlanks_bind_iff]
  simp only [List.mem_cons, List.not_mem_nil, or_false] at isWord
  rcases isWord with rfl | rfl | rfl
  · rw [show codes "null" = code 'n' :: _ from rfl, List.cons_append] at passes ⊢
    rw [isBlank.dropWhile_cons (by decide)]
    exact passes
  · rw [show codes "true" = code 't' :: _ from rfl, List.cons_append] at passes ⊢
    rw [isBlank.dropWhile_cons (by decide)]
    exact passes
  · rw [show codes "false" = code 'f' :: _ from rfl, List.cons_append] at passes ⊢
    rw [isBlank.dropWhile_cons (by decide)]
    exact passes

theorem skipValueIn_number {sign number : List UInt8} (signs : sign = [] ∨ sign = [code '-'])
    (unsigned : Unsigned number) (isBlank : Blank blank) (ends : EndsNumber rest)
    : Reads (skipValueIn (rounds + 1)) (blank ++ (sign ++ number ++ rest)) () rest := by
  have passes := unsigned.skipNumber_reads ends
  rw [skipValueIn, Reads.peekPastBlanks_bind_iff]
  rcases signs with rfl | rfl
  · obtain ⟨d, tail, rfl, digit⟩ := unsigned.head
    have other {c : UInt8} (none : isDigit c = false) : d ≠ c := ne_of_isDigit digit none
    simp only [List.nil_append, List.cons_append] at passes ⊢
    rw [isBlank.dropWhile_cons (solid_of_isDigit digit)]
    dsimp only [List.head?_cons]
    rw [if_neg (other (by decide)), if_neg (other (by decide)), if_neg (other (by decide)),
      if_neg (other (by decide)), if_pos digit]
    exact passes
  · simp only [List.cons_append]
    rw [isBlank.dropWhile_cons (by decide)]
    exact passes

theorem skipValueIn_text {text : List UInt8} (quoted : Quoted text) (isBlank : Blank blank)
    : Reads (skipValueIn (rounds + 1)) (blank ++ (code '"' :: text ++ rest)) () rest := by
  have passes : Reads skipText (text ++ rest) () rest := quoted.skipTextIn_reads (by simp)
  rw [skipValueIn, Reads.peekPastBlanks_bind_iff, List.cons_append,
    isBlank.dropWhile_cons (by decide)]
  exact passes

/-- Behind the bracket that opens a list stand its items, unless the list is closed at once. -/
theorem skipValueIn_list (isBlank : Blank blank)
    : Reads (skipValueIn (rounds + 1)) (blank ++ code '[' :: text) () rest
      ↔ Reads (do if !(← closesAtOnce (code ']')) then skipItems rounds) text () rest := by
  rw [skipValueIn, Reads.peekPastBlanks_bind_iff, isBlank.dropWhile_cons (by decide)]
  exact .rfl

/-- Behind the brace that opens a record stand its members, unless the record is closed at once. -/
theorem skipValueIn_record (isBlank : Blank blank)
    : Reads (skipValueIn (rounds + 1)) (blank ++ code '{' :: text) () rest
      ↔ Reads (do if !(← closesAtOnce (code '}')) then skipMembers rounds) text () rest := by
  rw [skipValueIn, Reads.peekPastBlanks_bind_iff, isBlank.dropWhile_cons (by decide)]
  exact .rfl

end Leaves

/-- A member begins with the quote of its name. -/
theorem Written.member_head {member : List UInt8} (written : Written .member member)
    : ∃ before tail, member = before ++ code '"' :: tail ∧ Blank before := by
  cases written with
  | @member before name between after value isBefore =>
    exact ⟨before, name ++ between ++ code ':' :: after ++ value, by simp, isBefore⟩

/-- Members are passed over one after the other. -/
theorem skipMembers_reads {member members : List UInt8} {rounds : Nat}
    (first : Part.member.Skips rounds member) (more : Part.members.Skips rounds members)
    (written : Written .members members)
    : Reads (skipMembers (rounds + 1)) (member ++ (members ++ rest)) () rest := by
  obtain ⟨_, middle, name, value⟩ := Reads.bind_iff.1
    (first (members ++ rest) (written.endsNumber (.inr rfl)))
  rw [skipMembers]
  exact name.bind (value.bind (more rest))

/-- The blanks before a name do not matter. -/
theorem skipMembers_dropWhile {rounds : Nat}
    : Reads (skipMembers (rounds + 1)) (text.dropWhile isBlank) () rest
      ↔ Reads (skipMembers (rounds + 1)) text () rest := by
  have same (middle : List UInt8)
      : Reads skipName (text.dropWhile isBlank) () middle ↔ Reads skipName text () middle := by
    rw [skipName, Reads.peekPastBlanks_bind_iff, Reads.peekPastBlanks_bind_iff, 
      List.dropWhile_idempotent]
  rw [skipMembers, Reads.bind_iff, Reads.bind_iff]
  simp only [same]

/-- Every part is passed over, by induction over its structure. A list or a record takes two rounds
for its opening bracket and for each comma, so two for each byte suffice.
-/
theorem Written.skips {part : Part} {text : List UInt8} {rounds : Nat} (written : Written part text)
    (enough : 2 * text.length ≤ rounds)
    : part.Skips rounds text := by
  have nonzero {value : List UInt8} {n : Nat} (isValue : IsValue value)
      (enough : 2 * value.length ≤ n) : ∃ n', n = n' + 1 := by
    obtain ⟨b, tail, rfl, -⟩ := isValue.head
    exact ⟨n - 1, by rw [List.length_cons] at enough; omega⟩
  induction written generalizing rounds with
  | word isWord =>
    intro blank rest isBlank apart
    obtain ⟨rounds, rfl⟩ := nonzero (.word isWord) enough
    exact skipValueIn_word isWord isBlank
  | number signs unsigned =>
    intro blank rest isBlank apart
    obtain ⟨rounds, rfl⟩ := nonzero (.number signs unsigned) enough
    refine skipValueIn_number signs unsigned isBlank (apart ?_)
    obtain ⟨d, tail, rfl, digit⟩ := unsigned.head
    rcases signs with rfl | rfl
    · exact ⟨d, rfl, .inr digit⟩
    · exact ⟨_, rfl, .inl rfl⟩
  | text quoted =>
    intro blank rest isBlank apart
    obtain ⟨rounds, rfl⟩ := nonzero (.text quoted) enough
    exact skipValueIn_text quoted isBlank
  | @emptyList inner isInner =>
    intro blank rest isBlank apart
    obtain ⟨rounds, rfl⟩ := nonzero (.emptyList isInner) enough
    rw [List.cons_append, List.cons_append, skipValueIn_list isBlank, List.append_assoc]
    exact (closesAtOnce_closing isInner (by decide)).bind (Reads.pure_iff.2 ⟨rfl, rfl⟩)
  | @list inner item items isInner first more ihFirst ihMore =>
    intro blank rest isBlank apart
    obtain ⟨rounds, rfl⟩ := nonzero (.list isInner first more) enough
    simp only [List.cons_append, List.length_cons, List.length_append] at enough
    obtain ⟨b, tail, rfl, solid, noBracket⟩ := IsValue.head first
    obtain ⟨rounds, rfl⟩ := nonzero first (n := rounds) (by omega)
    simp only [List.cons_append, List.append_assoc]
    rw [skipValueIn_list isBlank]
    refine (closesAtOnce_other isInner solid noBracket).bind ?_
    rw [Bool.not_false, if_pos rfl, skipItems]
    refine Reads.bind (a := ()) ?_ (ihMore (by omega) rest)
    exact ihFirst (by omega) [] _ .nil fun _ => more.endsNumber (.inl rfl)
  | @emptyRecord inner isInner => 
    intro blank rest isBlank apart
    obtain ⟨rounds, rfl⟩ := nonzero (.emptyRecord isInner) enough
    rw [List.cons_append, List.cons_append, skipValueIn_record isBlank, List.append_assoc]
    exact (closesAtOnce_closing isInner (by decide)).bind (Reads.pure_iff.2 ⟨rfl, rfl⟩)
  | @record member members first more ihFirst ihMore =>
    intro blank rest isBlank apart
    obtain ⟨rounds, rfl⟩ := nonzero (.record first more) enough
    simp only [List.cons_append, List.length_cons, List.length_append] at enough
    obtain ⟨before, tail, rfl, isBefore⟩ := first.member_head
    have some : rounds = rounds - 1 + 1 := by simp at enough; omega
    simp only [List.cons_append, List.append_assoc]
    rw [skipValueIn_record isBlank]
    refine (closesAtOnce_other isBefore (by decide) (by decide)).bind ?_
    have skips : Reads (skipMembers (rounds - 1 + 1))
        (before ++ code '"' :: tail ++ (members ++ rest)) () rest :=
      skipMembers_reads (ihFirst (by omega)) (ihMore (by omega)) more
    rw [← skipMembers_dropWhile, List.append_assoc, List.cons_append,
      isBefore.dropWhile_cons (by decide), ← some] at skips
    rw [Bool.not_false, if_pos rfl]
    exact skips
  | @member before name between after value isBefore quoted isBetween isAfter valued ih =>
    intro rest ends
    simp only [List.length_cons, List.length_append] at enough
    simp only [List.append_assoc, List.cons_append]
    refine (skipName_reads isBefore quoted isBetween).bind ?_
    exact ih (by omega) after rest isAfter fun _ => ends
  | lastItem isBlank =>
    intro rest
    rw [List.append_assoc]
    exact (another_closing isBlank (by decide) (by decide)).bind (Reads.pure_iff.2 ⟨rfl, rfl⟩)
  | @nextItem blank before item items isBlank isBefore next more ihNext ihMore =>
    intro rest
    simp only [List.length_cons, List.length_append] at enough
    simp only [List.append_assoc, List.cons_append]
    refine (another_comma isBlank).bind ?_
    obtain ⟨rounds, rfl⟩ := nonzero next (n := rounds) (by omega)
    rw [if_pos rfl, skipItems]
    refine Reads.bind (a := ()) ?_ (ihMore (by omega) rest)
    exact ihNext (by omega) before _ isBefore fun _ => more.endsNumber (.inl rfl)
  | lastMember isBlank =>
    intro rest
    rw [List.append_assoc]
    exact (another_closing isBlank (by decide) (by decide)).bind (Reads.pure_iff.2 ⟨rfl, rfl⟩)
  | @nextMember blank member members isBlank next more ihNext ihMore =>
    intro rest
    simp only [List.length_cons, List.length_append] at enough
    simp only [List.append_assoc, List.cons_append]
    refine (another_comma isBlank).bind ?_
    obtain ⟨before, tail, rfl, isBefore⟩ := next.member_head
    have some : rounds = rounds - 1 + 1 := by simp at enough; omega
    rw [if_pos rfl, some]
    exact skipMembers_reads (ihNext (by omega)) (ihMore (by omega)) more

-----------------------------------------------------------------------------
-- Where values end

/-- A value is passed over, with the blanks before it and nothing behind it. -/
theorem IsValue.skipValue_reads {blank value : List UInt8} (isValue : IsValue value)
    (isBlank : Blank blank) (apart : Apart value rest)
    : Reads skipValue (blank ++ (value ++ rest)) () rest := by
  rw [skipValue, Reads.get_bind_iff]
  exact Written.skips isValue (by simp; omega) blank rest isBlank apart

/-- No text begins with two values: what is passed over is the same for both. -/
theorem IsValue.unambiguous {blank blank' value value' rest' : List UInt8} (one : IsValue value)
    (other : IsValue value') (isBlank : Blank blank) (isBlank' : Blank blank')
    (same : blank ++ (value ++ rest) = blank' ++ (value' ++ rest')) (apart : Apart value rest)
    (apart' : Apart value' rest')
    : blank = blank' ∧ value = value' ∧ rest = rest' := by
  have skips := one.skipValue_reads isBlank apart
  rw [same] at skips
  obtain rfl := (skips.unique (other.skipValue_reads isBlank' apart')).2
  obtain ⟨b, tail, rfl, solid, -⟩ := one.head
  obtain ⟨b', tail', rfl, solid', -⟩ := other.head
  have behind := congrArg (List.dropWhile Json.isBlank) same
  rw [List.cons_append, List.cons_append, isBlank.dropWhile_cons solid,
    isBlank'.dropWhile_cons solid', ← List.cons_append, ← List.cons_append] at behind
  obtain same' := List.append_cancel_right behind
  rw [same'] at same
  exact ⟨List.append_cancel_right same, same', rfl⟩

end Caretaker.Json
