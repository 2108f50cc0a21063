import Caretaker.Proofs.Json.Texts
import Caretaker.Proofs.Json.Skipping

/-!
Reading single values of a known kind. Such a reader takes exactly the values that spell something
of its kind, in the sense of `Reader.Takes`.
-/

namespace Caretaker.Json

open Reader

variable {α β : Type} {text rest : List UInt8}

-----------------------------------------------------------------------------
-- Kinds of values

/-- A reader gets a value if and only if one that spells it stands at the front of the text, behind
blanks.
-/
def Reader.Takes (reader : Reader α) (spells : α → List UInt8 → Prop) : Prop :=
  ∀ text a rest, Reads reader text a rest
    ↔ ∃ blank value, text = blank ++ (value ++ rest) ∧ Blank blank ∧ IsValue value
      ∧ Apart value rest ∧ spells a value

/-- At the front of a value a reader gets what this value spells, and the whole of it. -/
theorem Reader.Takes.reads_iff {reader : Reader α} {spells : α → List UInt8 → Prop}
    {blank value rest' : List UInt8} {a : α} (takes : reader.Takes spells) (isBlank : Blank blank)
    (isValue : IsValue value) (apart : Apart value rest)
    : Reads reader (blank ++ (value ++ rest)) a rest' ↔ rest' = rest ∧ spells a value := by
  constructor
  · intro h
    obtain ⟨blank', value', same, isBlank', isValue', apart', spells⟩ := (takes ..).1 h
    obtain ⟨-, rfl, rfl⟩ :=
      isValue.unambiguous isValue' isBlank isBlank' same apart apart'
    exact ⟨rfl, spells⟩
  · rintro ⟨rfl, spells⟩
    exact (takes ..).2 ⟨blank, value, rfl, isBlank, isValue, apart, spells⟩

/-- From a value that stands alone a reader gets what the value spells. -/
theorem Reader.Takes.alone_iff {reader : Reader α} {spells : α → List UInt8 → Prop}
    {value : List UInt8} {a : α} (takes : reader.Takes spells) (isValue : IsValue value)
    : Reads reader value a [] ↔ spells a value := by
  have reads : Reads reader ([] ++ (value ++ [])) a [] ↔ _ := takes.reads_iff .nil isValue nofun
  rwa [List.nil_append, List.append_nil, and_iff_right rfl] at reads

/-- What is made of the values that a reader takes. -/
theorem Reader.Takes.map {reader : Reader α} {spells : α → List UInt8 → Prop} {make : α → β}
    (takes : reader.Takes spells)
    : Reader.Takes (do return make (← reader)) fun b value => ∃ a, spells a value ∧ b = make a := by
  intro text b rest
  rw [Reads.bind_iff]
  simp only [takes text, Reads.pure_iff]
  constructor
  · rintro ⟨a, _, ⟨blank, value, same, isBlank, isValue, apart, spells⟩, rfl, rfl⟩
    exact ⟨blank, value, same, isBlank, isValue, apart, a, spells, rfl⟩
  · rintro ⟨blank, value, same, isBlank, isValue, apart, a, spells, rfl⟩
    exact ⟨a, rest, ⟨blank, value, same, isBlank, isValue, apart, spells⟩, rfl, rfl⟩

/-- A reader that gets nothing but what has a property. -/
def Reader.Yields (property : α → Prop) (reader : Reader α) : Prop :=
  ∀ text a rest, Reads reader text a rest → property a

namespace Reader.Yields

variable {property : α → Prop}

theorem pure {a : α} (holds : property a) : Yields property (Pure.pure a) := by
  intro text a' rest h
  obtain ⟨rfl, -⟩ := Reads.pure_iff.1 h
  exact holds

theorem throw {e : Error} : Yields property (MonadExcept.throw e) := nofun

theorem bind {x : Reader β} {f : β → Reader α} (each : ∀ b, Yields property (f b))
    : Yields property (x >>= f) := by
  intro text a rest h
  obtain ⟨b, middle, -, h⟩ := Reads.bind_iff.1 h
  exact each b _ _ _ h

end Reader.Yields

-----------------------------------------------------------------------------
-- Numbers

namespace Number

theorem le_foldl_digits {ds : List UInt8} {n : Nat}
    : n ≤ ds.foldl (fun n d => n * 10 + digitValue d) n := by
  induction ds generalizing n with
  | nil => exact Nat.le_refl n
  | cons d ds ih => exact Nat.le_trans (by omega) (ih (n := n * 10 + digitValue d))

/-- All digits are used if and only if their number is within the limit, by induction over the
digits.
-/
theorem absorb_eq_nil_iff {limit n m : Nat} {ds : List UInt8} (within : n ≤ limit)
    : absorb limit n ds = (m, [])
      ↔ m = ds.foldl (fun n d => n * 10 + digitValue d) n ∧ m ≤ limit := by
  induction ds generalizing n with
  | nil =>
    simp only [absorb, List.foldl_nil, Prod.mk.injEq, and_true]
    omega
  | cons d ds ih =>
    rw [absorb, List.foldl_cons]
    split
    case isTrue fits => exact ih fits
    case isFalse exceeds =>
      refine iff_of_false (by simp) ?_
      rintro ⟨rfl, small⟩
      exact exceeds (Nat.le_trans le_foldl_digits small)

/-- Numbers with a point or an exponent are floating-point numbers. -/
def IsReal (number : Number) : Prop :=
  ∀ n, number ≠ .whole n

theorem isReal_signed {negative : Bool} {x : Float} : IsReal (signed negative x) := nofun

theorem exponentPart_yields {negative : Bool} {n : Nat} {exponent : Int}
    : (exponentPart negative n exponent).Yields IsReal := by
  unfold exponentPart
  dsimp only
  repeat' first
    | exact .throw
    | exact .pure isReal_signed
    | refine .bind fun _ => ?_
    | split

theorem fractionPart_yields {negative : Bool} {n : Nat} {exponent : Int}
    : (fractionPart negative n exponent).Yields IsReal := by
  unfold fractionPart
  refine .bind fun _ => .bind fun ds => ?_
  cases ds with
  | nil =>
    refine .bind fun next => ?_
    split <;> exact .throw
  | cons d ds =>
    refine .bind fun marked => ?_
    split
    · exact exponentPart_yields
    · exact .bind fun x => .pure isReal_signed

/-- No whole number behind a minus sign is zero or more: minus zero is a floating-point number. -/
theorem read_negative_yields
    : (read true).Yields fun number => ∀ n, number = .whole n → n < 0 := by
  have real {number : Number} (isReal : IsReal number) (n : Int) (same : number = .whole n)
      : n < 0 := absurd same (isReal n)
  have ofReal {reader : Reader Number} (yields : reader.Yields IsReal)
      : reader.Yields fun number => ∀ n, number = .whole n → n < 0 :=
    fun text number rest h => real (yields text number rest h)
  have wholes {digits : Nat} (n : Int) (same : ofWhole true digits = .whole n) : n < 0 := by
    unfold ofWhole at same
    simp only [if_pos] at same
    split at same
    · exact absurd same (isReal_signed n)
    · cases same
      simp only [Bool.or_eq_true, decide_eq_true_eq] at *
      omega
  unfold read
  refine .bind fun ds => ?_
  dsimp only
  repeat' first
    | exact .throw
    | exact .pure wholes
    | exact .pure (real isReal_signed)
    | exact ofReal fractionPart_yields
    | exact ofReal exponentPart_yields
    | refine .bind fun _ => ?_
    | split

theorem atExponent_reads_iff {found : Bool}
    : Reads atExponent text found rest
      ↔ rest = text ∧ found = text.head?.any fun b => b = code 'e' || b = code 'E' := by
  rw [atExponent, Reads.peek_bind_iff]
  cases text with
  | nil => exact Reads.pure_iff.trans and_comm
  | cons b text => exact Reads.pure_iff.trans and_comm

theorem not_padded_iff {ds : List UInt8} (digits : Digits ds)
    : ¬ (decide (ds.head? = some (code '0')) && decide (1 < ds.length)) = true ↔ Whole ds := by
  have some : 0 < ds.length := List.length_pos_iff.2 digits.1
  simp only [Bool.and_eq_true, decide_eq_true_eq, Whole, and_iff_right digits]
  constructor
  · intro unpadded zero
    have := mt (And.intro zero) unpadded
    omega
  · rintro leading ⟨zero, longer⟩
    have := leading zero
    omega

/-- Only decimals that nothing carries on are read as whole numbers. -/
theorem decimal_of_read {n : Int} (h : Reads (read false) text (.whole n) rest)
    : ∃ ds m, text = ds ++ rest ∧ Decimal m ds ∧ m ≤ wholeLimit ∧ EndsNumber rest ∧ n = m := by
  rw [read, Reads.digits_bind_iff] at h
  have whole : text = text.takeWhile isDigit ++ text.dropWhile isDigit :=
    List.takeWhile_append_dropWhile.symm
  have allDigits : ∀ d ∈ text.takeWhile isDigit, isDigit d = true :=
    List.all_eq_true.1 List.all_takeWhile
  have ends : ∀ b ∈ (text.dropWhile isDigit).head?, isDigit b = false := by
    intro b next
    have stops := List.head?_dropWhile_not isDigit text
    rw [Option.mem_def.1 next] at stops
    simpa using stops
  generalize text.takeWhile isDigit = digits at h whole allDigits
  generalize text.dropWhile isDigit = behind at h whole ends
  cases digits with
  | nil =>
    rw [Reads.peek_bind_iff] at h
    split at h <;> exact absurd h Reads.not_throw
  | cons d ds =>
    dsimp only at h
    split at h
    case isTrue => exact absurd h Reads.not_throw_bind
    case isFalse unpadded =>
      rw [Reads.peek_bind_iff] at h
      split at h
      case isTrue => exact absurd rfl (fractionPart_yields _ _ _ h n)
      case isFalse noPoint =>
        obtain ⟨found, middle, mark, h⟩ := Reads.bind_iff.1 h
        obtain ⟨rfl, isMark⟩ := atExponent_reads_iff.1 mark
        cases found with
        | true =>
          rw [if_pos rfl] at h
          exact absurd rfl (exponentPart_yields _ _ _ h n)
        | false =>
          rw [if_neg Bool.false_ne_true] at h
          split at h
          case isTrue all =>
            obtain ⟨same, rfl⟩ := Reads.pure_iff.1 h
            have absorbed : absorb wholeLimit 0 (d :: ds)
                = ((absorb wholeLimit 0 (d :: ds)).1, []) :=
              Prod.ext rfl (List.isEmpty_iff.1 all)
            obtain ⟨value, small⟩ := (absorb_eq_nil_iff (Nat.zero_le _)).1 absorbed
            have isWhole := (not_padded_iff ⟨List.cons_ne_nil d ds, allDigits⟩).1 unpadded
            refine ⟨d :: ds, _, whole, ⟨isWhole, value.symm⟩, small, ?_, Number.whole.inj same⟩
            intro b next
            have noPoint' : b ≠ code '.' := by
              rintro rfl
              exact noPoint next
            rw [Option.mem_def.1 next] at isMark
            simp at isMark
            exact ⟨ends b next, noPoint', isMark.1, isMark.2⟩
          case isFalse =>
            obtain ⟨x, _, -, h⟩ := Reads.bind_iff.1 h
            cases (Reads.pure_iff.1 h).1

/-- A decimal that nothing carries on is read as a whole number. -/
theorem read_of_decimal {m : Nat} {ds : List UInt8} (decimal : Decimal m ds)
    (small : m ≤ wholeLimit) (ends : EndsNumber rest)
    : Reads (read false) (ds ++ rest) (.whole m) rest := by
  obtain ⟨isWhole, rfl⟩ := decimal
  have digits := isWhole.1
  have unpadded := (not_padded_iff digits).2 isWhole
  have noPoint : ¬ rest.head? = some (code '.') := fun point => (ends _ point).2.1 rfl
  have noMark : Reads atExponent rest false rest := by
    refine atExponent_reads_iff.2 ⟨rfl, ?_⟩
    cases rest with
    | nil => rfl
    | cons b rest =>
      have other := (ends b rfl).2.2
      simp only [List.head?_cons, Option.any_some]
      symm
      simpa using other
  have all := (absorb_eq_nil_iff (Nat.zero_le wholeLimit)).2 ⟨rfl, small⟩
  rw [read, Reads.digits_bind_iff, digits.takeWhile ends.noDigit, digits.dropWhile ends.noDigit]
  obtain ⟨d, tail, rfl, -⟩ := digits.head
  dsimp only
  rw [if_neg unpadded, all]
  dsimp only
  rw [Reads.peek_bind_iff, if_neg noPoint]
  exact noMark.bind (Reads.pure_iff.2 ⟨rfl, rfl⟩)

end Number

theorem Decimal.isValue {n : Nat} {ds : List UInt8} (decimal : Decimal n ds) : IsValue ds :=
  .number (.inl rfl) ⟨ds, [], [], by simp, decimal.1, .none, .none⟩

theorem Decimal.head {n : Nat} {ds : List UInt8} (decimal : Decimal n ds)
    : ∃ d tail, ds = d :: tail ∧ isDigit d = true :=
  decimal.1.1.head

theorem within_reads_iff {limit n : Nat} {expected : String} {number : Number}
    : Reads (within limit expected number) text n rest
      ↔ number = .whole n ∧ n ≤ limit ∧ rest = text := by
  cases number with
  | real x => exact iff_of_false Reads.not_throw fun h => Number.noConfusion h.1
  | whole i =>
    unfold within
    simp only [Number.whole.injEq]
    split
    case isTrue fits =>
      simp only [Bool.and_eq_true, decide_eq_true_eq] at fits
      rw [Reads.pure_iff, ← and_assoc]
      exact and_congr_left fun _ => by omega
    case isFalse exceeds =>
      simp only [Bool.and_eq_true, decide_eq_true_eq] at exceeds
      refine iff_of_false Reads.not_throw ?_
      rintro ⟨rfl, small, -⟩
      omega

theorem not_refuse {expected : String} {a : α} : ¬ Reads (refuse expected) text a rest := by
  intro h
  obtain ⟨_, _, -, h⟩ := Reads.bind_iff.1 h
  exact Reads.not_throw h

theorem start_bind_iff {f : UInt8 → Reader α} {a : α}
    : Reads (start >>= f) text a rest
      ↔ ∃ blank b tail, text = blank ++ b :: tail ∧ Blank blank ∧ isBlank b = false
        ∧ Reads (f b) (b :: tail) a rest := by
  rw [Reads.bind_iff]
  simp only [start_reads_iff]
  constructor
  · rintro ⟨b, _, ⟨blank, tail, whole, rfl, isBlank, solid⟩, h⟩
    exact ⟨blank, b, tail, whole, isBlank, solid, h⟩
  · rintro ⟨blank, b, tail, whole, isBlank, solid, h⟩
    exact ⟨b, _, ⟨blank, tail, whole, rfl, isBlank, solid⟩, h⟩

/-- A whole number is one in decimal digits, and no larger than the limit. -/
theorem natural_takes {limit : Nat} {expected : String} (fits : limit ≤ Number.wholeLimit)
    : (natural limit expected).Takes fun n value => n ≤ limit ∧ Decimal n value := by
  intro text n rest
  rw [natural, start_bind_iff]
  constructor
  · rintro ⟨blank, b, tail, rfl, isBlank, solid, h⟩
    split at h
    case isTrue =>
      rw [Reads.advance_bind_iff] at h
      obtain ⟨number, middle, read, h⟩ := Reads.bind_iff.1 h
      obtain ⟨rfl, -, -⟩ := within_reads_iff.1 h
      have negative := Number.read_negative_yields _ _ _ read n rfl
      omega
    case isFalse =>
      split at h
      case isTrue =>
        obtain ⟨number, middle, read, h⟩ := Reads.bind_iff.1 h
        obtain ⟨rfl, small, rfl⟩ := within_reads_iff.1 h
        obtain ⟨ds, m, same, decimal, -, ends, value⟩ := Number.decimal_of_read read
        obtain rfl : n = m := Int.ofNat.inj value
        exact ⟨blank, ds, by rw [same], isBlank, decimal.isValue, fun _ => ends, small, decimal⟩
      case isFalse => exact absurd h not_refuse
  · rintro ⟨blank, value, rfl, isBlank, -, apart, small, decimal⟩
    obtain ⟨d, tail, rfl, digit⟩ := decimal.head
    have ends : EndsNumber rest := apart ⟨d, rfl, .inr digit⟩
    have read := Number.read_of_decimal decimal (Nat.le_trans small fits) ends
    refine ⟨blank, d, tail ++ rest, rfl, isBlank, solid_of_isDigit digit, ?_⟩
    rw [if_neg (ne_of_isDigit digit (by decide)), if_pos digit]
    exact read.bind (within_reads_iff.2 ⟨rfl, small, rfl⟩)

/-- A number of 32 bits is one in decimal digits. -/
theorem word32_takes
    : word32.Takes fun n value => Decimal n.toNat value := by
  intro text n rest
  rw [word32, Reads.bind_iff]
  constructor
  · intro h
    obtain ⟨m, middle, read, h⟩ := h
    obtain ⟨rfl, rfl⟩ := Reads.pure_iff.1 h
    obtain ⟨blank, value, same, isBlank, isValue, apart, small, decimal⟩ :=
      (natural_takes (by decide) ..).1 read
    refine ⟨blank, value, same, isBlank, isValue, apart, ?_⟩
    have fits : m < UInt32.size := Nat.lt_of_le_sub_one (by decide) small
    show Decimal (UInt32.ofNat m).toNat value
    rw [UInt32.toNat_ofNat_of_lt' fits]
    exact decimal
  · rintro ⟨blank, value, rfl, isBlank, isValue, apart, decimal⟩
    refine ⟨n.toNat, rest, (natural_takes (by decide) ..).2
      ⟨blank, value, rfl, isBlank, isValue, apart, ?_, decimal⟩, ?_⟩
    · exact Nat.le_sub_one_of_lt n.toNat_lt
    · exact Reads.pure_iff.2 ⟨(UInt32.ofNat_toNat).symm, rfl⟩

-----------------------------------------------------------------------------
-- Words and names

/-- Only numbers care what follows them. -/
theorem Apart.of_head {b : UInt8} {tail : List UInt8} (noSign : b ≠ code '-')
    (noDigit : isDigit b = false)
    : Apart (b :: tail) rest := by
  rintro ⟨b', first, sign | digit⟩
  all_goals cases first
  · exact absurd sign noSign
  · rw [noDigit] at digit
    cases digit

/-- A truth value is one of two words. -/
theorem flag_takes : flag.Takes fun b value => value = codes (if b then "true" else "false") := by
  intro text b rest
  rw [flag, start_bind_iff]
  constructor
  · rintro ⟨blank, first, tail, rfl, isBlank, solid, h⟩
    split at h
    case isTrue =>
      obtain ⟨_, middle, word, h⟩ := Reads.bind_iff.1 h
      obtain ⟨rfl, rfl⟩ := Reads.pure_iff.1 h
      have whole : first :: tail = codes "true" ++ rest := word_reads_iff.1 word
      exact ⟨blank, codes "true", by rw [whole], isBlank, .word (by simp),
        Apart.of_head (by decide) (by decide), rfl⟩
    case isFalse =>
      split at h
      case isTrue =>
        obtain ⟨_, middle, word, h⟩ := Reads.bind_iff.1 h
        obtain ⟨rfl, rfl⟩ := Reads.pure_iff.1 h
        have whole : first :: tail = codes "false" ++ rest := word_reads_iff.1 word
        exact ⟨blank, codes "false", by rw [whole], isBlank, .word (by simp),
          Apart.of_head (by decide) (by decide), rfl⟩
      case isFalse => exact absurd h not_refuse
  · rintro ⟨blank, value, rfl, isBlank, -, -, rfl⟩
    cases b with
    | true =>
      have word : Reads (word "true".toList) (codes "true" ++ rest) () rest :=
        word_reads_iff.2 rfl
      exact ⟨blank, code 't', _, rfl, isBlank, by decide,
        word.bind (Reads.pure_iff.2 ⟨rfl, rfl⟩)⟩
    | false =>
      have word : Reads (word "false".toList) (codes "false" ++ rest) () rest :=
        word_reads_iff.2 rfl
      exact ⟨blank, code 'f', _, rfl, isBlank, by decide,
        word.bind (Reads.pure_iff.2 ⟨rfl, rfl⟩)⟩

theorem Spells.isValue {s : String} {value : List UInt8} (spells : Spells s value)
    : IsValue value := by
  obtain ⟨spelling, rfl, spelled⟩ := spells
  exact .text spelled.quoted

theorem textAs_reads_iff {expected s : String}
    : Reads (textAs expected) text s rest
      ↔ ∃ blank value, text = blank ++ (value ++ rest) ∧ Blank blank ∧ Spells s value := by
  rw [textAs, start_bind_iff]
  constructor
  · rintro ⟨blank, first, tail, rfl, isBlank, -, h⟩
    split at h
    case isTrue isQuote =>
      rw [Reads.advance_bind_iff, List.tail_cons] at h
      obtain ⟨spelling, rfl, spelled⟩ := textBody_reads_iff.1 h
      exact ⟨blank, first :: spelling, rfl, isBlank, spelling, by rw [isQuote], spelled⟩
    case isFalse => exact absurd h not_refuse
  · rintro ⟨blank, _, rfl, isBlank, spelling, rfl, spelled⟩
    refine ⟨blank, code '"', spelling ++ rest, rfl, isBlank, by decide, ?_⟩
    rw [if_pos rfl, Reads.advance_bind_iff, List.tail_cons]
    exact textBody_reads_iff.2 ⟨spelling, rfl, spelled⟩

/-- A text is what stands for one between quotes. -/
theorem text_takes : Reader.text.Takes Spells := by
  intro text s rest
  rw [Reader.text, textAs_reads_iff]
  constructor
  · rintro ⟨blank, value, rfl, isBlank, spells⟩
    have isValue := spells.isValue
    obtain ⟨spelling, rfl, spelled⟩ := spells
    exact ⟨blank, _, rfl, isBlank, isValue, .of_head (by decide) (by decide),
      spelling, rfl, spelled⟩
  · rintro ⟨blank, value, rfl, isBlank, -, -, spells⟩
    exact ⟨blank, value, rfl, isBlank, spells⟩

/-- The values that stand for something that may be left open. -/
def SpellsOptional (spells : α → List UInt8 → Prop) : Option α → List UInt8 → Prop
  | none, value => value = codes "null"
  | some a, value => spells a value

/-- A value may be left open if none that stands for something begins like the word for that. -/
theorem optional_takes {reader : Reader α} {spells : α → List UInt8 → Prop}
    (takes : reader.Takes spells)
    (other : ∀ a value, spells a value → value.head? ≠ some (code 'n'))
    : (Reader.optional reader).Takes (SpellsOptional spells) := by
  intro text found rest
  rw [Reader.optional, Reads.peekPastBlanks_bind_iff]
  constructor
  · intro h
    split at h
    case isTrue isWord =>
      obtain ⟨b, tail, stands⟩ : ∃ b tail, text.dropWhile isBlank = b :: tail := by
        cases stands : text.dropWhile isBlank with
        | nil => simp [stands] at isWord
        | cons b tail => exact ⟨b, tail, rfl⟩
      obtain ⟨blank, rfl, isBlank, -⟩ := eq_blank_append_of_dropWhile stands
      rw [stands] at h
      obtain ⟨_, middle, word, h⟩ := Reads.bind_iff.1 h
      obtain ⟨rfl, rfl⟩ := Reads.pure_iff.1 h
      have whole : b :: tail = codes "null" ++ rest := word_reads_iff.1 word
      exact ⟨blank, codes "null", by rw [whole], isBlank, .word (by simp),
        .of_head (by decide) (by decide), rfl⟩
    case isFalse =>
      obtain ⟨a, middle, read, h⟩ := Reads.bind_iff.1 h
      obtain ⟨rfl, rfl⟩ := Reads.pure_iff.1 h
      obtain ⟨blank, value, same, isBlank, isValue, apart, spelled⟩ := (takes ..).1 read
      refine ⟨text.takeWhile Json.isBlank ++ blank, value, ?_, ?_, isValue, apart, spelled⟩
      · rw [List.append_assoc, ← same, List.takeWhile_append_dropWhile]
      · intro b member
        rcases List.mem_append.1 member with member | member
        · exact List.all_eq_true.1 List.all_takeWhile b member
        · exact isBlank b member
  · rintro ⟨blank, value, rfl, isBlank, isValue, apart, spelled⟩
    obtain ⟨b, tail, rfl, solid, -⟩ := isValue.head
    rw [List.cons_append, isBlank.dropWhile_cons solid, List.head?_cons]
    cases found with
    | none =>
      have word : Reads (word "null".toList) (b :: tail ++ rest) () rest :=
        word_reads_iff.2 (congrArg (· ++ rest) spelled)
      have isWord : b :: tail = code 'n' :: codes "ull" := spelled
      rw [(List.cons.inj isWord).1, if_pos rfl, ← (List.cons.inj isWord).1]
      exact word.bind (Reads.pure_iff.2 ⟨rfl, rfl⟩)
    | some a =>
      have noWord : some b ≠ some (code 'n') := other a _ spelled
      rw [if_neg noWord]
      have read := (takes ..).2 ⟨[], b :: tail, rfl, .nil, isValue, apart, spelled⟩
      exact read.bind (Reads.pure_iff.2 ⟨rfl, rfl⟩)

theorem colon_reads_iff {u : Unit}
    : Reads colon text u rest ↔ ∃ blank, text = blank ++ code ':' :: rest ∧ Blank blank := by
  rw [colon, Reads.peekPastBlanks_bind_iff]
  constructor
  · intro h
    cases stands : text.dropWhile isBlank with
    | nil =>
      rw [stands] at h
      exact absurd h Reads.not_throw
    | cons b tail =>
      rw [stands, List.head?_cons] at h
      dsimp only at h
      split at h
      case isTrue isColon =>
        obtain rfl := Reads.advance_iff.1 h
        obtain ⟨blank, rfl, isBlank, -⟩ := eq_blank_append_of_dropWhile stands
        exact ⟨blank, by rw [isColon], isBlank⟩
      case isFalse => exact absurd h Reads.not_throw
  · rintro ⟨blank, rfl, isBlank⟩
    rw [isBlank.dropWhile_cons (by decide)]
    exact Reads.advance_iff.2 rfl

theorem null_reads_iff {u : Unit}
    : Reads null text u rest ↔ ∃ blank, text = blank ++ (codes "null" ++ rest) ∧ Blank blank := by
  rw [null, start_bind_iff]
  constructor
  · rintro ⟨blank, first, tail, rfl, isBlank, -, h⟩
    split at h
    case isTrue =>
      have whole : first :: tail = codes "null" ++ rest := word_reads_iff.1 h
      exact ⟨blank, by rw [whole], isBlank⟩
    case isFalse => exact absurd h not_refuse
  · rintro ⟨blank, rfl, isBlank⟩
    have word : Reads (word "null".toList) (codes "null" ++ rest) () rest := word_reads_iff.2 rfl
    exact ⟨blank, code 'n', _, rfl, isBlank, by decide, word⟩

theorem named_reads_iff {cases : List (String × α)} {name : String} {a : α}
    : Reads (named cases name) text a rest ↔ cases.lookup name = some a ∧ rest = text := by
  unfold named
  split
  case h_1 a' found => simp only [Reads.pure_iff, found, Option.some.injEq, eq_comm]
  case h_2 none =>
    rw [none]
    exact iff_of_false Reads.not_throw (fun h => Option.some_ne_none a h.1.symm)

/-- One of several named values, written as its name or as a record with nothing but its name. -/
inductive Chosen (cases : List (String × α)) : α → List UInt8 → Prop where
  | name {name : String} {a : α} {value : List UInt8} (names : cases.lookup name = some a)
      (spells : Spells name value)
      : Chosen cases a value
  | alone {name : String} {a : α} {before value between after behind : List UInt8}
      (names : cases.lookup name = some a) (isBefore : Blank before) (spells : Spells name value)
      (isBetween : Blank between) (isAfter : Blank after) (isBehind : Blank behind)
      : Chosen cases a
          (code '{' :: (before ++ (value ++ (between ++ code ':' ::
            (after ++ (codes "null" ++ (behind ++ [code '}'])))))))

theorem Chosen.isValue {cases : List (String × α)} {a : α} {value : List UInt8}
    (chosen : Chosen cases a value)
    : IsValue value := by
  cases chosen with
  | name _ spells => exact spells.isValue
  | alone _ isBefore spells isBetween isAfter isBehind =>
    obtain ⟨spelling, rfl, spelled⟩ := spells
    have member : Written .member _ :=
      .member isBefore spelled.quoted isBetween isAfter (@Written.word "null" (by simp))
    simpa using Written.record member (.lastMember isBehind)

theorem Chosen.apart {cases : List (String × α)} {a : α} {value : List UInt8}
    (chosen : Chosen cases a value)
    : Apart value rest := by
  cases chosen with
  | name _ spells =>
    obtain ⟨spelling, rfl, -⟩ := spells
    exact .of_head (by decide) (by decide)
  | alone => exact .of_head (by decide) (by decide)

/-- A choice is one of the named values. -/
theorem choice_takes {cases : List (String × α)}
    : (choice cases).Takes (Chosen cases) := by
  intro text a rest
  rw [choice, start_bind_iff]
  constructor
  · rintro ⟨blank, first, tail, rfl, isBlank, -, h⟩
    split at h
    case isTrue isQuote =>
      rw [Reads.advance_bind_iff, List.tail_cons, Reads.bind_iff] at h
      obtain ⟨name, middle, body, h⟩ := h
      obtain ⟨names, rfl⟩ := named_reads_iff.1 h
      obtain ⟨spelling, rfl, spelled⟩ := textBody_reads_iff.1 body
      have chosen : Chosen cases a (first :: spelling) :=
        .name names ⟨spelling, by rw [isQuote], spelled⟩
      exact ⟨blank, _, rfl, isBlank, chosen.isValue, chosen.apart, chosen⟩
    case isFalse =>
      split at h
      case isTrue isBrace =>
        rw [Reads.advance_bind_iff, List.tail_cons, Reads.bind_iff] at h
        obtain ⟨name, _, isText, h₁⟩ := h
        obtain ⟨before, value, rfl, isBefore, spells⟩ := textAs_reads_iff.1 isText
        obtain ⟨a', _, isNamed, h₂⟩ := Reads.bind_iff.1 h₁
        obtain ⟨names, rfl⟩ := named_reads_iff.1 isNamed
        obtain ⟨_, _, isColon, h₃⟩ := Reads.bind_iff.1 h₂
        obtain ⟨between, rfl, isBetween⟩ := colon_reads_iff.1 isColon
        obtain ⟨_, _, isNull, h₄⟩ := Reads.bind_iff.1 h₃
        obtain ⟨after, rfl, isAfter⟩ := null_reads_iff.1 isNull
        obtain ⟨behind, last, tail, rfl, isBehind, -, h₅⟩ := start_bind_iff.1 h₄
        split at h₅
        case isTrue closes =>
          rw [Reads.advance_bind_iff, List.tail_cons] at h₅
          obtain ⟨rfl, rfl⟩ := Reads.pure_iff.1 h₅
          have chosen := Chosen.alone names isBefore spells isBetween isAfter isBehind
          exact ⟨blank, _, by simp [isBrace, closes], isBlank, chosen.isValue, chosen.apart, chosen⟩
        case isFalse => exact absurd h₅ Reads.not_throw
      case isFalse => exact absurd h Reads.not_throw
  · rintro ⟨blank, value, rfl, isBlank, -, -, chosen⟩
    cases chosen with
    | @name name _ _ names spells =>
      obtain ⟨spelling, rfl, spelled⟩ := spells
      refine ⟨blank, code '"', spelling ++ rest, rfl, isBlank, by decide, ?_⟩
      rw [if_pos rfl, Reads.advance_bind_iff, List.tail_cons]
      exact (textBody_reads_iff.2 ⟨spelling, rfl, spelled⟩).bind (named_reads_iff.2 ⟨names, rfl⟩)
    | @alone name _ before value between after behind names isBefore spells isBetween isAfter
        isBehind =>
      simp only [List.cons_append, List.append_assoc, List.nil_append]
      refine ⟨blank, code '{', _, rfl, isBlank, by decide, ?_⟩
      rw [if_neg (by decide), if_pos rfl, Reads.advance_bind_iff, List.tail_cons]
      refine (textAs_reads_iff.2 ⟨before, value, rfl, isBefore, spells⟩).bind ?_
      refine (named_reads_iff.2 ⟨names, rfl⟩).bind ?_
      refine (colon_reads_iff.2 ⟨between, rfl, isBetween⟩).bind (a := ()) ?_
      refine (null_reads_iff.2 ⟨after, rfl, isAfter⟩).bind (a := ()) ?_
      refine start_bind_iff.2 ⟨behind, code '}', rest, rfl, isBehind, by decide, ?_⟩
      rw [if_pos rfl, Reads.advance_bind_iff, List.tail_cons]
      exact Reads.pure_iff.2 ⟨rfl, rfl⟩

end Caretaker.Json
