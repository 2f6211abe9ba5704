import SqlShape.Double.Text
import SqlShape.Proofs.Scanner

/-!
# Written numbers

Integers and finite doubles are written as numerals: a digit, then digits, a point and an exponent, with a minus sign
before the first digit where the number is negative. A numeral is one token and its sign another one.
-/

namespace SqlShape

namespace Scanner

variable {d : Dialect}

/-- A character of a written number. -/
def isNumeralChar (c : Char) : Bool :=
  isWordPart c || c == '.' || c == '-'

/-- Written numbers have no quote marks. -/
theorem unquoted_of_isNumeralChar {c : Char} (numeral : isNumeralChar c = true) : isQuoteMark d c = false := by
  have quotes : ∀ c, isQuoteMark d c = true → isNumeralChar c = false := by
    intro c mark
    simp only [isQuoteMark, Bool.or_eq_true, beq_iff_eq] at mark
    rcases mark with (rfl | rfl) | rfl
    · cases d <;> decide
    · cases d <;> decide
    · decide
  cases mark : isQuoteMark d c with
  | false => rfl
  | true =>
    rw [quotes c mark] at numeral
    cases numeral

theorem isNumeralChar_of_isDigit {c : Char} (digit : c.isDigit = true) : isNumeralChar c = true := by
  simp only [isNumeralChar, isWordPart, digit, Bool.or_true, Bool.true_or]

theorem isWordPart_of_isDigit {c : Char} (digit : c.isDigit = true) : isWordPart c = true := by
  simp only [isWordPart, digit, Bool.or_true, Bool.true_or]

/-- A digit begins a number. -/
theorem begins_digit {c : Char} (digit : c.isDigit = true) : begins d c = .number [c] := by
  have blank : c.isWhitespace = false := by
    cases white : c.isWhitespace with
    | false => rfl
    | true =>
      simp only [Char.isWhitespace, Bool.or_eq_true, decide_eq_true_eq] at white
      rcases white with ((rfl | rfl) | rfl) | rfl <;> revert digit <;> decide
  have unquoted := unquoted_of_isNumeralChar (d := d) (isNumeralChar_of_isDigit digit)
  simp only [isQuoteMark, Bool.or_eq_false_iff, beq_eq_false_iff_ne] at unquoted
  simp only [begins, blank, Bool.false_eq_true, unquoted.1.1, unquoted.2, digit, if_true, if_false]

/-- An unsigned number: a digit, and characters of written numbers with which it goes on in every dialect. -/
structure Numeral (text : List Char) : Prop where
  chars : ∀ c ∈ text, isNumeralChar c = true
  started : ∃ c rest, text = c :: rest ∧ c.isDigit = true ∧ ∀ d, run d (.number [c]) rest = ([], .number text)

/-- Digits and points after a digit. -/
theorem numeral_of_digits {c : Char} {rest : List Char} (digit : c.isDigit = true)
    (parts : ∀ c ∈ rest, c.isDigit = true ∨ c = '.') : Numeral (c :: rest) := by
  have goes : ∀ d, run d (.number [c]) rest = ([], .number (c :: rest)) := fun d =>
    run_number fun c member => (parts c member).imp isWordPart_of_isDigit id
  refine ⟨List.forall_mem_cons.mpr ⟨isNumeralChar_of_isDigit digit, fun c member => ?_⟩, c, rest, rfl, digit, goes⟩
  rcases parts c member with digit | rfl
  · exact isNumeralChar_of_isDigit digit
  · decide

/-- A numeral is one token. -/
theorem Numeral.scan {text : List Char} (numeral : Numeral text) :
    d.scan text = some [.number (String.ofList text)] := by
  obtain ⟨c, rest, rfl, digit, goes⟩ := numeral.started
  rw [scan_eq_some, run_first, begins_digit digit, goes d]
  exact ⟨rfl, rfl⟩

/-- A minus sign before a numeral is a token of its own. -/
theorem Numeral.scan_negative {text : List Char} (numeral : Numeral text) :
    d.scan ('-' :: text) = some [.symbol "-", .number (String.ofList text)] := by
  obtain ⟨c, rest, rfl, digit, goes⟩ := numeral.started
  have begun : begins d '-' = .symbol ['-'] := by
    cases d <;> decide
  have cut : extend d (.symbol ['-']) c = none := by
    have alone : isPair '-' c = false := by
      have differs : c ≠ '-' := by
        rintro rfl
        revert digit
        decide
      simpa [isPair] using differs
    simp only [extend, alone, Bool.false_eq_true, if_false]
  rw [scan_eq_some, run_first, begun, run_of_cut cut, run_first, begins_digit digit, goes d]
  exact ⟨rfl, rfl⟩

end Scanner

open Scanner

/-! ## Integers -/

/-- The digits of a number are a numeral. -/
theorem numeral_toDigits (n : Nat) : Numeral (Nat.toDigits 10 n) := by
  have digits : ∀ c ∈ Nat.toDigits 10 n, c.isDigit = true :=
    fun c member => Nat.isDigit_of_mem_toDigits (by omega) (by omega) member
  cases written : Nat.toDigits 10 n with
  | nil => exact absurd written Nat.toDigits_ne_nil
  | cons c rest =>
    rw [written] at digits
    obtain ⟨first, others⟩ := List.forall_mem_cons.mp digits
    exact numeral_of_digits first fun c member => .inl (others c member)

/-- An integer is the numeral of its magnitude, after a sign where it is negative. -/
theorem toList_toString_int (i : Int) :
    (toString i).toList = (if i < 0 then ['-'] else []) ++ Nat.toDigits 10 i.natAbs := by
  rw [Int.toString_eq_repr, Int.repr_eq_if]
  by_cases negative : i < 0
  · rw [if_neg (by omega), if_pos negative, String.toList_append, Nat.toList_repr]
    have magnitude : (-i).toNat = i.natAbs := by omega
    rw [magnitude]
    rfl
  · rw [if_pos (by omega), if_neg negative, Nat.toList_repr]
    have magnitude : i.toNat = i.natAbs := by omega
    rw [magnitude]
    rfl

theorem isNumeralChar_of_mem_int (i : Int) : ∀ c ∈ (toString i).toList, isNumeralChar c = true := by
  rw [toList_toString_int]
  refine List.forall_mem_append.mpr ⟨?_, (numeral_toDigits _).chars⟩
  split
  · exact List.forall_mem_singleton.mpr (by decide)
  · exact List.forall_mem_nil _

/-! ## Doubles -/

namespace Decimal

theorem isDigit_of_mem_digitChars {x : Decimal} {c : Char} (member : c ∈ x.digitChars) : c.isDigit = true :=
  Nat.isDigit_of_mem_toDigits (by omega) (by omega) member

theorem digitChars_ne_nil (x : Decimal) : x.digitChars ≠ [] :=
  Nat.toDigits_ne_nil

/-- Positional form is a numeral. -/
theorem numeral_positional (x : Decimal) : Numeral x.positional := by
  have digit : ∀ c ∈ x.digitChars, c.isDigit = true ∨ c = '.' :=
    fun c member => .inl (isDigit_of_mem_digitChars member)
  have zeros : ∀ n, ∀ c ∈ List.replicate n '0', c.isDigit = true ∨ c = '.' := by
    intro n c member
    rw [List.eq_of_mem_replicate member]
    exact .inl rfl
  have started : ∀ {text rest : List Char}, text ≠ [] → (∀ c ∈ text, c.isDigit = true) →
      (∀ c ∈ rest, c.isDigit = true ∨ c = '.') → Numeral (text ++ rest) := by
    intro text rest some digits parts
    cases text with
    | nil => exact absurd rfl some
    | cons c text =>
      obtain ⟨first, others⟩ := List.forall_mem_cons.mp digits
      exact numeral_of_digits first (List.forall_mem_append.mpr ⟨fun c member => .inl (others c member), parts⟩)
  unfold positional
  dsimp only
  split
  · rw [List.append_assoc]
    refine started x.digitChars_ne_nil (fun c member => isDigit_of_mem_digitChars member) ?_
    refine List.forall_mem_append.mpr ⟨zeros _, ?_⟩
    exact List.forall_mem_cons.mpr ⟨.inr rfl, List.forall_mem_singleton.mpr (.inl rfl)⟩
  · split
    next point =>
      refine started ?_ (fun c member => isDigit_of_mem_digitChars (List.mem_of_mem_take member)) ?_
      · intro none
        rcases List.take_eq_nil_iff.mp none with zero | none
        · omega
        · exact x.digitChars_ne_nil none
      · exact List.forall_mem_cons.mpr ⟨.inr rfl, fun c member => digit c (List.mem_of_mem_drop member)⟩
    next =>
      refine numeral_of_digits rfl (List.forall_mem_cons.mpr ⟨.inr rfl, ?_⟩)
      exact List.forall_mem_append.mpr ⟨zeros _, digit⟩

/-- A decimal number goes on with an exponent. -/
theorem run_exponent {d : Dialect} {text : List Char} (decimal : ['0', 'x'].isPrefixOf (text ++ ['e']) = false)
    (i : Int) :
    run d (.number text) ('e' :: (toString i).toList) = ([], .number (text ++ 'e' :: (toString i).toList)) := by
  have mark : extend d (.number text) 'e' = some (.number (text ++ ['e'])) := by
    have part : isWordPart 'e' = true := by decide
    simp only [extend, part, Bool.true_or, if_true]
  have digits : ∀ c ∈ Nat.toDigits 10 i.natAbs, isWordPart c = true ∨ c = '.' := fun c member =>
    .inl (isWordPart_of_isDigit (Nat.isDigit_of_mem_toDigits (by omega) (by omega) member))
  rw [run_of_extend mark, toList_toString_int]
  split
  · have sign : extend d (.number (text ++ ['e'])) '-' = some (.number (text ++ ['e'] ++ ['-'])) := by
      have takes : takesSign (text ++ ['e']) = true := by
        simp only [takesSign, List.getLast?_concat, beq_self_eq_true, decimal, Bool.true_or, Bool.not_false,
          Bool.and_self]
      simp only [extend, takes, beq_self_eq_true, Bool.or_true, Bool.and_self, if_true]
    rw [List.singleton_append, run_of_extend sign, run_number digits]
    simp only [List.append_assoc, List.cons_append, List.nil_append]
  · rw [List.nil_append, run_number digits]
    simp only [List.append_assoc, List.singleton_append]

/-- Scientific form without a plus sign is a numeral. -/
theorem numeral_scientific (x : Decimal) : Numeral (x.scientific false) := by
  have digits : ∀ c ∈ x.digitChars, c.isDigit = true := fun c member => isDigit_of_mem_digitChars member
  have numerals : ∀ c ∈ x.digitChars, isNumeralChar c = true := fun c member =>
    isNumeralChar_of_isDigit (digits c member)
  have exponent : ∀ c ∈ 'e' :: (toString x.leadingExponent).toList, isNumeralChar c = true :=
    List.forall_mem_cons.mpr ⟨by decide, isNumeralChar_of_mem_int _⟩
  unfold scientific
  simp only [Bool.false_and, Bool.false_eq_true, if_false, List.nil_append]
  cases written : x.digitChars with
  | nil => exact absurd written x.digitChars_ne_nil
  | cons c rest =>
    rw [written] at digits numerals
    obtain ⟨first, others⟩ := List.forall_mem_cons.mp digits
    obtain ⟨first', others'⟩ := List.forall_mem_cons.mp numerals
    cases rest with
    | nil =>
      refine ⟨List.forall_mem_cons.mpr ⟨first', exponent⟩, c, _, rfl, first, fun d => run_exponent ?_ _⟩
      simp [List.isPrefixOf]
    | cons c' rest =>
      refine ⟨?_, c, _, rfl, first, fun d => ?_⟩
      · exact List.forall_mem_append.mpr
          ⟨List.forall_mem_cons.mpr ⟨first', List.forall_mem_cons.mpr ⟨by decide, others'⟩⟩, exponent⟩
      · have mantissa : ∀ c ∈ '.' :: c' :: rest, isWordPart c = true ∨ c = '.' :=
          List.forall_mem_cons.mpr ⟨.inr rfl, fun c member => .inl (isWordPart_of_isDigit (others c member))⟩
        dsimp only
        rw [List.append_eq, run_append, run_number mantissa, run_exponent (by simp [List.isPrefixOf])]
        simp only [List.nil_append, List.cons_append]

end Decimal

/-- A finite double is a numeral, after a sign where it is negative. -/
theorem Double.toList_literal {x : Double} (finite : x.isFinite = true) :
    ∃ numeral, Numeral numeral ∧ x.literal.toList = (if x.negative then ['-'] else []) ++ numeral := by
  have number : x.isNaN = false := by
    simp only [isFinite, decide_eq_true_eq] at finite
    have ordinary : x.exponentField ≠ 2047 := by omega
    simp only [isNaN, ordinary, decide_false, Bool.false_and]
  refine ⟨(x.shortest .up).write ⟨-4, 15, .up, false⟩, ?_, ?_⟩
  · unfold Decimal.write
    split
    · exact Decimal.numeral_positional _
    · exact Decimal.numeral_scientific _
  · unfold literal write
    simp only [number, finite, Bool.false_eq_true, if_false, if_true]
    split
    · rw [String.toList_append, String.toList_ofList]
      exact congrArg (['-'] ++ ·) String.toList_ofList
    · rw [String.toList_ofList, List.nil_append]

/-- The text of a double has the characters of written numbers, finite or not. -/
theorem Double.isNumeralChar_of_mem_literal (x : Double) : ∀ c ∈ x.literal.toList, isNumeralChar c = true := by
  by_cases finite : x.isFinite = true
  · obtain ⟨numeral, isNumeral, written⟩ := toList_literal finite
    rw [written]
    refine List.forall_mem_append.mpr ⟨?_, isNumeral.chars⟩
    split
    · exact List.forall_mem_singleton.mpr (by decide)
    · exact List.forall_mem_nil _
  · unfold literal write
    simp only [finite, Bool.false_eq_true, if_false]
    refine List.all_eq_true.mp ?_
    split
    · decide
    · split <;> decide

end SqlShape
