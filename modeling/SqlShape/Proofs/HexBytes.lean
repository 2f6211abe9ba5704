import SqlShape.Cli.Parameters
import SqlShape.Proofs.Pass

/-!
# Bytes in hexadecimal digits

A text stands for bytes if it is `0x` and then pairs of characters, each of which stands for a byte. Which pairs do is a
parameter of the grammar (`Spells`). Two hexadecimal digits in either case are such a pair (`DigitPair`); the reader
also takes a plus sign and one digit (`SignedDigit`), as a number of one digit. So it reads more than pairs of digits,
but nothing else: without a plus sign a text is read exactly if it is made of pairs of digits, and every other text is
refused with the first thing that is wrong in it (`HexFault`).
-/

namespace SqlShape.Json

/-! ## Grammar -/

/-- The hexadecimal digits in the order of their values. -/
def lowerDigits : List Char :=
  ['0', '1', '2', '3', '4', '5', '6', '7', '8', '9', 'a', 'b', 'c', 'd', 'e', 'f']

def upperDigits : List Char :=
  ['0', '1', '2', '3', '4', '5', '6', '7', '8', '9', 'A', 'B', 'C', 'D', 'E', 'F']

/-- A character is the digit of a number. -/
def IsDigit (c : Char) (n : Nat) : Prop :=
  lowerDigits[n]? = some c ∨ upperDigits[n]? = some c

/-- Two digits for a byte, the higher half first. -/
def DigitPair (a b : Char) (byte : UInt8) : Prop :=
  ∃ m n, IsDigit a m ∧ IsDigit b n ∧ byte.toNat = 16 * m + n

/-- A plus sign and one digit for a byte. -/
def SignedDigit (a b : Char) (byte : UInt8) : Prop :=
  a = '+' ∧ IsDigit b byte.toNat

/-- What the reader takes for a byte. -/
def BytePair (a b : Char) (byte : UInt8) : Prop :=
  DigitPair a b byte ∨ SignedDigit a b byte

/-- Characters in pairs, each of which stands for a byte. -/
inductive Pairs (P : Char → Char → UInt8 → Prop) : List Char → List UInt8 → Prop
  | nil : Pairs P [] []
  | cons {a b : Char} {byte : UInt8} {rest : List Char} {bytes : List UInt8} (here : P a b byte)
      (later : Pairs P rest bytes) : Pairs P (a :: b :: rest) (byte :: bytes)

/-- A text is `0x` and then pairs that stand for bytes. -/
def Spells (P : Char → Char → UInt8 → Prop) (text : String) (bytes : List UInt8) : Prop :=
  ∃ digits, text.toList = '0' :: 'x' :: digits ∧ Pairs P digits bytes

/-- What is wrong with a text that does not stand for bytes: the mark in front of it, its characters or their number, or
the first pair that does not stand for a byte. -/
inductive HexFault (text : String) : PlainFault → Prop
  | mark (unmarked : ¬ ['0', 'x'] <+: text.toList) : HexFault text .noHexMark
  | digits {digits : List Char} (marked : text.toList = '0' :: 'x' :: digits)
      (broken : (∃ c ∈ digits, 128 ≤ c.toNat) ∨ digits.length % 2 ≠ 0) :
      HexFault text (.noHexPairs (String.ofList digits))
  | pair {before rest : List Char} {bytes : List UInt8} {a b : Char}
      (marked : text.toList = '0' :: 'x' :: (before ++ a :: b :: rest)) (good : Pairs BytePair before bytes)
      (bad : ∀ byte, ¬ BytePair a b byte) (ascii : ∀ c ∈ a :: b :: rest, c.toNat < 128)
      (even : rest.length % 2 = 0) : HexFault text (.badHexPair (String.ofList [a, b]))

/-! ## Digits -/

section Digits

variable {a b c : Char} {n : Nat} {byte : UInt8}

/-- A digit has a value below sixteen and is one of the first characters. -/
theorem IsDigit.bounds (digit : IsDigit c n) : n < 16 ∧ c.toNat < 128 ∧ c ≠ '+' := by
  have listed : c ∈ lowerDigits ++ upperDigits ∧ n < 16 := by
    rcases digit with found | found
    · exact ⟨List.mem_append_left _ (List.mem_of_getElem? found), (List.getElem?_eq_some_iff.mp found).1⟩
    · exact ⟨List.mem_append_right _ (List.mem_of_getElem? found), (List.getElem?_eq_some_iff.mp found).1⟩
  have plain : ((lowerDigits ++ upperDigits).all fun c => decide (c.toNat < 128) && decide (c ≠ '+')) = true := by
    decide
  obtain ⟨ascii, other⟩ := Bool.and_eq_true_iff.mp (List.all_eq_true.mp plain c listed.1)
  exact ⟨listed.2, of_decide_eq_true ascii, of_decide_eq_true other⟩

/-- The characters from one on, numbered. -/
theorem getElem?_of_range {digits : List Char} {first : Char} (start stop : Nat)
    (table : ∀ k < stop, digits[start + k]? = some (Char.ofNat (first.toNat + k))) (lower : first.toNat ≤ c.toNat)
    (upper : c.toNat < first.toNat + stop) : digits[c.toNat - first.toNat + start]? = some c := by
  have here := table (c.toNat - first.toNat) (by omega)
  rwa [Nat.add_sub_cancel' lower, Char.ofNat_toNat, Nat.add_comm] at here

/-- The value of a digit, found by ranges or in the tables. -/
theorem hexDigitValue?_eq_some_iff : hexDigitValue? c = some n ↔ IsDigit c n := by
  constructor
  · intro found
    unfold hexDigitValue? at found
    split at found
    next digit =>
      cases found
      obtain ⟨lower, upper⟩ := Bool.and_eq_true_iff.mp digit
      exact .inl (getElem?_of_range 0 10 (by decide) (of_decide_eq_true lower)
        (Nat.lt_succ_of_le (of_decide_eq_true upper)))
    next =>
      split at found
      next range =>
        cases found
        exact .inl (getElem?_of_range 10 6 (by decide) range.1 (Nat.lt_succ_of_le range.2))
      next =>
        split at found
        next range =>
          cases found
          exact .inr (getElem?_of_range 10 6 (by decide) range.1 (Nat.lt_succ_of_le range.2))
        next => cases found
  · intro digit
    have table {digits : List Char} (valued : (digits.zipIdx.all fun p => hexDigitValue? p.1 = some p.2) = true)
        (found : digits[n]? = some c) : hexDigitValue? c = some n :=
      of_decide_eq_true (List.all_eq_true.mp valued (c, n) (List.mk_mem_zipIdx_iff_getElem?.mpr found))
    rcases digit with found | found
    · exact table (by decide) found
    · exact table (by decide) found

theorem toNat_ofDigits {m : Nat} (high : IsDigit a m) (low : IsDigit b n) :
    (UInt8.ofNat (m * 16 + n)).toNat = 16 * m + n := by
  have := high.bounds.1
  have := low.bounds.1
  rw [UInt8.toNat_ofNat_of_lt' (show m * 16 + n < UInt8.size by change _ < 256; omega), Nat.mul_comm]

/-- The reader takes two digits, or a plus sign and one digit. -/
theorem hexPair?_eq_some_iff : hexPair? a b = some byte ↔ BytePair a b byte := by
  unfold hexPair?
  by_cases sign : a = '+'
  · simp only [sign, if_true]
    constructor
    · intro found
      obtain ⟨n, digit, same⟩ := Option.bind_eq_some_iff.mp found
      have low := hexDigitValue?_eq_some_iff.mp digit
      have small := low.bounds.1
      cases same
      refine .inr ⟨rfl, ?_⟩
      rwa [UInt8.toNat_ofNat_of_lt' (show n < UInt8.size by change _ < 256; omega)]
    · rintro (⟨m, n, high, -⟩ | ⟨-, low⟩)
      · exact absurd rfl high.bounds.2.2
      · exact Option.bind_eq_some_iff.mpr
          ⟨_, hexDigitValue?_eq_some_iff.mpr low, congrArg some (UInt8.ofNat_toNat)⟩
  · rw [if_neg sign]
    constructor
    · intro found
      obtain ⟨m, first, later⟩ := Option.bind_eq_some_iff.mp found
      obtain ⟨n, second, same⟩ := Option.bind_eq_some_iff.mp later
      have high := hexDigitValue?_eq_some_iff.mp first
      have low := hexDigitValue?_eq_some_iff.mp second
      cases same
      exact .inl ⟨m, n, high, low, toNat_ofDigits high low⟩
    · rintro (⟨m, n, high, low, value⟩ | ⟨plus, -⟩)
      · refine Option.bind_eq_some_iff.mpr ⟨m, hexDigitValue?_eq_some_iff.mpr high, ?_⟩
        refine Option.bind_eq_some_iff.mpr ⟨n, hexDigitValue?_eq_some_iff.mpr low, congrArg some ?_⟩
        exact UInt8.toNat_inj.mp ((toNat_ofDigits high low).trans value.symm)
      · exact absurd plus sign

theorem BytePair.ascii (pair : BytePair a b byte) : a.toNat < 128 ∧ b.toNat < 128 := by
  rcases pair with ⟨m, n, high, low, -⟩ | ⟨rfl, low⟩
  · exact ⟨high.bounds.2.1, low.bounds.2.1⟩
  · exact ⟨by decide, low.bounds.2.1⟩

/-- Without a plus sign a pair that stands for a byte is one of digits. -/
theorem digitPair_iff : DigitPair a b byte ↔ BytePair a b byte ∧ a ≠ '+' ∧ b ≠ '+' := by
  constructor
  · rintro ⟨m, n, high, low, value⟩
    exact ⟨.inl ⟨m, n, high, low, value⟩, high.bounds.2.2, low.bounds.2.2⟩
  · rintro ⟨digits | ⟨plus, -⟩, first, -⟩
    · exact digits
    · exact absurd plus first

end Digits

/-! ## Pairs in a row -/

section Pairs

variable {cs : List Char} {bytes : List UInt8}

theorem Pairs.shape (pairs : Pairs BytePair cs bytes) : cs.length % 2 = 0 ∧ ∀ c ∈ cs, c.toNat < 128 := by
  induction pairs with
  | nil => exact ⟨rfl, List.forall_mem_nil _⟩
  | cons here _ below =>
    refine ⟨?_, List.forall_mem_cons.mpr ⟨here.ascii.1, List.forall_mem_cons.mpr ⟨here.ascii.2, below.2⟩⟩⟩
    rw [List.length_cons, List.length_cons]
    omega

/-- Pairs of digits are the pairs without a plus sign. -/
theorem pairs_digitPair_iff : Pairs DigitPair cs bytes ↔ Pairs BytePair cs bytes ∧ '+' ∉ cs := by
  constructor
  · intro pairs
    induction pairs with
    | nil => exact ⟨.nil, List.not_mem_nil⟩
    | cons here _ below =>
      obtain ⟨pair, first, second⟩ := digitPair_iff.mp here
      refine ⟨.cons pair below.1, ?_⟩
      rw [List.mem_cons, List.mem_cons]
      rintro (sign | sign | inside)
      · exact first sign.symm
      · exact second sign.symm
      · exact below.2 inside
  · rintro ⟨pairs, unsigned⟩
    induction pairs with
    | nil => exact .nil
    | cons here _ below =>
      rw [List.mem_cons, List.mem_cons, not_or, not_or] at unsigned
      obtain ⟨first, second, rest⟩ := unsigned
      exact .cons (digitPair_iff.mpr ⟨here, Ne.symm first, Ne.symm second⟩) (below rest)

/-- Pairs are read as the bytes they stand for. -/
theorem hexPairs_eq_ok_iff (even : cs.length % 2 = 0) : hexPairs cs = .ok bytes ↔ Pairs BytePair cs bytes := by
  constructor
  · intro read
    fun_induction hexPairs cs generalizing bytes with
    | case1 a b rest byte found later =>
      rw [List.length_cons, List.length_cons] at even
      obtain ⟨tail, below, same⟩ := bind_eq_ok.mp read
      cases same
      exact .cons (hexPair?_eq_some_iff.mp found) (later (by omega) below)
    | case2 => cases read
    | case3 cs short =>
      cases read
      rcases cs with _ | ⟨c, _ | ⟨d, rest⟩⟩
      · exact .nil
      · cases even
      · exact absurd rfl (short c d rest)
  · intro pairs
    induction pairs with
    | nil => rfl
    | cons here _ below =>
      rw [List.length_cons, List.length_cons] at even
      rw [hexPairs, hexPair?_eq_some_iff.mpr here]
      exact bind_eq_ok.mpr ⟨_, below (by omega), rfl⟩

/-- Pairs are refused for the first of them that stands for no byte. -/
theorem hexPairs_eq_error_iff {fault : PlainFault} : hexPairs cs = .error fault ↔
    ∃ before bytes a b rest, cs = before ++ a :: b :: rest ∧ Pairs BytePair before bytes ∧
      (∀ byte, ¬ BytePair a b byte) ∧ fault = .badHexPair (String.ofList [a, b]) := by
  constructor
  · intro refused
    fun_induction hexPairs cs with
    | case1 a b rest byte found later =>
      cases below : hexPairs rest with
      | ok tail =>
        rw [below] at refused
        cases refused
      | error fault' =>
        rw [below] at refused
        cases refused
        obtain ⟨before, bytes, a', b', rest', rfl, good, bad, same⟩ := later below
        exact ⟨a :: b :: before, byte :: bytes, a', b', rest', rfl, .cons (hexPair?_eq_some_iff.mp found) good, bad,
          same⟩
    | case2 a b rest missing =>
      cases refused
      refine ⟨[], [], a, b, rest, rfl, .nil, fun byte pair => ?_, rfl⟩
      rw [hexPair?_eq_some_iff.mpr pair] at missing
      cases missing
    | case3 => cases refused
  · rintro ⟨before, bytes, a, b, rest, rfl, good, bad, rfl⟩
    induction good with
    | nil =>
      have missing : hexPair? a b = none :=
        Option.eq_none_iff_forall_ne_some.mpr fun byte found => bad byte (hexPair?_eq_some_iff.mp found)
      rw [List.nil_append, hexPairs, missing]
    | cons here _ below =>
      rw [List.cons_append, List.cons_append, hexPairs, hexPair?_eq_some_iff.mpr here]
      dsimp only
      rw [below]
      rfl

end Pairs

/-! ## Texts -/

section Texts

variable {text : String}

/-- A text with the mark in front of it, and one without it. -/
theorem hexBytes_cases (text : String) :
    (∃ digits, text.toList = '0' :: 'x' :: digits ∧ hexBytes text =
      if !digits.all (·.toNat < 128) || digits.length % 2 != 0 then .error (.noHexPairs (String.ofList digits))
      else hexPairs digits) ∨
    ¬ ['0', 'x'] <+: text.toList ∧ hexBytes text = .error .noHexMark := by
  unfold hexBytes
  split
  next digits marked => exact .inl ⟨digits, marked, rfl⟩
  next unmarked =>
    refine .inr ⟨?_, rfl⟩
    rintro ⟨digits, marked⟩
    exact unmarked digits marked.symm

/-- The digits of a text are refused for a character or for their number. -/
theorem broken_iff {digits : List Char} : (!digits.all (·.toNat < 128) || digits.length % 2 != 0) = true ↔
    (∃ c ∈ digits, 128 ≤ c.toNat) ∨ digits.length % 2 ≠ 0 := by
  simp only [Bool.or_eq_true, Bool.not_eq_true', List.all_eq_false, decide_eq_true_eq, Nat.not_lt, bne_iff_ne]

theorem whole_iff {digits : List Char} : ¬ (!digits.all (·.toNat < 128) || digits.length % 2 != 0) = true ↔
    (∀ c ∈ digits, c.toNat < 128) ∧ digits.length % 2 = 0 := by
  simp only [Bool.not_eq_true, Bool.or_eq_false_iff, Bool.not_eq_false', List.all_eq_true, decide_eq_true_eq,
    bne_eq_false_iff_eq]

theorem hexBytes_eq_ok_iff {bytes : List UInt8} : hexBytes text = .ok bytes ↔ Spells BytePair text bytes := by
  rcases hexBytes_cases text with ⟨digits, marked, outcome⟩ | ⟨unmarked, outcome⟩
  · have spelled : Spells BytePair text bytes ↔ Pairs BytePair digits bytes := by
      constructor
      · rintro ⟨digits', marked', pairs⟩
        rw [marked] at marked'
        cases marked'
        exact pairs
      · exact fun pairs => ⟨digits, marked, pairs⟩
    rw [spelled, outcome]
    split
    next broken =>
      refine iff_of_false (fun read => by cases read) fun pairs => ?_
      rcases broken_iff.mp broken with ⟨c, member, high⟩ | odd
      · have := pairs.shape.2 c member
        omega
      · exact odd pairs.shape.1
    next whole => exact hexPairs_eq_ok_iff (whole_iff.mp whole).2
  · rw [outcome]
    refine iff_of_false (fun read => by cases read) ?_
    rintro ⟨digits, marked, -⟩
    exact unmarked ⟨digits, marked.symm⟩

theorem hexBytes_eq_error_iff {fault : PlainFault} : hexBytes text = .error fault ↔ HexFault text fault := by
  rcases hexBytes_cases text with ⟨digits, marked, outcome⟩ | ⟨unmarked, outcome⟩
  · rw [outcome]
    constructor
    · intro refused
      split at refused
      next broken =>
        cases refused
        exact .digits marked (broken_iff.mp broken)
      next whole =>
        obtain ⟨before, bytes, a, b, rest, rfl, good, bad, rfl⟩ := hexPairs_eq_error_iff.mp refused
        obtain ⟨ascii, even⟩ := whole_iff.mp whole
        have even' := good.shape.1
        rw [List.length_append, List.length_cons, List.length_cons] at even
        exact .pair marked good bad (fun c member => ascii c (List.mem_append_right _ member)) (by omega)
    · intro wrong
      cases wrong with
      | mark unmarked => exact absurd ⟨digits, marked.symm⟩ unmarked
      | digits marked' broken =>
        rw [marked] at marked'
        cases marked'
        rw [if_pos (broken_iff.mpr broken)]
      | @pair before rest bytes a b marked' good bad ascii even =>
        rw [marked] at marked'
        cases marked'
        obtain ⟨even', ascii'⟩ := good.shape
        rw [if_neg (whole_iff.mpr ⟨List.forall_mem_append.mpr ⟨ascii', ascii⟩, ?_⟩), hexPairs_eq_error_iff]
        · exact ⟨before, bytes, a, b, rest, rfl, good, bad, rfl⟩
        · rw [List.length_append, List.length_cons, List.length_cons]
          omega
  · rw [outcome]
    constructor
    · intro refused
      cases refused
      exact .mark unmarked
    · intro wrong
      cases wrong with
      | mark => rfl
      | digits marked => exact absurd ⟨_, marked.symm⟩ unmarked
      | pair marked => exact absurd ⟨_, marked.symm⟩ unmarked

/-- A text of pairs of digits is one without a plus sign that the reader takes. -/
theorem spells_digitPair_iff {bytes : List UInt8} : Spells DigitPair text bytes ↔
    Spells BytePair text bytes ∧ '+' ∉ text.toList := by
  have sign (digits : List Char) : '+' ∉ '0' :: 'x' :: digits ↔ '+' ∉ digits := by
    rw [List.mem_cons, List.mem_cons, not_or, not_or]
    exact ⟨fun absent => absent.2.2, fun absent => ⟨by decide, by decide, absent⟩⟩
  constructor
  · rintro ⟨digits, marked, pairs⟩
    obtain ⟨pairs, absent⟩ := pairs_digitPair_iff.mp pairs
    exact ⟨⟨digits, marked, pairs⟩, marked ▸ (sign digits).mpr absent⟩
  · rintro ⟨⟨digits, marked, pairs⟩, absent⟩
    exact ⟨digits, marked, pairs_digitPair_iff.mpr ⟨pairs, (sign digits).mp (marked ▸ absent)⟩⟩

/-- A text is read as bytes exactly if it is `0x` and then pairs that stand for these bytes in order, where a pair is
two hexadecimal digits or a plus sign and one digit. So the texts of pairs of digits are exactly those without a plus
sign that are read, and read as the bytes that the digits denote. Every other text is refused, for the first thing that
is wrong in it. -/
theorem hex_text_read_iff (text : String) :
    (∀ v, (str text).plainValue .bytes = .ok v ↔ ∃ bytes, Spells BytePair text bytes ∧ v = .bytes bytes) ∧
    (∀ bytes, Spells DigitPair text bytes ↔
      (str text).plainValue .bytes = .ok (.bytes bytes) ∧ '+' ∉ text.toList) ∧
    ∀ fault, (str text).plainValue .bytes = .error fault ↔ HexFault text fault := by
  have read (v : Value) :
      (str text).plainValue .bytes = .ok v ↔ ∃ bytes, Spells BytePair text bytes ∧ v = .bytes bytes := by
    refine bind_eq_ok.trans (exists_congr fun bytes => and_congr hexBytes_eq_ok_iff ?_)
    exact ⟨fun same => (Except.ok.inj same).symm, fun same => congrArg Except.ok same.symm⟩
  refine ⟨read, ?_, ?_⟩
  · intro bytes
    rw [read, spells_digitPair_iff]
    refine and_congr_left fun _ => ⟨fun spelled => ⟨bytes, spelled, rfl⟩, ?_⟩
    rintro ⟨bytes', spelled, same⟩
    cases same
    exact spelled
  · intro fault
    rw [← hexBytes_eq_error_iff]
    change (hexBytes text >>= fun bytes => pure (Value.bytes bytes)) = Except.error fault ↔ _
    cases hexBytes text with
    | ok bytes => exact iff_of_false (fun refused => by cases refused) (fun refused => by cases refused)
    | error fault' => exact ⟨fun same => by cases same; rfl, fun same => by cases same; rfl⟩

/-- A plus sign and a digit are read as a byte, though they are not two digits. -/
theorem signed_digit_read : (str "0x+1").plainValue .bytes = .ok (.bytes [1]) ∧
    ∀ bytes, ¬ Spells DigitPair "0x+1" bytes := by
  refine ⟨rfl, fun bytes spelled => ?_⟩
  exact (spells_digitPair_iff.mp spelled).2 (by decide)

end Texts

end SqlShape.Json
