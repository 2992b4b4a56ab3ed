import Mathlib.Data.Nat.Digits.Defs
import Chip8.Font.Source
import Chip8.Proofs.HexText

/-!
# Which tokens are bytes

A byte may be written in any of four radices, with a plus sign and with as many leading zeros as one
likes. `Font.Numeral` says what may be written and what it stands for, without reading it. A token
is a byte if and only if it is the text of a numeral whose value is that byte
(`Font.byteOfToken?_eq_some_iff`): a mark is never taken for digits nor digits for a mark, and no
value is cut down to a byte.
-/

namespace Chip8.Font

/-- How a numeral announces its radix. -/
inductive Mark where
  | hexadecimal | binary | octal | decimal
  deriving DecidableEq, Repr

namespace Mark

def text : Mark → List Char
  | hexadecimal => ['0', 'x']
  | binary => ['0', 'b']
  | octal => ['0', 'o']
  | decimal => []

def radix : Mark → Nat
  | hexadecimal => 16
  | binary => 2
  | octal => 8
  | decimal => 10

theorem radix_le (mark : Mark) : mark.radix ≤ 16 := by
  cases mark <;> decide

end Mark

def signText (plus : Bool) : List Char := if plus then ['+'] else []

/-- A number as it may be written. The digits are numbers here, the highest first. -/
structure Numeral where
  mark : Mark
  plus : Bool
  digits : List Nat
  digits_ne_nil : digits ≠ []
  digits_lt : ∀ d ∈ digits, d < mark.radix

namespace Numeral

/-- The numeral in lower case. -/
def text (n : Numeral) : List Char :=
  n.mark.text ++ (signText n.plus ++ n.digits.map Nat.digitChar)

def value (n : Numeral) : Nat := Nat.ofDigits n.mark.radix n.digits.reverse

theorem lt_sixteen (n : Numeral) {d : Nat} (mem : d ∈ n.digits) : d < 16 :=
  Nat.lt_of_lt_of_le (n.digits_lt d mem) n.mark.radix_le

end Numeral

/-! ## Digits -/

section

variable {radix : Nat}

theorem toNat_digitChar :
    ∀ d, d < 16 → (Nat.digitChar d).toNat = if d < 10 then d + 48 else d + 87 := by
  decide

theorem digit?_eq_some_iff (few : radix ≤ 16) {c : Char} {d : Nat} :
    digit? radix c = some d ↔ d < radix ∧ c = Nat.digitChar d := by
  unfold digit?
  rw [Option.filter_eq_some_iff, and_comm, decide_eq_true_eq, and_congr_right_iff]
  intro small
  rw [← Char.toNat_inj, toNat_digitChar d (Nat.lt_of_lt_of_le small few)]
  have numerals : '0' ≤ c ∧ c ≤ '9' ↔ 48 ≤ c.toNat ∧ c.toNat ≤ 57 := Iff.rfl
  have letters : 'a' ≤ c ∧ c ≤ 'z' ↔ 97 ≤ c.toNat ∧ c.toNat ≤ 122 := Iff.rfl
  simp only [numerals, letters, Char.reduceToNat]
  grind

/-- The value of a number with digits behind it. -/
def valueFrom (radix n : Nat) (digits : List Nat) : Nat :=
  digits.foldl (fun n d => n * radix + d) n

/-- What is read behind a number are digits, and nothing that is none. By induction on what is
left to read, for any number that was read before it. -/
theorem foldlM_digit?_eq_some_iff (few : radix ≤ 16) {text : List Char} {n m : Nat} :
    text.foldlM (fun n c => (digit? radix c).map (n * radix + ·)) n = some m ↔
      ∃ digits : List Nat, text = digits.map Nat.digitChar ∧ (∀ d ∈ digits, d < radix) ∧
        valueFrom radix n digits = m := by
  induction text generalizing n with
  | nil =>
    constructor
    · intro read
      exact ⟨[], rfl, nofun, Option.some.inj read⟩
    · rintro ⟨digits, none, -, rfl⟩
      rw [List.map_eq_nil_iff.1 none.symm]
      rfl
  | cons c rest ih =>
    rw [List.foldlM_cons, Option.bind_eq_bind, Option.bind_eq_some_iff]
    constructor
    · rintro ⟨n', first, others⟩
      obtain ⟨d, digit, rfl⟩ := Option.map_eq_some_iff.1 first
      obtain ⟨small, rfl⟩ := (digit?_eq_some_iff few).1 digit
      obtain ⟨digits, rfl, below, value⟩ := ih.1 others
      exact ⟨d :: digits, rfl, List.forall_mem_cons.2 ⟨small, below⟩, value⟩
    · rintro ⟨digits, whole, below, value⟩
      cases digits with
      | nil => cases whole
      | cons d digits =>
        obtain ⟨rfl, rfl⟩ := List.cons.inj whole
        obtain ⟨small, below⟩ := List.forall_mem_cons.1 below
        exact ⟨_, Option.map_eq_some_iff.2 ⟨d, (digit?_eq_some_iff few).2 ⟨small, rfl⟩, rfl⟩,
          ih.2 ⟨digits, rfl, below, value⟩⟩

theorem valueFrom_zero (digits : List Nat) :
    valueFrom radix 0 digits = Nat.ofDigits radix digits.reverse := by
  rw [Nat.ofDigits_eq_foldr, List.foldr_reverse, valueFrom]
  congr 1
  funext n d
  rw [Nat.mul_comm, Nat.add_comm]
  rfl

/-- A run of digits has a value if and only if there are some and all are digits of the radix. -/
theorem digitsValue?_eq_some_iff (few : radix ≤ 16) {text : List Char} {n : Nat} :
    digitsValue? radix text = some n ↔
      ∃ digits : List Nat, digits ≠ [] ∧ (∀ d ∈ digits, d < radix) ∧
        text = digits.map Nat.digitChar ∧ Nat.ofDigits radix digits.reverse = n := by
  unfold digitsValue?
  split
  · constructor
    · nofun
    · rintro ⟨digits, nonempty, -, none, -⟩
      exact absurd (List.map_eq_nil_iff.1 none.symm) nonempty
  · next nonempty =>
    rw [foldlM_digit?_eq_some_iff few]
    constructor
    · rintro ⟨digits, rfl, below, value⟩
      rw [valueFrom_zero] at value
      exact ⟨digits, fun none => nonempty (congrArg _ none), below, rfl, value⟩
    · rintro ⟨digits, -, below, rfl, value⟩
      rw [← valueFrom_zero] at value
      exact ⟨digits, rfl, below, value⟩

end

/-! ## Marks and signs -/

theorem exists_sign (text : List Char) : ∃ plus, text = signText plus ++ dropPlus text := by
  unfold dropPlus
  split
  · exact ⟨true, rfl⟩
  · exact ⟨false, rfl⟩

theorem mem_signed {plus : Bool} {digits : List Nat} {c : Char}
    (mem : c ∈ signText plus ++ digits.map Nat.digitChar) :
    c = '+' ∨ ∃ d ∈ digits, Nat.digitChar d = c := by
  obtain sign | digit := List.mem_append.1 mem
  · cases plus with
    | true => exact .inl (List.mem_singleton.1 sign)
    | false => cases sign
  · exact .inr (List.mem_map.1 digit)

theorem dropPlus_signText (plus : Bool) {digits : List Nat} (small : ∀ d ∈ digits, d < 16) :
    dropPlus (signText plus ++ digits.map Nat.digitChar) = digits.map Nat.digitChar := by
  cases plus with
  | true => rfl
  | false =>
    show dropPlus (digits.map Nat.digitChar) = digits.map Nat.digitChar
    unfold dropPlus
    split
    · next rest text =>
      have noSign : ∀ d, d < 16 → Nat.digitChar d ≠ '+' := by decide
      have sign : '+' ∈ digits.map Nat.digitChar := by rw [text]; exact List.mem_cons_self
      obtain ⟨d, mem, eq⟩ := List.mem_map.1 sign
      exact absurd eq (noSign d (small d mem))
    · rfl

theorem exists_mark (text : List Char) :
    ∃ mark : Mark, text = mark.text ++ (splitRadix text).2 ∧ (splitRadix text).1 = mark.radix := by
  unfold splitRadix
  split
  · exact ⟨.hexadecimal, rfl, rfl⟩
  · exact ⟨.binary, rfl, rfl⟩
  · exact ⟨.octal, rfl, rfl⟩
  · exact ⟨.decimal, rfl, rfl⟩

theorem splitRadix_of_unmarked {text : List Char} (unmarked : ∀ c ∈ text, c ∉ ['x', 'b', 'o']) :
    splitRadix text = (10, text) := by
  unfold splitRadix
  split
  · exact absurd (unmarked 'x' (by simp)) (by decide)
  · exact absurd (unmarked 'b' (by simp)) (by decide)
  · exact absurd (unmarked 'o' (by simp)) (by decide)
  · rfl

/-- No decimal digit is the letter of a mark, so the mark of a numeral is the one it was given. -/
theorem splitRadix_text (n : Numeral) :
    splitRadix n.text = (n.mark.radix, signText n.plus ++ n.digits.map Nat.digitChar) := by
  obtain ⟨mark, plus, digits, -, small⟩ := n
  cases mark with
  | hexadecimal => rfl
  | binary => rfl
  | octal => rfl
  | decimal =>
    -- Here the mark is empty, so it is the digits that must not look like one.
    refine splitRadix_of_unmarked fun c mem => ?_
    have decimals : ∀ d, d < 10 → Nat.digitChar d ∉ ['x', 'b', 'o'] := by decide
    obtain rfl | ⟨d, here, rfl⟩ := mem_signed mem
    · decide
    · exact decimals d (small d here)

/-! ## Tokens -/

section

variable {token : List Char}

/-- What is read of the text of a numeral is its value. -/
theorem byteOfToken?_of_numeral {n : Numeral} (spelled : token.map Char.toLower = n.text) :
    byteOfToken? token = if n.value < 256 then some (BitVec.ofNat 8 n.value) else none := by
  have value : digitsValue? n.mark.radix (n.digits.map Nat.digitChar) = some n.value :=
    (digitsValue?_eq_some_iff n.mark.radix_le).2
      ⟨n.digits, n.digits_ne_nil, n.digits_lt, rfl, rfl⟩
  simp only [byteOfToken?, spelled, splitRadix_text, dropPlus_signText n.plus fun _ => n.lt_sixteen,
    value]

/-- A token with a value is the text of a numeral. -/
theorem exists_numeral_of_byteOfToken? {b : Byte} (read : byteOfToken? token = some b) :
    ∃ n : Numeral, token.map Char.toLower = n.text ∧ n.value = b.toNat := by
  obtain ⟨mark, marked, radix⟩ := exists_mark (token.map Char.toLower)
  obtain ⟨plus, signed⟩ := exists_sign (splitRadix (token.map Char.toLower)).2
  unfold byteOfToken? at read
  simp only at read
  split at read
  · next v value =>
    split at read
    · next fits =>
      rw [radix, digitsValue?_eq_some_iff mark.radix_le] at value
      obtain ⟨digits, nonempty, small, text, rfl⟩ := value
      refine ⟨⟨mark, plus, digits, nonempty, small⟩, ?_, ?_⟩
      · rw [marked, signed, text]
        rfl
      · obtain rfl := Option.some.inj read
        exact (Nat.mod_eq_of_lt fits).symm
    · cases read
  · cases read

theorem byteOfToken?_eq_some_iff {b : Byte} :
    byteOfToken? token = some b ↔
      ∃ n : Numeral, token.map Char.toLower = n.text ∧ n.value = b.toNat := by
  constructor
  · exact exists_numeral_of_byteOfToken?
  · rintro ⟨n, spelled, value⟩
    rw [byteOfToken?_of_numeral spelled, value, if_pos b.isLt, BitVec.ofNat_toNat,
      BitVec.setWidth_eq]

theorem byteOfToken?_eq_none (unspelled : ∀ n : Numeral, token.map Char.toLower ≠ n.text) :
    byteOfToken? token = none := by
  cases read : byteOfToken? token with
  | none => rfl
  | some b =>
    obtain ⟨n, spelled, -⟩ := byteOfToken?_eq_some_iff.1 read
    exact absurd spelled (unspelled n)

/-- Beside its sign, a numeral is made of letters and digits. -/
theorem Numeral.mem_text {n : Numeral} {c : Char} (mem : c ∈ n.text) :
    c = '+' ∨ c.isAlphanum = true := by
  obtain mark | signed := List.mem_append.1 mem
  · have letters : n.mark.text.all Char.isAlphanum = true := by cases n.mark <;> decide
    exact .inr (List.all_eq_true.1 letters c mark)
  · obtain plus | ⟨d, here, rfl⟩ := mem_signed signed
    · exact .inl plus
    · exact .inr (isAlphanum_digitChar d (n.lt_sixteen here))

theorem toLower_of_not_isAlphanum {c : Char} (foreign : c.isAlphanum = false) :
    c.toLower = c := by
  refine dif_neg fun range => ?_
  have upper : c.isUpper = true := decide_eq_true range
  have alphanum : c.isAlphanum = true := by
    show ((c.isUpper || c.isLower) || c.isDigit) = true
    rw [upper]
    rfl
  rw [foreign] at alphanum
  cases alphanum

/-- A token is a byte if and only if it is a numeral, in letters of either case, and the byte is
its value. Any other token is refused: a numeral whose value is no byte, however long it is; a mark
or a sign without digits; and whatever holds a character that is no plus sign and neither an ASCII
letter nor an ASCII digit. -/
theorem byte_iff_numeral (token : List Char) :
    (∀ b, byteOfToken? token = some b ↔
      ∃ n : Numeral, token.map Char.toLower = n.text ∧ n.value = b.toNat) ∧
    (∀ n : Numeral, token.map Char.toLower = n.text → 255 < n.value →
      byteOfToken? token = none) ∧
    ((∀ n : Numeral, token.map Char.toLower ≠ n.text) → byteOfToken? token = none) ∧
    (∀ (mark : Mark) (plus : Bool), token.map Char.toLower = mark.text ++ signText plus →
      byteOfToken? token = none) ∧
    (∀ c ∈ token, c ≠ '+' → c.isAlphanum = false → byteOfToken? token = none) := by
  refine ⟨fun b => byteOfToken?_eq_some_iff, ?_, byteOfToken?_eq_none, ?_, ?_⟩
  · intro n spelled large
    rw [byteOfToken?_of_numeral spelled, if_neg (by omega)]
  · intro mark plus bare
    simp only [byteOfToken?, bare]
    cases mark <;> cases plus <;> rfl
  · intro c mem noSign foreign
    refine byteOfToken?_eq_none fun n spelled => ?_
    have lower : c ∈ n.text := by
      rw [← spelled, ← toLower_of_not_isAlphanum foreign]
      exact List.mem_map_of_mem mem
    obtain sign | alphanum := Numeral.mem_text lower
    · exact noSign sign
    · exact absurd alphanum (by rw [foreign]; decide)

/-- Numerals on both sides of the largest byte, a mark without digits, white space between digits
and a minus sign. -/
theorem byte_iff_numeral_of_edges :
    byteOfToken? "0X+00fF".toList = some 255 ∧ byteOfToken? "0o0000000400".toList = none ∧
      byteOfToken? "0B+".toList = none ∧ byteOfToken? "1 2".toList = none ∧
      byteOfToken? "0x-1".toList = none := by
  let largest : Numeral := ⟨.hexadecimal, true, [0, 0, 15, 15], by decide, by decide⟩
  let tooLarge : Numeral := ⟨.octal, false, [0, 0, 0, 0, 0, 0, 0, 4, 0, 0], by decide, by decide⟩
  have minus (n : Numeral) : "0x-1".toList.map Char.toLower ≠ n.text := by
    intro spelled
    have mem : '-' ∈ n.text := spelled ▸ (by decide)
    obtain sign | alphanum := n.mem_text mem
    · cases sign
    · cases alphanum
  exact ⟨((byte_iff_numeral _).1 255).2 ⟨largest, rfl, by decide⟩,
    (byte_iff_numeral _).2.1 tooLarge rfl (by decide),
    (byte_iff_numeral _).2.2.2.1 .binary true rfl,
    (byte_iff_numeral _).2.2.2.2 ' ' (by decide) (by decide) rfl,
    (byte_iff_numeral _).2.2.1 minus⟩

end

end Chip8.Font
