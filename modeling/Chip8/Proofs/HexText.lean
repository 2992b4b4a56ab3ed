import Chip8.Text.Basic

/-!
# Reading hexadecimal text back

Whatever its width, the text of a number has the value of the number (`hexValue_hex`), so no two
numbers share one (`hexMarked_inj`). It has nothing but digits (`mem_hex`), and exactly as many of
them as it was given if the number needs no more (`hexDigits_hex`).
-/

namespace Chip8

/-- The value of a lower-case hexadecimal digit. -/
def hexDigitValue (c : Char) : Nat :=
  if c ≤ '9' then c.toNat - '0'.toNat else c.toNat - 'a'.toNat + 10

/-- The value of a run of lower-case hexadecimal digits. -/
def hexValue (digits : List Char) : Nat := digits.foldl (fun n c => 16 * n + hexDigitValue c) 0

theorem hexDigitValue_digitChar : ∀ d, d < 16 → hexDigitValue (Nat.digitChar d) = d := by decide

theorem hexValue_concat (digits : List Char) (c : Char) :
    hexValue (digits ++ [c]) = 16 * hexValue digits + hexDigitValue c := by
  simp [hexValue]

theorem hexValue_replicate_append (k : Nat) (digits : List Char) :
    hexValue (List.replicate k '0' ++ digits) = hexValue digits := by
  induction k with
  | zero => rfl
  | succ k ih => rw [List.replicate_succ, List.cons_append, ← ih]; rfl

theorem hexValue_toDigits (n : Nat) : hexValue (Nat.toDigits 16 n) = n := by
  induction n using Nat.strongRecOn with
  | ind n ih =>
    rw [Nat.toDigits_eq_if (by decide)]
    split
    · next small =>
      rw [← List.nil_append [_], hexValue_concat, hexDigitValue_digitChar n small]
      exact Nat.zero_add n
    · rw [hexValue_concat, ih (n / 16) (by omega), hexDigitValue_digitChar _ (by omega)]
      omega

theorem hexValue_hex (width n : Nat) : hexValue (hex width n).toList = n := by
  rw [toList_hex, List.leftpad, hexValue_replicate_append, hexValue_toDigits]

theorem length_hex {width n : Nat} (few : (Nat.toDigits 16 n).length ≤ width) :
    (hex width n).toList.length = width := by
  rw [toList_hex, List.leftpad, List.length_append, List.length_replicate]
  omega

theorem mem_toDigits {n : Nat} {c : Char} (mem : c ∈ Nat.toDigits 16 n) :
    ∃ d, d < 16 ∧ c = Nat.digitChar d := by
  induction n using Nat.strongRecOn with
  | ind n ih =>
    rw [Nat.toDigits_eq_if (by decide)] at mem
    split at mem
    · next small => exact ⟨n, small, List.mem_singleton.1 mem⟩
    · obtain higher | last := List.mem_append.1 mem
      · exact ih (n / 16) (by omega) higher
      · exact ⟨n % 16, by omega, List.mem_singleton.1 last⟩

theorem mem_hex {width n : Nat} {c : Char} (mem : c ∈ (hex width n).toList) :
    ∃ d, d < 16 ∧ c = Nat.digitChar d := by
  rw [toList_hex, List.leftpad] at mem
  obtain padding | digit := List.mem_append.1 mem
  · exact ⟨0, by decide, List.eq_of_mem_replicate padding⟩
  · exact mem_toDigits digit

/-- So many lower-case hexadecimal digits, and their value. -/
structure HexDigits (width : Nat) (digits : List Char) (n : Nat) : Prop where
  length : digits.length = width
  digit : ∀ c ∈ digits, c ∈ "0123456789abcdef".toList
  value : hexValue digits = n

abbrev FourDigits : List Char → Nat → Prop := HexDigits 4

theorem hexDigits_hex {width n : Nat} (few : (Nat.toDigits 16 n).length ≤ width) :
    HexDigits width (hex width n).toList n where
  length := length_hex few
  digit c mem := by
    have digits : ∀ d, d < 16 → Nat.digitChar d ∈ "0123456789abcdef".toList := by decide
    obtain ⟨d, small, rfl⟩ := mem_hex mem
    exact digits d small
  value := hexValue_hex width n

theorem fourDigits_hex {w : Word} {n : Nat} (value : w.toNat = n) :
    FourDigits (hex 4 w.toNat).toList n :=
  value ▸ hexDigits_hex ((Nat.length_toDigits_le_iff (by decide) (by decide)).2 w.isLt)

theorem isAlphanum_digitChar : ∀ d, d < 16 → (Nat.digitChar d).isAlphanum = true := by decide

theorem isAlphanum_of_mem_hex {width n : Nat} {c : Char} (mem : c ∈ (hex width n).toList) :
    c.isAlphanum = true := by
  obtain ⟨d, small, rfl⟩ := mem_hex mem
  exact isAlphanum_digitChar d small

theorem isAlphanum_of_mem_hexMarked {width n : Nat} {c : Char}
    (mem : c ∈ (hexMarked width n).toList) : c.isAlphanum = true := by
  rw [hexMarked, String.toList_append] at mem
  obtain mark | digit := List.mem_append.1 mem
  · have letters : "0x".toList.all Char.isAlphanum = true := by decide
    exact List.all_eq_true.1 letters c mark
  · exact isAlphanum_of_mem_hex digit

theorem hexMarked_inj {width n n' : Nat} : hexMarked width n = hexMarked width n' ↔ n = n' := by
  constructor
  · intro same
    have digits : (hex width n).toList = (hex width n').toList := by
      have marked := congrArg String.toList same
      rwa [hexMarked, hexMarked, String.toList_append, String.toList_append,
        List.append_cancel_left_eq] at marked
    rw [← hexValue_hex width n, digits, hexValue_hex]
  · rintro rfl
    rfl

theorem isAlphanum_of_mem_hexUpper {n : Nat} {c : Char} (mem : c ∈ (hexUpper n).toList) :
    c.isAlphanum = true := by
  have digit : ∀ d, d < 16 → (Nat.digitChar d).toUpper.isAlphanum = true := by decide
  rw [hexUpper, String.toList_ofList] at mem
  obtain ⟨lower, here, rfl⟩ := List.mem_map.1 mem
  obtain ⟨d, small, rfl⟩ := mem_toDigits here
  exact digit d small

/-- Upper-case digits are the lower-case ones in another case. -/
theorem map_toLower_hexUpper (n : Nat) :
    (hexUpper n).toList.map Char.toLower = Nat.toDigits 16 n := by
  have digit : ∀ d, d < 16 → (Nat.digitChar d).toUpper.toLower = Nat.digitChar d := by decide
  have same : ∀ c ∈ Nat.toDigits 16 n, (Char.toLower ∘ Char.toUpper) c = id c := by
    intro c mem
    obtain ⟨d, small, rfl⟩ := mem_toDigits mem
    exact digit d small
  rw [hexUpper, String.toList_ofList, List.map_map, List.map_congr_left same, List.map_id]

theorem hexUpper_inj {n n' : Nat} : hexUpper n = hexUpper n' ↔ n = n' := by
  constructor
  · intro same
    rw [← hexValue_toDigits n, ← map_toLower_hexUpper, same, map_toLower_hexUpper,
      hexValue_toDigits]
  · rintro rfl
    rfl

end Chip8
