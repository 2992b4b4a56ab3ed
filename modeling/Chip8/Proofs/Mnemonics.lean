import Chip8.Machine.Step
import Chip8.Proofs.HexText

/-!
# Reading mnemonics back

Many operations share a name: eleven are called `LD`, and only their operands tell them apart. They
do so always: a mnemonic falls into words (`words_mnemonic`), each operand can be told from its word
(`Operand.ofText?_text`), and the operation from its name and its operands
(`Operation.ofParts?_parts`). So the mnemonic of an operation can be read back
(`Operation.ofMnemonic?_mnemonic`), and instructions that are shown by the same text do the same
(`Machine.step_of_text`).
-/

namespace Chip8

/-- What an operand may be beside the sixteen registers and the numbers in a word: what is read or
written is named, not numbered. -/
inductive Special where
  | index | delay | sound | key | digit | decimals | memory
  deriving DecidableEq, Repr

def Special.text : Special → String
  | index => "I"
  | delay => "DT"
  | sound => "ST"
  | key => "K"
  | digit => "F"
  | decimals => "B"
  | memory => "[I]"

inductive Operand where
  | reg (r : Reg)
  | byte (b : Byte)
  | addr (a : Address)
  | height (n : Fin 16)
  | special (s : Special)
  deriving DecidableEq, Repr

namespace Operand

def text : Operand → String
  | reg r => r.text
  | byte b => hexMarked 2 b.toNat
  | addr a => hexMarked 3 a.toNat
  | height n => toString n.val
  | special s => s.text

/-- The operands that are not written in hexadecimal. -/
def named : List Operand :=
  (List.finRange 16).map reg ++ (List.finRange 16).map height ++
    [.index, .delay, .sound, .key, .digit, .decimals, .memory].map special

/-- The operand with the given text. Two hexadecimal digits are a byte, any other number of them
an address. -/
def ofText? : List Char → Option Operand
  | '0' :: 'x' :: digits =>
    if digits.length = 2 then some (.byte (BitVec.ofNat 8 (hexValue digits)))
    else some (.addr (BitVec.ofNat 12 (hexValue digits)))
  | text => named.find? (·.text.toList == text)

theorem ofText?_reg : ∀ r, ofText? (reg r).text.toList = some (reg r) := by decide

theorem ofText?_height : ∀ n, ofText? (height n).text.toList = some (height n) := by decide

theorem ofText?_text (operand : Operand) : ofText? operand.text.toList = some operand := by
  cases operand with
  | reg r => exact ofText?_reg r
  | byte b =>
    have few : (Nat.toDigits 16 b.toNat).length ≤ 2 :=
      (Nat.length_toDigits_le_iff (by decide) (by decide)).2 b.isLt
    simp [text, hexMarked, ofText?, length_hex few, hexValue_hex]
  | addr a =>
    have few : (Nat.toDigits 16 a.toNat).length ≤ 3 :=
      (Nat.length_toDigits_le_iff (by decide) (by decide)).2 a.isLt
    simp [text, hexMarked, ofText?, length_hex few, hexValue_hex]
  | height n => exact ofText?_height n
  | special s => cases s <;> decide

theorem mapM_ofText? (operands : List Operand) :
    (operands.map (·.text.toList)).mapM ofText? = some operands := by
  induction operands with
  | nil => rfl
  | cons operand rest ih =>
    rw [List.map_cons, List.mapM_cons, operand.ofText?_text, ih]
    rfl

/-- The text of an operand is one word, without a comma. -/
theorem text_unbroken (operand : Operand) :
    ' ' ∉ operand.text.toList ∧ ',' ∉ operand.text.toList := by
  have digits (width n : Nat) :
      ' ' ∉ (hexMarked width n).toList ∧ ',' ∉ (hexMarked width n).toList :=
    ⟨fun space => absurd (isAlphanum_of_mem_hexMarked space) (by decide),
      fun comma => absurd (isAlphanum_of_mem_hexMarked comma) (by decide)⟩
  cases operand with
  | reg r => revert r; decide
  | byte b => exact digits 2 b.toNat
  | addr a => exact digits 3 a.toNat
  | height n => revert n; decide
  | special s => cases s <;> decide

theorem filter_text (operand : Operand) :
    operand.text.toList.filter (· != ',') = operand.text.toList := by
  rw [List.filter_eq_self]
  intro c mem
  refine bne_iff_ne.2 ?_
  rintro rfl
  exact operand.text_unbroken.2 mem

end Operand

namespace Operation

/-- The name of an operation and its operands, as they stand in its mnemonic. -/
def parts : Operation → String × List Operand
  | clear => ("CLS", [])
  | ret => ("RET", [])
  | sys addr => ("SYS", [.addr addr])
  | jump addr => ("JP", [.addr addr])
  | call addr => ("CALL", [.addr addr])
  | skipEqByte x kk => ("SE", [.reg x, .byte kk])
  | skipNeByte x kk => ("SNE", [.reg x, .byte kk])
  | skipEqReg x y => ("SE", [.reg x, .reg y])
  | setByte x kk => ("LD", [.reg x, .byte kk])
  | addByte x kk => ("ADD", [.reg x, .byte kk])
  | copy x y => ("LD", [.reg x, .reg y])
  | or x y => ("OR", [.reg x, .reg y])
  | and x y => ("AND", [.reg x, .reg y])
  | xor x y => ("XOR", [.reg x, .reg y])
  | add x y => ("ADD", [.reg x, .reg y])
  | sub x y => ("SUB", [.reg x, .reg y])
  | shiftRight x => ("SHR", [.reg x])
  | subReversed x y => ("SUBN", [.reg x, .reg y])
  | shiftLeft x => ("SHL", [.reg x])
  | skipNeReg x y => ("SNE", [.reg x, .reg y])
  | setIndex addr => ("LD", [.special .index, .addr addr])
  | jumpOffset addr => ("JP", [.reg .zero, .addr addr])
  | random x kk => ("RND", [.reg x, .byte kk])
  | draw x y n => ("DRW", [.reg x, .reg y, .height n])
  | skipKey x => ("SKP", [.reg x])
  | skipNoKey x => ("SKNP", [.reg x])
  | getDelay x => ("LD", [.reg x, .special .delay])
  | awaitKey x => ("LD", [.reg x, .special .key])
  | setDelay x => ("LD", [.special .delay, .reg x])
  | setSound x => ("LD", [.special .sound, .reg x])
  | addIndex x => ("ADD", [.special .index, .reg x])
  | glyph x => ("LD", [.special .digit, .reg x])
  | decimal x => ("LD", [.special .decimals, .reg x])
  | store x => ("LD", [.special .memory, .reg x])
  | load x => ("LD", [.reg x, .special .memory])

/-- The operation with a name and operands. -/
def ofParts? : String → List Operand → Option Operation
  | "CLS", [] => some clear
  | "RET", [] => some ret
  | "SYS", [.addr addr] => some (sys addr)
  | "JP", [.addr addr] => some (jump addr)
  | "JP", [.reg x, .addr addr] => if x = .zero then some (jumpOffset addr) else none
  | "CALL", [.addr addr] => some (call addr)
  | "SE", [.reg x, .byte kk] => some (skipEqByte x kk)
  | "SE", [.reg x, .reg y] => some (skipEqReg x y)
  | "SNE", [.reg x, .byte kk] => some (skipNeByte x kk)
  | "SNE", [.reg x, .reg y] => some (skipNeReg x y)
  | "LD", [.reg x, .byte kk] => some (setByte x kk)
  | "LD", [.reg x, .reg y] => some (copy x y)
  | "LD", [.reg x, .special .delay] => some (getDelay x)
  | "LD", [.reg x, .special .key] => some (awaitKey x)
  | "LD", [.reg x, .special .memory] => some (load x)
  | "LD", [.special .index, .addr addr] => some (setIndex addr)
  | "LD", [.special .delay, .reg x] => some (setDelay x)
  | "LD", [.special .sound, .reg x] => some (setSound x)
  | "LD", [.special .digit, .reg x] => some (glyph x)
  | "LD", [.special .decimals, .reg x] => some (decimal x)
  | "LD", [.special .memory, .reg x] => some (store x)
  | "ADD", [.reg x, .byte kk] => some (addByte x kk)
  | "ADD", [.reg x, .reg y] => some (add x y)
  | "ADD", [.special .index, .reg x] => some (addIndex x)
  | "OR", [.reg x, .reg y] => some (or x y)
  | "AND", [.reg x, .reg y] => some (and x y)
  | "XOR", [.reg x, .reg y] => some (xor x y)
  | "SUB", [.reg x, .reg y] => some (sub x y)
  | "SUBN", [.reg x, .reg y] => some (subReversed x y)
  | "SHR", [.reg x] => some (shiftRight x)
  | "SHL", [.reg x] => some (shiftLeft x)
  | "RND", [.reg x, .byte kk] => some (random x kk)
  | "DRW", [.reg x, .reg y, .height n] => some (draw x y n)
  | "SKP", [.reg x] => some (skipKey x)
  | "SKNP", [.reg x] => some (skipNoKey x)
  | _, _ => none

theorem ofParts?_parts (op : Operation) : ofParts? op.parts.1 op.parts.2 = some op := by
  cases op <;> rfl

/-- The words of a text, without its commas. -/
def words (text : String) : List (List Char) := (text.toList.filter (· != ',')).splitOn ' '

/-- The words of a mnemonic are the name and the operands. -/
theorem words_mnemonic (op : Operation) :
    words op.mnemonic = op.parts.1.toList :: op.parts.2.map (·.text.toList) := by
  have reg (r : Reg) : r.text.toList.filter (· != ',') = r.text.toList :=
    (Operand.reg r).filter_text
  have byte (b : Byte) :
      (hexMarked 2 b.toNat).toList.filter (· != ',') = (hexMarked 2 b.toNat).toList :=
    (Operand.byte b).filter_text
  have addr (a : Address) :
      (hexMarked 3 a.toNat).toList.filter (· != ',') = (hexMarked 3 a.toNat).toList :=
    (Operand.addr a).filter_text
  have height (n : Fin 16) :
      (Nat.toDigits 10 n.val).filter (· != ',') = Nat.toDigits 10 n.val := by
    simpa [Operand.text] using (Operand.height n).filter_text
  have zero : Reg.zero.text.toList = ['V', '0'] := by decide
  have joined : op.mnemonic.toList.filter (· != ',') =
      [' '].intercalate (op.parts.1.toList :: op.parts.2.map (·.text.toList)) := by
    cases op <;>
      simp [mnemonic, parts, Operand.text, Special.text, reg, byte, addr, height, zero]
  have unbroken : ∀ word ∈ op.parts.1.toList :: op.parts.2.map (·.text.toList), ' ' ∉ word := by
    intro word mem
    obtain rfl | mem := List.mem_cons.1 mem
    · cases op <;> simp [parts]
    · obtain ⟨operand, -, rfl⟩ := List.mem_map.1 mem
      exact operand.text_unbroken.1
  rw [words, joined, List.splitOn_intercalate _ unbroken (List.cons_ne_nil _ _)]

/-- The operation with the given mnemonic. -/
def ofMnemonic? (text : String) : Option Operation :=
  match words text with
  | [] => none
  | name :: operands => do ofParts? (String.ofList name) (← operands.mapM Operand.ofText?)

theorem ofMnemonic?_mnemonic (op : Operation) : ofMnemonic? op.mnemonic = some op := by
  simp only [ofMnemonic?, words_mnemonic, Operand.mapM_ofText?, String.ofList_toList]
  exact ofParts?_parts op

/-- The characters that mnemonics are written with: letters, digits and a little punctuation. -/
def IsMnemonicChar (c : Char) : Prop := c.isAlphanum = true ∨ c ∈ [' ', ',', '[', ']']

instance : DecidablePred IsMnemonicChar := fun c =>
  inferInstanceAs (Decidable (c.isAlphanum = true ∨ c ∈ [' ', ',', '[', ']']))

theorem isMnemonicChar_of_mem_mnemonic (op : Operation) :
    ∀ c ∈ op.mnemonic.toList, IsMnemonicChar c := by
  have reg : ∀ r : Reg, r.text.toList.all Char.isAlphanum = true := by decide
  have height : ∀ n : Fin 16, (Nat.toDigits 10 n.val).all Char.isAlphanum = true := by decide
  have digits (width n : Nat) : ∀ c ∈ (hexMarked width n).toList, c.isAlphanum = true :=
    fun _ mem => isAlphanum_of_mem_hexMarked mem
  simp only [List.all_eq_true] at reg height
  cases op <;> simp [mnemonic, IsMnemonicChar, or_imp, forall_and] <;> grind

end Operation

theorem Instruction.isMnemonicChar_of_mem_text {i : Instruction} {c : Char}
    (mem : c ∈ i.text.toList) : Operation.IsMnemonicChar c := by
  unfold text at mem
  split at mem
  · next op _ => exact op.isMnemonicChar_of_mem_mnemonic c mem
  · have letters : "UNKNOWN".toList.all Char.isAlphanum = true := by decide
    exact .inl (List.all_eq_true.1 letters c mem)

/-- What an instruction stands for can be read from its text, also if it stands for nothing. -/
theorem Instruction.ofMnemonic?_text (i : Instruction) :
    Operation.ofMnemonic? i.text = i.operation? := by
  unfold text
  cases i.operation? with
  | none => decide
  | some op => exact op.ofMnemonic?_mnemonic

/-- Two instructions that are shown by the same mnemonic do the same to every machine, whatever
their words are and wherever they come from. -/
theorem Machine.step_of_text {i i' : Instruction} (same : i.text = i'.text)
    (known : i.text ≠ "UNKNOWN") (m : Machine) (screen : Bitmap) (random : Byte) :
    m.step screen random i = m.step screen random i' := by
  have operation : i.operation? = i'.operation? := by
    rw [← i.ofMnemonic?_text, same, i'.ofMnemonic?_text]
  cases read : i.operation? with
  | none => exact absurd (by rw [Instruction.text, read]) known
  | some op => simp only [step, ← operation, read]

/-- The second register of a shift is neither shown nor used. -/
theorem Machine.step_of_text_of_shift :
    let m := { ofFont ⟨.replicate 80 0⟩ with v := .replicate 16 0x81 }
    let i : Instruction := ⟨0x8126, 0x200⟩
    let i' : Instruction := ⟨0x81F6, 0xE00⟩
    i.text = "SHR V1" ∧ i'.text = "SHR V1" ∧ (m.step .blank 0 i).machine.reg 1 = 0x40 ∧
      m.step .blank 0 i = m.step .blank 0 i' :=
  ⟨by decide, by decide, rfl, step_of_text (by decide) (by decide) _ _ _⟩

end Chip8
