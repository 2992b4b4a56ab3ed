import Chip8.Proofs.MachineRuns

/-!
# The call stack as a list

The live slots of the stack are a list of return addresses, the innermost last
(`Machine.returns`). Calls and returns act on it as on a list of at most sixteen addresses
(`CallStack.next`), and nothing else touches it, so what is left in the slots above never comes
back. What lies below a depth that a run does not leave stays as it is (`Device.take_returns`):
however deep the calls in between, a return goes back behind its own call
(`Device.returns_refine`).
-/

namespace Chip8

/-- Return addresses, the innermost last. -/
abbrev CallStack := List Word

namespace CallStack

/-- What an operation that runs at `pc` makes of the return addresses. A call at all sixteen and a
return without any fail and leave them alone. -/
def next (returns : CallStack) (pc : Word) : Option Operation → CallStack
  | some (.call _) => if returns.length < 16 then returns ++ [pc + 2] else returns
  | some .ret => returns.dropLast
  | _ => returns

/-- The return addresses after operations, each with the address it ran at. -/
def after (returns : CallStack) (visits : List (Word × Option Operation)) : CallStack :=
  visits.foldl (fun returns visit => returns.next visit.1 visit.2) returns

variable (returns : CallStack) (pc : Word)

theorem next_call (addr : Address) :
    returns.next pc (some (.call addr)) =
      if returns.length < 16 then returns ++ [pc + 2] else returns := rfl

theorem next_ret : returns.next pc (some .ret) = returns.dropLast := rfl

/-- What lies below a depth that the operation does not leave stays as it is. -/
theorem take_next {op : Option Operation} {n : Nat} (before : n ≤ returns.length)
    (after : n ≤ (returns.next pc op).length) :
    (returns.next pc op).take n = returns.take n := by
  cases op with
  | none => rfl
  | some op =>
    cases op with
    | call addr =>
      rw [next_call]
      split
      · exact List.take_append_of_le_length before
      · rfl
    | ret =>
      rw [next_ret, List.length_dropLast] at after
      rw [next_ret, List.dropLast_eq_take, List.take_take, Nat.min_eq_left after]
    | _ => rfl

end CallStack

namespace Machine

variable {m m' : Machine} {a : Word} {i : Instruction}

/-- The live slots of the stack. -/
def returns (m : Machine) : CallStack := m.stack.toList.take m.depth

theorem length_returns (h : m.InBounds) : m.returns.length = m.depth := by
  have bound := h.depth_le
  simp only [returns, List.length_take, Vector.length_toList]
  omega

theorem returns_of_push? (h : m.push? a = some m') : m'.returns = m.returns ++ [a] := by
  obtain ⟨room, rfl⟩ := push?_eq_some_iff.1 h
  have slot : m.depth < (m.stack.set m.depth a).toList.length := by simpa using room
  rw [returns, List.take_succ_eq_append_getElem slot]
  simp [returns, Vector.toList_set, List.take_set_of_le]

theorem returns_of_pop? (h : m.InBounds) (popped : m.pop? = some (a, m')) :
    m.returns = m'.returns ++ [a] := by
  obtain ⟨d, depth, rfl, rfl⟩ := pop?_eq_some_iff.1 popped
  have bound := h.depth_le
  have slot : d < 16 := by omega
  have inside : d < m.stack.toList.length := by simpa using slot
  rw [returns, depth, List.take_succ_eq_append_getElem inside]
  simp [returns, slot]

/-- A call at all sixteen depths in use fails, any other puts the address behind it on the list. -/
theorem step_call (h : m.InBounds) (screen : Bitmap) (random : Byte) {addr : Address}
    (calls : i.operation? = some (.call addr)) :
    let effect := m.step screen random i
    m.returns.length = 16 ∧ effect.result = .error (.overflow m.pc) ∧
        effect.machine.returns = m.returns ∨
      m.returns.length < 16 ∧ effect.result = .ok .continued ∧
        effect.machine.returns = m.returns ++ [m.pc + 2] := by
  have bound := h.depth_le
  -- The fault names the instruction, which the program counter has left by then.
  have pc : m.pc + 2 - 2 = m.pc := BitVec.add_sub_cancel ..
  simp only [step, calls, execute]
  cases pushed : { m with pc := m.pc + 2 }.push? (m.pc + 2) with
  | none =>
    have full : ¬ m.depth < 16 := by
      intro room
      rw [push?, dif_pos room] at pushed
      cases pushed
    exact .inl ⟨by rw [length_returns h]; omega, by simp only [pc], rfl⟩
  | some m' =>
    obtain ⟨room, -⟩ := push?_eq_some_iff.1 pushed
    have more := returns_of_push? pushed
    exact .inr ⟨by rw [length_returns h]; exact room, rfl, more⟩

/-- A return without an address fails, any other goes on at the last one and takes it off. -/
theorem step_ret (h : m.InBounds) (screen : Bitmap) (random : Byte)
    (returning : i.operation? = some .ret) :
    let effect := m.step screen random i
    m.returns = [] ∧ effect.result = .error (.underflow m.pc) ∧
        effect.machine.returns = m.returns ∨
      effect.result = .ok .continued ∧
        m.returns = effect.machine.returns ++ [effect.machine.pc] := by
  have pc : m.pc + 2 - 2 = m.pc := BitVec.add_sub_cancel ..
  have advanced : { m with pc := m.pc + 2 }.InBounds := h.congr rfl rfl
  simp only [step, returning, execute]
  cases popped : { m with pc := m.pc + 2 }.pop? with
  | none =>
    have empty : m.depth = 0 := by
      cases depth : m.depth with
      | zero => rfl
      | succ d => simp [pop?, depth] at popped
    exact .inl ⟨by simp [returns, empty], by simp only [pc], rfl⟩
  | some taken =>
    obtain ⟨address, m'⟩ := taken
    have fewer := returns_of_pop? advanced popped
    exact .inr ⟨rfl, fewer⟩

/-- Only calls and returns touch the stack or fail. -/
theorem execute_other (m : Machine) (screen : Bitmap) (random : Byte) {op : Operation}
    (notCall : ∀ addr, op ≠ .call addr) (notRet : op ≠ .ret) :
    let effect := m.execute screen random op
    (∃ outcome, effect.result = .ok outcome) ∧ effect.machine.stack = m.stack ∧
      effect.machine.depth = m.depth := by
  cases op with
  | ret => exact absurd rfl notRet
  | call addr => exact absurd rfl (notCall addr)
  | skipEqByte | skipNeByte | skipEqReg | skipNeReg | skipKey | skipNoKey =>
    simp only [execute, skipIf_eq, and_self, and_true]
    exact ⟨_, rfl⟩
  | _ =>
    simp only [execute, setReg, setFlag, and_self, and_true]
    exact ⟨_, rfl⟩

theorem step_other (m : Machine) (screen : Bitmap) (random : Byte)
    (notCall : ∀ addr, i.operation? ≠ some (.call addr)) (notRet : i.operation? ≠ some .ret) :
    let effect := m.step screen random i
    (∃ outcome, effect.result = .ok outcome) ∧ effect.machine.returns = m.returns := by
  simp only [step]
  cases operation : i.operation? with
  | none => exact ⟨⟨_, rfl⟩, rfl⟩
  | some op =>
    have other : (∀ addr, op ≠ .call addr) ∧ op ≠ .ret := by
      constructor
      · rintro addr rfl
        exact notCall addr operation
      · rintro rfl
        exact notRet operation
    obtain ⟨result, stack, depth⟩ :=
      execute_other { m with pc := m.pc + 2 } screen random other.1 other.2
    refine ⟨result, ?_⟩
    simp only [returns, tickTimers, stack, depth]

/-- The step on the list is the step of the machine. -/
theorem returns_step (h : m.InBounds) (screen : Bitmap) (random : Byte) (i : Instruction) :
    (m.step screen random i).machine.returns = m.returns.next m.pc i.operation? := by
  by_cases calls : ∃ addr, i.operation? = some (.call addr)
  · obtain ⟨addr, calls⟩ := calls
    obtain ⟨full, -, same⟩ | ⟨room, -, more⟩ := step_call h screen random calls
    · simp [same, calls, CallStack.next_call, full]
    · simp [more, calls, CallStack.next_call, room]
  by_cases returning : i.operation? = some .ret
  · obtain ⟨empty, -, same⟩ | ⟨-, fewer⟩ := step_ret h screen random returning
    · simp [same, returning, CallStack.next_ret, empty]
    · simp [returning, CallStack.next_ret, fewer]
  · rw [not_exists] at calls
    rw [(step_other m screen random calls returning).2]
    cases operation : i.operation? with
    | none => rfl
    | some op =>
      cases op with
      | ret => exact absurd operation returning
      | call addr => exact absurd operation (calls addr)
      | _ => rfl

end Machine

namespace Device

variable {d : Device}

/-- The operations that run, each with the address it runs at. -/
def visits (d : Device) : List (Instruction × Byte) → List (Word × Option Operation)
  | [] => []
  | order :: rest => (d.machine.pc, order.1.operation?) :: (d.obey order).device.visits rest

theorem inBounds_after (h : d.machine.InBounds) (orders : List (Instruction × Byte)) :
    (d.after obey orders).machine.InBounds :=
  after_induction (P := fun d => d.machine.InBounds) (fun _ order h => inBounds_obey h order)
    h orders

theorem returns_after (h : d.machine.InBounds) (orders : List (Instruction × Byte)) :
    (d.after obey orders).machine.returns =
      CallStack.after d.machine.returns (d.visits orders) := by
  induction orders generalizing d with
  | nil => rfl
  | cons order rest ih =>
    have first : (d.obey order).device.machine.returns = _ := Machine.returns_step h ..
    have others := ih (inBounds_obey h order)
    rw [first] at others
    exact others

/-- The run does not come below the depth it starts at. -/
def StaysAbove (d : Device) (orders : List (Instruction × Byte)) : Prop :=
  ∀ part, part <+: orders → d.machine.depth ≤ (d.after obey part).machine.depth

/-- What lies below a depth that the run does not come under stays as it is. -/
theorem take_returns (h : d.machine.InBounds) {n : Nat} {orders : List (Instruction × Byte)}
    (above : ∀ part, part <+: orders → n ≤ (d.after obey part).machine.depth) :
    (d.after obey orders).machine.returns.take n = d.machine.returns.take n := by
  induction orders generalizing d with
  | nil => rfl
  | cons order rest ih =>
    -- Both ends of the first step are above the depth, as parts of the run.
    have next := inBounds_obey h order
    have stepped : (d.obey order).device.machine.returns = _ := Machine.returns_step h ..
    have before : n ≤ d.machine.returns.length := by
      rw [Machine.length_returns h]
      exact above [] (List.nil_prefix ..)
    have after : n ≤ (d.obey order).device.machine.returns.length := by
      rw [Machine.length_returns next]
      exact above [order] (by simp)
    have others := ih next fun part mem => above (order :: part) (by simpa using mem)
    rw [stepped] at others after
    exact others.trans (CallStack.take_next _ _ before after)

/-- A run that comes back to the depth that it stayed above leaves every return address in place. -/
theorem returns_of_staysAbove (h : d.machine.InBounds) {orders : List (Instruction × Byte)}
    (above : d.StaysAbove orders)
    (level : (d.after obey orders).machine.depth = d.machine.depth) :
    (d.after obey orders).machine.returns = d.machine.returns := by
  have length := Machine.length_returns (inBounds_after h orders)
  rw [level] at length
  calc (d.after obey orders).machine.returns
    _ = (d.after obey orders).machine.returns.take d.machine.depth :=
        (List.take_of_length_le (Nat.le_of_eq length)).symm
    _ = d.machine.returns.take d.machine.depth := take_returns h above
    _ = d.machine.returns :=
        List.take_of_length_le (Nat.le_of_eq (Machine.length_returns h))

/-- A return at the depth of a call goes back behind the call, if what ran in between did not come
below that depth. -/
theorem return_of_staysAbove (h : d.machine.InBounds) {call ret : Instruction × Byte}
    {addr : Address} {inner : List (Instruction × Byte)}
    (calls : call.1.operation? = some (.call addr)) (enters : (d.obey call).result = .ok .continued)
    (above : (d.obey call).device.StaysAbove inner)
    (level : ((d.obey call).device.after obey inner).machine.depth = (d.obey call).machine.depth)
    (returning : ret.1.operation? = some .ret) :
    let back := ((d.obey call).device.after obey inner).obey ret
    back.result = .ok .continued ∧ back.machine.pc = d.machine.pc + 2 ∧
      back.machine.returns = d.machine.returns := by
  intro back
  have called := inBounds_obey h call
  have inside := inBounds_after called inner
  have pushed : (d.obey call).machine.returns = d.machine.returns ++ [d.machine.pc + 2] := by
    obtain ⟨-, fails, -⟩ | ⟨-, -, more⟩ := Machine.step_call h d.screen call.2 calls
    · exact absurd (enters.symm.trans fails) nofun
    · exact more
  have kept : ((d.obey call).device.after obey inner).machine.returns =
      (d.obey call).machine.returns := returns_of_staysAbove called above level
  obtain ⟨empty, -, -⟩ | ⟨result, fewer⟩ :=
    Machine.step_ret inside ((d.obey call).device.after obey inner).screen ret.2 returning
  · rw [kept, pushed] at empty
    exact absurd empty (by simp)
  · rw [kept, pushed] at fewer
    obtain ⟨outer, resumed⟩ := List.append_inj' fewer rfl
    exact ⟨result, (List.singleton_inj.1 resumed).symm, outer.symm⟩

/-- A machine that has not run starts with no return addresses. After any instructions, failed ones
included, its stack holds what the list of return addresses holds: a call fails at sixteen of them
and puts the address behind it at the end otherwise, a return fails without any and goes to the last
one otherwise, which is taken off, and nothing else fails or changes them. So a return at the depth
of a call goes back behind it, to the return addresses from before the call. -/
theorem returns_refine (font : Font) (memory : Memory) (screen : Bitmap)
    (before : List (Instruction × Byte)) (order : Instruction × Byte) :
    let start : Device := ⟨{ Machine.ofFont font with memory }, screen⟩
    let now := start.after obey before
    let effect := now.obey order
    let stack := CallStack.after [] (start.visits before)
    now.machine.returns = stack ∧
      (∀ addr, order.1.operation? = some (.call addr) →
        stack.length = 16 ∧ effect.result = .error (.overflow now.machine.pc) ∧
            effect.machine.returns = stack ∨
          stack.length < 16 ∧ effect.result = .ok .continued ∧
            effect.machine.returns = stack ++ [now.machine.pc + 2]) ∧
      (order.1.operation? = some .ret →
        stack = [] ∧ effect.result = .error (.underflow now.machine.pc) ∧
            effect.machine.returns = stack ∨
          effect.result = .ok .continued ∧
            stack = effect.machine.returns ++ [effect.machine.pc]) ∧
      ((∀ addr, order.1.operation? ≠ some (.call addr)) → order.1.operation? ≠ some .ret →
        (∃ outcome, effect.result = .ok outcome) ∧ effect.machine.returns = stack) ∧
      ∀ addr inner ret, order.1.operation? = some (.call addr) → effect.result = .ok .continued →
        effect.device.StaysAbove inner →
        (effect.device.after obey inner).machine.depth = effect.machine.depth →
        ret.1.operation? = some .ret →
        let back := (effect.device.after obey inner).obey ret
        back.result = .ok .continued ∧ back.machine.pc = now.machine.pc + 2 ∧
          back.machine.returns = stack := by
  intro start now effect stack
  have fresh : start.machine.InBounds := (Machine.InBounds.ofFont font).congr rfl rfl
  have ready : now.machine.InBounds := inBounds_after fresh before
  have same : now.machine.returns = stack := returns_after fresh before
  rw [← same]
  refine ⟨rfl, ?_, ?_, ?_, ?_⟩
  · exact fun _ calls => Machine.step_call ready now.screen order.2 calls
  · exact Machine.step_ret ready now.screen order.2
  · exact Machine.step_other now.machine now.screen order.2
  · exact fun _ _ _ calls enters above level returning =>
      return_of_staysAbove ready calls enters above level returning

/-- The stale slot of a subroutine that was called and left in between is not returned to. -/
theorem returns_refine_of_nested :
    let start : Device := ⟨{ Machine.ofFont .standard with memory := .ofFont .standard }, .blank⟩
    let call : Instruction × Byte := (⟨0x2300, 0x200⟩, 0)
    let inner : List (Instruction × Byte) := [(⟨0x2400, 0x300⟩, 0), (⟨0x00EE, 0x400⟩, 0)]
    let ret : Instruction × Byte := (⟨0x00EE, 0x302⟩, 0)
    let back := ((start.obey call).device.after obey inner).obey ret
    back.machine.stack[1] = 0x302 ∧ back.machine.pc = 0x202 ∧ back.machine.returns = [] := by
  intro start call inner ret back
  have above : (start.obey call).device.StaysAbove inner := by
    intro part mem
    simp only [inner, List.prefix_cons_iff, List.prefix_nil] at mem
    obtain rfl | ⟨_, rfl, rfl | ⟨_, rfl, rfl⟩⟩ := mem <;> decide
  have calls : call.1.operation? = some (.call 0x300) := by decide
  have level : ((start.obey call).device.after obey inner).machine.depth =
      (start.obey call).machine.depth := by decide
  obtain ⟨-, called, -, -, returned⟩ := returns_refine .standard (.ofFont .standard) .blank [] call
  obtain ⟨full, -⟩ | ⟨-, enters, -⟩ := called 0x300 calls
  · cases full
  obtain ⟨-, pc, returns⟩ := returned 0x300 inner ret calls enters above level (by decide)
  exact ⟨by decide, pc, returns⟩

end Device

end Chip8
