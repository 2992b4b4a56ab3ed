import Chip8.Proofs.WellFormed

/-!
# Runs of the machine

A machine and its display, moved on step by step. A step is given its instruction (`Device.obey`) or
fetches it (`Device.cycle`), and `Device.after` is where a list of steps leads. A step that fails
does not end a run. What every step keeps, of one device or between two, a run of any length keeps.
-/

namespace Chip8

/-- A machine with the display that it draws on. -/
structure Device where
  machine : Machine
  screen : Bitmap

def Effect.device (effect : Effect) : Device := ⟨effect.machine, effect.screen⟩

namespace Device

/-- Runs the given instruction, with the random byte that it may use. -/
def obey (d : Device) (order : Instruction × Byte) : Effect :=
  d.machine.step d.screen order.2 order.1

/-- Runs the instruction at the program counter. -/
def cycle (d : Device) (random : Byte) : Effect := d.obey (d.machine.fetch, random)

theorem inBounds_obey {d : Device} (h : d.machine.InBounds) (order : Instruction × Byte) :
    (d.obey order).device.machine.InBounds :=
  h.step ..

variable {α : Type}

/-- The device after steps of a kind, one for each input. -/
def after (step : Device → α → Effect) (d : Device) (inputs : List α) : Device :=
  inputs.foldl (fun d input => (step d input).device) d

theorem after_cons (step : Device → α → Effect) (d : Device) (input : α) (rest : List α) :
    d.after step (input :: rest) = (step d input).device.after step rest :=
  rfl

theorem after_induction {step : Device → α → Effect} {P : Device → Prop}
    (keep : ∀ d input, P d → P (step d input).device) {d : Device} (start : P d)
    (inputs : List α) : P (d.after step inputs) := by
  induction inputs generalizing d with
  | nil => exact start
  | cons input rest ih => exact ih (keep d input start)

/-- What no step of a run changes, the run does not change. -/
theorem after_kept {β : Type} {step : Device → α → Effect} (f : Device → β) (d : Device)
    {inputs : List α} (kept : ∀ d, ∀ input ∈ inputs, f (step d input).device = f d) :
    f (d.after step inputs) = f d := by
  induction inputs generalizing d with
  | nil => rfl
  | cons input rest ih =>
    calc f (d.after step (input :: rest))
      _ = f (step d input).device :=
        ih (step d input).device fun d' later mem => kept d' later (List.mem_cons_of_mem _ mem)
      _ = f d := kept d input List.mem_cons_self

/-- What two kinds of steps keep between two devices, their runs keep. -/
theorem after_related {step step' : Device → α → Effect} {R : Device → Device → Prop}
    (keep : ∀ d d' input, R d d' → R (step d input).device (step' d' input).device)
    {d d' : Device} (start : R d d') (inputs : List α) :
    R (d.after step inputs) (d'.after step' inputs) := by
  induction inputs generalizing d d' with
  | nil => exact start
  | cons input rest ih => exact ih (keep d d' input start)

end Device

end Chip8
