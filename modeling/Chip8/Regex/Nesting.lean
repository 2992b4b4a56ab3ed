import Chip8.Regex.Fault
import Chip8.Regex.Syntax

/-!
# Nesting

Patterns are refused whose parts are nested too deeply. Groups, sets, repetitions, and parts
that stand in a row or beside each other count as a level each; single characters do not.
-/

namespace Chip8.Regex

/-- One level further inside, if the limit allows. -/
def deeper (depth : Nat) (span : Span) : Except Fault Nat :=
  if nestingLimit ≤ depth then .error ⟨.nestedTooDeeply, span, none⟩ else .ok (depth + 1)

mutual

def SetNode.checkNesting (depth : Nat) : SetNode → Except Fault Unit
  | .bracketed span _ content => do content.checkNesting (← deeper depth span)
  | .union span items => do SetNode.checkNestings (← deeper depth span) items
  | .operation _ left right => do
    let depth ← deeper depth (left.span.upTo right.span)
    left.checkNesting depth
    right.checkNesting depth
  | _ => .ok ()

def SetNode.checkNestings (depth : Nat) : List SetNode → Except Fault Unit
  | [] => .ok ()
  | n :: rest => do
    n.checkNesting depth
    SetNode.checkNestings depth rest

end

mutual

def Node.checkNesting (depth : Nat) : Node → Except Fault Unit
  | .set span _ content => do content.checkNesting (← deeper depth span)
  | .repetition span _ _ node => do node.checkNesting (← deeper depth span)
  | .group span _ _ node => do node.checkNesting (← deeper depth span)
  | .concat span nodes => do Node.checkNestings (← deeper depth span) nodes
  | .alternation span nodes => do Node.checkNestings (← deeper depth span) nodes
  | _ => .ok ()

def Node.checkNestings (depth : Nat) : List Node → Except Fault Unit
  | [] => .ok ()
  | n :: rest => do
    n.checkNesting depth
    Node.checkNestings depth rest

end

end Chip8.Regex
