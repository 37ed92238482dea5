import TalkTimer.Validation
import TalkTimer.Segment
import TalkTimer.Section

/-!
# Scripts

A script is a source text that passed validation, cut into blocks. `Script.parse` is the
one gate: nothing with a faulty marker becomes a script.
-/

namespace TalkTimer

/-- A script that is ready to present; `sourceId` tells its file in reports. -/
structure Script where
  blocks : List Block
  sourceId : Nat
  deriving DecidableEq, Repr

namespace Script

/-- Read a script, or say everything that is wrong with it. -/
def parse (sourceId : Nat) (source : Text) : Except (List Finding) Script :=
  match validate source with
  | [] => .ok ⟨segment source, sourceId⟩
  | findings => .error findings

theorem parse_of_valid {source : Text} (h : validate source = []) (sourceId : Nat) :
    parse sourceId source = .ok ⟨segment source, sourceId⟩ := by
  rw [parse, h]

theorem parse_of_findings {source : Text} (h : validate source ≠ []) (sourceId : Nat) :
    parse sourceId source = .error (validate source) := by
  rw [parse]
  split
  · next hvalid => exact absurd hvalid h
  · rfl

/-- Whether there is nothing to present. -/
def isEmpty (s : Script) : Bool := s.blocks.isEmpty

/-- The planned running time of the script in seconds. -/
def scheduledTotal (s : Script) : UInt32 := TalkTimer.scheduledTotal s.blocks

end Script
end TalkTimer
