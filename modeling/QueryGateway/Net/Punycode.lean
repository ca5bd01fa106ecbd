/-!
# Punycode

Labels of host names that are not ASCII are written in ASCII: first the
characters that are, then the others in ascending order, each as the distance
from the one before, in digits of base 36 whose weight adapts to the distances
met so far.
-/

namespace QueryGateway
namespace Net
namespace Punycode

def digitChar (d : Nat) : Char :=
  if d < 26 then Char.ofNat ('a'.toNat + d) else Char.ofNat ('0'.toNat + d - 26)

/-- The value from which on a digit at this place is followed by another one. -/
def threshold (place bias : Nat) : Nat :=
  if place ≤ bias then 1 else if bias + 26 ≤ place then 26 else place - bias

theorem threshold_pos (place bias : Nat) : 1 ≤ threshold place bias := by
  unfold threshold
  split
  · omega
  · split <;> omega

theorem threshold_le (place bias : Nat) : threshold place bias ≤ 26 := by
  unfold threshold
  split
  · omega
  · split <;> omega

def shrink (delta steps : Nat) : Nat × Nat :=
  if 455 < delta then shrink (delta / 35) (steps + 36) else (delta, steps)
termination_by delta
decreasing_by exact Nat.div_lt_self (by omega) (by omega)

/-- The bias after a distance; `count` characters have been written by then. -/
def adapt (delta count : Nat) (first : Bool) : Nat :=
  let halved := if first then delta / 700 else delta / 2
  let (rest, steps) := shrink (halved + halved / count) 0
  steps + 36 * rest / (rest + 38)

def digits (bias place value : Nat) : List Char :=
  let t := threshold place bias
  if value < t then
    [digitChar value]
  else
    digitChar (t + (value - t) % (36 - t)) :: digits bias (place + 36) ((value - t) / (36 - t))
termination_by value
decreasing_by
  have lower := threshold_pos place bias
  have upper := threshold_le place bias
  have : (value - threshold place bias) / (36 - threshold place bias) ≤
      value - threshold place bias := Nat.div_le_self _ _
  omega

/-- Where the encoder stands: the least character not yet written, and what it counts. -/
structure State where
  next : Nat
  delta : Nat
  bias : Nat
  written : Nat

def writeChar (c : Nat) (basic : Nat) : State -> List Nat -> List Char × State
  | state, [] => ([], state)
  | state, x :: rest =>
      if x < c then
        writeChar c basic { state with delta := state.delta + 1 } rest
      else if x = c then
        let out := digits state.bias 36 state.delta
        let bias := adapt state.delta (state.written + 1) (state.written = basic)
        let (more, state) := writeChar c basic
          { state with delta := 0, bias, written := state.written + 1 } rest
        (out ++ more, state)
      else
        writeChar c basic state rest

def writeAll (basic : Nat) (label : List Nat) : State -> List Nat -> List Char
  | _, [] => []
  | state, c :: others =>
      let delta := state.delta + (c - state.next) * (state.written + 1)
      let (out, state) := writeChar c basic { state with delta } label
      out ++ writeAll basic label { state with delta := state.delta + 1, next := c + 1 } others

def encode (label : List Char) : List Char :=
  let basic := label.filter fun c => c.toNat < 0x80
  let others := ((label.filter fun c => !(c.toNat < 0x80)).map Char.toNat).eraseDups
  let start : State := ⟨0x80, 0, 72, basic.length⟩
  basic ++ (if basic.isEmpty then [] else ['-']) ++
    writeAll basic.length (label.map Char.toNat) start (others.mergeSort (· ≤ ·))

end Punycode
end Net
end QueryGateway
