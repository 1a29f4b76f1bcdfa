/-
Punycode: how a label with characters beyond ASCII is written in letters,
digits and hyphens. The characters are inserted in the order of their
code points; what is written is how far apart the insertions are.
-/
import Sdwan.Text.Blank

namespace Sdwan.Url.Punycode

/-- `a` to `z` are 0 to 25, `0` to `9` are 26 to 35. -/
def digitChar (d : Nat) : Char :=
  if d < 26 then Char.ofNat (97 + d) else Char.ofNat (22 + d)

/-- The value of a digit of either case. -/
def digitValue? (c : Char) : Option Nat :=
  let n := c.toNat
  if 97 ≤ n ∧ n ≤ 122 then some (n - 97)
  else if 65 ≤ n ∧ n ≤ 90 then some (n - 65)
  else if 48 ≤ n ∧ n ≤ 57 then some (n - 22)
  else none

/-- The threshold of the digit at position `k`: between 1 and 26. -/
def threshold (k bias : Nat) : Nat := min 26 (max 1 (k - bias))

theorem threshold_pos (k bias : Nat) : 1 ≤ threshold k bias := by
  unfold threshold; omega

theorem threshold_le (k bias : Nat) : threshold k bias ≤ 26 := by
  unfold threshold; omega

/-- Divides by 35 until at most 455 is left, counting in steps of 36. -/
def scaleDown (delta k : Nat) : Nat × Nat :=
  if 455 < delta then scaleDown (delta / 35) (k + 36) else (delta, k)
termination_by delta
decreasing_by omega

/-- The bias for the next insertion. -/
def adapt (delta points : Nat) (first : Bool) : Nat :=
  let d := if first then delta / 700 else delta / 2
  let (d, k) := scaleDown (d + d / points) 0
  k + 36 * d / (d + 38)

/-- A number in digits whose weights depend on the bias. -/
def encodeNumber (bias k n : Nat) : List Char :=
  let t := threshold k bias
  if n < t then [digitChar n]
  else digitChar (t + (n - t) % (36 - t)) :: encodeNumber bias (k + 36) ((n - t) / (36 - t))
termination_by n
decreasing_by
  have := threshold_pos k bias
  have := threshold_le k bias
  exact Nat.lt_of_le_of_lt (Nat.div_le_self _ _) (by omega)

/-- What has been written, and the distance to the next insertion. -/
structure Encoder where
  out : List Char
  delta : Nat
  bias : Nat
  handled : Nat

/-- One character of the label while code point `m` is being inserted. -/
def Encoder.step (basic m : Nat) (e : Encoder) (c : Char) : Encoder :=
  if c.toNat < m then { e with delta := e.delta + 1 }
  else if c.toNat == m then
    { out := e.out ++ encodeNumber e.bias 36 e.delta, delta := 0,
      bias := adapt e.delta (e.handled + 1) (e.handled == basic), handled := e.handled + 1 }
  else e

/-- Inserts the code points one after the other, from `n` on. -/
def insertAll (label : List Char) (basic : Nat) : (points : List Nat) → (n : Nat) →
    Encoder → Encoder
  | [], _, e => e
  | m :: ms, n, e =>
    let e := { e with delta := e.delta + (m - n) * (e.handled + 1) }
    let e := label.foldl (Encoder.step basic m) e
    insertAll label basic ms (m + 1) { e with delta := e.delta + 1 }

/-- Adds a number to an ascending list, once. -/
def insertPoint (m : Nat) : List Nat → List Nat
  | [] => [m]
  | x :: xs => if m < x then m :: x :: xs else if m == x then x :: xs else x :: insertPoint m xs

/-- Writes a label: its ASCII characters, a hyphen if there are any, and
the insertions. -/
def encode (label : List Char) : List Char :=
  let basic := label.filter (·.toNat < 128)
  let points := label.foldl (fun ps c => if c.toNat < 128 then ps else insertPoint c.toNat ps) []
  let out := if basic.isEmpty then [] else basic ++ ['-']
  (insertAll label basic.length points 128 ⟨out, 0, 72, basic.length⟩).out

/-- Reads a number in digits whose weights depend on the bias. -/
def decodeNumber (bias : Nat) : (k weight acc : Nat) → List Char → Option (Nat × List Char)
  | _, _, _, [] => none
  | k, weight, acc, c :: cs =>
    match digitValue? c with
    | none => none
    | some d =>
      let acc := acc + d * weight
      let t := threshold k bias
      if UInt32.size ≤ acc then none
      else if d < t then some (acc, cs)
      else decodeNumber bias (k + 36) (weight * (36 - t)) acc cs

/-- Inserts the characters that the rest of the text describes; `fuel`
bounds their number, and every insertion takes at least one character of
the text. -/
def decodeFrom : (fuel n i bias : Nat) → (out cs : List Char) → Option (List Char)
  | _, _, _, _, out, [] => some out
  | 0, _, _, _, _, _ :: _ => none
  | fuel + 1, n, i, bias, out, c :: cs =>
    match decodeNumber bias 36 1 0 (c :: cs) with
    | none => none
    | some (step, rest) =>
      let size := out.length + 1
      let point := n + (i + step) / size
      let place := (i + step) % size
      if 0x10FFFF < point || (0xD800 ≤ point && point < 0xE000) then none
      else
        decodeFrom fuel point (place + 1) (adapt step size (i == 0))
          (out.take place ++ Char.ofNat point :: out.drop place) rest

/-- The position of the last hyphen. -/
def lastHyphen? (cs : List Char) : Option Nat :=
  let after := cs.reverse.takeWhile (· != '-')
  if after.length < cs.length then some (cs.length - 1 - after.length) else none

/-- Reads a label. -/
def decode (cs : List Char) : Option (List Char) :=
  match lastHyphen? cs with
  | some n => decodeFrom cs.length 128 0 72 (cs.take n) (cs.drop (n + 1))
  | none => decodeFrom cs.length 128 0 72 [] cs

end Sdwan.Url.Punycode
