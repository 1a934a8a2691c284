/-! Bytes written in base 64.

    Four characters hold three bytes. Characters outside the alphabet are passed over, padding that
    completes a group ends the text, and a last group that is not complete is wrong. -/

namespace LinkedDocs.Text.Base64

/-- The six bits a character stands for. -/
def sextet? (c : Char) : Option Nat :=
  if 'A' ≤ c ∧ c ≤ 'Z' then some (c.toNat - 65)
  else if 'a' ≤ c ∧ c ≤ 'z' then some (c.toNat - 71)
  else if '0' ≤ c ∧ c ≤ '9' then some (c.toNat + 4)
  else if c = '+' then some 62
  else if c = '/' then some 63
  else none

/-- The bytes of a group of four, three or two sextets. -/
def bytesOf : List Nat → List UInt8
  | [a, b, c, d] =>
    [UInt8.ofNat (a * 4 + b / 16), UInt8.ofNat (b * 16 + c / 4), UInt8.ofNat (c * 64 + d)]
  | [a, b, c] => [UInt8.ofNat (a * 4 + b / 16), UInt8.ofNat (b * 16 + c / 4)]
  | [a, b] => [UInt8.ofNat (a * 4 + b / 16)]
  | _ => []

/-- Decodes with the sextets of the group begun and the padding seen behind them. -/
def decodeFrom (group : List Nat) (pads : Nat) : List Char → Option (List UInt8)
  | [] => if group.isEmpty then some [] else none
  | c :: cs =>
    if c = '=' then
      if group.length ≥ 2 ∧ group.length + pads + 1 ≥ 4 then some (bytesOf group)
      else decodeFrom group (if group.length ≥ 2 then pads + 1 else pads) cs
    else
      match sextet? c with
      | none => decodeFrom group pads cs
      | some n =>
        let group := group ++ [n]
        if group.length = 4 then (decodeFrom [] 0 cs).map (bytesOf group ++ ·)
        else decodeFrom group 0 cs

def decode? (cs : List Char) : Option (List UInt8) := decodeFrom [] 0 cs

example : decode? ['Y', 'W', 'I', '='] = some [97, 98] := by decide

end LinkedDocs.Text.Base64
