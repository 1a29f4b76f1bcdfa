/-
UTF-8, in both directions. A text has exactly one byte sequence; every
byte sequence has a text, in which each maximal broken part is shown by
one replacement character. A reader that mends nothing takes only the
byte sequences that some text has (`decodeStrict?`).
-/

namespace Sdwan.Text

/-- The bytes of a text. -/
def utf8 (cs : List Char) : List UInt8 := cs.flatMap String.utf8EncodeChar

/-- The bytes of a text. -/
def bytesOf (s : String) : List UInt8 := utf8 s.toList

/-- What stands for bytes that are not UTF-8. -/
def replacement : Char := Char.ofNat 0xFFFD

/-- A byte that continues a character. -/
def isContinuation (b : UInt8) : Bool := 0x80 ≤ b && b < 0xC0

/-- The six bits a continuation byte carries. -/
def payload (b : UInt8) : Nat := b.toNat % 64

/-- Whether `b1` may follow the first byte `b0` of three or four: neither
an overlong form nor a surrogate nor a number beyond Unicode begins so. -/
def secondFits (b0 b1 : UInt8) : Bool :=
  isContinuation b1
    && (b0 != 0xE0 || 0xA0 ≤ b1) && (b0 != 0xED || b1 < 0xA0)
    && (b0 != 0xF0 || 0x90 ≤ b1) && (b0 != 0xF4 || b1 < 0x90)

/-- The character and the rest behind the first byte `b0`; a broken part
ends before the first byte that does not fit. -/
def decodeStep (b0 : UInt8) (rest : List UInt8) : Char × List UInt8 :=
  if b0 < 0x80 then (Char.ofNat b0.toNat, rest)
  else if b0 < 0xC2 then (replacement, rest)
  else match rest with
    | [] => (replacement, [])
    | b1 :: rest1 =>
      if b0 < 0xE0 then
        if isContinuation b1 then (Char.ofNat ((b0.toNat % 32) * 64 + payload b1), rest1)
        else (replacement, rest)
      else if 0xF5 ≤ b0 then (replacement, rest)
      else if !secondFits b0 b1 then (replacement, rest)
      else match rest1 with
        | [] => (replacement, [])
        | b2 :: rest2 =>
          if !isContinuation b2 then (replacement, rest1)
          else if b0 < 0xF0 then
            (Char.ofNat (((b0.toNat % 16) * 64 + payload b1) * 64 + payload b2), rest2)
          else match rest2 with
            | [] => (replacement, [])
            | b3 :: rest3 =>
              if !isContinuation b3 then (replacement, rest2)
              else
                (Char.ofNat ((((b0.toNat % 8) * 64 + payload b1) * 64 + payload b2) * 64
                  + payload b3), rest3)

/-- A step takes the first byte and maybe some behind it. -/
theorem decodeStep_length (b0 : UInt8) (rest : List UInt8) :
    (decodeStep b0 rest).2.length ≤ rest.length := by
  unfold decodeStep
  repeat' split
  all_goals simp only [List.length_cons, List.length_nil]
  all_goals omega

/-- The text of a byte sequence. -/
def decodeUtf8 : List UInt8 → List Char
  | [] => []
  | b0 :: rest =>
    have := decodeStep_length b0 rest
    (decodeStep b0 rest).1 :: decodeUtf8 (decodeStep b0 rest).2
termination_by bs => bs.length
decreasing_by simp only [List.length_cons]; omega

/-- The text of a byte sequence. -/
def textOf (bs : List UInt8) : String := String.ofList (decodeUtf8 bs)

/-- The characters that have exactly these bytes, if there are any: nothing
is mended here. -/
def decodeStrict? (bs : List UInt8) : Option (List Char) :=
  let cs := decodeUtf8 bs
  if utf8 cs = bs then some cs else none

/-- The bytes, each as the character of its number. -/
def octets (bs : List UInt8) : List Char := bs.map fun b => Char.ofNat b.toNat

end Sdwan.Text
