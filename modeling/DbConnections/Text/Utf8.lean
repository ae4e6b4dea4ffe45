namespace DbConnections

namespace Utf8

inductive Reason where
  | invalidStart
  | invalidContinuation
  | unexpectedEnd
  deriving DecidableEq, Repr

/-- The first ill-formed spot of a byte sequence: bytes `start` to `stop - 1` are at fault,
and `first` is the byte at `start`. -/
structure Error where
  start : Nat
  stop : Nat
  first : UInt8
  reason : Reason
  deriving DecidableEq, Repr

def isContinuation (b : UInt8) : Bool := 0x80 ≤ b && b < 0xC0

def secondOfThree (b c : UInt8) : Bool :=
  isContinuation c && (b != 0xE0 || 0xA0 ≤ c) && (b != 0xED || c < 0xA0)

def secondOfFour (b c : UInt8) : Bool :=
  isContinuation c && (b != 0xF0 || 0x90 ≤ c) && (b != 0xF4 || c < 0x90)

def low (c : UInt8) : Nat := c.toNat % 64

/-- Decodes the bytes that start at offset `pos` of the whole input, strictly. The first
ill-formed sequence stops the reading with the span at fault, as in the Unicode standard's
maximal-subpart practice: a lead byte that starts no character is one bad byte, a broken sequence
covers the bytes that were valid so far, and a sequence cut short by the end of the input covers
everything up to the end. -/
def decodeFrom (pos : Nat) : List UInt8 → Except Error (List Char)
  | [] => .ok []
  | b :: rest =>
    let fault (span : Nat) (r : Reason) : Except Error (List Char) := .error ⟨pos, pos + span, b, r⟩
    let cutShort := fault (rest.length + 1) .unexpectedEnd
    if b < 0x80 then
      (Char.ofNat b.toNat :: ·) <$> decodeFrom (pos + 1) rest
    else if b < 0xC2 then fault 1 .invalidStart
    else if b < 0xE0 then
      match rest with
      | [] => cutShort
      | c :: more =>
        if isContinuation c then
          (Char.ofNat ((b.toNat % 32) * 64 + low c) :: ·) <$> decodeFrom (pos + 2) more
        else fault 1 .invalidContinuation
    else if b < 0xF0 then
      match rest with
      | [] => cutShort
      | c :: more =>
        if !secondOfThree b c then fault 1 .invalidContinuation
        else match more with
          | [] => cutShort
          | d :: more =>
            if isContinuation d then
              (Char.ofNat ((b.toNat % 16) * 4096 + low c * 64 + low d) :: ·) <$>
                decodeFrom (pos + 3) more
            else fault 2 .invalidContinuation
    else if b < 0xF5 then
      match rest with
      | [] => cutShort
      | c :: more =>
        if !secondOfFour b c then fault 1 .invalidContinuation
        else match more with
          | [] => cutShort
          | d :: more =>
            if !isContinuation d then fault 2 .invalidContinuation
            else match more with
              | [] => cutShort
              | e :: more =>
                if isContinuation e then
                  (Char.ofNat ((b.toNat % 8) * 262144 + low c * 4096 + low d * 64 + low e) :: ·) <$>
                    decodeFrom (pos + 4) more
                else fault 3 .invalidContinuation
    else fault 1 .invalidStart

/-- The text that a byte sequence encodes, or its first ill-formed spot. -/
def decode (bytes : List UInt8) : Except Error String :=
  String.ofList <$> decodeFrom 0 bytes

def hexByte (b : UInt8) : String :=
  let ds := Nat.toDigits 16 b.toNat
  String.ofList (List.replicate (2 - ds.length) '0' ++ ds)

def Reason.text : Reason → String
  | .invalidStart => "invalid start byte"
  | .invalidContinuation => "invalid continuation byte"
  | .unexpectedEnd => "unexpected end of data"

def Error.message (e : Error) : String :=
  if e.stop = e.start + 1 then
    "'utf-8' codec can't decode byte 0x" ++ hexByte e.first ++ " in position " ++
      toString e.start ++ ": " ++ e.reason.text
  else
    "'utf-8' codec can't decode bytes in position " ++ toString e.start ++ "-" ++
      toString (e.stop - 1) ++ ": " ++ e.reason.text

end Utf8

end DbConnections
