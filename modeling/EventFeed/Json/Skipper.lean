import EventFeed.Json.Reader

/-!
# Skipping values

A member that nobody asked for is passed over without being built. Its brackets have to match, but it
may nest to any depth, and neither the pairing of its surrogates nor its bytes' being UTF-8 is looked
at. What is open is kept on a stack, so the readers below call each other in tail position.
-/

namespace EventFeed.Json

/-- What a bracket that is still open belongs to. -/
inductive Frame where
  | list
  | object
  deriving DecidableEq, Repr

def Frame.closing : Frame → UInt8
  | .list => 0x5D
  | .object => 0x7D

def skipDigits : List UInt8 → List UInt8
  | [] => []
  | b :: rest => if isDigit b then skipDigits rest else b :: rest

def skipExponent (input : List UInt8) : Except Fault (List UInt8) :=
  match (readSign input).2 with
  | [] => .error (.here .invalidNumber [])
  | b :: rest => if isDigit b then .ok (skipDigits rest) else .error (.here .invalidNumber rest)

def skipOptionalExponent : List UInt8 → Except Fault (List UInt8)
  | [] => .ok []
  | b :: rest => if b = 0x65 || b = 0x45 then skipExponent rest else .ok (b :: rest)

def skipNumberTail : List UInt8 → Except Fault (List UInt8)
  | [] => .ok []
  | b :: rest =>
      if b = 0x2E then
        if startsWithDigit rest then skipOptionalExponent (skipDigits rest)
        else .error (.ahead .invalidNumber rest)
      else skipOptionalExponent (b :: rest)

def skipNumber : List UInt8 → Except Fault (List UInt8)
  | [] => .error (.here .invalidNumber [])
  | b :: rest =>
      if b = 0x30 then
        if startsWithDigit rest then .error (.ahead .invalidNumber rest) else skipNumberTail rest
      else if isDigit b then skipNumberTail (skipDigits rest)
      else .error (.here .invalidNumber rest)

def skipString : Nat → List UInt8 → Except Fault (List UInt8)
  | 0, rest => .error (.here .endInString rest)
  | _ + 1, [] => .error (.here .endInString [])
  | fuel + 1, b :: rest =>
      if b = 0x22 then .ok rest
      else if b = 0x5C then
        match rest with
        | [] => .error (.here .endInString [])
        | letter :: rest =>
            if letter = 0x75 then
              match readHex rest with
              | .error fault => .error fault
              | .ok (_, rest) => skipString fuel rest
            else if (escapedChar? letter).isSome then skipString fuel rest
            else .error (.here .invalidEscape rest)
      else if b < 0x20 then .error (.here .controlCharacter (b :: rest))
      else skipString fuel rest

def skipScalar (fuel : Nat) : List UInt8 → Except Fault (List UInt8)
  | [] => .error (.ahead .endInValue [])
  | b :: rest =>
      if b = 0x6E then readWord nullTail rest
      else if b = 0x74 then readWord trueTail rest
      else if b = 0x66 then readWord falseTail rest
      else if b = 0x2D then skipNumber rest
      else if isDigit b then skipNumber (b :: rest)
      else if b = 0x22 then skipString fuel rest
      else .error (.ahead .expectedValue (b :: rest))

def skipKey (fuel : Nat) (input : List UInt8) : Except Fault (List UInt8) :=
  match skipBlanks input with
  | [] => .error (.ahead .endInObject [])
  | b :: rest =>
      if b = 0x22 then
        match skipString fuel rest with
        | .error fault => .error fault
        | .ok rest => readColon rest
      else .error (.ahead .keyNotString (b :: rest))

def Frame.endFault : Frame → Fault
  | .list => .ahead .endInList []
  | .object => .ahead .endInObject []

/-- Passes over the key that a frame's next value needs. -/
def Frame.skipLabel (frame : Frame) (fuel : Nat) (input : List UInt8) : Except Fault (List UInt8) :=
  match frame with
  | .list => .ok input
  | .object => skipKey fuel input

mutual

/-- Passes over a value and over the rest of what is open around it. -/
def skipOpen : (fuel : Nat) → List Frame → List UInt8 → Except Fault (List UInt8)
  | 0, _, input => .error (.here .endInValue input)
  | fuel + 1, frames, input =>
      match skipBlanks input with
      | [] => .error (.ahead .endInValue [])
      | b :: rest =>
          if b = 0x5B then skipBody fuel .list frames rest
          else if b = 0x7B then skipBody fuel .object frames rest
          else
            match skipScalar fuel (b :: rest) with
            | .error fault => .error fault
            | .ok rest => skipMore fuel frames rest

def skipBody : (fuel : Nat) → Frame → List Frame → List UInt8 → Except Fault (List UInt8)
  | 0, _, _, input => .error (.here .endInValue input)
  | fuel + 1, frame, frames, input =>
      match skipBlanks input with
      | [] => .error frame.endFault
      | b :: rest =>
          if b = frame.closing then skipMore fuel frames rest
          else
            match frame.skipLabel fuel (b :: rest) with
            | .error fault => .error fault
            | .ok rest => skipOpen fuel (frame :: frames) rest

def skipMore : (fuel : Nat) → List Frame → List UInt8 → Except Fault (List UInt8)
  | 0, _, input => .error (.here .endInValue input)
  | _ + 1, [], input => .ok input
  | fuel + 1, frame :: frames, input =>
      match skipBlanks input with
      | [] => .error frame.endFault
      | b :: rest =>
          if b = 0x2C then
            match frame.skipLabel fuel rest with
            | .error fault => .error fault
            | .ok rest => skipOpen fuel (frame :: frames) rest
          else if b = frame.closing then skipMore fuel frames rest
          else
            .error (.ahead (match frame with
              | .list => .expectedListEnd
              | .object => .expectedObjectEnd) (b :: rest))

end

def skipValue (fuel : Nat) (input : List UInt8) : Except Fault (List UInt8) :=
  skipOpen fuel [] input

end EventFeed.Json
