/-!
# DesignTokens.Text.Utf8 — UTF-8 with located faults

1. **Encoding**: `Utf8.encode` gives the bytes of a text.
2. **Decoding**: `Utf8.decode` reads bytes back or says where the first ill-formed sequence starts
   and how long it is; a sequence cut off by the end of the bytes has no length.
-/

namespace DesignTokens.Text.Utf8

def encode (text : List Char) : List UInt8 :=
  text.flatMap String.utf8EncodeChar

/-- An ill-formed sequence: the index of its first byte, and its length unless the bytes end
within it. -/
structure Fault where
  index : Nat
  length : Option Nat
deriving Repr, DecidableEq, Inhabited

def Fault.message (f : Fault) : String :=
  match f.length with
  | some n => s!"invalid utf-8 sequence of {n} bytes from index {f.index}"
  | none => s!"incomplete utf-8 byte sequence from index {f.index}"

def isContinuation (b : UInt8) : Bool :=
  0x80 ≤ b && b < 0xC0

/-- Whether `second` may follow `first` in a sequence of three or four bytes: overlong forms,
surrogates and numbers beyond `U+10FFFF` are ruled out by the second byte. -/
def isSecond (first second : UInt8) : Bool :=
  if first = 0xE0 then 0xA0 ≤ second && second < 0xC0
  else if first = 0xED then 0x80 ≤ second && second < 0xA0
  else if first = 0xF0 then 0x90 ≤ second && second < 0xC0
  else if first = 0xF4 then 0x80 ≤ second && second < 0x90
  else isContinuation second

/-- The six payload bits of a continuation byte. -/
def payload (b : UInt8) : Nat :=
  b.toNat % 64

/-- Decode bytes, the first of which has the given index. -/
def decodeFrom (index : Nat) : List UInt8 → Except Fault (List Char)
  | [] => .ok []
  | a :: rest =>
    -- One byte.
    if a < 0x80 then
      (decodeFrom (index + 1) rest).map (Char.ofNat a.toNat :: ·)
    -- Two bytes; with 0xC0 or 0xC1 first they would be one too many.
    else if 0xC2 ≤ a && a < 0xE0 then
      match rest with
      | [] => .error ⟨index, none⟩
      | b :: rest =>
        if !isContinuation b then .error ⟨index, some 1⟩
        else (decodeFrom (index + 2) rest).map (Char.ofNat (a.toNat % 32 * 64 + payload b) :: ·)
    -- Three bytes.
    else if 0xE0 ≤ a && a < 0xF0 then
      match rest with
      | [] => .error ⟨index, none⟩
      | b :: rest =>
        if !isSecond a b then .error ⟨index, some 1⟩
        else match rest with
          | [] => .error ⟨index, none⟩
          | c :: rest =>
            if !isContinuation c then .error ⟨index, some 2⟩
            else
              let code := (a.toNat % 16 * 64 + payload b) * 64 + payload c
              (decodeFrom (index + 3) rest).map (Char.ofNat code :: ·)
    -- Four bytes.
    else if 0xF0 ≤ a && a < 0xF5 then
      match rest with
      | [] => .error ⟨index, none⟩
      | b :: rest =>
        if !isSecond a b then .error ⟨index, some 1⟩
        else match rest with
          | [] => .error ⟨index, none⟩
          | c :: rest =>
            if !isContinuation c then .error ⟨index, some 2⟩
            else match rest with
              | [] => .error ⟨index, none⟩
              | d :: rest =>
                if !isContinuation d then .error ⟨index, some 3⟩
                else
                  let code := ((a.toNat % 8 * 64 + payload b) * 64 + payload c) * 64 + payload d
                  (decodeFrom (index + 4) rest).map (Char.ofNat code :: ·)
    else .error ⟨index, some 1⟩

def decode (bytes : List UInt8) : Except Fault (List Char) :=
  decodeFrom 0 bytes

end DesignTokens.Text.Utf8
