import StatementTagging.Text.Quoted

set_option autoImplicit false

/-! # UTF-8

Reading bytes as text. The first bytes that are not well formed are reported with their place and the
way in which they are wrong.
-/

namespace StatementTagging.Text

/-! ## Faults -/

/-- How bytes fail to be a character. -/
inductive ByteFaultKind where
  | start
  | continuation
  | ending
deriving DecidableEq

/-- The wording of each kind. -/
def ByteFaultKind.text : ByteFaultKind → String
  | start => "invalid start byte"
  | continuation => "invalid continuation byte"
  | ending => "unexpected end of data"

/-- The bytes from `offset` on, `count` of them, are no character; `first` is the first of them. -/
structure ByteFault where
  kind : ByteFaultKind
  first : UInt8
  offset : Nat
  count : Nat
deriving DecidableEq

/-- The report of a fault. -/
def ByteFault.message (f : ByteFault) : String :=
  let place :=
    if f.count ≤ 1 then
      "byte 0x" ++ String.ofList (hex 2 f.first.toNat) ++ " in position " ++ toString f.offset
    else
      "bytes in position " ++ toString f.offset ++ "-" ++ toString (f.offset + f.count - 1)
  "'utf-8' codec can't decode " ++ place ++ ": " ++ f.kind.text

/-! ## Decoding -/

/-- The low six bits, if the byte continues a character and lies in a range. -/
def continuation? (low high : Nat) (b : UInt8) : Option Nat :=
  if low ≤ b.toNat && b.toNat ≤ high then some (b.toNat - 0x80) else none

/-- How many bytes follow a first byte, which values the next one may have, and what the first one
contributes to the code. -/
structure Lead where
  following : Nat
  low : Nat
  high : Nat
  bits : Nat

/-- The role of a first byte of more than one. -/
def lead? (b : UInt8) : Option Lead :=
  let n := b.toNat
  if 0xc2 ≤ n && n ≤ 0xdf then some ⟨1, 0x80, 0xbf, n - 0xc0⟩
  else if n == 0xe0 then some ⟨2, 0xa0, 0xbf, 0⟩
  else if n == 0xed then some ⟨2, 0x80, 0x9f, 13⟩
  else if 0xe1 ≤ n && n ≤ 0xef then some ⟨2, 0x80, 0xbf, n - 0xe0⟩
  else if n == 0xf0 then some ⟨3, 0x90, 0xbf, 0⟩
  else if n == 0xf4 then some ⟨3, 0x80, 0x8f, 4⟩
  else if 0xf1 ≤ n && n ≤ 0xf3 then some ⟨3, 0x80, 0xbf, n - 0xf0⟩
  else none

/-- What is still missing of a character: its first byte, the bytes read, those to come, the values the
next one may have, and the code so far. -/
structure OpenChar where
  first : UInt8
  read : Nat
  missing : Nat
  low : Nat
  high : Nat
  code : Nat

/-- Decodes bytes; `offset` counts those before them, and `open?` is the character being read. -/
def decodeFrom (offset : Nat) (open? : Option OpenChar) :
    List UInt8 → Except ByteFault (List Char)
  | [] =>
    match open? with
    | none => .ok []
    | some p => .error ⟨.ending, p.first, offset - p.read, p.read⟩
  | b :: r =>
    match open? with
    | none =>
      if b.toNat < 0x80 then (decodeFrom (offset + 1) none r).map (Char.ofNat b.toNat :: ·)
      else
        match lead? b with
        | none => .error ⟨.start, b, offset, 1⟩
        | some l => decodeFrom (offset + 1) (some ⟨b, 1, l.following, l.low, l.high, l.bits⟩) r
    | some p =>
      match continuation? p.low p.high b with
      | none => .error ⟨.continuation, p.first, offset - p.read, p.read⟩
      | some bits =>
        let code := p.code * 64 + bits
        if p.missing ≤ 1 then (decodeFrom (offset + 1) none r).map (Char.ofNat code :: ·)
        else
          decodeFrom (offset + 1) (some ⟨p.first, p.read + 1, p.missing - 1, 0x80, 0xbf, code⟩) r

/-- The text that bytes encode. -/
def decodeBytes (bytes : List UInt8) : Except ByteFault (List Char) := decodeFrom 0 none bytes

end StatementTagging.Text
