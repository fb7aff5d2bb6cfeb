import SheetFill.Text.Quoted

/-!
# UTF-8

Decoding of octets to characters. Overlong forms, surrogates and characters beyond U+10FFFF are
refused, and a refusal says which octets are at fault: those of the shortest run that cannot be
continued to a character.
-/
namespace SheetFill.Text.Utf8

inductive Reason
  | startOctet
  | continuation
  | endOfData
  deriving DecidableEq, Repr

def Reason.message : Reason → String
  | .startOctet => "invalid start byte"
  | .continuation => "invalid continuation byte"
  | .endOfData => "unexpected end of data"

/-- The octets numbered `first` to `last` are no character; `octet` is the first of them. -/
structure Failure where
  first : Nat
  last : Nat
  octet : UInt8
  reason : Reason
  deriving DecidableEq, Repr

def Failure.message (e : Failure) : String :=
  let place :=
    if e.first == e.last then
      "byte 0x" ++ String.ofList (hex 2 e.octet.toNat) ++ " in position " ++ toString e.first
    else "bytes in position " ++ toString e.first ++ "-" ++ toString e.last
  "'utf-8' codec can't decode " ++ place ++ ": " ++ e.reason.message

/-- How many octets follow a leading octet, and the bounds on the first of them. -/
def follow? (b : UInt8) : Option (Nat × UInt8 × UInt8) :=
  if b < 0x80 then some (0, 0x80, 0xBF)
  else if b < 0xC2 then none
  else if b < 0xE0 then some (1, 0x80, 0xBF)
  else if b < 0xF0 then
    some (2, if b == 0xE0 then 0xA0 else 0x80, if b == 0xED then 0x9F else 0xBF)
  else if b < 0xF5 then
    some (3, if b == 0xF0 then 0x90 else 0x80, if b == 0xF4 then 0x8F else 0xBF)
  else none

/-- Reads `count` further octets into `value`, the first of them between `lo` and `hi`. A failure
gives the number of octets that did fit. -/
def continuations (lo hi : UInt8) (value : Nat) : Nat → List UInt8 → Except (Nat × Reason) Nat
  | 0, _ => .ok value
  | _ + 1, [] => .error (0, .endOfData)
  | count + 1, b :: rest =>
    if lo ≤ b && b ≤ hi then
      match continuations 0x80 0xBF (value * 64 + (b.toNat - 0x80)) count rest with
      | .ok v => .ok v
      | .error (n, r) => .error (n + 1, r)
    else .error (0, .continuation)

/-- The part of the value of a character that its leading octet holds. -/
def leadBits (b : UInt8) (count : Nat) : Nat :=
  match count with
  | 0 => b.toNat
  | 1 => b.toNat - 0xC0
  | 2 => b.toNat - 0xE0
  | _ => b.toNat - 0xF0

/-- The character at the head of `b :: rest` and the number of octets after `b` that belong to it,
where `b` has the number `pos`. -/
def head (pos : Nat) (b : UInt8) (rest : List UInt8) : Except Failure (Char × Nat) :=
  match follow? b with
  | none => .error ⟨pos, pos, b, .startOctet⟩
  | some (count, lo, hi) =>
    match continuations lo hi (leadBits b count) count rest with
    | .ok value => .ok (Char.ofNat value, count)
    | .error (n, reason) => .error ⟨pos, pos + n, b, reason⟩

/-- Decodes from octet number `pos` on, after passing over the next `skip` octets. -/
def decodeFrom (pos skip : Nat) : List UInt8 → Except Failure (List Char)
  | [] => .ok []
  | b :: rest =>
    match skip with
    | k + 1 => decodeFrom (pos + 1) k rest
    | 0 =>
      match head pos b rest with
      | .error e => .error e
      | .ok (c, count) =>
        match decodeFrom (pos + 1) count rest with
        | .error e => .error e
        | .ok cs => .ok (c :: cs)

def decode (bs : List UInt8) : Except Failure (List Char) :=
  decodeFrom 0 0 bs

/-- Whether octets are the first two of the three of a surrogate. -/
def isCutSurrogate : List UInt8 → Bool
  | [a, b] => a == 0xED && 0xA0 ≤ b && b ≤ 0xBF
  | _ => false

/-- Decodes octets like `decodeFrom` where more may follow: the octets of a last character that is
not complete are left over, and so are those of a surrogate, which is refused when it is whole. -/
def decodeUnfinished (pos skip : Nat) : List UInt8 → Except Failure (List Char × List UInt8)
  | [] => .ok ([], [])
  | b :: rest =>
    match skip with
    | k + 1 => decodeUnfinished (pos + 1) k rest
    | 0 =>
      match head pos b rest with
      | .error e =>
        if e.reason == .endOfData || isCutSurrogate (b :: rest) then .ok ([], b :: rest)
        else .error e
      | .ok (c, count) =>
        match decodeUnfinished (pos + 1) count rest with
        | .error e => .error e
        | .ok (cs, left) => .ok (c :: cs, left)

end SheetFill.Text.Utf8
