import FieldMask.Text.Point

/-!
# `FieldMask.Text.Utf8`: texts and bytes

`Utf8.encode` writes a text as UTF-8; a surrogate without its partner becomes the replacement
character. `Utf8.decode` reads any bytes. The decoder is a machine that takes one byte at a time:
`State` says which continuation bytes are owed, `step` takes one byte, and each maximal part that
is no UTF-8 gives one replacement character. A byte order mark is kept as a character.
-/

set_option autoImplicit false

namespace FieldMask

/-- A sequence of bytes. -/
abbrev Bytes := List UInt8

namespace Utf8

/-- The character that stands for what cannot be read or written. -/
def replacement : CodeUnit := 0xFFFD

/-- Where the decoder stands between two bytes. -/
inductive State where
  /-- Between characters. -/
  | start
  /-- Inside a character: `owed` more bytes, the next one from `low` to `high`, after bytes that
  gave the value `value`. -/
  | inside (owed : Nat) (low high : UInt8) (value : Nat)
  deriving DecidableEq, Repr

/-- The first byte of a character: what it gives at once, and the state after it. -/
def begin (b : UInt8) : Text × State :=
  if b ≤ 0x7F then ([b.toUInt16], .start)
  else if 0xC2 ≤ b && b ≤ 0xDF then ([], .inside 1 0x80 0xBF (b.toNat - 0xC0))
  else if b = 0xE0 then ([], .inside 2 0xA0 0xBF 0)
  else if b = 0xED then ([], .inside 2 0x80 0x9F 0xD)
  else if 0xE1 ≤ b && b ≤ 0xEF then ([], .inside 2 0x80 0xBF (b.toNat - 0xE0))
  else if b = 0xF0 then ([], .inside 3 0x90 0xBF 0)
  else if 0xF1 ≤ b && b ≤ 0xF3 then ([], .inside 3 0x80 0xBF (b.toNat - 0xF0))
  else if b = 0xF4 then ([], .inside 3 0x80 0x8F 4)
  else ([replacement], .start)

/-- One byte: the units that it completes, and the state after it. A byte that cannot continue a
character ends it as a replacement character and begins the next one. -/
def step : State → UInt8 → Text × State
  | .start, b => begin b
  | .inside owed low high value, b =>
    if low ≤ b && b ≤ high then
      let value := value * 0x40 + (b.toNat - 0x80)
      if owed ≤ 1 then (Text.ofPoint value, .start)
      else ([], .inside (owed - 1) 0x80 0xBF value)
    else
      let (out, next) := begin b
      (replacement :: out, next)

/-- The text that bytes give from a state on. -/
def decodeFrom : State → Bytes → Text
  | .start, [] => []
  | .inside .., [] => [replacement]
  | s, b :: rest => (step s b).1 ++ decodeFrom (step s b).2 rest

/-- The text of a sequence of bytes. -/
def decode (bytes : Bytes) : Text := decodeFrom .start bytes

/-- A continuation byte with the six bits of `n` above the `shift` lowest. -/
def continuation (n shift : Nat) : UInt8 := UInt8.ofNat (0x80 + (n >>> shift) % 0x40)

/-- The bytes of a code point. -/
def encodePoint (c : Nat) : Bytes :=
  if c < 0x80 then [UInt8.ofNat c]
  else if c < 0x800 then [UInt8.ofNat (0xC0 + c >>> 6), continuation c 0]
  else if 0xD800 ≤ c && c ≤ 0xDFFF then [0xEF, 0xBF, 0xBD]
  else if c < 0x10000 then
    [UInt8.ofNat (0xE0 + c >>> 12), continuation c 6, continuation c 0]
  else
    [UInt8.ofNat (0xF0 + c >>> 18), continuation c 12, continuation c 6, continuation c 0]

/-- The bytes of a text. -/
def encode (t : Text) : Bytes := t.points.flatMap encodePoint

end Utf8

end FieldMask
