/-!
UTF-8 bytes of a text and back. Reading accepts any bytes: a byte sequence that is no character,
up to the first byte that cannot continue it, becomes one replacement character.
-/
namespace EventXref.Text

def toBytes (t : List Char) : List UInt8 := t.flatMap String.utf8EncodeChar

def replacement : Char := '�'

def lead? (b : Nat) : Option (Nat × List (Nat × Nat)) :=
  let tail := (0x80, 0xBF)
  if b < 0x80 then some (b, [])
  else if 0xC2 ≤ b ∧ b ≤ 0xDF then some (b - 0xC0, [tail])
  else if b = 0xE0 then some (0, [(0xA0, 0xBF), tail])
  else if b = 0xED then some (13, [(0x80, 0x9F), tail])
  else if 0xE1 ≤ b ∧ b ≤ 0xEF then some (b - 0xE0, [tail, tail])
  else if b = 0xF0 then some (0, [(0x90, 0xBF), tail, tail])
  else if 0xF1 ≤ b ∧ b ≤ 0xF3 then some (b - 0xF0, [tail, tail, tail])
  else if b = 0xF4 then some (4, [(0x80, 0x8F), tail, tail])
  else none

def begins (b : UInt8) : List Char × Nat × List (Nat × Nat) :=
  match lead? b.toNat with
  | none => ([replacement], 0, [])
  | some (value, []) => ([Char.ofNat value], 0, [])
  | some (value, owed) => ([], value, owed)

/-- Reads bytes. `value` holds the payload read so far and `owed` the bytes still to come. -/
def readBytes (value : Nat) (owed : List (Nat × Nat)) : List UInt8 → List Char
  | [] => if owed.isEmpty then [] else [replacement]
  | b :: rest =>
    let (first, next, due) := begins b
    match owed with
    | [] => first ++ readBytes next due rest
    | (lo, hi) :: more =>
      if lo ≤ b.toNat ∧ b.toNat ≤ hi then
        let value := value * 64 + (b.toNat - 0x80)
        if more.isEmpty then Char.ofNat value :: readBytes 0 [] rest else readBytes value more rest
      else replacement :: first ++ readBytes next due rest

def ofBytes (bytes : List UInt8) : List Char := readBytes 0 [] bytes

def decode? (bytes : List UInt8) : Option (List Char) :=
  let t := ofBytes bytes
  if toBytes t = bytes then some t else none

end EventXref.Text
