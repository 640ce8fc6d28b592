/-!
# UTF-8

Bytes are read one encoded character at a time. A byte sequence that encodes nothing is cut at the
first byte that cannot continue it: the strict reading fails there, the lenient reading puts the
replacement character in its place and goes on.
-/

namespace DocSentences.Utf8

/-- The number of continuation bytes that a leading byte asks for, and the bounds of the first. -/
def continuation (lead : UInt8) : Option (Nat × UInt8 × UInt8) :=
  if lead < 0x80 then some (0, 0x80, 0xBF)
  else if lead < 0xC2 then none
  else if lead < 0xE0 then some (1, 0x80, 0xBF)
  else if lead == 0xE0 then some (2, 0xA0, 0xBF)
  else if lead == 0xED then some (2, 0x80, 0x9F)
  else if lead < 0xF0 then some (2, 0x80, 0xBF)
  else if lead == 0xF0 then some (3, 0x90, 0xBF)
  else if lead < 0xF4 then some (3, 0x80, 0xBF)
  else if lead == 0xF4 then some (3, 0x80, 0x8F)
  else none

/-- The payload bits of a leading byte with the given number of continuation bytes. -/
def leadBits (lead : UInt8) : Nat → Nat
  | 0 => lead.toNat
  | 1 => lead.toNat % 0x20
  | 2 => lead.toNat % 0x10
  | _ => lead.toNat % 0x08

/-- A reading of some bytes so far: the code point built up, the number of continuation bytes still
due and the bounds of the next one. -/
structure Pending where
  code : Nat
  due : Nat
  least : UInt8
  most : UInt8

/-- Reads bytes leniently; `pending` is the unfinished character before them. -/
def readLossy (pending : Option Pending) : List UInt8 → List (Option Char)
  | [] => if pending.isSome then [none] else []
  | byte :: rest =>
      match pending with
      | some p =>
          if p.least ≤ byte && byte ≤ p.most then
            let code := p.code * 0x40 + byte.toNat % 0x40
            if p.due ≤ 1 then some (Char.ofNat code) :: readLossy none rest
            else readLossy (some ⟨code, p.due - 1, 0x80, 0xBF⟩) rest
          else
            match continuation byte with
            | some (0, _, _) => none :: some (Char.ofNat byte.toNat) :: readLossy none rest
            | some (due, least, most) =>
                none :: readLossy (some ⟨leadBits byte due, due, least, most⟩) rest
            | none => none :: none :: readLossy none rest
      | none =>
          match continuation byte with
          | some (0, _, _) => some (Char.ofNat byte.toNat) :: readLossy none rest
          | some (due, least, most) =>
              readLossy (some ⟨leadBits byte due, due, least, most⟩) rest
          | none => none :: readLossy none rest

/-- The characters that the bytes encode, each invalid stretch as the replacement character. -/
def decodeLossy (bytes : List UInt8) : List Char :=
  (readLossy none bytes).map (·.getD '\uFFFD')

/-- The characters that the bytes encode, if all of them do. -/
def decode? (bytes : List UInt8) : Option (List Char) :=
  (readLossy none bytes).mapM id

/-- The bytes that encode a text. -/
def encode (s : List Char) : List UInt8 :=
  s.flatMap String.utf8EncodeChar

end DocSentences.Utf8
