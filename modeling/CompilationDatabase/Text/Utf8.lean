import CompilationDatabase.Text.Basic

/-!
# UTF-8

`encode` writes a text as octets and `decode` reads it back. Octets that are not UTF-8 are
`Malformed`: the first octets that cannot be read, their place, and what is wrong with them. Only
the shortest form of a character is read, and no surrogate is.
-/

namespace CompilationDatabase.Text.Utf8

/-- The octets of one character. -/
def encodeChar (c : Char) : List UInt8 :=
  let code := c.toNat
  if code < 0x80 then [code.toUInt8]
  else if code < 0x800 then [(0xC0 + code / 64).toUInt8, (0x80 + code % 64).toUInt8]
  else if code < 0x10000 then
    [(0xE0 + code / 4096).toUInt8, (0x80 + code / 64 % 64).toUInt8, (0x80 + code % 64).toUInt8]
  else
    [(0xF0 + code / 262144).toUInt8, (0x80 + code / 4096 % 64).toUInt8,
      (0x80 + code / 64 % 64).toUInt8, (0x80 + code % 64).toUInt8]

/-- The octets of a text. -/
def encode (t : Text) : List UInt8 := t.flatMap encodeChar

/-- What is wrong with octets that are not UTF-8. -/
inductive Reason
  /-- No character starts with this octet. -/
  | start
  /-- A character that was begun is not continued. -/
  | continuation
  /-- The octets end inside a character. -/
  | ending
deriving DecidableEq, Repr

/-- The reason in words. -/
def Reason.words : Reason → Text
  | .start => "invalid start byte".toList
  | .continuation => "invalid continuation byte".toList
  | .ending => "unexpected end of data".toList

/-- The first octets that cannot be read as UTF-8. -/
structure Malformed where
  /-- How many octets come before. -/
  position : Nat
  /-- The first octet that cannot be read. -/
  octet : UInt8
  /-- How many octets after it belong to the same failure. -/
  more : Nat
  reason : Reason
deriving Repr

/-- The failure in words. -/
def Malformed.message (m : Malformed) : Text :=
  "'utf-8' codec can't decode byte".toList
    ++ (if m.more = 0 then
          " 0x".toList ++ padded 16 2 m.octet.toNat ++ " in position ".toList ++ ofNat m.position
        else
          "s in position ".toList ++ ofNat m.position ++ '-' :: ofNat (m.position + m.more))
    ++ ':' :: ' ' :: m.reason.words

/-- Whether an octet continues a character. -/
def continues (b : UInt8) : Bool := 0x80 ≤ b && b < 0xC0

/-- Whether an octet may follow the first of three: not too low after the lowest first octet, and
    no surrogate. -/
def secondOfThree (a b : UInt8) : Bool :=
  continues b && !(a == 0xE0 && b < 0xA0) && !(a == 0xED && 0xA0 ≤ b)

/-- Whether an octet may follow the first of four: neither too low after the lowest first octet nor
    too high after the highest. -/
def secondOfFour (a b : UInt8) : Bool :=
  continues b && !(a == 0xF0 && b < 0x90) && !(a == 0xF4 && 0x90 ≤ b)

/-- The character of a first octet and those that continue it: `lead` is what the first octet
    says. -/
def assemble (lead : Nat) (rest : List UInt8) : Char :=
  Char.ofNat (rest.foldl (fun code b => code * 64 + (b.toNat - 0x80)) lead)

/-- Reads the octets after `position` others. -/
def decodeFrom (position : Nat) : List UInt8 → Except Malformed Text
  | [] => .ok []
  | a :: rest =>
    if a < 0x80 then (Char.ofNat a.toNat :: ·) <$> decodeFrom (position + 1) rest
    else if a < 0xC2 then .error ⟨position, a, 0, .start⟩
    else if a < 0xE0 then
      match rest with
      | [] => .error ⟨position, a, 0, .ending⟩
      | b :: rest =>
        if continues b then
          (assemble (a.toNat - 0xC0) [b] :: ·) <$> decodeFrom (position + 2) rest
        else .error ⟨position, a, 0, .continuation⟩
    else if a < 0xF0 then
      match rest with
      | [] => .error ⟨position, a, 0, .ending⟩
      | b :: rest =>
        if secondOfThree a b then
          match rest with
          | [] => .error ⟨position, a, 1, .ending⟩
          | c :: rest =>
            if continues c then
              (assemble (a.toNat - 0xE0) [b, c] :: ·) <$> decodeFrom (position + 3) rest
            else .error ⟨position, a, 1, .continuation⟩
        else .error ⟨position, a, 0, .continuation⟩
    else if a < 0xF5 then
      match rest with
      | [] => .error ⟨position, a, 0, .ending⟩
      | b :: rest =>
        if secondOfFour a b then
          match rest with
          | [] => .error ⟨position, a, 1, .ending⟩
          | c :: rest =>
            if continues c then
              match rest with
              | [] => .error ⟨position, a, 2, .ending⟩
              | d :: rest =>
                if continues d then
                  (assemble (a.toNat - 0xF0) [b, c, d] :: ·) <$> decodeFrom (position + 4) rest
                else .error ⟨position, a, 2, .continuation⟩
            else .error ⟨position, a, 1, .continuation⟩
        else .error ⟨position, a, 0, .continuation⟩
    else .error ⟨position, a, 0, .start⟩

/-- The text written by octets. -/
def decode (octets : List UInt8) : Except Malformed Text := decodeFrom 0 octets

/-- The octets of the byte order mark. -/
def mark : List UInt8 := [0xEF, 0xBB, 0xBF]

/-- The text written by octets that may start with a byte order mark; what is not a whole mark but
    the start of one is no text at all. -/
def decodeMarked (octets : List UInt8) : Except Malformed Text :=
  if octets.length < mark.length && octets.isPrefixOf mark then .ok []
  else decode ((mark.isPrefixOf? octets).getD octets)

end CompilationDatabase.Text.Utf8
