namespace MeterPolling.Text

structure Utf8Defect where
  validUpTo : Nat
  /-- The length of the ill-formed part; absent if the bytes end inside a character. -/
  illFormed : Option Nat
  deriving DecidableEq, Repr

/-- What a first byte promises: how many bytes follow and what the next one may be. -/
inductive Utf8Lead where
  | single
  | double
  | triple (low high : UInt8)
  | quadruple (low high : UInt8)
  | illFormed
  deriving DecidableEq, Repr

/-- Overlong forms, surrogates and numbers above U+10FFFF are kept out by the range of the second byte. -/
def Utf8Lead.of (b : UInt8) : Utf8Lead :=
  if b < 0x80 then .single
  else if b < 0xC2 then .illFormed
  else if b < 0xE0 then .double
  else if b = 0xE0 then .triple 0xA0 0xBF
  else if b = 0xED then .triple 0x80 0x9F
  else if b < 0xF0 then .triple 0x80 0xBF
  else if b = 0xF0 then .quadruple 0x90 0xBF
  else if b < 0xF4 then .quadruple 0x80 0xBF
  else if b = 0xF4 then .quadruple 0x80 0x8F
  else .illFormed

/-- Whether the byte is in the range; continuation bytes are 0x80 to 0xBF. -/
def byteIn (low high b : UInt8) : Bool := low ≤ b && b ≤ high

def sixBits (b : UInt8) : Nat := b.toNat % 64

def decodeUtf8From (i : Nat) : List UInt8 → Except Utf8Defect (List Char)
  | [] => .ok []
  | a :: rest =>
    match Utf8Lead.of a with
    | .illFormed => .error ⟨i, some 1⟩
    | .single => (decodeUtf8From (i + 1) rest).map (Char.ofNat a.toNat :: ·)
    | .double =>
      match rest with
      | [] => .error ⟨i, none⟩
      | b :: rest =>
        if byteIn 0x80 0xBF b then
          (decodeUtf8From (i + 2) rest).map (Char.ofNat (a.toNat % 32 * 64 + sixBits b) :: ·)
        else .error ⟨i, some 1⟩
    | .triple low high =>
      match rest with
      | [] => .error ⟨i, none⟩
      | b :: rest =>
        if byteIn low high b then
          match rest with
          | [] => .error ⟨i, none⟩
          | c :: rest =>
            if byteIn 0x80 0xBF c then
              (decodeUtf8From (i + 3) rest).map
                (Char.ofNat (a.toNat % 16 * 4096 + sixBits b * 64 + sixBits c) :: ·)
            else .error ⟨i, some 2⟩
        else .error ⟨i, some 1⟩
    | .quadruple low high =>
      match rest with
      | [] => .error ⟨i, none⟩
      | b :: rest =>
        if byteIn low high b then
          match rest with
          | [] => .error ⟨i, none⟩
          | c :: rest =>
            if byteIn 0x80 0xBF c then
              match rest with
              | [] => .error ⟨i, none⟩
              | d :: rest =>
                if byteIn 0x80 0xBF d then
                  (decodeUtf8From (i + 4) rest).map
                    (Char.ofNat (a.toNat % 8 * 262144 + sixBits b * 4096 + sixBits c * 64 + sixBits d) :: ·)
                else .error ⟨i, some 3⟩
            else .error ⟨i, some 2⟩
        else .error ⟨i, some 1⟩

def decodeUtf8 (bs : List UInt8) : Except Utf8Defect (List Char) := decodeUtf8From 0 bs

def utf8OfChar (c : Char) : List UInt8 :=
  let n := c.toNat
  if n < 0x80 then [UInt8.ofNat n]
  else if n < 0x800 then [UInt8.ofNat (0xC0 + n / 64), UInt8.ofNat (0x80 + n % 64)]
  else if n < 0x10000 then
    [UInt8.ofNat (0xE0 + n / 4096), UInt8.ofNat (0x80 + n / 64 % 64), UInt8.ofNat (0x80 + n % 64)]
  else
    [UInt8.ofNat (0xF0 + n / 262144), UInt8.ofNat (0x80 + n / 4096 % 64),
      UInt8.ofNat (0x80 + n / 64 % 64), UInt8.ofNat (0x80 + n % 64)]

def utf8 (cs : List Char) : List UInt8 := cs.flatMap utf8OfChar

def Utf8Defect.message (d : Utf8Defect) : String :=
  match d.illFormed with
  | some n => s!"invalid utf-8 sequence of {n} bytes from index {d.validUpTo}"
  | none => s!"incomplete utf-8 byte sequence from index {d.validUpTo}"

end MeterPolling.Text
