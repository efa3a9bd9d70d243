import WorkflowCanvas.Json.Lexeme

/-! Percent signs in addresses: bytes are written as a percent sign and two hexadecimal digits. -/
namespace WorkflowCanvas.Percent

def hexDigit (n : Nat) : Char := ((Nat.toDigits 16 n).headD '0').toUpper

/-- A character as the bytes of its UTF-8 form, each behind a percent sign. -/
def encodeChar (c : Char) : List Char :=
  (String.singleton c).toUTF8.toList.flatMap fun b =>
    ['%', hexDigit (b.toNat / 16), hexDigit (b.toNat % 16)]

/-- Encode the characters of a class. -/
def encode (cls : Char → Bool) (cs : List Char) : List Char :=
  cs.flatMap fun c => if cls c then encodeChar c else [c]

/-- The bytes of a text, with those that are encoded. A percent sign without two digits is itself. -/
def bytes : List Char → List UInt8
  | '%' :: a :: b :: rest =>
    match Scan.hexNumber? [a, b] with
    | some n => UInt8.ofNat n :: bytes rest
    | none => '%'.toUInt8 :: bytes (a :: b :: rest)
  | c :: rest => (String.singleton c).toUTF8.toList ++ bytes rest
  | [] => []

/-- The text that is encoded, if its bytes are one. -/
def decode? (cs : List Char) : Option (List Char) :=
  (String.fromUTF8? ⟨(bytes cs).toArray⟩).map String.toList

end WorkflowCanvas.Percent
