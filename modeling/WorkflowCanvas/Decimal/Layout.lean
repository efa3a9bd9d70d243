import WorkflowCanvas.Decimal.Shortest

/-! How a decimal is laid out as text: positional, or with one digit before the point and an
exponent. -/
namespace WorkflowCanvas.Decimal

/-- `count` zeros. -/
def zeros (count : Nat) : List Char := List.replicate count '0'

def digitChars (d : Decimal) : List Char := Nat.toDigits 10 d.digits

/-- The power of ten of the first digit. -/
def lead (d : Decimal) : Int := d.exponent + d.digitChars.length - 1

/-- Whether the decimal has no place after the point. -/
def whole (d : Decimal) : Bool := 0 ≤ d.exponent

/-- All places, with a point only before a fraction. -/
def positional (d : Decimal) : String :=
  let ds := d.digitChars
  if d.whole then String.ofList (ds ++ zeros d.exponent.toNat)
  else
    let places := (-d.exponent).toNat
    if places < ds.length then
      String.ofList (ds.take (ds.length - places) ++ '.' :: ds.drop (ds.length - places))
    else String.ofList ('0' :: '.' :: zeros (places - ds.length) ++ ds)

/-- One digit before the point, then the exponent with its sign. -/
def scientific (d : Decimal) : String :=
  let mantissa := match d.digitChars with
    | first :: second :: rest => first :: '.' :: second :: rest
    | ds => ds
  let power := if d.lead < 0 then s!"-{d.lead.natAbs}" else s!"+{d.lead.natAbs}"
  String.ofList mantissa ++ "e" ++ power

/-- The sign of a number, which a negative zero has too. -/
def signText (x : Float) : String := if x.toBits.toNat < Nat.pow 2 63 then "" else "-"

end WorkflowCanvas.Decimal
