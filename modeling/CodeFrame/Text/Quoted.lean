import CodeFrame.Text.Visible

/-!
# Quotations

`Text.quoted` writes a text so that it can be told from what stands around it: between apostrophes, or between double
quotes if that saves escaping apostrophes. Inside, the quote and the backslash get a backslash before them, and a
character that is not visible is written by its code point, unless it has a short form. `Text.quotedBytes` does the same
for bytes, of which only those of visible ASCII characters are shown as characters.
-/

namespace CodeFrame.Text

/-- The last `k` hexadecimal digits of a number, the most significant first. -/
def hexDigits : Nat → Nat → Text
  | 0, _ => []
  | k + 1, n => hexDigits k (n / 16) ++ [Nat.digitChar (n % 16)]

/-- A character written by its code point. -/
def byCodePoint (c : Char) : Text :=
  if c.toNat < 0x100 then '\\' :: 'x' :: hexDigits 2 c.toNat
  else if c.toNat < 0x10000 then '\\' :: 'u' :: hexDigits 4 c.toNat
  else '\\' :: 'U' :: hexDigits 8 c.toNat

/-- A character inside a quotation. -/
def quotedChar (quote c : Char) : Text :=
  if c = quote ∨ c = '\\' then ['\\', c]
  else if c = '\n' then ['\\', 'n']
  else if c = '\r' then ['\\', 'r']
  else if c = '\t' then ['\\', 't']
  else if isVisible c then [c]
  else byCodePoint c

/-- The quote that stands round a text. -/
def quoteFor (t : Text) : Char := if '\'' ∈ t ∧ '"' ∉ t then '"' else '\''

/-- The text as a quotation. -/
def quoted (t : Text) : Text := quoteFor t :: t.flatMap (quotedChar (quoteFor t)) ++ [quoteFor t]

/-- A byte inside a quotation. -/
def quotedByte (quote : Char) (b : UInt8) : Text :=
  if b.toNat < 0x80 then quotedChar quote (Char.ofNat b.toNat) else '\\' :: 'x' :: hexDigits 2 b.toNat

/-- Bytes as a quotation, with the mark of bytes before it. -/
def quotedBytes (bytes : List UInt8) : Text :=
  let quote := quoteFor (bytes.map fun b => Char.ofNat b.toNat)
  'b' :: quote :: bytes.flatMap (quotedByte quote) ++ [quote]

end CodeFrame.Text
