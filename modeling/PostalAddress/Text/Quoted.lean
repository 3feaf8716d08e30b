import PostalAddress.Text.CharClass

/-!
# Quoted texts

A text between double quotes as error messages show it: quotes, backslashes and control
characters are escaped, and so is every character that cannot be seen on its own.
-/

namespace PostalAddress.Text

def quotedChar (c : Char) : List Char :=
  match c.toNat with
  | 0 => ['\\', '0']
  | 9 => ['\\', 't']
  | 10 => ['\\', 'n']
  | 13 => ['\\', 'r']
  | 34 => ['\\', '\x22']
  | 92 => ['\\', '\\']
  | n =>
    if extendsGrapheme c || !isPrintable c then
      ['\\', 'u', '\x7b'] ++ Nat.toDigits 16 n ++ ['\x7d']
    else [c]

def quoted (t : List Char) : List Char :=
  '\x22' :: t.flatMap quotedChar ++ ['\x22']

end PostalAddress.Text
