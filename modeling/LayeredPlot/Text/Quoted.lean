import LayeredPlot.Text.Unseen

/-!
# Quoted text

A text is quoted between double quotes.  A quote, a backslash and the controls
with a letter of their own are written with a backslash, and any other character that
is not seen for itself is written by its code point.
-/

namespace LayeredPlot
namespace Quoted

def byCodePoint (c : Char) : List Char :=
  '\\' :: 'u' :: '\x7b' :: (Nat.toDigits 16 c.toNat ++ ['\x7d'])

def ofChar (c : Char) : List Char :=
  if c = '"' || c = '\\' then ['\\', c]
  else if c = '\n' then ['\\', 'n']
  else if c = '\r' then ['\\', 'r']
  else if c = '\t' then ['\\', 't']
  else if c.toNat = 0 then ['\\', '0']
  else if isUnseen c then byCodePoint c
  else [c]

def quote (s : String) : String :=
  String.ofList ('"' :: s.toList.flatMap ofChar ++ ['"'])

end Quoted
end LayeredPlot
