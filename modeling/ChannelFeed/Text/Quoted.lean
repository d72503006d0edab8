import ChannelFeed.Text.Escaped

/-!
# Quoted text

Text between double quotes, as messages show it: quotes and backslashes are escaped, common controls
have short escapes, and what does not stand for itself is written as its code point in braces.
-/

namespace ChannelFeed.Text

def quotedChar (c : Char) : List Char :=
  match c with
  | '\x00' => ['\\', '0']
  | '\t' => ['\\', 't']
  | '\r' => ['\\', 'r']
  | '\n' => ['\\', 'n']
  | '"' => ['\\', '"']
  | '\\' => ['\\', '\\']
  | c =>
    if c.toNat < 0x20 ∨ escapedInQuotes.contains c then
      ['\\', 'u', '\x7b'] ++ Nat.toDigits 16 c.toNat ++ ['\x7d']
    else [c]

def quoted (s : String) : String :=
  String.ofList ('"' :: s.toList.flatMap quotedChar ++ ['"'])

end ChannelFeed.Text
