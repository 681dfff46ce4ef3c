import ByteTap.Text.Quoted

/-!
# Text for a terminal

A terminal takes some control characters for commands.  In a text that is written to one, the
characters that can start a command are shown as escapes (`forTerminal`); line ends, tabs and every
other character stay as they are.
-/

namespace ByteTap.Text

/-- A terminal can take the character for a command or for the start of one: the bell, backspace,
form feed, escape, delete, and the control characters above ASCII. -/
def commandsTerminal (c : Char) : Bool :=
  c = '\x07' || c = '\x08' || c = '\x0c' || c = '\x1b' || c = '\x7f'
    || (0x80 ≤ c.toNat && c.toNat ≤ 0x9F)

/-- A character as it is shown on a terminal: an ASCII command by two hexadecimal digits, any other
command by its code point. -/
def terminalChar (c : Char) : List Char :=
  if !commandsTerminal c then [c]
  else if c.toNat < 0x80 then
    ['\\', 'x', Nat.digitChar (c.toNat / 16), Nat.digitChar (c.toNat % 16)]
  else '\\' :: 'u' :: '\x7b' :: hexText c.toNat ++ ['\x7d']

/-- A text as it is shown on a terminal. -/
def forTerminal (s : String) : String := String.ofList (s.toList.flatMap terminalChar)

end ByteTap.Text
