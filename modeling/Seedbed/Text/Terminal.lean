import Seedbed.Text.Quoted

/-!
# Texts and the terminal

A terminal acts on some characters instead of showing them: on single controls, and on sequences of characters that an escape
begins. A text is kept from acting on a terminal in two ways: either the characters by which it could are spelled out as their
codes, or the controls and the sequences are left out of it.
-/

namespace Seedbed.Text

/-- One character as it is spelled out: an escape, a bell, a backspace, a form feed and a deletion by two digits, and a control
beyond ASCII by its code point. All other characters stay, ends of lines among them. -/
def spellOutChar (c : Char) : List Char :=
  let n := c.toNat
  if n = 0x7f then ['\\', 'x', '7', 'f']
  else if n = 0x1b then ['\\', 'x', '1', 'b']
  else if n = 0x07 ∨ n = 0x08 ∨ n = 0x0c then ['\\', 'x', '0'] ++ hexDigits n
  else if 0x80 ≤ n ∧ n ≤ 0x9f then ['\\', 'u', '\x7b'] ++ hexDigits n ++ ['\x7d']
  else [c]

/-- A text whose controls are spelled out. -/
def spellOut (s : String) : String := String.ofList (s.toList.flatMap spellOutChar)

/-- What a terminal is in the middle of. -/
inductive TerminalMode where
  | ground
  /-- An escape has been read. -/
  | escape
  /-- A sequence that its first character after all the punctuation ends. -/
  | short
  /-- A sequence with parameters, which a letter or a mark like one ends. -/
  | sequence
  /-- A string for a device, which only an escape or a cancellation ends. -/
  | string
  /-- A command, which a bell ends too. -/
  | command
  deriving DecidableEq, Repr

namespace TerminalMode

/-- Whether a character is one of the controls that lay out a text: a tabulator, a line feed, a form feed, a carriage return. -/
def isLayout (c : Char) : Bool := c.toNat == 0x09 || c.toNat == 0x0a || c.toNat == 0x0c || c.toNat == 0x0d

/-- The mode after a character of ASCII that is no control, in a mode in which characters make up a sequence. -/
def after (mode : TerminalMode) (c : Char) : TerminalMode :=
  match mode with
  | .escape =>
    if c.toNat < 0x30 then .short
    else if c = '[' then .sequence
    else if c = ']' then .command
    else if c = 'P' ∨ c = 'X' ∨ c = '^' ∨ c = '_' then .string
    else .ground
  | .short => if c.toNat < 0x30 then .short else .ground
  | .sequence => if c.toNat < 0x40 then .sequence else .ground
  | mode => mode

/-- The mode after a character, and whether the character is shown. A control that lays out the text is shown also in the middle
of a sequence, which it ends; a character beyond ASCII ends one and is not shown. -/
def step (mode : TerminalMode) (c : Char) : TerminalMode × Bool :=
  let n := c.toNat
  if n = 0x1b then (.escape, false)
  else if n = 0x18 ∨ n = 0x1a then (.ground, false)
  else if mode = .ground then (.ground, isLayout c || (0x20 ≤ n && n != 0x7f))
  else if 0x80 ≤ n then (.ground, false)
  else if mode = .string then (.string, false)
  else if mode = .command then (if n = 0x07 then .ground else .command, false)
  else if isLayout c then (.ground, true)
  else if n < 0x20 ∨ n = 0x7f then (mode, false)
  else (mode.after c, false)

/-- The characters that are shown of a text, from a mode on. -/
def shown : TerminalMode → List Char → List Char
  | _, [] => []
  | mode, c :: rest =>
    let (next, visible) := mode.step c
    if visible then c :: shown next rest else shown next rest

end TerminalMode

/-- A text without controls and sequences. -/
def stripControls (s : String) : String := String.ofList (TerminalMode.ground.shown s.toList)

end Seedbed.Text
