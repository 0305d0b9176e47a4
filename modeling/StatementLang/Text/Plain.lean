/-!
# Plain Text

A terminal takes an escape character and what follows it as an instruction, and it does not show the
other control characters either, apart from white space.  The plain form of a text is what a
terminal would show.  White space inside a short instruction ends it; an instruction that the text
does not finish is not shown.
-/

namespace StatementLang.Text

/-- How far a terminal has come in an instruction. -/
inductive TerminalState where
  | idle
  /-- After an escape character. -/
  | escape
  /-- Before the letter of an instruction without a bracket. -/
  | letter
  /-- Before the letter of an instruction with a bracket. -/
  | parameters
  /-- At the start of the parameters of a message to a device. -/
  | deviceStart
  /-- Inside the parameters of a message to a device. -/
  | deviceParameters
  /-- After the parameters of a message to a device. -/
  | deviceLetter
  /-- Inside a message to a device. -/
  | message
  /-- Inside a command to the system. -/
  | command
deriving DecidableEq, Repr

namespace TerminalState

/-- Whether a character is a control character that is shown as white space. -/
def isLayout (c : Char) : Bool := c == '\t' || c == '\n' || c == '\x0c' || c == '\r'

def isShown (c : Char) : Bool := isLayout c || (decide (0x20 ≤ c.toNat) && c != '\x7f')

/-- Whether the code point of a character lies in a range. -/
def lies (c : Char) (first last : Nat) : Bool :=
  decide (first ≤ c.toNat) && decide (c.toNat ≤ last)

/-- Whether a character ends a message: one of its continuation bytes does, the byte 0x9C. -/
def endsMessage (c : Char) : Bool :=
  let n := c.toNat
  decide (0x80 ≤ n) &&
    (n % 64 == 28 || (decide (0x800 ≤ n) && n / 64 % 64 == 28) ||
      (decide (0x10000 ≤ n) && n / 4096 % 64 == 28))

def afterEscape (c : Char) : TerminalState :=
  if c = '[' then parameters
  else if c = ']' then command
  else if c = 'P' then deviceStart
  else if c = 'X' ∨ c = '^' ∨ c = '_' then message
  else if lies c 0x20 0x2F then letter
  else if lies c 0x30 0x7E then idle
  else escape

/-- The state after a character that has no meaning in all states alike. -/
def next (state : TerminalState) (c : Char) : TerminalState :=
  match state with
  | idle => idle
  | escape => if isLayout c then idle else afterEscape c
  | letter => if isLayout c || lies c 0x30 0x7E then idle else letter
  | parameters => if isLayout c || lies c 0x40 0x7E then idle else parameters
  | deviceStart =>
    if lies c 0x20 0x2F then deviceLetter
    else if lies c 0x30 0x3F then deviceParameters
    else if lies c 0x40 0x7E then message
    else deviceStart
  | deviceParameters =>
    if lies c 0x20 0x2F then deviceLetter
    else if lies c 0x3C 0x7E then message
    else deviceParameters
  | deviceLetter => if lies c 0x30 0x7E then message else deviceLetter
  | message => if endsMessage c then idle else message
  | command => if c = '\x07' then idle else command

def shows (state : TerminalState) (c : Char) : Bool :=
  match state with
  | idle => isShown c
  | escape | letter | parameters => isLayout c
  | deviceStart | deviceParameters | deviceLetter | message | command => false

/-- Take one character: the state after it, and whether it is shown. -/
def take (state : TerminalState) (c : Char) : TerminalState × Bool :=
  if c = '\x1b' then (escape, false)
  else if c = '\x18' ∨ c = '\x1a' then (idle, false)
  else (state.next c, state.shows c)

end TerminalState

def plainFrom (state : TerminalState) : List Char → List Char
  | [] => []
  | c :: cs =>
    let (state, shown) := state.take c
    if shown then c :: plainFrom state cs else plainFrom state cs

def plain (text : String) : String := String.ofList (plainFrom .idle text.toList)

end StatementLang.Text
