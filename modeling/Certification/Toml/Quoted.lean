import Certification.Text.Digit

/-!
# Quoted text in TOML

The four kinds of quoted text: between double quotes with escapes, or between apostrophes as it
stands, each on one line or, between three quotes, on any number of lines. A `Quotation` names a
kind, and one machine reads them all, a character at a time: `Quotation.step` says what a character
does in a `Mode`, and `Quotation.scan` follows a text up to its closing quote.
-/

namespace Certification.Toml

/-- Blanks inside a line. -/
def isGap (c : Char) : Bool := c == ' ' || c == '\t'

/-- The characters of quoted text and of comments: all but control characters, and the tab. -/
def isPlain (c : Char) : Bool := c == '\t' || (0x20 ≤ c.toNat && c.toNat != 0x7F)

/-- A kind of quoted text. -/
structure Quotation where
  quote : Char
  /-- Whether a backslash starts an escape. -/
  escapes : Bool
  /-- Whether line ends may stand in the text, which then has three quotes on either side. -/
  manyLines : Bool
  deriving DecidableEq, Repr

/-- What the machine has met and not yet dealt with. -/
inductive Mode where
  | plain
  /-- Some quotes in a row, in a text of many lines. -/
  | quotes (count : Nat)
  /-- The first half of a line end of two characters. -/
  | carriage
  /-- A backslash. -/
  | escape
  /-- A part of a character in hexadecimal digits: how many are left, and the value so far. -/
  | code (left value : Nat)
  /-- A backslash at the end of a line, after which blanks and line ends count for nothing;
  `broken` once the first line end was met. -/
  | joining (broken : Bool)
  /-- The first half of a line end after such a backslash. -/
  | joiningCarriage
  deriving DecidableEq, Repr

/-- What a character does. -/
inductive Step where
  /-- Some text, and the machine goes on. -/
  | go (text : List Char) (next : Mode)
  /-- The end of the quoted text, with the last of it; `keep` when the character comes after it. -/
  | close (text : List Char) (keep : Bool)
  | refuse
  deriving DecidableEq, Repr

/-- A step with text before its own. -/
def Step.after (text : List Char) : Step → Step
  | .go more next => .go (text ++ more) next
  | .close more keep => .close (text ++ more) keep
  | .refuse => .refuse

/-- Character that follows a backslash, for the escapes of one character. -/
def shortEscape? (c : Char) : Option Char :=
  if c = '"' then some '"'
  else if c = '\\' then some '\\'
  else if c = 'b' then some '\x08'
  else if c = 'f' then some '\x0C'
  else if c = 'n' then some '\n'
  else if c = 'r' then some '\r'
  else if c = 't' then some '\t'
  else none

/-- The character with a code. -/
def charOf? (code : Nat) : Option Char :=
  if code.isValidChar then some (Char.ofNat code) else none

namespace Quotation

/-- A character of the text itself. -/
def plainStep (q : Quotation) (c : Char) : Step :=
  if c = q.quote then if q.manyLines then .go [] (.quotes 1) else .close [] false
  else if q.escapes ∧ c = '\\' then .go [] .escape
  else if q.manyLines ∧ c = '\n' then .go ['\n'] .plain
  else if q.manyLines ∧ c = '\r' then .go [] .carriage
  else if isPlain c then .go [c] .plain
  else .refuse

/-- A character after a backslash that may stand at the end of a line. -/
def joinStep (q : Quotation) (broken : Bool) (c : Char) : Step :=
  if isGap c then .go [] (.joining broken)
  else if c = '\n' then .go [] (.joining true)
  else if c = '\r' then .go [] .joiningCarriage
  else if broken then q.plainStep c
  else .refuse

/-- A character after a backslash. -/
def escapeStep (q : Quotation) (c : Char) : Step :=
  match shortEscape? c with
  | some e => .go [e] .plain
  | none =>
    if c = 'u' then .go [] (.code 4 0)
    else if c = 'U' then .go [] (.code 8 0)
    else if q.manyLines then q.joinStep false c
    else .refuse

/-- A hexadecimal digit of a character. -/
def codeStep (left value : Nat) (c : Char) : Step :=
  match Text.hexDigit? c with
  | none => .refuse
  | some digit =>
    let value := value * 16 + digit
    if 1 < left then .go [] (.code (left - 1) value)
    else
      match charOf? value with
      | some c => .go [c] .plain
      | none => .refuse

/-- A character after some quotes in a row. Three of them close the text, and up to two more before
them belong to it. -/
def quoteStep (q : Quotation) (count : Nat) (c : Char) : Step :=
  if c = q.quote then if count < 5 then .go [] (.quotes (count + 1)) else .refuse
  else if 3 ≤ count then .close (List.replicate (count - 3) q.quote) true
  else (q.plainStep c).after (List.replicate count q.quote)

/-- What a character does in a mode. -/
def step (q : Quotation) : Mode → Char → Step
  | .plain, c => q.plainStep c
  | .quotes count, c => q.quoteStep count c
  | .carriage, c => if c = '\n' then .go ['\n'] .plain else .refuse
  | .escape, c => q.escapeStep c
  | .code left value, c => codeStep left value c
  | .joining broken, c => q.joinStep broken c
  | .joiningCarriage, c => if c = '\n' then .go [] (.joining true) else .refuse

/-- The last of a text that the end of everything closes. -/
def atEnd? (q : Quotation) : Mode → Option (List Char)
  | .quotes count => if 3 ≤ count then some (List.replicate (count - 3) q.quote) else none
  | _ => none

/-- Reads up to the closing quote: the text, and what comes after it. -/
def scan (q : Quotation) : Mode → List Char → Option (List Char × List Char)
  | mode, [] => (q.atEnd? mode).map (·, [])
  | mode, c :: rest =>
    match q.step mode c with
    | .go text next => (scan q next rest).map fun r ↦ (text ++ r.1, r.2)
    | .close text keep => some (text, if keep then c :: rest else rest)
    | .refuse => none

/-- Reads a quoted text after its opening quote. -/
def read (q : Quotation) (cs : List Char) : Option (String × List Char) :=
  (q.scan .plain cs).map fun r ↦ (String.ofList r.1, r.2)

/-- Between double quotes. -/
def double : Quotation := ⟨'"', true, false⟩

/-- Between three double quotes. -/
def tripleDouble : Quotation := ⟨'"', true, true⟩

/-- Between apostrophes. -/
def single : Quotation := ⟨'\x27', false, false⟩

/-- Between three apostrophes. -/
def tripleSingle : Quotation := ⟨'\x27', false, true⟩

end Quotation

/-- Drops a line end at the start of a text. -/
def dropLineEnd : List Char → List Char
  | '\n' :: rest => rest
  | '\r' :: '\n' :: rest => rest
  | cs => cs

/-- Reads a quoted text of any kind. A line end right after three quotes is no part of it. -/
def readQuoted : List Char → Option (String × List Char)
  | '"' :: '"' :: '"' :: rest => Quotation.tripleDouble.read (dropLineEnd rest)
  | '"' :: rest => Quotation.double.read rest
  | '\x27' :: '\x27' :: '\x27' :: rest => Quotation.tripleSingle.read (dropLineEnd rest)
  | '\x27' :: rest => Quotation.single.read rest
  | _ => none

end Certification.Toml
