import HttpTelemetry.Text.Blank
import HttpTelemetry.Text.Bytes

/-!
# Logical lines

A settings file is a sequence of logical lines. A line goes on behind its line break as long as
quotes are open. A backslash takes the meaning of the character after it. A hash right after a blank
begins a comment, which reaches to the end of the line. The scan that finds this out knows about
quotes, backslashes and blanks only, and not about assignments.
-/

set_option autoImplicit false

namespace HttpTelemetry.Config.DotEnv

open Text (isBlank)

inductive ScanState where
  | plain
  | afterBlank
  | escape
  | double
  | doubleEscape
  | single
  | singleEscape
  deriving DecidableEq, Repr

namespace ScanState

/-- The state after a character, and whether that character begins a comment. Of several blanks in a
row every other one counts: a blank right behind one that counts does not. -/
def next (s : ScanState) (c : Char) : ScanState × Bool :=
  let opening : ScanState :=
    if c = '\\' then .escape
    else if c = '"' then .double
    else if c = '\'' then .single
    else .plain
  match s with
  | .afterBlank => if c = '#' then (.plain, true) else (opening, false)
  | .plain =>
    if isBlank c && c != '\n' && c != '\r' then (.afterBlank, false) else (opening, false)
  | .escape => (.plain, false)
  | .double =>
    (if c = '\\' then .doubleEscape else if c = '"' then .plain else .double, false)
  | .doubleEscape => (.double, false)
  | .single =>
    (if c = '\\' then .singleEscape else if c = '\'' then .plain else .single, false)
  | .singleEscape => (.single, false)

end ScanState

/-- Scans characters. The answer is the state at the end, or the characters before a comment. -/
def scan : ScanState → List Char → Except (List Char) ScanState
  | s, [] => .ok s
  | s, c :: rest =>
    match s.next c with
    | (_, true) => .error []
    | (s, false) => (scan s rest).mapError (c :: ·)

/-- The octets up to and with each line feed; what follows the last one is a line too. -/
def physicalLines : Bytes → List Bytes
  | [] => []
  | b :: rest =>
    if b = '\n'.toUInt8 then [b] :: physicalLines rest
    else match physicalLines rest with
      | [] => [[b]]
      | line :: lines => (b :: line) :: lines

/-- A line without its line feed and the carriage return in front of it. -/
def dropLineBreak (cs : List Char) : List Char :=
  match cs.reverse with
  | '\n' :: '\r' :: rest => rest.reverse
  | '\n' :: rest => rest.reverse
  | _ => cs

/-- A line whose first character that is not blank is a hash. -/
def isComment (cs : List Char) : Bool := (cs.dropWhile isBlank).head? == some '#'

/-- The logical lines that begin with some characters, the last one in front, scanned up to a state,
and go on with physical lines. A line that is not UTF-8 or never ends is `none`, and nothing follows
it. A line that is carried on has had its quotes or its backslash in front of any hash, so only its
first physical line can make it a comment. -/
def logicalLinesFrom : List Char → ScanState → List Bytes → List (Option (List Char))
  | _, s, [] => if s = .plain then [] else [none]
  | begun, s, line :: lines =>
    match Bytes.toText? line with
    | none => [none]
    | some text =>
      if begun.isEmpty && isComment text.toList then some [] :: logicalLinesFrom [] .plain lines
      else match scan s text.toList with
        | .error before => some (begun.reverse ++ before) :: logicalLinesFrom [] .plain lines
        | .ok .plain =>
          some (dropLineBreak (begun.reverse ++ text.toList)) :: logicalLinesFrom [] .plain lines
        | .ok s => logicalLinesFrom (text.toList.reverse ++ begun) s lines

/-- The UTF-8 mark that a file may begin with. -/
def byteOrderMark : Bytes := [0xEF, 0xBB, 0xBF]

def logicalLines (file : Bytes) : List (Option (List Char)) :=
  let text := if file.take 3 = byteOrderMark then file.drop 3 else file
  logicalLinesFrom [] .plain (physicalLines text)

end HttpTelemetry.Config.DotEnv
