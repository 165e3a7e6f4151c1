import HttpTelemetry.Text.Bytes

/-!
# Request targets

A request names what it is for by a path with an optional query, by an absolute address, by an
authority alone, or by `*`. Reading keeps the octets as they are: nothing is decoded, a fragment is
dropped, and each refusal has its cause.
-/

set_option autoImplicit false

namespace HttpTelemetry.Http

inductive TargetError where
  | empty
  | tooLong
  | schemeTooLong
  | invalidCharacter
  | invalidAuthority
  | invalidFormat
  deriving DecidableEq, Repr

def TargetError.message : TargetError → String
  | .empty => "empty string"
  | .tooLong => "uri too long"
  | .schemeTooLong => "scheme too long"
  | .invalidCharacter => "invalid uri character"
  | .invalidAuthority => "invalid authority"
  | .invalidFormat => "invalid format"

/-- A request target. The path is empty if the target is an authority alone; a query is what
follows the first question mark, which may be nothing. -/
structure Target where
  authority : Option String
  path : String
  query : Option String
  deriving DecidableEq, Inhabited

namespace Target

/-! ### Characters -/

def isLetter (b : UInt8) : Bool := (0x61 ≤ b && b ≤ 0x7A) || (0x41 ≤ b && b ≤ 0x5A)

def isDigit (b : UInt8) : Bool := 0x30 ≤ b && b ≤ 0x39

/-- No space, control character, angle bracket or backquote. -/
def isPathByte (b : UInt8) : Bool :=
  b == 0x21 || b == 0x22 || (0x24 ≤ b && b ≤ 0x3B) || b == 0x3D || (0x40 ≤ b && b ≤ 0x5F) ||
    (0x61 ≤ b && b ≤ 0x7E) || 0x80 ≤ b

/-- As in a path, but with the backquote and the question mark, and without the quote. -/
def isQueryByte (b : UInt8) : Bool :=
  b == 0x21 || (0x24 ≤ b && b ≤ 0x3B) || b == 0x3D || (0x3F ≤ b && b ≤ 0x7E) || 0x80 ≤ b

def isSchemeByte (b : UInt8) : Bool :=
  isLetter b || isDigit b || (Bytes.ofText "+.~-").contains b

def isAuthorityByte (b : UInt8) : Bool :=
  isLetter b || isDigit b || (Bytes.ofText "!#$&'()*+,-./:;=?@[]_~%").contains b

def slash : UInt8 := 0x2F
def question : UInt8 := 0x3F
def hash : UInt8 := 0x23
def colon : UInt8 := 0x3A
def star : UInt8 := 0x2A

def endsAuthority (b : UInt8) : Bool := b == slash || b == question || b == hash

/-! ### Path and query -/

/-- Reads a path, the query after the first question mark, and drops the fragment after the first
hash without looking at it. -/
def parsePathQuery (b : Bytes) : Except TargetError (String × Option String) :=
  let shown := b.takeWhile (· != hash)
  let path := shown.takeWhile (· != question)
  let query := (shown.dropWhile (· != question)).drop 1
  if path.all isPathByte && query.all isQueryByte then
    match Bytes.toText? path, Bytes.toText? query with
    | some p, some q => .ok (p, if shown.contains question then some q else none)
    | _, _ => .error .invalidCharacter
  else .error .invalidCharacter

/-! ### Authority -/

/-- What has been seen of an authority: the colons that could set off a port, an opening and a
closing bracket, a percent sign, and whether an at sign came last. -/
structure AuthorityScan where
  colons : Nat := 0
  opened : Bool := false
  closed : Bool := false
  percent : Bool := false
  endsInAt : Bool := false
  deriving DecidableEq

namespace AuthorityScan

/-- Colons counted at most. -/
def mostColons : Nat := 8

/-- Takes in one octet. A closing bracket and an at sign show that earlier colons and percent signs
belonged to an address or to user information. -/
def step (s : AuthorityScan) (b : UInt8) : Except TargetError AuthorityScan :=
  if !isAuthorityByte b then .error .invalidCharacter
  else if b = colon then
    if s.colons < mostColons then .ok { s with colons := s.colons + 1, endsInAt := false }
    else .error .invalidAuthority
  else if b = '['.toUInt8 then
    if s.percent || s.opened then .error .invalidAuthority
    else .ok { s with opened := true, endsInAt := false }
  else if b = ']'.toUInt8 then
    if !s.opened || s.closed then .error .invalidAuthority
    else .ok { s with closed := true, colons := 0, percent := false, endsInAt := false }
  else if b = '@'.toUInt8 then
    .ok { s with colons := 0, percent := false, endsInAt := true }
  else if b = '%'.toUInt8 then .ok { s with percent := true, endsInAt := false }
  else .ok { s with endsInAt := false }

/-- Brackets are paired, at most one colon sets off a port, a host follows an at sign, and no
percent sign is left. -/
def finished (s : AuthorityScan) : Bool :=
  s.opened == s.closed && s.colons ≤ 1 && !s.endsInAt && !s.percent

end AuthorityScan

/-- The authority at the front, up to a slash, a question mark or a hash, and the rest. -/
def parseAuthority (b : Bytes) : Except TargetError (Bytes × Bytes) :=
  if b.isEmpty then .error .empty
  else do
    let front := b.takeWhile fun c => !endsAuthority c
    let scan ← front.foldlM AuthorityScan.step {}
    if scan.finished then return (front, b.drop front.length)
    else throw .invalidAuthority

/-! ### Scheme -/

/-- Whether the octets begin with a word, in either case of its letters. -/
def startsWithWord (word : String) (b : Bytes) : Bool :=
  (b.take word.length).map (fun c => if 0x41 ≤ c ∧ c ≤ 0x5A then c + 0x20 else c) ==
    Bytes.ofText word

def longestScheme : Nat := 64

/-- What follows a scheme and `://`; `none` if the target has no scheme. The mark alone is not taken
for a scheme. -/
def afterScheme (b : Bytes) : Except TargetError (Option Bytes) :=
  if startsWithWord "http://" b then .ok (some (b.drop 7))
  else if startsWithWord "https://" b then .ok (some (b.drop 8))
  else
    let scheme := b.takeWhile isSchemeByte
    let rest := b.drop scheme.length
    if 3 < b.length ∧ rest.take 3 = Bytes.ofText "://" then
      if longestScheme < scheme.length then .error .schemeTooLong else .ok (some (rest.drop 3))
    else .ok none

/-! ### Targets -/

def longest : Nat := 65534

/-- An absolute target has a scheme and an authority; without a path it stands for the root. -/
def parseAbsolute (b : Bytes) : Except TargetError Target := do
  let (authority, rest) ← parseAuthority b
  if authority.isEmpty then throw .invalidFormat
  let (path, query) ← parsePathQuery rest
  return ⟨Bytes.toText? authority, if path = "" then "/" else path, query⟩

/-- A target without a scheme that does not begin with a slash is an authority and nothing else. -/
def parseAuthorityAlone (b : Bytes) (whenLonger : TargetError) : Except TargetError Target := do
  let (authority, rest) ← parseAuthority b
  if !rest.isEmpty then throw whenLonger
  return ⟨Bytes.toText? authority, "", none⟩

def parse (b : Bytes) : Except TargetError Target :=
  if longest < b.length then .error .tooLong
  else
    match b with
    | [] => .error .empty
    | [c] =>
      if c = slash then .ok ⟨none, "/", none⟩
      else if c = star then .ok ⟨none, "*", none⟩
      else parseAuthorityAlone b .invalidCharacter
    | c :: _ =>
      if c = slash then do
        let (path, query) ← parsePathQuery b
        return ⟨none, path, query⟩
      else do
        match ← afterScheme b with
        | some rest => parseAbsolute rest
        | none => parseAuthorityAlone b .invalidFormat

end Target

end HttpTelemetry.Http
