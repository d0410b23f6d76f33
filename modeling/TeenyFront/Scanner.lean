import TeenyFront.TokenStream

/-!
# Scanners

A scanner stores the whole source and, side by side, the index of the current character, this
character and its position. Operations change these fields one character at a time and take texts
out of the source by index. An operation that asks for characters that the source does not have, or
that would go on without getting any further, has no outcome at all.
-/

set_option autoImplicit false

namespace TeenyFront

open Text

structure Scanner where
  source : Array Char
  index : Nat
  current : Option Char
  position : Position
  finished : Bool

namespace Scanner

def ofSource (source : String) : Scanner :=
  let chars := source.toList.toArray
  let chars := if chars.back? = some '\n' then chars else chars.push '\n'
  ⟨chars, 0, chars[0]?, .start, false⟩

def advance (s : Scanner) : Scanner :=
  match s.current with
  | none => s
  | some c =>
    { s with
      index := s.index + 1
      current := s.source[s.index + 1]?
      position := s.position.next c }

def peek? (s : Scanner) : Option Char := s.source[s.index + 1]?

/-- The characters from one index up to another, if the source has them. -/
def slice? (s : Scanner) (start stop : Nat) : Option String :=
  if start ≤ stop ∧ stop ≤ s.source.size then
    some (String.ofList (s.source.extract start stop).toList)
  else none

/-- What is left, counted so that it is less after every step. -/
def left (s : Scanner) : Nat :=
  match s.current with
  | none => 0
  | some _ => s.source.size - s.index + 1

theorem advance_left {s : Scanner} {c : Char} (h : s.current = some c) :
    s.advance.left < s.left := by
  simp only [left, advance, h]
  cases hn : s.source[s.index + 1]? with
  | none => exact Nat.succ_pos _
  | some d =>
    obtain ⟨hlt, -⟩ := Array.getElem?_eq_some_iff.1 hn
    dsimp only
    omega

theorem advance_index {s : Scanner} {c : Char} (h : s.current = some c) :
    s.advance.source = s.source ∧ s.advance.index = s.index + 1 := by
  simp [advance, h]

def passWhile (p : Char → Bool) (s : Scanner) : Scanner :=
  match _h : s.current with
  | none => s
  | some c => if p c then passWhile p s.advance else s
termination_by s.left
decreasing_by exact advance_left _h

/-- On to the last character that satisfies `p`, by looking at the next one. -/
def reachWhile (p : Char → Bool) (s : Scanner) : Option Scanner :=
  match _hn : s.peek? with
  | none => some s
  | some c =>
    if p c then
      match _h : s.current with
      | none => none
      | some _ => reachWhile p s.advance
    else some s
termination_by s.source.size - s.index
decreasing_by
  obtain ⟨hlt, -⟩ := Array.getElem?_eq_some_iff.1 _hn
  obtain ⟨hs, hi⟩ := advance_index _h
  rw [hs, hi]
  omega

def skipGap (s : Scanner) : Scanner :=
  let s := s.passWhile Lexeme.isBlank
  if s.current = some '#' then s.passWhile (· ≠ '\n') else s

/-- A lexeme or an error and the scanner that it leaves, if there is an outcome. -/
abbrev Outcome : Type := Option (Except LexicalError Lexeme × Scanner)

def fail (s : Scanner) (cause : LexicalCause) : Outcome := some (.error ⟨cause, s.position⟩, s)

def found (s : Scanner) (kind : Kind) (text : String) : Outcome := some (.ok ⟨kind, text⟩, s)

/-- What stands from an index up to the current character. -/
def foundFrom (s : Scanner) (start : Nat) (kind : String → Kind) : Outcome :=
  (s.slice? start (s.index + 1)).bind fun text => s.found (kind text) text

def scanOperator (s : Scanner) (c : Char) (single double : Kind) : Outcome :=
  if s.peek? = some '=' then s.advance.found double (String.ofList [c, '='])
  else s.found single (String.ofList [c])

def scanNotEqual (s : Scanner) : Outcome :=
  if s.peek? = some '=' then s.advance.found .notEqual "!="
  else s.fail (.loneExclamation s.peek?)

def scanString (s : Scanner) : Outcome :=
  let start := s.advance.index
  let s := s.advance.passWhile Lexeme.isStringBody
  match s.current with
  | none => s.fail .openString
  | some c =>
    if c = '"' then (s.slice? start s.index).bind fun body => s.found .string body
    else s.fail (.forbiddenInString c)

def scanNumber (s : Scanner) : Outcome :=
  let start := s.index
  (s.reachWhile Char.isDigit).bind fun s =>
    if s.peek? = some '.' then
      let s := s.advance
      if s.peek?.any Char.isDigit then
        (s.reachWhile Char.isDigit).bind fun s => s.foundFrom start fun _ => .number
      else s.fail .bareDecimalPoint
    else s.foundFrom start fun _ => .number

def scanWord (s : Scanner) : Outcome :=
  let start := s.index
  (s.reachWhile isAlphanumeric).bind fun s =>
    s.foundFrom start fun text => (Kind.keyword? text).getD .identifier

def scan (s : Scanner) : Outcome :=
  match s.current with
  | none => s.found .eof ""
  | some c =>
    match c with
    | '\n' => s.found .newline "\n"
    | '+' => s.found .plus "+"
    | '-' => s.found .minus "-"
    | '*' => s.found .asterisk "*"
    | '/' => s.found .slash "/"
    | '=' => s.scanOperator '=' .assign .equal
    | '>' => s.scanOperator '>' .greater .greaterEqual
    | '<' => s.scanOperator '<' .less .lessEqual
    | '!' => s.scanNotEqual
    | '"' => s.scanString
    | c =>
      if c.isDigit then s.scanNumber
      else if isAlphabetic c then s.scanWord
      else s.fail (.strayCharacter c)

/-- A token is placed where its gap ends, and left by one step more. An error stays where it is
met. -/
def readToken (s : Scanner) : Option (Except LexicalError Token × Scanner) :=
  let s := s.skipGap
  s.scan.map fun
    | (.ok l, t) => (.ok ⟨l.kind, l.text, s.position⟩, t.advance)
    | (.error e, t) => (.error e, t)

def next (s : Scanner) : Option (Option (Except LexicalError Token) × Scanner) :=
  if s.finished then some (none, s)
  else s.readToken.map fun (item, t) => (some item, { t with finished := TokenStream.isLast item })

def pending (s : Scanner) : Nat := if s.finished then 0 else s.left + 1

def drain (s : Scanner) : Option (List (Except LexicalError Token) × Scanner) :=
  match s.next with
  | none => none
  | some (none, t) => some ([], t)
  | some (some item, t) =>
    if t.pending < s.pending then t.drain.map fun (items, u) => (item :: items, u) else none
termination_by s.pending

def tokenize (s : Scanner) : Option (Except LexicalError (List Token) × Scanner) :=
  s.drain.map fun (items, t) => (items.mapM id, t)

def count (s : Scanner) : Option (Nat × Scanner) :=
  s.drain.map fun (items, t) => (items.length, t)

def forward (s : Scanner) : Nat → Scanner
  | 0 => s
  | n + 1 => s.advance.forward n

open TokenStream (Step)

def perform (s : Scanner) : Step → Option Scanner
  | .look => some s
  | .skip n => some (s.forward n)
  | .readToken => s.readToken.map Prod.snd
  | .next => s.next.map Prod.snd
  | .tokenize => s.tokenize.map Prod.snd
  | .count => s.count.map Prod.snd

def script (s : Scanner) : List Step → Option Scanner
  | [] => some s
  | step :: steps => (s.perform step).bind fun t => t.script steps

def cursor (s : Scanner) : Cursor := ⟨s.source.toList.drop s.index, s.position⟩

end Scanner

end TeenyFront
