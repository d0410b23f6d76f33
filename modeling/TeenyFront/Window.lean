import TeenyFront.Cursor
import TeenyFront.SyntaxError

/-!
# Token windows

A program is checked through a window of two tokens over the source: the current token and the
next one. Shifting the window reads one more token; when that fails, the window keeps both tokens
and the cursor stays where the error was found. A window has less to read after every shift past
a token that is not the end of input.
-/

set_option autoImplicit false

namespace TeenyFront

inductive ParseError where
  | lexical (error : LexicalError)
  | syntactic (error : SyntaxError)
  deriving DecidableEq, Repr

def ParseError.message : ParseError → String
  | lexical e => "LexingError: " ++ e.message
  | syntactic e => "SyntaxError: " ++ e.message

structure Window where
  current : Token
  next : Token
  cursor : Cursor
  deriving DecidableEq, Repr

namespace Window

def ofCursor (c : Cursor) : Except LexicalError Window :=
  match c.readToken with
  | (.error e, _) => .error e
  | (.ok current, d) =>
    match d.readToken with
    | (.error e, _) => .error e
    | (.ok next, d) => .ok ⟨current, next, d⟩

def ofSource (source : String) : Except LexicalError Window := ofCursor (.ofSource source)

def kind (w : Window) : Kind := w.current.kind

def shift (w : Window) : Except LexicalError Unit × Window :=
  match w.cursor.readToken with
  | (.error e, d) => (.error e, ⟨w.current, w.next, d⟩)
  | (.ok fresh, d) => (.ok (), ⟨w.next, fresh, d⟩)

/-- The number of characters left, counting each token in the window but an end token as one. -/
def unread (w : Window) : Nat :=
  (if w.current.kind = .eof then 0 else 1) + (if w.next.kind = .eof then 0 else 1)
    + w.cursor.rest.length

theorem shift_error {w : Window} {e : LexicalError} {d : Cursor}
    (h : w.cursor.readToken = (.error e, d)) :
    w.shift = (.error e, ⟨w.current, w.next, d⟩) := by
  simp [shift, h]

theorem shift_ok {w : Window} {t : Token} {d : Cursor} (h : w.cursor.readToken = (.ok t, d)) :
    w.shift = (.ok (), ⟨w.next, t, d⟩) := by
  simp [shift, h]

theorem shift_eq_error {w v : Window} {e : LexicalError} (h : w.shift = (.error e, v)) :
    ∃ d, w.cursor.readToken = (.error e, d) ∧ v = ⟨w.current, w.next, d⟩ := by
  rcases hr : w.cursor.readToken with ⟨r, d⟩
  cases r with
  | error e' =>
    rw [shift_error hr] at h
    cases h
    exact ⟨d, rfl, rfl⟩
  | ok t =>
    rw [shift_ok hr] at h
    cases h

theorem shift_eq_ok {w v : Window} (h : w.shift = (.ok (), v)) :
    ∃ t d, w.cursor.readToken = (.ok t, d) ∧ v = ⟨w.next, t, d⟩ := by
  rcases hr : w.cursor.readToken with ⟨r, d⟩
  cases r with
  | error e =>
    rw [shift_error hr] at h
    cases h
  | ok t =>
    rw [shift_ok hr] at h
    cases h
    exact ⟨t, d, rfl, rfl⟩

theorem ofCursor_eq_ok {c : Cursor} {w : Window} (h : ofCursor c = .ok w) :
    ∃ d, c.readToken = (.ok w.current, d) ∧ d.readToken = (.ok w.next, w.cursor) := by
  rcases hr : c.readToken with ⟨r, d⟩
  cases r with
  | error e =>
    simp only [ofCursor, hr] at h
    cases h
  | ok t =>
    rcases hr' : d.readToken with ⟨r', d'⟩
    cases r' with
    | error e =>
      simp only [ofCursor, hr, hr'] at h
      cases h
    | ok u =>
      simp only [ofCursor, hr, hr'] at h
      cases h
      exact ⟨d, rfl, hr'⟩

theorem shift_unread_le (w : Window) : w.shift.2.unread ≤ w.unread := by
  rcases hs : w.shift with ⟨r, v⟩
  cases r with
  | error e =>
    obtain ⟨d, hr, rfl⟩ := shift_eq_error hs
    exact Nat.add_le_add_left (Cursor.length_le_of_read hr) _
  | ok _ =>
    obtain ⟨t, d, hr, rfl⟩ := shift_eq_ok hs
    have hle := Cursor.weight_le_of_token hr
    unfold unread
    dsimp only
    omega

theorem shift_unread_lt {w v : Window} (hk : w.kind ≠ .eof) (hs : w.shift = (.ok (), v)) :
    v.unread < w.unread := by
  obtain ⟨t, d, hr, rfl⟩ := shift_eq_ok hs
  have hle := Cursor.weight_le_of_token hr
  unfold kind at hk
  unfold unread
  rw [if_neg hk]
  dsimp only
  omega

end Window

end TeenyFront
