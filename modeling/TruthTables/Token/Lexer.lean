import TruthTables.Token.Basic
import TruthTables.Text.Alphanumeric

/-!
# Splitting a text into tokens

`scan?` takes the token that a text starts with: a fixed sign, or the longest run of letters and
digits.  `Lexing.ofChars` repeats it up to the end of the text or up to the first character that
starts no token.  `eq_append_of_scan?` says that a scan loses no character, and
`length_lt_of_scan?` that it takes at least one.

Spacing is not a matter of tokens: it is removed from a formula beforehand, so that it may also
stand inside an identifier.
-/

namespace TruthTables

namespace Token

/-- Whether a character is spacing, which has no meaning in a formula. -/
def isSpacing (c : Char) : Bool :=
  c == ' ' || c == '\t' || c == '\r' || c == '\n'

/-- The characters of a formula without spacing. -/
def dropSpacing (cs : List Char) : List Char := cs.filter (!isSpacing ·)

/-- The token that a text starts with, and the rest of the text. -/
def scan? : List Char → Option (Token × List Char)
  | [] => none
  | '<' :: '!' :: '=' :: '>' :: rest => some (connective .xor, rest)
  | '<' :: '=' :: '>' :: rest => some (connective .iff, rest)
  | '=' :: '>' :: rest => some (connective .implies, rest)
  | '!' :: rest => some (negation, rest)
  | '&' :: rest => some (connective .and, rest)
  | '|' :: rest => some (connective .or, rest)
  | '(' :: rest => some (opening, rest)
  | ')' :: rest => some (closing, rest)
  | c :: rest =>
    if Text.isAlphanumeric c then
      some (identifier (String.ofList (c :: rest.takeWhile Text.isAlphanumeric)),
        rest.dropWhile Text.isAlphanumeric)
    else none

/-- A text is its first token followed by the rest. -/
theorem eq_append_of_scan? {cs rest : List Char} {t : Token} (h : scan? cs = some (t, rest)) :
    cs = t.lexeme ++ rest := by
  unfold scan? at h
  split at h
  case h_1 => cases h
  case h_10 =>
    split at h
    · cases h
      simp [lexeme]
    · cases h
  all_goals
    cases h
    rfl

theorem lexeme_ne_nil_of_scan? {cs rest : List Char} {t : Token}
    (h : scan? cs = some (t, rest)) : t.lexeme ≠ [] := by
  unfold scan? at h
  split at h
  case h_1 => cases h
  case h_10 =>
    split at h
    · cases h
      simp [lexeme]
    · cases h
  all_goals
    cases h
    simp [lexeme, Connective.sign]

theorem length_lt_of_scan? {cs rest : List Char} {t : Token} (h : scan? cs = some (t, rest)) :
    rest.length < cs.length := by
  have hpos : 0 < t.lexeme.length := List.length_pos_iff.mpr (lexeme_ne_nil_of_scan? h)
  rw [eq_append_of_scan? h, List.length_append]
  omega

end Token

/-- A character that starts no token, at its place in the text. -/
structure IllegalCharacter where
  char : Char
  position : Nat
deriving DecidableEq, Repr

def IllegalCharacter.message (e : IllegalCharacter) : String :=
  "Illegal character '" ++ e.char.toString ++ "' encountered at position " ++ toString e.position

/-- What became of a text: its tokens, up to an illegal character if it has one. -/
structure Lexing where
  tokens : List Token.Located
  /-- The character at which the splitting stopped, if any. -/
  failure : Option IllegalCharacter
deriving DecidableEq, Repr

namespace Lexing

/-- The tokens of a text whose first character stands at `position`. -/
def ofCharsAt (position : Nat) (cs : List Char) : Lexing :=
  match h : Token.scan? cs with
  | some (t, rest) =>
    have := Token.length_lt_of_scan? h
    let tail := ofCharsAt (position + t.lexeme.length) rest
    ⟨⟨t, position⟩ :: tail.tokens, tail.failure⟩
  | none => ⟨[], cs.head?.map fun c => ⟨c, position⟩⟩
termination_by cs.length

/-- A text goes on with the token that it starts with. -/
theorem ofCharsAt_of_scan? {position : Nat} {cs rest : List Char} {t : Token}
    (h : Token.scan? cs = some (t, rest)) :
    ofCharsAt position cs =
      ⟨⟨t, position⟩ :: (ofCharsAt (position + t.lexeme.length) rest).tokens,
        (ofCharsAt (position + t.lexeme.length) rest).failure⟩ := by
  rw [ofCharsAt]
  split
  next t' rest' h' =>
    rw [h] at h'
    cases h'
    rfl
  next h' =>
    rw [h] at h'
    cases h'

/-- A text that starts with no token is at its end or at an illegal character. -/
theorem ofCharsAt_of_scan?_eq_none {position : Nat} {cs : List Char} (h : Token.scan? cs = none) :
    ofCharsAt position cs = ⟨[], cs.head?.map fun c => ⟨c, position⟩⟩ := by
  rw [ofCharsAt]
  split
  next t rest h' =>
    rw [h] at h'
    cases h'
  next => rfl

def ofChars (cs : List Char) : Lexing := ofCharsAt 0 cs

end Lexing

end TruthTables
