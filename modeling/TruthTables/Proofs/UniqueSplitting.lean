import TruthTables.Proofs.Splitting

/-!
# The only way to split a text

The splitting of a text loses nothing and could not be another one.  Its tokens stand one behind the
other from the start of the text on, each where its characters are, up to the end of the text or to
the character that is reported.  Two lists of separable tokens with the same characters are equal
(`eq_of_lexemes_eq`), so nothing else makes up the same part of the text, and the characters of the
tokens split into them again.

A token is recognised by a pattern, a fixed sign or a run of letters and digits.  Among the signs
none starts another, and none starts with a letter or a digit.  So at most one pattern fits the
start of a text, and the patterns may be tried in any order (`findSome?_patterns`).
-/

namespace TruthTables

namespace Token

/-! ### Patterns -/

def signTokens : List Token :=
  [connective .xor, connective .iff, connective .implies, negation, connective .and,
    connective .or, opening, closing]

def scanSign (t : Token) (cs : List Char) : Option (Token × List Char) :=
  if t.lexeme <+: cs then some (t, cs.drop t.lexeme.length) else none

def scanName (cs : List Char) : Option (Token × List Char) :=
  if cs.takeWhile Text.isAlphanumeric = [] then none
  else some (identifier (String.ofList (cs.takeWhile Text.isAlphanumeric)),
    cs.dropWhile Text.isAlphanumeric)

def patterns : List (List Char → Option (Token × List Char)) :=
  signTokens.map scanSign ++ [scanName]

variable {cs rest : List Char} {t u : Token}

theorem mem_signTokens : t ∈ signTokens ↔ t.isIdentifier = false := by
  cases t with
  | identifier name => simp [signTokens, isIdentifier]
  | connective c => cases c <;> decide
  | negation => decide
  | opening => decide
  | closing => decide

theorem spelled_of_not_isIdentifier (h : t.isIdentifier = false) : t.Spelled := by
  cases t with
  | identifier name => cases h
  | connective c => exact trivial
  | negation => exact trivial
  | opening => exact trivial
  | closing => exact trivial

theorem scanSign_eq_some_iff : scanSign t cs = some (u, rest) ↔ t = u ∧ cs = t.lexeme ++ rest := by
  rw [scanSign, Option.ite_none_right_eq_some, Option.some.injEq, Prod.mk.injEq]
  constructor
  · rintro ⟨⟨rest, rfl⟩, rfl, rfl⟩
    rw [List.drop_left]
    exact ⟨rfl, rfl⟩
  · rintro ⟨rfl, rfl⟩
    exact ⟨List.prefix_append _ _, rfl, List.drop_left⟩

theorem scanName_of_isAlphanumeric {c : Char} (h : Text.isAlphanumeric c) (cs : List Char) :
    scanName (c :: cs) = scan? (c :: cs) := by
  rw [scan?_of_isAlphanumeric h, scanName, List.takeWhile_cons_of_pos h,
    List.dropWhile_cons_of_pos h, if_neg (List.cons_ne_nil _ _)]

theorem scan?_of_mem_patterns {p : List Char → Option (Token × List Char)} (hp : p ∈ patterns)
    (h : p cs = some (t, rest)) : scan? cs = some (t, rest) := by
  rw [patterns, List.mem_append, List.mem_map, List.mem_singleton] at hp
  rcases hp with ⟨u, hu, rfl⟩ | rfl
  · obtain ⟨rfl, rfl⟩ := scanSign_eq_some_iff.mp h
    have hi := mem_signTokens.mp hu
    exact scan?_lexeme (spelled_of_not_isIdentifier hi) (by rw [hi]; intro he; cases he)
  · cases cs with
    | nil => cases h
    | cons c cs =>
      have hc : Text.isAlphanumeric c := by
        by_contra hc
        exact (Option.ite_none_left_eq_some.mp h).1 (List.takeWhile_cons_of_neg hc)
      rw [← scanName_of_isAlphanumeric hc, h]

theorem exists_pattern_of_scan? (h : scan? cs = some (t, rest)) :
    ∃ p ∈ patterns, p cs = some (t, rest) := by
  cases hi : t.isIdentifier with
  | false =>
    refine ⟨scanSign t, ?_, scanSign_eq_some_iff.mpr ⟨rfl, eq_append_of_scan? h⟩⟩
    exact List.mem_append_left _ (List.mem_map_of_mem (mem_signTokens.mpr hi))
  | true =>
    cases t with
    | identifier name =>
      obtain ⟨hne, hall⟩ := spelled_of_scan? h
      obtain ⟨c, cs', hname⟩ := List.exists_cons_of_ne_nil hne
      have hc : Text.isAlphanumeric c := hall c (by rw [hname]; exact List.mem_cons_self)
      have hcs := eq_append_of_scan? h
      rw [lexeme, hname, List.cons_append] at hcs
      refine ⟨scanName, List.mem_append_right _ (List.mem_singleton_self _), ?_⟩
      rw [hcs] at h ⊢
      rw [scanName_of_isAlphanumeric hc, h]
    | connective c => cases hi
    | negation => cases hi
    | opening => cases hi
    | closing => cases hi

/-- **The patterns may be tried in any order.** -/
theorem findSome?_patterns {order : List (List Char → Option (Token × List Char))}
    (h : order.Perm patterns) (cs : List Char) : order.findSome? (fun p => p cs) = scan? cs := by
  cases hfound : order.findSome? fun p => p cs with
  | none =>
    rw [List.findSome?_eq_none_iff] at hfound
    cases hscan : scan? cs with
    | none => rfl
    | some first =>
      obtain ⟨p, hp, hfits⟩ := exists_pattern_of_scan? hscan
      rw [hfound p (h.mem_iff.mpr hp)] at hfits
      cases hfits
  | some first =>
    obtain ⟨p, hp, hfits⟩ := List.exists_of_findSome?_eq_some hfound
    exact (scan?_of_mem_patterns (h.mem_iff.mp hp) hfits).symm

/-! ### One behind the other -/

/-- The tokens stand one behind the other from one place to another. -/
def Contiguous : Nat → List Located → Nat → Prop
  | n, [], m => n = m
  | n, t :: ts, m => t.start = n ∧ Contiguous t.stop ts m

theorem contiguous_locate (ts : List Token) :
    ∀ n, Contiguous n (locate n ts) (n + (lexemes ts).length) := by
  induction ts with
  | nil => intro n; rfl
  | cons t ts ih =>
    intro n
    refine ⟨rfl, ?_⟩
    rw [lexemes_cons, List.length_append, ← Nat.add_assoc]
    exact ih _

theorem slice_of_mem_locate {ts : List Token} {t : Located} (h : t ∈ locate 0 ts)
    (rest : List Char) : ((lexemes ts ++ rest).take t.stop).drop t.start = t.token.lexeme := by
  obtain ⟨before, after, hsplit⟩ := List.append_of_mem h
  obtain ⟨us, vs, rfl, -, hstart⟩ := of_locate_eq_append hsplit
  rw [Nat.zero_add] at hstart
  have hstop : t.stop = (lexemes us ++ t.token.lexeme).length := by
    rw [Located.stop, hstart, List.length_append]
  rw [lexemes_append, lexemes_cons, ← List.append_assoc, List.append_assoc, hstop,
    List.take_left, hstart, List.drop_left]

theorem eq_of_lexemes_eq {ts us : List Token} (hts : Separable ts) (hus : Separable us)
    (h : lexemes ts = lexemes us) : ts = us := by
  have hlocate : locate 0 ts = locate 0 us := by
    have hsplit := Lexing.ofCharsAt_lexemes hts 0
    rw [h, Lexing.ofCharsAt_lexemes hus 0] at hsplit
    exact (congrArg Lexing.tokens hsplit).symm
  rw [← map_token_locate ts 0, hlocate, map_token_locate]

end Token

namespace Lexing

open Token

/-- What became of a text is a splitting of its first `stop` characters that loses none of them and
is the only one. -/
structure Lossless (cs : List Char) (l : Lexing) (stop : Nat) : Prop where
  contiguous : Contiguous 0 l.tokens stop
  slice : ∀ t ∈ l.tokens, (cs.take t.stop).drop t.start = t.token.lexeme
  /-- Every token is a sign or a run of letters and digits, and no two names follow each other. -/
  separable : Separable (l.tokens.map Located.token)
  lexemes_eq : lexemes (l.tokens.map Located.token) = cs.take stop
  /-- The splitting stops at the end of the text or at the one character that is reported. -/
  ending : (l.failure = none ∧ stop = cs.length) ∨
    ∃ c, l.failure = some ⟨c, stop⟩ ∧ cs[stop]? = some c ∧
      IllegalCharacter.message ⟨c, stop⟩ = "Illegal character '" ++ c.toString
        ++ "' encountered at position " ++ toString stop ∧
      Text.isAlphanumeric c = false ∧
      ∀ t : Token, t.isIdentifier = false → ¬ t.lexeme <+: cs.drop stop
  only : ∀ ts, Separable ts → lexemes ts = cs.take stop → ts = l.tokens.map Located.token
  again : ofChars (lexemes (l.tokens.map Located.token)) = ⟨l.tokens, none⟩

theorem exists_lossless (cs : List Char) : ∃ stop, Lossless cs (ofChars cs) stop := by
  obtain ⟨ts, rest, htok, hsep, hcs, hend, hfail⟩ := spec cs 0
  rw [Nat.zero_add] at hfail
  have htokens : (ofChars cs).tokens.map Located.token = ts := by
    rw [ofChars, htok, map_token_locate]
  have htake : cs.take (lexemes ts).length = lexemes ts := by rw [hcs, List.take_left]
  refine ⟨(lexemes ts).length, ?_, ?_, ?_, ?_, ?_, ?_, ?_⟩
  · have hcontiguous := contiguous_locate ts 0
    rwa [Nat.zero_add, ← htok] at hcontiguous
  · intro t ht
    rw [ofChars, htok] at ht
    rw [hcs]
    exact slice_of_mem_locate ht rest
  · rwa [htokens]
  · rw [htokens, htake]
  · cases rest with
    | nil =>
      refine Or.inl ⟨hfail, ?_⟩
      rw [hcs, List.append_nil]
    | cons c rest =>
      have hdrop : cs.drop (lexemes ts).length = c :: rest := by rw [hcs, List.drop_left]
      have hname : Text.isAlphanumeric c = false := by
        by_contra hc
        rw [Bool.not_eq_false] at hc
        rw [scan?_of_isAlphanumeric hc] at hend
        cases hend
      refine Or.inr ⟨c, hfail, ?_, rfl, hname, fun t ht => ?_⟩
      · rw [← List.head?_drop, hdrop, List.head?_cons]
      · rw [hdrop]
        exact not_prefix_of_scan?_eq_none hend (spelled_of_not_isIdentifier ht)
  · intro us hus heq
    rw [htake] at heq
    rw [htokens]
    exact eq_of_lexemes_eq hus hsep heq
  · rw [htokens, ofChars, ofCharsAt_lexemes hsep 0, ← htok]
    rfl

/-- **Every text is split without loss and in the only possible way**, up to its end or to the first
character at which no token starts, in whatever order the patterns of the tokens are tried. -/
theorem ofChars_lossless (cs : List Char) :
    (∃ stop, Lossless cs (ofChars cs) stop) ∧
      ∀ order : List (List Char → Option (Token × List Char)), order.Perm patterns →
        ∀ rest, order.findSome? (fun p => p rest) = scan? rest :=
  ⟨exists_lossless cs, fun _ h rest => findSome?_patterns h rest⟩

/-- A text that stops short at the start of a sign, and the patterns from the last to the first. -/
theorem ofChars_lossless_broken_sign :
    (ofChars "p1=>(!q<!=>r)<=s".toList).failure = some ⟨'<', 13⟩ ∧
      Lossless "p1=>(!q<!=>r)<=s".toList (ofChars "p1=>(!q<!=>r)<=s".toList) 13 ∧
      patterns.reverse.Perm patterns ∧
      patterns.reverse.findSome? (fun p => p "<!=>r)<=s".toList) =
        some (connective .xor, "r)<=s".toList) := by
  obtain ⟨⟨stop, hlossless⟩, horder⟩ := ofChars_lossless "p1=>(!q<!=>r)<=s".toList
  have hfailure : (ofChars "p1=>(!q<!=>r)<=s".toList).failure = some ⟨'<', 13⟩ := by
    decide +kernel
  have hstop : stop = 13 := by
    rcases hlossless.ending with ⟨hnone, -⟩ | ⟨c, hsome, -⟩
    · rw [hfailure] at hnone
      cases hnone
    · rw [hfailure] at hsome
      cases hsome
      rfl
  subst hstop
  have hperm : patterns.reverse.Perm patterns := List.reverse_perm patterns
  exact ⟨hfailure, hlossless, hperm, horder _ hperm _⟩

end Lexing

end TruthTables
