import Mathlib.Data.List.TakeWhile
import TruthTables.Token.Lexer

/-!
# Texts and their tokens

Which tokens a text splits into can be said without splitting it: their lexemes make up the text,
every name is a run of letters and digits, and no two identifiers stand side by side
(`Separable`).  `ofCharsAt_eq_iff` says that the splitting finds exactly these tokens, each at its
place; `Lexing.spec` says what it does with every text, also with one that has no such tokens.
-/

namespace TruthTables

namespace Token

/-- The token can be written: its name, if it has one, is a run of letters and digits. -/
def Spelled : Token → Prop
  | identifier name => name.toList ≠ [] ∧ ∀ c ∈ name.toList, Text.isAlphanumeric c
  | _ => True

def isIdentifier : Token → Bool
  | identifier _ => true
  | _ => false

/-- The tokens can be written side by side: each is spelled, and no two names follow each other. -/
def Separable : List Token → Prop
  | [] => True
  | t :: ts =>
    t.Spelled ∧ (t.isIdentifier → ∀ u ∈ ts.head?, u.isIdentifier = false) ∧ Separable ts

/-- The tokens one after another from a place on. -/
def locate : Nat → List Token → List Located
  | _, [] => []
  | n, t :: ts => ⟨t, n⟩ :: locate (n + t.lexeme.length) ts

def lexemes (ts : List Token) : List Char := ts.flatMap lexeme

@[simp] theorem lexemes_nil : lexemes [] = [] := rfl

@[simp] theorem lexemes_cons (t : Token) (ts : List Token) :
    lexemes (t :: ts) = t.lexeme ++ lexemes ts := List.flatMap_cons

@[simp] theorem lexemes_append (ts us : List Token) :
    lexemes (ts ++ us) = lexemes ts ++ lexemes us := List.flatMap_append

theorem lexemes_group (ts us : List Token) :
    lexemes (.opening :: (ts ++ .closing :: us)) = '(' :: (lexemes ts ++ ')' :: lexemes us) := by
  rw [lexemes_cons, lexemes_append, lexemes_cons]
  rfl

/-! ### The characters of a token -/

def signs : List Char := ['!', '&', '|', '=', '<', '>', '(', ')']

theorem mem_signs_of_mem_lexeme {t : Token} (h : t.isIdentifier = false) :
    ∀ c ∈ t.lexeme, c ∈ signs := by
  have hall : t.lexeme.all fun c => decide (c ∈ signs) := by
    cases t with
    | identifier name => cases h
    | connective c => cases c <;> decide
    | negation => decide
    | opening => decide
    | closing => decide
  exact fun c hc => of_decide_eq_true (List.all_eq_true.mp hall c hc)

theorem not_isAlphanumeric_of_mem_lexeme {t : Token} (h : t.isIdentifier = false) :
    ∀ c ∈ t.lexeme, Text.isAlphanumeric c = false := by
  have hsigns : signs.all fun c => decide (c.toNat < 128 ∧ c.isAlphanum = false) := by decide
  intro c hc
  obtain ⟨hlt, hno⟩ :=
    of_decide_eq_true (List.all_eq_true.mp hsigns c (mem_signs_of_mem_lexeme h c hc))
  rw [Text.isAlphanumeric_of_lt hlt, hno]

theorem isAlphanumeric_or_mem_signs {t : Token} (h : t.Spelled) :
    ∀ c ∈ t.lexeme, Text.isAlphanumeric c ∨ c ∈ signs := by
  cases t with
  | identifier name => exact fun c hc => Or.inl (h.2 c hc)
  | connective d => exact fun c hc => Or.inr (mem_signs_of_mem_lexeme rfl c hc)
  | negation => exact fun c hc => Or.inr (mem_signs_of_mem_lexeme rfl c hc)
  | opening => exact fun c hc => Or.inr (mem_signs_of_mem_lexeme rfl c hc)
  | closing => exact fun c hc => Or.inr (mem_signs_of_mem_lexeme rfl c hc)

theorem not_isSpacing_of_isAlphanumeric {c : Char} (h : Text.isAlphanumeric c) :
    isSpacing c = false := by
  by_cases hs : isSpacing c
  · have hne : ∀ d, c = d → d.toNat < 128 → d.isAlphanum = false → False := by
      rintro d rfl hlt hd
      rw [Text.isAlphanumeric_of_lt hlt, hd] at h
      cases h
    simp only [isSpacing, Bool.or_eq_true, beq_iff_eq] at hs
    rcases hs with ((hs | hs) | hs) | hs
    · exact (hne _ hs (by decide) (by decide)).elim
    · exact (hne _ hs (by decide) (by decide)).elim
    · exact (hne _ hs (by decide) (by decide)).elim
    · exact (hne _ hs (by decide) (by decide)).elim
  · simpa using hs

theorem not_isSpacing_of_mem_lexeme {t : Token} (h : t.Spelled) :
    ∀ c ∈ t.lexeme, isSpacing c = false := by
  have hsigns : signs.all (!isSpacing ·) := by decide
  intro c hc
  rcases isAlphanumeric_or_mem_signs h c hc with hname | hsign
  · exact not_isSpacing_of_isAlphanumeric hname
  · simpa using List.all_eq_true.mp hsigns c hsign

/-! ### One token -/

theorem scan?_of_isAlphanumeric {c : Char} (h : Text.isAlphanumeric c) (rest : List Char) :
    scan? (c :: rest) =
      some (identifier (String.ofList (c :: rest.takeWhile Text.isAlphanumeric)),
        rest.dropWhile Text.isAlphanumeric) := by
  unfold scan?
  split
  case h_1 he => cases he
  case h_10 he =>
    cases he
    exact if_pos h
  all_goals
    next he =>
      cases he
      exact absurd h (by decide)

theorem spelled_of_scan? {cs rest : List Char} {t : Token} (h : scan? cs = some (t, rest)) :
    t.Spelled := by
  unfold scan? at h
  split at h
  case h_1 => cases h
  case h_10 c rest' _ _ _ _ _ _ _ _ =>
    split at h
    next hc =>
      cases h
      refine ⟨by simp, ?_⟩
      intro d hd
      rw [String.toList_ofList] at hd
      rcases List.mem_cons.mp hd with rfl | hd
      · exact hc
      · exact List.mem_takeWhile_imp hd
    · cases h
  all_goals
    cases h
    exact trivial

theorem head?_of_scan?_identifier {cs rest : List Char} {t : Token}
    (h : scan? cs = some (t, rest)) (ht : t.isIdentifier) :
    ∀ c ∈ rest.head?, Text.isAlphanumeric c = false := by
  unfold scan? at h
  split at h
  case h_1 => cases h
  case h_10 c rest' _ _ _ _ _ _ _ _ =>
    split at h
    · cases h
      intro d hd
      have hnot := List.head?_dropWhile_not Text.isAlphanumeric rest'
      rw [Option.mem_def.mp hd] at hnot
      exact hnot
    · cases h
  all_goals
    cases h
    cases ht

theorem not_isIdentifier_of_scan? {cs rest : List Char} {t : Token}
    (h : scan? cs = some (t, rest)) (hc : ∀ c ∈ cs.head?, Text.isAlphanumeric c = false) :
    t.isIdentifier = false := by
  unfold scan? at h
  split at h
  case h_1 => cases h
  case h_10 c rest' _ _ _ _ _ _ _ _ =>
    split at h
    next ha =>
      rw [hc c rfl] at ha
      cases ha
    · cases h
  all_goals
    cases h
    rfl

/-- **A spelled token is found where it stands**, a name if no letter or digit follows it. -/
theorem scan?_lexeme {t : Token} (h : t.Spelled) {rest : List Char}
    (hr : t.isIdentifier → ∀ c ∈ rest.head?, Text.isAlphanumeric c = false) :
    scan? (t.lexeme ++ rest) = some (t, rest) := by
  cases t with
  | identifier name =>
    obtain ⟨hne, hall⟩ := h
    obtain ⟨c, cs, hcs⟩ := List.exists_cons_of_ne_nil hne
    have htake : rest.takeWhile Text.isAlphanumeric = [] := by
      cases rest with
      | nil => rfl
      | cons d rest => exact List.takeWhile_cons_of_neg (by rw [hr rfl d rfl]; decide)
    have hdrop : rest.dropWhile Text.isAlphanumeric = rest := by
      cases rest with
      | nil => rfl
      | cons d rest => exact List.dropWhile_cons_of_neg (by rw [hr rfl d rfl]; decide)
    rw [lexeme, hcs, List.cons_append]
    rw [hcs] at hall
    have htail : ∀ d ∈ cs, Text.isAlphanumeric d := fun d hd => hall d (List.mem_cons_of_mem c hd)
    rw [scan?_of_isAlphanumeric (hall c List.mem_cons_self), List.takeWhile_append_of_pos htail,
      List.dropWhile_append_of_pos htail, htake, hdrop, List.append_nil, ← hcs,
      String.ofList_toList]
  | connective c => cases c <;> rfl
  | negation => rfl
  | opening => rfl
  | closing => rfl

/-- Where the splitting stops no token starts. -/
theorem not_prefix_of_scan?_eq_none {cs : List Char} (h : scan? cs = none) {t : Token}
    (ht : t.Spelled) : ¬ t.lexeme <+: cs := by
  rintro ⟨rest, rfl⟩
  cases hi : t.isIdentifier with
  | false =>
    rw [scan?_lexeme ht (by rw [hi]; intro he; cases he)] at h
    cases h
  | true =>
    cases t with
    | identifier name =>
      obtain ⟨hne, hall⟩ := ht
      obtain ⟨c, cs, hcs⟩ := List.exists_cons_of_ne_nil hne
      rw [hcs] at hall
      rw [lexeme, hcs, List.cons_append, scan?_of_isAlphanumeric (hall c List.mem_cons_self)] at h
      cases h
    | connective c => cases hi
    | negation => cases hi
    | opening => cases hi
    | closing => cases hi

/-! ### Several tokens -/

theorem map_token_locate (ts : List Token) : ∀ n, (locate n ts).map Located.token = ts := by
  induction ts with
  | nil => intro n; rfl
  | cons t ts ih => intro n; rw [locate, List.map_cons, ih]

theorem of_locate_eq_append {before after : List Located} {t : Located} :
    ∀ {n : Nat} {ts : List Token}, locate n ts = before ++ t :: after →
      ∃ us vs, ts = us ++ t.token :: vs ∧ before = locate n us ∧
        t.start = n + (lexemes us).length := by
  induction before with
  | nil =>
    intro n ts h
    cases ts with
    | nil => cases h
    | cons u ts => cases h; exact ⟨[], ts, rfl, rfl, rfl⟩
  | cons v before ih =>
    intro n ts h
    cases ts with
    | nil => cases h
    | cons u ts =>
      rw [locate, List.cons_append] at h
      obtain ⟨rfl, htail⟩ := List.cons.inj h
      obtain ⟨us, vs, rfl, rfl, hstart⟩ := ih htail
      refine ⟨u :: us, vs, rfl, rfl, ?_⟩
      rw [hstart, lexemes_cons, List.length_append, Nat.add_assoc]

theorem separable_cons {t : Token} {ts : List Token} : Separable (t :: ts) ↔
    t.Spelled ∧ (t.isIdentifier → ∀ u ∈ ts.head?, u.isIdentifier = false) ∧ Separable ts :=
  Iff.rfl

theorem spelled_of_mem {ts : List Token} (h : Separable ts) : ∀ t ∈ ts, t.Spelled := by
  induction ts with
  | nil => intro t ht; cases ht
  | cons u ts ih =>
    obtain ⟨hu, -, hts⟩ := separable_cons.mp h
    intro t ht
    rcases List.mem_cons.mp ht with rfl | ht
    · exact hu
    · exact ih hts t ht

theorem Separable.of_append {ts us : List Token} (h : Separable (ts ++ us)) : Separable ts := by
  induction ts with
  | nil => exact trivial
  | cons t ts ih =>
    rw [List.cons_append] at h
    obtain ⟨ht, hnext, hts⟩ := separable_cons.mp h
    refine separable_cons.mpr ⟨ht, ?_, ih hts⟩
    intro hi u hu
    refine hnext hi u ?_
    rw [List.head?_append, Option.mem_def.mp hu]
    rfl

theorem Separable.cons_sign {t : Token} (ht : t.isIdentifier = false) {ts : List Token}
    (h : Separable ts) : Separable (t :: ts) := by
  refine separable_cons.mpr ⟨?_, ?_, h⟩
  · cases t with
    | identifier name => cases ht
    | connective c => exact trivial
    | negation => exact trivial
    | opening => exact trivial
    | closing => exact trivial
  · intro hi
    rw [ht] at hi
    cases hi

theorem Separable.append {ts us : List Token} (hts : Separable ts) (hus : Separable us)
    (hhead : ∀ u ∈ us.head?, u.isIdentifier = false) : Separable (ts ++ us) := by
  induction ts with
  | nil => exact hus
  | cons t ts ih =>
    obtain ⟨ht, hnext, hrest⟩ := separable_cons.mp hts
    refine separable_cons.mpr ⟨ht, ?_, ih hrest⟩
    intro hi u hu
    cases ts with
    | nil => exact hhead u hu
    | cons v ts => exact hnext hi u hu

theorem Separable.group {ts us : List Token} (hts : Separable ts) (hus : Separable us) :
    Separable (.opening :: (ts ++ .closing :: us)) := by
  have hclosing : Separable (.closing :: us) := hus.cons_sign rfl
  exact (hts.append hclosing (by rintro u ⟨⟩; rfl)).cons_sign rfl

theorem Separable.group_nil {ts : List Token} (h : Separable ts) :
    Separable (.opening :: (ts ++ [.closing])) := h.group (show Separable [] from trivial)

theorem dropSpacing_append (cs ds : List Char) :
    dropSpacing (cs ++ ds) = dropSpacing cs ++ dropSpacing ds := List.filter_append _ _

theorem dropSpacing_lexemes {ts : List Token} (h : Separable ts) :
    dropSpacing (lexemes ts) = lexemes ts := by
  induction ts with
  | nil => rfl
  | cons t ts ih =>
    obtain ⟨ht, -, hts⟩ := separable_cons.mp h
    rw [lexemes_cons, dropSpacing_append, ih hts]
    refine congrArg (· ++ lexemes ts) (List.filter_eq_self.mpr ?_)
    intro c hc
    rw [not_isSpacing_of_mem_lexeme ht c hc]
    rfl

theorem head?_lexemes {ts : List Token} (h : Separable ts)
    (hu : ∀ u ∈ ts.head?, u.isIdentifier = false) :
    ∀ c ∈ (lexemes ts).head?, Text.isAlphanumeric c = false := by
  cases ts with
  | nil => intro c hc; cases hc
  | cons u us =>
    intro c hc
    have hi := hu u rfl
    refine not_isAlphanumeric_of_mem_lexeme hi c ?_
    have hne : u.lexeme ≠ [] := by
      cases u with
      | identifier name => cases hi
      | connective c => cases c <;> decide
      | negation => decide
      | opening => decide
      | closing => decide
    obtain ⟨d, ds, hd⟩ := List.exists_cons_of_ne_nil hne
    rw [lexemes_cons, hd, List.cons_append, List.head?_cons] at hc
    rw [← Option.some.inj hc, hd]
    exact List.mem_cons_self

end Token

namespace Lexing

open Token

/-- **Separable tokens are found in the text that their lexemes make up.** -/
theorem ofCharsAt_lexemes {ts : List Token} (h : Separable ts) :
    ∀ n, ofCharsAt n (lexemes ts) = ⟨locate n ts, none⟩ := by
  induction ts with
  | nil => intro n; exact ofCharsAt_of_scan?_eq_none rfl
  | cons t ts ih =>
    intro n
    obtain ⟨ht, hnext, hts⟩ := separable_cons.mp h
    have hscan : scan? (t.lexeme ++ lexemes ts) = some (t, lexemes ts) :=
      scan?_lexeme ht (fun hi => head?_lexemes hts (hnext hi))
    rw [lexemes_cons, ofCharsAt_of_scan? hscan, ih hts, locate]

theorem scan?_of_tokens_eq {cs : List Char} {n : Nat} {u : Token} {us : List Token}
    (h : (ofCharsAt n cs).tokens = locate n (u :: us)) : ∃ rest, scan? cs = some (u, rest) := by
  cases hs : scan? cs with
  | none =>
    rw [ofCharsAt_of_scan?_eq_none hs] at h
    cases h
  | some p =>
    obtain ⟨t, rest⟩ := p
    rw [ofCharsAt_of_scan? hs, locate] at h
    obtain ⟨ht, -⟩ := List.cons.inj h
    cases ht
    exact ⟨rest, rfl⟩

/-- **What the splitting does with a text**: it finds separable tokens from the start on, and stops
at the end or at the first place where no token starts. -/
theorem spec (cs : List Char) : ∀ n, ∃ ts rest, (ofCharsAt n cs).tokens = locate n ts ∧
    Separable ts ∧ cs = lexemes ts ++ rest ∧ scan? rest = none ∧
    (ofCharsAt n cs).failure = rest.head?.map fun c => ⟨c, n + (lexemes ts).length⟩ := by
  induction hn : cs.length using Nat.strongRecOn generalizing cs with
  | ind k ih =>
    intro n
    cases h : scan? cs with
    | none =>
      refine ⟨[], cs, ?_, trivial, rfl, h, ?_⟩
      · rw [ofCharsAt_of_scan?_eq_none h]; rfl
      · rw [ofCharsAt_of_scan?_eq_none h]; rfl
    | some p =>
      obtain ⟨t, rest⟩ := p
      have hlt : rest.length < k := hn ▸ length_lt_of_scan? h
      obtain ⟨ts, rest', htok, hsep, hcs, hend, hfail⟩ :=
        ih rest.length hlt rest rfl (n + t.lexeme.length)
      refine ⟨t :: ts, rest', ?_, ?_, ?_, hend, ?_⟩
      · rw [ofCharsAt_of_scan? h, htok]; rfl
      · refine separable_cons.mpr ⟨spelled_of_scan? h, ?_, hsep⟩
        intro hi u hu
        obtain ⟨us, rfl⟩ := List.head?_eq_some_iff.mp hu
        obtain ⟨rest'', hs⟩ := scan?_of_tokens_eq htok
        exact not_isIdentifier_of_scan? hs (head?_of_scan?_identifier h hi)
      · rw [eq_append_of_scan? h, hcs, lexemes_cons, List.append_assoc]
      · rw [ofCharsAt_of_scan? h, hfail, lexemes_cons, List.length_append, Nat.add_assoc]

/-- **Where a token stands**: the text before it splits into the tokens before it. -/
theorem of_tokens_eq_append {cs : List Char} {before after : List Located} {t : Located}
    (h : (ofChars cs).tokens = before ++ t :: after) :
    ofChars (cs.take t.start) = ⟨before, none⟩ ∧ t.token.lexeme <+: cs.drop t.start := by
  obtain ⟨ts, rest, htok, hsep, hcs, -, -⟩ := spec cs 0
  obtain ⟨us, vs, rfl, rfl, hstart⟩ := of_locate_eq_append (htok.symm.trans h)
  rw [Nat.zero_add] at hstart
  rw [lexemes_append, lexemes_cons, List.append_assoc, List.append_assoc] at hcs
  rw [hcs, hstart, List.take_left, List.drop_left]
  exact ⟨ofCharsAt_lexemes hsep.of_append 0, List.prefix_append _ _⟩

/-- **Where an illegal character stands**: the text before it splits into all the tokens that were
found, and at its place no token starts. -/
theorem of_failure_eq_some {cs : List Char} {c : Char} {n : Nat}
    (h : (ofChars cs).failure = some ⟨c, n⟩) :
    cs[n]? = some c ∧ ofChars (cs.take n) = ⟨(ofChars cs).tokens, none⟩ ∧
      ∀ t : Token, t.Spelled → ¬ t.lexeme <+: cs.drop n := by
  obtain ⟨ts, rest, htok, hsep, hcs, hend, hfail⟩ := spec cs 0
  cases rest with
  | nil =>
    rw [ofChars, hfail] at h
    cases h
  | cons d rest =>
    rw [ofChars, hfail, List.head?_cons, Option.map_some, Nat.zero_add] at h
    cases h
    have htok' : (ofChars cs).tokens = locate 0 ts := htok
    have hchar : (lexemes ts ++ c :: rest)[(lexemes ts).length]? = some c := by
      rw [List.getElem?_append_right (Nat.le_refl _), Nat.sub_self]
      rfl
    rw [htok', hcs, List.take_left, List.drop_left]
    exact ⟨hchar, ofCharsAt_lexemes hsep 0, fun t ht => not_prefix_of_scan?_eq_none hend ht⟩

/-- **A text splits completely into given tokens exactly when their lexemes make it up** and they
are separable. -/
theorem ofCharsAt_eq_iff {cs : List Char} {n : Nat} {ts : List Token} :
    ofCharsAt n cs = ⟨locate n ts, none⟩ ↔ Separable ts ∧ lexemes ts = cs := by
  constructor
  · intro h
    obtain ⟨us, rest, htok, hsep, hcs, -, hfail⟩ := spec cs n
    rw [h] at htok hfail
    have hus : ts = us := by
      rw [← map_token_locate ts n, show locate n ts = locate n us from htok, map_token_locate]
    have hrest : rest = [] := by
      cases rest with
      | nil => rfl
      | cons c rest => cases hfail
    subst hus hrest
    exact ⟨hsep, by rw [hcs, List.append_nil]⟩
  · rintro ⟨hsep, rfl⟩
    exact ofCharsAt_lexemes hsep n

end Lexing

end TruthTables
