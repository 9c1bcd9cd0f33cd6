import Mathlib.Logic.Function.Basic
import TruthTables.Proofs.RoundTrip
import TruthTables.Proofs.Values

/-!
# Substitution in texts and in formulas

A formula in parentheses is a factor, so it may stand wherever an identifier stands.
`Formula.replaceText` puts a text in parentheses in the place of every identifier of a given name,
and `Formula.subst` puts a formula in the place of every variable of that name.  The two agree: the
tokens of the first text with the tokens of the second put in are separable
(`separable_flatMap_substitute`), are those of the new text (`lexemes_flatMap_substitute`), and
derive the new formula (`Derives.substitute`), whatever phrase the name stood in.

For values, substitution is an update of the mapping (`holds_subst`).  The text that is put in may
contain the name itself: what is put in is never looked at again.
-/

namespace TruthTables

namespace Token

/-- The tokens in the place of a token, when tokens in parentheses are put in for a name. -/
def substitute (x : String) (us : List Token) (t : Token) : List Token :=
  if t = .identifier x then .opening :: (us ++ [.closing]) else [t]

def replacement (x : String) (ds : List Char) (t : Token) : List Char :=
  if t = .identifier x then '(' :: (ds ++ [')']) else t.lexeme

section

variable {x : String} {us : List Token}

theorem substitute_identifier_self : substitute x us (.identifier x) =
    .opening :: (us ++ [.closing]) := if_pos rfl

theorem substitute_of_ne {t : Token} (h : t ≠ .identifier x) : substitute x us t = [t] := if_neg h

theorem lexemes_substitute (t : Token) :
    lexemes (t.substitute x us) = t.replacement x (lexemes us) := by
  by_cases h : t = .identifier x
  · rw [substitute, replacement, if_pos h, if_pos h]
    exact lexemes_group us []
  · rw [substitute, replacement, if_neg h, if_neg h, lexemes_cons, lexemes_nil, List.append_nil]

theorem lexemes_flatMap_substitute (ts : List Token) :
    lexemes (ts.flatMap (substitute x us)) = ts.flatMap (replacement x (lexemes us)) := by
  rw [lexemes, List.flatMap_assoc]
  exact congrArg (ts.flatMap ·) (funext lexemes_substitute)

theorem head?_flatMap_substitute {ts : List Token}
    (h : ∀ u ∈ ts.head?, u.isIdentifier = false) :
    ∀ u ∈ (ts.flatMap (substitute x us)).head?, u.isIdentifier = false := by
  cases ts with
  | nil => intro u hu; cases hu
  | cons t ts =>
    have ht := h t rfl
    have hne : t ≠ .identifier x := by
      rintro rfl
      cases ht
    intro u hu
    rw [List.flatMap_cons, substitute_of_ne hne] at hu
    cases hu
    exact ht

/-- **The new tokens can be written side by side.**  A parenthesis stands apart from everything, and
what stood behind a name that stays is no name. -/
theorem separable_flatMap_substitute (hus : Separable us) {ts : List Token} (hts : Separable ts) :
    Separable (ts.flatMap (substitute x us)) := by
  induction ts with
  | nil => exact trivial
  | cons t ts ih =>
    obtain ⟨ht, hnext, hrest⟩ := separable_cons.mp hts
    rw [List.flatMap_cons]
    by_cases h : t = .identifier x
    · rw [h, substitute_identifier_self, List.cons_append, List.append_assoc,
        List.singleton_append]
      exact hus.group (ih hrest)
    · rw [substitute_of_ne h]
      exact separable_cons.mpr ⟨ht, fun hi => head?_flatMap_substitute (hnext hi), ih hrest⟩

end

end Token

namespace Formula

open Token

def subst : Formula → String → Formula → Formula
  | var name, x, f => if name = x then f else var name
  | neg e, x, f => neg (e.subst x f)
  | binary c l r, x, f => binary c (l.subst x f) (r.subst x f)

/-- The text `t` without its spacing, with the text `u`, without its spacing and in parentheses, in
the place of every identifier `x`. -/
def replaceText (x u t : String) : String :=
  let tokens := (Lexing.ofChars (dropSpacing t.toList)).tokens.map Located.token
  String.ofList (tokens.flatMap (replacement x (dropSpacing u.toList)))

variable {x : String} {e f : Formula}

/-! ### The tokens and the formula -/

/-- **A phrase stays a phrase of its kind** when an expression in parentheses is put in for a
name. -/
theorem Derives.substitute {us : List Token} (hu : Derives .expression us f) {k : Phrase}
    {ts : List Token} (h : Derives k ts e) :
    Derives k (ts.flatMap (Token.substitute x us)) (e.subst x f) := by
  -- a connective is no name, so a chain is joined where it was
  have hjoin : ∀ (c : Connective) (ts vs : List Token),
      (ts ++ .connective c :: vs).flatMap (Token.substitute x us) =
        ts.flatMap (Token.substitute x us) ++
          .connective c :: vs.flatMap (Token.substitute x us) := by
    intro c ts vs
    rw [List.flatMap_append, List.flatMap_cons, substitute_of_ne (by rintro ⟨⟩)]
    rfl
  induction h with
  | ofFactor _ ih => exact .ofFactor ih
  | ofChain _ ih => exact .ofChain ih
  | pair _ _ ihl ihr =>
    rw [hjoin]
    exact .pair ihl ihr
  | extend _ _ ihl ihr =>
    rw [hjoin]
    exact .extend ihl ihr
  | negation _ ih =>
    rw [List.flatMap_cons, substitute_of_ne (by rintro ⟨⟩)]
    exact .negation ih
  | group _ ih =>
    rw [List.flatMap_cons, List.flatMap_append, List.flatMap_singleton,
      substitute_of_ne (by rintro ⟨⟩), substitute_of_ne (by rintro ⟨⟩)]
    exact .group ih
  | identifier name =>
    rw [List.flatMap_singleton]
    by_cases h : name = x
    · rw [h, substitute_identifier_self, subst, if_pos rfl]
      exact .group hu
    · rw [substitute_of_ne fun he => h (Token.identifier.inj he), subst, if_neg h]
      exact .identifier name

theorem toList_replaceText {t u : String} {ts us : List Token} (hts : Separable ts)
    (ht : lexemes ts = dropSpacing t.toList) (hu : lexemes us = dropSpacing u.toList) :
    (replaceText x u t).toList = lexemes (ts.flatMap (Token.substitute x us)) := by
  have htokens : (Lexing.ofChars (dropSpacing t.toList)).tokens = locate 0 ts :=
    congrArg Lexing.tokens (Lexing.ofCharsAt_eq_iff.mpr ⟨hts, ht⟩)
  rw [replaceText, String.toList_ofList, htokens, map_token_locate, ← hu,
    lexemes_flatMap_substitute]

/-- **Reading a text with a text put in** gives the formula with the formula put in. -/
theorem parse_replaceText {t u : String} (ht : parse t = .ok e) (hu : parse u = .ok f) :
    parse (replaceText x u t) = .ok (e.subst x f) := by
  obtain ⟨ts, hts, htlex, htd⟩ := parse_eq_ok_iff.mp ht
  obtain ⟨us, hus, hulex, hud⟩ := parse_eq_ok_iff.mp hu
  have hsep := separable_flatMap_substitute (x := x) hus hts
  refine parse_eq_ok_iff.mpr ⟨_, hsep, ?_, hud.substitute htd⟩
  rw [toList_replaceText hts htlex hulex, dropSpacing_lexemes hsep]

/-! ### The values -/

theorem holds_subst (truth : String → Bool) :
    (e.subst x f).holds truth = e.holds (Function.update truth x (f.holds truth)) := by
  induction e with
  | var name =>
    by_cases h : name = x
    · rw [h, subst, if_pos rfl, holds, Function.update_self]
    · rw [subst, if_neg h, holds, holds, Function.update_of_ne h]
  | neg e ih => rw [subst, holds, holds, ih]
  | binary c l r ihl ihr => rw [subst, holds, holds, ihl, ihr]

theorem mem_leaves_of_mem_leaves_subst {name : String} (h : name ∈ (e.subst x f).leaves) :
    name ∈ e.leaves ∨ name ∈ f.leaves := by
  induction e with
  | var n =>
    by_cases hn : n = x
    · rw [subst, if_pos hn] at h
      exact Or.inr h
    · rw [subst, if_neg hn] at h
      exact Or.inl h
  | neg e ih => exact ih h
  | binary c l r ihl ihr =>
    rw [subst, leaves_binary, List.mem_append] at h
    rw [leaves_binary, List.mem_append]
    rcases h with h | h
    · exact (ihl h).imp_left Or.inl
    · exact (ihr h).imp_left Or.inr

theorem Covers.subst {α : Type} {mapping : String → Option α} (he : Covers mapping e)
    (hf : Covers mapping f) : Covers mapping (e.subst x f) := by
  intro name hn
  rcases mem_leaves_of_mem_leaves_subst (mem_vars.mp hn) with h | h
  · exact he name (mem_vars.mpr h)
  · exact hf name (mem_vars.mpr h)

theorem eval_update {α : Type} {truth : α → Bool} {mapping : String → Option α}
    (h : Covers mapping e) (b : Bool) :
    e.eval (Function.update (fun name => (mapping name).map truth) x (some b)) =
      .ok (e.holds (Function.update (fun name => (mapping name).any truth) x b)) := by
  refine eval_eq_ok fun name hn => ?_
  by_cases hx : name = x
  · rw [hx, Function.update_self, Function.update_self]
  · rw [Function.update_of_ne hx, Function.update_of_ne hx]
    exact map_truth_of_isSome (h name (mem_vars.mpr hn))

/-- **Substitution in a text is substitution in the meaning.**  When `t` and `u` are accepted, so is
`t` with `u` in parentheses in the place of every identifier `x`; its formula is that of `t` with
that of `u` in the place of every variable `x`; and under every mapping that covers the formulas of
`t` and `u` it has the value that the formula of `t` has when the mapping is updated at `x` with the
value of the formula of `u`. -/
theorem substitution_exact (x t u : String) (e f : Formula) (ht : parse t = .ok e)
    (hu : parse u = .ok f) :
    parse (replaceText x u t) = .ok (e.subst x f) ∧
      ∀ {α : Type} (truth : α → Bool) (mapping : String → Option α),
        Covers mapping e → Covers mapping f →
          ∃ a b, f.evalUnder truth mapping = .ok a ∧
            (e.subst x f).evalUnder truth mapping = .ok b ∧
            e.eval (Function.update (fun name => (mapping name).map truth) x (some a)) =
              .ok b := by
  refine ⟨parse_replaceText ht hu, ?_⟩
  intro α truth mapping he hf
  refine ⟨_, _, evalUnder_eq_ok hf, evalUnder_eq_ok (he.subst hf), ?_⟩
  rw [eval_update he, holds_subst]

/-- The name occurs twice, once behind a negation in a chain, and again in what is put in. -/
theorem substitution_exact_repeated :
    ∃ e f, parse "!p & (q | p)" = .ok e ∧ parse "p => q" = .ok f ∧
      replaceText "p" "p => q" "!p & (q | p)" = "!(p=>q)&(q|(p=>q))" ∧
      parse "!(p=>q)&(q|(p=>q))" = .ok (e.subst "p" f) ∧
      ∃ a b, f.evalUnder id (fun _ => some true) = .ok a ∧
        (e.subst "p" f).evalUnder id (fun _ => some true) = .ok b ∧
        e.eval (Function.update (fun _ => some true) "p" (some a)) = .ok b := by
  have ht : parse "!p & (q | p)" =
      .ok (binary .and (neg (var "p")) (binary .or (var "q") (var "p"))) := by decide +kernel
  have hu : parse "p => q" = .ok (binary .implies (var "p") (var "q")) := by decide +kernel
  have htext : replaceText "p" "p => q" "!p & (q | p)" = "!(p=>q)&(q|(p=>q))" := by decide +kernel
  obtain ⟨hparse, hvalue⟩ := substitution_exact "p" _ _ _ _ ht hu
  rw [htext] at hparse
  exact ⟨_, _, ht, hu, htext, hparse,
    hvalue id (fun _ => some true) (fun _ _ => rfl) fun _ _ => rfl⟩

end Formula

end TruthTables
