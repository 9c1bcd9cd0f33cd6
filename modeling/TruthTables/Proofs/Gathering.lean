import Mathlib.Algebra.Group.Nat.Defs
import TruthTables.Arguments.Request

/-!
# What is gathered of a command line

The words of a command line are worked off one after another, and whatever every kind of word
leaves as it is holds at the end (`Gathered.gather_preserves`).  One such fact is about the limit:
it was a numeral in some word, or it is the one that stands for none given, so it can be written
out again.
-/

namespace TruthTables

/-! ### Numerals that are read -/

namespace Text

theorem lt_of_decimalDigit? {c : Char} {d : Nat} (h : decimalDigit? c = some d) : d < 10 := by
  obtain ⟨first, hfirst, rfl⟩ := Option.map_eq_some_iff.mp h
  have hrange := List.find?_some hfirst
  simp only [Bool.and_eq_true, decide_eq_true_eq] at hrange
  omega

theorem lt_of_readDigits {cs : List Char} {value count n : Nat} {digitLast : Bool}
    (hvalue : value < 10 ^ count) (h : readDigits value count digitLast cs = some n) :
    n < 10 ^ maxDigits := by
  induction cs generalizing value count digitLast with
  | nil =>
    rw [readDigits] at h
    split at h
    next hend =>
      cases h
      exact Nat.lt_of_lt_of_le hvalue (Nat.pow_le_pow_right (by decide) hend.2)
    next => cases h
  | cons c cs ih =>
    rw [readDigits] at h
    split at h
    next d hd =>
      refine ih ?_ h
      have hdigit := lt_of_decimalDigit? hd
      rw [Nat.pow_succ]
      omega
    next =>
      split at h
      next => exact ih hvalue h
      next => cases h

theorem natAbs_lt_of_digits {digits : List Char} {f : Int → Int} {n : Int}
    (hf : ∀ m, (f m).natAbs = m.natAbs)
    (h : ((readDigits 0 0 false digits).map fun m : Int => f m) = some n) :
    n.natAbs < 10 ^ maxDigits := by
  obtain ⟨m, hm, rfl⟩ := Option.map_eq_some_iff.mp h
  obtain ⟨value, hvalue, hcast⟩ := Option.bind_eq_some_iff.mp hm
  cases hcast
  rw [hf, Int.natAbs_natCast]
  exact lt_of_readDigits Nat.one_pos hvalue

/-- **A number that is read can be written out**, for a sign adds no digit. -/
theorem natAbs_lt_of_readInt? {s : String} {n : Int} (h : readInt? s = some n) :
    n.natAbs < 10 ^ maxDigits := by
  unfold readInt? at h
  dsimp only at h
  split at h
  · exact natAbs_lt_of_digits Int.natAbs_neg h
  · exact natAbs_lt_of_digits (fun _ => rfl) h
  · exact natAbs_lt_of_digits (fun _ => rfl) h

end Text

namespace Arguments

/-! ### Step by step -/

theorem bind_eq_ok {ε α β : Type} {x : Except ε α} {f : α → Except ε β} {b : β}
    (h : x >>= f = .ok b) : ∃ a, x = .ok a ∧ f a = .ok b := by
  cases x with
  | error e => cases h
  | ok a => exact ⟨a, rfl, h⟩

namespace Gathered

/-- What every way to take up a word leaves as it is. -/
structure Kept (P : Gathered → Prop) : Prop where
  formula : ∀ {g text g'}, P g → takeFormula g text = .ok g' → P g'
  flag : ∀ {g f g'}, P g → takeFlag g f = .ok g' → P g'
  setting : ∀ {g setting word g'}, P g → takeSetting g setting word = .ok g' → P g'
  leave : ∀ {g word}, P g → P (leave g word)

variable {P : Gathered → Prop}

theorem Kept.flags (hP : Kept P) {fs : List Flag} {g g' : Gathered} (hg : P g)
    (h : g.takeFlags fs = .ok g') : P g' := by
  induction fs generalizing g with
  | nil =>
    cases h
    exact hg
  | cons f fs ih =>
    obtain ⟨next, hnext, hrest⟩ := bind_eq_ok (by rwa [takeFlags, List.foldlM_cons] at h)
    exact ih (hP.flag hg hnext) hrest

theorem Kept.switched (hP : Kept P) {fs : List Flag} {setting : Setting} {word : String}
    {g g' : Gathered} {behind : Gathered → Except Refusal Gathered} (hg : P g)
    (h : (do behind (← (← g.takeFlags fs).takeSetting setting word)) = .ok g') :
    ∃ settled, P settled ∧ behind settled = .ok g' := by
  obtain ⟨flagged, hflagged, hset⟩ := bind_eq_ok h
  obtain ⟨settled, hsettled, hrest⟩ := bind_eq_ok hset
  exact ⟨settled, hP.setting (hP.flags hg hflagged) hsettled, hrest⟩

/-- **A run over the words keeps what every step keeps.**  The induction is on the number of words,
for a word may be taken up together with the one behind it. -/
theorem gather_preserves (hP : Kept P) {words : List Word} {g g' : Gathered} (hg : P g)
    (h : g.gather words = .ok g') : P g' := by
  induction hn : words.length using Nat.strongRecOn generalizing words g with
  | _ n ih =>
    subst hn
    unfold gather at h
    split at h
    next =>
      cases h
      exact hg
    next text rest =>
      split at h
      next =>
        obtain ⟨taken, htaken, hrest⟩ := bind_eq_ok h
        exact ih _ (Nat.lt_succ_of_lt (Nat.lt_succ_self _)) (hP.formula hg htaken) hrest rfl
      next =>
        exact ih _ (Nat.lt_succ_of_lt (Nat.lt_succ_self _)) (hP.leave (hP.leave hg)) h rfl
    next text rest _ =>
      split at h
      next =>
        obtain ⟨taken, htaken, hrest⟩ := bind_eq_ok h
        exact ih _ (Nat.lt_succ_self _) (hP.formula hg htaken) hrest rfl
      next => exact ih _ (Nat.lt_succ_self _) (hP.leave hg) h rfl
    next rest =>
      refine ih _ (Nat.lt_succ_self _) ?_ h rfl
      split
      next => exact hg
      next => exact hP.leave hg
    next text rest => exact ih _ (Nat.lt_succ_self _) (hP.leave hg) h rfl
    next s long attached rest =>
      obtain ⟨cluster, -, hcluster⟩ := bind_eq_ok h
      split at hcluster
      next =>
        obtain ⟨flagged, hflagged, hrest⟩ := bind_eq_ok hcluster
        exact ih _ (Nat.lt_succ_self _) (hP.flags hg hflagged) hrest rfl
      next =>
        obtain ⟨settled, hsettled, hrest⟩ := hP.switched hg hcluster
        exact ih _ (Nat.lt_succ_self _) hsettled hrest rfl
      next =>
        split at hcluster
        next word rest' =>
          obtain ⟨settled, hsettled, hrest⟩ := hP.switched hg hcluster
          exact ih _ (Nat.lt_succ_of_lt (Nat.lt_succ_self _)) hsettled hrest rfl
        next => cases hcluster

/-! ### The limit -/

def LimitTold (g : Gathered) : Prop :=
  ∀ limit, g.options.maxVariables = some limit → limit.natAbs < 10 ^ Text.maxDigits

theorem limitTold_start : LimitTold {} := by
  intro limit h
  cases h
  exact Nat.lt_of_lt_of_le (by decide : 16 < 10 ^ 2) (Nat.pow_le_pow_right (by decide) (by decide))

theorem kept_limitTold : Kept LimitTold where
  formula {g text g'} hg h := by
    unfold takeFormula at h
    split at h
    next => cases h
    next =>
      cases h
      exact hg
  flag {g f g'} hg h := by
    cases f with
    | help => cases h
    | _ =>
      cases h
      exact hg
  setting {g setting word g'} hg h := by
    unfold takeSetting at h
    split at h
    next =>
      unfold takeFile at h
      split at h
      next => cases h
      next =>
        cases h
        exact hg
    next =>
      cases h
      exact hg
    next =>
      split at h
      next =>
        cases h
        exact hg
      next => cases h
    next =>
      cases h
      rintro _ ⟨⟩
    next =>
      split at h
      next n hn =>
        cases h
        rintro _ ⟨⟩
        exact Text.natAbs_lt_of_readInt? hn
      next => cases h
  leave hg := hg

end Gathered

theorem Request.natAbs_lt_of_ofTexts {words : List String} {r : Request} {limit : Int}
    (h : Request.ofTexts words = .ok r) (hlimit : r.options.maxVariables = some limit) :
    limit.natAbs < 10 ^ Text.maxDigits := by
  obtain ⟨ws, -, hgather⟩ := bind_eq_ok h
  obtain ⟨g, hg, hfinish⟩ := bind_eq_ok hgather
  have htold := Gathered.gather_preserves Gathered.kept_limitTold Gathered.limitTold_start hg
  unfold Gathered.finish at hfinish
  split at hfinish
  next => cases hfinish
  next =>
    split at hfinish
    next =>
      cases hfinish
      exact htold limit hlimit
    next => cases hfinish

end Arguments

end TruthTables
