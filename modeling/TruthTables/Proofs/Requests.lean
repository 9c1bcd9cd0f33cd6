import TruthTables.Proofs.RoundTrip
import TruthTables.Proofs.Tabulation
import TruthTables.Table.Sheet

/-!
# Requests for the table of a text

A request goes through three stages: the text is read, its variables are counted against the limit,
and the table is built.  Each stage can end it, and the later ones are told by the number of
variables alone (`ofText_of_parse_eq_error`, `ofText_of_excess`, `ofText_eq`).  Nothing else can go
wrong while the table is built: the assignments give values to all leaves, and every formula has a
leaf.

The answer may have to tell numbers, that of the rows and a limit below zero.  Where one of them has
too many digits to be written out (`Writable`), the request ends at the numeral, and with neither a
table nor the remark that there are too many variables.
-/

namespace TruthTables

/-! ### Numbers that can be written out -/

theorem numeral?_eq_none_iff {n : Nat} : Text.numeral? n = none ↔ 10 ^ Text.maxDigits ≤ n := by
  have hpow : ∀ m k : Nat, Nat.pow m k = m ^ k := fun _ _ => rfl
  rw [Text.numeral?, hpow]
  -- the bound becomes a variable, so that the power is never computed
  generalize 10 ^ Text.maxDigits = bound
  rw [ite_eq_right_iff, ← Nat.not_lt]
  exact forall_congr' fun _ => iff_false_intro (Option.some_ne_none _)

/-- The numbers that an answer may have to tell can be written out: the number of rows, and a limit
below zero. -/
def Writable (count : Nat) (limit : Option Int) : Prop :=
  count ≤ 14284 ∧ ∀ bound, limit = some bound → -((10 ^ Text.maxDigits : Nat) : Int) < bound

theorem writable_some {count : Nat} {bound : Int} : Writable count (some bound) ↔
    count ≤ 14284 ∧ -((10 ^ Text.maxDigits : Nat) : Int) < bound := by
  rw [Writable]
  simp only [Option.some.injEq, forall_eq']

theorem writable_of_nonneg {count : Nat} {bound : Int} (hcount : count ≤ 14284)
    (hbound : 0 ≤ bound) : Writable count (some bound) := by
  have hpos : 0 < 10 ^ Text.maxDigits := Nat.pow_pos (by decide)
  exact writable_some.mpr ⟨hcount, by omega⟩

theorem ofExcess_eq {count : Nat} {bound : Int} (hlt : bound < count)
    (h : Writable count (some bound)) :
    TableError.ofExcess count bound = .tooManyVariables count bound := by
  obtain ⟨hcount, hbound⟩ := writable_some.mp h
  have hsmall : 14284 < 10 ^ Text.maxDigits := by decide +kernel
  have hlimit : Text.numeral? bound.natAbs ≠ none := by
    rw [Ne, numeral?_eq_none_iff]
    omega
  have hrows : Text.numeral? (2 ^ count) ≠ none := by
    rw [Ne, numeral?_two_pow_eq_none_iff]
    omega
  obtain ⟨limit, hlimit⟩ := Option.ne_none_iff_exists'.mp hlimit
  obtain ⟨rows, hrows⟩ := Option.ne_none_iff_exists'.mp hrows
  unfold TableError.ofExcess
  rw [hlimit, show Text.numeral? (Nat.pow 2 count) = some rows from hrows]

theorem ofExcess_eq_numeralTooLong {count : Nat} {bound : Int}
    (h : ¬ Writable count (some bound)) :
    TableError.ofExcess count bound = .evaluation .numeralTooLong := by
  rw [writable_some, not_and_or, not_le, not_lt] at h
  unfold TableError.ofExcess
  rcases h with hcount | hbound
  · have hrows : Text.numeral? (Nat.pow 2 count) = none := numeral?_two_pow_eq_none_iff.mpr hcount
    rw [hrows]
    cases Text.numeral? bound.natAbs <;> rfl
  · have hlimit : Text.numeral? bound.natAbs = none := by
      rw [numeral?_eq_none_iff]
      omega
    rw [hlimit]

namespace Table

open Formula

variable {s : String} {withSteps : Bool} {limit : Option Int} {e : Formula}

/-! ### The stages of a request -/

theorem ofText_of_parse_eq_error {error : ParseError} (h : parse s = .error error) :
    ofText s withSteps limit = .error (.parse error) := by
  have hinput : (Formula.ofInputNoted (.string s)).value = .error error := h
  unfold ofText ofInput ofInputNoted
  simp only [hinput]

theorem ofText_of_refusal {refusal : TableError} (he : parse s = .ok e)
    (h : refusal? e limit = some refusal) : ofText s withSteps limit = .error refusal := by
  have hinput : (Formula.ofInputNoted (.string s)).value = .ok e := he
  unfold ofText ofInput ofInputNoted
  simp only [hinput, h]

theorem ofText_of_no_refusal (he : parse s = .ok e) (h : refusal? e limit = none) :
    ofText s withSteps limit =
      (ofFormula e (some (Text.strip s)) withSteps).mapError .evaluation := by
  have hinput : (Formula.ofInputNoted (.string s)).value = .ok e := he
  unfold ofText ofInput ofInputNoted
  simp only [hinput, h]
  rfl

theorem refusal?_eq_none (h : ∀ bound, limit = some bound → e.vars.length ≤ bound) :
    refusal? e limit = none := by
  cases limit with
  | none => rfl
  | some bound => exact if_neg (not_lt.mpr (h bound rfl))

theorem refusal?_eq_some {bound : Int} (h : bound < e.vars.length) :
    refusal? e (some bound) = some (.ofExcess e.vars.length bound) := if_pos h

/-- **A text with more variables than allowed is refused**, in words that must be written out. -/
theorem ofText_of_excess {bound : Int} (he : parse s = .ok e) (h : bound < e.vars.length) :
    ofText s withSteps (some bound) = .error (.ofExcess e.vars.length bound) :=
  ofText_of_refusal he (refusal?_eq_some h)

theorem ofText_eq (he : parse s = .ok e)
    (hlimit : ∀ bound, limit = some bound → e.vars.length ≤ bound)
    (hcount : e.vars.length ≤ 14284) :
    ofText s withSteps limit = .ok ⟨Text.strip s, e, e.vars, e.shownSteps withSteps,
      e.assignments.map (e.rowUnder (e.shownSteps withSteps))⟩ := by
  rw [ofText_of_no_refusal he (refusal?_eq_none hlimit), ofFormula_eq _ _ hcount]
  rfl

theorem excess_or (limit : Option Int) (count : Nat) :
    (∃ bound, limit = some bound ∧ bound < count) ∨
      ∀ bound, limit = some bound → (count : Int) ≤ bound := by
  cases limit with
  | none => exact Or.inr fun _ h => nomatch h
  | some bound =>
    rcases lt_or_ge bound (count : Int) with h | h
    · exact Or.inl ⟨bound, rfl, h⟩
    · refine Or.inr fun bound' hbound => ?_
      cases hbound
      exact h

/-- **A request ends at a numeral** that cannot be written out. -/
theorem ofText_of_not_writable (he : parse s = .ok e) (h : ¬ Writable e.vars.length limit) :
    ofText s withSteps limit = .error (.evaluation .numeralTooLong) := by
  rcases excess_or limit e.vars.length with ⟨bound, rfl, hlt⟩ | hlimit
  · rw [ofText_of_excess he hlt, ofExcess_eq_numeralTooLong h]
  · have hcount : 14284 < e.vars.length := by
      by_contra hle
      refine h ⟨Nat.le_of_not_lt hle, fun bound hbound => ?_⟩
      have hpos : 0 < 10 ^ Text.maxDigits := Nat.pow_pos (by decide)
      have hbound := hlimit bound hbound
      omega
    rw [ofText_of_no_refusal he (refusal?_eq_none hlimit), ofFormula_eq_error_iff.mpr hcount]
    rfl

theorem mapError_eq_ok {α ε δ : Type} {x : Except ε α} {f : ε → δ} {a : α}
    (h : x.mapError f = .ok a) : x = .ok a := by
  cases x with
  | error error => cases h
  | ok b =>
    cases h
    rfl

theorem ofFormula_of_ofText {t : Table Formula} (he : parse s = .ok e)
    (h : ofText s withSteps limit = .ok t) :
    ofFormula e (some (Text.strip s)) withSteps = .ok t := by
  cases hrefusal : refusal? e limit with
  | some refusal =>
    rw [ofText_of_refusal he hrefusal] at h
    cases h
  | none =>
    rw [ofText_of_no_refusal he hrefusal] at h
    exact mapError_eq_ok h

/-- **All that is known of a table** that was built from a text. -/
theorem exists_of_ofText_eq_ok {t : Table Formula} (h : ofText s withSteps limit = .ok t) :
    ∃ e, parse s = .ok e ∧ t = ⟨Text.strip s, e, e.vars, e.shownSteps withSteps,
      e.assignments.map (e.rowUnder (e.shownSteps withSteps))⟩ := by
  cases hparse : parse s with
  | error error =>
    rw [ofText_of_parse_eq_error hparse] at h
    cases h
  | ok e =>
    have hbuilt := ofFormula_of_ofText hparse h
    by_cases hcount : e.vars.length ≤ 14284
    · rw [ofFormula_eq _ _ hcount] at hbuilt
      cases hbuilt
      exact ⟨e, rfl, rfl⟩
    · rw [ofFormula_eq_error_iff.mpr (Nat.lt_of_not_le hcount)] at hbuilt
      cases hbuilt

theorem source_of_ofText {t : Table Formula} (h : ofText s withSteps limit = .ok t) :
    t.source = Text.strip s := by
  obtain ⟨e, -, rfl⟩ := exists_of_ofText_eq_ok h
  rfl

/-! ### The answer -/

/-- The table has all rows and columns of the formula: a row for every way to give values to the
variables, and in each row a cell below every head. -/
structure Complete (e : Formula) (t : Table Formula) : Prop where
  vars_eq : t.vars = e.vars
  isEmpty_eq : t.isEmpty = false
  length_rows : t.rows.length = 2 ^ e.vars.length
  length_values : ∀ row ∈ t.rows, row.assignment.values.length = e.vars.length
  length_steps : ∀ row ∈ t.rows, row.steps.length = t.steps.length
  length_cells : ∀ row ∈ t.rows, row.cells.length = t.headers.length

theorem complete_of_rows_eq {t : Table Formula} (hvars : t.vars = e.vars)
    (hrows : t.rows = e.assignments.map (e.rowUnder t.steps)) : Complete e t := by
  have hrow : ∀ {P : Row → Prop}, (∀ a : Assignment Bool, a.names = e.vars →
      P (e.rowUnder t.steps a)) → ∀ row ∈ t.rows, P row := by
    intro P hP row hmem
    rw [hrows, List.mem_map] at hmem
    obtain ⟨a, ha, rfl⟩ := hmem
    exact hP a (mem_assignments_iff.mp ha)
  have hlength : t.rows.length = 2 ^ e.vars.length := by
    rw [hrows, List.length_map, length_assignments]
  have hvalues : ∀ a : Assignment Bool, a.names = e.vars → a.values.length = e.vars.length :=
    fun a ha => by rw [a.length_values, ha]
  refine ⟨hvars, ?_, hlength, hrow hvalues, hrow ?_, hrow ?_⟩
  · rw [isEmpty, List.isEmpty_eq_false_iff_exists_mem]
    exact List.exists_mem_of_length_pos (hlength ▸ Nat.two_pow_pos _)
  · intro a _
    rw [rowUnder, List.length_map]
  · intro a ha
    simp only [Row.cells, rowUnder, headers, sheet, Sheet.headers, List.length_append,
      List.length_map, List.length_singleton, hvalues a ha, hvars]

/-- What is answered to a request for the table of a text that stands for the formula, when the
numbers in the answer can be written out. -/
structure Answers (e : Formula) (s : String) (withSteps : Bool) (limit : Option Int) : Prop where
  tooManyVariables_iff : ∀ count bound,
    ofText s withSteps limit = .error (.tooManyVariables count bound) ↔
      limit = some bound ∧ count = e.vars.length ∧ bound < e.vars.length
  /-- The number of rows in the remark is that of the table without a limit. -/
  rows_announced : ∀ bound, limit = some bound → bound < e.vars.length →
    ∃ t, ofText s withSteps none = .ok t ∧
      (TableError.tooManyVariables e.vars.length bound).message =
        "Formula has " ++ toString e.vars.length ++ " variables, limit is " ++ toString bound
          ++ " (" ++ toString t.rows.length ++ " rows would be generated)"
  table : (∀ bound, limit = some bound → e.vars.length ≤ bound) →
    ∃ t, ofText s withSteps limit = .ok t ∧ Complete e t ∧
      ∀ bound, limit = some bound → t.rows.length ≤ 2 ^ bound.toNat

theorem exists_complete (he : parse s = .ok e) (hcount : e.vars.length ≤ 14284)
    (hlimit : ∀ bound, limit = some bound → e.vars.length ≤ bound) :
    ∃ t, ofText s withSteps limit = .ok t ∧ Complete e t :=
  ⟨_, ofText_eq he hlimit hcount, complete_of_rows_eq rfl rfl⟩

theorem ofText_ne_parse_error (he : parse s = .ok e) (error : ParseError) :
    ofText s withSteps limit ≠ .error (.parse error) := by
  intro herror
  by_cases h : Writable e.vars.length limit
  · rcases excess_or limit e.vars.length with ⟨bound, rfl, hlt⟩ | hlimit
    · rw [ofText_of_excess he hlt, ofExcess_eq hlt h] at herror
      cases herror
    · rw [ofText_eq he hlimit h.1] at herror
      cases herror
  · rw [ofText_of_not_writable he h] at herror
    cases herror

theorem answers_of_writable (he : parse s = .ok e) (h : Writable e.vars.length limit) :
    Answers e s withSteps limit := by
  refine ⟨?_, ?_, ?_⟩
  · intro count bound
    constructor
    · intro herror
      rcases excess_or limit e.vars.length with ⟨bound', rfl, hlt⟩ | hlimit
      · rw [ofText_of_excess he hlt, ofExcess_eq hlt h] at herror
        cases herror
        exact ⟨rfl, rfl, hlt⟩
      · rw [ofText_eq he hlimit h.1] at herror
        cases herror
    · rintro ⟨rfl, rfl, hlt⟩
      rw [ofText_of_excess he hlt, ofExcess_eq hlt h]
  · intro bound _ _
    obtain ⟨t, ht, hcomplete⟩ : ∃ t, ofText s withSteps none = .ok t ∧ Complete e t :=
      exists_complete he h.1 fun _ hnone => nomatch hnone
    refine ⟨t, ht, ?_⟩
    rw [hcomplete.length_rows]
    rfl
  · intro hlimit
    obtain ⟨t, ht, hcomplete⟩ := exists_complete he h.1 hlimit
    refine ⟨t, ht, hcomplete, fun bound hbound => ?_⟩
    have hle := hlimit bound hbound
    rw [hcomplete.length_rows]
    exact Nat.pow_le_pow_right Nat.two_pos (by omega)

/-- **What comes of a request, for every text and every limit.**  It fails as a text that is no
formula if and only if the text is none, in the same words.  Otherwise there is at least one
variable, and as long as the numbers in the answer can be written out there are two answers: the
remark on too many variables, and the complete table.  If they cannot be, the request ends at the
numeral. -/
theorem ofText_answers (s : String) (withSteps : Bool) (limit : Option Int) :
    (∀ error, (ofText s withSteps limit = .error (.parse error) ↔ parse s = .error error) ∧
      (TableError.parse error).message = error.message) ∧
    ∀ e, parse s = .ok e → 1 ≤ e.vars.length ∧
      (Writable e.vars.length limit → Answers e s withSteps limit) ∧
      (¬ Writable e.vars.length limit →
        ofText s withSteps limit = .error (.evaluation .numeralTooLong)) := by
  refine ⟨fun error => ⟨⟨fun h => ?_, ofText_of_parse_eq_error⟩, rfl⟩, fun e he =>
    ⟨e.length_vars_pos, answers_of_writable he, ofText_of_not_writable he⟩⟩
  cases hparse : parse s with
  | error error' =>
    rw [ofText_of_parse_eq_error hparse] at h
    cases h
    rfl
  | ok e => exact absurd h (ofText_ne_parse_error hparse error)

/-- Three variables, of which two are allowed. -/
theorem ofText_answers_excess :
    ∃ e, parse "a & (b | !c)" = .ok e ∧ Answers e "a & (b | !c)" true (some 2) ∧
      ofText "a & (b | !c)" true (some 2) = .error (.tooManyVariables 3 2) := by
  have h : parse "a & (b | !c)" =
      .ok (binary .and (var "a") (binary .or (var "b") (neg (var "c")))) := by decide +kernel
  have hwritable : Writable
      (binary .and (var "a") (binary .or (var "b") (neg (var "c")))).vars.length (some 2) :=
    writable_of_nonneg (by decide) (by decide)
  have hanswers := ((ofText_answers "a & (b | !c)" true (some 2)).2 _ h).2.1 hwritable
  exact ⟨_, h, hanswers, (hanswers.tooManyVariables_iff 3 2).mpr ⟨rfl, by decide, by decide⟩⟩

end Table

/-! ### A text without an answer -/

namespace Formula

theorem isAlphanumeric_of_isDigit {c : Char} (h : c.isDigit) : Text.isAlphanumeric c := by
  have hlt : c.toNat < 128 := by
    simp only [Char.isDigit, Bool.and_eq_true, decide_eq_true_eq, UInt32.le_iff_toNat_le] at h
    have hlast : c.toNat ≤ 57 := h.2
    omega
  rw [Text.isAlphanumeric_of_lt hlt, Char.isAlphanum, h, Bool.or_true]

theorem wellNamed_conjunction (depth : Nat) : ∀ first, (conjunction depth first).WellNamed := by
  induction depth with
  | zero =>
    intro first
    have hlist : ("x" ++ toString first).toList = 'x' :: Nat.toDigits 10 first := by
      rw [String.toList_append, Nat.toString_eq_repr, Nat.toList_repr]
      rfl
    refine wellNamed_var.mpr ⟨fun hnil => ?_, ?_⟩
    · rw [hnil] at hlist
      cases hlist
    · rw [hlist]
      intro c hc
      rcases List.mem_cons.mp hc with rfl | hc
      · decide
      · exact isAlphanumeric_of_isDigit (Nat.isDigit_of_mem_toDigits (by decide) (by decide) hc)
  | succ depth ih => exact fun first => wellNamed_binary.mpr ⟨ih first, ih _⟩

end Formula

/-- With 16384 variables, of which 16 are allowed, the number of rows cannot be told; so nothing is
said of the variables. -/
theorem Table.not_answers_conjunction :
    Formula.parse (Formula.conjunction 14 0).text = .ok (.conjunction 14 0) ∧
      (Formula.conjunction 14 0).vars.length = 16384 ∧
      ∀ withSteps,
        ofText (Formula.conjunction 14 0).text withSteps (some 16) =
            .error (.evaluation .numeralTooLong) ∧
          ofText (Formula.conjunction 14 0).text withSteps (some 16) ≠
            .error (.tooManyVariables 16384 16) := by
  have hparse := Formula.parse_text (Formula.wellNamed_conjunction 14 0)
  have hlength := Formula.length_vars_conjunction 14 0
  have hwritable : ¬ Writable (Formula.conjunction 14 0).vars.length (some 16) :=
    fun h => absurd h.1 (Nat.not_le.mpr Formula.lt_length_vars_conjunction)
  refine ⟨hparse, hlength, fun withSteps => ?_⟩
  have hanswer : ofText (Formula.conjunction 14 0).text withSteps (some 16) =
      .error (.evaluation .numeralTooLong) := ofText_of_not_writable hparse hwritable
  refine ⟨hanswer, ?_⟩
  rw [hanswer]
  rintro ⟨⟩

end TruthTables
