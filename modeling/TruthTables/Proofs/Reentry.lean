import TruthTables.Files.FormulaFile
import TruthTables.Proofs.Blanks
import TruthTables.Proofs.Decoding
import TruthTables.Proofs.Requests

/-!
# Tables from their own source

A table keeps its text, without the blanks around it, as its source.  On the way from a text to a
source and from there to another table three notions of white space meet: the spacing that no
formula minds, the blanks that are cut off, and the line ends that are unified in a file.  What they
do to a text that is a formula is nothing but adding or taking away spacing, and spacing changes no
more of an answer than the source (`ofText_of_dropSpacing_eq`).  So the source of a table, given as
a text or kept in a file, gives the table again.
-/

namespace TruthTables

namespace Text

theorem dropSpacing_unifyLineEnds (cs : List Char) :
    Token.dropSpacing (unifyLineEnds cs) = Token.dropSpacing cs := by
  have hcons : ∀ (c : Char) (ds : List Char), Token.dropSpacing (c :: ds) =
      if Token.isSpacing c then Token.dropSpacing ds else c :: Token.dropSpacing ds := by
    intro c ds
    rw [Token.dropSpacing, List.filter_cons]
    cases Token.isSpacing c <;> rfl
  fun_induction unifyLineEnds cs with
  | case1 => rfl
  | case2 rest ih =>
    rw [hcons '\n', hcons '\r', hcons '\n', ih]
    rfl
  | case3 c rest hne ih =>
    rw [hcons _ (unifyLineEnds rest), hcons c, ih]
    by_cases hc : c = '\r'
    · rw [if_pos hc, hc]
      rfl
    · rw [if_neg hc]

end Text

namespace Formula

theorem parse_eq_of_dropSpacing_eq {s u : String}
    (h : Token.dropSpacing s.toList = Token.dropSpacing u.toList) : parse s = parse u := by
  rw [parse_eq_outcome, h, ← parse_eq_outcome]

theorem dropSpacing_ne_nil {s : String} {e : Formula} (h : parse s = .ok e) :
    Token.dropSpacing s.toList ≠ [] := by
  intro hnil
  rw [parse_eq_outcome, hnil] at h
  cases h

end Formula

theorem formulaOfBytes_of_decode {bytes : List UInt8} {cs kept : List Char} {c : Char}
    (hdecode : Text.Utf8.decode bytes = .ok cs)
    (hkept : Text.stripChars (Text.unifyLineEnds cs) = c :: kept) :
    formulaOfBytes bytes = .ok (String.ofList (c :: kept)) := by
  rw [formulaOfBytes, hdecode]
  simp only [Except.mapError, bind, Except.bind, hkept]

/-- **A file with the bytes of a formula is read as the formula**, with unified line ends and no
blanks around it. -/
theorem formulaOfBytes_toUTF8 {s : String} {e : Formula} (h : Formula.parse s = .ok e) :
    ∃ text, formulaOfBytes s.toUTF8.data.toList = .ok text ∧
      text.toList = Text.stripChars (Text.unifyLineEnds s.toList) ∧
      Token.dropSpacing text.toList = Token.dropSpacing s.toList := by
  obtain ⟨unified, hunified⟩ : ∃ u : String, u.toList = Text.unifyLineEnds s.toList :=
    ⟨_, String.toList_ofList⟩
  have hspacing : Token.dropSpacing unified.toList = Token.dropSpacing s.toList := by
    rw [hunified, Text.dropSpacing_unifyLineEnds]
  have hparse : Formula.parse unified = .ok e :=
    (Formula.parse_eq_of_dropSpacing_eq hspacing).trans h
  have hkept : Token.dropSpacing (Text.stripChars unified.toList) =
      Token.dropSpacing unified.toList := by
    have hstrip := Formula.dropSpacing_strip hparse
    rwa [Text.strip, String.toList_ofList] at hstrip
  -- there is a token left, so the text is not empty
  cases hchars : Text.stripChars unified.toList with
  | nil =>
    rw [hchars] at hkept
    exact absurd hkept.symm (Formula.dropSpacing_ne_nil hparse)
  | cons c cs =>
    rw [hchars] at hkept
    rw [hunified] at hchars
    refine ⟨String.ofList (c :: cs),
      formulaOfBytes_of_decode (Text.Utf8.decode_toUTF8 s) hchars, ?_, ?_⟩
    · rw [String.toList_ofList, hchars]
    · rw [String.toList_ofList, hkept, hspacing]

namespace Table

open Formula

variable {s u : String} {withSteps : Bool} {limit : Option Int} {t : Table Formula}

/-- The same table under another text. -/
def under (t : Table Formula) (source : String) : Table Formula := { t with source := source }

theorem ofFormula_under (e : Formula) (source source' : String) (withSteps : Bool) :
    ofFormula e (some source') withSteps =
      (ofFormula e (some source) withSteps).map (under · source') := by
  by_cases h : e.vars.length ≤ 14284
  · rw [ofFormula_eq _ _ h, ofFormula_eq _ _ h]
    rfl
  · have hlt := Nat.lt_of_not_le h
    rw [ofFormula_eq_error_iff.mpr hlt, ofFormula_eq_error_iff.mpr hlt]
    rfl

/-- **Spacing changes no more of an answer than the source.** -/
theorem ofText_of_dropSpacing_eq
    (h : Token.dropSpacing u.toList = Token.dropSpacing s.toList) :
    ofText u withSteps limit = (ofText s withSteps limit).map (under · (Text.strip u)) := by
  have hparse := parse_eq_of_dropSpacing_eq h
  cases hs : parse s with
  | error error =>
    rw [ofText_of_parse_eq_error hs, ofText_of_parse_eq_error (hparse.trans hs)]
    rfl
  | ok e =>
    cases hrefusal : refusal? e limit with
    | some refusal =>
      rw [ofText_of_refusal hs hrefusal, ofText_of_refusal (hparse.trans hs) hrefusal]
      rfl
    | none =>
      rw [ofText_of_no_refusal hs hrefusal, ofText_of_no_refusal (hparse.trans hs) hrefusal,
        ofFormula_under e (Text.strip s) (Text.strip u)]
      cases ofFormula e (some (Text.strip s)) withSteps <;> rfl

/-- A table that was built from a text, with the options given, can be built again from its source:
there are no blanks around the source, it is the text up to spacing, and its table is the same.  A
file with the bytes of the text is read without an error, as a text that has the same table but for
the source, and the same source as well if the text has no carriage return. -/
structure Reenters (t : Table Formula) (s : String) (withSteps : Bool) (limit : Option Int) :
    Prop where
  trimmed : Text.Trimmed t.source.toList
  compact : Token.dropSpacing t.source.toList = Token.dropSpacing s.toList
  again : ofText t.source withSteps limit = .ok t
  file : ∀ (fs : FileSystem) (path : Path), fs.read path = .ok s.toUTF8.data.toList →
    ∃ text source, fs.formulaAt path = .ok text ∧
      ofText text withSteps limit = .ok (t.under source) ∧
      ('\r' ∉ s.toList → source = t.source)

theorem exists_formulaAt (h : ofText s withSteps limit = .ok t) {fs : FileSystem} {path : Path}
    (hread : fs.read path = .ok s.toUTF8.data.toList) :
    ∃ text source, fs.formulaAt path = .ok text ∧
      ofText text withSteps limit = .ok (t.under source) ∧
      ('\r' ∉ s.toList → source = t.source) := by
  obtain ⟨e, he, -⟩ := exists_of_ofText_eq_ok h
  obtain ⟨text, htext, hchars, hspacing⟩ := formulaOfBytes_toUTF8 he
  refine ⟨text, Text.strip text, ?_, ?_, fun hreturn => ?_⟩
  · rw [FileSystem.formulaAt, hread]
    exact htext
  · rw [ofText_of_dropSpacing_eq hspacing, h]
    rfl
  · rw [Text.unifyLineEnds_of_not_mem hreturn] at hchars
    have hstrip : text = Text.strip s := by
      rw [Text.strip, ← hchars, String.ofList_toList]
    rw [hstrip, Text.strip_strip, source_of_ofText h]

theorem reenters (h : ofText s withSteps limit = .ok t) :
    t.Reenters s withSteps limit := by
  obtain ⟨e, he, -⟩ := exists_of_ofText_eq_ok h
  have hsource := source_of_ofText h
  have hcompact : Token.dropSpacing t.source.toList = Token.dropSpacing s.toList := by
    rw [hsource, dropSpacing_strip he]
  refine ⟨?_, hcompact, ?_, fun fs path hread => exists_formulaAt h hread⟩
  · rw [hsource, Text.strip, String.toList_ofList]
    exact Text.trimmed_stripChars s.toList
  · rw [ofText_of_dropSpacing_eq hcompact, h, hsource, Text.strip_strip, ← hsource]
    rfl

/-- **Texts that differ in spacing only are answered alike, and the source of a table leads back to
the table.**  Every table that is built from a text can be built again from its source, be it given
or read from a file.  Two texts that are the same without their spacing have the same error, or
tables that differ in the source alone. -/
theorem reentry :
    (∀ (s : String) (withSteps : Bool) (limit : Option Int) (t : Table Formula),
      ofText s withSteps limit = .ok t → t.Reenters s withSteps limit) ∧
    (∀ (s u : String) (withSteps : Bool) (limit : Option Int),
      Token.dropSpacing s.toList = Token.dropSpacing u.toList →
        (∃ error, ofText s withSteps limit = .error error ∧
          ofText u withSteps limit = .error error) ∨
        ∃ t source, ofText s withSteps limit = .ok t ∧
          ofText u withSteps limit = .ok (t.under source)) := by
  refine ⟨fun s withSteps limit t => reenters, fun s u withSteps limit h => ?_⟩
  rw [ofText_of_dropSpacing_eq h.symm]
  cases hs : ofText s withSteps limit with
  | error error => exact Or.inl ⟨error, rfl, rfl⟩
  | ok t => exact Or.inr ⟨t, Text.strip u, rfl, rfl⟩

/-- A text with blanks on all sides and a line end inside. -/
theorem reentry_broken_line :
    ∃ t, ofText "\tp =>\r\n(q|!p) \r" true (some 2) = .ok t ∧
      ofText t.source true (some 2) = .ok t ∧
      (∃ text source,
        (FileSystem.mk fun _ => .ok "\tp =>\r\n(q|!p) \r".toUTF8.data.toList).formulaAt
          (.ofText "formula.txt") = .ok text ∧
        ofText text true (some 2) = .ok (t.under source)) ∧
      ∃ source, ofText "p=>(q|!p)" true (some 2) = .ok (t.under source) := by
  have hparse : parse "\tp =>\r\n(q|!p) \r" =
      .ok (binary .implies (var "p") (binary .or (var "q") (neg (var "p")))) := by
    decide +kernel
  obtain ⟨t, ht, -⟩ :
      ∃ t, ofText "\tp =>\r\n(q|!p) \r" true (some 2) = .ok t ∧ Complete _ t := by
    refine exists_complete hparse (by decide) fun bound hbound => ?_
    cases hbound
    decide
  have hreenters := reentry.1 _ _ _ _ ht
  obtain ⟨text, source, hread, htable, -⟩ :=
    hreenters.file (FileSystem.mk fun _ => .ok _) (.ofText "formula.txt") rfl
  refine ⟨t, ht, hreenters.again, ⟨text, source, hread, htable⟩, ?_⟩
  rcases reentry.2 "\tp =>\r\n(q|!p) \r" "p=>(q|!p)" true (some 2) (by decide +kernel) with
    ⟨error, herror, -⟩ | ⟨t', source', ht', hu⟩
  · rw [ht] at herror
    cases herror
  · rw [ht] at ht'
    cases ht'
    exact ⟨source', hu⟩

end Table

end TruthTables
