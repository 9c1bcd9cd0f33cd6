import TruthTables.Json.Reader
import TruthTables.Table.Format

/-!
# Documents read back

A sheet that is written as JSON is read back as the document that was written, and the document
holds all of the sheet.  The reader works in two passes, and each is followed through the value by
an induction of its own.

* The first pass splits the characters into tokens.  Behind the characters of a value it may stand
  in a word that no character has ended yet (`Splitting.Behind`); whatever the printer writes next
  ends it.  Inside a text every character is read from its escape (`foldlM_step_escapeChar`), also
  one that takes two code units.
* The second pass builds the value from the tokens.  An object keeps the members that were written
  if no two of them have the same name, which is why this is part of `Value.Plain`.
-/

namespace TruthTables

namespace Assignment

variable {α : Type}

theorem insertEntry_of_not_mem {name : String} {value : α} {entries : List (String × α)}
    (h : name ∉ entries.map Prod.fst) :
    insertEntry name value entries = entries ++ [(name, value)] := by
  induction entries with
  | nil => rfl
  | cons e rest ih =>
    obtain ⟨n, v⟩ := e
    rw [List.map_cons, List.mem_cons, not_or] at h
    rw [insertEntry, if_neg (Ne.symm h.1), ih h.2, List.cons_append]

theorem entries_foldl_insert {pairs : List (String × α)} {a : Assignment α}
    (h : ((a.entries ++ pairs).map Prod.fst).Nodup) :
    (pairs.foldl (fun a p => a.insert p.1 p.2) a).entries = a.entries ++ pairs := by
  induction pairs generalizing a with
  | nil => exact (List.append_nil _).symm
  | cons p pairs ih =>
    have hinsert : (a.insert p.1 p.2).entries = a.entries ++ [p] := by
      refine insertEntry_of_not_mem fun hmem => ?_
      rw [List.map_append, List.nodup_append] at h
      exact h.2.2 p.1 hmem p.1 (List.mem_cons_self ..) rfl
    have happend : a.entries ++ p :: pairs = (a.insert p.1 p.2).entries ++ pairs := by
      rw [hinsert, List.append_assoc, List.singleton_append]
    rw [happend] at h ⊢
    exact ih h

theorem entries_ofPairs {pairs : List (String × α)} (h : (pairs.map Prod.fst).Nodup) :
    (ofPairs pairs).entries = pairs :=
  entries_foldl_insert (a := empty) h

end Assignment

namespace Json

section FoldM

variable {α σ : Type} {f : σ → α → Option σ} {a b : σ}

theorem foldlM_cons_of_eq_some {x : α} {xs : List α} (h : f a x = some b) :
    (x :: xs).foldlM f a = xs.foldlM f b := by
  rw [List.foldlM_cons, h]
  rfl

theorem foldlM_append_of_eq_some {xs ys : List α} (h : xs.foldlM f a = some b) :
    (xs ++ ys).foldlM f a = ys.foldlM f b := by
  rw [List.foldlM_append, h]
  rfl

end FoldM

/-- A value without numbers in which no object has two members of the same name. -/
inductive Value.Plain : Value → Prop where
  | null : Plain .null
  | bool (b : Bool) : Plain (.bool b)
  | string (s : String) : Plain (.string s)
  | array {items : List Value} (h : ∀ v ∈ items, Plain v) : Plain (.array items)
  | object {members : List (String × Value)} (names : (members.map Prod.fst).Nodup)
      (h : ∀ m ∈ members, Plain m.2) : Plain (.object members)

/-! ### The tokens of a value -/

namespace Value

mutual

def tokens : Value → List Token
  | null => [.scalar .null]
  | bool b => [.scalar (.bool b)]
  | int n => [.scalar (.int n)]
  | decimal d => [.scalar (.decimal d)]
  | string s => [.text s]
  | array [] => [.openList, .closeList]
  | array (v :: rest) => .openList :: (v.tokens ++ itemTokens rest ++ [.closeList])
  | object [] => [.openObject, .closeObject]
  | object ((name, v) :: rest) =>
    .openObject :: .text name :: .colon :: (v.tokens ++ memberTokens rest ++ [.closeObject])

def itemTokens : List Value → List Token
  | [] => []
  | v :: rest => .comma :: (v.tokens ++ itemTokens rest)

def memberTokens : List (String × Value) → List Token
  | [] => []
  | (name, v) :: rest => .comma :: .text name :: .colon :: (v.tokens ++ memberTokens rest)

end

end Value

/-! ### Splitting into tokens -/

namespace Token

namespace Splitting

variable {s : Splitting} {ts : List Token} {c : Char}

/-- Where a splitting stands behind the characters of some tokens, the last token first: between two
tokens, or in the word of the last one. -/
inductive Behind : Splitting → List Token → Prop where
  | idle (ts : List Token) : Behind ⟨ts, .idle⟩ ts
  | word {ts : List Token} {cs : List Char} {v : Value} (h : word? cs.reverse = some v) :
      Behind ⟨ts, .word cs⟩ (scalar v :: ts)

theorem Behind.step_eq (h : s.Behind ts) (hc : isWordChar c = false) :
    s.step c = stepIdle ts c := by
  cases h with
  | idle => rfl
  | word h => simp [step, hc, h]

theorem Behind.finish_eq (h : s.Behind ts) : s.finish = some ts.reverse := by
  cases h with
  | idle => rfl
  | word h => simp [finish, h]

theorem Behind.step_sign {t : Token} (h : s.Behind ts) (hc : ofSign? c = some t) :
    s.step c = some ⟨t :: ts, .idle⟩ := by
  unfold ofSign? at hc
  split at hc
  case h_7 => cases hc
  all_goals
    cases hc
    exact (h.step_eq (by decide)).trans rfl

/-- The reading of characters leads behind some tokens. -/
def Reads (s : Splitting) (cs : List Char) (ts : List Token) : Prop :=
  ∃ next, cs.foldlM step s = some next ∧ next.Behind ts

theorem Behind.reads_nil (h : s.Behind ts) : s.Reads [] ts := ⟨s, rfl, h⟩

theorem reads_cons {next : Splitting} {cs : List Char} (h : s.step c = some next)
    (hcs : next.Reads cs ts) : s.Reads (c :: cs) ts := by
  obtain ⟨last, hlast, hbehind⟩ := hcs
  exact ⟨last, (foldlM_cons_of_eq_some h).trans hlast, hbehind⟩

theorem Reads.append {cs ds : List Char} {us : List Token} (h : s.Reads cs ts)
    (hds : ∀ next : Splitting, next.Behind ts → next.Reads ds us) : s.Reads (cs ++ ds) us := by
  obtain ⟨next, hnext, hbehind⟩ := h
  obtain ⟨last, hlast, hlast'⟩ := hds next hbehind
  exact ⟨last, (foldlM_append_of_eq_some hnext).trans hlast, hlast'⟩

theorem foldlM_step_blanks (n : Nat) :
    (List.replicate n ' ').foldlM step ⟨ts, .idle⟩ = some ⟨ts, .idle⟩ := by
  induction n with
  | zero => rfl
  | succ n ih => exact ih

theorem Behind.foldlM_step_newLine (h : s.Behind ts) (depth : Nat) :
    (Value.newLine depth).foldlM step s = some ⟨ts, .idle⟩ := by
  have hfeed : s.step '\n' = some ⟨ts, .idle⟩ := h.step_eq (by decide)
  rw [Value.newLine, foldlM_cons_of_eq_some hfeed, foldlM_step_blanks]

theorem Behind.reads_newLine {cs : List Char} {us : List Token} (h : s.Behind ts) (depth : Nat)
    (hcs : (⟨ts, .idle⟩ : Splitting).Reads cs us) : s.Reads (Value.newLine depth ++ cs) us := by
  obtain ⟨last, hlast, hbehind⟩ := hcs
  exact ⟨last, (foldlM_append_of_eq_some (h.foldlM_step_newLine depth)).trans hlast, hbehind⟩

/-! ### Texts -/

theorem hexDigits_four (n : Nat) : Text.hexDigits 4 n =
    [Text.hexDigit (n / 16 / 16 / 16 % 16), Text.hexDigit (n / 16 / 16 % 16),
      Text.hexDigit (n / 16 % 16), Text.hexDigit (n % 16)] := rfl

theorem step_unit {cs : List Char} {high : Option Nat} {value count d : Nat} (hd : d < 16) :
    step ⟨ts, .unit cs high value count⟩ (Text.hexDigit d) =
      if count = 3 then receiveUnit ts cs high (16 * value + d)
      else some ⟨ts, .unit cs high (16 * value + d) (count + 1)⟩ := by
  rw [step, Text.hexValue?_hexDigit d hd]
  rfl

theorem foldlM_step_hexDigits (cs : List Char) (high : Option Nat) {n : Nat} (hn : n < 0x10000) :
    (Text.hexDigits 4 n).foldlM step ⟨ts, .unit cs high 0 0⟩ = receiveUnit ts cs high n := by
  have hmod : ∀ m, m % 16 < 16 := fun m => Nat.mod_lt m (by decide)
  have hvalue : 16 * (16 * (16 * (n / 16 / 16 / 16 % 16) + n / 16 / 16 % 16) + n / 16 % 16)
      + n % 16 = n := by omega
  simp [hexDigits_four, step_unit (hmod _), hvalue]

theorem foldlM_step_escapeUnit {cs : List Char} {n : Nat} (hn : n < 0x10000) :
    (escapeUnit n).foldlM step ⟨ts, .text cs⟩ = receiveUnit ts cs none n :=
  foldlM_step_hexDigits cs none hn

theorem foldlM_step_escapeUnit_surrogate {cs : List Char} {high n : Nat} (hn : n < 0x10000) :
    (escapeUnit n).foldlM step ⟨ts, .surrogate cs high⟩ = receiveUnit ts cs (some high) n :=
  foldlM_step_hexDigits cs (some high) hn

/-- **A character is read from its code units**, also when it has two. -/
theorem foldlM_step_codeUnits (c : Char) (cs : List Char) :
    ((codeUnits c).flatMap escapeUnit).foldlM step ⟨ts, .text cs⟩ = some ⟨ts, .text (c :: cs)⟩ := by
  have hvalid : c.toNat < 0xD800 ∨ 0xDFFF < c.toNat ∧ c.toNat < 0x110000 := c.valid
  by_cases hone : c.toNat < 0x10000
  · have hhigh : ¬ (0xD800 ≤ c.toNat ∧ c.toNat < 0xDC00) := by omega
    have hlow : ¬ (0xDC00 ≤ c.toNat ∧ c.toNat < 0xE000) := by omega
    rw [codeUnits, if_pos hone, List.flatMap_singleton, foldlM_step_escapeUnit hone, receiveUnit,
      if_neg hhigh, if_neg hlow, Char.ofNat_toNat]
  · obtain ⟨high, hhigh⟩ : ∃ high, high = 0xD800 + (c.toNat - 0x10000) / 0x400 := ⟨_, rfl⟩
    obtain ⟨low, hlow⟩ : ∃ low, low = 0xDC00 + (c.toNat - 0x10000) % 0x400 := ⟨_, rfl⟩
    have hbounds : 0xD800 ≤ high ∧ high < 0xDC00 ∧ 0xDC00 ≤ low ∧ low < 0xE000 := by omega
    have hjoined : 0x10000 + (high - 0xD800) * 0x400 + (low - 0xDC00) = c.toNat := by omega
    have hfirst : (escapeUnit high).foldlM step ⟨ts, .text cs⟩ = some ⟨ts, .surrogate cs high⟩ := by
      rw [foldlM_step_escapeUnit (by omega), receiveUnit, if_pos ⟨hbounds.1, hbounds.2.1⟩]
    rw [codeUnits, if_neg hone, ← hhigh, ← hlow, List.flatMap_cons, List.flatMap_singleton,
      foldlM_append_of_eq_some hfirst, foldlM_step_escapeUnit_surrogate (by omega), receiveUnit,
      if_pos hbounds.2.2, hjoined, Char.ofNat_toNat]

/-- **A character is read from its escape**, or from itself. -/
theorem foldlM_step_escapeChar (c : Char) (cs : List Char) :
    (escapeChar c).foldlM step ⟨ts, .text cs⟩ = some ⟨ts, .text (c :: cs)⟩ := by
  unfold escapeChar
  split
  next h => subst h; rfl
  split
  next h => subst h; rfl
  split
  next h => subst h; rfl
  split
  next h => subst h; rfl
  split
  next h => subst h; rfl
  split
  next h => rw [← Char.ofNat_toNat c, h]; rfl
  split
  next h => rw [← Char.ofNat_toNat c, h]; rfl
  split
  next hquote hbackslash _ _ _ _ _ hprintable =>
    have hcontrol : ¬ c.toNat < 32 := by omega
    simp [step, hquote, hbackslash, hcontrol]
  next => exact foldlM_step_codeUnits c cs

theorem foldlM_step_escapeChars (ds cs : List Char) :
    (ds.flatMap escapeChar).foldlM step ⟨ts, .text cs⟩ = some ⟨ts, .text (ds.reverse ++ cs)⟩ := by
  induction ds generalizing cs with
  | nil => rfl
  | cons d ds ih =>
    rw [List.flatMap_cons, foldlM_append_of_eq_some (foldlM_step_escapeChar d cs), ih,
      List.reverse_cons, List.append_assoc, List.singleton_append]

/-- **A text is read back**, whatever characters it holds. -/
theorem foldlM_step_escaped (text : String) :
    (escaped text).foldlM step ⟨ts, .idle⟩ = some ⟨.text text :: ts, .idle⟩ := by
  have hopen : step ⟨ts, .idle⟩ '"' = some ⟨ts, .text []⟩ := rfl
  have hclose : step ⟨ts, .text text.toList.reverse⟩ '"' = some ⟨.text text :: ts, .idle⟩ := by
    simp [step]
  rw [escaped, foldlM_cons_of_eq_some hopen,
    foldlM_append_of_eq_some (foldlM_step_escapeChars text.toList []), List.append_nil,
    foldlM_cons_of_eq_some hclose]
  rfl

/-! ### Values -/

theorem reads_escaped {text : String} {cs : List Char} {us : List Token}
    (hcs : ∀ next : Splitting, next.Behind (.text text :: ts) → next.Reads cs us) :
    (⟨ts, .idle⟩ : Splitting).Reads (escaped text ++ cs) us :=
  Reads.append ⟨_, foldlM_step_escaped text, .idle _⟩ hcs

end Splitting

end Token

namespace Value

open Token (Splitting)

/-- The characters of the value are split into its tokens, wherever it stands. -/
def Splits (v : Value) : Prop :=
  ∀ (depth : Nat) (ts : List Token),
    (⟨ts, .idle⟩ : Splitting).Reads (v.chars depth) (v.tokens.reverse ++ ts)

theorem reads_itemChars {items : List Value} (h : ∀ v ∈ items, v.Splits) (depth : Nat)
    {s : Splitting} {ts : List Token} (hs : s.Behind ts) :
    s.Reads (itemChars depth items) ((itemTokens items).reverse ++ ts) := by
  induction items generalizing s ts with
  | nil => exact hs.reads_nil
  | cons v rest ih =>
    rw [List.forall_mem_cons] at h
    have htokens : (itemTokens (v :: rest)).reverse ++ ts =
        (itemTokens rest).reverse ++ (v.tokens.reverse ++ .comma :: ts) := by
      simp [itemTokens]
    rw [htokens, itemChars, List.append_assoc]
    refine Splitting.reads_cons (hs.step_sign rfl) ?_
    exact (Splitting.Behind.idle _).reads_newLine depth ((h.1 depth _).append fun next => ih h.2)

theorem reads_memberChars {members : List (String × Value)} (h : ∀ m ∈ members, m.2.Splits)
    (depth : Nat) {s : Splitting} {ts : List Token} (hs : s.Behind ts) :
    s.Reads (memberChars depth members) ((memberTokens members).reverse ++ ts) := by
  induction members generalizing s ts with
  | nil => exact hs.reads_nil
  | cons m rest ih =>
    obtain ⟨name, v⟩ := m
    rw [List.forall_mem_cons] at h
    have htokens : (memberTokens ((name, v) :: rest)).reverse ++ ts =
        (memberTokens rest).reverse ++
          (v.tokens.reverse ++ .colon :: .text name :: .comma :: ts) := by
      simp [memberTokens]
    rw [htokens, memberChars, List.append_assoc, List.append_assoc]
    refine Splitting.reads_cons (hs.step_sign rfl) ?_
    refine (Splitting.Behind.idle _).reads_newLine depth
      (Splitting.reads_escaped fun next hnext => ?_)
    refine Splitting.reads_cons (hnext.step_sign rfl) (Splitting.reads_cons rfl ?_)
    exact (h.1 depth _).append fun next => ih h.2

/-- **The characters of a value are split into its tokens.** -/
theorem Plain.splits {v : Value} (h : v.Plain) : v.Splits := by
  induction h with
  | null => exact fun depth ts => ⟨_, rfl, .word rfl⟩
  | bool b =>
    intro depth ts
    cases b with
    | false => exact ⟨_, rfl, .word rfl⟩
    | true => exact ⟨_, rfl, .word rfl⟩
  | string s => exact fun depth ts => ⟨_, Splitting.foldlM_step_escaped s, .idle _⟩
  | @array items _ ih =>
    intro depth ts
    cases items with
    | nil => exact ⟨_, rfl, .idle _⟩
    | cons v rest =>
      rw [List.forall_mem_cons] at ih
      have htokens : (Value.array (v :: rest)).tokens.reverse ++ ts =
          .closeList :: ((itemTokens rest).reverse ++ (v.tokens.reverse ++ .openList :: ts)) := by
        simp [tokens]
      rw [htokens, chars]
      simp only [List.append_assoc]
      refine Splitting.reads_cons ((Splitting.Behind.idle ts).step_sign rfl) ?_
      refine (Splitting.Behind.idle _).reads_newLine _ ((ih.1 _ _).append fun s hs => ?_)
      refine (reads_itemChars ih.2 _ hs).append fun s hs => hs.reads_newLine _ ?_
      exact ⟨_, rfl, .idle _⟩
  | @object members _ _ ih =>
    intro depth ts
    cases members with
    | nil => exact ⟨_, rfl, .idle _⟩
    | cons m rest =>
      obtain ⟨name, v⟩ := m
      rw [List.forall_mem_cons] at ih
      have htokens : (Value.object ((name, v) :: rest)).tokens.reverse ++ ts =
          .closeObject :: ((memberTokens rest).reverse ++
            (v.tokens.reverse ++ .colon :: .text name :: .openObject :: ts)) := by
        simp [tokens]
      rw [htokens, chars]
      simp only [List.append_assoc, List.cons_append]
      refine Splitting.reads_cons ((Splitting.Behind.idle ts).step_sign rfl) ?_
      refine (Splitting.Behind.idle _).reads_newLine _ (Splitting.reads_escaped fun s hs => ?_)
      refine Splitting.reads_cons (hs.step_sign rfl) (Splitting.reads_cons rfl ?_)
      refine (ih.1 _ _).append fun s hs => (reads_memberChars ih.2 _ hs).append fun s hs => ?_
      exact hs.reads_newLine _ ⟨_, rfl, .idle _⟩

theorem Plain.split?_chars {v : Value} (h : v.Plain) (depth : Nat) :
    Token.split? (v.chars depth) = some v.tokens := by
  obtain ⟨s, hs, hbehind⟩ := h.splits depth []
  rw [Token.split?, hs, Option.bind_some, hbehind.finish_eq, List.append_nil, List.reverse_reverse]

/-! ### Building from tokens -/

/-- The tokens of the value build it, wherever a value must come. -/
def Builds (v : Value) : Prop :=
  ∀ outer, v.tokens.foldlM Reading.step (.value outer) = some (.after v outer)

theorem exists_tokens_eq (v : Value) : ∃ t ts, v.tokens = t :: ts ∧ t ≠ .closeList := by
  cases v with
  | array items => cases items <;> exact ⟨_, _, rfl, Token.noConfusion⟩
  | object members =>
    rcases members with _ | ⟨⟨name, v⟩, rest⟩ <;> exact ⟨_, _, rfl, Token.noConfusion⟩
  | _ => exact ⟨_, _, rfl, Token.noConfusion⟩

theorem Builds.foldlM_step_firstItem {v : Value} (h : v.Builds) (outer : List Frame) :
    v.tokens.foldlM Reading.step (.firstItem outer) = some (.after v (.list [] :: outer)) := by
  obtain ⟨t, ts, htokens, ht⟩ := v.exists_tokens_eq
  have hstep : Reading.step (.firstItem outer) t = Reading.step (.value (.list [] :: outer)) t := by
    cases t with
    | closeList => exact absurd rfl ht
    | _ => rfl
  have hvalue := h (.list [] :: outer)
  rw [htokens, List.foldlM_cons] at hvalue ⊢
  rwa [hstep]

theorem foldlM_step_itemTokens {items : List Value} (h : ∀ v ∈ items, v.Builds) (v : Value)
    (done : List Value) (outer : List Frame) :
    (itemTokens items ++ [Token.closeList]).foldlM Reading.step (.after v (.list done :: outer)) =
      some (.after (.array (done.reverse ++ v :: items)) outer) := by
  induction items generalizing v done with
  | nil =>
    have hclose : Reading.step (.after v (.list done :: outer)) .closeList =
        some (.after (.array (v :: done).reverse) outer) := rfl
    rw [itemTokens, List.nil_append, foldlM_cons_of_eq_some hclose, List.reverse_cons]
    rfl
  | cons w rest ih =>
    rw [List.forall_mem_cons] at h
    have hcomma : Reading.step (.after v (.list done :: outer)) .comma =
        some (.value (.list (v :: done) :: outer)) := rfl
    rw [itemTokens, List.cons_append, foldlM_cons_of_eq_some hcomma, List.append_assoc,
      foldlM_append_of_eq_some (h.1 _), ih h.2, List.reverse_cons, List.append_assoc,
      List.singleton_append]

theorem foldlM_step_memberTokens {members : List (String × Value)} (h : ∀ m ∈ members, m.2.Builds)
    (name : String) (v : Value) (done : List (String × Value)) (outer : List Frame) :
    (memberTokens members ++ [Token.closeObject]).foldlM Reading.step
        (.after v (.object done name :: outer)) =
      some (.after (Reading.objectOf (done.reverse ++ (name, v) :: members).reverse) outer) := by
  induction members generalizing name v done with
  | nil =>
    have hclose : Reading.step (.after v (.object done name :: outer)) .closeObject =
        some (.after (Reading.objectOf ((name, v) :: done)) outer) := rfl
    rw [memberTokens, List.nil_append, foldlM_cons_of_eq_some hclose, List.reverse_append,
      List.reverse_reverse]
    rfl
  | cons m rest ih =>
    obtain ⟨next, w⟩ := m
    rw [List.forall_mem_cons] at h
    have hname : ([.comma, .text next, .colon] : List Token).foldlM Reading.step
        (.after v (.object done name :: outer)) =
          some (.value (.object ((name, v) :: done) next :: outer)) := rfl
    have htokens : memberTokens ((next, w) :: rest) ++ [.closeObject] =
        [.comma, .text next, .colon] ++ (w.tokens ++ (memberTokens rest ++ [.closeObject])) := by
      simp [memberTokens]
    rw [htokens, foldlM_append_of_eq_some hname, foldlM_append_of_eq_some (h.1 _), ih h.2,
      List.reverse_cons, List.append_assoc, List.singleton_append]

theorem objectOf_reverse {members : List (String × Value)} (h : (members.map Prod.fst).Nodup) :
    Reading.objectOf members.reverse = .object members := by
  rw [Reading.objectOf, List.reverse_reverse, Assignment.entries_ofPairs h]

/-- **The tokens of a value build it.** -/
theorem Plain.builds {v : Value} (h : v.Plain) : v.Builds := by
  induction h with
  | null => exact fun outer => rfl
  | bool b => exact fun outer => rfl
  | string s => exact fun outer => rfl
  | @array items _ ih =>
    intro outer
    cases items with
    | nil => rfl
    | cons v rest =>
      rw [List.forall_mem_cons] at ih
      have hopen : Reading.step (.value outer) .openList = some (.firstItem outer) := rfl
      rw [tokens, foldlM_cons_of_eq_some hopen, List.append_assoc,
        foldlM_append_of_eq_some (ih.1.foldlM_step_firstItem outer), foldlM_step_itemTokens ih.2]
      rfl
  | @object members hnames _ ih =>
    intro outer
    cases members with
    | nil => rfl
    | cons m rest =>
      obtain ⟨name, v⟩ := m
      rw [List.forall_mem_cons] at ih
      have hname : ([.openObject, .text name, .colon] : List Token).foldlM Reading.step
          (.value outer) = some (.value (.object [] name :: outer)) := rfl
      have htokens : (Value.object ((name, v) :: rest)).tokens =
          [.openObject, .text name, .colon] ++
            (v.tokens ++ (memberTokens rest ++ [.closeObject])) := by
        simp [tokens]
      rw [htokens, foldlM_append_of_eq_some hname, foldlM_append_of_eq_some (ih.1 _),
        foldlM_step_memberTokens ih.2, List.reverse_nil, List.nil_append, objectOf_reverse hnames]

/-- **A value is read back from its text.** -/
theorem Plain.read?_text {v : Value} (h : v.Plain) : read? v.text.toList = some v := by
  have hbuilt : v.tokens.foldlM Reading.step (.value []) = some (.after v []) := h.builds []
  rw [text, String.toList_ofList, read?, h.split?_chars, Option.bind_some, hbuilt, Option.bind_some]
  rfl

/-! ### The characters of a text -/

def Ascii (cs : List Char) : Prop := ∀ c ∈ cs, c.toNat < 128

@[simp] theorem ascii_nil : Ascii [] := List.forall_mem_nil _

@[simp] theorem ascii_cons {c : Char} {cs : List Char} :
    Ascii (c :: cs) ↔ c.toNat < 128 ∧ Ascii cs := List.forall_mem_cons

@[simp] theorem ascii_append {cs ds : List Char} : Ascii (cs ++ ds) ↔ Ascii cs ∧ Ascii ds :=
  List.forall_mem_append

theorem ascii_hexDigits (width n : Nat) : Ascii (Text.hexDigits width n) := by
  have hdigit : ∀ d < 16, (Text.hexDigit d).toNat < 128 := by decide
  induction width generalizing n with
  | zero => exact ascii_nil
  | succ width ih =>
    exact ascii_append.mpr ⟨ih (n / 16), by simpa using hdigit _ (Nat.mod_lt n (by decide))⟩

theorem ascii_escapeChar (c : Char) : Ascii (escapeChar c) := by
  have hunits : Ascii ((codeUnits c).flatMap escapeUnit) := by
    intro d hd
    obtain ⟨n, -, hn⟩ := List.mem_flatMap.mp hd
    have hunit : Ascii (escapeUnit n) := by simp [escapeUnit, ascii_hexDigits]
    exact hunit d hn
  unfold escapeChar
  -- the seven short escapes
  iterate 7
    split
    · simp
  split
  next hprintable => exact ascii_cons.mpr ⟨by omega, ascii_nil⟩
  next => exact hunits

theorem ascii_escaped (s : String) : Ascii (escaped s) := by
  have hchars : Ascii (s.toList.flatMap escapeChar) := by
    intro d hd
    obtain ⟨c, -, hc⟩ := List.mem_flatMap.mp hd
    exact ascii_escapeChar c d hc
  simp [escaped, hchars]

theorem ascii_newLine (depth : Nat) : Ascii (newLine depth) := by
  have hblanks : Ascii (List.replicate (2 * depth) ' ') := by
    intro c hc
    rw [List.eq_of_mem_replicate hc]
    decide
  simp [newLine, hblanks]

theorem ascii_itemChars {items : List Value} (h : ∀ v ∈ items, ∀ depth, Ascii (v.chars depth))
    (depth : Nat) : Ascii (itemChars depth items) := by
  induction items with
  | nil => exact ascii_nil
  | cons v rest ih =>
    rw [List.forall_mem_cons] at h
    simp [itemChars, ascii_newLine, h.1 depth, ih h.2]

theorem ascii_memberChars {members : List (String × Value)}
    (h : ∀ m ∈ members, ∀ depth, Ascii (m.2.chars depth)) (depth : Nat) :
    Ascii (memberChars depth members) := by
  induction members with
  | nil => exact ascii_nil
  | cons m rest ih =>
    obtain ⟨name, v⟩ := m
    rw [List.forall_mem_cons] at h
    simp [memberChars, ascii_newLine, ascii_escaped, h.1 depth, ih h.2]

/-- **A value is written in ASCII**, whatever texts it holds. -/
theorem Plain.ascii_chars {v : Value} (h : v.Plain) (depth : Nat) : Ascii (v.chars depth) := by
  induction h generalizing depth with
  | null => simp [chars]
  | bool b => cases b <;> simp [chars]
  | string s => exact ascii_escaped s
  | @array items _ ih =>
    cases items with
    | nil => simp [chars]
    | cons v rest =>
      rw [List.forall_mem_cons] at ih
      simp [chars, ascii_newLine, ih.1, ascii_itemChars ih.2]
  | @object members _ _ ih =>
    cases members with
    | nil => simp [chars]
    | cons m rest =>
      obtain ⟨name, v⟩ := m
      rw [List.forall_mem_cons] at ih
      simp [chars, ascii_newLine, ascii_escaped, ih.1, ascii_memberChars ih.2]

end Value

end Json

namespace Sheet

open Json (Value)

/-! ### Sheets -/

theorem plain_rowDocument (r : Row) : (rowDocument r).Plain := by
  have hnames : ((r.assignment.entries.map fun e => (e.1, Value.bool e.2)).map Prod.fst).Nodup := by
    rw [List.map_map]
    exact r.assignment.nodup
  have hmembers : (["assignment", "steps", "result"] : List String).Nodup := by decide
  refine .object hmembers fun m hm => ?_
  simp only [List.mem_cons, List.not_mem_nil, or_false] at hm
  rcases hm with rfl | rfl | rfl
  · exact .object hnames (List.forall_mem_map.mpr fun e _ => .bool e.2)
  · exact .array (List.forall_mem_map.mpr fun b _ => .bool b)
  · exact .bool r.result

theorem plain_document (s : Sheet) : s.document.Plain := by
  have htexts : ∀ texts : List String, (Value.array (texts.map .string)).Plain := fun texts =>
    .array (List.forall_mem_map.mpr fun text _ => .string text)
  have hmembers : (["formula", "variables", "steps", "rows"] : List String).Nodup := by decide
  refine .object hmembers fun m hm => ?_
  simp only [List.mem_cons, List.not_mem_nil, or_false] at hm
  rcases hm with rfl | rfl | rfl | rfl
  · exact .string s.source
  · exact htexts s.vars
  · exact htexts s.steps
  · exact .array (List.forall_mem_map.mpr fun r _ => plain_rowDocument r)

theorem eq_of_rowDocument_eq {r u : Row} (h : rowDocument r = rowDocument u) : r = u := by
  obtain ⟨a, steps, result⟩ := r
  obtain ⟨b, steps', result'⟩ := u
  simp only [rowDocument, Value.object.injEq, List.cons.injEq, Prod.mk.injEq, true_and, and_true,
    Value.array.injEq, Value.bool.injEq] at h
  obtain ⟨hentries, hsteps, hresult⟩ := h
  have hab : a = b := by
    refine Assignment.ext ((List.map_inj_right fun x y hxy => ?_).mp hentries)
    simp only [Prod.mk.injEq, Value.bool.injEq] at hxy
    exact Prod.ext hxy.1 hxy.2
  have hsteps : steps = steps' := (List.map_inj_right fun _ _ => Value.bool.inj).mp hsteps
  rw [hab, hsteps, hresult]

theorem eq_of_document_eq {s t : Sheet} (h : s.document = t.document) : s = t := by
  obtain ⟨source, vars, steps, rows⟩ := s
  obtain ⟨source', vars', steps', rows'⟩ := t
  simp only [document, Value.object.injEq, List.cons.injEq, Prod.mk.injEq, true_and, and_true,
    Value.array.injEq, Value.string.injEq] at h
  obtain ⟨hsource, hvars, hsteps, hrows⟩ := h
  have hvars : vars = vars' := (List.map_inj_right fun _ _ => Value.string.inj).mp hvars
  have hsteps : steps = steps' := (List.map_inj_right fun _ _ => Value.string.inj).mp hsteps
  have hrows : rows = rows' := (List.map_inj_right fun _ _ => eq_of_rowDocument_eq).mp hrows
  rw [hsource, hvars, hsteps, hrows]

theorem read?_document (s : Sheet) : Value.read? s.json.toList = some s.document :=
  s.plain_document.read?_text

/-- **JSON is read back as the sheet**, whatever texts stand in it and however many rows it has: the
text is ASCII, and what is read from it is an object with four members, the source, the names of
the variables, the texts of the steps, and for each row an object with the assignment, the values of
the steps and the result.  So no other sheet has this text. -/
theorem read?_json (s : Sheet) :
    (∀ c ∈ s.json.toList, c.toNat < 128) ∧
      Value.read? s.json.toList = some (.object [
        ("formula", .string s.source),
        ("variables", .array (s.vars.map .string)),
        ("steps", .array (s.steps.map .string)),
        ("rows", .array (s.rows.map fun r => .object [
          ("assignment", .object (r.assignment.entries.map fun e => (e.1, .bool e.2))),
          ("steps", .array (r.steps.map .bool)),
          ("result", .bool r.result)]))]) ∧
      ∀ t : Sheet, t.json = s.json → t = s := by
  refine ⟨?_, s.read?_document, fun t ht => ?_⟩
  · rw [json, Value.text, String.toList_ofList]
    exact s.plain_document.ascii_chars 0
  · have hread := t.read?_document
    rw [ht, s.read?_document] at hread
    exact (eq_of_document_eq (Option.some.inj hread)).symm

end Sheet

end TruthTables
