/-!
# Assignments

An assignment gives values to finitely many names, in a fixed order and to each name once.  Giving
a value to a name that already has one keeps the place of the name and replaces the value.
-/

namespace TruthTables

/-- Values of distinct names, in order. -/
structure Assignment (α : Type) where
  entries : List (String × α)
  /-- No name occurs twice. -/
  nodup : (entries.map Prod.fst).Nodup

namespace Assignment

variable {α β : Type}

/-- Two assignments with the same names and values in the same order are the same. -/
@[ext] theorem ext {a b : Assignment α} (h : a.entries = b.entries) : a = b := by
  cases a; cases b; cases h; rfl

instance [DecidableEq α] : DecidableEq (Assignment α) := fun a b =>
  decidable_of_iff (a.entries = b.entries) ⟨ext, fun h => h ▸ rfl⟩

def empty : Assignment α := ⟨[], List.nodup_nil⟩

instance : Inhabited (Assignment α) := ⟨empty⟩

def names (a : Assignment α) : List String := a.entries.map Prod.fst

def values (a : Assignment α) : List α := a.entries.map Prod.snd

def get? (a : Assignment α) (name : String) : Option α := a.entries.lookup name

/-- The entries with the value of one name replaced, or with that name added at the end. -/
def insertEntry (name : String) (value : α) : List (String × α) → List (String × α)
  | [] => [(name, value)]
  | (n, v) :: rest =>
    if n = name then (n, value) :: rest else (n, v) :: insertEntry name value rest

theorem mem_insertEntry {name n : String} {value : α} {l : List (String × α)}
    (h : n ∈ (insertEntry name value l).map Prod.fst) : n = name ∨ n ∈ l.map Prod.fst := by
  induction l with
  | nil => simpa [insertEntry] using h
  | cons e rest ih =>
    obtain ⟨m, v⟩ := e
    by_cases hm : m = name
    · exact Or.inr (by simpa [insertEntry, hm] using h)
    · simp only [insertEntry, hm, if_false, List.map_cons, List.mem_cons] at h
      rcases h with h | h
      · exact Or.inr (by simp [h])
      · rcases ih h with h | h
        · exact Or.inl h
        · exact Or.inr (List.mem_cons_of_mem _ h)

theorem nodup_insertEntry {name : String} {value : α} {l : List (String × α)}
    (h : (l.map Prod.fst).Nodup) : ((insertEntry name value l).map Prod.fst).Nodup := by
  induction l with
  | nil => simp [insertEntry]
  | cons e rest ih =>
    obtain ⟨m, v⟩ := e
    rw [List.map_cons, List.nodup_cons] at h
    by_cases hm : m = name
    · simp only [insertEntry, hm, if_true, List.map_cons, List.nodup_cons]
      exact ⟨hm ▸ h.1, h.2⟩
    · simp only [insertEntry, hm, if_false, List.map_cons, List.nodup_cons]
      refine ⟨fun hmem => ?_, ih h.2⟩
      rcases mem_insertEntry hmem with hn | hn
      · exact hm hn
      · exact h.1 hn

def insert (a : Assignment α) (name : String) (value : α) : Assignment α :=
  ⟨insertEntry name value a.entries, nodup_insertEntry a.nodup⟩

theorem lookup_insertEntry (name n : String) (value : α) (l : List (String × α)) :
    (insertEntry name value l).lookup n = if n = name then some value else l.lookup n := by
  induction l with
  | nil => by_cases hn : n = name <;> simp [insertEntry, hn]
  | cons e rest ih =>
    obtain ⟨m, v⟩ := e
    by_cases hn : n = m
    · subst hn
      by_cases hm : n = name <;> simp [insertEntry, hm]
    · have hnm : (n == m) = false := beq_eq_false_iff_ne.mpr hn
      by_cases hm : m = name
      · subst hm
        simp [insertEntry, List.lookup_cons, hnm, hn]
      · simp only [insertEntry, if_neg hm, List.lookup_cons, hnm, ih]

/-- After a value was given to a name, that name has it and every other name has what it had. -/
@[simp] theorem get?_insert (a : Assignment α) (name n : String) (value : α) :
    (a.insert name value).get? n = if n = name then some value else a.get? n :=
  lookup_insertEntry name n value a.entries

/-- The assignment that arises from giving values one after another. -/
def ofPairs (pairs : List (String × α)) : Assignment α :=
  pairs.foldl (fun a p => a.insert p.1 p.2) empty

theorem map_fst_zip_sublist : ∀ (names : List String) (values : List α),
    ((names.zip values).map Prod.fst).Sublist names
  | [], _ => by simp
  | n :: names, [] => by simp
  | n :: names, v :: values => by
    simpa using (map_fst_zip_sublist names values)

def zip (names : List String) (values : List α) (h : names.Nodup) : Assignment α :=
  ⟨names.zip values, (map_fst_zip_sublist names values).nodup h⟩

@[simp] theorem names_zip {names : List String} {values : List α} {h : names.Nodup}
    (hl : names.length ≤ values.length) : (zip names values h).names = names :=
  List.map_fst_zip hl

@[simp] theorem values_zip {names : List String} {values : List α} {h : names.Nodup}
    (hl : values.length ≤ names.length) : (zip names values h).values = values :=
  List.map_snd_zip hl

def map (f : α → β) (a : Assignment α) : Assignment β :=
  ⟨a.entries.map fun e => (e.1, f e.2), by simpa [Function.comp_def] using a.nodup⟩

end Assignment

end TruthTables
