import TruthTables.Session

/-!
# One threshold at every moment

A journal has two gates, and every way to set its level sets both (`journal_ofLevel`).  So after any
actions both stand at the level that was set last (`performAll_some`), and a note is written if and
only if it reaches that level, each note once, in the order in which the notes are made, with the
mark of its level in front and its own text behind.  Where no level is set on the way, what is
written from one level on is what is written at the lowest level without the notes below.
-/

namespace TruthTables

def Level.mark : Level → String
  | debug => "[DEBUG] "
  | info => ""
  | warning => "[WARNING] "
  | error => "[ERROR] "

def Note.piece (n : Note) : String := n.level.mark ++ n.text ++ "\n"

theorem Note.line_eq (n : Note) : n.line = n.level.mark ++ n.text := by
  obtain ⟨level, text⟩ := n
  cases level with
  | info => exact (String.empty_append).symm
  | debug => rfl
  | warning => rfl
  | error => rfl

def Level.transcript (level : Level) (notes : List Note) : String :=
  String.join ((notes.filter fun n => level.rank ≤ n.level.rank).map Note.piece)

namespace Action

def level? : Action → Option Level
  | setLevel level => some level
  | configure verbose debug => some (if debug then .debug else if verbose then .info else .warning)
  | _ => none

/-- The level that was set last; `start` is the one that was set at the beginning. -/
def lastLevel (start : Level) (actions : List Action) : Level :=
  (actions.filterMap level?).getLastD start

theorem lastLevel_cons (start : Level) (a : Action) (rest : List Action) :
    lastLevel start (a :: rest) = lastLevel (a.level?.getD start) rest := by
  rw [lastLevel, lastLevel, List.filterMap_cons]
  cases a.level? with
  | none => rfl
  | some level => exact List.getLastD_cons

/-- **Whatever sets the level sets both gates.** -/
theorem journal_ofLevel (a : Action) (level : Level) :
    a.journal (.ofLevel level) = .ofLevel (a.level?.getD level) := by
  cases a <;> rfl

def allNotes (actions : List Action) : List Note := actions.flatMap fun a => a.work.notes

end Action

namespace Level

open TruthTables.Action

theorem transcript_append (level : Level) (notes notes' : List Note) :
    level.transcript (notes ++ notes') = level.transcript notes ++ level.transcript notes' := by
  rw [transcript, List.filter_append, List.map_append, String.join_append]
  rfl

theorem transcript_debug (notes : List Note) :
    debug.transcript notes = String.join (notes.map Note.piece) := by
  have hlow : ∀ level : Level, debug.rank ≤ level.rank := by
    intro level
    cases level <;> decide
  rw [transcript, List.filter_eq_self.mpr fun n _ => decide_eq_true (hlow n.level)]

theorem transcript_allNotes (level : Level) (actions : List Action) :
    level.transcript (allNotes actions) =
      String.join (actions.map fun a => level.transcript a.work.notes) := by
  induction actions with
  | nil => rfl
  | cons a actions ih =>
    rw [allNotes, List.flatMap_cons, transcript_append, List.map_cons, String.join_cons, ← ih]
    rfl

end Level

theorem Journal.write_ofLevel (level : Level) (notes : List Note) :
    (Journal.ofLevel level).write notes = level.transcript notes := by
  have hadmits : (Journal.ofLevel level).admits = fun n => decide (level.rank ≤ n.level.rank) :=
    funext fun n => Bool.and_self _
  have hpiece : (fun n : Note => n.line ++ "\n") = Note.piece := by
    funext n
    rw [Note.line_eq, Note.piece]
  rw [write, hadmits, hpiece, Level.transcript]

namespace Session

open TruthTables.Action

def turnAt (level : Level) (a : Action) : Turn := ⟨a.work.value, level.transcript a.work.notes⟩

/-- **One action**: it is answered and written at the level that it finds, and leaves the one that
it sets, if it sets one. -/
theorem perform_some (level : Level) (a : Action) :
    perform (some (.ofLevel level)) a =
      (some (.ofLevel (a.level?.getD level)), turnAt level a) := by
  rw [perform, journal, Option.getD_some, journal_ofLevel, Journal.write_ofLevel, turnAt]

/-- **Any actions**: each of them finds the level that was set last before it. -/
theorem performAll_some (start : Level) (actions : List Action) :
    performAll (some (.ofLevel start)) actions = (some (.ofLevel (lastLevel start actions)),
      actions.mapIdx fun k a => turnAt (lastLevel start (actions.take k)) a) := by
  induction actions generalizing start with
  | nil => rfl
  | cons a rest ih =>
    have hlater : ∀ k, lastLevel start ((a :: rest).take (k + 1)) =
        lastLevel (a.level?.getD start) (rest.take k) := fun k => by
      rw [List.take_succ_cons, lastLevel_cons]
    simp only [performAll, perform_some, ih, List.mapIdx_cons, hlater, lastLevel_cons]
    rfl

theorem turns_of_forall {actions : List Action} (h : ∀ a ∈ actions, a.level? = none)
    (level : Level) :
    (performAll (some (.ofLevel level)) actions).2 = actions.map (turnAt level) := by
  induction actions with
  | nil => rfl
  | cons a rest ih =>
    have hnone : a.level? = none := h a List.mem_cons_self
    simp only [performAll, perform_some, hnone, Option.getD_none,
      ih fun b hb => h b (List.mem_cons_of_mem a hb), List.map_cons]

def output (start : Level) (actions : List Action) : String :=
  String.join ((performAll (some (.ofLevel start)) actions).2.map Turn.written)

def answers (start : Level) (actions : List Action) : List Answer :=
  (performAll (some (.ofLevel start)) actions).2.map Turn.answer

/-- **One threshold at every moment.**  In a session that starts at a level, both gates of the
journal stand at the level that was set last, after any of the actions; and what comes of an action
is its own answer and a line for each of its notes that reaches the level that was set last before
it, and nothing for the others, in the order of the notes.  Where no action sets a level, the output
is a line for each note that reaches the first level, where the output from the lowest level on has
a line for each note, and the answers are the same. -/
theorem one_threshold (start : Level) (actions : List Action) :
    (∀ k, (performAll (some (.ofLevel start)) (actions.take k)).1 =
      some ⟨lastLevel start (actions.take k), lastLevel start (actions.take k)⟩) ∧
    (performAll (some (.ofLevel start)) actions).2 = (actions.mapIdx fun k a =>
      ⟨a.work.value, String.join ((a.work.notes.filter fun n =>
        (lastLevel start (actions.take k)).rank ≤ n.level.rank).map Note.piece)⟩) ∧
    ((∀ a ∈ actions, a.level? = none) →
      output start actions = String.join
        (((allNotes actions).filter fun n => start.rank ≤ n.level.rank).map Note.piece) ∧
      output .debug actions = String.join ((allNotes actions).map Note.piece) ∧
      answers start actions = answers .debug actions) := by
  have houtput : (∀ a ∈ actions, a.level? = none) → ∀ level : Level,
      output level actions = level.transcript (allNotes actions) := by
    intro h level
    rw [output, turns_of_forall h, List.map_map, Level.transcript_allNotes]
    rfl
  refine ⟨fun k => ?_, ?_, fun h => ⟨houtput h start, ?_, ?_⟩⟩
  · rw [performAll_some]
    rfl
  · rw [performAll_some]
    rfl
  · rw [houtput h, Level.transcript_debug]
  · rw [answers, answers, turns_of_forall h, turns_of_forall h, List.map_map, List.map_map]
    rfl

/-- Percent signs and braces are written as they are, and details are not written. -/
theorem one_threshold_warning :
    (∀ a ∈ [Action.note (.warning "100% \x7bx\x7d"), .parse (.string "a &"), .tableBuilt 4 0],
      a.level? = none) ∧
    output .warning
      [.note (.warning "100% \x7bx\x7d"), .parse (.string "a &"), .tableBuilt 4 0] =
        "[WARNING] 100% \x7bx\x7d\n" := by
  have hquiet : ∀ a ∈ [Action.note (.warning "100% \x7bx\x7d"), .parse (.string "a &"),
      .tableBuilt 4 0], a.level? = none := by
    simp [Action.level?]
  refine ⟨hquiet, ((one_threshold .warning _).2.2 hquiet).1.trans ?_⟩
  decide +kernel

end Session

end TruthTables
