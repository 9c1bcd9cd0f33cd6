import TruthTables.Formula.Track
import TruthTables.Proofs.Reading.Grammar

/-!
# The track follows the reader

The track of connectives sees the tokens and nothing of the grammar.  `Follows track r` says that
its levels are the connectives of the chains that the reader is in.  `Follows.step` keeps it over
every token that the reader takes, and `Follows.rival` reads off the connective of the innermost
chain.
-/

namespace TruthTables

open Formula Formula.Reading

namespace Formula

def Group.level (g : Group) : Option Connective := g.chain.map Prod.snd

namespace Reading

def level : Reading → Option Connective
  | due g _ => g.level
  | after _ chain _ => chain

def groups : Reading → List Group
  | due _ outer => outer
  | after _ _ outer => outer

def complete : Reading → Bool
  | due _ _ => false
  | after _ _ _ => true

/-- The connective that the next one would have to agree with. -/
def rival : Reading → Option Connective
  | due _ _ => none
  | after _ chain _ => chain

theorem level_receive (e : Formula) (g : Group) (outer : List Group) :
    (receive e g outer).level = g.level := by
  obtain ⟨chain, n⟩ := g
  cases chain <;> rfl

theorem groups_receive (e : Formula) (g : Group) (outer : List Group) :
    (receive e g outer).groups = outer := by
  obtain ⟨chain, n⟩ := g
  cases chain <;> rfl

theorem complete_receive (e : Formula) (g : Group) (outer : List Group) :
    (receive e g outer).complete = true := by
  obtain ⟨chain, n⟩ := g
  cases chain <;> rfl

end Reading

end Formula

namespace Track

/-- The levels of the track are the connectives of the reader's chains. -/
structure Follows (track : Track) (r : Reading) : Prop where
  level_eq : track.level = r.level
  outer_eq : track.outer = r.groups.map Group.level
  operand_eq : track.followsOperand = r.complete

theorem follows_start : start.Follows Reading.start := ⟨rfl, rfl, rfl⟩

/-- **The track goes on with the reader.** -/
theorem Follows.step {track : Track} {r r' : Reading} {t : Token} (h : track.Follows r)
    (hs : r.step? t = some r') : (track.step t).Follows r' := by
  obtain ⟨hl, ho, -⟩ := h
  cases moves_of_step? hs with
  | identifier name g outer =>
    refine ⟨?_, ?_, (complete_receive _ _ _).symm⟩
    · rw [level_receive]; exact hl
    · rw [groups_receive]; exact ho
  | negation g outer => exact ⟨hl, ho, rfl⟩
  | opening g outer => exact ⟨rfl, by rw [Track.step, hl, ho]; rfl, rfl⟩
  | begins e c outer => exact ⟨rfl, ho, rfl⟩
  | continues e c outer => exact ⟨rfl, ho, rfl⟩
  | closing e chain g outer =>
    have hstep : track.step .closing = ⟨g.level, outer.map Group.level, some .closing⟩ := by
      rw [Track.step, ho]; rfl
    rw [hstep]
    exact ⟨(level_receive _ _ _).symm, by rw [groups_receive], (complete_receive _ _ _).symm⟩

theorem Follows.rival {track : Track} {r : Reading} (h : track.Follows r) :
    track.rival = r.rival := by
  obtain ⟨hl, -, hc⟩ := h
  rw [Track.rival, hl, hc]
  cases r <;> rfl

end Track

end TruthTables
