import TruthTables.Proofs.Counting

/-!
# The Boolean cube in order

The vectors of a cube are listed once, in the order of their numbers, which for vectors of one width
is the lexicographic order (`lt_iff_number_lt`).

On a walk the vectors come in the same order.  What a move does to a walk depends only on how often
that walk has been moved since it started (`walk_moveAll`), so moves on other walks may come in
between, and walks that have ended stay where they are.
-/

namespace TruthTables

namespace Cube

/-! ### The order of the vectors -/

/-- **The lexicographic order of vectors of one width is that of their numbers.** -/
theorem lt_iff_number_lt {bs cs : List Bool} (h : bs.length = cs.length) :
    bs < cs ↔ number bs < number cs := by
  induction bs generalizing cs with
  | nil =>
    rw [List.length_eq_zero_iff.mp h.symm]
    simp
  | cons b bs ih =>
    cases cs with
    | nil => cases h
    | cons c cs =>
      have hl : bs.length = cs.length := Nat.succ.inj h
      have hb := number_lt bs
      have hc := number_lt cs
      rw [hl] at hb
      rw [List.cons_lt_cons_iff, ih hl, number, number, hl, Bool.lt_iff]
      cases b <;> cases c <;>
        simp only [Bool.toNat_false, Bool.toNat_true, reduceCtorEq, true_and, and_true, false_and,
          and_false, or_false, false_or, true_iff, false_iff] <;>
        omega

section Vectors

variable {c : Cube}

theorem length_of_mem_vectors {bs : List Bool} (h : bs ∈ c.vectors) : bs.length = c.width := by
  obtain ⟨k, -, rfl⟩ := List.mem_map.mp h
  exact length_vector c k

/-- **The vectors are listed in increasing order.** -/
theorem vectors_increasing (h : 0 < c.width) : c.vectors.Pairwise (· < ·) := by
  rw [List.pairwise_iff_getElem]
  intro i j hi hj hij
  obtain ⟨hli, hni⟩ := (getElem?_vectors_eq_some_iff h).mp (List.getElem?_eq_getElem hi)
  obtain ⟨hlj, hnj⟩ := (getElem?_vectors_eq_some_iff h).mp (List.getElem?_eq_getElem hj)
  rwa [lt_iff_number_lt (hli.trans hlj.symm), hni, hnj]

theorem count_vectors {bs : List Bool} (h : 0 < c.width) (hl : bs.length = c.width) :
    c.vectors.count bs = 1 := by
  have hnodup : c.vectors.Nodup := by
    refine (vectors_increasing h).imp fun hlt heq => ?_
    rw [heq] at hlt
    exact List.lt_irrefl _ hlt
  refine List.count_eq_one_of_mem hnodup (List.mem_of_getElem? (i := number bs) ?_)
  exact (getElem?_vectors_eq_some_iff h).mpr ⟨hl, rfl⟩

/-- **The vector of a counter** is the one vector of the width whose number is the remainder of the
counter. -/
theorem eq_vector_iff {bs : List Bool} {counter : Int} : bs = c.vector counter ↔
    bs.length = c.width ∧ (number bs : Int) = counter % 2 ^ c.width := by
  constructor
  · rintro rfl
    exact ⟨length_vector c counter, number_bits_int counter c.width⟩
  · rintro ⟨hl, hnumber⟩
    refine eq_of_number_eq (hl.trans (length_vector c counter).symm) ?_
    exact_mod_cast hnumber.trans (number_bits_int counter c.width).symm

end Vectors

/-! ### Walks -/

def walkAfter (c : Cube) (k : Nat) : Walk := ⟨c, min k c.count⟩

namespace Walks

variable {c : Cube} {ws : Walks} {name : String} {k : Nat}

theorem advance?_walkAfter (c : Cube) (k : Nat) : (c.walkAfter k).advance? =
    if k < c.count then some (c.vector k, c.walkAfter (k + 1)) else none := by
  by_cases hk : k < c.count
  · rw [if_pos hk, walkAfter, walkAfter, Nat.min_eq_left (Nat.le_of_lt hk), Nat.min_eq_left hk]
    exact if_pos hk
  · rw [if_neg hk, walkAfter, Nat.min_eq_right (Nat.le_of_not_lt hk)]
    exact if_neg (Nat.lt_irrefl _)

theorem walkAfter_succ_of_le (h : c.count ≤ k) : c.walkAfter (k + 1) = c.walkAfter k := by
  rw [walkAfter, walkAfter, Nat.min_eq_right h, Nat.min_eq_right (Nat.le_succ_of_le h)]

@[simp] theorem cube_move (ws : Walks) (m : Move) : (ws.move m).1.cube = ws.cube := by
  cases m with
  | start n => rw [move, cube_put]
  | next n =>
    rw [move]
    cases (ws.walk n).advance? with
    | none => rfl
    | some p => rw [cube_put]

/-- **What a move to the next vector does**: it gives the vector that is due, or tells the end. -/
theorem move_next (h : ws.walk name = c.walkAfter k) :
    (ws.move (.next name)).1.walk name = c.walkAfter (k + 1) ∧
      (ws.move (.next name)).2 = if k < c.count then .vector (c.vector k) else .ended := by
  rw [move, h, advance?_walkAfter]
  by_cases hk : k < c.count
  · rw [if_pos hk, if_pos hk]
    exact ⟨by rw [walk_put, if_pos rfl], rfl⟩
  · rw [if_neg hk, if_neg hk, walkAfter_succ_of_le (Nat.le_of_not_lt hk)]
    exact ⟨h, rfl⟩

/-- A move on another walk leaves a walk where it is. -/
theorem walk_move_of_ne {m : Move} (hstart : m ≠ .start name) (hnext : m ≠ .next name) :
    (ws.move m).1.walk name = ws.walk name := by
  cases m with
  | start n =>
    have hn : name ≠ n := fun heq => hstart (heq ▸ rfl)
    rw [move, walk_put, if_neg hn]
  | next n =>
    have hn : name ≠ n := fun heq => hnext (heq ▸ rfl)
    rw [move]
    cases (ws.walk n).advance? with
    | none => rfl
    | some p => rw [walk_put, if_neg hn]

/-- **Where a walk stands depends on its own moves only.** -/
theorem walk_moveAll {moves : List Move} (hstart : .start name ∉ moves)
    (h : ws.walk name = c.walkAfter k) :
    (ws.moveAll moves).1.walk name = c.walkAfter (k + moves.count (.next name)) := by
  induction moves generalizing ws k with
  | nil => exact h
  | cons m moves ih =>
    rw [List.mem_cons, not_or] at hstart
    rw [moveAll, List.count_cons]
    by_cases hm : m = .next name
    · subst hm
      rw [ih hstart.2 (move_next h).1, beq_self_eq_true, if_pos rfl, Nat.add_assoc,
        Nat.add_comm 1]
    · rw [ih hstart.2 ((walk_move_of_ne (Ne.symm hstart.1) hm).trans h),
        beq_eq_false_iff_ne.mpr hm]
      rfl

@[simp] theorem length_moveAll (ws : Walks) (moves : List Move) :
    (ws.moveAll moves).2.length = moves.length := by
  induction moves generalizing ws with
  | nil => rfl
  | cons m moves ih => rw [moveAll, List.length_cons, ih, List.length_cons]

theorem cube_moveAll (ws : Walks) (moves : List Move) : (ws.moveAll moves).1.cube = ws.cube := by
  induction moves generalizing ws with
  | nil => rfl
  | cons m moves ih => rw [moveAll, ih, cube_move]

theorem moveAll_append (ws : Walks) (moves others : List Move) : ws.moveAll (moves ++ others) =
    (((ws.moveAll moves).1.moveAll others).1,
      (ws.moveAll moves).2 ++ ((ws.moveAll moves).1.moveAll others).2) := by
  induction moves generalizing ws with
  | nil => rfl
  | cons m moves ih => rw [List.cons_append, moveAll, ih]; rfl

/-- **The replies to the moves on one walk**, among moves on other walks: the vectors in order, and
then the end. -/
theorem reply_next {earlier since later : List Move} (hstart : .start name ∉ since) :
    (ws.moveAll (earlier ++ .start name :: (since ++ .next name :: later))).2[
        earlier.length + 1 + since.length]? =
      some (if since.count (.next name) < ws.cube.count
        then .vector (ws.cube.vector (since.count (.next name) : Nat)) else .ended) := by
  have hfresh : ((ws.moveAll earlier).1.move (.start name)).1.walk name = ws.cube.walkAfter 0 := by
    rw [move, walk_put, if_pos rfl, cube_moveAll, walkAfter, Nat.zero_min]
    rfl
  have hdue := (move_next (walk_moveAll hstart hfresh)).2
  rw [Nat.zero_add] at hdue
  rw [moveAll_append, List.getElem?_append_right (by rw [length_moveAll]; omega), length_moveAll,
    Nat.add_assoc, Nat.add_sub_cancel_left, Nat.add_comm 1, moveAll, List.getElem?_cons_succ,
    moveAll_append, List.getElem?_append_right (by rw [length_moveAll]), length_moveAll,
    Nat.sub_self, moveAll, List.getElem?_cons_zero]
  exact congrArg some hdue

end Walks

/-! ### The listing as a whole -/

/-- A cube lists every vector of its width once and in order, and so does each walk through it,
whatever is done with other walks in between. -/
structure Enumerated (c : Cube) : Prop where
  count_eq : c.count = 2 ^ c.width
  length_vectors : c.vectors.length = 2 ^ c.width
  length_of_mem : ∀ bs ∈ c.vectors, bs.length = c.width
  listed_once : ∀ bs : List Bool, bs.length = c.width → c.vectors.count bs = 1
  increasing : c.vectors.Pairwise (· < ·)
  /-- The vector at a place, read as a binary number, is the place. -/
  number_eq : ∀ (k : Nat) (bs : List Bool), c.vectors[k]? = some bs → number bs = k
  /-- The vector of a counter encodes its remainder. -/
  vector_iff : ∀ (counter : Int) (bs : List Bool), c.vector counter = bs ↔
    bs.length = c.width ∧ (number bs : Int) = counter % 2 ^ c.width
  /-- On a walk the vectors come in order, and then the end, however often it is asked for. -/
  reply_eq : ∀ (earlier since later : List Move) (name : String), .start name ∉ since →
    (c.walks.moveAll (earlier ++ .start name :: (since ++ .next name :: later))).2[
        earlier.length + 1 + since.length]? =
      some (if since.count (.next name) < c.count
        then .vector (c.vector (since.count (.next name) : Nat)) else .ended)

/-- **A cube of positive width is enumerated.** -/
theorem enumerated_of_ofWidth {width : Int} (h : 1 ≤ width) :
    ∃ c, ofWidth width = .ok c ∧ (c.width : Int) = width ∧ c.Enumerated := by
  have hwidth : (width.toNat : Int) = width := Int.toNat_of_nonneg (by omega)
  have hpos : 0 < width.toNat := by omega
  have hcount : count ⟨width.toNat⟩ = 2 ^ width.toNat := count_of_pos hpos
  refine ⟨⟨width.toNat⟩, if_neg (by omega), hwidth, ?_⟩
  exact {
    count_eq := hcount
    length_vectors := (Cube.length_vectors _).trans hcount
    length_of_mem := fun bs => length_of_mem_vectors
    listed_once := fun bs => count_vectors hpos
    increasing := vectors_increasing hpos
    number_eq := fun k bs hk => ((getElem?_vectors_eq_some_iff hpos).mp hk).2
    vector_iff := fun counter bs => eq_comm.trans eq_vector_iff
    reply_eq := fun earlier since later name hstart => Walks.reply_next hstart }

/-- The cube of width 70: a counter below zero, and a walk with another one between its moves. -/
theorem enumerated_of_ofWidth_seventy : (1 : Int) ≤ 70 ∧ ∃ c, ofWidth 70 = .ok c ∧
    c.Enumerated ∧ c.vector (-1) = List.replicate 70 true ∧
    (c.walks.moveAll [.start "left", .next "left", .start "right", .next "right",
      .next "left"]).2[4]? = some (.vector (List.replicate 69 false ++ [true])) := by
  obtain ⟨c, hc, hwidth, henum⟩ := enumerated_of_ofWidth (show (1 : Int) ≤ 70 by decide)
  have h70 : c.width = 70 := by exact_mod_cast hwidth
  have hlast : c.vector (-1) = List.replicate 70 true := by
    refine (henum.vector_iff (-1) _).mpr ?_
    rw [h70]
    decide
  have hone : c.vector 1 = List.replicate 69 false ++ [true] := by
    refine (henum.vector_iff 1 _).mpr ?_
    rw [h70]
    decide
  refine ⟨by decide, c, hc, henum, hlast, ?_⟩
  have hreply := henum.reply_eq [] [.next "left", .start "right", .next "right"] [] "left"
    (by decide)
  have hdue : 1 < c.count := by
    rw [henum.count_eq, h70]
    decide
  exact hreply.trans (congrArg some ((if_pos hdue).trans (congrArg Reply.vector hone)))

end Cube

end TruthTables
