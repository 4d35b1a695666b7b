/-!
# Splitting — a text cut at one character
-/

namespace CanBus.Text

/-- What stands before and after the first `mark`. -/
def cutFirst (mark : Char) : List Char → Option (List Char × List Char)
  | [] => none
  | c :: cs =>
    if c = mark then some ([], cs)
    else (cutFirst mark cs).map fun (before, rest) => (c :: before, rest)

/-- What stands before and after the last `mark`. -/
def cutLast (mark : Char) (cs : List Char) : Option (List Char × List Char) :=
  (cutFirst mark cs.reverse).map fun (rest, before) => (before.reverse, rest.reverse)

/-- The pieces between the marks, one more than there are marks. -/
def pieces (mark : Char) : List Char → List (List Char)
  | [] => [[]]
  | c :: cs =>
    if c = mark then [] :: pieces mark cs
    else
      match pieces mark cs with
      | [] => [[c]]
      | piece :: rest => (c :: piece) :: rest

theorem cutFirst_eq_some_iff {mark : Char} {cs before rest : List Char} :
    cutFirst mark cs = some (before, rest) ↔ mark ∉ before ∧ cs = before ++ mark :: rest := by
  induction cs generalizing before with
  | nil => simp [cutFirst]
  | cons c cs ih =>
    by_cases hc : c = mark
    · subst hc
      rw [cutFirst, if_pos rfl]
      cases before with
      | nil => simp [eq_comm]
      | cons b before =>
        simp only [Option.some.injEq, Prod.mk.injEq, reduceCtorEq, false_and, List.mem_cons, not_or,
          List.cons_append, List.cons.injEq, false_iff, not_and]
        exact fun h h' => absurd h' h.1
    · rw [cutFirst, if_neg hc]
      cases before with
      | nil =>
        simp only [Option.map_eq_some_iff, Prod.mk.injEq, reduceCtorEq, false_and, and_false, exists_false,
          List.nil_append, List.cons.injEq, false_iff]
        exact fun h => hc h.2.1
      | cons b before =>
        simp only [Option.map_eq_some_iff, Prod.exists, Prod.mk.injEq, List.cons.injEq, List.mem_cons, not_or,
          List.cons_append]
        constructor
        · rintro ⟨before', rest', h, ⟨rfl, rfl⟩, rfl⟩
          obtain ⟨hm, rfl⟩ := ih.1 h
          exact ⟨⟨fun e => hc e.symm, hm⟩, rfl, rfl⟩
        · rintro ⟨⟨-, hm⟩, rfl, rfl⟩
          exact ⟨before, rest, ih.2 ⟨hm, rfl⟩, ⟨rfl, rfl⟩, rfl⟩

theorem cutFirst_append {mark : Char} {before : List Char} (h : mark ∉ before) (rest : List Char) :
    cutFirst mark (before ++ mark :: rest) = some (before, rest) := cutFirst_eq_some_iff.2 ⟨h, rfl⟩

theorem cutFirst_eq_none_iff {mark : Char} {cs : List Char} : cutFirst mark cs = none ↔ mark ∉ cs := by
  induction cs with
  | nil => simp [cutFirst]
  | cons c cs ih =>
    rw [cutFirst]
    by_cases hc : c = mark
    · simp [hc]
    · simp [hc, ih, Ne.symm hc]

/-- A text is cut at its last mark. -/
theorem cutLast_eq_some_iff {mark : Char} {cs before rest : List Char} :
    cutLast mark cs = some (before, rest) ↔ mark ∉ rest ∧ cs = before ++ mark :: rest := by
  simp only [cutLast, Option.map_eq_some_iff, Prod.exists, Prod.mk.injEq, cutFirst_eq_some_iff]
  constructor
  · rintro ⟨front, back, ⟨hfront, hcs⟩, rfl, rfl⟩
    refine ⟨by simpa using hfront, ?_⟩
    rw [← List.reverse_reverse cs, hcs]
    simp
  · rintro ⟨hrest, rfl⟩
    exact ⟨rest.reverse, before.reverse, ⟨by simpa using hrest, by simp⟩, by simp, by simp⟩

theorem cutLast_append {mark : Char} {rest : List Char} (h : mark ∉ rest) (before : List Char) :
    cutLast mark (before ++ mark :: rest) = some (before, rest) := cutLast_eq_some_iff.2 ⟨h, rfl⟩

theorem cutLast_eq_none_iff {mark : Char} {cs : List Char} : cutLast mark cs = none ↔ mark ∉ cs := by
  simp [cutLast, cutFirst_eq_none_iff]

/-- The first mark ends the first piece. -/
theorem pieces_line {mark : Char} {piece : List Char} (h : mark ∉ piece) (rest : List Char) :
    pieces mark (piece ++ mark :: rest) = piece :: pieces mark rest := by
  induction piece with
  | nil => rw [List.nil_append, pieces, if_pos rfl]
  | cons c piece ih =>
    rw [List.mem_cons, not_or] at h
    rw [List.cons_append, pieces, if_neg (Ne.symm h.1), ih h.2]

/-- Lines that each end with the mark, and the empty piece behind them. -/
theorem pieces_lines {mark : Char} {lines : List (List Char)} (h : ∀ line ∈ lines, mark ∉ line) :
    pieces mark (lines.flatMap (· ++ [mark])) = lines ++ [[]] := by
  induction lines with
  | nil => rfl
  | cons line lines ih =>
    obtain ⟨hline, hlines⟩ := List.forall_mem_cons.1 h
    rw [List.flatMap_cons, List.append_assoc, List.singleton_append, pieces_line hline, ih hlines, List.cons_append]

end CanBus.Text
