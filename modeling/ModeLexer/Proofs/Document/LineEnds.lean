import Mathlib.Data.List.Induction
import ModeLexer.Document.Basic

/-!
# Where the lines of a text end

Cutting a text at its line feeds gives pieces, of which all but the last stood before a line feed.
`Document.lines_ofText` says what becomes of them: each of the former loses a carriage return at its
end, if it has one, and the last piece is a line as it is, unless it is empty. The splitter reads
the characters one by one and keeps the current line reversed; it is related to the pieces by what
is still to come of the current one (`splitFrom_eq`).

`Document.trimmedLines` is the other reading of "one trailing carriage return per line", in which
the last piece loses its carriage return too. The two differ on the texts that end in one, and on no
others.
-/

namespace ModeLexer.Document

/-! ### Pieces -/

/-- The characters without a carriage return at their end. -/
def dropReturn (piece : List Char) : List Char :=
  if piece.getLast? = some '\r' then piece.dropLast else piece

/-- The last piece as a line, if it is one. -/
def lastLine (piece : List Char) : List (List Char) := if piece = [] then [] else [piece]

/-- The lines of the pieces between line feeds. -/
def linesOfPieces : List (List Char) → List (List Char)
  | [] => []
  | [piece] => lastLine piece
  | piece :: next :: pieces => dropReturn piece :: linesOfPieces (next :: pieces)

theorem linesOfPieces_cons {pieces : List (List Char)} (h : pieces ≠ []) (piece : List Char) :
    linesOfPieces (piece :: pieces) = dropReturn piece :: linesOfPieces pieces := by
  obtain ⟨next, pieces, rfl⟩ := List.exists_cons_of_ne_nil h
  rfl

theorem linesOfPieces_concat (ended : List (List Char)) (rest : List Char) :
    linesOfPieces (ended ++ [rest]) = ended.map dropReturn ++ lastLine rest := by
  induction ended with
  | nil => rfl
  | cons piece ended ih =>
    rw [List.cons_append, linesOfPieces_cons (by simp), ih, List.map_cons, List.cons_append]

theorem closeLine_eq (current : List Char) : closeLine current = dropReturn current.reverse := by
  rw [dropReturn, List.getLast?_reverse]
  cases current with
  | nil => rfl
  | cons c current =>
    by_cases hc : c = '\r'
    · subst hc
      simp [closeLine]
    · rw [closeLine, if_neg (by simpa using hc)]
      rintro _ ⟨rfl⟩
      exact hc rfl

/-- What has been read of a line goes in front of the first piece of what is still to be read. -/
theorem splitFrom_eq {cs piece : List Char} {pieces : List (List Char)} (current : List Char)
    (h : cs.splitOn '\n' = piece :: pieces) :
    splitFrom current cs = linesOfPieces ((current.reverse ++ piece) :: pieces) := by
  induction cs generalizing current piece pieces with
  | nil =>
    obtain ⟨rfl, rfl⟩ := List.cons.inj h
    rw [splitFrom, linesOfPieces, lastLine]
    simp
  | cons c cs ih =>
    obtain ⟨next, rest, hrest⟩ := List.exists_cons_of_ne_nil (List.splitOn_ne_nil '\n' cs)
    rw [List.splitOn_cons_eq_if_modifyHead, hrest] at h
    rw [splitFrom]
    by_cases hc : c = '\n'
    · rw [if_pos (beq_iff_eq.2 hc)] at h
      obtain ⟨rfl, rfl⟩ := List.cons.inj h
      rw [if_pos hc, List.append_nil, linesOfPieces_cons (List.cons_ne_nil _ _), closeLine_eq,
        ih [] hrest, List.reverse_nil, List.nil_append]
    · rw [if_neg (by simpa using hc), List.modifyHead_cons] at h
      obtain ⟨rfl, rfl⟩ := List.cons.inj h
      rw [if_neg hc, ih (c :: current) hrest, List.reverse_cons, List.append_assoc,
        List.singleton_append]

theorem splitLines_eq (cs : List Char) : splitLines cs = linesOfPieces (cs.splitOn '\n') := by
  obtain ⟨piece, pieces, h⟩ := List.exists_cons_of_ne_nil (List.splitOn_ne_nil '\n' cs)
  rw [splitLines, splitFrom_eq [] h, h, List.reverse_nil, List.nil_append]

/-! ### Carriage returns at the end of a text -/

/-- A text is its pieces with line feeds between them. -/
theorem eq_of_splitOn_eq {cs rest : List Char} {ended : List (List Char)}
    (h : cs.splitOn '\n' = ended ++ [rest]) : cs = ended.flatMap (· ++ ['\n']) ++ rest := by
  have hcs : ['\n'].intercalate (cs.splitOn '\n') = cs := List.intercalate_splitOn '\n'
  rw [← hcs, h]
  clear h hcs
  induction ended with
  | nil => simp
  | cons piece ended ih =>
    rw [List.cons_append, List.intercalate_cons_of_ne_nil (by simp), ih, List.flatMap_cons]
    simp

/-- A text ends in a carriage return if its last piece does. -/
theorem getLast?_eq_return_iff {cs rest : List Char} {ended : List (List Char)}
    (h : cs.splitOn '\n' = ended ++ [rest]) :
    cs.getLast? = some '\r' ↔ rest.getLast? = some '\r' := by
  rw [eq_of_splitOn_eq h, List.getLast?_append]
  cases rest.getLast? with
  | some c => rfl
  | none =>
    -- the last character is a line feed, if there is one
    cases ended using List.reverseRecOn with
    | nil => rfl
    | append_singleton ended piece =>
      rw [List.flatMap_append, List.flatMap_singleton, ← List.append_assoc, List.getLast?_concat]
      simp

theorem dropReturn_eq_self_iff {piece : List Char} :
    dropReturn piece = piece ↔ piece.getLast? ≠ some '\r' := by
  unfold dropReturn
  split
  · next hlast =>
    refine iff_of_false (fun heq ↦ ?_) (not_not_intro hlast)
    have hpos : 0 < piece.length := List.length_pos_iff.2 fun hnil ↦ by simp [hnil] at hlast
    have hlength := congrArg List.length heq
    rw [List.length_dropLast] at hlength
    omega
  · next hlast => exact iff_of_true rfl hlast

/-- The lines of a text if every piece between its line feeds loses a carriage return at its end; an
empty piece behind the last line feed is no line. -/
def trimmedLines (text : String) : List String :=
  let pieces := text.toList.splitOn '\n'
  let kept := if pieces.getLast? = some [] then pieces.dropLast else pieces
  kept.map fun piece ↦ String.ofList (dropReturn piece)

theorem trimmedLines_eq {text : String} {ended : List (List Char)} {rest : List Char}
    (h : text.toList.splitOn '\n' = ended ++ [rest]) :
    trimmedLines text = ((ended ++ lastLine rest).map dropReturn).map String.ofList := by
  have hkept : (if (ended ++ [rest]).getLast? = some [] then (ended ++ [rest]).dropLast
      else ended ++ [rest]) = ended ++ lastLine rest := by
    rw [List.getLast?_concat, List.dropLast_concat, lastLine]
    by_cases hrest : rest = [] <;> simp [hrest]
  rw [trimmedLines, h]
  simp only [hkept, List.map_map, Function.comp_def]

/-! ### The lines of a text -/

/-- **Line ends.** The pieces that stand before a line feed are lines without a carriage return at
their end, and the last piece is a line as it is, unless it is empty. So every piece is treated
alike exactly if the text does not end in a carriage return. -/
theorem lines_ofText (text : String) :
    (∃ ended rest, text.toList.splitOn '\n' = ended ++ [rest] ∧
        (ofText text).lines = (ended.map dropReturn ++ lastLine rest).map String.ofList) ∧
      ((ofText text).lines = trimmedLines text ↔ text.toList.getLast? ≠ some '\r') := by
  obtain ⟨ended, rest, h⟩ : ∃ ended rest, text.toList.splitOn '\n' = ended ++ [rest] :=
    ⟨_, _, (List.dropLast_concat_getLast (List.splitOn_ne_nil '\n' text.toList)).symm⟩
  have hlines : (ofText text).lines =
      (ended.map dropReturn ++ lastLine rest).map String.ofList := by
    rw [ofText, splitLines_eq, h, linesOfPieces_concat]
  refine ⟨⟨ended, rest, h, hlines⟩, ?_⟩
  have hlast : lastLine rest = (lastLine rest).map dropReturn ↔ rest.getLast? ≠ some '\r' := by
    rw [lastLine]
    by_cases hrest : rest = []
    · simp [hrest]
    · simp only [hrest, if_false, List.map_cons, List.map_nil, List.cons.injEq, and_true]
      rw [eq_comm, dropReturn_eq_self_iff]
  rw [hlines, trimmedLines_eq h, List.map_append (f := dropReturn),
    List.map_inj_right fun _ _ ↦ String.ofList_injective, List.append_right_inj, hlast, Ne, Ne,
    getLast?_eq_return_iff h]

/-- A carriage return at the end of a text is part of its last line. -/
theorem ofText_keeps_last_return :
    (ofText "a\r").lines = ["a\r"] ∧ trimmedLines "a\r" = ["a"] ∧
      (ofText "a\r").lines ≠ trimmedLines "a\r" := by
  decide

end ModeLexer.Document
