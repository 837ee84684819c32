import ByteMachine.Proofs.Cuts

/-!
# Texts one behind the other

Two texts with a newline between them say what they say apart, one behind the other. The lines of
the second have numbers that are higher by the number of newlines in front of it, which is not the
number of the lines of the first if that ends with a newline or is empty: there is a line then
behind its last newline that reads as blank. Line ends are not read, so it makes no difference
whether lines are cut at newlines or taken without their ends.
-/

namespace ByteMachine

/-- The diagnostic of the same line with other lines in front of it. -/
def Diagnostic.below (diagnostic : Diagnostic) (count : Nat) : Diagnostic :=
  { diagnostic with line := diagnostic.line + count }

namespace Source

/-! ## Lines without their ends -/

/-- A line without its end, which is a newline or a carriage return and a newline. -/
def withoutEnd (line : List Char) : List Char :=
  if line.getLast? = some '\n' then
    if line.dropLast.getLast? = some '\r' then line.dropLast.dropLast else line.dropLast
  else
    line

/-- The lines of a text, without their ends. What stands behind the last newline is a line only if
there is something. -/
def lines (text : List Char) : List (List Char) :=
  (cutLines text).map withoutEnd

theorem reading_dropLast {c : Char} (blank : isBlank c) {line : List Char}
    (last : line.getLast? = some c) : reading line.dropLast = reading line := by
  obtain ⟨rest, rfl⟩ := List.getLast?_eq_some_iff.mp last
  rw [List.dropLast_concat, reading_append_blank blank]

theorem reading_withoutEnd (line : List Char) : reading (withoutEnd line) = reading line := by
  unfold withoutEnd
  split
  · next newline =>
    have ended := reading_dropLast (by decide) newline
    split
    · next returned => rw [reading_dropLast (by decide) returned, ended]
    · exact ended
  · rfl

/-- A text reads as its lines without their ends. -/
theorem read_eq_ofLines_lines (text : List Char) : read text = ofLines (lines text) := by
  have same : (lines text).map reading = (cutLines text).map reading := by
    rw [lines, List.map_map]
    exact List.map_congr_left fun line _ => reading_withoutEnd line
  rw [read_eq_ofLines, ofLines_eq, ofLines_eq, same]

/-! ## Lines behind other lines -/

theorem ofLines_append (first second : List (List Char)) :
    ofLines (first ++ second) = {
      words := (ofLines first).words ++ (ofLines second).words
      diagnostics := (ofLines first).diagnostics ++
        (ofLines second).diagnostics.map (·.below first.length) } := by
  have numbers : second.zipIdx (1 + first.length) =
      (second.zipIdx 1).map (Prod.map id (· + first.length)) := by
    rw [List.map_snd_add_zipIdx_eq_zipIdx, Nat.add_comm]
  simp only [ofLines, List.filterMap_append, List.zipIdx_append, numbers, List.filterMap_map,
    List.map_filterMap, Option.map_map]
  rfl

theorem length_splitOn_newline (text : List Char) :
    (text.splitOn '\n').length = 1 + text.count '\n' := by
  induction text with
  | nil => rfl
  | cons c text ih =>
    rw [List.splitOn_cons_eq_if_modifyHead, List.count_cons]
    split
    · rw [List.length_cons, ih, Nat.add_assoc]
    · rw [List.length_modifyHead, ih, Nat.add_zero]

/-- A newline between two texts ends the last line of the first one. -/
theorem read_append_newline (a b : List Char) :
    read (a ++ '\n' :: b) = {
      words := (read a).words ++ (read b).words
      diagnostics := (read a).diagnostics ++
        (read b).diagnostics.map (·.below (1 + a.count '\n')) } := by
  rw [read, List.splitOn_append_cons_self, ofLines_append, length_splitOn_newline]
  rfl

/-- Reading a text is reading its lines without their ends, and of two texts with a newline
between them first the one is read and then the other: words and diagnostics of the second come
behind those of the first, the numbers of its lines raised by one and by the number of newlines in
the first. So their words are too many for an image exactly if together they are. -/
theorem read_joined_texts :
    (∀ text, read text = ofLines (lines text)) ∧
    ∀ a b : List Char,
      (read (a ++ '\n' :: b)).words = (read a).words ++ (read b).words ∧
      (read (a ++ '\n' :: b)).diagnostics = (read a).diagnostics ++
        (read b).diagnostics.map (fun diagnostic =>
          { diagnostic with line := diagnostic.line + (1 + a.count '\n') }) ∧
      (∀ len, (read (a ++ '\n' :: b)).image = .error (.tooLarge len) ↔
        len = (read a).words.length + (read b).words.length ∧ memorySize < len) ∧
      ∀ image, (read (a ++ '\n' :: b)).image = .ok image ↔
        image.words = (read a).words ++ (read b).words := by
  refine ⟨read_eq_ofLines_lines, fun a b => ?_⟩
  rw [read_append_newline]
  refine ⟨rfl, rfl, fun len => ?_, fun image => Image.ofWords_eq_ok_iff⟩
  rw [image_eq_error_iff, List.length_append]

example : lines "1\r\n\r\n2\r".toList = ["1".toList, [], "2\r".toList] ∧
    (read ("1\r\n\r".toList ++ '\n' :: "x # 2".toList)).diagnostics = [⟨3, ['x']⟩] := by
  decide

end Source
end ByteMachine
