import ByteMachine.Proofs.Grammar

/-!
# Cutting a text behind its newlines

A text can be cut into pieces that keep the newlines that end them, so that pieces can be taken
out and the others be put together again. A newline that ends a line is a blank like any other.
So the pieces read as the lines, and what stands behind the last newline reads as blank if there
is nothing.
-/

namespace ByteMachine.Source

/-- The lines of a text, each with the newline that ends it. -/
def cutLines : List Char → List (List Char)
  | [] => []
  | c :: text =>
      if c = '\n' then [c] :: cutLines text
      else match cutLines text with
        | [] => [[c]]
        | line :: lines => (c :: line) :: lines

/-- Each piece but perhaps the last has its newline, at its end and nowhere else. -/
inductive IsCut : List (List Char) → Prop
  | nil : IsCut []
  | last (line : List Char) : line ≠ [] → '\n' ∉ line → IsCut [line]
  | cons (line : List Char) {lines : List (List Char)} :
      '\n' ∉ line → IsCut lines → IsCut ((line ++ ['\n']) :: lines)

variable {line text : List Char} {lines : List (List Char)}

/-! ## There is one cut of each text -/

theorem isCut_cutLines (text : List Char) : IsCut (cutLines text) := by
  fun_induction cutLines text with
  | case1 => exact .nil
  | case2 text ih => exact .cons [] nofun ih
  | case3 c text other cut ih => exact .last [c] nofun (by grind)
  | case4 c text other line lines cut ih =>
    rw [cut] at ih
    cases ih with
    | last _ filled plain => exact .last _ nofun (by grind)
    | cons line plain rest => exact .cons (c :: line) (by grind) rest

theorem flatten_cutLines (text : List Char) : (cutLines text).flatten = text := by
  fun_induction cutLines text <;> grind

theorem cutLines_of_not_mem (filled : line ≠ []) (plain : '\n' ∉ line) :
    cutLines line = [line] := by
  induction line with
  | nil => exact absurd rfl filled
  | cons c line ih =>
    rw [List.mem_cons, not_or] at plain
    obtain ⟨other, plain⟩ := plain
    cases line with
    | nil => simp [cutLines, Ne.symm other]
    | cons d line => rw [cutLines, if_neg (Ne.symm other), ih nofun plain]

theorem cutLines_append (plain : '\n' ∉ line) (text : List Char) :
    cutLines (line ++ '\n' :: text) = (line ++ ['\n']) :: cutLines text := by
  induction line with
  | nil => rfl
  | cons c line ih =>
    rw [List.mem_cons, not_or] at plain
    obtain ⟨other, plain⟩ := plain
    rw [List.cons_append, cutLines, if_neg (Ne.symm other), ih plain]
    rfl

theorem cutLines_eq_iff : cutLines text = lines ↔ IsCut lines ∧ lines.flatten = text := by
  constructor
  · rintro rfl
    exact ⟨isCut_cutLines text, flatten_cutLines text⟩
  · rintro ⟨cut, rfl⟩
    induction cut with
    | nil => rfl
    | last line filled plain => simpa using cutLines_of_not_mem filled plain
    | cons line plain rest ih => simp [cutLines_append plain, ih]

/-- Pieces that are taken out leave pieces of what is left. -/
theorem IsCut.sublist (h : IsCut lines) {kept : List (List Char)} (sub : kept.Sublist lines) :
    IsCut kept := by
  induction h generalizing kept with
  | nil =>
    obtain rfl := List.sublist_nil.mp sub
    exact .nil
  | last line filled plain =>
    obtain rfl | rfl := List.sublist_singleton.mp sub
    · exact .nil
    · exact .last line filled plain
  | cons line plain rest ih =>
    obtain without | ⟨others, rfl, among⟩ := List.sublist_cons_iff.mp sub
    · exact ih without
    · exact .cons line plain (ih among)

/-! ## Pieces read as lines -/

theorem firstToken_append {c : Char} (blank : isBlank c) (part : List Char) :
    ((part ++ [c]).dropWhile isBlank).takeWhile (!isBlank ·) =
      (part.dropWhile isBlank).takeWhile (!isBlank ·) := by
  rw [List.dropWhile_append]
  split
  · next blanks => simp [List.isEmpty_iff.mp blanks, blank]
  · rw [List.takeWhile_append]
    split
    · next whole =>
      have whole := (List.takeWhile_prefix (!isBlank ·)).eq_of_length whole
      simp [whole, blank]
    · rfl

theorem ne_hash_of_isBlank {c : Char} (blank : isBlank c) : c ≠ '#' := by
  rintro rfl
  exact absurd blank (by decide)

/-- A blank behind a line, or behind its comment, is not read. -/
theorem token_append_blank {c : Char} (blank : isBlank c) (line : List Char) :
    token (line ++ [c]) = token line := by
  unfold token code
  rw [List.takeWhile_append]
  split
  · next whole =>
    have whole := (List.takeWhile_prefix (· ≠ '#')).eq_of_length whole
    have plain := ne_hash_of_isBlank blank
    rw [whole, List.takeWhile_cons_of_pos (by simpa using plain), List.takeWhile_nil]
    exact firstToken_append blank line
  · rfl

theorem reading_append_blank {c : Char} (blank : isBlank c) (line : List Char) :
    reading (line ++ [c]) = reading line := by
  rw [reading, token_append_blank blank, reading]

theorem IsCut.map_reading (h : IsCut lines) :
    ∃ tail, (tail = [] ∨ tail = [.blank]) ∧
      (lines.flatten.splitOn '\n').map reading = lines.map reading ++ tail := by
  induction h with
  | nil => exact ⟨[.blank], .inr rfl, rfl⟩
  | last line filled plain =>
    refine ⟨[], .inl rfl, ?_⟩
    simp [List.splitOn_eq_singleton plain]
  | cons line plain rest ih =>
    obtain ⟨tail, shape, same⟩ := ih
    refine ⟨tail, shape, ?_⟩
    have ended := reading_append_blank (c := '\n') (by decide) line
    simp [List.splitOn_append_cons_self_of_not_mem plain, same, ended]

/-- A text reads as its pieces. -/
theorem IsCut.read_eq (h : IsCut lines) : read lines.flatten = ofLines lines := by
  obtain ⟨tail, shape, same⟩ := h.map_reading
  rw [read, ofLines_eq, ofLines_eq, same]
  obtain rfl | rfl := shape
  · rw [List.append_nil]
  · simp [List.zipIdx_append, Reading.word?, Reading.invalid?]

theorem read_eq_ofLines (text : List Char) : read text = ofLines (cutLines text) := by
  rw [← (isCut_cutLines text).read_eq, flatten_cutLines]

end ByteMachine.Source
