import Mathlib.Data.List.TakeDrop
import Mathlib.Data.List.TakeWhile
import ByteMachine.Tagging.Lexer

/-!
# What texts spell

A text spells tokens if it is their spellings one behind the other, groups of tokens between
their delimiters, with any blanks and comments before, between and behind them. Reading a text
gives exactly the tokens that it spells, so blanks and comments are free. What one step of the
reader does is said once, and the rest is about steps.
-/

namespace ByteMachine.Tagging

/-! ### Blanks and comments -/

/-- What stands between the opening and the closing marks of a comment. Comments in it close
before it does, and its last character does not make a mark with the closing ones. -/
inductive Comment : List Char → Prop
  | nil : Comment []
  | nest {inner rest : List Char} (first : Comment inner) (more : Comment rest) :
      Comment ('/' :: '*' :: (inner ++ '*' :: '/' :: rest))
  | char {c : Char} {rest : List Char}
      (notClosing : c = '*' → (rest ++ ['*']).head? ≠ some '/')
      (notOpening : c = '/' → (rest ++ ['*']).head? ≠ some '*') (more : Comment rest) :
      Comment (c :: rest)

/-- Whether a line behind `//` documents an item, and so is no comment. -/
def DocumentsLine : List Char → Prop
  | '!' :: _ => True
  | ['/'] => True
  | '/' :: c :: _ => c ≠ '/'
  | _ => False

/-- Whether what stands between `/*` and its end documents an item. -/
def DocumentsBlock : List Char → Prop
  | '!' :: _ => True
  | '*' :: c :: _ => c ≠ '*'
  | _ => False

/-- The first text is the second with a blank or a comment in front. -/
inductive Gap : List Char → List Char → Prop
  | blank {c : Char} {rest : List Char} (h : Lexeme.isSpace c) : Gap (c :: rest) rest
  | line {line rest : List Char} (within : '\n' ∉ line) (ends : ∀ c ∈ rest.head?, c = '\n')
      (plain : ¬ DocumentsLine line) : Gap ('/' :: '/' :: (line ++ rest)) rest
  | block {body rest : List Char} (h : Comment body) (plain : ¬ DocumentsBlock body) :
      Gap ('/' :: '*' :: (body ++ '*' :: '/' :: rest)) rest

theorem Gap.length_lt {text rest : List Char} (h : Gap text rest) :
    rest.length < text.length := by
  cases h <;> simp <;> omega

/-! ### Steps of the reader -/

/-- What one step of the reader can do: skip a gap, read tokens, or read one end of a group. -/
inductive IsStep : List Char → List Lexeme → List Char → Prop
  | gap {text rest : List Char} (h : Gap text rest) : IsStep text [] rest
  | tokens {text rest : List Char} {tokens : List Token} (nonempty : tokens ≠ [])
      (shorter : rest.length < text.length) : IsStep text (tokens.map .token) rest
  | opening (delimiter : Delimiter) (rest : List Char) :
      IsStep (delimiter.opening :: rest) [.opening delimiter] rest
  | closing (delimiter : Delimiter) (rest : List Char) :
      IsStep (delimiter.closing :: rest) [.closing delimiter] rest

theorem IsStep.length_lt {text rest : List Char} {lexemes : List Lexeme}
    (h : IsStep text lexemes rest) : rest.length < text.length := by
  cases h with
  | gap h => exact h.length_lt
  | tokens _ shorter => exact shorter
  | opening | closing => exact Nat.lt_succ_self _

theorem isStep_tokens {text rest : List Char} (row : List Token) (nonempty : row ≠ [])
    (shorter : rest.length < text.length) : IsStep text (row.map .token) rest :=
  .tokens nonempty shorter

theorem isStep_token {text rest : List Char} (token : Token)
    (shorter : rest.length < text.length) : IsStep text [.token token] rest :=
  isStep_tokens [token] (by simp) shorter

namespace Lexeme

/-! ### Comments -/

theorem splitComment_char {c : Char} {rest : List Char}
    (notClosing : c = '*' → rest.head? ≠ some '/') (notOpening : c = '/' → rest.head? ≠ some '*')
    (depth : Nat) :
    splitComment depth (c :: rest) =
      (splitComment depth rest).map fun (body, rest) => (c :: body, rest) := by
  rw [splitComment]
  · rintro rest' rfl rfl
    exact notOpening rfl rfl
  · rintro rest' rfl rfl rfl
    exact notClosing rfl rfl
  · rintro depth' rest' rfl rfl rfl
    exact notClosing rfl rfl

theorem head?_append_closing (body rest : List Char) :
    (body ++ '*' :: '/' :: rest).head? = (body ++ ['*']).head? := by
  cases body <;> rfl

/-- A comment is passed over, whatever it is a comment in. -/
theorem splitComment_append {body : List Char} (h : Comment body) (depth : Nat)
    (rest : List Char) :
    splitComment depth (body ++ '*' :: '/' :: rest) =
      (splitComment depth ('*' :: '/' :: rest)).map fun (more, rest) => (body ++ more, rest) := by
  induction h generalizing depth rest with
  | nil => simp
  | @nest inner more _ _ ihInner ihMore =>
    have split : '/' :: '*' :: (inner ++ '*' :: '/' :: more) ++ '*' :: '/' :: rest =
        '/' :: '*' :: (inner ++ '*' :: '/' :: (more ++ '*' :: '/' :: rest)) := by simp
    rw [split, splitComment, ihInner, splitComment, ihMore]
    simp [Option.map_map, Function.comp_def]
  | @char c more notClosing notOpening _ ih =>
    rw [← head?_append_closing more rest] at notClosing notOpening
    rw [List.cons_append, splitComment_char notClosing notOpening, ih]
    simp [Option.map_map, Function.comp_def]

/-- What is read of a comment in others is a comment, and the rest of the outer ones. -/
theorem comment_of_splitComment {depth : Nat} {text read rest : List Char}
    (h : splitComment depth text = some (read, rest)) :
    ∃ body more behind, Comment body ∧ text = body ++ '*' :: '/' :: behind ∧
      read = body ++ more ∧ splitComment depth ('*' :: '/' :: behind) = some (more, rest) := by
  induction hn : text.length using Nat.strongRecOn generalizing depth text read rest with
  | _ n ih =>
    subst hn
    cases text with
    | nil => simp [splitComment] at h
    | cons c text =>
      by_cases closing : c = '*' ∧ text.head? = some '/'
      · obtain ⟨rfl, head⟩ := closing
        obtain ⟨behind, rfl⟩ := List.head?_eq_some_iff.mp head
        exact ⟨[], read, behind, .nil, rfl, rfl, h⟩
      by_cases opening : c = '/' ∧ text.head? = some '*'
      · -- the inner comment, then what is left of this one
        obtain ⟨rfl, head⟩ := opening
        obtain ⟨text, rfl⟩ := List.head?_eq_some_iff.mp head
        rw [splitComment] at h
        obtain ⟨⟨read, rest⟩, inside, ⟨⟩⟩ := Option.map_eq_some_iff.mp h
        obtain ⟨first, more, mid, comment, rfl, rfl, outside⟩ :=
          ih _ (by simp only [List.length_cons]; omega) inside rfl
        rw [splitComment] at outside
        obtain ⟨⟨more, rest⟩, outside, ⟨⟩⟩ := Option.map_eq_some_iff.mp outside
        obtain ⟨second, more, behind, comment', rfl, rfl, after⟩ :=
          ih _ (by simp only [List.length_cons, List.length_append]; omega) outside rfl
        exact ⟨'/' :: '*' :: (first ++ '*' :: '/' :: second), more, behind,
          .nest comment comment', by simp, by simp, after⟩
      · have notClosing : c = '*' → text.head? ≠ some '/' := fun same head => closing ⟨same, head⟩
        have notOpening : c = '/' → text.head? ≠ some '*' := fun same head => opening ⟨same, head⟩
        rw [splitComment_char notClosing notOpening] at h
        obtain ⟨⟨read, rest⟩, inside, ⟨⟩⟩ := Option.map_eq_some_iff.mp h
        obtain ⟨body, more, behind, comment, rfl, rfl, after⟩ := ih _ (by simp) inside rfl
        rw [head?_append_closing] at notClosing notOpening
        exact ⟨c :: body, more, behind, .char notClosing notOpening comment, rfl, rfl, after⟩

theorem comment_of_splitComment_zero {text body rest : List Char}
    (h : splitComment 0 text = some (body, rest)) :
    Comment body ∧ text = body ++ '*' :: '/' :: rest := by
  obtain ⟨body, more, behind, comment, rfl, rfl, after⟩ := comment_of_splitComment h
  rw [splitComment] at after
  obtain ⟨rfl, rfl⟩ := Prod.mk.inj (Option.some.inj after)
  rw [List.append_nil]
  exact ⟨comment, rfl⟩

/-! ### What is left is shorter -/

theorem length_span_le (p : Char → Bool) (text : List Char) :
    (text.span p).2.length ≤ text.length := by
  rw [List.span_eq_takeWhile_dropWhile]
  exact (List.dropWhile_suffix p).length_le

theorem length_span_lt {p : Char → Bool} {c : Char} {rest : List Char} (h : p c) :
    ((c :: rest).span p).2.length < (c :: rest).length := by
  rw [List.span_eq_takeWhile_dropWhile, List.dropWhile_cons_of_pos h]
  exact Nat.lt_succ_of_le (List.dropWhile_suffix p).length_le

theorem length_splitQuoted {quote : Char} {text body rest : List Char}
    (h : splitQuoted quote text = some (body, rest)) : rest.length < text.length := by
  fun_induction splitQuoted quote text generalizing body rest <;> grind [Option.map_eq_some_iff]

theorem length_splitRaw {hashes : Nat} {text body rest : List Char}
    (h : splitRaw hashes text = some (body, rest)) : rest.length < text.length := by
  fun_induction splitRaw hashes text generalizing body rest <;> grind [Option.map_eq_some_iff]

theorem length_splitExponent {signed seen : Bool} {text body rest : List Char}
    (h : splitExponent signed seen text = some (body, rest)) : rest.length ≤ text.length := by
  fun_induction splitExponent signed seen text generalizing body rest <;>
    grind [Option.map_eq_some_iff]

theorem length_splitScale (text : List Char) :
    (splitScale text).2.length ≤ text.length ∧
      ((splitScale text).1 ≠ [] → (splitScale text).2.length < text.length) := by
  fun_cases splitScale text <;> grind [→ length_splitExponent]

theorem length_splitDigits {base : Nat} {seen : Bool} {text body rest : List Char}
    (h : splitDigits base seen text = some (body, rest)) :
    rest.length ≤ text.length ∧ (seen = false → rest.length < text.length) := by
  fun_induction splitDigits base seen text generalizing body rest <;> grind [Option.map_eq_some_iff]

theorem length_splitDecimal {text body rest : List Char}
    (h : splitDecimal text = some (body, rest)) : rest.length < text.length := by
  have whole := length_span_le isDecimalPart text
  simp only [splitDecimal] at h
  split at h
  next after point =>
    split at h
    · cases h
    · obtain ⟨rfl, rfl⟩ := Prod.mk.inj (Option.some.inj h)
      have fraction := length_span_le isDecimalPart after
      have scale := (length_splitScale (after.span isDecimalPart).2).1
      rw [point, List.length_cons] at whole
      omega
  next =>
    split at h
    · cases h
    next scale behind notEmpty found =>
      obtain ⟨-, rfl⟩ := Prod.mk.inj (Option.some.inj h)
      have shorter := (length_splitScale (text.span isDecimalPart).2).2
      rw [found] at shorter
      exact Nat.lt_of_lt_of_le (shorter notEmpty) whole

theorem length_splitInteger {text body rest : List Char}
    (h : splitInteger text = some (body, rest)) : rest.length < text.length := by
  unfold splitInteger splitInteger.sign at h
  split at h <;> grind [Option.map_eq_some_iff, → length_splitDigits]

theorem length_splitSuffix (text : List Char) : (splitSuffix text).2.length ≤ text.length := by
  fun_cases splitSuffix text
  · exact length_span_le isWordPart text
  · exact Nat.le_refl _

/-! ### Tokens -/

theorem isStep_suffixed {body text rest : List Char} (h : rest.length < text.length) :
    IsStep text (suffixed body rest).1 (suffixed body rest).2 :=
  isStep_token _ (Nat.lt_of_le_of_lt (length_splitSuffix rest) h)

theorem isStep_of_quotation {start : String} {quote : Char} {text rest : List Char}
    {lexemes : List Lexeme} (front : List Char)
    (h : quotation start quote text = some (lexemes, rest)) :
    IsStep (front ++ text) lexemes rest := by
  obtain ⟨⟨body, behind⟩, found, same⟩ := Option.map_eq_some_iff.mp h
  obtain ⟨rfl, rfl⟩ := Prod.mk.inj same
  have := length_splitQuoted found
  exact isStep_suffixed (by simp; omega)

theorem isStep_of_raw {start : String} {text rest : List Char} {lexemes : List Lexeme}
    (front : List Char) (h : raw start text = some (lexemes, rest)) :
    IsStep (front ++ text) lexemes rest := by
  have hashes := length_span_le (· = '#') text
  simp only [raw] at h
  split at h
  next quoted opens =>
    obtain ⟨⟨body, behind⟩, found, same⟩ := Option.map_eq_some_iff.mp h
    obtain ⟨rfl, rfl⟩ := Prod.mk.inj same
    have := length_splitRaw found
    rw [opens] at hashes
    exact isStep_suffixed (by simp at hashes ⊢; omega)
  next => cases h

theorem isStep_of_number {text rest : List Char} {lexemes : List Lexeme}
    (h : number text = some (lexemes, rest)) : IsStep text lexemes rest := by
  obtain ⟨⟨body, behind⟩, found, h⟩ := Option.bind_eq_some_iff.mp h
  have shorter : behind.length < text.length := by
    rw [Option.orElse_eq_orElse, Option.orElse_eq_or, Option.or_eq_some_iff] at found
    rcases found with decimal | ⟨-, integer⟩
    · exact length_splitDecimal decimal
    · exact length_splitInteger integer
  dsimp only at h
  split at h
  · cases h
  · obtain ⟨rfl, rfl⟩ := Prod.mk.inj (Option.some.inj h)
    exact isStep_suffixed shorter

theorem isStep_word (start : String) {c : Char} (rest front : List Char) (h : isWordPart c) :
    IsStep (front ++ c :: rest) (word start (c :: rest)).1 (word start (c :: rest)).2 := by
  have shorter : ((c :: rest).span isWordPart).2.length < (c :: rest).length := length_span_lt h
  exact isStep_token _ (Nat.lt_of_lt_of_le shorter (by simp))

theorem isStep_lifetime (start : String) (text : List Char) (front : List Char)
    (nonempty : front ≠ []) :
    IsStep (front ++ text) (lifetime start text).1 (lifetime start text).2 := by
  have shorter := length_span_le isWordPart text
  have := List.length_pos_iff.mpr nonempty
  exact isStep_token _ (Nat.lt_of_le_of_lt shorter (by simp; omega))

theorem isStep_documentation (inner : Bool) (body : List Char) {text rest : List Char}
    (h : rest.length < text.length) : IsStep text (documentation inner body) rest := by
  cases inner with
  | false =>
    exact isStep_tokens [.mark '#' false, .group .bracket
      [.word "doc", .mark '=' false, stringLiteral (String.ofList body)]] (by simp) h
  | true =>
    exact isStep_tokens [.mark '#' false, .mark '!' false, .group .bracket
      [.word "doc", .mark '=' false, stringLiteral (String.ofList body)]] (by simp) h

theorem isStep_of_afterQuote {text rest : List Char} {lexemes : List Lexeme}
    (h : afterQuote text = some (lexemes, rest)) : IsStep ('\'' :: text) lexemes rest := by
  unfold afterQuote at h
  split at h
  · exact isStep_of_quotation ['\''] h
  · cases h
    exact isStep_suffixed (by simp; omega)
  · split at h
    · cases h
      exact isStep_lifetime _ _ ['\'', 'r', '#'] (by simp)
    · cases h
  · split at h
    · cases h
      exact isStep_lifetime _ _ ['\''] (by simp)
    · cases h
  · cases h

/-! ### Lines -/

theorem splitLine_eq {text line rest : List Char} (h : splitLine text = (line, rest)) :
    text = line ++ rest ∧ '\n' ∉ line ∧ ∀ c ∈ rest.head?, c = '\n' := by
  rw [splitLine, List.span_eq_takeWhile_dropWhile] at h
  obtain ⟨rfl, rfl⟩ := Prod.mk.inj h
  refine ⟨List.takeWhile_append_dropWhile.symm, fun found => ?_, fun c head => ?_⟩
  · simpa using List.mem_takeWhile_imp found
  · have stop := List.head?_dropWhile_not (· ≠ '\n') text
    rw [head] at stop
    simpa using stop

theorem splitLine_append {line rest : List Char} (within : '\n' ∉ line)
    (ends : ∀ c ∈ rest.head?, c = '\n') : splitLine (line ++ rest) = (line, rest) := by
  have inLine : ∀ c ∈ line, decide (c ≠ '\n') = true := by
    rintro c found
    rw [decide_eq_true_iff]
    rintro rfl
    exact within found
  rw [splitLine, List.span_eq_takeWhile_dropWhile, List.takeWhile_append_of_pos inLine,
    List.dropWhile_append_of_pos inLine]
  cases rest with
  | nil => simp
  | cons c rest => simp [ends c rfl]

/-- What one step of the reader does. -/
theorem isStep_of_next {text rest : List Char} {lexemes : List Lexeme}
    (h : next text = some (lexemes, rest)) : IsStep text lexemes rest := by
  unfold next at h
  split at h
  · cases h
  next behind =>
    -- a line behind `//`
    split at h
    next line after cut =>
    obtain ⟨rfl, within, ends⟩ := splitLine_eq cut
    have shorter : after.length < ('/' :: '/' :: (line ++ after)).length := by simp; omega
    split at h <;> cases h
    · exact isStep_documentation true _ shorter
    · exact isStep_documentation false _ shorter
    next c body =>
      split
      next plain => exact .gap (.line within ends (by simp [DocumentsLine, plain]))
      · exact isStep_documentation false _ shorter
    next notInner notEmpty notOuter =>
      refine .gap (.line within ends ?_)
      unfold DocumentsLine
      split <;> grind
  next behind =>
    -- a comment behind `/*`
    obtain ⟨⟨body, after⟩, found, read⟩ := Option.map_eq_some_iff.mp h
    obtain ⟨comment, rfl⟩ := comment_of_splitComment_zero found
    have shorter : after.length < ('/' :: '*' :: (body ++ '*' :: '/' :: after)).length := by
      simp; omega
    dsimp only at read
    split at read <;> cases read
    · exact isStep_documentation true _ shorter
    next c body =>
      split
      next plain => exact .gap (.block comment (by simp [DocumentsBlock, plain]))
      · exact isStep_documentation false _ shorter
    next notInner notOuter =>
      refine .gap (.block comment ?_)
      unfold DocumentsBlock
      split <;> grind
  · cases h
    exact .opening .parenthesis _
  · cases h
    exact .closing .parenthesis _
  · cases h
    exact .opening .bracket _
  · cases h
    exact .closing .bracket _
  · cases h
    exact .opening .brace _
  · cases h
    exact .closing .brace _
  · exact isStep_of_quotation ['"'] h
  · exact isStep_of_afterQuote h
  · exact isStep_of_quotation ['b', '"'] h
  · exact isStep_of_quotation ['c', '"'] h
  · exact isStep_of_quotation ['b', '\''] h
  · exact isStep_of_raw ['r'] h
  · exact isStep_of_raw ['b', 'r'] h
  · exact isStep_of_raw ['b', 'r'] h
  · exact isStep_of_raw ['c', 'r'] h
  · exact isStep_of_raw ['c', 'r'] h
  · split at h
    next start =>
      cases h
      exact isStep_word "r#" _ ['r', '#'] (by simp [isWordPart, start])
    · exact isStep_of_raw ['r'] h
  next c behind _ _ _ _ _ _ _ _ _ _ _ _ _ _ _ _ _ _ _ =>
    split at h
    · cases h
      exact .gap (.blank ‹_›)
    split at h
    · exact isStep_of_number h
    split at h
    next start =>
      cases h
      exact isStep_word "" _ [] (by simp [isWordPart, start])
    split at h
    · cases h
      exact isStep_token _ (by simp)
    · cases h

theorem next_blank {c : Char} (h : isSpace c) (rest : List Char) :
    next (c :: rest) = some ([], rest) := by
  rw [next, if_pos h]
  -- no other token starts with a blank
  all_goals
    intros
    subst_vars
    revert h
    decide

/-- Gaps are skipped. -/
theorem next_of_gap {text rest : List Char} (h : Gap text rest) : next text = some ([], rest) := by
  cases h with
  | blank h => exact next_blank h rest
  | @line line _ within ends plain =>
    rw [next, splitLine_append within ends]
    unfold DocumentsLine at plain
    split at plain <;> simp at plain ⊢
    exact fun other => absurd plain other
  | @block body _ comment plain =>
    rw [next, splitComment_append comment, splitComment]
    unfold DocumentsBlock at plain
    split at plain <;> simp at plain ⊢
    exact fun other => absurd plain other

theorem next_closing (delimiter : Delimiter) (rest : List Char) :
    next (delimiter.closing :: rest) = some ([closing delimiter], rest) := by
  cases delimiter <;> rfl

/-! ### Hosts -/

theorem nextFor_eq {host : Host} {c : Char} {rest : List Char} (h : c ≠ '(') :
    nextFor host (c :: rest) = next (c :: rest) := by
  have start : failedLiteral = '(' :: failedLiteral.tail := rfl
  have other : failedLiteral.isPrefixOf (c :: rest) = false := by
    rw [start, List.isPrefixOf_cons_cons]
    simp [h.symm]
  simp [nextFor, other]

theorem isStep_of_nextFor {host : Host} {text rest : List Char} {lexemes : List Lexeme}
    (h : nextFor host text = some (lexemes, rest)) : IsStep text lexemes rest := by
  unfold nextFor at h
  split at h
  next failed =>
    cases h
    rw [Bool.and_eq_true, List.isPrefixOf_iff_prefix] at failed
    have := failed.2.length_le
    have : 0 < failedLiteral.length := by decide
    exact isStep_token _ (by rw [List.length_drop]; omega)
  · exact isStep_of_next h

theorem nextFor_of_gap {host : Host} {text rest : List Char} (h : Gap text rest) :
    nextFor host text = some ([], rest) := by
  have skipped := next_of_gap h
  cases h with
  | blank blank =>
    rw [nextFor_eq, skipped]
    rintro rfl
    revert blank
    decide
  | line | block => rw [nextFor_eq (by decide), skipped]

theorem nextFor_closing (host : Host) (delimiter : Delimiter) (rest : List Char) :
    nextFor host (delimiter.closing :: rest) = some ([closing delimiter], rest) := by
  rw [nextFor_eq (by cases delimiter <;> decide), next_closing]

theorem length_lt_of_nextFor {host : Host} {text rest : List Char} {lexemes : List Lexeme}
    (h : nextFor host text = some (lexemes, rest)) : rest.length < text.length :=
  (isStep_of_nextFor h).length_lt

/-! ### Reading to the end -/

/-- The bound on the number of steps does not matter. -/
theorem readAll_of_lt {host : Host} {text : List Char} {steps more : Nat}
    (h : text.length < steps) (h' : text.length < more) :
    readAll host steps text = readAll host more text := by
  induction steps generalizing text more with
  | zero => exact absurd h (Nat.not_lt_zero _)
  | succ steps ih =>
    cases text with
    | nil => simp [readAll]
    | cons c text =>
      obtain ⟨more, rfl⟩ := Nat.exists_eq_succ_of_ne_zero (Nat.ne_zero_of_lt h')
      cases found : nextFor host (c :: text) with
      | none => simp [readAll, found]
      | some step =>
        have shorter : step.2.length < (c :: text).length := length_lt_of_nextFor found
        have same : readAll host steps step.2 = readAll host more step.2 :=
          ih (by omega) (by omega)
        simp [readAll, found, same]

/-- All lexemes of a text. -/
def lexemes (host : Host) (text : List Char) : Option (List Lexeme) :=
  readAll host (text.length + 1) text

theorem lexemes_nil (host : Host) : lexemes host [] = some [] := rfl

theorem lexemes_of_step {host : Host} {text rest : List Char} {first : List Lexeme}
    (h : nextFor host text = some (first, rest)) :
    lexemes host text = (lexemes host rest).map (first ++ ·) := by
  have shorter := length_lt_of_nextFor h
  cases text with
  | nil => simp at shorter
  | cons c text =>
    rw [lexemes, readAll, h]
    · change (readAll host (c :: text).length rest).bind _ = _
      rw [readAll_of_lt shorter (Nat.lt_succ_self _), Option.map_eq_bind]
      rfl
    · simp

theorem exists_step_of_lexemes {host : Host} {c : Char} {text : List Char} {all : List Lexeme}
    (h : lexemes host (c :: text) = some all) :
    ∃ first rest, nextFor host (c :: text) = some (first, rest) := by
  cases found : nextFor host (c :: text) with
  | none => simp [lexemes, readAll, found] at h
  | some step => exact ⟨step.1, step.2, rfl⟩

/-- Read the rest of a text inside some open groups. -/
def treesFrom (host : Host) (enclosing : List Enclosing) (done : List Token)
    (text : List Char) : Option (List Token) :=
  (lexemes host text).bind (build enclosing done)

section

variable {host : Host} {enclosing : List Enclosing} {done : List Token} {text rest : List Char}

theorem treesFrom_of_step {first : List Lexeme} (h : nextFor host text = some (first, rest)) :
    treesFrom host enclosing done text =
      (lexemes host rest).bind fun more => build enclosing done (first ++ more) := by
  rw [treesFrom, lexemes_of_step h, Option.bind_map]
  rfl

theorem build_append (tokens : List Token) (more : List Lexeme) :
    build enclosing done (tokens.map .token ++ more) =
      build enclosing (tokens.reverse ++ done) more := by
  induction tokens generalizing done with
  | nil => rfl
  | cons token tokens ih => simp [build, ih]

theorem treesFrom_of_tokens {tokens : List Token}
    (h : nextFor host text = some (tokens.map .token, rest)) :
    treesFrom host enclosing done text =
      treesFrom host enclosing (tokens.reverse ++ done) rest := by
  rw [treesFrom_of_step h]
  simp only [build_append]
  rfl

theorem treesFrom_of_gap (h : Gap text rest) :
    treesFrom host enclosing done text = treesFrom host enclosing done rest :=
  treesFrom_of_tokens (show nextFor host text = some ([].map .token, rest) from nextFor_of_gap h)

theorem treesFrom_of_opening {delimiter : Delimiter}
    (h : nextFor host text = some ([.opening delimiter], rest)) :
    treesFrom host enclosing done text = treesFrom host (⟨delimiter, done⟩ :: enclosing) [] rest :=
  treesFrom_of_step h

theorem treesFrom_closing (outer : Enclosing) :
    treesFrom host (outer :: enclosing) done (outer.delimiter.closing :: rest) =
      treesFrom host enclosing (.group outer.delimiter done.reverse :: outer.before) rest := by
  rw [treesFrom_of_step (nextFor_closing host outer.delimiter rest)]
  simp only [List.singleton_append, build, if_true]
  rfl

end

end Lexeme

/-! ### Tokens that are spelled -/

/-- A text spells tokens, with a rest behind them: one lexeme after the other, each group to
its closing delimiter, and gaps anywhere between two lexemes. -/
inductive Spells (host : Host) : List Char → List Token → List Char → Prop
  | done (text : List Char) : Spells host text [] text
  | gap {text mid rest : List Char} {tokens : List Token} (h : Gap text mid)
      (more : Spells host mid tokens rest) : Spells host text tokens rest
  | tokens {text mid rest : List Char} {first tokens : List Token} (nonempty : first ≠ [])
      (h : Lexeme.nextFor host text = some (first.map .token, mid))
      (more : Spells host mid tokens rest) : Spells host text (first ++ tokens) rest
  | group {delimiter : Delimiter} {text inner mid rest : List Char}
      {content tokens : List Token}
      (h : Lexeme.nextFor host text = some ([.opening delimiter], inner))
      (inside : Spells host inner content (delimiter.closing :: mid))
      (more : Spells host mid tokens rest) :
      Spells host text (.group delimiter content :: tokens) rest

namespace Spells
open Lexeme

variable {host : Host} {text rest : List Char} {tokens : List Token}

theorem length_le (h : Spells host text tokens rest) : rest.length ≤ text.length := by
  induction h with
  | done => exact Nat.le_refl _
  | gap h _ ih => exact ih.trans (Nat.le_of_lt h.length_lt)
  | tokens _ h _ ih => exact ih.trans (Nat.le_of_lt (length_lt_of_nextFor h))
  | group h _ _ inside more =>
    have := length_lt_of_nextFor h
    rw [List.length_cons] at inside
    omega

/-- What is spelled is read, inside any open groups. -/
theorem treesFrom (h : Spells host text tokens rest) (enclosing : List Enclosing)
    (before : List Token) :
    Lexeme.treesFrom host enclosing before text =
      Lexeme.treesFrom host enclosing (tokens.reverse ++ before) rest := by
  induction h generalizing enclosing before with
  | done => rfl
  | gap h _ ih => rw [treesFrom_of_gap h, ih]
  | tokens _ h _ ih => rw [treesFrom_of_tokens h, ih]; simp
  | @group delimiter _ _ _ _ content _ h _ _ inside more =>
    rw [treesFrom_of_opening h, inside, treesFrom_closing ⟨delimiter, before⟩, more]
    simp

end Spells

/-- How the innermost open group ends: the text is at its end if there is none, and else at
the closing delimiter, with what can be read behind it. -/
def Lexeme.Closes (host : Host) (tokens : List Token) (rest : List Char) (result : List Token) :
    List Lexeme.Enclosing → Prop
  | [] => rest = [] ∧ tokens = result
  | outer :: enclosing => ∃ behind, rest = outer.delimiter.closing :: behind ∧
      Lexeme.treesFrom host enclosing (.group outer.delimiter tokens :: outer.before) behind =
        some result

/-- What is read is spelled, up to the end of the innermost open group. -/
theorem exists_spells_of_treesFrom {host : Host} {enclosing : List Lexeme.Enclosing}
    {before result : List Token} {text : List Char}
    (h : Lexeme.treesFrom host enclosing before text = some result) :
    ∃ tokens rest, Spells host text tokens rest ∧
      Lexeme.Closes host (before.reverse ++ tokens) rest result enclosing := by
  induction hn : text.length using Nat.strongRecOn generalizing enclosing before text with
  | _ n ih =>
    subst hn
    cases text with
    | nil =>
      cases enclosing with
      | nil =>
        simp only [Lexeme.treesFrom, Lexeme.lexemes_nil, Option.bind_some, Lexeme.build] at h
        exact ⟨[], [], .done [], rfl, by simpa using h⟩
      | cons => simp [Lexeme.treesFrom, Lexeme.lexemes_nil, Lexeme.build] at h
    | cons c text =>
      obtain ⟨all, read, -⟩ := Option.bind_eq_some_iff.mp h
      obtain ⟨first, mid, step⟩ := Lexeme.exists_step_of_lexemes read
      generalize c :: text = text at h step ih
      have shorter := Lexeme.length_lt_of_nextFor step
      cases Lexeme.isStep_of_nextFor step with
      | gap gap =>
        rw [Lexeme.treesFrom_of_gap gap] at h
        obtain ⟨tokens, rest, spelled, closes⟩ := ih _ shorter h rfl
        exact ⟨tokens, rest, .gap gap spelled, closes⟩
      | @tokens _ _ first nonempty =>
        rw [Lexeme.treesFrom_of_tokens step] at h
        obtain ⟨tokens, rest, spelled, closes⟩ := ih _ shorter h rfl
        exact ⟨first ++ tokens, rest, .tokens nonempty step spelled, by simpa using closes⟩
      | opening delimiter =>
        -- the content of the group, then what is behind it
        rw [Lexeme.treesFrom_of_opening step] at h
        obtain ⟨content, rest, inside, behind, rfl, h⟩ := ih _ shorter h rfl
        have := inside.length_le
        obtain ⟨tokens, rest, spelled, closes⟩ := ih _ (by simp at this shorter ⊢; omega) h rfl
        exact ⟨.group delimiter content :: tokens, rest, .group step inside spelled,
          by simpa using closes⟩
      | closing delimiter =>
        match enclosing with
        | [] =>
          rw [Lexeme.treesFrom_of_step step] at h
          simp [Lexeme.build] at h
        | outer :: enclosing =>
          by_cases same : outer.delimiter = delimiter
          · subst same
            rw [Lexeme.treesFrom_closing] at h
            exact ⟨[], _, .done _, mid, rfl, by simpa using h⟩
          · rw [Lexeme.treesFrom_of_step step] at h
            simp [Lexeme.build, same] at h

/-- Reading a text gives exactly the tokens that it spells. -/
theorem tokenize_eq_some_iff {host : Host} {text : String} {tokens : List Token} :
    tokenize host text = some tokens ↔ Spells host text.toList tokens [] := by
  change Lexeme.treesFrom host [] [] text.toList = some tokens ↔ _
  constructor
  · intro h
    obtain ⟨_, _, spelled, rfl, rfl⟩ := exists_spells_of_treesFrom h
    exact spelled
  · intro spelled
    rw [spelled.treesFrom]
    simp [Lexeme.treesFrom, Lexeme.lexemes_nil, Lexeme.build]

/-- A text without the mark of the byte order that its host skips. -/
def withoutMark (host : Host) : List Char → List Char
  | '\ufeff' :: rest => if host = .standalone then rest else '\ufeff' :: rest
  | text => text

/-- Reading a whole text gives exactly the tokens that it spells. -/
theorem tokenizeWhole_eq_some_iff {host : Host} {text : String} {tokens : List Token} :
    tokenizeWhole host text = some tokens ↔
      Spells host (withoutMark host text.toList) tokens [] := by
  unfold tokenizeWhole
  split
  next rest starts =>
    rw [tokenize_eq_some_iff, starts, withoutMark]
    split <;> simp [starts]
  next notMarked =>
    have unmarked : withoutMark host text.toList = text.toList := by
      unfold withoutMark
      split
      next starts => exact absurd starts (notMarked _)
      · rfl
    rw [tokenize_eq_some_iff, unmarked]

end ByteMachine.Tagging
