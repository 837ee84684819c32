import ByteMachine.Proofs.Spellings
import ByteMachine.Proofs.Tags

/-!
# The grammar of arguments

Arguments are a visibility, a comma, `repr`, and one type in parentheses, in any layout. All
other tokens leave this grammar at some position: what stands before it can go on to arguments,
but not with the token that stands there, or with the end. The error is decided at that
position, so that tokens behind it do not matter, and neither does the annotated item. A group
is one token here; what is wrong in it, the reader of types decides.
-/

namespace ByteMachine.Tagging

/-- Tokens that agree up to a position have the same token there, or both end. -/
theorem append_of_take_eq {before rest other : List Token}
    (h : other.take (before.length + 1) = (before ++ rest).take (before.length + 1)) :
    ∃ behind, other = before ++ behind ∧ behind.head? = rest.head? := by
  have start : other.take before.length = before := by
    simpa [List.take_take] using congrArg (List.take before.length) h
  have next : other[before.length]? = rest[0]? := by
    simpa [List.getElem?_append_right] using congrArg (·[before.length]?) h
  refine ⟨other.drop before.length, ?_, ?_⟩
  · calc other = other.take before.length ++ other.drop before.length :=
          (List.take_append_drop ..).symm
      _ = before ++ other.drop before.length := by rw [start]
  · rw [List.head?_drop, next, List.head?_eq_getElem?]

namespace Arguments

variable {host : Host}

/-! ### The grammar -/

/-- Tokens are one type: it is read, and nothing is left behind it or in its groups. -/
def IsType (host : Host) (content type : List Token) : Prop :=
  Syntax.readType host content = .ok ⟨type, [], none⟩

/-- What stands before the type. The comma may touch the next token. -/
def heading (visibility : Visibility) (spaced : Bool) : List Token :=
  [.word visibility.name, .mark ',' spaced, .word "repr"]

/-- The tokens are written for the arguments. -/
def Written (host : Host) (arguments : Arguments) (tokens : List Token) : Prop :=
  ∃ spaced content, IsType host content arguments.type ∧
    tokens = heading arguments.visibility spaced ++ [.group .parenthesis content]

/-- A position where tokens leave the grammar: those before it can go on to arguments, but not
with the token that follows, or with the end if none does. -/
structure DeviatesAt (host : Host) (tokens : List Token) (position : Nat) : Prop where
  viable : ∃ arguments written, Written host arguments written ∧
    written.take position = tokens.take position
  deviates : ∀ arguments written, Written host arguments written →
    written.take (position + 1) ≠ tokens.take (position + 1)

/-- What is reported for tokens that leave the grammar at a position: the same error for every
text whose tokens agree up to there, with a second message at the comma and at `repr`. -/
structure Reported (host : Host) (tokens : List Token) (position : Nat)
    (error : ArgumentError) : Prop where
  decided : ∀ text other, Spells host (withoutMark host text.toList) other [] →
    other.take (position + 1) = tokens.take (position + 1) → read host text = .error error
  comma : position = 1 → ∃ visibility : Visibility,
    tokens.head? = some (.word visibility.name) ∧
      error.messages =
        ["expected `,`", "Missing comma after `" ++ visibility.name ++ "` visibility"]
  repr : position = 2 → ∃ visibility : Visibility,
    tokens.head? = some (.word visibility.name) ∧
      error.messages =
        [(if tokens.length = 2 then "unexpected end of input, " else "") ++ "expected `repr`",
          "Missing `repr` after `" ++ visibility.name ++ ",`"]
  alone : position ≠ 1 → position ≠ 2 → ∃ message, error.messages = [message]

theorem DeviatesAt.le {tokens : List Token} {position other : Nat}
    (h : DeviatesAt host tokens position) (h' : DeviatesAt host tokens other) :
    other ≤ position := by
  refine Nat.le_of_not_lt fun before => ?_
  obtain ⟨arguments, written, isWritten, same⟩ := h'.viable
  refine h.deviates arguments written isWritten ?_
  simpa [List.take_take, Nat.min_eq_left before] using congrArg (List.take (position + 1)) same

/-- Tokens leave the grammar at one position only. -/
theorem DeviatesAt.unique {tokens : List Token} {position other : Nat}
    (h : DeviatesAt host tokens position) (h' : DeviatesAt host tokens other) :
    position = other :=
  Nat.le_antisymm (h'.le h) (h.le h')

/-! ### Types -/

theorem typeIn_eq_ok_iff {content type : List Token} :
    typeIn host content = .ok type ↔ IsType host content type := by
  unfold typeIn IsType
  cases Syntax.readType host content with
  | error => simp
  | ok reading =>
    obtain ⟨tokens, rest, leftover⟩ := reading
    cases leftover <;> cases rest <;> simp

theorem malformed_of_typeIn {content : List Token} {error : ArgumentError}
    (h : typeIn host content = .error error) : ∃ reason, error = .malformed reason := by
  unfold typeIn at h
  repeat' split at h
  all_goals cases h
  all_goals exact ⟨_, rfl⟩

theorem isType_integer (host : Host) :
    ∀ type ∈ IntegerType.all, IsType host [.word type.name] [.word type.name] := by
  simp only [IntegerType.all, List.flatMap_cons, List.flatMap_nil, List.cons_append,
    List.nil_append, List.forall_mem_cons]
  cases host <;> exact ⟨rfl, rfl, rfl, rfl, rfl, rfl, rfl, rfl, rfl, rfl, by simp⟩

/-- The names of numeric types are types. -/
theorem isType_of_ofName? {name : String} {type : TagType} (h : TagType.ofName? name = some type) :
    IsType host [.word name] [.word name] := by
  unfold TagType.ofName? at h
  split at h
  -- the four names of its own, then those of the integer types
  iterate 4 cases host <;> rfl
  obtain ⟨type, found, -⟩ := Option.map_eq_some_iff.mp h
  have named : type.name = name := by simpa using List.find?_some found
  rw [← named]
  exact isType_integer host type (List.mem_of_find?_eq_some found)

/-! ### What is accepted -/

theorem isIdentifier_name (visibility : Visibility) : isIdentifier visibility.name := by
  cases visibility <;> decide

theorem ofName?_name (visibility : Visibility) :
    Visibility.ofName? visibility.name = some visibility := by
  cases visibility <;> rfl

theorem name_of_ofName? {name : String} {visibility : Visibility}
    (h : Visibility.ofName? name = some visibility) : visibility.name = name := by
  unfold Visibility.ofName? at h
  split at h <;> cases h <;> rfl

theorem visibilityAfter_name (visibility : Visibility) (rest : List Token) :
    visibilityAfter (.word visibility.name :: rest) = .ok (visibility, rest) := by
  simp [visibilityAfter, isIdentifier_name, ofName?_name]

/-- With a group in the type's place its content decides, and then what is behind it. -/
theorem ofTokens_group (visibility : Visibility) (spaced : Bool) (content rest : List Token) :
    ofTokens host (heading visibility spaced ++ .group .parenthesis content :: rest) =
      match typeIn host content with
      | .error error => .error error
      | .ok type =>
          if rest.isEmpty then .ok ⟨visibility, type⟩
          else .error (.malformed (.leftover none)) := by
  simp only [heading, List.cons_append, List.nil_append, ofTokens, visibilityAfter_name, bind,
    Except.bind]
  cases typeIn host content <;> rfl

theorem ofTokens_of_written {arguments : Arguments} {tokens : List Token}
    (h : Written host arguments tokens) : ofTokens host tokens = .ok arguments := by
  obtain ⟨spaced, content, isType, rfl⟩ := h
  rw [ofTokens_group, typeIn_eq_ok_iff.mpr isType]
  rfl

/-! ### What is refused -/

/-- Tokens that are refused: those before the deviation, the token there if there is one, and
the error. -/
inductive Refusal (host : Host) : List Token → Option Token → ArgumentError → Prop
  | noWord {next : Option Token} (h : ∀ name, next ≠ some (.word name)) :
      Refusal host [] next (.malformed (.expected "identifier" next.isNone))
  | keyword {name : String} (h : ¬ isIdentifier name) :
      Refusal host [] (some (.word name)) (.malformed (.keyword name))
  | visibility {name : String} (h : isIdentifier name) (unknown : Visibility.ofName? name = none) :
      Refusal host [] (some (.word name)) .unknownVisibility
  | comma (visibility : Visibility) {next : Option Token}
      (h : ∀ spaced, next ≠ some (.mark ',' spaced)) :
      Refusal host [.word visibility.name] next (.missingComma visibility)
  | repr (visibility : Visibility) (spaced : Bool) {next : Option Token}
      (h : next ≠ some (.word "repr")) :
      Refusal host [.word visibility.name, .mark ',' spaced] next
        (.missingRepr visibility next.isNone)
  | group (visibility : Visibility) (spaced : Bool) {next : Option Token}
      (h : ∀ content, next ≠ some (.group .parenthesis content)) :
      Refusal host (heading visibility spaced) next
        (.malformed (.expected "parentheses" next.isNone))
  | type (visibility : Visibility) (spaced : Bool) {content : List Token} {error : ArgumentError}
      (h : typeIn host content = .error error) :
      Refusal host (heading visibility spaced) (some (.group .parenthesis content)) error
  | behind (visibility : Visibility) (spaced : Bool) {content type : List Token} {token : Token}
      (h : IsType host content type) :
      Refusal host (heading visibility spaced ++ [.group .parenthesis content]) (some token)
        (.malformed (.leftover none))

/-- Whatever stands behind the deviation, the error is the same. -/
theorem Refusal.ofTokens {before rest : List Token} {error : ArgumentError}
    (h : Refusal host before rest.head? error) :
    Arguments.ofTokens host (before ++ rest) = .error error := by
  generalize next : rest.head? = token? at h
  cases h with
  | noWord notWord =>
    cases rest with
    | nil => cases next; rfl
    | cons token rest =>
      cases next
      cases token <;> first | rfl | exact absurd rfl (notWord _)
  | keyword reserved =>
    obtain ⟨rest, rfl⟩ := List.head?_eq_some_iff.mp next
    simp [Arguments.ofTokens, visibilityAfter, reserved, bind, Except.bind]
  | visibility identifier unknown =>
    obtain ⟨rest, rfl⟩ := List.head?_eq_some_iff.mp next
    simp [Arguments.ofTokens, visibilityAfter, identifier, unknown, bind, Except.bind]
  | comma visibility notComma =>
    simp only [List.singleton_append, Arguments.ofTokens, visibilityAfter_name, bind, Except.bind]
    split
    iterate 3 exact absurd next.symm (notComma _)
    rfl
  | repr visibility spaced notRepr =>
    subst next
    simp only [List.cons_append, List.nil_append, Arguments.ofTokens, visibilityAfter_name, bind,
      Except.bind]
    split
    next same => cases same; simp at notRepr
    next same => cases same; simp at notRepr
    next same => cases same; cases rest <;> rfl
    next other => exact absurd rfl (other _ _)
  | group visibility spaced notGroup =>
    subst next
    simp only [heading, List.cons_append, List.nil_append, Arguments.ofTokens,
      visibilityAfter_name, bind, Except.bind]
    split
    next same => cases same; simp at notGroup
    next same => cases same; cases rest <;> rfl
    next other same => cases same; exact absurd rfl (other _)
    next other => exact absurd rfl (other _ _)
  | type visibility spaced failed =>
    obtain ⟨rest, rfl⟩ := List.head?_eq_some_iff.mp next
    rw [ofTokens_group, failed]
  | behind visibility spaced isType =>
    obtain ⟨rest, rfl⟩ := List.head?_eq_some_iff.mp next
    rw [List.append_assoc, List.singleton_append, ofTokens_group, typeIn_eq_ok_iff.mpr isType]
    rfl

/-- Tokens are arguments, or they are refused somewhere. -/
theorem written_or_refusal (host : Host) (tokens : List Token) :
    (∃ arguments, Written host arguments tokens) ∨
      ∃ before rest error, tokens = before ++ rest ∧ Refusal host before rest.head? error := by
  by_cases word : ∃ name, tokens.head? = some (.word name)
  case neg => exact .inr ⟨[], tokens, _, rfl, .noWord (not_exists.mp word)⟩
  obtain ⟨name, word⟩ := word
  obtain ⟨rest, rfl⟩ := List.head?_eq_some_iff.mp word
  by_cases identifier : isIdentifier name
  case neg => exact .inr ⟨[], _, _, rfl, .keyword identifier⟩
  cases known : Visibility.ofName? name with
  | none => exact .inr ⟨[], _, _, rfl, .visibility identifier known⟩
  | some visibility =>
    obtain rfl := name_of_ofName? known
    by_cases comma : ∃ spaced, rest.head? = some (.mark ',' spaced)
    case neg => exact .inr ⟨[_], rest, _, rfl, .comma visibility (not_exists.mp comma)⟩
    obtain ⟨spaced, comma⟩ := comma
    obtain ⟨rest, rfl⟩ := List.head?_eq_some_iff.mp comma
    by_cases repr : rest.head? = some (.word "repr")
    case neg => exact .inr ⟨[_, _], rest, _, rfl, .repr visibility spaced repr⟩
    obtain ⟨rest, rfl⟩ := List.head?_eq_some_iff.mp repr
    by_cases group : ∃ content, rest.head? = some (.group .parenthesis content)
    case neg => exact .inr ⟨[_, _, _], rest, _, rfl, .group visibility spaced (not_exists.mp group)⟩
    obtain ⟨content, group⟩ := group
    obtain ⟨rest, rfl⟩ := List.head?_eq_some_iff.mp group
    cases typed : typeIn host content with
    | error error => exact .inr ⟨[_, _, _], _, _, rfl, .type visibility spaced typed⟩
    | ok type =>
      have isType := typeIn_eq_ok_iff.mp typed
      cases rest with
      | nil => exact .inl ⟨⟨visibility, type⟩, spaced, content, isType, rfl⟩
      | cons token rest =>
        exact .inr ⟨[_, _, _, _], _, _, rfl, .behind visibility spaced isType⟩

/-- What stands before the deviation can go on to arguments. -/
theorem Refusal.viable {before : List Token} {next : Option Token} {error : ArgumentError}
    (h : Refusal host before next error) :
    ∃ arguments more, Written host arguments (before ++ more) := by
  have named : IsType host [.word "u8"] [.word "u8"] := isType_of_ofName? rfl
  have written (visibility : Visibility) (spaced : Bool) :
      Written host ⟨visibility, [.word "u8"]⟩
        (heading visibility spaced ++ [.group .parenthesis [.word "u8"]]) :=
    ⟨spaced, _, named, rfl⟩
  cases h with
  | noWord | keyword | visibility => exact ⟨_, _, written .exported false⟩
  | comma visibility => exact ⟨_, _, written visibility false⟩
  | repr visibility spaced | group visibility spaced | type visibility spaced =>
    exact ⟨_, _, written visibility spaced⟩
  | behind visibility spaced isType => exact ⟨⟨visibility, _⟩, [], spaced, _, isType, by simp⟩

/-- A text that spells tokens is read as they are. -/
theorem read_of_spells {text : String} {tokens : List Token}
    (h : Spells host (withoutMark host text.toList) tokens []) :
    read host text = ofTokens host tokens := by
  rw [read, tokenizeWhole_eq_some_iff.mpr h]

theorem ofTokens_eq_ok_iff {tokens : List Token} {arguments : Arguments} :
    ofTokens host tokens = .ok arguments ↔ Written host arguments tokens := by
  refine ⟨fun accepted => ?_, ofTokens_of_written⟩
  obtain ⟨written, h⟩ | ⟨before, rest, error, rfl, refused⟩ := written_or_refusal host tokens
  · rw [ofTokens_of_written h] at accepted
    cases accepted
    exact h
  · rw [refused.ofTokens] at accepted
    cases accepted

theorem Refusal.of_take {before rest other : List Token} {error : ArgumentError}
    (h : Refusal host before rest.head? error)
    (same : other.take (before.length + 1) = (before ++ rest).take (before.length + 1)) :
    Arguments.ofTokens host other = .error error := by
  obtain ⟨behind, rfl, next⟩ := append_of_take_eq same
  exact Refusal.ofTokens (next ▸ h)

theorem Refusal.deviatesAt {before rest : List Token} {error : ArgumentError}
    (h : Refusal host before rest.head? error) :
    DeviatesAt host (before ++ rest) before.length where
  viable := by
    obtain ⟨arguments, more, written⟩ := h.viable
    exact ⟨arguments, _, written, by simp⟩
  deviates := by
    intro arguments written h' same
    have accepted := ofTokens_of_written h'
    rw [h.of_take same] at accepted
    cases accepted

theorem Refusal.reported {before rest : List Token} {error : ArgumentError}
    (h : Refusal host before rest.head? error) :
    Reported host (before ++ rest) before.length error where
  decided := by
    intro text other spelled same
    rw [read_of_spells spelled, h.of_take same]
  comma := by
    intro position
    generalize rest.head? = next at h
    cases h with
    | comma visibility => exact ⟨visibility, rfl, rfl⟩
    | _ => simp [heading] at position
  repr := by
    intro position
    generalize following : rest.head? = next at h
    cases h with
    | repr visibility spaced =>
      refine ⟨visibility, rfl, ?_⟩
      cases following
      cases rest <;> rfl
    | _ => simp [heading] at position
  alone := by
    intro notComma notRepr
    generalize rest.head? = next at h
    cases h with
    | comma | repr => simp at notComma notRepr
    | type _ _ failed =>
      obtain ⟨reason, rfl⟩ := malformed_of_typeIn failed
      exact ⟨_, rfl⟩
    | _ => exact ⟨_, rfl⟩

end Arguments

/-! ### Before the item -/

section

variable {ε ε' α β : Type}

theorem bind_ne_error {x : Except ε α} {f : α → Except ε β} {error : ε} (first : x ≠ .error error)
    (behind : ∀ a, f a ≠ .error error) : (x >>= f) ≠ .error error := by
  cases x with
  | error => exact fun h => first (congrArg Except.error (Except.error.inj h))
  | ok a => exact behind a

theorem mapError_ne_error {x : Except ε α} {f : ε → ε'} {error : ε'} (h : ∀ e, f e ≠ error) :
    x.mapError f ≠ .error error := by
  cases x with
  | error e => exact fun same => h e (Except.error.inj same)
  | ok => nofun

end

theorem numberItem_ne_arguments (host : Host) (item : Item) (error : ArgumentError) :
    numberItem host item ≠ .error (.arguments error) := by
  refine bind_ne_error (mapError_ne_error nofun) fun variants => ?_
  split
  · exact mapError_ne_error nofun
  · nofun

/-- Annotating an item fails at the arguments exactly if they are refused: no later stage
fails like this. -/
theorem tagTable_eq_arguments_iff {text : String} {item : Item} {error : ArgumentError} :
    tagTable text item = .error (.arguments error) ↔
      Arguments.read .compiler text = .error error := by
  unfold tagTable readArguments
  cases Arguments.read .compiler text with
  | error => simp [Except.mapError, bind, Except.bind]
  | ok arguments =>
    simp only [mapError_ok, reduceCtorEq, iff_false]
    refine bind_ne_error nofun fun arguments => ?_
    refine bind_ne_error (numberItem_ne_arguments _ _ _) fun numbered => ?_
    exact bind_ne_error (mapError_ne_error nofun) nofun

/-! ### The whole -/

/-- Tokens in any layout are read as arguments exactly if they are written for them. All others
are refused for the first position where they leave the grammar, and the annotation stops with
that error, whatever the item. -/
theorem arguments_read_exactly {host : Host} {text : String} {tokens : List Token}
    (spelled : Spells host (withoutMark host text.toList) tokens []) :
    (∀ arguments, Arguments.read host text = .ok arguments ↔
      Arguments.Written host arguments tokens) ∧
    ((∀ arguments, ¬ Arguments.Written host arguments tokens) →
      ∃ position error, Arguments.DeviatesAt host tokens position ∧
        Arguments.Reported host tokens position error ∧
        Arguments.read host text = .error error) ∧
    (host = .compiler → ∀ item error,
      (tagTable text item = .error (.arguments error) ↔
        Arguments.read host text = .error error) ∧
      (Failure.arguments error).stage = .message) := by
  rw [Arguments.read_of_spells spelled]
  refine ⟨fun arguments => Arguments.ofTokens_eq_ok_iff, fun notWritten => ?_, ?_⟩
  · obtain ⟨arguments, written⟩ | ⟨before, rest, error, rfl, refused⟩ :=
      Arguments.written_or_refusal host tokens
    · exact absurd written (notWritten arguments)
    · exact ⟨before.length, error, refused.deviatesAt, refused.reported, refused.ofTokens⟩
  · rintro rfl item error
    rw [tagTable_eq_arguments_iff, Arguments.read_of_spells spelled]
    exact ⟨.rfl, rfl⟩

theorem arguments_read_exactly_laidOut :
    Arguments.read .compiler "public /* to all */ , // eight bits\n repr ( u8 )" =
        .ok ⟨.exported, [.word "u8"]⟩ ∧
      ∃ error, error.messages = ["expected `,`", "Missing comma after `private` visibility"] ∧
        ∀ item, tagTable "private repr(u8)" item = .error (.arguments error) := by
  constructor
  · have spelled := tokenizeWhole_eq_some_iff.mp
      (show tokenizeWhole .compiler "public /* to all */ , // eight bits\n repr ( u8 )" = some
        [.word "public", .mark ',' false, .word "repr", .group .parenthesis [.word "u8"]] from rfl)
    exact ((arguments_read_exactly spelled).1 _).mpr ⟨false, [.word "u8"], rfl, rfl⟩
  · have spelled := tokenizeWhole_eq_some_iff.mp
      (show tokenizeWhole .compiler "private repr(u8)" = some
        [.word "private", .word "repr", .group .parenthesis [.word "u8"]] from rfl)
    obtain ⟨-, refused, stops⟩ := arguments_read_exactly spelled
    obtain ⟨position, error, deviates, reported, failed⟩ := refused <| by
      rintro arguments ⟨spaced, content, -, same⟩
      simp [Arguments.heading] at same
    have comma : Arguments.Refusal .compiler [.word "private"] (some (.word "repr"))
        (.missingComma .internal) := .comma .internal (by simp)
    have here := @Arguments.Refusal.deviatesAt _ [.word "private"]
      [.word "repr", .group .parenthesis [.word "u8"]] _ comma
    obtain ⟨visibility, head, messages⟩ := reported.comma (deviates.unique here)
    refine ⟨error, ?_, fun item => (stops rfl item error).1.mpr failed⟩
    cases visibility with
    | exported => simp [Visibility.name] at head
    | internal => exact messages

end ByteMachine.Tagging
