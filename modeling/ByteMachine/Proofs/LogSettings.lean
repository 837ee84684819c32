import Mathlib.Data.List.Infix
import ByteMachine.Log.Filter

/-!
# What tracing shows

Tracing adds a directive about the whole program to those of a setting, and the most specific
directive decides about an entry. So everything is shown unless the setting has a directive
about less than the whole program, such as a part of it or the entries with some field.
-/

namespace ByteMachine

/-- A setting has a directive about less than the whole program: its target is a part of the
program, or it has brackets. -/
def LogFilter.Narrows (setting : String) : Prop :=
  ∃ directive ∈ setting.toList.splitOn ',', "ls8:".toList <+: directive ∨ '[' ∈ directive

instance (setting : String) : Decidable (LogFilter.Narrows setting) :=
  inferInstanceAs (Decidable (∃ directive ∈ _, _))

namespace LogDirective

variable {directive : LogDirective} {entry : LogEntry}

/-! ### The directives of a setting -/

theorem splitBrackets_of_not_mem {text : List Char} (h : '[' ∉ text) :
    splitBrackets text = some (.whole, text) := by
  unfold splitBrackets
  split
  · simp at h
  · rfl

/-- The target of a directive is how its text begins, and without brackets it is about all
entries from there. -/
theorem of_ofText? {text : String} (read : ofText? text = some directive) (h : '[' ∉ text.toList) :
    directive.target.toList <+: text.toList ∧ directive.scope = .whole := by
  unfold ofText? at read
  split at read
  · cases read
    exact ⟨List.nil_prefix, rfl⟩
  · have behind : '[' ∉ text.toList.dropWhile isTargetPart :=
      fun found => h ((List.dropWhile_suffix _).subset found)
    rw [splitBrackets_of_not_mem behind] at read
    split at read
    · cases read
    · obtain ⟨level, -, read⟩ := Option.map_eq_some_iff.mp read
      cases read
      rw [String.toList_ofList]
      exact ⟨List.takeWhile_prefix _, rfl⟩

theorem mem_of_mapM {α β : Type} {f : α → Option β} {as : List α} {bs : List β} {b : β}
    (all : as.mapM f = some bs) (h : b ∈ bs) : ∃ a ∈ as, f a = some b := by
  induction as generalizing bs with
  | nil =>
    cases all
    cases h
  | cons a as ih =>
    rw [List.mapM_cons] at all
    obtain ⟨first, here, all⟩ := Option.bind_eq_some_iff.mp all
    obtain ⟨rest, later, all⟩ := Option.bind_eq_some_iff.mp all
    cases all
    obtain rfl | found := List.mem_cons.mp h
    · exact ⟨a, List.mem_cons_self, here⟩
    · obtain ⟨a, listed, read⟩ := ih later found
      exact ⟨a, List.mem_cons_of_mem _ listed, read⟩

/-- A directive is about the whole program, if not about even more. -/
def IsBroad (directive : LogDirective) : Prop :=
  directive.scope = .whole ∧ ¬ "ls8:".toList <+: directive.target.toList

end LogDirective

open LogDirective

/-- All directives of a setting that does not narrow are broad. -/
theorem LogFilter.isBroad_of_mem {setting : Option String} {directive : LogDirective}
    (broad : ∀ text ∈ setting, ¬ Narrows text) (h : directive ∈ ofSetting setting) :
    directive.IsBroad := by
  have apart : ¬ "ls8:".toList <+: "".toList := by decide
  have usual (level : LogLevel) : (⟨"", .whole, some level⟩ : LogDirective).IsBroad :=
    ⟨rfl, apart⟩
  unfold ofSetting at h
  split at h
  · obtain rfl := List.mem_singleton.mp h
    exact usual .warn
  · obtain rfl := List.mem_singleton.mp h
    exact usual .error
  next filter read =>
    obtain ⟨text, set, read⟩ := Option.bind_eq_some_iff.mp read
    obtain ⟨part, listed, read⟩ := mem_of_mapM read h
    have whole (narrow : "ls8:".toList <+: part ∨ '[' ∈ part) : False :=
      broad text set ⟨part, (List.mem_filter.mp listed).1, narrow⟩
    obtain ⟨start, scope⟩ := of_ofText? read
      (by rw [String.toList_ofList]; exact fun found => whole (.inr found))
    rw [String.toList_ofList] at start
    exact ⟨scope, fun narrow => whole (.inl (narrow.trans start))⟩

/-! ### Tracing -/

/-- The target of an entry is the whole program or a part of it. -/
theorem LogEntry.target_mem (entry : LogEntry) :
    entry.target ∈ ["ls8", "ls8::program", "ls8::vm"] := by
  cases entry <;> simp [target]

theorem concerns_tracing (entry : LogEntry) : tracing.concerns entry := by
  have all : ∀ target ∈ ["ls8", "ls8::program", "ls8::vm"],
      "ls8".toList.isPrefixOf target.toList := by decide
  rw [concerns, Bool.and_eq_true]
  exact ⟨all _ entry.target_mem, rfl⟩

/-- A broad directive has a target that is no longer than the program's name. -/
theorem LogDirective.IsBroad.length_le {directive : LogDirective} {entry : LogEntry}
    (broad : directive.IsBroad) (h : directive.concerns entry) : directive.target.length ≤ 3 := by
  have parts : ∀ target ∈ ["ls8", "ls8::program", "ls8::vm"],
      target = "ls8" ∨ "ls8:".toList <+: target.toList := by decide
  have start : directive.target.toList <+: entry.target.toList :=
    List.isPrefixOf_iff_prefix.mp (Bool.and_eq_true_iff.mp h).1
  obtain whole | part := parts _ entry.target_mem
  · rw [whole] at start
    exact start.length_le
  · refine Nat.le_of_not_lt fun long => broad.2 ?_
    exact List.prefix_of_prefix_length_le part start long

theorem LogDirective.IsBroad.yieldsTo {directive : LogDirective} {entry : LogEntry}
    (broad : directive.IsBroad) (h : directive.concerns entry) :
    directive.yieldsTo tracing := by
  have length := broad.length_le h
  have whole : tracing.target.length = 3 := rfl
  unfold LogDirective.yieldsTo
  rw [broad.1, whole]
  split
  · rfl
  · simp only [decide_eq_true_eq]
    omega

/-- A directive behind others decides about an entry if they all yield to it. -/
theorem LogFilter.deciding?_concat {filter : LogFilter} {directive : LogDirective}
    {entry : LogEntry} (h : directive.concerns entry)
    (yields : ∀ other ∈ filter, other.concerns entry → other.yieldsTo directive) :
    deciding? entry (filter ++ [directive]) = some directive := by
  induction filter with
  | nil => simp [deciding?, h]
  | cons first rest ih =>
    obtain ⟨here, later⟩ := List.forall_mem_cons.mp yields
    rw [List.cons_append, deciding?, ih later]
    by_cases concerned : first.concerns entry <;> simp [concerned, here]

/-- Behind a setting that does not narrow, tracing shows everything. -/
theorem LogFilter.admits_tracing {setting : Option String}
    (broad : ∀ text ∈ setting, ¬ Narrows text) (entry : LogEntry) :
    admits (ofSetting setting ++ [tracing]) entry := by
  rw [admits, deciding?_concat (concerns_tracing entry) fun other listed concerned =>
    (isBroad_of_mem broad listed).yieldsTo concerned]
  cases entry <;> rfl

/-- A directive about a part of the program is more specific than that of tracing. -/
example : ¬ LogFilter.admits (.ofSetting (some "warn,ls8::vm=off") ++ [tracing]) (.called 0 9) := by
  decide +kernel

end ByteMachine
