import Mathlib.Data.List.Perm.Basic
import ByteMachine.Console.Invocation

/-!
# Invocations that are understood

A program path and any of the flags make an invocation, in whatever order they stand. A flag
that is not among the arguments is as its variable says. Every such invocation is understood as
what it says.
-/

namespace ByteMachine.Console

/-- The variable that sets a flag where no argument does. -/
def Flag.setting (environment : Environment) : Flag → Option String
  | trace => environment.trace
  | strict => environment.strict

/-- An argument that is read as a path. -/
def IsPath (argument : String) : Prop :=
  argument ≠ "" ∧ (argument.toList.head? = some '-' → argument = "-")

/-- The arguments are a path and some flags in any order, each flag at most once, and the
variables of the other flags are not set or say yes or no. -/
structure WellFormed (arguments : List String) (environment : Environment) (flags : List Flag)
    (path : String) : Prop where
  arranged : arguments.Perm (path :: flags.map Flag.name)
  once : flags.Nodup
  isPath : IsPath path
  settings : ∀ flag, flag ∉ flags →
    flag.setting environment ∈ [none, some "true", some "false"]

/-- Whether a flag is among the arguments or switched on by its variable. -/
def Flag.isOn (flags : List Flag) (environment : Environment) (flag : Flag) : Bool :=
  flag ∈ flags || flag.setting environment = some "true"

/-! ## Reading arguments -/

namespace Given

variable {given : Given} {argument : String}

theorem checkProgram_eq_ok (h : given.program ≠ some "") : given.checkProgram = .ok () :=
  if_neg h

theorem add_of_isPath (h : IsPath argument) : given.add argument = given.addProgram argument := by
  unfold add
  split
  · next rest spelled =>
    obtain rfl := h.2 (by rw [spelled]; rfl)
    cases spelled
  · next letter rest spelled =>
    obtain rfl := h.2 (by rw [spelled]; rfl)
    cases spelled
  · rfl

theorem add_name (flag : Flag) : given.add flag.name = given.addFlag flag := by
  cases flag <;> rfl

theorem read_of_add {next : Given} {rest : List String} (marked : argument ≠ "--")
    (added : given.add argument = .ok next) : given.read (argument :: rest) = next.read rest := by
  rw [read]
  · rw [added]
    rfl
  · exact marked

theorem read_path {rest : List String} (h : IsPath argument) (first : given.program = none) :
    given.read (argument :: rest) = { given with program := some argument }.read rest := by
  have marked : argument ≠ "--" := by
    rintro rfl
    exact absurd (h.2 rfl) (by decide)
  refine read_of_add marked ?_
  rw [add_of_isPath h, addProgram, first]

theorem read_name {flag : Flag} {rest : List String} (valid : given.program ≠ some "")
    (first : flag ∉ given.flags) :
    given.read (flag.name :: rest) = { given with flags := flag :: given.flags }.read rest := by
  have marked : flag.name ≠ "--" := by cases flag <;> decide
  refine read_of_add marked ?_
  rw [add_name, addFlag, checkProgram_eq_ok valid, if_neg first]
  rfl

/-- Arguments in any order add the path, if it is still among them, and all of the flags. -/
theorem read_of_perm (given : Given) {arguments : List String} {path : Option String}
    {flags : List Flag} (arranged : arguments.Perm (path.toList ++ flags.map Flag.name))
    (once : flags.Nodup) (isPath : ∀ argument ∈ path, IsPath argument)
    (first : path = none ∨ given.program = none) (valid : given.program ≠ some "")
    (new : ∀ flag ∈ flags, flag ∉ given.flags) :
    ∃ found, found.Perm flags ∧
      given.read arguments = .ok ⟨path.or given.program, found ++ given.flags⟩ := by
  -- On the arguments; what is still to come is a path or none and the flags not met yet.
  induction arguments generalizing given path flags with
  | nil =>
    obtain ⟨none, empty⟩ := List.append_eq_nil_iff.mp arranged.nil_eq.symm
    obtain rfl := Option.toList_eq_nil_iff.mp none
    obtain rfl := List.map_eq_nil_iff.mp empty
    exact ⟨[], .nil, rfl⟩
  | cons argument rest ih =>
    have member : argument ∈ path.toList ++ flags.map Flag.name :=
      arranged.subset List.mem_cons_self
    obtain here | named := List.mem_append.mp member
    · obtain rfl : path = some argument := Option.mem_toList.mp here
      have others : rest.Perm (none.toList ++ flags.map Flag.name) := arranged.cons_inv
      have isPath := isPath argument rfl
      have valid : some argument ≠ some "" := by simpa using isPath.1
      obtain ⟨found, all, done⟩ := ih { given with program := some argument } others once
        nofun (.inl rfl) valid new
      exact ⟨found, all, (read_path isPath (first.resolve_left nofun)).trans done⟩
    · obtain ⟨flag, listed, rfl⟩ := List.mem_map.mp named
      have split : flags.Perm (flag :: flags.erase flag) := List.perm_cons_erase listed
      have names : (flags.map Flag.name).Perm (flag.name :: (flags.erase flag).map Flag.name) :=
        split.map Flag.name
      have others : rest.Perm (path.toList ++ (flags.erase flag).map Flag.name) :=
        (arranged.trans ((names.append_left _).trans List.perm_middle)).cons_inv
      have still : ∀ other ∈ flags.erase flag, other ∉ flag :: given.flags := by
        intro other remains again
        obtain ⟨apart, remains⟩ := once.mem_erase_iff.mp remains
        obtain rfl | again := List.mem_cons.mp again
        · exact apart rfl
        · exact new other remains again
      obtain ⟨found, all, done⟩ := ih { given with flags := flag :: given.flags } others
        (once.erase flag) isPath first valid still
      refine ⟨found ++ [flag], ?_, ?_⟩
      · exact (all.append_right [flag]).trans (List.perm_append_comm.trans split.symm)
      · rw [read_name valid (new flag listed), done, List.append_assoc]
        rfl

end Given

/-! ## What an invocation says -/

variable {arguments : List String} {environment : Environment} {flags : List Flag} {path : String}

/-- A flag is on if an argument or its variable says so. -/
theorem isSet_eq_ok (h : WellFormed arguments environment flags path) (given : Given)
    (found : given.flags.Perm flags) (flag : Flag) :
    flag.isSet given (flag.setting environment) = .ok (flag.isOn flags environment) := by
  unfold Flag.isSet Flag.isOn
  simp only [found.mem_iff]
  by_cases named : flag ∈ flags
  · simp [named]
  · have setting := h.settings flag named
    simp only [List.mem_cons, List.not_mem_nil, or_false] at setting
    obtain unset | on | off := setting
    · simp [named, unset]
    · simp [named, on]
    · simp [named, off]

/-- A path and flags are understood as what they say, in whatever order they stand. -/
theorem ofArguments_of_wellFormed (h : WellFormed arguments environment flags path) :
    Options.ofArguments arguments environment = .ok {
      program := path
      trace := Flag.trace.isOn flags environment
      strict := Flag.strict.isOn flags environment } := by
  have arranged : arguments.Perm ((some path).toList ++ flags.map Flag.name) := h.arranged
  have isPath : ∀ argument ∈ some path, IsPath argument := by
    rintro _ ⟨⟩
    exact h.isPath
  obtain ⟨found, all, read⟩ := Given.read_of_perm {} arranged h.once isPath (.inr rfl) nofun nofun
  rw [List.append_nil] at read
  have valid : some path ≠ some "" := by simpa using h.isPath.1
  have checked : Given.checkProgram ⟨some path, found⟩ = .ok () := Given.checkProgram_eq_ok valid
  have set (flag : Flag) := isSet_eq_ok h ⟨some path, found⟩ all flag
  have trace := set .trace
  have strict := set .strict
  simp only [Flag.setting] at trace strict
  unfold Options.ofArguments
  simp [read, checked, trace, strict, bind, Except.bind, pure, Except.pure]

end ByteMachine.Console
