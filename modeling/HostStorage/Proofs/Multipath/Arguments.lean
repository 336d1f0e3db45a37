import HostStorage.Multipath.Command
import HostStorage.Proofs.Path.Cleaning

/-!
# What is passed to the multipath tool

An argument is refused exactly if it spells the root directory. Flags are asked for first but are no
exception to this rule: they start with a dash, so none of them is an absolute path. Nothing is
started for refused arguments, and one process for all others (`multipathCommand_keeps_root_out`).
-/
namespace HostStorage

open HostStorage.Path (IsRootSpelling)

/-- A dash followed by letters and digits. -/
def IsShortFlag (argument : String) : Prop :=
  ∃ letters, argument.toList = '-' :: letters ∧ letters ≠ [] ∧ ∀ c ∈ letters, c.isAlphanum = true

theorem isFlag_iff (argument : String) : isFlag argument = true ↔ IsShortFlag argument := by
  unfold isFlag IsShortFlag
  split
  next c rest flag =>
    rw [flag, List.all_eq_true]
    constructor
    · intro letters
      exact ⟨c :: rest, rfl, List.cons_ne_nil c rest, letters⟩
    · intro written
      obtain ⟨_, same, _, letters⟩ := written
      cases same
      exact letters
  next noFlag =>
    constructor
    · intro flag
      cases flag
    · intro written
      obtain ⟨letters, whole, notEmpty, _⟩ := written
      obtain ⟨c, rest, rfl⟩ := List.exists_cons_of_ne_nil notEmpty
      exact absurd whole (noFlag c rest)

/-- A flag is no absolute path. -/
theorem IsShortFlag.not_isRootSpelling {flag : String} (isFlag : IsShortFlag flag) :
    ¬ IsRootSpelling flag := by
  intro spelling
  obtain ⟨letters, whole, _, _⟩ := isFlag
  have slash := (Path.isAbsolute_iff flag).1 spelling.absolute
  rw [whole] at slash
  exact absurd slash (by simp)

/-- What may be passed is what does not spell the root directory. -/
theorem isMultipathArgument_iff (argument : String) :
    isMultipathArgument argument = true ↔ ¬ IsRootSpelling argument := by
  rw [← Path.cleaned_eq_root_iff, isMultipathArgument, Bool.or_eq_true, bne_iff_ne]
  constructor
  · intro accepted
    rcases accepted with flag | other
    · rw [Path.cleaned_eq_root_iff]
      exact ((isFlag_iff argument).1 flag).not_isRootSpelling
    · exact other
  · exact Or.inr

def IsFirstRoot (arguments : List String) (argument : String) : Prop :=
  ∃ before after, arguments = before ++ argument :: after ∧
    (∀ earlier ∈ before, ¬ IsRootSpelling earlier) ∧ IsRootSpelling argument

theorem find?_eq_some_iff_isFirstRoot (arguments : List String) (argument : String) :
    arguments.find? (!isMultipathArgument ·) = some argument ↔ IsFirstRoot arguments argument := by
  rw [List.find?_eq_some_iff_append]
  simp only [Bool.not_not, isMultipathArgument_iff, Bool.not_eq_true', ← Bool.not_eq_true, not_not]
  constructor
  · intro found
    obtain ⟨spelling, before, after, whole, earlier⟩ := found
    exact ⟨before, after, whole, earlier, spelling⟩
  · intro first
    obtain ⟨before, after, whole, earlier, spelling⟩ := first
    exact ⟨spelling, before, after, whole, earlier⟩

theorem checkMultipathArguments_eq_error_iff (arguments : List String) (e : StorageError) :
    checkMultipathArguments arguments = .error e ↔
      ∃ argument, IsFirstRoot arguments argument ∧ e = .invalidMultipathOption argument := by
  simp only [← find?_eq_some_iff_isFirstRoot]
  unfold checkMultipathArguments
  cases arguments.find? (!isMultipathArgument ·) with
  | none => simp
  | some argument => simp [eq_comm]

theorem checkMultipathArguments_eq_ok_iff (arguments : List String) :
    checkMultipathArguments arguments = .ok () ↔
      ∀ argument ∈ arguments, ¬ IsRootSpelling argument := by
  simp only [← isMultipathArgument_iff]
  unfold checkMultipathArguments
  cases found : arguments.find? (!isMultipathArgument ·) with
  | none => simpa using found
  | some argument =>
    have refused := List.find?_some found
    have listed := List.mem_of_find?_eq_some found
    simp only [reduceCtorEq, false_iff]
    intro accepted
    simp [accepted argument listed] at refused

/-- The process that arguments are passed to: the tool, or the root changer with the directory and
the tool in front of them. -/
inductive IsMultipathStart (paths : SysPaths) (arguments : List String) :
    Option String → Invocation → Prop
  | here : IsMultipathStart paths arguments none ⟨paths.multipathBin, arguments⟩
  | nowhere : IsMultipathStart paths arguments (some "") ⟨paths.multipathBin, arguments⟩
  | inside (directory : String) (named : directory ≠ "") :
      IsMultipathStart paths arguments (some directory)
        ⟨paths.chrootBin, directory :: paths.multipathBin :: arguments⟩

theorem isMultipathStart_multipathInvocation (paths : SysPaths) (root : Option String)
    (arguments : List String) :
    IsMultipathStart paths arguments root (multipathInvocation paths root arguments) := by
  cases root with
  | none => exact .here
  | some directory =>
    by_cases unnamed : directory = ""
    · rw [unnamed]
      exact .nowhere
    · have kept : (some directory).filter (!·.isEmpty) = some directory := by simp [unnamed]
      rw [multipathInvocation, kept]
      exact .inside directory unnamed

/-- Arguments are refused exactly if one of them is an absolute path that leads to the root
directory, and then the first such argument is named as it is written; a flag never is. Refused
arguments start nothing. All others are passed to one process, whose result is that of the
operation. -/
theorem multipathCommand_keeps_root_out (paths : SysPaths)
    (start : Invocation → Except IoFailure ProcessRun) (deadline : Duration)
    (root : Option String) (arguments : List String) :
    let performed := multipathCommand paths start deadline root arguments
    (∀ e, checkMultipathArguments arguments = .error e ↔
      ∃ argument, IsFirstRoot arguments argument ∧ e = .invalidMultipathOption argument) ∧
    (checkMultipathArguments arguments = .ok () ↔
      ∀ argument ∈ arguments, ¬ IsRootSpelling argument) ∧
    (∀ flag, IsShortFlag flag →
      checkMultipathArguments arguments ≠ .error (.invalidMultipathOption flag)) ∧
    (∀ e, checkMultipathArguments arguments = .error e → performed = (.error e, [])) ∧
    (checkMultipathArguments arguments = .ok () →
      ∃ i, IsMultipathStart paths arguments root i ∧
        performed = (multipathResult i deadline (start i), [i])) := by
  intro performed
  refine ⟨checkMultipathArguments_eq_error_iff arguments,
    checkMultipathArguments_eq_ok_iff arguments, fun flag isFlag refused => ?_,
    fun e refused => ?_, fun accepted => ?_⟩
  · obtain ⟨argument, first, same⟩ := (checkMultipathArguments_eq_error_iff arguments _).1 refused
    cases same
    obtain ⟨_, _, _, _, spelling⟩ := first
    exact isFlag.not_isRootSpelling spelling
  · unfold performed multipathCommand
    rw [refused]
  · refine ⟨multipathInvocation paths root arguments,
      isMultipathStart_multipathInvocation paths root arguments, ?_⟩
    unfold performed multipathCommand
    rw [accepted]

end HostStorage
