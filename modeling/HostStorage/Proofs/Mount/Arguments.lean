import HostStorage.Mount.Options
import HostStorage.Proofs.Distinct
import HostStorage.Proofs.Text.Pieces
import Mathlib.Data.List.Forall2

/-!
# Arguments of a mount

Options are given in any number, with blanks around them, and some of them are nothing but blanks.
Each of them is passed once, in the order in which they were first given (`distinctOptions_eq`), so
lists of options that give the same ones in this sense lead to the same arguments
(`mountArguments_tell_each_once`).
-/
namespace HostStorage

/-- The options that are given: those that are not blank, without the blanks around them. -/
def givenOptions (options : List String) : List String :=
  (options.filter fun option => !Text.allBlank option.toList).map Text.trimmed

/-- A text with any number of blanks in front of it and behind it. -/
def IsPadded (text padded : String) : Prop :=
  ∃ before after, Text.allBlank before = true ∧ Text.allBlank after = true ∧
    padded.toList = before ++ text.toList ++ after

variable {options others : List String} {option : String}

theorem trimmed_eq_empty_iff (option : String) :
    Text.trimmed option = "" ↔ Text.allBlank option.toList = true := by
  rw [Text.trimmed, Text.allBlank, List.all_eq_true, ← Text.trim_eq_nil_iff, ← String.toList_inj,
    String.toList_ofList]
  rfl

theorem IsPadded.trimmed_eq {padded : String} (isPadded : IsPadded option padded) :
    Text.trimmed padded = Text.trimmed option := by
  obtain ⟨before, after, leading, trailing, whole⟩ := isPadded
  rw [Text.allBlank, List.all_eq_true] at leading trailing
  rw [Text.trimmed, Text.trimmed, whole, Text.trim_padded leading trailing]

/-- What is given by a list of options depends on each of them only up to blanks around it. -/
theorem givenOptions_eq_filter_map (options : List String) :
    givenOptions options = (options.map Text.trimmed).filter (· ≠ "") := by
  rw [givenOptions, List.filter_map]
  congr 1
  refine List.filter_congr fun option _ => ?_
  rw [Bool.eq_iff_iff]
  simp [trimmed_eq_empty_iff]

theorem givenOptions_append (before after : List String) :
    givenOptions (before ++ after) = givenOptions before ++ givenOptions after := by
  rw [givenOptions, List.filter_append, List.map_append]
  rfl

theorem givenOptions_of_blank (blank : Text.allBlank option.toList = true) :
    givenOptions [option] = [] := by
  simp [givenOptions, blank]

theorem givenOptions_of_not_blank (notBlank : Text.allBlank option.toList = false) :
    givenOptions [option] = [Text.trimmed option] := by
  simp [givenOptions, notBlank]

/-- Options that are given need no trimming. -/
theorem givenOptions_of_subset (given : ∀ option ∈ others, option ∈ givenOptions options) :
    givenOptions others = others := by
  have trimmed : ∀ option ∈ others, Text.trimmed option = option ∧ option ≠ "" := by
    intro option listed
    have isGiven := given option listed
    rw [givenOptions_eq_filter_map, List.mem_filter, List.mem_map] at isGiven
    obtain ⟨⟨whole, -, rfl⟩, notEmpty⟩ := isGiven
    refine ⟨?_, of_decide_eq_true notEmpty⟩
    rw [Text.trimmed, Text.trimmed, String.toList_ofList, Text.trim_trim]
  have same : others.map Text.trimmed = others := by
    conv_rhs => rw [← List.map_id others]
    exact List.map_congr_left fun option listed => (trimmed option listed).1
  rw [givenOptions_eq_filter_map, same, List.filter_eq_self]
  exact fun option listed => decide_eq_true (trimmed option listed).2

/-! ## What is passed -/

/-- Each option that is given is passed once. -/
theorem distinctOptions_eq (options : List String) :
    distinctOptions options = (givenOptions options).eraseDups := by
  induction options using List.reverseRecOn with
  | nil => rfl
  | append_singleton options option ih =>
    rw [distinctOptions, List.foldl_append, ← distinctOptions, ih, givenOptions_append]
    dsimp only [List.foldl_cons, List.foldl_nil, addOption]
    cases blank : Text.allBlank option.toList with
    | true =>
      have nothing := (trimmed_eq_empty_iff option).2 blank
      rw [givenOptions_of_blank blank, List.append_nil, nothing]
      rfl
    | false =>
      have notEmpty : (Text.trimmed option).isEmpty = false := by
        rw [Bool.eq_false_iff, ne_eq, String.isEmpty_iff, trimmed_eq_empty_iff, blank]
        exact Bool.false_ne_true
      rw [givenOptions_of_not_blank blank, eraseDups_concat, notEmpty, Bool.false_or]
      simp only [List.contains_eq_mem, List.mem_eraseDups]

theorem distinctOptions_congr (same : givenOptions options = givenOptions others) :
    distinctOptions options = distinctOptions others := by
  rw [distinctOptions_eq, distinctOptions_eq, same]

theorem firstAppearances_distinctOptions (options : List String) :
    FirstAppearances (givenOptions options) (distinctOptions options) := by
  rw [distinctOptions_eq]
  exact firstAppearances_eraseDups (givenOptions options)

/-- What is passed is passed the same way again. -/
theorem distinctOptions_distinctOptions (options : List String) :
    distinctOptions (distinctOptions options) = distinctOptions options := by
  have given : ∀ option ∈ distinctOptions options, option ∈ givenOptions options :=
    fun option => ((firstAppearances_distinctOptions options).same option).1
  rw [distinctOptions_eq, givenOptions_of_subset given, distinctOptions_eq, eraseDups_eraseDups]

theorem distinctOptions_blank (blank : Text.allBlank option.toList = true)
    (before after : List String) :
    distinctOptions (before ++ option :: after) = distinctOptions (before ++ after) := by
  apply distinctOptions_congr
  rw [List.append_cons, givenOptions_append, givenOptions_append, givenOptions_of_blank blank,
    List.append_nil, givenOptions_append]

theorem distinctOptions_padded {padded : List String}
    (isPadded : List.Forall₂ IsPadded options padded) :
    distinctOptions padded = distinctOptions options := by
  apply distinctOptions_congr
  rw [givenOptions_eq_filter_map, givenOptions_eq_filter_map]
  congr 1
  induction isPadded with
  | nil => rfl
  | cons first _ ih => rw [List.map_cons, List.map_cons, first.trimmed_eq, ih]

/-- An option may be repeated anywhere behind itself. -/
theorem distinctOptions_again {before : List String} (listed : option ∈ before)
    (after : List String) :
    distinctOptions (before ++ option :: after) = distinctOptions (before ++ after) := by
  cases blank : Text.allBlank option.toList with
  | true => exact distinctOptions_blank blank before after
  | false =>
    have known : Text.trimmed option ∈ givenOptions before := by
      refine List.mem_map_of_mem (List.mem_filter.2 ⟨listed, ?_⟩)
      rw [blank, Bool.not_false]
    rw [distinctOptions_eq, distinctOptions_eq, List.append_cons, givenOptions_append,
      givenOptions_append, givenOptions_of_not_blank blank, List.append_assoc,
      List.singleton_append, eraseDups_append_cons known, givenOptions_append]

/-- A list of texts that are not empty is written as such a text, unless it is empty itself. -/
theorem joined_eq_empty_iff {pieces : List String} (allNotEmpty : "" ∉ pieces) (sep : String) :
    Text.joined sep pieces = "" ↔ pieces = [] := by
  refine ⟨fun nothing => ?_, fun nothing => by rw [nothing]; rfl⟩
  cases pieces with
  | nil => rfl
  | cons first rest =>
    rw [Text.joined, ← String.toList_inj, String.toList_ofList, List.map_cons] at nothing
    have empty : first.toList = [] := by
      by_cases last : rest.map String.toList = []
      · simpa [last, Text.join] using nothing
      · rw [Text.join_cons last, List.append_assoc] at nothing
        exact (List.append_eq_nil_iff.1 nothing).1
    exact absurd (String.toList_eq_nil_iff.1 empty ▸ List.mem_cons_self) allNotEmpty

theorem empty_notMem_distinctOptions (options : List String) : "" ∉ distinctOptions options := by
  rw [distinctOptions_eq, List.mem_eraseDups, givenOptions_eq_filter_map, List.mem_filter]
  simp

theorem mountArguments_eq (source target fsType : String) (options : List String) :
    mountArguments source target fsType options =
      (if fsType = "" then [] else ["-t", fsType]) ++
        (if Text.joined "," (distinctOptions options) = "" then []
          else ["-o", Text.joined "," (distinctOptions options)]) ++
        (if source = "" then [] else [source]) ++ [target] := by
  simp only [joined_eq_empty_iff (empty_notMem_distinctOptions options)]
  simp only [mountArguments, String.isEmpty_iff, List.isEmpty_iff]

theorem mountArguments_congr (same : distinctOptions options = distinctOptions others)
    (source target fsType : String) :
    mountArguments source target fsType options = mountArguments source target fsType others := by
  rw [mountArguments, same]
  rfl

/-- A mount is told its type, its options, its source and its target, each of the first three only
if it is there. Every option that is given is told once, where it was first given, and this leaves
one list of options. The arguments stay the same if that list is given instead, if options that are
blank or have been given before are added anywhere, and if blanks are added around options. -/
theorem mountArguments_tell_each_once (source target fsType : String) (options : List String) :
    ∃ passed, FirstAppearances (givenOptions options) passed ∧ passed.Nodup ∧
      (∀ others, FirstAppearances (givenOptions options) others → others = passed) ∧
      let list := Text.joined "," passed
      let arguments := mountArguments source target fsType
      arguments options =
        (if fsType = "" then [] else ["-t", fsType]) ++ (if list = "" then [] else ["-o", list]) ++
          (if source = "" then [] else [source]) ++ [target] ∧
      arguments passed = arguments options ∧
      (∀ before after blank, options = before ++ after → Text.allBlank blank.toList = true →
        arguments (before ++ blank :: after) = arguments options) ∧
      (∀ before after option, options = before ++ after → option ∈ before →
        arguments (before ++ option :: after) = arguments options) ∧
      ∀ padded, List.Forall₂ IsPadded options padded → arguments padded = arguments options := by
  have told := firstAppearances_distinctOptions options
  refine ⟨distinctOptions options, told, told.nodup, fun others also => also.unique told,
    mountArguments_eq source target fsType options, ?_, ?_, ?_, ?_⟩
  · exact mountArguments_congr (distinctOptions_distinctOptions options) source target fsType
  · rintro before after blank rfl isBlank
    exact mountArguments_congr (distinctOptions_blank isBlank before after) source target fsType
  · rintro before after option rfl listed
    exact mountArguments_congr (distinctOptions_again listed after) source target fsType
  · intro padded isPadded
    exact mountArguments_congr (distinctOptions_padded isPadded) source target fsType

example : mountArguments "/dev/sdb" "/mnt/data" "" ["ro", " ", "noatime", " ro ", ""] =
    ["-o", "ro,noatime", "/dev/sdb", "/mnt/data"] := by decide

end HostStorage
