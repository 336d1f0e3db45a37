import HostStorage.Proofs.Mount.Line

/-!
# Lines that the kernel writes

In a path the kernel escapes the blanks that end a field or a line, the backslash and the number
sign; it copies all other characters, further blanks among them. The reader takes every blank for
the end of a field. So a line of the kernel gives its entry back exactly if its paths have no such
further blank (`parse_kernelLine_eq_ok_iff`): with one, a path is cut short and what follows moves
into the fields after it.
-/
namespace HostStorage
namespace Octal

def isKernelEscaped (c : Char) : Bool := [' ', '\t', '\n', '\\', '#'].contains c

def kernelWrite (cs : List Char) : List Char := writeKeeping (!isKernelEscaped ·) cs

def kernelWritten (s : String) : String := String.ofList (kernelWrite s.toList)

/-- A blank that the kernel copies. -/
def isStrayBlank (c : Char) : Bool := Text.isBlank c && !isKernelEscaped c

theorem kernelWrite_cons (c : Char) (cs : List Char) :
    kernelWrite (c :: cs) =
      (if !isKernelEscaped c then [c] else escape c) ++ kernelWrite cs := by
  rw [kernelWrite, writeKeeping, List.flatMap_cons]
  rfl

theorem writes_kernelWrite (cs : List Char) :
    Writes (!isKernelEscaped ·) cs (kernelWrite cs) :=
  writes_writeKeeping (fun _ kept => kept) cs

theorem decode_kernelWrite (cs : List Char) : decode (kernelWrite cs) = cs :=
  decode_of_writes rfl (writes_kernelWrite cs)

/-- The blanks in what the kernel writes are the stray blanks of the path. -/
theorem isStrayBlank_of_mem_kernelWrite {cs : List Char} {c : Char} (listed : c ∈ kernelWrite cs)
    (blank : Text.isBlank c = true) : isStrayBlank c = true ∧ c ∈ cs := by
  obtain ⟨copied, here⟩ := (writes_kernelWrite cs).copies_of_isBlank listed blank
  exact ⟨by simp [isStrayBlank, blank, copied], here⟩

/-- The kernel's writing starts and ends as a field. -/
theorem isSolid_kernelWrite {cs : List Char} (notEmpty : cs ≠ []) :
    Text.IsSolid (kernelWrite cs) := by
  refine ⟨(writes_kernelWrite cs).ne_nil notEmpty, fun listed => ?_⟩
  have stray := (isStrayBlank_of_mem_kernelWrite listed rfl).1
  exact absurd stray (by decide)

/-- A path without stray blanks is one word as the kernel writes it. -/
theorem isWord_kernelWrite {cs : List Char} (notEmpty : cs ≠ [])
    (tidy : ∀ c ∈ cs, isStrayBlank c = false) : Text.IsWord (kernelWrite cs) := by
  refine ⟨(writes_kernelWrite cs).ne_nil notEmpty, fun c listed => ?_⟩
  cases blank : Text.isBlank c with
  | false => rfl
  | true =>
    obtain ⟨stray, here⟩ := isStrayBlank_of_mem_kernelWrite listed blank
    rw [tidy c here] at stray
    cases stray

/-- What the kernel writes is cut where the path has its stray blanks. -/
theorem fields_kernelWrite (cs : List Char) :
    Text.fields Text.isBlank (kernelWrite cs) = (Text.fields isStrayBlank cs).map kernelWrite := by
  induction cs with
  | nil => rfl
  | cons c r ih =>
    rcases Text.fields_cons_cases isStrayBlank c r with
      ⟨stray, divided⟩ | ⟨ordinary, piece, others, pieces, divided⟩
    · obtain ⟨blank, copied⟩ : Text.isBlank c = true ∧ isKernelEscaped c = false := by
        simpa [isStrayBlank] using stray
      rw [divided, kernelWrite_cons, copied]
      simp only [Bool.not_false, if_true, List.singleton_append]
      rw [Text.fields, if_pos blank, ih]
      rfl
    · have whole : ∀ d ∈ (if !isKernelEscaped c then [c] else escape c),
          Text.isBlank d = false := by
        intro d listed
        split at listed
        next copied =>
          rw [List.mem_singleton.1 listed]
          simpa [isStrayBlank, copied] using ordinary
        next => exact not_isBlank_of_mem_escape listed
      rw [kernelWrite_cons, Text.fields_append_of_forall_not whole, ih, pieces, divided,
        List.map_cons, List.map_cons, List.modifyHead_cons, kernelWrite_cons]

/-- No word of what the kernel writes is read as a text with a stray blank. -/
theorem not_isStrayBlank_of_word {cs word : List Char}
    (listed : word ∈ Text.words (kernelWrite cs)) : ∀ c ∈ decode word, isStrayBlank c = false := by
  have piece := List.mem_of_mem_filter listed
  rw [fields_kernelWrite] at piece
  obtain ⟨path, here, rfl⟩ := List.mem_map.1 piece
  rw [decode_kernelWrite]
  exact Text.not_of_mem_fields here

/-- A word of a path as the kernel writes it. -/
theorem not_isStrayBlank_of_mem_wordsOf {s word : String}
    (listed : word ∈ Text.wordsOf (kernelWritten s)) :
    ∀ c ∈ (decoded word).toList, isStrayBlank c = false := by
  rw [kernelWritten, Text.wordsOf, String.toList_ofList] at listed
  obtain ⟨cs, here, rfl⟩ := List.mem_map.1 listed
  rw [decoded, String.toList_ofList, String.toList_ofList]
  exact not_isStrayBlank_of_word here

end Octal

namespace MountEntry

def kernelLine (e : MountEntry) : String :=
  e.line (Octal.kernelWritten e.root) (Octal.kernelWritten e.mountPoint)
    (Octal.kernelWritten e.mountSource)

/-- The paths of an entry have no blank that the kernel copies. -/
def Tidy (e : MountEntry) : Prop :=
  ∀ c ∈ e.root.toList ++ e.mountPoint.toList ++ e.mountSource.toList, Octal.isStrayBlank c = false

instance : DecidablePred Tidy := fun e =>
  decidable_of_iff ((e.root.toList ++ e.mountPoint.toList ++ e.mountSource.toList).all
    (!Octal.isStrayBlank ·) = true) (by simp [Tidy, or_imp, forall_and])

variable {e : MountEntry}

/-- What is read off the kernel's line as the source is a word of the source. -/
theorem mem_wordsOf_of_append_eq {words more : List String} {mountSource : String}
    (same : words ++ e.superField = mountSource :: more)
    (further : (more.head?.map optionList).getD [] = e.superOptions) : mountSource ∈ words := by
  cases words with
  | nil =>
    -- only the further options are left, but then there are none
    unfold superField at same
    split at same
    next => cases same
    next notEmpty =>
      cases same
      exact absurd further.symm notEmpty
  | cons word others =>
    cases same
    exact List.mem_cons_self

/-- An entry that the kernel's line gives back has tidy paths. -/
theorem tidy_of_parse_kernelLine (writable : e.Writable) (rootSome : e.root ≠ "")
    (pointSome : e.mountPoint ≠ "")
    (dash : "-" ∉ e.fieldsBefore (Octal.kernelWritten e.root) (Octal.kernelWritten e.mountPoint))
    (parsed : MountEntry.parse e.kernelLine = .ok e) : e.Tidy := by
  have solid : ∀ {s : String}, s ≠ "" → Text.IsSolid (Octal.kernelWritten s).toList := by
    intro s notEmpty
    rw [Octal.kernelWritten, String.toList_ofList]
    exact Octal.isSolid_kernelWrite (by simpa using notEmpty)
  have cut := cut?_line writable (Octal.kernelWritten e.mountSource) (solid rootSome)
    (solid pointSome) dash
  rw [kernelLine, parse_eq_ok_iff cut] at parsed
  obtain ⟨root, mountPoint, options, mountSource, more, before, after, decodedRoot, decodedPoint, -,
    decodedSource, further⟩ := parsed
  rw [words_fieldsBefore writable] at before
  rw [words_fieldsAfter writable] at after
  simp only [List.cons.injEq, true_and] at before after
  -- the optional fields are as many as before, so the paths have one word each on the whole
  have paths : Text.wordsOf (Octal.kernelWritten e.root) ++
      Text.wordsOf (Octal.kernelWritten e.mountPoint) = [root, mountPoint] := by
    change _ = [root, mountPoint] ++ options :: e.optionalFields at before
    exact List.append_inj_left' before (by simp)
  have tidyWord : ∀ word ∈ [root, mountPoint], ∀ c ∈ (Octal.decoded word).toList,
      Octal.isStrayBlank c = false := by
    intro word listed
    rw [← paths] at listed
    rcases List.mem_append.1 listed with ofRoot | ofPoint
    · exact Octal.not_isStrayBlank_of_mem_wordsOf ofRoot
    · exact Octal.not_isStrayBlank_of_mem_wordsOf ofPoint
  intro c listed
  rcases List.mem_append.1 listed with path | ofSource
  · rcases List.mem_append.1 path with ofRoot | ofPoint
    · rw [← decodedRoot] at ofRoot
      exact tidyWord root (by simp) c ofRoot
    · rw [← decodedPoint] at ofPoint
      exact tidyWord mountPoint (by simp) c ofPoint
  · rw [← decodedSource] at ofSource
    exact Octal.not_isStrayBlank_of_mem_wordsOf (mem_wordsOf_of_append_eq after further) c ofSource

/-- The kernel's line gives an entry back exactly if its paths have no blank that the kernel
copies. -/
theorem parse_kernelLine_eq_ok_iff (e : MountEntry) (writable : e.Writable) (rootSome : e.root ≠ "")
    (pointSome : e.mountPoint ≠ "") (sourceSome : e.mountSource ≠ "")
    (dash : "-" ∉ e.fieldsBefore (Octal.kernelWritten e.root)
      (Octal.kernelWritten e.mountPoint)) :
    MountEntry.parse e.kernelLine = .ok e ↔ e.Tidy := by
  refine ⟨tidy_of_parse_kernelLine writable rootSome pointSome dash, fun tidy => ?_⟩
  have word : ∀ {s : String}, s ≠ "" → (∀ c ∈ s.toList, Octal.isStrayBlank c = false) →
      Text.IsWord (Octal.kernelWritten s).toList := by
    intro s notEmpty tidy
    rw [Octal.kernelWritten, String.toList_ofList]
    exact Octal.isWord_kernelWrite (by simpa using notEmpty) tidy
  have decoded : ∀ s, Octal.decoded (Octal.kernelWritten s) = s := by
    intro s
    rw [Octal.decoded, Octal.kernelWritten, String.toList_ofList, Octal.decode_kernelWrite,
      String.ofList_toList]
  rw [kernelLine, parse_line writable (word rootSome fun c listed => tidy c (by simp [listed]))
    (word pointSome fun c listed => tidy c (by simp [listed]))
    (word sourceSome fun c listed => tidy c (by simp [listed])) dash]
  simp only [decoded]

/-- A mount point with a blank and a number sign in its name. -/
theorem spaced_kernel_line :
    let e : MountEntry := ⟨"36", "35", "98:0", "/", "/mnt/a b#1", ["rw", "noatime"],
      ["master:1"], "ext3", "/dev/root", ["rw"]⟩
    e.Writable ∧ "-" ∉ e.fieldsBefore (Octal.kernelWritten e.root)
      (Octal.kernelWritten e.mountPoint) ∧
    e.kernelLine = "36 35 98:0 / /mnt/a\\040b\\0431 rw,noatime master:1 - ext3 /dev/root rw" ∧
    e.Tidy ∧ MountEntry.parse e.kernelLine = .ok e := by
  intro e
  have writable : e.Writable := ⟨by decide +kernel, by decide, by decide +kernel⟩
  have dash : "-" ∉ e.fieldsBefore (Octal.kernelWritten e.root)
      (Octal.kernelWritten e.mountPoint) := by
    decide +kernel
  have tidy : e.Tidy := by decide +kernel
  exact ⟨writable, dash, by decide +kernel, tidy, (parse_kernelLine_eq_ok_iff e writable
    (by decide) (by decide) (by decide) dash).2 tidy⟩

/-- A mount point with an ideographic space is cut there, and the rest of it is taken for the
options. -/
theorem wide_blank_shifts_fields :
    let e : MountEntry := ⟨"36", "35", "98:0", "/", "/mnt/a\u3000b", ["rw", "noatime"],
      ["master:1"], "ext3", "/dev/root", ["rw"]⟩
    e.Writable ∧ "-" ∉ e.fieldsBefore (Octal.kernelWritten e.root)
      (Octal.kernelWritten e.mountPoint) ∧
    e.kernelLine = "36 35 98:0 / /mnt/a\u3000b rw,noatime master:1 - ext3 /dev/root rw" ∧
    MountEntry.parse e.kernelLine ≠ .ok e ∧
    (MountEntry.parse e.kernelLine).toOption = some { e with
      mountPoint := "/mnt/a"
      mountOptions := ["b"]
      optionalFields := ["rw,noatime", "master:1"] } := by
  intro e
  have read : (MountEntry.parse e.kernelLine).toOption = some { e with
      mountPoint := "/mnt/a"
      mountOptions := ["b"]
      optionalFields := ["rw,noatime", "master:1"] } := by
    decide +kernel
  refine ⟨⟨by decide +kernel, by decide, by decide +kernel⟩, by decide +kernel, by decide +kernel,
    fun same => ?_, read⟩
  rw [same] at read
  exact absurd read (by decide)

end MountEntry
end HostStorage
