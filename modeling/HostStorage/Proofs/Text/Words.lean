import HostStorage.Proofs.Text.Pieces

/-!
# Which words a text has

A text has some words if it consists of them, with at least one blank between two of them and any
number around. This leaves one list of words for each text, and it is the one that cutting the text
at its blanks gives (`words_eq_iff`).
-/
namespace HostStorage.Text

/-- A text consists of some words, in turn, and blanks that divide them. -/
inductive HasWords : List Char → List (List Char) → Prop
  | none {gap : List Char} (blank : allBlank gap = true) : HasWords gap []
  | next {gap word rest : List Char} {others : List (List Char)} (blank : allBlank gap = true)
      (isWord : IsWord word) (divided : ∀ c ∈ rest.head?, isBlank c = true)
      (more : HasWords rest others) : HasWords (gap ++ word ++ rest) (word :: others)

theorem words_cons_of_isBlank {c : Char} (blank : isBlank c = true) (cs : List Char) :
    words (c :: cs) = words cs :=
  words_append_cons blank [] cs

theorem words_append_of_allBlank {gap : List Char} (blank : allBlank gap = true) (cs : List Char) :
    words (gap ++ cs) = words cs := by
  induction gap with
  | nil => rfl
  | cons c gap ih =>
    rw [allBlank, List.all_cons, Bool.and_eq_true] at blank
    rw [List.cons_append, words_cons_of_isBlank blank.1, ih blank.2]

/-- A word ends where a blank follows. -/
theorem words_append_of_isWord {word rest : List Char} (isWord : IsWord word)
    (divided : ∀ c ∈ rest.head?, isBlank c = true) : words (word ++ rest) = word :: words rest := by
  cases rest with
  | nil =>
    rw [List.append_nil, isWord.words_eq]
    rfl
  | cons c rest =>
    have blank : isBlank c = true := divided c rfl
    rw [words_append_cons blank, isWord.words_eq, words_cons_of_isBlank blank]
    rfl

theorem HasWords.words_eq {cs : List Char} {pieces : List (List Char)}
    (hasWords : HasWords cs pieces) : words cs = pieces := by
  induction hasWords with
  | @none gap blank =>
    rw [← List.append_nil gap, words_append_of_allBlank blank]
    rfl
  | next blank isWord divided _ ih =>
    rw [List.append_assoc, words_append_of_allBlank blank, words_append_of_isWord isWord divided,
      ih]

/-- A text that does not start with a blank starts with a word. -/
theorem exists_isWord_append {c : Char} (solid : isBlank c = false) (cs : List Char) :
    ∃ word rest, c :: cs = word ++ rest ∧ IsWord word ∧ ∀ d ∈ rest.head?, isBlank d = true := by
  refine ⟨c :: cs.takeWhile (!isBlank ·), cs.dropWhile (!isBlank ·), ?_,
    ⟨List.cons_ne_nil _ _, ?_⟩, ?_⟩
  · rw [List.cons_append, List.takeWhile_append_dropWhile]
  · intro d listed
    rcases List.mem_cons.1 listed with rfl | later
    · exact solid
    · simpa using List.mem_takeWhile_imp later
  · intro d isFirst
    have stopped := List.head?_dropWhile_not (!isBlank ·) cs
    rw [Option.mem_def.1 isFirst] at stopped
    simpa using stopped

theorem HasWords.cons_of_isBlank {c : Char} {cs : List Char} {pieces : List (List Char)}
    (blank : isBlank c = true) (hasWords : HasWords cs pieces) : HasWords (c :: cs) pieces := by
  have longer : ∀ {gap}, allBlank gap = true → allBlank (c :: gap) = true := by
    intro gap gapBlank
    rw [allBlank, List.all_cons, blank, Bool.true_and]
    exact gapBlank
  cases hasWords with
  | none gapBlank => exact .none (longer gapBlank)
  | next gapBlank isWord divided more => exact .next (longer gapBlank) isWord divided more

/-- Every text has words. -/
theorem exists_hasWords (cs : List Char) : ∃ pieces, HasWords cs pieces := by
  induction size : cs.length using Nat.strongRecOn generalizing cs with
  | ind n ih =>
    cases cs with
    | nil => exact ⟨[], .none rfl⟩
    | cons c cs =>
      cases blank : isBlank c with
      | true =>
        obtain ⟨pieces, hasWords⟩ := ih cs.length (by rw [← size]; simp) cs rfl
        exact ⟨pieces, hasWords.cons_of_isBlank blank⟩
      | false =>
        obtain ⟨word, rest, whole, isWord, divided⟩ := exists_isWord_append blank cs
        have shorter : rest.length < n := by
          have positive := List.length_pos_iff.2 isWord.1
          rw [← size, whole, List.length_append]
          omega
        obtain ⟨others, more⟩ := ih rest.length shorter rest rfl
        rw [whole]
        exact ⟨word :: others, @HasWords.next [] word rest others rfl isWord divided more⟩

theorem words_eq_iff {cs : List Char} {pieces : List (List Char)} :
    words cs = pieces ↔ HasWords cs pieces := by
  refine ⟨?_, HasWords.words_eq⟩
  rintro rfl
  obtain ⟨pieces, hasWords⟩ := exists_hasWords cs
  rwa [hasWords.words_eq]

end HostStorage.Text
