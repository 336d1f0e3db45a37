import HostStorage.Text.Split
import Mathlib.Data.List.DropRight
import Mathlib.Data.List.Infix
import Mathlib.Data.List.TakeWhile

/-!
# Laws of cutting and trimming

How many pieces a text has between separators, what trimming leaves, where a marker is first found,
and that cutting undoes joining: a separator divides the pieces of a text (`fields_append_cons`),
from which the words and the options of a joined text follow.
-/
namespace HostStorage.Text

theorem fields_eq_splitOnP (p : Char → Bool) (cs : List Char) : fields p cs = cs.splitOnP p := by
  induction cs with
  | nil => rfl
  | cons c r ih =>
    rw [fields, List.splitOnP_cons_eq_if_modifyHead, ← ih]
    split
    next => rfl
    next =>
      cases pieces : fields p r with
      | nil => exact absurd pieces (fields_ne_nil p r)
      | cons w ws => rfl

/-- A character in front of a text is a separator, or it starts the first piece. -/
theorem fields_cons_cases (p : Char → Bool) (c : Char) (r : List Char) :
    (p c = true ∧ fields p (c :: r) = [] :: fields p r) ∨
      p c = false ∧ ∃ piece others, fields p r = piece :: others ∧
        fields p (c :: r) = (c :: piece) :: others := by
  obtain ⟨piece, others, pieces⟩ := List.exists_cons_of_ne_nil (fields_ne_nil p r)
  cases separates : p c with
  | true => exact Or.inl ⟨rfl, by rw [fields, if_pos separates]⟩
  | false => exact Or.inr ⟨rfl, piece, others, pieces, by simp [fields, separates, pieces]⟩

/-- There is one piece more than there are separators. -/
theorem length_fields (p : Char → Bool) (cs : List Char) :
    (fields p cs).length = cs.countP p + 1 := by
  induction cs with
  | nil => rfl
  | cons c r ih =>
    rcases fields_cons_cases p c r with ⟨separates, whole⟩ | ⟨other, piece, others, pieces, whole⟩
    · simp [whole, separates, ih]
    · rw [pieces] at ih
      simpa [whole, other] using ih

/-- A text without separators is its only piece. -/
theorem fields_of_forall_not {p : Char → Bool} {cs : List Char} (whole : ∀ c ∈ cs, p c = false) :
    fields p cs = [cs] := by
  rw [fields_eq_splitOnP, List.splitOnP_eq_singleton whole]

/-- A separator divides the pieces of a text. -/
theorem fields_append_cons {p : Char → Bool} {c : Char} (separates : p c = true)
    (before after : List Char) :
    fields p (before ++ c :: after) = fields p before ++ fields p after := by
  simp only [fields_eq_splitOnP, List.splitOnP_append_cons before after separates]

/-- Text without separators is the start of the first piece. -/
theorem fields_append_of_forall_not {p : Char → Bool} {start : List Char}
    (whole : ∀ c ∈ start, p c = false) (cs : List Char) :
    fields p (start ++ cs) = (fields p cs).modifyHead (start ++ ·) := by
  induction start with
  | nil =>
    rw [List.nil_append]
    cases fields p cs <;> rfl
  | cons c r ih =>
    have tail := ih fun d listed => whole d (List.mem_cons_of_mem c listed)
    rw [fields_eq_splitOnP] at tail ⊢
    rw [List.cons_append, List.splitOnP_cons_eq_if_modifyHead,
      if_neg (by simp [whole c List.mem_cons_self]), tail, List.modifyHead_modifyHead]
    rfl

/-- No piece has a separator. -/
theorem not_of_mem_fields {p : Char → Bool} {cs piece : List Char} (listed : piece ∈ fields p cs) :
    ∀ c ∈ piece, p c = false := by
  induction cs generalizing piece with
  | nil =>
    rw [List.mem_singleton.1 listed]
    simp
  | cons d r ih =>
    rcases fields_cons_cases p d r with ⟨-, whole⟩ | ⟨other, first, others, pieces, whole⟩
    · rw [whole] at listed
      rcases List.mem_cons.1 listed with rfl | later
      · simp
      · exact ih later
    · rw [whole] at listed
      rw [pieces] at ih
      rcases List.mem_cons.1 listed with rfl | later
      · exact List.forall_mem_cons.2 ⟨other, ih List.mem_cons_self⟩
      · exact ih (List.mem_cons_of_mem first later)

/-- A piece has no character that the text has not. -/
theorem mem_of_mem_fields {p : Char → Bool} {cs piece : List Char} (listed : piece ∈ fields p cs)
    {c : Char} (here : c ∈ piece) : c ∈ cs := by
  induction cs generalizing piece with
  | nil =>
    rw [List.mem_singleton.1 listed] at here
    exact here
  | cons d r ih =>
    rcases fields_cons_cases p d r with ⟨-, whole⟩ | ⟨-, first, others, pieces, whole⟩
    · rw [whole] at listed
      rcases List.mem_cons.1 listed with rfl | later
      · exact absurd here List.not_mem_nil
      · exact List.mem_cons_of_mem d (ih later here)
    · rw [whole] at listed
      rw [pieces] at ih
      rcases List.mem_cons.1 listed with rfl | later
      · rcases List.mem_cons.1 here with rfl | rest
        · exact List.mem_cons_self
        · exact List.mem_cons_of_mem d (ih List.mem_cons_self rest)
      · exact List.mem_cons_of_mem d (ih (List.mem_cons_of_mem first later) here)

/-- Pieces without the separator are found again in what joins them. -/
theorem fields_join {sep : Char} {pieces : List (List Char)} (notEmpty : pieces ≠ [])
    (whole : ∀ piece ∈ pieces, sep ∉ piece) : fields (· == sep) (join [sep] pieces) = pieces := by
  rw [fields_eq_splitOnP]
  exact List.splitOn_intercalate sep whole notEmpty

/-- The first piece is what stands before the first separator. -/
theorem head?_fields (p : Char → Bool) (cs : List Char) :
    (fields p cs).head? = some (cs.takeWhile (!p ·)) := by
  induction cs with
  | nil => rfl
  | cons c r ih =>
    rw [List.takeWhile_cons]
    rcases fields_cons_cases p c r with ⟨separates, whole⟩ | ⟨other, piece, others, pieces, whole⟩
    · simp [whole, separates]
    · rw [pieces] at ih
      simpa [whole, other] using ih

/-- The pieces of a text are those without the separator that are joined to it. -/
theorem splitAt_eq_iff {sep : Char} {s : String} {pieces : List String} :
    splitAt sep s = pieces ↔ pieces ≠ [] ∧ s = joined (String.ofList [sep]) pieces ∧
      ∀ piece ∈ pieces, sep ∉ piece.toList := by
  constructor
  · intro cut
    subst cut
    refine ⟨by simp [splitAt, fields_ne_nil], ?_, ?_⟩
    · have whole : join [sep] (fields (· == sep) s.toList) = s.toList := by
        rw [fields_eq_splitOnP]
        exact List.intercalate_splitOn sep
      rw [joined, splitAt, List.map_map, String.toList_ofList]
      simp only [Function.comp_def, String.toList_ofList, List.map_id', whole, String.ofList_toList]
    · intro piece listed separator
      obtain ⟨cs, isPiece, rfl⟩ := List.mem_map.1 listed
      rw [String.toList_ofList] at separator
      exact absurd (not_of_mem_fields isPiece sep separator) (by simp)
  · intro made
    obtain ⟨notEmpty, rfl, whole⟩ := made
    have found : fields (· == sep) (join [sep] (pieces.map String.toList)) =
        pieces.map String.toList := by
      refine fields_join (by simpa using notEmpty) fun cs listed => ?_
      obtain ⟨piece, isPiece, rfl⟩ := List.mem_map.1 listed
      exact whole piece isPiece
    rw [splitAt, joined, String.toList_ofList, String.toList_ofList, found]
    simp [Function.comp_def]

/-! ## Words -/

/-- A blank divides the words of a text. -/
theorem words_append_cons {c : Char} (blank : isBlank c = true) (before after : List Char) :
    words (before ++ c :: after) = words before ++ words after := by
  rw [words, fields_append_cons blank, List.filter_append]
  rfl

def IsWord (cs : List Char) : Prop := cs ≠ [] ∧ ∀ c ∈ cs, isBlank c = false

instance : DecidablePred IsWord :=
  fun cs => decidable_of_iff (cs ≠ [] ∧ cs.all (!isBlank ·) = true) (by simp [IsWord])

theorem IsWord.words_eq {cs : List Char} (word : IsWord cs) : words cs = [cs] := by
  rw [words, fields_of_forall_not word.2]
  simpa using word.1

theorem join_cons {others : List (List Char)} (more : others ≠ []) (sep piece : List Char) :
    join sep (piece :: others) = piece ++ sep ++ join sep others :=
  List.intercalate_cons_of_ne_nil more

theorem join_cons_cons (sep piece : List Char) (c : Char) (others : List (List Char)) :
    join sep ((c :: piece) :: others) = c :: join sep (piece :: others) := by
  cases others with
  | nil => simp [join]
  | cons next others =>
    rw [join_cons (List.cons_ne_nil next others), join_cons (List.cons_ne_nil next others)]
    rfl

/-- The words of pieces with blanks between them are the words of the pieces. -/
theorem words_join (pieces : List (List Char)) :
    words (join [' '] pieces) = pieces.flatMap words := by
  induction pieces with
  | nil => rfl
  | cons piece others ih =>
    by_cases last : others = []
    · simp [last, join]
    · rw [join_cons last, List.append_assoc, List.singleton_append, words_append_cons rfl, ih]
      rfl

/-! ## The first occurrence of a marker -/

/-- What stands before the first occurrence of a character. -/
theorem takeWhile_append_cons {c : Char} {cs : List Char} (absent : c ∉ cs) (rest : List Char) :
    (cs ++ c :: rest).takeWhile (· != c) = cs := by
  have others : ∀ d ∈ cs, (d != c) = true := by
    intro d listed
    apply bne_iff_ne.2
    rintro rfl
    exact absent listed
  rw [List.takeWhile_append_of_pos others, List.takeWhile_cons_of_neg (by simp), List.append_nil]

/-- Text without the first character of a marker is passed over. -/
theorem cut?_append_of_notMem {first : Char} {cs : List Char} (absent : first ∉ cs)
    (marker rest : List Char) :
    cut? (first :: marker) (cs ++ rest) =
      (cut? (first :: marker) rest).map fun p => (cs ++ p.1, p.2) := by
  induction cs with
  | nil => simp
  | cons c r ih =>
    have other : first ≠ c := fun same => absent (same ▸ List.mem_cons_self)
    have tail := ih fun listed => absent (List.mem_cons_of_mem c listed)
    rw [List.cons_append, cut?]
    simp [List.isPrefixOf?, other, tail, Function.comp_def]

/-- A marker in front is cut off. -/
theorem cut?_append_self (first : Char) (marker rest : List Char) :
    cut? (first :: marker) (first :: marker ++ rest) = some ([], rest) := by
  have here : (first :: marker).isPrefixOf? (first :: marker ++ rest) = some rest :=
    List.isPrefixOf?_eq_some_iff_append_eq.2 rfl
  rw [List.cons_append] at here ⊢
  rw [cut?, here]

/-- A piece that shows where it starts and ends among pieces with blanks between them. -/
def IsSolid (piece : List Char) : Prop := piece ≠ [] ∧ ' ' ∉ piece

theorem IsWord.isSolid {cs : List Char} (word : IsWord cs) : IsSolid cs :=
  ⟨word.1, fun listed => absurd (word.2 ' ' listed) (by decide)⟩

/-- A lone dash does not start where another piece starts. -/
theorem isPrefixOf?_dash_eq_none {piece : List Char} (solid : IsSolid piece)
    (other : piece ≠ ['-']) (rest : List Char) :
    [' ', '-', ' '].isPrefixOf? (' ' :: (piece ++ ' ' :: rest)) = none := by
  obtain ⟨notEmpty, whole⟩ := solid
  match piece with
  | [] => exact absurd rfl notEmpty
  | [c] =>
    have notDash : '-' ≠ c := by rintro rfl; exact other rfl
    simp [List.isPrefixOf?, notDash]
  | c :: d :: r =>
    have notBlank : ' ' ≠ d := by rintro rfl; exact whole (by simp)
    simp [List.isPrefixOf?, notBlank]

/-- The first lone dash is cut at, if no piece before it is one. -/
theorem cut?_join {before after : List (List Char)} (notEmpty : before ≠ []) (more : after ≠ [])
    (solid : ∀ piece ∈ before, IsSolid piece) (dash : ['-'] ∉ before) :
    cut? [' ', '-', ' '] (join [' '] (before ++ ['-'] :: after)) =
      some (join [' '] before, join [' '] after) := by
  induction before with
  | nil => exact absurd rfl notEmpty
  | cons piece others ih =>
    have whole := (solid piece List.mem_cons_self).2
    rw [List.cons_append, join_cons (by simp), List.append_assoc, cut?_append_of_notMem whole]
    cases others with
    | nil =>
      rw [List.nil_append, join_cons more]
      change Option.map _ (cut? [' ', '-', ' '] ([' ', '-', ' '] ++ join [' '] after)) = _
      rw [cut?_append_self]
      simp [join]
    | cons next others =>
      have later : cut? [' ', '-', ' '] (join [' '] (next :: others ++ ['-'] :: after)) =
          some (join [' '] (next :: others), join [' '] after) :=
        ih (List.cons_ne_nil _ _) (fun piece listed => solid piece (List.mem_cons_of_mem _ listed))
          (fun listed => dash (List.mem_cons_of_mem _ listed))
      have notDash : next ≠ ['-'] := by rintro rfl; exact dash (by simp)
      have passed := isPrefixOf?_dash_eq_none (solid next (by simp)) notDash
        (join [' '] (others ++ ['-'] :: after))
      have here : join [' '] (next :: others ++ ['-'] :: after) =
          next ++ ' ' :: join [' '] (others ++ ['-'] :: after) := by
        rw [List.cons_append, join_cons (by simp), List.append_assoc, List.singleton_append]
      rw [← here] at passed
      rw [List.singleton_append, cut?, passed, later]
      simp [join_cons]

/-- What is cut stands around the marker. -/
theorem append_of_cut?_eq_some {marker cs before after : List Char}
    (found : cut? marker cs = some (before, after)) : cs = before ++ marker ++ after := by
  induction cs generalizing before with
  | nil =>
    cases marker with
    | nil =>
      cases found
      rfl
    | cons c r => cases found
  | cons c r ih =>
    rw [cut?] at found
    split at found
    next rest here =>
      cases found
      exact (List.isPrefixOf?_eq_some_iff_append_eq.1 here).symm
    next absent =>
      obtain ⟨⟨front, tail⟩, later, same⟩ := Option.map_eq_some_iff.1 found
      cases same
      rw [ih later]
      rfl

/-- A marker is cut at where it first stands, so what follows any of its occurrences follows there
too. -/
theorem exists_cut?_append (marker before after : List Char) :
    ∃ front tail, cut? marker (before ++ marker ++ after) = some (front, tail) ∧
      after <:+ tail := by
  induction before with
  | nil =>
    have here : marker.isPrefixOf? (marker ++ after) = some after :=
      List.isPrefixOf?_eq_some_iff_append_eq.2 rfl
    refine ⟨[], after, ?_, List.suffix_refl after⟩
    rw [List.nil_append, cut?.eq_def]
    split
    next empty =>
      obtain ⟨rfl, rfl⟩ := List.append_eq_nil_iff.1 empty
      rfl
    next c r whole =>
      rw [whole] at here
      rw [here]
  | cons c r ih =>
    obtain ⟨front, tail, found, follows⟩ := ih
    rw [List.cons_append, List.cons_append, cut?]
    split
    next rest here =>
      refine ⟨[], rest, rfl, ?_⟩
      have whole := List.isPrefixOf?_eq_some_iff_append_eq.1 here
      have ends : after <:+ marker ++ rest := ⟨c :: (r ++ marker), by rw [whole]; simp⟩
      have long : after.length ≤ rest.length := by
        have lengths := congrArg List.length whole
        simp only [List.length_append, List.length_cons] at lengths
        omega
      exact List.suffix_of_suffix_length_le ends (List.suffix_append marker rest) long
    next absent => exact ⟨c :: front, tail, by rw [found]; rfl, follows⟩

/-- A text is cut at the occurrence of a marker behind which the most follows. -/
theorem cut?_eq_some_iff {marker cs before after : List Char} :
    cut? marker cs = some (before, after) ↔ cs = before ++ marker ++ after ∧
      ∀ before' after', cs = before' ++ marker ++ after' → after' <:+ after := by
  constructor
  · intro found
    refine ⟨append_of_cut?_eq_some found, fun before' after' other => ?_⟩
    obtain ⟨front, tail, found', follows⟩ := exists_cut?_append marker before' after'
    rw [← other, found] at found'
    cases found'
    exact follows
  · intro first
    obtain ⟨whole, most⟩ := first
    obtain ⟨front, tail, found, follows⟩ := exists_cut?_append marker before after
    rw [← whole] at found
    have cut := append_of_cut?_eq_some found
    obtain rfl : after = tail := follows.eq_of_length_le (most front tail cut).length_le
    rw [whole, List.append_assoc, List.append_assoc] at cut
    rw [found, List.append_cancel_right cut]

/-- A text occurs in another as an infix. -/
theorem occursIn_iff (piece cs : List Char) : occursIn piece cs = true ↔ piece <:+: cs := by
  induction cs with
  | nil => cases piece <;> simp [occursIn, cut?]
  | cons c r ih =>
    rw [List.infix_cons_iff, ← ih, occursIn, cut?]
    split
    next rest here =>
      have start : piece <+: c :: r := ⟨rest, List.isPrefixOf?_eq_some_iff_append_eq.1 here⟩
      simp [start]
    next absent =>
      have other : ¬ piece <+: c :: r := by
        rintro ⟨rest, whole⟩
        rw [List.isPrefixOf?_eq_some_iff_append_eq.2 whole] at absent
        cases absent
      rw [Option.isSome_map, occursIn]
      simp [other]

/-! ## What is left over -/

theorem trimEnd_eq_nil_iff (cs : List Char) : trimEnd cs = [] ↔ ∀ c ∈ cs, isBlank c = true := by
  simp [trimEnd, List.dropWhile_eq_nil_iff]

/-- Nothing is left exactly of a text that is blank. -/
theorem trim_eq_nil_iff (cs : List Char) : trim cs = [] ↔ ∀ c ∈ cs, isBlank c = true := by
  rw [trim, trimEnd_eq_nil_iff, trimStart]
  refine ⟨fun rest c listed => ?_, fun all c listed => all c (List.dropWhile_subset isBlank listed)⟩
  rw [← List.takeWhile_append_dropWhile (p := isBlank) (l := cs)] at listed
  rcases List.mem_append.1 listed with leading | remaining
  · exact List.mem_takeWhile_imp leading
  · exact rest c remaining

/-- Text without blanks is trimmed of nothing. -/
theorem trim_of_forall_not {cs : List Char} (solid : ∀ c ∈ cs, isBlank c = false) :
    trim cs = cs := by
  have kept : ∀ {ds : List Char}, (∀ c ∈ ds, isBlank c = false) → ds.dropWhile isBlank = ds := by
    intro ds solid
    cases ds with
    | nil => rfl
    | cons c r => exact List.dropWhile_cons_of_neg (by simp [solid c List.mem_cons_self])
  rw [trim, trimStart, kept solid, trimEnd, kept (by simpa using solid), List.reverse_reverse]

theorem trim_cons_of_isBlank {c : Char} (blank : isBlank c = true) (cs : List Char) :
    trim (c :: cs) = trim cs := by
  rw [trim, trimStart, List.dropWhile_cons_of_pos blank]
  rfl

/-- Blanks around a text make no difference to what is left of it. -/
theorem trim_padded {before after : List Char} (leading : ∀ c ∈ before, isBlank c = true)
    (trailing : ∀ c ∈ after, isBlank c = true) (cs : List Char) :
    trim (before ++ cs ++ after) = trim cs := by
  have start : trimStart (before ++ cs ++ after) = trimStart (cs ++ after) := by
    rw [trimStart, List.append_assoc, List.dropWhile_append_of_pos leading]
    rfl
  have trimmedEnd : ∀ ds, trimEnd (ds ++ after) = trimEnd ds := by
    intro ds
    rw [trimEnd, List.reverse_append, List.dropWhile_append_of_pos (by simpa using trailing)]
    rfl
  rw [trim, start, trim]
  by_cases blank : ∀ c ∈ cs, isBlank c = true
  · have gone : trimStart cs = [] := List.dropWhile_eq_nil_iff.2 blank
    have allGone : trimStart (cs ++ after) = [] := by
      refine List.dropWhile_eq_nil_iff.2 fun c listed => ?_
      exact (List.mem_append.1 listed).elim (blank c) (trailing c)
    rw [gone, allGone]
  · have notEmpty : ¬ (cs.dropWhile isBlank).isEmpty = true := by
      rwa [List.isEmpty_iff, List.dropWhile_eq_nil_iff]
    rw [trimStart, List.dropWhile_append, if_neg notEmpty, trimmedEnd]
    rfl

/-- Blanks around a text without blanks are trimmed. -/
theorem trim_append_append {before cs after : List Char} (leading : ∀ c ∈ before, isBlank c = true)
    (solid : ∀ c ∈ cs, isBlank c = false) (trailing : ∀ c ∈ after, isBlank c = true) :
    trim (before ++ cs ++ after) = cs := by
  rw [trim_padded leading trailing, trim_of_forall_not solid]

/-- What is left of a text by trimming it has no blanks at its ends. -/
theorem trim_trim (cs : List Char) : trim (trim cs) = trim cs := by
  obtain ⟨rest, whole⟩ : trim cs <+: trimStart cs := List.rdropWhile_prefix isBlank _
  have start : trimStart (trim cs) = trim cs := by
    cases left : trim cs with
    | nil => rfl
    | cons c r =>
      have solid : trimStart (c :: (r ++ rest)) = c :: (r ++ rest) := by
        rw [← List.cons_append, ← left, whole]
        exact List.dropWhile_idempotent isBlank cs
      have first := List.dropWhile_eq_self_iff.1 solid (by simp)
      exact List.dropWhile_cons_of_neg first
  rw [trim, start]
  exact List.rdropWhile_idempotent isBlank _

theorem startsWith_iff {s start : String} :
    startsWith s start = true ↔ ∃ rest, s = start ++ rest := by
  rw [startsWith, List.isPrefixOf_iff_prefix]
  constructor
  · intro begins
    obtain ⟨rest, whole⟩ := begins
    refine ⟨String.ofList rest, String.toList_inj.1 ?_⟩
    rw [String.toList_append, String.toList_ofList, whole]
  · intro begins
    obtain ⟨rest, rfl⟩ := begins
    rw [String.toList_append]
    exact List.prefix_append _ _

theorem withoutStart_append (start cs : List Char) : withoutStart start (start ++ cs) = cs := by
  rw [withoutStart, List.isPrefixOf?_eq_some_iff_append_eq.2 rfl]
  rfl

theorem without_append (start rest : String) : without start (start ++ rest) = rest := by
  rw [without, String.toList_append, withoutStart_append, String.ofList_toList]

/-- A text without the start is left of itself and of what stands behind the start. -/
theorem without_eq_iff {start s bare : String} (unmarked : without start bare = bare) :
    without start s = bare ↔ s = bare ∨ s = start ++ bare := by
  constructor
  · intro remains
    rw [without, withoutStart] at remains
    cases here : start.toList.isPrefixOf? s.toList with
    | some rest =>
      rw [here, Option.getD_some] at remains
      refine Or.inr (String.toList_inj.1 ?_)
      rw [← remains, String.toList_append, String.toList_ofList]
      exact (List.isPrefixOf?_eq_some_iff_append_eq.1 here).symm
    | none =>
      rw [here, Option.getD_none, String.ofList_toList] at remains
      exact Or.inl remains
  · intro spelled
    rcases spelled with rfl | rfl
    · exact unmarked
    · exact without_append start bare

/-- A start with another character does not stand in front. -/
theorem withoutStart_of_notMem {c : Char} {start cs : List Char} (listed : c ∈ start)
    (absent : c ∉ cs) : withoutStart start cs = cs := by
  cases here : start.isPrefixOf? cs with
  | none => rw [withoutStart, here, Option.getD_none]
  | some rest =>
    have whole := List.isPrefixOf?_eq_some_iff_append_eq.1 here
    exact absurd (whole ▸ List.mem_append_left rest listed) absent

theorem withoutStart_subset (start cs : List Char) : withoutStart start cs ⊆ cs := by
  unfold withoutStart
  cases here : start.isPrefixOf? cs with
  | none => exact List.Subset.refl cs
  | some rest =>
    rw [← List.isPrefixOf?_eq_some_iff_append_eq.1 here]
    exact List.subset_append_right start rest

/-- Dropping a final character loses no other one. -/
theorem mem_dropFinal_or {c d : Char} {cs : List Char} (listed : d ∈ cs) :
    d ∈ dropFinal c cs ∨ d = c := by
  unfold dropFinal
  split
  next final =>
    obtain ⟨before, whole⟩ := List.getLast?_eq_some_iff.1 final
    rw [whole] at listed ⊢
    simpa using listed
  next => exact Or.inl listed

theorem dropFinal_subset (c : Char) (cs : List Char) : dropFinal c cs ⊆ cs := by
  unfold dropFinal
  split
  · exact List.dropLast_subset cs
  · exact List.Subset.refl cs

/-- Dropping a blank at the end makes no difference to whether the text is blank. -/
theorem allBlank_dropFinal {c : Char} (blank : isBlank c = true) (cs : List Char) :
    allBlank (dropFinal c cs) = allBlank cs := by
  rw [Bool.eq_iff_iff, allBlank, allBlank, List.all_eq_true, List.all_eq_true]
  constructor
  · intro rest d listed
    rcases mem_dropFinal_or (c := c) listed with kept | rfl
    · exact rest d kept
    · exact blank
  · intro all d kept
    exact all d (dropFinal_subset c cs kept)

/-! ## Lines -/

/-- A character of joined pieces stands in a separator or in a piece. -/
theorem mem_join {c : Char} {sep : List Char} {pieces : List (List Char)}
    (listed : c ∈ join sep pieces) : c ∈ sep ∨ ∃ piece ∈ pieces, c ∈ piece := by
  induction pieces with
  | nil => exact absurd listed List.not_mem_nil
  | cons piece others ih =>
    by_cases last : others = []
    · right
      exact ⟨piece, List.mem_cons_self, by simpa [last, join] using listed⟩
    · rw [join_cons last, List.mem_append, List.mem_append] at listed
      rcases listed with (inPiece | inSep) | later
      · exact Or.inr ⟨piece, List.mem_cons_self, inPiece⟩
      · exact Or.inl inSep
      · rcases ih later with inSep | ⟨other, isOther, inOther⟩
        · exact Or.inl inSep
        · exact Or.inr ⟨other, List.mem_cons_of_mem piece isOther, inOther⟩

/-- Lines that are blank, or do not end with a carriage return, lose nothing that is not blank at
their ends. -/
theorem filter_map_dropFinal {pieces : List (List Char)}
    (ends : ∀ piece ∈ pieces, allBlank piece = true ∨ piece.getLast? ≠ some '\r') :
    (pieces.map (dropFinal '\r')).filter (!allBlank ·) = pieces.filter (!allBlank ·) := by
  induction pieces with
  | nil => rfl
  | cons piece others ih =>
    have tail := ih fun other listed => ends other (List.mem_cons_of_mem piece listed)
    rw [List.map_cons, List.filter_cons, List.filter_cons, tail,
      allBlank_dropFinal (c := '\r') (by decide)]
    rcases ends piece List.mem_cons_self with blank | other
    · simp [blank]
    · rw [dropFinal, if_neg other]

/-- The lines of a text made of lines are these, as far as they are not blank. -/
theorem filter_lines_join {pieces : List (List Char)} (whole : ∀ piece ∈ pieces, '\n' ∉ piece)
    (ends : ∀ piece ∈ pieces, allBlank piece = true ∨ piece.getLast? ≠ some '\r') :
    (lines (join ['\n'] pieces)).filter (!allBlank ·) = pieces.filter (!allBlank ·) := by
  rcases List.eq_nil_or_concat' pieces with rfl | ⟨before, last, rfl⟩
  · rfl
  · have found : fields (· == '\n') (join ['\n'] (before ++ [last])) = before ++ [last] :=
      fields_join (by simp) whole
    have ended := filter_map_dropFinal fun piece listed =>
      ends piece (List.mem_append_left _ listed)
    unfold lines
    simp only [found, List.dropLast_concat, List.getLast?_concat]
    cases last with
    | nil => rw [ended, List.filter_append]; simp [allBlank]
    | cons c r => rw [List.filter_append, ended, List.filter_append]

/-- Lines that each end with a newline, and that do not end with a carriage return before it. -/
theorem lines_join_concat {pieces : List (List Char)} (whole : ∀ piece ∈ pieces, '\n' ∉ piece)
    (ends : ∀ piece ∈ pieces, piece.getLast? ≠ some '\r') :
    lines (join ['\n'] (pieces ++ [[]])) = pieces := by
  have found : fields (· == '\n') (join ['\n'] (pieces ++ [[]])) = pieces ++ [[]] := by
    refine fields_join (by simp) fun piece listed => ?_
    rcases List.mem_append.1 listed with isPiece | isLast
    · exact whole piece isPiece
    · rw [List.mem_singleton.1 isLast]
      exact List.not_mem_nil
  have kept : pieces.map (dropFinal '\r') = pieces.map id :=
    List.map_congr_left fun piece listed => if_neg (ends piece listed)
  unfold lines
  simp only [found, List.dropLast_concat, List.getLast?_concat, kept, List.map_id]

end HostStorage.Text
