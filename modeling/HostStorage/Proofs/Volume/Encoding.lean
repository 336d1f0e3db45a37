import HostStorage.Proofs.Volume.Identity

/-!
# Identifiers of encoded volumes

A maker's array makes the identifier of a volume by moving the digits of its name. Such an
identifier is taken for that of the volume however both are written, and no identifier is taken for
that of a name that is too short or of another maker, whatever text stands for the name
(`identifies_every_encoded_volume`).
-/
namespace HostStorage.Wwn

/-- The digits of the identifier that a maker's array gives the volume of a name: the name's last
digits, or PowerStore's middle ones, stand before the maker's code. -/
def encoded : Maker → List Char → List Char
  | .powerStore, name => slice 10 26 name ++ slice 1 7 name ++ slice 0 1 name ++ slice 7 10 name ++
    slice 26 32 name
  | .powerMax, name => slice 16 32 name ++ slice 1 7 name ++ slice 0 1 name ++ slice 7 16 name

def WritesAmongBlanks (mark digits : List Char) (s : String) : Prop :=
  ∃ before core after, s = before ++ core ++ after ∧
    (∀ c ∈ before.toList ++ after.toList, Text.isBlank c = true) ∧ Writes mark digits core

/-- A name without its mark, in whatever letters that is written. -/
def bareName (cs : List Char) : List Char :=
  if (cs.take nameMark.length).map Char.toLower = nameMark then cs.drop nameMark.length else cs

variable {name : List Char} {nguid wwn : String}

/-! ## Encoded names -/

theorem slice_append_append {before piece after : List Char} {start stop : Nat}
    (starts : before.length = start) (stops : start + piece.length = stop) :
    slice start stop (before ++ piece ++ after) = piece := by
  subst starts stops
  simp [slice]

theorem slice_append {piece after : List Char} {stop : Nat} (stops : piece.length = stop) :
    slice 0 stop (piece ++ after) = piece := by
  subst stops
  simp [slice]

/-- An identifier as the maker's array makes it has the digits of the name in a layout of the
maker's. -/
theorem found_encoded (m : Maker) (long : name.length = 32) (code : slice 1 7 name = m.code) :
    ∃ layout : Layout, layout.Found (encoded m name) name := by
  have run := length_slice_of_long long
  cases m with
  | powerStore =>
    refine ⟨.powerStore 0 26, code, (Layout.parts_powerStore_iff 0 26).2 ⟨?_, ?_⟩⟩
    · simp only [encoded, List.append_assoc]
      exact slice_append (run 10 26 (by decide))
    · rw [← List.append_nil (encoded .powerStore name)]
      exact slice_append_append (by simp [run]) (by rw [run 26 32 (by decide)])
  | powerMax =>
    refine ⟨.powerMax, code, Layout.parts_powerMax_iff.2 ⟨?_, ?_⟩⟩
    · simp only [encoded, List.append_assoc]
      exact slice_append (run 16 32 (by decide))
    · simp only [encoded, List.append_assoc (_ ++ _)]
      exact slice_append_append (run 16 32 (by decide)) (by rw [run 1 7 (by decide)])

/-- Blanks around an identifier make no difference. -/
theorem identifierDigits_of_writesAmongBlanks {digits : List Char}
    (written : WritesAmongBlanks identifierMark digits nguid) :
    identifierDigits nguid = digits := by
  obtain ⟨before, core, after, rfl, blank, ofCore⟩ := written
  have legible := ofCore.isLegible (by decide)
  rw [identifierDigits, String.toList_append, String.toList_append, Text.trim_append_append
    (fun c listed => blank c (List.mem_append_left _ listed)) (fun c listed => (legible c listed).2)
    fun c listed => blank c (List.mem_append_right _ listed)]
  exact ofCore.withoutStart (by decide) (by decide)

theorem identifies_encoded {m : Maker} (code : slice 1 7 name = m.code)
    (ofName : Writes nameMark name wwn)
    (ofIdentifier : WritesAmongBlanks identifierMark (encoded m name) nguid) :
    identifies nguid wwn = true := by
  have ⟨_, core, _, _, _, ofCore⟩ := ofIdentifier
  have same : identifierDigits nguid = identifierDigits core :=
    (identifierDigits_of_writesAmongBlanks ofIdentifier).trans ofCore.identifierDigits.symm
  have answer : identifies nguid wwn = identifies core wwn := by
    rw [identifies, identifies, same]
  rw [answer]
  exact (identifies_iff_exists ofCore ofName).2 (found_encoded m ofName.length code)

/-! ## Names that are refused -/

/-- A text and its lower case, if that is plain, start with the mark together. -/
theorem startsWithMark_iff {cs : List Char}
    (forms : List.Forall₂ Text.IsSmallForm cs (Text.lowercase cs)) :
    nameMark <+: Text.lowercase cs ↔ (cs.take nameMark.length).map Char.toLower = nameMark := by
  rw [List.prefix_iff_eq_take, eq_comm]
  exact Text.eq_iff_map_toLower (List.forall₂_take _ forms) (fun _ => plain_of_mem_nameMark)
    (by decide)

/-- The digits of a name, if they are plain, are the small forms of the characters after the
mark. -/
theorem isSmallForm_nameDigits (plain : ∀ d ∈ nameDigits wwn, d.toNat < 0x80) :
    List.Forall₂ Text.IsSmallForm (bareName wwn.toList) (nameDigits wwn) := by
  change ∀ d ∈ Text.withoutStart nameMark (Text.lowercase wwn.toList), d.toNat < 0x80 at plain
  change List.Forall₂ Text.IsSmallForm _ (Text.withoutStart nameMark (Text.lowercase wwn.toList))
  unfold Text.withoutStart at plain ⊢
  cases starts : nameMark.isPrefixOf? (Text.lowercase wwn.toList) with
  | some digits =>
    rw [starts, Option.getD_some] at plain
    have whole := List.isPrefixOf?_eq_some_iff_append_eq.1 starts
    have allPlain : ∀ d ∈ Text.lowercase wwn.toList, d.toNat < 0x80 := by
      rw [← whole]
      intro d listed
      exact (List.mem_append.1 listed).elim plain_of_mem_nameMark (plain d)
    have forms := Text.isSmallForm_lowercase allPlain
    have marked := (startsWithMark_iff forms).1 ⟨digits, whole⟩
    have tail := List.forall₂_drop nameMark.length forms
    rw [← whole, List.drop_left] at tail
    rw [bareName, if_pos marked, Option.getD_some]
    exact tail
  | none =>
    rw [starts, Option.getD_none] at plain
    have forms := Text.isSmallForm_lowercase plain
    have unmarked : (wwn.toList.take nameMark.length).map Char.toLower ≠ nameMark := by
      intro marked
      obtain ⟨digits, whole⟩ := (startsWithMark_iff forms).2 marked
      rw [List.isPrefixOf?_eq_some_iff_append_eq.2 whole] at starts
      cases starts
    rw [bareName, if_neg unmarked, Option.getD_none]
    exact forms

/-- What is identified has 32 characters or more and a maker's code, whatever text it is. -/
theorem of_identifies (matched : identifies nguid wwn = true) :
    32 ≤ (bareName wwn.toList).length ∧
      ∃ m : Maker, (slice 1 7 (bareName wwn.toList)).map Char.toLower = m.code := by
  rw [identifies] at matched
  split at matched
  next => cases matched
  next usual =>
    simp only [Bool.or_eq_true, decide_eq_true_eq, List.any_eq_true, not_or, not_exists, not_and,
      Nat.not_le, Nat.not_lt] at usual
    obtain ⟨long, plain⟩ := usual
    have forms := isSmallForm_nameDigits plain
    cases told : maker? (nameDigits wwn) with
    | none =>
      rw [told] at matched
      cases matched
    | some m =>
      have code := (maker?_eq_some_iff (nameDigits wwn) m).1 told
      have run : List.Forall₂ Text.IsSmallForm (slice 1 7 (bareName wwn.toList))
          (slice 1 7 (nameDigits wwn)) := List.forall₂_take _ (List.forall₂_drop _ forms)
      refine ⟨forms.length_eq ▸ long, m,
        (Text.eq_iff_map_toLower run (fun c listed => ?_) ?_).1 code⟩
      · exact (isLegible_of_mem (by cases m <;> decide) listed).1
      · cases m <;> decide

/-- The identifier that a maker's array makes of the name of a volume identifies that volume, and
none identifies a name that has fewer than 32 characters or another code. -/
theorem identifies_every_encoded_volume (nguid wwn : String) :
    (∀ (m : Maker) (name : List Char), slice 1 7 name = m.code → Writes nameMark name wwn →
      WritesAmongBlanks identifierMark (encoded m name) nguid → identifies nguid wwn = true) ∧
    ((bareName wwn.toList).length < 32 ∨
        (∀ m : Maker, (slice 1 7 (bareName wwn.toList)).map Char.toLower ≠ m.code) →
      identifies nguid wwn = false) := by
  refine ⟨fun m name => identifies_encoded, fun refused => ?_⟩
  rw [← Bool.not_eq_true]
  intro matched
  obtain ⟨long, m, code⟩ := of_identifies matched
  rcases refused with short | other
  · omega
  · exact other m code

/-- A volume of PowerStore whose identifier stands between blanks, and a name of another maker. -/
theorem encoded_volume_among_blanks :
    let name := "68ccf098001111a2222b3d4444a1b23c".toList
    slice 1 7 name = Maker.powerStore.code ∧
    Writes nameMark name "Naa.68CCF098001111a2222b3d4444a1b23c" ∧
    WritesAmongBlanks identifierMark (encoded .powerStore name)
      " \tEUI.1111A2222B3D44448ccf096800a1b23c\n" ∧
    identifies " \tEUI.1111A2222B3D44448ccf096800a1b23c\n"
      "Naa.68CCF098001111a2222b3d4444a1b23c" = true ∧
    identifies "eui.12635330303134340000976000012000"
      "naa.61234560000120001263533030313434" = false := by
  intro name
  have code : slice 1 7 name = Maker.powerStore.code := by decide
  have ofName : Writes nameMark name "Naa.68CCF098001111a2222b3d4444a1b23c" := by decide
  have ofIdentifier : WritesAmongBlanks identifierMark (encoded .powerStore name)
      " \tEUI.1111A2222B3D44448ccf096800a1b23c\n" :=
    ⟨" \t", "EUI.1111A2222B3D44448ccf096800a1b23c", "\n", by decide,
      fun _ => List.all_eq_true.1 (show [' ', '\t', '\n'].all Text.isBlank = true by decide) _,
      by decide⟩
  refine ⟨code, ofName, ofIdentifier, ?_, ?_⟩
  · exact (identifies_every_encoded_volume _ _).1 .powerStore name code ofName ofIdentifier
  · refine (identifies_every_encoded_volume _ _).2 (Or.inr fun m => ?_)
    cases m <;> decide

end HostStorage.Wwn
