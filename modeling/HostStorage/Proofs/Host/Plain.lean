import HostStorage.Proofs.Host.Appending

/-!
# Plain paths

A path that names directories one below the other, and something below the last one that is no link,
leads there. Nothing is followed and nothing is left on its way. If the last name is that of no
entry, the path leads nowhere.
-/
namespace HostStorage

open HostStorage.Path (Name Place)

namespace HostTree

/-- A place that is reached through directories, with names that are not too long, and at which
something other than a link stands. -/
structure Plain (t : HostTree) (place : Place) : Prop where
  directories : ∀ k < place.length, t.node? (place.take k) = some .directory
  namesFit : ∀ name ∈ place, (Utf8.encode name).length ≤ maxName
  ends : ∃ n, t.node? place = some n ∧ ∀ target, n ≠ .link target

/-- What stands on the way to a plain place is no link. -/
theorem Plain.exists_node {t : HostTree} {place : Place} (plain : t.Plain place) {k : Nat}
    (within : k ≤ place.length) :
    ∃ n, t.node? (place.take k) = some n ∧ ∀ target, n ≠ .link target := by
  rcases Nat.lt_or_eq_of_le within with before | rfl
  · exact ⟨.directory, plain.directories k before, by simp⟩
  · rw [List.take_length]
    exact plain.ends

/-- From a place on the way, the walk down the remaining names goes on from a plain place. -/
theorem Plain.walk_append {t : HostTree} {done rest : List Name} (plain : t.Plain (done ++ rest))
    (follow : Bool) (links : Nat) (further : List Hop) :
    t.walk follow none links done (rest.map .down ++ further) =
      t.walk follow none links (done ++ rest) further := by
  induction rest generalizing done with
  | nil => rw [List.map_nil, List.nil_append, List.append_nil]
  | cons name rest ih =>
    have here : t.node? done = some .directory := by
      have directory := plain.directories done.length (by simp)
      rwa [List.take_left] at directory
    have fits : ¬ isTooLong none done name = true := by
      have le := plain.namesFit name (by simp)
      simp only [isTooLong, Option.any_none, Bool.or_false, decide_eq_true_eq]
      omega
    obtain ⟨n, there, noLink⟩ := plain.exists_node (k := done.length + 1) (by simp)
    rw [List.append_cons] at there plain ⊢
    rw [List.take_left' (by simp)] at there
    rw [← ih plain, List.map_cons, List.cons_append]
    simp only [walk, here, if_neg fits, there]

/-- A name that no entry of a plain directory has leads nowhere. -/
theorem Plain.resolve_absent {t : HostTree} {place : Place} (plain : t.Plain place)
    (directory : t.node? place = some .directory) {name : Name} (path : String)
    (steps : way path = .ok (.stay :: (place ++ [name]).map .down))
    (short : (Utf8.bytes path).length < pathLimit) (fits : (Utf8.encode name).length ≤ maxName)
    (absent : t.node? (place ++ [name]) = none) (follow : Bool) :
    t.resolve follow path = .error (.os .noEntry) := by
  have inReach : ¬ pathLimit ≤ (Utf8.bytes path).length := by omega
  have nameFits : ¬ isTooLong none place name = true := by
    simp only [isTooLong, Option.any_none, Bool.or_false, decide_eq_true_eq]
    omega
  simp only [resolve, steps, bind, Except.bind, if_neg inReach]
  simp only [walk, node?_nil]
  have down : t.Plain ([] ++ place) := plain
  rw [List.map_append, down.walk_append follow maxLinks, List.nil_append]
  simp only [List.map_cons, List.map_nil, walk, directory, if_neg nameFits, absent]

variable {t : HostTree} {place : Place} (plain : t.Plain place) (path : String)
  (steps : way path = .ok (.stay :: place.map .down))
  (short : (Utf8.bytes path).length < pathLimit)
include plain steps short

/-- A path that writes a plain place leads there. -/
theorem Plain.resolve_eq (follow : Bool) : t.resolve follow path = .ok place := by
  have fits : ¬ pathLimit ≤ (Utf8.bytes path).length := by omega
  simp only [resolve, steps, bind, Except.bind, if_neg fits]
  simp only [walk, node?_nil]
  have down : t.Plain ([] ++ place) := plain
  rw [← List.append_nil (place.map Hop.down), down.walk_append follow maxLinks, walk]
  rfl

/-- A file at a plain place is read as it is. -/
theorem Plain.content_eq {content : Bytes} (file : t.node? place = some (.file content)) :
    t.content path = .ok content := by
  simp only [HostTree.content, status, plain.resolve_eq path steps short, found, file, bind,
    Except.bind]

/-- A file at a plain place that is text is read as its text. -/
theorem Plain.contentText_eq {content : Bytes} {text : String}
    (file : t.node? place = some (.file content)) (read : Utf8.read? content = some text) :
    t.contentText path = .ok text := by
  simp only [contentText, plain.content_eq path steps short file, read, bind, Except.bind]

/-- A file at a plain place can be added to. -/
theorem Plain.writablePlace_eq {content : Bytes} (file : t.node? place = some (.file content)) :
    t.writablePlace path = .ok place := by
  simp only [writablePlace, plain.resolve_eq path steps short, found, file, bind, Except.bind]

end HostTree
end HostStorage
