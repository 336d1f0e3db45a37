import HostStorage.Host.Access
import HostStorage.Proofs.Result

/-!
# Paths while files grow

Resolving a path never looks at the content of a file. Trees that differ in contents only are alike,
and a path leads to the same place in both, so what an access reaches does not depend on the files
that were added to before it.
-/
namespace HostStorage

open HostStorage.Path (Place)

/-- A node without the content it has as a file. -/
def Node.emptied : Node → Node
  | .file _ => .file []
  | n => n

/-- Only a file differs from the node it is without its content. -/
theorem Node.eq_of_emptied_eq {n m : Node} (same : n.emptied = m.emptied)
    (noFile : ∀ content, m ≠ .file content) : n = m := by
  cases m with
  | file content => exact absurd rfl (noFile content)
  | _ => cases n <;> simp_all [Node.emptied]

namespace HostTree

@[simp] theorem grown_nil (n : Node) : grown [] n = n := by
  cases n <;> simp [grown]

@[simp] theorem map_grown_nil (n : Option Node) : n.map (grown []) = n := by
  cases n <;> simp

theorem grown_grown (first second : Bytes) (n : Node) :
    grown second (grown first n) = grown (first ++ second) n := by
  cases n <;> simp [grown]

@[simp] theorem emptied_grown (more : Bytes) (n : Node) : (grown more n).emptied = n.emptied := by
  cases n <;> rfl

/-- Trees with the same nodes at the same places, but for the contents of files. -/
def Alike (t u : HostTree) : Prop :=
  ∀ place, (t.node? place).map Node.emptied = (u.node? place).map Node.emptied

theorem Alike.symm {t u : HostTree} (alike : t.Alike u) : u.Alike t :=
  fun place => (alike place).symm

variable {t u : HostTree} {place : Place}

theorem Alike.eq_none (alike : t.Alike u) (there : t.node? place = none) :
    u.node? place = none := by
  have same := alike place
  rw [there, Option.map_none] at same
  exact Option.map_eq_none_iff.1 same.symm

theorem Alike.exists_eq_some (alike : t.Alike u) {n : Node} (there : t.node? place = some n) :
    ∃ m, u.node? place = some m ∧ m.emptied = n.emptied := by
  have same := alike place
  rw [there, Option.map_some] at same
  exact Option.map_eq_some_iff.1 same.symm

/-- What is no file stands in both trees. -/
theorem Alike.eq_some (alike : t.Alike u) {n : Node} (there : t.node? place = some n)
    (noFile : ∀ content, n ≠ .file content) : u.node? place = some n := by
  obtain ⟨m, here, same⟩ := alike.exists_eq_some there
  rw [here, Node.eq_of_emptied_eq same noFile]

/-- A walk goes the same way through trees that are alike. -/
theorem walk_congr (alike : t.Alike u) (follow : Bool) (reach : Option Nat) (links : Nat)
    (here : Place) (way : List Hop) :
    t.walk follow reach links here way = u.walk follow reach links here way := by
  fun_induction walk t follow reach links here way with
  | case1 => rw [walk]
  | case2 links here hop rest absent =>
    rw [walk.eq_def]
    simp only [alike.eq_none absent]
  | case3 links here rest directory ih =>
    rw [ih]
    simp only [walk, alike.eq_some directory (by simp)]
  | case4 links here rest directory ih =>
    rw [ih]
    simp only [walk, alike.eq_some directory (by simp)]
  | case5 links here rest directory name long =>
    simp only [walk, alike.eq_some directory (by simp), if_pos long]
  | case6 links here rest directory name short absent =>
    simp only [walk, alike.eq_some directory (by simp), if_neg short, alike.eq_none absent]
  | case7 links here rest directory name short target link last =>
    simp only [walk, alike.eq_some directory (by simp), if_neg short, alike.eq_some link (by simp),
      if_pos last]
  | case8 here rest directory name short target link further =>
    simp only [walk, alike.eq_some directory (by simp), if_neg short, alike.eq_some link (by simp),
      if_neg further]
  | case9 here rest directory name short target link further left ih =>
    rw [ih]
    simp only [walk, alike.eq_some directory (by simp), if_neg short, alike.eq_some link (by simp),
      if_neg further]
  | case10 links here rest directory name short n noLink there ih =>
    obtain ⟨m, same, emptied⟩ := alike.exists_eq_some there
    have stillNoLink : ∀ target, m ≠ .link target := by
      rintro target rfl
      exact noLink target (Node.eq_of_emptied_eq emptied.symm (by simp))
    rw [ih]
    simp only [walk, alike.eq_some directory (by simp), if_neg short, same]
  | case11 links here hop rest n noDirectory there =>
    obtain ⟨m, same, emptied⟩ := alike.exists_eq_some there
    cases m with
    | directory => exact absurd (Node.eq_of_emptied_eq emptied.symm (by simp)) noDirectory
    | _ => rw [walk.eq_def]; simp only [same]

/-- A path leads to the same place in trees that are alike. -/
theorem resolve_congr (alike : t.Alike u) (follow : Bool) (path : String) :
    t.resolve follow path = u.resolve follow path := by
  simp only [resolve, walk_congr alike]

/-- The place of the node that a path leads to, if it can be added to. -/
def writablePlace (t : HostTree) (path : String) : Except IoFailure Place := do
  let place ← t.resolve true path
  match ← t.found place with
  | .directory => .error (.os .isDirectory)
  | _ => .ok place

theorem resolve_of_writablePlace {path : String} (writable : t.writablePlace path = .ok place) :
    t.resolve true path = .ok place := by
  simp only [writablePlace, bind_eq_ok_iff] at writable
  obtain ⟨reached, resolves, n, _, isReached⟩ := writable
  cases n with
  | directory => cases isReached
  | _ =>
    cases isReached
    exact resolves

/-- Writing adds the octets of the text at the place that the path leads to. -/
theorem written_eq (t : HostTree) (path value : String) :
    t.written path value = (t.writablePlace path).map (t.append · (Utf8.bytes value)) := by
  simp only [written, writablePlace, bind, Except.bind]
  cases t.resolve true path with
  | error e => rfl
  | ok place =>
    dsimp only
    cases t.found place with
    | error e => rfl
    | ok n => cases n <;> rfl

/-- What can be written does not depend on the contents of files. -/
theorem writablePlace_congr (alike : t.Alike u) (path : String) :
    t.writablePlace path = u.writablePlace path := by
  unfold writablePlace
  rw [resolve_congr alike]
  cases u.resolve true path with
  | error e => rfl
  | ok place =>
    simp only [found, bind, Except.bind]
    cases there : t.node? place with
    | none => rw [alike.eq_none there]
    | some n =>
      obtain ⟨m, here, same⟩ := alike.exists_eq_some there
      rw [here]
      cases n <;> cases m <;> first | rfl | simp [Node.emptied] at same

end HostTree
end HostStorage
