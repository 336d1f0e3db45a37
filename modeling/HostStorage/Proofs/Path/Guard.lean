import HostStorage.Checks
import HostStorage.Proofs.Path.Cleaning

/-!
# Cleaned paths that are checked

A path that is cleaned and then checked is refused exactly if it spells the root directory.
-/
namespace HostStorage

open HostStorage.Path (IsRootSpelling)

theorem cleanedPath_eq_ok_iff {path cleaned : String} :
    cleanedPath path = .ok cleaned ↔ Path.cleaned path ≠ "/" ∧ cleaned = Path.cleaned path := by
  unfold cleanedPath checkPath
  split
  next root => simp [root, bind, Except.bind]
  next other => simp [other, bind, Except.bind, pure, Except.pure, eq_comm]

theorem cleanedPath_of_rootSpelling {path : String} (spelling : IsRootSpelling path) :
    cleanedPath path = .error (.invalidPath "/") := by
  rw [cleanedPath, (Path.cleaned_eq_root_iff path).2 spelling]
  rfl

theorem cleanedPath_of_not_rootSpelling {path : String} (other : ¬ IsRootSpelling path) :
    cleanedPath path = .ok (Path.cleaned path) :=
  cleanedPath_eq_ok_iff.2 ⟨fun root => other ((Path.cleaned_eq_root_iff path).1 root), rfl⟩

end HostStorage
