import Guideline.Text.Affix
import Guideline.Text.Digit

/-!
# Pull request references
-/

namespace Guideline.Command

/-- A pull request, written `owner/repo/number`. -/
structure PullRequest where
  owner : String
  repo : String
  number : Nat
deriving DecidableEq, Repr

namespace PullRequest

/-- Reads a reference. -/
def read? (text : String) : Option PullRequest :=
  match Text.splitAtChar '/' text.toList with
  | [owner, repo, number] =>
    if owner.isEmpty || repo.isEmpty then none
    else (Text.readCount? number).map (⟨String.ofList owner, String.ofList repo, ·⟩)
  | _ => none

/-- What is wrong with a text that is no reference. -/
def invalidMessage (text : String) : String :=
  s!"expected OWNER/REPO/NUMBER, got `{text}`"

def display (pr : PullRequest) : String :=
  s!"{pr.owner}/{pr.repo}#{pr.number}"

end PullRequest

end Guideline.Command
