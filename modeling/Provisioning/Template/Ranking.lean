import Provisioning.Log.Entry
import Provisioning.Template.Mismatch
import Provisioning.Template.Score

/-!
# Rankings

The templates of a catalog that meet a requirement, the best first. Templates of equal score keep the
order of the catalog.

## Main definitions

* `Ranked`: a template with its score
* `ranking`: the templates that qualify, by score
* `selection`: the same without the scores
* `exclusions`: the templates that do not qualify, with their mismatches
* `Selector`: a ranking with the scorer fixed
-/

namespace Provisioning

open Log

/-- A template with its score. -/
structure Ranked where
  /-- The template. -/
  candidate : Candidate
  /-- Its score. -/
  score : Binary64
deriving DecidableEq

/-- The templates that qualify, in the total order of their scores. -/
def ranking (catalog : List Candidate) (r : Requirement) (score : Scorer) : List Ranked :=
  ((catalog.filter (qualifies · r)).map fun c => { candidate := c, score := score c r }).mergeSort
    fun x y => x.score.totalLe y.score

/-- The templates that qualify, the best first. -/
def selection (catalog : List Candidate) (r : Requirement) (score : Scorer) : List Candidate :=
  (ranking catalog r score).map Ranked.candidate

/-- The templates that do not qualify, in the order of the catalog, with their mismatches. -/
def exclusions (catalog : List Candidate) (r : Requirement) : List (Candidate × List Mismatch) :=
  (catalog.filter fun c => !qualifies c r).map fun c => (c, mismatches c r)

/-- The ranking, with an entry that reports how many templates qualify. -/
def rankingLogged (catalog : List Candidate) (r : Requirement) (score : Scorer) :
    Logged (List Ranked) := do
  let ranked := ranking catalog r score
  Logged.note ⟨.debug, toString ranked.length ++ " of " ++ toString catalog.length ++
    " templates qualify for " ++ r.architecture.text ++ " requirement"⟩
  pure ranked

/-- A ranking with its scorer. -/
structure Selector where
  /-- The scorer. -/
  score : Scorer

namespace Selector

/-- The selector by overage at the default weights. -/
def default : Selector := ⟨overageScorer .default⟩

/-- The ranking of a catalog. -/
def rank (s : Selector) (catalog : List Candidate) (r : Requirement) : List Ranked :=
  ranking catalog r s.score

/-- The templates that qualify, the best first. -/
def select (s : Selector) (catalog : List Candidate) (r : Requirement) : List Candidate :=
  selection catalog r s.score

/-- The best template that qualifies. -/
def best (s : Selector) (catalog : List Candidate) (r : Requirement) : Option Candidate :=
  (s.select catalog r).head?

end Selector

end Provisioning
