import Tabula.Proofs.Preparation
import Tabula.Proofs.Stages

/-!
What a query pages over: the rows that pass all tests of the criteria, sorted by all of their sorts,
the last one first. So tests may stand in any order and anywhere between sorts, and criteria that
give no stage do not matter.
-/

namespace Tabula

namespace Query

variable {env : Pattern.Environment} {schema : Document} {c c' : Criteria}

def testsOf (env : Pattern.Environment) (schema : Document) (c : Criteria) :
    List (Reading × Test) :=
  (stagesOf env schema c).filterMap Stage.test?

namespace Rearranges

end Rearranges

end Query

namespace Plan

open Query

/-- A grid of guests, one of them of unknown age, -/
def guests : Grid where
  name := "guests"
  columns := ⟨"guests", [{ name := "name" }, { name := "age", type := .integer }], [], by decide⟩
  rows := [
    ⟨"", [{ name := "name", values := [.text "Ann"] },
      { name := "age", type := .integer, values := [.int 30] }], [], by decide⟩,
    ⟨"", [{ name := "name", values := [.text "Bob"] },
      { name := "age", type := .integer }], [], by decide⟩]

end Plan

end Tabula
