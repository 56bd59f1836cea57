import Presubmit.Text.Dict

/-! Settings of one run. -/
namespace Presubmit

/-- What becomes of a change whose project has no source root. -/
inductive UnmappedPolicy where
  | refuse
  | skip
deriving DecidableEq, Repr

/-- Whether a requirement that names a builder takes builds of other builders. -/
inductive BuildMatching where
  | byTargetAndBuilder
  | byTarget
deriving DecidableEq, Repr

structure Settings where
  priorities : Dict Int32
  unmapped : UnmappedPolicy
  matching : BuildMatching
  testArtifacts : List String
  dependencyPrefix : String
deriving DecidableEq

namespace Settings

def standard : Settings where
  priorities := Dict.ofList [("coral", -20), ("sarien", 2), ("eve", 5)]
  unmapped := .refuse
  matching := .byTargetAndBuilder
  testArtifacts :=
    ["AUTOTEST_FILES", "IMAGE_ZIP", "PINNED_GUEST_IMAGES", "TAST_FILES", "TEST_UPDATE_PAYLOAD"]
  dependencyPrefix := "/mnt/host/source/"

/-- Lower comes first, and boards that are not listed count as zero. -/
def priorityOf (c : Settings) (board : String) : Int32 :=
  (c.priorities.get? board).getD 0

end Settings

end Presubmit
