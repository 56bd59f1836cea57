import Presubmit.Proofs.Plan.Targets
import Presubmit.Proofs.Suite.Heads

/-! What a plan holds. Each requirement that chooses a build is answered for itself, and the others
bear on it only through the suites that lead a group. -/
namespace Presubmit

namespace Pruning

/-- Pruning leaves the suite on builds of the target. -/
def Survives (p : Pruning) (target : String) : {k : SuiteKind} → Suite k → Prop
  | .hw, s => p.disableHw = false ∧ (p.onlyTargets = ∅ ∨ target ∈ p.onlyTargets) ∧
      (p.disableNonTast = true → ∃ board suite, s.detail = .hw board suite .tast)
  | .vm, _ => p.disableVm = false ∧ p.disableNonTast = false
  | .tastVm, _ => True
  | .moblabVm, _ => p.disableNonTast = false

theorem survives_iff {p : Pruning} {target : String} {k : SuiteKind} {s : Suite k} :
    p.Survives target s ↔ p.leaves target s = true := by
  obtain ⟨common, detail⟩ := s
  cases detail with
  | hw board suite framework =>
    have htast : (p.disableNonTast = true → framework = .tast) ↔
        p.disableNonTast = false ∨ framework = .tast := by
      cases p.disableNonTast <;> simp
    simp [Survives, leaves, sparesHw, Names.isEmpty_iff, Suite.isTast, htast, and_assoc]
  | vm suite => simp [Survives, leaves, Suite.isTast]
  | tastVm suite expressions => simp [Survives, leaves, Suite.isTast]
  | moblabVm type => simp [Survives, leaves, Suite.isTast]

instance (p : Pruning) (target : String) {k : SuiteKind} (s : Suite k) :
    Decidable (p.Survives target s) :=
  decidable_of_iff _ survives_iff.symm

theorem hasGroupRules_eq_false_iff {p : Pruning} :
    p.hasGroupRules = false ↔ p.oneofGroups = ∅ ∧ p.onlyGroups = ∅ := by
  simp [hasGroupRules, Names.isEmpty_iff]

/-- Selection keeps the suite, given all suites that survive. An also-group keeps it in any case.
Under group rules it otherwise has to share the identity of a suite that leads a oneof-group, or
belong to an only-group; without them it must not be disabled by default. -/
def Keeps (settings : Settings) (p : Pruning) (cs : List Candidate) (id : SuiteId)
    (s : SuiteCommon) : Prop :=
  (∃ g ∈ s.groups, g ∈ p.alsoGroups) ∨
    if p.oneofGroups = ∅ ∧ p.onlyGroups = ∅ then
      s.disabledByDefault = false
    else
      (∃ g ∈ p.oneofGroups, id.Heads settings cs g) ∨ ∃ g ∈ s.groups, g ∈ p.onlyGroups

instance (settings : Settings) (p : Pruning) (cs : List Candidate) (id : SuiteId)
    (s : SuiteCommon) : Decidable (p.Keeps settings cs id s) := by
  unfold Keeps
  infer_instance

theorem keeps_iff {settings : Settings} {p : Pruning} {ts : List Target} {id : Build.Id}
    {k : SuiteKind} {s : Suite k} :
    p.Keeps settings (ts.flatMap Target.candidates) ⟨id, k, s.common.name⟩ s.common ↔
      (Plan.choice settings p ts).keeps id s = true := by
  have hheads : (groupHeads settings ts p.oneofGroups.toList).contains ⟨id, k, s.common.name⟩ = true
      ↔ ∃ g ∈ p.oneofGroups,
        SuiteId.Heads settings (ts.flatMap Target.candidates) g ⟨id, k, s.common.name⟩ := by
    rw [List.contains_iff_mem, mem_groupHeads]
    rfl
  have honly : p.anyOnly s.common.groups = true ↔ ∃ g ∈ s.common.groups, g ∈ p.onlyGroups := by
    simp [anyOnly]
  have halso : p.anyAlso s.common.groups = true ↔ ∃ g ∈ s.common.groups, g ∈ p.alsoGroups := by
    simp [anyAlso]
  cases hrules : p.hasGroupRules with
  | false =>
    have hnone := hasGroupRules_eq_false_iff.1 hrules
    cases ha : p.anyAlso s.common.groups <;>
      simp [Keeps, ← halso, hnone, Choice.keeps, Plan.choice, hrules, ha]
  | true =>
    have hsome : ¬ (p.oneofGroups = ∅ ∧ p.onlyGroups = ∅) := by
      rw [← hasGroupRules_eq_false_iff, hrules]
      decide
    rw [Keeps, if_neg hsome, ← halso, ← honly, ← hheads]
    cases ha : p.anyAlso s.common.groups <;>
      simp [Choice.keeps, Choice.idOf, Plan.choice, hrules, ha]

end Pruning

namespace Suite

variable {k : SuiteKind}

/-- The suite as it competes on the build that was chosen. Hardware suites run on the board that
they name, and all others on the build target. -/
def candidate (c : Criteria) (b : Build) (s : Suite k) : Candidate where
  build := ⟨c.target, b.builder⟩
  buildCritical := b.critical
  kind := k
  board :=
    match s.detail with
    | .hw board _ _ => board
    | _ => c.target
  common := s.common

/-- The suite as the plan lists it, critical only if its build is and it does not say otherwise. -/
def planned (b : Build) (s : Suite k) : Suite k :=
  { s with common :=
    { s.common with critical := some (b.critical && s.common.critical != some false) } }

end Suite

/-- Those of the declared suites that could run on the build. -/
def Pruning.runnable (p : Pruning) (c : Criteria) (b : Build) {k : SuiteKind}
    (declared : List (Suite k)) : List Candidate :=
  (declared.filter fun s => p.Survives c.target s).map (Suite.candidate c b)

/-- The suites of one kind. A kind that declares none has none. -/
def Requirement.listed (r : Requirement) : (k : SuiteKind) → List (Suite k)
  | .hw => r.hw.getD []
  | .vm => r.vm.getD []
  | .tastVm => r.tastVm.getD []
  | .moblabVm => r.moblabVm.getD []

section Contents

variable (settings : Settings) (builds : List Build) (p : Pruning) (rs : List Requirement)

/-- Every suite that could run, of all kinds and for all requirements that choose a build. -/
def survivors : List Candidate :=
  rs.flatMap fun r =>
    match r.chosen? settings builds with
    | none => []
    | some (c, b) =>
      p.runnable c b (r.hw.getD []) ++ p.runnable c b (r.vm.getD []) ++
        p.runnable c b (r.tastVm.getD []) ++ p.runnable c b (r.moblabVm.getD [])

/-- Those of the declared suites that survive on the build and are kept there. -/
def keptOf {k : SuiteKind} (declared : List (Suite k)) (c : Criteria) (b : Build) :
    List (Suite k) :=
  declared.filter fun s =>
    p.Survives c.target s ∧ p.Keeps settings (survivors settings builds p rs)
      ⟨⟨c.target, b.builder⟩, k, s.common.name⟩ s.common

/-- What the plan holds of the declared suites for the requirement, if it chooses a build and keeps
a suite. -/
def Requirement.unitOf? {k : SuiteKind} (r : Requirement) (declared : List (Suite k)) :
    Option (PlanUnit k) :=
  (r.chosen? settings builds).bind fun (c, b) =>
    b.artifacts.bind fun payload =>
      if keptOf settings builds p rs declared c b = [] then
        none
      else
        some ⟨⟨c.target, b.builder, payload⟩,
          (keptOf settings builds p rs declared c b).map (Suite.planned b)⟩

/-- The suites of one kind that survive on the build and are kept there. -/
def Requirement.kept (k : SuiteKind) (r : Requirement) (c : Criteria) (b : Build) :
    List (Suite k) :=
  keptOf settings builds p rs (r.listed k) c b

/-- What the plan holds of one kind for the requirement. -/
def Requirement.unit? (k : SuiteKind) (r : Requirement) : Option (PlanUnit k) :=
  r.unitOf? settings builds p rs (r.listed k)

end Contents

section Assembly

variable {settings : Settings} {builds : List Build} {p : Pruning} {rs : List Requirement}

theorem Requirement.suites_eq_listed (r : Requirement) (k : SuiteKind) :
    r.suites k = r.listed k := by
  cases k <;> rfl

theorem Requirement.unit?_eq (k : SuiteKind) (r : Requirement) :
    r.unit? settings builds p rs k =
      (r.chosen? settings builds).bind fun (c, b) => b.artifacts.bind fun payload =>
        if r.kept settings builds p rs k c b = [] then
          none
        else
          some ⟨⟨c.target, b.builder, payload⟩,
            (r.kept settings builds p rs k c b).map (Suite.planned b)⟩ :=
  rfl

theorem Requirement.mem_kept_iff {k : SuiteKind} {r : Requirement} {c : Criteria} {b : Build}
    {s : Suite k} :
    s ∈ r.kept settings builds p rs k c b ↔
      s ∈ r.listed k ∧ p.Survives c.target s ∧
        p.Keeps settings (survivors settings builds p rs) ⟨⟨c.target, b.builder⟩, k, s.common.name⟩
          s.common := by
  simp only [kept, keptOf, List.mem_filter, decide_eq_true_eq]

theorem Requirement.unit?_eq_some_iff {k : SuiteKind} {r : Requirement} {u : PlanUnit k} :
    r.unit? settings builds p rs k = some u ↔
      ∃ c b payload, r.chosen? settings builds = some (c, b) ∧ b.artifacts = some payload ∧
        r.kept settings builds p rs k c b ≠ [] ∧
        u = ⟨⟨c.target, b.builder, payload⟩,
          (r.kept settings builds p rs k c b).map (Suite.planned b)⟩ := by
  simp only [unit?_eq, Option.bind_eq_some_iff, Prod.exists, Option.ite_none_left_eq_some,
    Option.some.injEq, @eq_comm _ u, exists_and_left, ne_eq]

theorem survivors_eq :
    survivors settings builds p rs = rs.flatMap fun r =>
      match r.chosen? settings builds with
      | none => []
      | some (c, b) => SuiteKind.all.flatMap fun k => p.runnable c b (r.listed k) := by
  simp only [survivors, SuiteKind.all, List.flatMap_cons, List.flatMap_nil, List.append_nil,
    List.append_assoc, Requirement.listed]

theorem Requirement.suites_on (r : Requirement) (target : String) (b : Build) (k : SuiteKind) :
    (r.on p target b).suites k = (r.listed k).filter fun s => p.Survives target s := by
  rw [← suites_eq_listed]
  exact List.filter_congr fun s _ => by simp [Pruning.survives_iff]

theorem candidates_on (r : Requirement) (c : Criteria) (b : Build) :
    (r.on p c.target b).candidates =
      SuiteKind.all.flatMap fun k => p.runnable c b (r.listed k) := by
  have hkind : ∀ k, (r.on p c.target b).candidatesOf k = p.runnable c b (r.listed k) := by
    intro k
    rw [Target.candidatesOf, Requirement.suites_on, Pruning.runnable]
    refine List.map_congr_left fun s _ => ?_
    obtain ⟨common, detail⟩ := s
    cases detail <;> rfl
  rw [Target.candidates, funext hkind]

theorem flatMap_candidates_placed? :
    (rs.filterMap (Requirement.placed? settings builds p)).flatMap Target.candidates =
      survivors settings builds p rs := by
  rw [survivors_eq]
  induction rs with
  | nil => rfl
  | cons r rs ih =>
    rw [List.flatMap_cons, ← ih]
    cases h : r.chosen? settings builds with
    | none =>
      have hp : r.placed? settings builds p = none := by simp [Requirement.placed?, h]
      rw [List.filterMap_cons_none hp, List.nil_append]
    | some cb =>
      obtain ⟨c, b⟩ := cb
      have hp : r.placed? settings builds p = some (r.on p c.target b) := by
        simp [Requirement.placed?, h]
      rw [List.filterMap_cons_some hp, List.flatMap_cons, candidates_on]

theorem Suite.planned_eq (b : Build) {k : SuiteKind} (s : Suite k) :
    s.planned b = s.withCritical (b.critical && s.common.critical != some false) :=
  rfl

theorem settle_eq (b : Build) {k : SuiteKind} : Choice.settle b (k := k) = Suite.planned b := by
  funext s
  have h : s.common.critical.getD true = (s.common.critical != some false) := by
    cases s.common.critical with
    | none => rfl
    | some critical => cases critical <;> rfl
  rw [Choice.settle, h, Suite.planned_eq]

/-- The unit of one target, once its payload is known. -/
private def unitOn (c : Choice) (k : SuiteKind) (t : Target) : Option (PlanUnit k) :=
  t.build.artifacts.bind fun payload =>
    match c.select t k with
    | [] => none
    | s :: ss => some ⟨⟨t.id.target, t.id.builder, payload⟩, s :: ss⟩

private theorem units_eq_filterMap (c : Choice) (k : SuiteKind) {ts : List Target}
    {payloads : List (Target × Artifacts)} (h : ts.mapM Target.payload = .ok payloads) :
    c.units payloads k = ts.filterMap (unitOn c k) := by
  have hf := mapM_eq_ok_iff.1 h
  clear h
  induction hf with
  | nil => rfl
  | @cons t payload ts payloads hpayload _ ih =>
    have hhead : payload.1 = t ∧ t.build.artifacts = some payload.2 := by
      unfold Target.payload at hpayload
      split at hpayload <;> cases hpayload
      exact ⟨rfl, ‹_›⟩
    obtain ⟨rfl, hartifacts⟩ := hhead
    rw [Choice.units, List.filterMap_cons, List.filterMap_cons, ← Choice.units, ih, unitOn,
      hartifacts]
    rfl

private theorem unitOn_placed? (k : SuiteKind) (r : Requirement) :
    (r.placed? settings builds p).bind (unitOn
        (Plan.choice settings p (rs.filterMap (Requirement.placed? settings builds p))) k) =
      r.unit? settings builds p rs k := by
  cases h : r.chosen? settings builds with
  | none => simp [Requirement.placed?, Requirement.unit?_eq, h]
  | some cb =>
    obtain ⟨c, b⟩ := cb
    obtain ⟨payload, hpayload, -⟩ := (Requirement.accepts_of_chosen? h).artifact
    have hselect : (Plan.choice settings p
          (rs.filterMap (Requirement.placed? settings builds p))).select (r.on p c.target b) k =
        (r.kept settings builds p rs k c b).map (Suite.planned b) := by
      rw [Choice.select, Requirement.suites_on, List.filter_filter, settle_eq]
      congr 1
      refine List.filter_congr fun s _ => ?_
      rw [← flatMap_candidates_placed?, Bool.eq_iff_iff, Bool.and_eq_true, decide_eq_true_iff,
        decide_eq_true_iff, Pruning.keeps_iff, and_comm]
      rfl
    simp only [Requirement.placed?, Requirement.unit?_eq, h, Option.map_some, Option.bind_some,
      unitOn, hselect]
    simp only [Requirement.on, hpayload, Option.bind_some]
    cases r.kept settings builds p rs k c b <;> simp

theorem assemble_eq_ok_iff {plan : Plan} :
    Plan.assemble settings rs builds p = .ok plan ↔
      (∀ r ∈ rs, r.Valid) ∧
        plan = Plan.ofUnits fun k => rs.filterMap (Requirement.unit? settings builds p rs k) := by
  obtain ⟨payloads, hpayloads⟩ := Plan.exists_payloads settings builds p rs
  have hunits : (Plan.choice settings p
        (rs.filterMap (Requirement.placed? settings builds p))).units payloads =
      fun k => rs.filterMap (Requirement.unit? settings builds p rs k) := by
    funext k
    rw [units_eq_filterMap _ _ hpayloads, List.filterMap_filterMap]
    exact List.filterMap_congr fun r _ => unitOn_placed? k r
  simp only [Plan.assemble, bind_eq_ok_iff, Plan.targets_eq_ok_iff, Except.ok.injEq]
  constructor
  · rintro ⟨_, ⟨hrs, rfl⟩, payloads', hpayloads', rfl⟩
    obtain rfl := Except.ok.inj (hpayloads.symm.trans hpayloads')
    exact ⟨hrs, by rw [hunits]⟩
  · rintro ⟨hrs, rfl⟩
    exact ⟨_, ⟨hrs, rfl⟩, payloads, hpayloads, by rw [hunits]⟩

/-- Requirements that all name a target get exactly this plan: in their order, and for each kind
from the suites that they declare of it, the units of those that choose a build and keep a suite. -/
theorem assemble_eq_contents (h : ∀ r ∈ rs, r.Valid) :
    Plan.assemble settings rs builds p = .ok
      { hw := rs.filterMap fun r => r.unitOf? settings builds p rs (r.hw.getD [])
        vm := rs.filterMap fun r => r.unitOf? settings builds p rs (r.vm.getD [])
        tastVm := rs.filterMap fun r => r.unitOf? settings builds p rs (r.tastVm.getD [])
        moblabVm := rs.filterMap fun r => r.unitOf? settings builds p rs (r.moblabVm.getD []) } :=
  assemble_eq_ok_iff.2 ⟨h, rfl⟩

end Assembly

namespace Sample

def artifacts (builder : String) : Artifacts :=
  ⟨"gs://images", builder ++ "/R80", Dict.ofList [("TAST_FILES", ["tast.tar"])]⟩

def build (target builder : String) : Build :=
  ⟨builder, some target, .success, true, false, some (artifacts builder)⟩

def hw (name : String) (groups : List String) : Suite .hw :=
  ⟨⟨name, none, false, groups⟩, .hw "eve" name .tast⟩

def vm (name : String) (groups : List String) : Suite .vm :=
  ⟨⟨name, none, false, groups⟩, .vm name⟩

def tastVm (name : String) (groups : List String) : Suite .tastVm :=
  ⟨⟨name, none, false, groups⟩, .tastVm name ["smoke"]⟩

def moblabVm (name : String) (groups : List String) : Suite .moblabVm :=
  ⟨⟨name, none, false, groups⟩, .moblabVm name⟩

def requirement (target : String) (suites : List (Suite .hw)) : Requirement :=
  ⟨some ⟨target, none⟩, some suites, none, none, none⟩

def allKinds (target : String) (hw : List (Suite .hw)) (vm : List (Suite .vm))
    (tastVm : List (Suite .tastVm)) (moblabVm : List (Suite .moblabVm)) : Requirement :=
  ⟨some ⟨target, none⟩, some hw, some vm, some tastVm, some moblabVm⟩

def oneof (group : String) : Pruning :=
  { Pruning.none with oneofGroups := Names.ofList [group] }

def settled {k : SuiteKind} (critical : Bool) (s : Suite k) : Suite k :=
  { s with common := { s.common with critical := some critical } }

def autotest (name : String) (groups : List String) : Suite .hw :=
  { hw name groups with detail := .hw "eve" name .autotest }

def hwOnCoral (name : String) (groups : List String) : Suite .hw :=
  { hw name groups with detail := .hw "coral" name .tast }

/-- The groups are led by `e`, which is critical, by `j`, whose build is critical, by `g` on the
board that comes first, by `a` for its name, and by the virtual machine `v`, also for its name. -/
def contested : List Requirement :=
  [allKinds "eve"
      [hw "b" ["name"], hw "c" ["cq"], settled false (hw "d" ["critical"]), hw "f" ["board"],
        settled false (hw "j" ["build"])]
      [vm "v" ["virtual"]] [tastVm "t" ["smoke"]] [moblabVm "m" ["cq"]],
    allKinds "coral"
      [hw "a" ["name", "virtual"], hw "e" ["critical"], autotest "h" [], hwOnCoral "g" ["board"]]
      [vm "x" []] [tastVm "w" ["virtual"]] [],
    requirement "sarien" [hw "i" ["build"]]]

def groupRules : Pruning :=
  { Pruning.none with
    oneofGroups := Names.ofList ["board", "build", "critical", "name", "virtual"]
    onlyGroups := Names.ofList ["cq"]
    alsoGroups := Names.ofList ["smoke"] }

def tastOnCoral : Pruning :=
  { Pruning.none with disableNonTast := true, onlyTargets := Names.ofList ["coral"] }

def source (target builder : String) : UnitSource :=
  ⟨target, builder, artifacts builder⟩

def allSucceeded : List Build :=
  [build "eve" "eve-cq", build "coral" "coral-cq",
    { build "sarien" "sarien-cq" with critical := false }]

/-- Of the builds for `eve` only the last can be tested, that for `coral` is not critical, and
there is none for `sarien`. -/
def unusableFirst : List Build :=
  [{ build "eve" "eve-cq" with status := .failure },
    { build "eve" "eve-cq" with pointless := true },
    { build "eve" "eve-cq" with artifacts := none },
    { build "eve" "eve-cq" with artifacts := some { artifacts "eve-cq" with files := ∅ } },
    { build "coral" "coral-cq" with critical := false }, build "eve" "eve-full"]

end Sample

open Sample in
/-- Group rules choose among suites of all kinds. Without them those are left that pruning spares,
on the first builds that can be tested. -/
theorem assemble_three_targets :
    (∀ r ∈ contested, r.Valid) ∧
    Plan.assemble Settings.standard contested allSucceeded groupRules = .ok
      { hw :=
          [⟨source "eve" "eve-cq",
              [settled true (hw "c" ["cq"]), settled false (hw "j" ["build"])]⟩,
            ⟨source "coral" "coral-cq", [settled true (hw "a" ["name", "virtual"]),
              settled true (hw "e" ["critical"]), settled true (hwOnCoral "g" ["board"])]⟩]
        vm := [⟨source "eve" "eve-cq", [settled true (vm "v" ["virtual"])]⟩]
        tastVm := [⟨source "eve" "eve-cq", [settled true (tastVm "t" ["smoke"])]⟩]
        moblabVm := [⟨source "eve" "eve-cq", [settled true (moblabVm "m" ["cq"])]⟩] } ∧
    Plan.assemble Settings.standard contested unusableFirst tastOnCoral = .ok
      { hw :=
          [⟨source "coral" "coral-cq", [settled false (hw "a" ["name", "virtual"]),
            settled false (hw "e" ["critical"]), settled false (hwOnCoral "g" ["board"])]⟩]
        vm := []
        tastVm :=
          [⟨source "eve" "eve-full", [settled true (tastVm "t" ["smoke"])]⟩,
            ⟨source "coral" "coral-cq", [settled false (tastVm "w" ["virtual"])]⟩]
        moblabVm := [] } :=
  ⟨by decide, (assemble_eq_contents (by decide)).trans (by decide),
    (assemble_eq_contents (by decide)).trans (by decide)⟩

end Presubmit
