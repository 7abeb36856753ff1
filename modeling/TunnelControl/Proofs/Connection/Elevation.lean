import TunnelControl.Settings.Basic

/-!
# Who is elevated

A policy is built by steps, each of which names a user or a group or says whether root is elevated.  Only the names
and the last word on root count.

* `AdminPolicy.build steps`       the policy that some steps build;
* `SameChoice steps others`       the same users and groups, in any order and number, and the same last word on root;
* `elevates_build_iff`            who is elevated, told of the steps;
* `elevates_listed`               the policy of the settings elevates those who are listed; the order of steps does not
  matter, and a further name elevates more.
-/

namespace TunnelControl

inductive PolicyStep
  | root (allow : Bool)
  | uid (uid : UInt32)
  | gid (gid : UInt32)

namespace PolicyStep

/-- what a step says of root -/
def root? : PolicyStep → Option Bool
  | root allow => some allow
  | _ => none

/-- the last word on root, which is elevated if there is none -/
def lastRoot (steps : List PolicyStep) : Bool := (steps.filterMap root?).getLast?.getD true

end PolicyStep

open PolicyStep (lastRoot)

/-- steps that name the same users and groups, and have the same last word on root -/
structure SameChoice (steps others : List PolicyStep) : Prop where
  uids (uid : UInt32) : .uid uid ∈ steps ↔ .uid uid ∈ others
  gids (gid : UInt32) : .gid gid ∈ steps ↔ .gid gid ∈ others
  root : lastRoot steps = lastRoot others

namespace AdminPolicy

def after (p : AdminPolicy) : PolicyStep → AdminPolicy
  | .root allow => p.withRoot allow
  | .uid uid => p.withUid uid
  | .gid gid => p.withGid gid

def build (steps : List PolicyStep) : AdminPolicy := steps.foldl after {}

/-! ## what steps leave behind -/

theorem mem_uids_foldl (steps : List PolicyStep) (p : AdminPolicy) (uid : UInt32) :
    uid ∈ (steps.foldl after p).uids ↔ uid ∈ p.uids ∨ .uid uid ∈ steps := by
  induction steps generalizing p with
  | nil => simp
  | cons step steps ih =>
    rw [List.foldl_cons, ih, List.mem_cons]
    cases step with
    | root allow => simp [after, withRoot]
    | uid other =>
      show uid ∈ other :: p.uids ∨ _ ↔ _
      rw [List.mem_cons, PolicyStep.uid.injEq, or_left_comm, ← or_assoc]
    | gid other => simp [after, withGid]

theorem mem_gids_foldl (steps : List PolicyStep) (p : AdminPolicy) (gid : UInt32) :
    gid ∈ (steps.foldl after p).gids ↔ gid ∈ p.gids ∨ .gid gid ∈ steps := by
  induction steps generalizing p with
  | nil => simp
  | cons step steps ih =>
    rw [List.foldl_cons, ih, List.mem_cons]
    cases step with
    | root allow => simp [after, withRoot]
    | uid other => simp [after, withUid]
    | gid other =>
      show gid ∈ other :: p.gids ∨ _ ↔ _
      rw [List.mem_cons, PolicyStep.gid.injEq, or_left_comm, ← or_assoc]

theorem allowRoot_foldl (steps : List PolicyStep) (p : AdminPolicy) :
    (steps.foldl after p).allowRoot = (steps.filterMap PolicyStep.root?).getLast?.getD p.allowRoot := by
  induction steps generalizing p with
  | nil => rfl
  | cons step steps ih =>
    rw [List.foldl_cons, ih]
    cases step with
    | root allow =>
      have hroot : (PolicyStep.root allow :: steps).filterMap PolicyStep.root? =
          allow :: steps.filterMap PolicyStep.root? := rfl
      rw [hroot, List.getLast?_cons]
      rfl
    | uid other => rfl
    | gid other => rfl

/-! ## who is elevated -/

theorem elevates_iff {p : AdminPolicy} {uid gid : UInt32} :
    p.elevates uid gid ↔ (p.allowRoot = true ∧ uid = 0) ∨ uid ∈ p.uids ∨ gid ∈ p.gids := by
  simp [elevates, or_assoc]

theorem elevates_build_iff {steps : List PolicyStep} {uid gid : UInt32} :
    (build steps).elevates uid gid ↔ (lastRoot steps = true ∧ uid = 0) ∨ .uid uid ∈ steps ∨ .gid gid ∈ steps := by
  have huids : uid ∈ (build steps).uids ↔ .uid uid ∈ steps := (mem_uids_foldl steps {} uid).trans (by simp)
  have hgids : gid ∈ (build steps).gids ↔ .gid gid ∈ steps := (mem_gids_foldl steps {} gid).trans (by simp)
  have hroot : (build steps).allowRoot = lastRoot steps := allowRoot_foldl steps {}
  rw [elevates_iff, huids, hgids, hroot]

theorem grant_eq_ite {p : AdminPolicy} {uid gid : UInt32} {listed : Prop} [Decidable listed]
    (h : p.elevates uid gid ↔ listed) : p.grant uid gid = if listed then some ⟨uid, gid⟩ else none := by
  rw [grant]
  exact ite_congr (propext h) (fun _ => rfl) (fun _ => rfl)

theorem grant_build_congr {steps others : List PolicyStep} (h : SameChoice steps others) (uid gid : UInt32) :
    (build steps).grant uid gid = (build others).grant uid gid := by
  refine grant_eq_ite ?_
  rw [elevates_build_iff, elevates_build_iff, h.uids, h.gids, h.root]

/-- a further name has no say on root -/
theorem lastRoot_insert {step : PolicyStep} (hstep : step.root? = none) (before later : List PolicyStep) :
    lastRoot (before ++ step :: later) = lastRoot (before ++ later) := by
  simp only [lastRoot, List.filterMap_append, List.filterMap_cons, hstep]

theorem elevates_insert {before later : List PolicyStep} {step : PolicyStep} (hstep : step.root? = none)
    {uid gid : UInt32} (h : (build (before ++ later)).elevates uid gid) : (build (before ++ step :: later)).elevates uid gid := by
  rw [elevates_build_iff] at h ⊢
  rw [lastRoot_insert hstep]
  have hmem {other : PolicyStep} (hother : other ∈ before ++ later) : other ∈ before ++ step :: later := by
    rw [List.mem_append] at hother ⊢
    exact hother.imp_right (List.mem_cons_of_mem step)
  exact h.imp_right (.imp hmem hmem)

end AdminPolicy

/-! ## the policy of the settings -/

namespace ManagerSettings

/-- the word of the settings on root, and the users and groups that they list -/
def policySteps (m : ManagerSettings) : List PolicyStep :=
  .root m.allowRoot :: (m.adminUids.map .uid ++ m.adminGids.map .gid)

theorem adminPolicy_eq_build (m : ManagerSettings) : m.adminPolicy = .build m.policySteps := by
  rw [AdminPolicy.build, policySteps, List.foldl_cons, List.foldl_append, List.foldl_map, List.foldl_map]
  rfl

theorem lastRoot_policySteps (m : ManagerSettings) : lastRoot m.policySteps = m.allowRoot := by
  have hnames : (m.adminUids.map PolicyStep.uid ++ m.adminGids.map PolicyStep.gid).filterMap PolicyStep.root? = [] := by
    rw [List.filterMap_append, List.filterMap_map, List.filterMap_map]
    simp [Function.comp_def, PolicyStep.root?]
  have hroot : m.policySteps.filterMap PolicyStep.root? = [m.allowRoot] := congrArg (m.allowRoot :: ·) hnames
  rw [lastRoot, hroot]
  rfl

theorem elevates_adminPolicy_iff {m : ManagerSettings} {uid gid : UInt32} :
    m.adminPolicy.elevates uid gid ↔ (m.allowRoot = true ∧ uid = 0) ∨ uid ∈ m.adminUids ∨ gid ∈ m.adminGids := by
  rw [adminPolicy_eq_build, AdminPolicy.elevates_build_iff, lastRoot_policySteps]
  simp [policySteps]

/-- settings that list at least the users and groups of others, with the same word on root -/
structure ListsMore (m n : ManagerSettings) : Prop where
  root : m.allowRoot = n.allowRoot
  uids : n.adminUids ⊆ m.adminUids
  gids : n.adminGids ⊆ m.adminGids

end ManagerSettings

/-- whom policies elevate -/
structure ElevatesListed : Prop where
  /-- the settings list users and groups, and have a word on root -/
  settings (m : ManagerSettings) (uid gid : UInt32) : m.adminPolicy.grant uid gid =
    if (m.allowRoot = true ∧ uid = 0) ∨ uid ∈ m.adminUids ∨ gid ∈ m.adminGids then some ⟨uid, gid⟩ else none
  /-- how a policy is built does not matter -/
  anyOrder {steps others : List PolicyStep} (h : SameChoice steps others) (uid gid : UInt32) :
    (AdminPolicy.build steps).grant uid gid = (AdminPolicy.build others).grant uid gid
  /-- the policy of the settings is one of those with its choice -/
  asSettings (m : ManagerSettings) {steps : List PolicyStep} (h : SameChoice steps m.policySteps) (uid gid : UInt32) :
    (AdminPolicy.build steps).grant uid gid = m.adminPolicy.grant uid gid
  /-- a further name, wherever it is given, takes nothing away -/
  further {before later : List PolicyStep} {step : PolicyStep} (hstep : step.root? = none) {uid gid : UInt32}
    {token : Token} (h : (AdminPolicy.build (before ++ later)).grant uid gid = some token) :
    (AdminPolicy.build (before ++ step :: later)).grant uid gid = some token
  /-- nor does a further name in the settings -/
  listsMore {m n : ManagerSettings} (h : m.ListsMore n) {uid gid : UInt32} {token : Token}
    (hgrant : n.adminPolicy.grant uid gid = some token) : m.adminPolicy.grant uid gid = some token

open AdminPolicy in
/-- **Those who are listed are elevated, and nobody else.** -/
theorem elevates_listed : ElevatesListed where
  settings _ _ _ := grant_eq_ite ManagerSettings.elevates_adminPolicy_iff
  anyOrder h := grant_build_congr h
  asSettings m _ h uid gid := by
    rw [ManagerSettings.adminPolicy_eq_build]
    exact grant_build_congr h uid gid
  further hstep _ _ _ h := by
    rw [grant_eq_some_iff] at h ⊢
    exact ⟨elevates_insert hstep h.1, h.2⟩
  listsMore {m n} h _ _ _ hgrant := by
    rw [grant_eq_some_iff] at hgrant ⊢
    refine ⟨?_, hgrant.2⟩
    have hlisted := ManagerSettings.elevates_adminPolicy_iff.mp hgrant.1
    rw [ManagerSettings.elevates_adminPolicy_iff, h.root]
    exact hlisted.imp_right (.imp (@h.uids _) (@h.gids _))

/-- a user is named twice, and a word on root is taken back -/
theorem elevates_listed_reordered :
    SameChoice [.uid 5, .root false, .gid 27, .uid 5] [.root true, .gid 27, .uid 5, .root false] ∧
      (AdminPolicy.build [.uid 5, .root false, .gid 27, .uid 5]).grant 5 0 = some ⟨5, 0⟩ ∧
      (AdminPolicy.build [.root true, .gid 27, .uid 5, .root false]).grant 5 0 = some ⟨5, 0⟩ := by
  have hsame : SameChoice [.uid 5, .root false, .gid 27, .uid 5] [.root true, .gid 27, .uid 5, .root false] :=
    ⟨by simp, by simp, rfl⟩
  refine ⟨hsame, by decide, ?_⟩
  rw [← elevates_listed.anyOrder hsame]
  decide

end TunnelControl
