/-!
# Elevation

A peer is known by its user and group.  An `AdminPolicy` says which peers are elevated, and these get a
`Token`, which they keep as long as their session lives.
-/

namespace TunnelControl

/-- the user and group of a peer that is elevated -/
structure Token where
  uid : UInt32
  gid : UInt32
  deriving DecidableEq, Repr

structure AdminPolicy where
  uids : List UInt32 := []
  gids : List UInt32 := []
  allowRoot : Bool := true
  deriving Repr

namespace AdminPolicy

def withUid (p : AdminPolicy) (uid : UInt32) : AdminPolicy := { p with uids := uid :: p.uids }

def withGid (p : AdminPolicy) (gid : UInt32) : AdminPolicy := { p with gids := gid :: p.gids }

def withRoot (p : AdminPolicy) (allow : Bool) : AdminPolicy :=
  { p with allowRoot := allow }

def elevates (p : AdminPolicy) (uid gid : UInt32) : Bool :=
  (p.allowRoot && uid == 0) || p.uids.contains uid || p.gids.contains gid

def grant (p : AdminPolicy) (uid gid : UInt32) : Option Token :=
  if p.elevates uid gid then some ⟨uid, gid⟩ else none

/-- the policy that elevates the users and groups of two lists, one after the other -/
def ofLists (allowRoot : Bool) (uids gids : List UInt32) : AdminPolicy :=
  gids.foldl withGid (uids.foldl withUid (withRoot { } allowRoot))

theorem grant_eq_some_iff {p : AdminPolicy} {uid gid : UInt32} {t : Token} :
    p.grant uid gid = some t ↔ p.elevates uid gid ∧ t = ⟨uid, gid⟩ := by
  unfold grant
  split <;> rename_i h
  · exact ⟨fun ht => ⟨h, (Option.some.inj ht).symm⟩, fun ht => by rw [ht.2]⟩
  · exact ⟨(nomatch ·), fun ht => absurd ht.1 h⟩

end AdminPolicy

end TunnelControl
