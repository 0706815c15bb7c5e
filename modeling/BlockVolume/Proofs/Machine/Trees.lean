import BlockVolume.Machine.FileTree

namespace BlockVolume.FileTree

variable {t u v : FileTree} {place : Place}

theorem bind_ok {ε α β : Type} {x : Except ε α} {f : α → Except ε β} {b : β}
    (h : x >>= f = .ok b) : ∃ a, x = .ok a ∧ f a = .ok b := by
  cases x with
  | error e => cases h
  | ok a => exact ⟨a, rfl, h⟩

theorem lookup_filter_ne {place q : Place} (h : q ≠ place) (nodes : List (Place × FileNode)) :
    (nodes.filter (·.1 ≠ place)).lookup q = nodes.lookup q := by
  induction nodes with
  | nil => rfl
  | cons x rest ih =>
      obtain ⟨there, n⟩ := x
      by_cases hx : there = place
      · have hq : (q == there) = false := beq_false_of_ne (hx ▸ h)
        rw [List.filter_cons_of_neg (by simp [hx]), ih, List.lookup_cons, hq]
      · rw [List.filter_cons_of_pos (by simp [hx]), List.lookup_cons, List.lookup_cons, ih]

theorem node?_put (t : FileTree) (place q : Place) (node : FileNode) :
    (t.put place node).node? q = if q = place then some node else t.node? q := by
  unfold put node?
  rw [List.lookup_cons]
  split
  · next h => rw [if_pos (by simpa using h)]
  · next h =>
      have hne : q ≠ place := by simpa using h
      rw [if_neg hne, lookup_filter_ne hne]

theorem node_of_walkWith {mode : LastLink} {onLink : Place → List String → Except Errno Spot}
    {name : String} {dir : Place} {node : Option FileNode} {slash : Bool}
    (hlink : ∀ start pieces, onLink start pieces = .ok (.entry dir name node slash) →
      node = t.node? (dir ++ [name])) {start : Place} {pieces : List String}
    (h : walkWith t mode onLink start pieces = .ok (.entry dir name node slash)) :
    node = t.node? (dir ++ [name]) := by
  -- a walk ends at an entry only where it has just looked that entry up
  induction pieces generalizing start with
  | nil => cases h
  | cons piece rest ih =>
      simp only [walkWith] at h
      split at h
      · exact ih h
      split at h
      · split at h
        · cases h
        · exact ih h
      split at h
      · split at h
        · cases h
        · exact ih h
      split at h
      · cases h
      split at h
      · next hnode =>
          split at h
          · cases h
            exact hnode.symm
          · cases h
      · next hnode =>
          split at h
          · cases h
            exact hnode.symm
          · exact ih h
      · next content hnode =>
          split at h
          · cases h
            exact hnode.symm
          · cases h
      · next target hnode =>
          split at h
          · cases h
            exact hnode.symm
          · exact hlink _ _ h

theorem node_of_walk {mode : LastLink} {links : Nat} {start dir : Place} {pieces : List String}
    {name : String} {node : Option FileNode} {slash : Bool}
    (h : walk t mode links start pieces = .ok (.entry dir name node slash)) :
    node = t.node? (dir ++ [name]) := by
  induction links generalizing start pieces with
  | zero =>
      rw [walk] at h
      refine node_of_walkWith (fun _ _ hlink => ?_) h
      cases hlink
  | succ links ih => exact node_of_walkWith (fun _ _ => ih) h

theorem node_of_locate {mode : LastLink} {p : Path} {dir : Place} {name : String}
    {node : Option FileNode} {slash : Bool}
    (h : t.locate mode p = .ok (.entry dir name node slash)) :
    node = t.node? (dir ++ [name]) := by
  unfold locate at h
  split at h
  · cases h
  split at h
  · cases h
  split at h
  · cases h
  cases hwalk : walk t mode maxLinks (origin t.workingDirectory p.text) (pieces p.text) with
  | error e =>
      rw [hwalk] at h
      cases h
  | ok spot =>
      rw [hwalk] at h
      cases h
      exact node_of_walk hwalk

/-- Nothing is lost, and what is new is a directory. -/
def MoreDirectories (t u : FileTree) : Prop :=
  ∀ place, u.node? place = t.node? place ∨
    t.node? place = none ∧ u.node? place = some .directory

theorem MoreDirectories.refl (t : FileTree) : MoreDirectories t t := fun _ => .inl rfl

theorem MoreDirectories.trans (htu : MoreDirectories t u) (huv : MoreDirectories u v) :
    MoreDirectories t v := by
  intro place
  rcases htu place with hu | ⟨ht, hu⟩
  · rcases huv place with hv | ⟨hnone, hv⟩
    · exact .inl (hv.trans hu)
    · exact .inr ⟨hu.symm.trans hnone, hv⟩
  · rcases huv place with hv | ⟨hnone, -⟩
    · exact .inr ⟨ht, hv.trans hu⟩
    · cases hu.symm.trans hnone

theorem makeDirectory_more {p : Path} (h : t.makeDirectory p = .ok u) : MoreDirectories t u := by
  obtain ⟨spot, hspot, hu⟩ := bind_ok h
  split at hu
  · cases hu
    have hnone := node_of_locate hspot
    intro place
    rw [node?_put]
    split
    · next hplace => exact .inr ⟨by rw [hplace, ← hnone], rfl⟩
    · exact .inl rfl
  · cases hu

theorem ensureDirectory_more (t : FileTree) (p : Path) :
    MoreDirectories t (t.ensureDirectory p).2 := by
  unfold ensureDirectory
  split
  · next u h => exact makeDirectory_more h
  · split <;> exact .refl t

theorem makeUpTo_more (t : FileTree) (ps : List Path) : MoreDirectories t (t.makeUpTo ps).2 := by
  induction ps with
  | nil => exact .refl t
  | cons p above ih =>
      simp only [makeUpTo]
      split
      · next u h => exact makeDirectory_more h
      · split
        · split <;> exact .refl t
        · split
          · next u h =>
              rw [h] at ih
              exact ih.trans (ensureDirectory_more u p)
          · next e u h =>
              rw [h] at ih
              exact ih

theorem makeDirectories_more (t : FileTree) (p : Path) :
    MoreDirectories t (t.makeDirectories p).2 := by
  unfold makeDirectories
  split
  · exact .refl t
  · exact makeUpTo_more t _

theorem node_of_openForWriting {p : Path} {content : Option (List UInt8)}
    (h : t.openForWriting p = .ok (place, content)) : t.node? place = content.map .file := by
  obtain ⟨spot, hspot, hplace⟩ := bind_ok h
  split at hplace
  · cases hplace
    exact (node_of_locate hspot).symm
  · cases hplace
    exact (node_of_locate hspot).symm
  · cases hplace

def SameDirectories (t u : FileTree) : Prop :=
  ∀ place, u.node? place = some .directory ↔ t.node? place = some .directory

theorem SameDirectories.refl (t : FileTree) : SameDirectories t t := fun _ => Iff.rfl

theorem SameDirectories.trans (htu : SameDirectories t u) (huv : SameDirectories u v) :
    SameDirectories t v :=
  fun place => (huv place).trans (htu place)

theorem sameDirectories_put (h : t.node? place ≠ some .directory) (content : List UInt8) :
    SameDirectories t (t.put place (.file content)) := by
  intro q
  rw [node?_put]
  split
  · next hq =>
      subst hq
      exact iff_of_false nofun h
  · exact Iff.rfl

theorem not_directory_of_openForWriting {p : Path} {content : Option (List UInt8)}
    (h : t.openForWriting p = .ok (place, content)) : t.node? place ≠ some .directory := by
  rw [node_of_openForWriting h]
  cases content <;> simp

theorem writeFile_same {p : Path} {content : List UInt8} (h : t.writeFile p content = .ok u) :
    SameDirectories t u := by
  obtain ⟨⟨place, before⟩, hplace, hu⟩ := bind_ok h
  cases hu
  exact sameDirectories_put (not_directory_of_openForWriting hplace) content

theorem touch_cases {p : Path} (h : t.touch p = .ok (place, u)) :
    u = t ∨ t.openForWriting p = .ok (place, none) ∧ u = t.put place (.file []) := by
  obtain ⟨⟨place, before⟩, hplace, hu⟩ := bind_ok h
  cases before with
  | none =>
      cases hu
      exact .inr ⟨hplace, rfl⟩
  | some content =>
      cases hu
      exact .inl rfl

theorem append_same (t : FileTree) (place : Place) (more : List UInt8) :
    SameDirectories t (t.append place more) := by
  unfold append
  split
  · next content h => exact sameDirectories_put (by simp [h]) _
  · exact .refl t

end BlockVolume.FileTree
